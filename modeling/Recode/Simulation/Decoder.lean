import Recode.Device.Codec
import Recode.Picture.Image
import Recode.Simulation.Log
import Recode.Simulation.Slots

/-!
A decoder that turns every sample into a test picture of the sample's time, in the order in which
the samples came.
-/

namespace Recode.Simulation
open Recode.Media Recode.Device Recode.Picture

structure Decoder where
  name : String
  faults : CodecFaults
  width : Nat := 0
  height : Nat := 0
  configured : Bool := false
  slots : Slots := {}
  pending : List (Int × Bool) := []
  /-- Outputs not yet released, with their times. -/
  inFlight : List (Nat × Int) := []
  nextOutput : Nat := 0
  polls : Nat := 0
  inputTryAgain : Nat
  outputTryAgain : Nat
  formatReported : Bool := false
  started : Bool := false
  released : Bool := false
  deriving DecidableEq, Repr, Inhabited

namespace Decoder

def new (name : String) (faults : CodecFaults) : Decoder :=
  { name, faults
    inputTryAgain := faults.decoderTryAgain
    outputTryAgain := faults.decoderTryAgain }

def isRunning (decoder : Decoder) : Bool := decoder.started && !decoder.released

def whenRunning {α : Type} (decoder : Decoder) (act : Except Error α × Decoder) :
    Except Error α × Decoder :=
  if decoder.isRunning then act else (.error CodecError.notStarted, decoder)

def inputSlots : Nat := 4
def defaultInputCapacity : Nat := 65536

def configure (decoder : Decoder) (format : Format) (log : Log) :
    Except Error Unit × Decoder × Log :=
  match format.width, format.height with
  | some width, some height =>
      let slots := Slots.new inputSlots (format.maxInputSize.getD defaultInputCapacity)
      (.ok (), { decoder with width, height, slots, configured := true },
        { log with decoderFormat := some format })
  | _, _ => (.error (CodecError.config "decoder format lacks dimensions"), decoder, log)

def start (decoder : Decoder) : Except Error Unit × Decoder :=
  if decoder.configured then (.ok (), { decoder with started := true })
  else (.error (CodecError.config "decoder started before configure"), decoder)

def stop (decoder : Decoder) : Decoder := { decoder with started := false }

def release (decoder : Decoder) (log : Log) : Decoder × Log :=
  if decoder.released then (decoder, log) else
    ({ decoder with released := true, configured := false },
      { log with decodersReleased := log.decodersReleased + 1 })

def dequeueInput (decoder : Decoder) : Except Error (Option Nat) × Decoder :=
  decoder.whenRunning <|
    if 0 < decoder.inputTryAgain then
      (.error CodecError.tryAgain, { decoder with inputTryAgain := decoder.inputTryAgain - 1 })
    else
      let (slot, slots) := decoder.slots.lend
      (.ok slot, { decoder with slots })

def inputBuffer (decoder : Decoder) (slot : Nat) : Except Error Bytes :=
  if decoder.isRunning then decoder.slots.buffer slot else .error CodecError.notStarted

def queueInput (decoder : Decoder) (slot : Nat) (written : Bytes) (info : SampleInfo)
    (log : Log) : Except Error Unit × Decoder × Log :=
  if decoder.isRunning then
    match decoder.slots.giveBack slot written info.size with
    | (.ok (), slots) =>
        let last := info.flags.isEndOfStream
        (.ok (), { decoder with slots, pending := decoder.pending ++ [(info.time, last)] },
          if last then log else { log with decoderInputs := log.decoderInputs + 1 })
    | (.error error, _) => (.error error, decoder, log)
  else (.error CodecError.notStarted, decoder, log)

def emit (decoder : Decoder) : OutputStatus × Decoder :=
  match decoder.pending with
  | [] => (.tryAgainLater, decoder)
  | (time, last) :: pending =>
      let index := decoder.nextOutput
      let info : SampleInfo :=
        if last then ⟨0, 0, 0, .endOfStream⟩
        else ⟨decoder.width * decoder.height * 3 / 2, 0, time, .none⟩
      (.buffer index info, { decoder with
        pending, nextOutput := index + 1, inFlight := (index, time) :: decoder.inFlight })

def dequeueOutput (decoder : Decoder) : Except Error OutputStatus × Decoder :=
  decoder.whenRunning <|
    if decoder.faults.failDecoderAfter.any (· ≤ decoder.nextOutput) then
      (.error (CodecError.unexpectedStatus "decoder" (-1000)), decoder)
    else if 0 < decoder.outputTryAgain then
      (.error CodecError.tryAgain, { decoder with outputTryAgain := decoder.outputTryAgain - 1 })
    else if !decoder.formatReported then
      (.ok (.formatChanged (.video "video/raw" decoder.width decoder.height)),
        { decoder with formatReported := true })
    else
      let decoder := { decoder with polls := decoder.polls + 1 }
      if decoder.faults.stutter && decoder.polls % 2 == 0 then (.ok .tryAgainLater, decoder)
      else
        let (status, decoder) := decoder.emit
        (.ok status, decoder)

/-- Takes an output back; to be rendered, it becomes a picture. -/
def releaseOutput (decoder : Decoder) (index : Nat) (render : Bool) :
    Except Error (Option Image) × Decoder :=
  decoder.whenRunning <|
    match decoder.inFlight.find? (·.1 = index) with
    | some (_, time) =>
        let image : Image :=
          ⟨decoder.width, decoder.height, time, testPattern decoder.width decoder.height time⟩
        (.ok (if render then some image else none),
          { decoder with inFlight := decoder.inFlight.filter (·.1 ≠ index) })
    | none => (.error (CodecError.missingBuffer "decoder" index), decoder)

end Decoder

end Recode.Simulation
