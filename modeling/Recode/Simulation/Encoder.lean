import Recode.Device.Codec
import Recode.Picture.Image
import Recode.Simulation.Log
import Recode.Simulation.Slots

/-!
An encoder that puts out its configuration and then one sample for every frame, in the order in
which the frames came, whether they come through its input surface or as raw buffers.
-/

namespace Recode.Simulation
open Recode.Media Recode.Device Recode.Picture

/-- The configuration buffer: two parameter sets, each behind a start code. -/
def simulatedConfiguration : Bytes :=
  #[0, 0, 0, 1, 0x67, 0x42, 0x80, 0x1e, 0, 0, 0, 1, 0x68, 0xce, 0x3c, 0x80]

/-- The low `count` bytes of a number, the highest first. -/
def bigEndian (count : Nat) (value : Int) : Bytes :=
  Array.ofFn (n := count) fun i => UInt8.ofNat ((value >>> (8 * (count - 1 - i.val))) % 256).toNat

inductive EncoderInput where
  | frame (time : Int)
  | endOfStream
  deriving DecidableEq, Repr, Inhabited

structure Encoder where
  name : String
  faults : CodecFaults
  format : Option Format := none
  queue : List EncoderInput := []
  slots : Slots := {}
  inFlight : List (Nat × Bytes) := []
  nextOutput : Nat := 0
  inputTryAgain : Nat
  outputTryAgain : Nat
  configSent : Bool := false
  hasSurface : Bool := false
  started : Bool := false
  released : Bool := false
  deriving DecidableEq, Repr, Inhabited

structure Surface where
  width : Nat
  height : Nat
  nanoseconds : Int := 0
  released : Bool := false
  deriving DecidableEq, Repr, Inhabited

namespace Encoder

def new (name : String) (faults : CodecFaults) : Encoder :=
  { name, faults
    inputTryAgain := faults.encoderInputTryAgain
    outputTryAgain := faults.encoderOutputTryAgain }

def isRunning (encoder : Encoder) : Bool := encoder.started && !encoder.released

def whenRunning {α : Type} (encoder : Encoder) (act : Except Error α × Encoder) :
    Except Error α × Encoder :=
  if encoder.isRunning then act else (.error CodecError.notStarted, encoder)

def inputSlots : Nat := 4

/-- Room for a raw frame under any alignment of its rows. -/
def inputCapacity (width height : Nat) : Nat := width * (height + 16) * 2 + 4096

def configure (encoder : Encoder) (format : Format) (log : Log) :
    Except Error Unit × Encoder × Log :=
  match format.width, format.height with
  | some width, some height =>
      if format.colorFormat.isNone || format.bitrate.isNone then
        (.error (CodecError.config "encoder format lacks color format or bitrate"), encoder, log)
      else
        let slots := Slots.new inputSlots (inputCapacity width height)
        (.ok (), { encoder with slots, format := some format },
          { log with encoderFormat := some format })
  | _, _ => (.error (CodecError.config "encoder format lacks dimensions"), encoder, log)

def start (encoder : Encoder) : Except Error Unit × Encoder :=
  if encoder.format.isSome then (.ok (), { encoder with started := true })
  else (.error (CodecError.config "encoder started before configure"), encoder)

def stop (encoder : Encoder) : Encoder := { encoder with started := false }

def release (encoder : Encoder) (log : Log) : Encoder × Log :=
  if encoder.released then (encoder, log) else
    ({ encoder with released := true }, { log with encodersReleased := log.encodersReleased + 1 })

def createSurface (encoder : Encoder) : Except Error Surface × Encoder :=
  match encoder.format with
  | none => (.error (CodecError.surface "input surface requested before configure"), encoder)
  | some format =>
      if encoder.started then
        (.error (CodecError.surface "input surface requested after start"), encoder)
      else
        (.ok { width := format.width.getD 0, height := format.height.getD 0 },
          { encoder with hasSurface := true })

def dequeueInput (encoder : Encoder) : Except Error (Option Nat) × Encoder :=
  encoder.whenRunning <|
    if encoder.hasSurface then (.error (CodecError.other "encoder uses surface input"), encoder)
    else if 0 < encoder.inputTryAgain then
      (.error CodecError.tryAgain, { encoder with inputTryAgain := encoder.inputTryAgain - 1 })
    else
      let (slot, slots) := encoder.slots.lend
      (.ok slot, { encoder with slots })

def inputBuffer (encoder : Encoder) (slot : Nat) : Except Error Bytes :=
  if encoder.isRunning then encoder.slots.buffer slot else .error CodecError.notStarted

def enqueueEnd (encoder : Encoder) (log : Log) : Encoder × Log :=
  ({ encoder with queue := encoder.queue ++ [.endOfStream] },
    { log with encoderEndOfStream := true })

def enqueueFrame (encoder : Encoder) (time : Int) (log : Log) : Encoder × Log :=
  ({ encoder with queue := encoder.queue ++ [.frame time] },
    { log with encoderFrames := log.encoderFrames ++ [time] })

def queueInput (encoder : Encoder) (slot : Nat) (written : Bytes) (info : SampleInfo)
    (log : Log) : Except Error Unit × Encoder × Log :=
  if encoder.isRunning then
    match encoder.slots.giveBack slot written info.size with
    | (.ok (), slots) =>
        let encoder := { encoder with slots }
        if info.flags.isEndOfStream then (.ok (), encoder.enqueueEnd log)
        else
          (.ok (), encoder.enqueueFrame info.time
            { log with rawInputSizes := log.rawInputSizes ++ [info.size] })
    | (.error error, _) => (.error error, encoder, log)
  else (.error CodecError.notStarted, encoder, log)

def signalEnd (encoder : Encoder) (log : Log) : Except Error Unit × Encoder × Log :=
  if encoder.isRunning then
    if encoder.hasSurface then (.ok (), encoder.enqueueEnd log)
    else (.error (CodecError.other "encoder has no input surface"), encoder, log)
  else (.error CodecError.notStarted, encoder, log)

def emit (encoder : Encoder) (data : Bytes) (time : Int) (flags : Flags) :
    OutputStatus × Encoder :=
  let index := encoder.nextOutput
  (.buffer index ⟨data.size, 0, time, flags⟩, { encoder with
    nextOutput := index + 1, inFlight := (index, data) :: encoder.inFlight })

def sampleData (isKey : Bool) (time : Int) : Bytes :=
  #[0, 0, 0, 1, if isKey then 0x65 else 0x41] ++ bigEndian 8 time

/-- The configuration comes first, as a buffer or as a change of the format. -/
def emitConfiguration (encoder : Encoder) : OutputStatus × Encoder :=
  let encoder := { encoder with configSent := true }
  if encoder.faults.formatChangeFirst then
    (.formatChanged ((encoder.format.getD { mime := videoAvc }).withParameterSets
      (simulatedConfiguration.extract 0 8) (simulatedConfiguration.extract 8 16)), encoder)
  else encoder.emit simulatedConfiguration 0 .codecConfig

def emitNext (encoder : Encoder) : OutputStatus × Encoder :=
  match encoder.queue with
  | [] => (.tryAgainLater, encoder)
  | .frame time :: queue =>
      let isKey := encoder.nextOutput ≤ 1
      { encoder with queue }.emit (sampleData isKey time) time (if isKey then .keyFrame else .none)
  | .endOfStream :: queue => { encoder with queue }.emit #[] 0 .endOfStream

def dequeueOutput (encoder : Encoder) : Except Error OutputStatus × Encoder :=
  encoder.whenRunning <|
    if encoder.faults.failEncoderAfter.any (· ≤ encoder.nextOutput) then
      (.error (CodecError.unexpectedStatus "encoder" (-1000)), encoder)
    else if 0 < encoder.outputTryAgain then
      (.error CodecError.tryAgain, { encoder with outputTryAgain := encoder.outputTryAgain - 1 })
    else
      let (status, encoder) :=
        if encoder.configSent then encoder.emitNext else encoder.emitConfiguration
      (.ok status, encoder)

def outputBuffer (encoder : Encoder) (index : Nat) : Except Error Bytes :=
  match encoder.inFlight.find? (·.1 = index) with
  | some (_, data) => .ok data
  | none => .error (CodecError.missingBuffer "encoder" index)

def releaseOutput (encoder : Encoder) (index : Nat) : Except Error Unit × Encoder :=
  encoder.whenRunning <|
    match encoder.outputBuffer index with
    | .ok _ => (.ok (), { encoder with inFlight := encoder.inFlight.filter (·.1 ≠ index) })
    | .error error => (.error error, encoder)

end Encoder

namespace Surface

def presentAt (surface : Surface) (nanoseconds : Int) : Surface := { surface with nanoseconds }

def swap (surface : Surface) (encoder : Encoder) (frame : Frame) (log : Log) :
    Except Error Unit × Encoder × Log :=
  if surface.released then (.error (CodecError.surface "surface already released"), encoder, log)
  else if frame.width = surface.width ∧ frame.height = surface.height then
    (.ok (), encoder.enqueueFrame (surface.nanoseconds.tdiv 1000)
      { log with lastSurfaceFrame := some (frame.width, frame.height) })
  else
    (.error (CodecError.surface (s!"frame is {frame.width}x{frame.height}, "
      ++ s!"surface is {surface.width}x{surface.height}")), encoder, log)

def release (surface : Surface) (log : Log) : Surface × Log :=
  if surface.released then (surface, log) else
    ({ surface with released := true }, { log with surfacesReleased := log.surfacesReleased + 1 })

end Surface

end Recode.Simulation
