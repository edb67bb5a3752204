import Recode.Picture.Draw
import Recode.Simulation.Decoder
import Recode.Simulation.Encoder

/-!
Simulated codecs between two steps of a session. An idle codec runs, has lent out no buffer and will
not fail; what it answers then depends only on its counters and its queue.
-/

namespace Recode.Simulation
open Recode.Media Recode.Device Recode.Picture

namespace Slots

def Offers (slots : Slots) (slot : Nat) : Prop :=
  slot < slots.count ∧ ∃ rest, slots.free = slot :: rest ∧ slot ∉ rest

variable {slots : Slots} {slot : Nat}

theorem new_offers {count : Nat} (positive : 0 < count) (capacity : Nat) :
    (new count capacity).Offers 0 := by
  refine ⟨positive, ?_⟩
  obtain ⟨more, rfl⟩ := Nat.exists_eq_succ_of_ne_zero (Nat.ne_of_gt positive)
  refine ⟨(List.range more).map Nat.succ, List.range_succ_eq_map, ?_⟩
  simp

theorem Offers.lend (offers : slots.Offers slot) : slots.lend.1 = some slot := by
  obtain ⟨-, rest, free, -⟩ := offers
  simp only [Slots.lend, free]

theorem Offers.isLent (offers : slots.Offers slot) : slots.lend.2.isLent slot = true := by
  obtain ⟨inside, rest, free, absent⟩ := offers
  simp [Slots.isLent, Slots.lend, free, inside, absent]

theorem capacity_lend (slots : Slots) : slots.lend.2.capacity = slots.capacity := by
  unfold lend
  split <;> rfl

theorem content_lend (slots : Slots) (slot : Nat) :
    slots.lend.2.content slot = slots.content slot := by
  unfold lend
  split <;> rfl

theorem Offers.buffer (offers : slots.Offers slot) :
    slots.lend.2.buffer slot = .ok (slots.content slot) := by
  unfold Slots.buffer
  rw [if_pos offers.isLent, content_lend]

theorem Offers.write (offers : slots.Offers slot) (other : Nat) (written : Bytes) :
    (slots.write other written).Offers slot := offers

/-- Lending out and giving back changes nothing but what the slot holds. -/
theorem Offers.giveBack (offers : slots.Offers slot) (written : Bytes) {size : Nat}
    (fits : size ≤ slots.capacity) :
    slots.lend.2.giveBack slot written size = (.ok (), slots.write slot written) := by
  unfold Slots.giveBack
  rw [if_pos ⟨offers.isLent, by rw [capacity_lend]; exact fits⟩]
  obtain ⟨-, rest, free, -⟩ := offers
  rcases slots with ⟨count, capacity, contents, _⟩
  cases free
  rfl

end Slots

namespace Decoder

structure Idle (decoder : Decoder) (capacity : Nat) : Prop where
  running : decoder.isRunning = true
  offers : decoder.slots.Offers 0
  capacity : decoder.slots.capacity = capacity
  returned : decoder.inFlight = []
  healthy : decoder.faults.failDecoderAfter = none
  width_pos : 0 < decoder.width
  height_pos : 0 < decoder.height

def lent (decoder : Decoder) : Decoder := { decoder with slots := decoder.slots.lend.2 }

def filled (decoder : Decoder) (written : Bytes) : Decoder :=
  { decoder with slots := decoder.slots.write 0 written }

def holding (decoder : Decoder) (index : Nat) (time : Int) : Decoder :=
  { decoder with inFlight := [(index, time)] }

def past (decoder : Decoder) : Decoder :=
  { decoder with
    polls := decoder.polls + 1
    pending := decoder.pending.tail
    nextOutput := decoder.nextOutput + 1 }

def skips (decoder : Decoder) : Bool :=
  decoder.faults.stutter && (decoder.polls + 1) % 2 == 0

theorem skips_next {decoder : Decoder} (skips : decoder.skips = true) :
    { decoder with polls := decoder.polls + 1 }.skips = false := by
  simp only [Decoder.skips, Bool.and_eq_true, beq_iff_eq] at skips
  simp only [Decoder.skips, Bool.and_eq_false_iff, beq_eq_false_iff_ne]
  right
  omega

def picture (decoder : Decoder) (time : Int) : Image :=
  ⟨decoder.width, decoder.height, time, testPattern decoder.width decoder.height time⟩

namespace Idle
variable {decoder : Decoder} {capacity : Nat}

theorem dequeueInput_again (idle : decoder.Idle capacity) (again : 0 < decoder.inputTryAgain) :
    decoder.dequeueInput = (.error CodecError.tryAgain,
      { decoder with inputTryAgain := decoder.inputTryAgain - 1 }) := by
  unfold dequeueInput whenRunning
  rw [if_pos idle.running, if_pos again]

theorem dequeueInput_lends (idle : decoder.Idle capacity) (now : decoder.inputTryAgain = 0) :
    decoder.dequeueInput = (.ok (some 0), decoder.lent) := by
  unfold dequeueInput whenRunning
  rw [if_pos idle.running, if_neg (by omega)]
  simp only [idle.offers.lend, lent]

theorem filled (idle : decoder.Idle capacity) (written : Bytes) :
    (decoder.filled written).Idle capacity := { idle with }

theorem inputBuffer_lent (idle : decoder.Idle capacity) :
    decoder.lent.inputBuffer 0 = .ok (decoder.slots.content 0) := by
  have running : decoder.lent.isRunning = true := idle.running
  have buffer : decoder.lent.slots.buffer 0 = _ := idle.offers.buffer
  unfold inputBuffer
  rw [if_pos running, buffer]

theorem queueInput_lent (idle : decoder.Idle capacity) (written : Bytes) (info : SampleInfo)
    (fits : info.size ≤ capacity) {last : Bool} (same : info.flags.isEndOfStream = last)
    (log : Log) :
    decoder.lent.queueInput 0 written info log =
      (.ok (), { decoder.filled written with
          pending := decoder.pending ++ [(info.time, last)] },
        if last then log else { log with decoderInputs := log.decoderInputs + 1 }) := by
  have running : decoder.lent.isRunning = true := idle.running
  have back : decoder.lent.slots.giveBack 0 written info.size = _ :=
    idle.offers.giveBack written (idle.capacity ▸ fits)
  unfold queueInput
  rw [if_pos running, back]
  subst same
  rfl

theorem dequeueOutput_again (idle : decoder.Idle capacity) (again : 0 < decoder.outputTryAgain) :
    decoder.dequeueOutput = (.error CodecError.tryAgain,
      { decoder with outputTryAgain := decoder.outputTryAgain - 1 }) := by
  unfold dequeueOutput whenRunning
  rw [if_pos idle.running, idle.healthy, if_neg (by simp), if_pos again]

theorem dequeueOutput_format (idle : decoder.Idle capacity) (now : decoder.outputTryAgain = 0)
    (unreported : decoder.formatReported = false) :
    decoder.dequeueOutput =
      (.ok (.formatChanged (.video "video/raw" decoder.width decoder.height)),
        { decoder with formatReported := true }) := by
  unfold dequeueOutput whenRunning
  rw [if_pos idle.running, idle.healthy, if_neg (by simp), if_neg (by omega), unreported]
  rfl

theorem dequeueOutput_skip (idle : decoder.Idle capacity) (now : decoder.outputTryAgain = 0)
    (reported : decoder.formatReported = true) (skips : decoder.skips = true) :
    decoder.dequeueOutput = (.ok .tryAgainLater, { decoder with polls := decoder.polls + 1 }) := by
  unfold dequeueOutput whenRunning
  rw [if_pos idle.running, idle.healthy, if_neg (by simp), if_neg (by omega), reported]
  exact if_pos skips

theorem dequeueOutput_nothing (idle : decoder.Idle capacity) (now : decoder.outputTryAgain = 0)
    (reported : decoder.formatReported = true) (skips : decoder.skips = false)
    (empty : decoder.pending = []) :
    decoder.dequeueOutput = (.ok .tryAgainLater, { decoder with polls := decoder.polls + 1 }) := by
  unfold dequeueOutput whenRunning
  rw [if_pos idle.running, idle.healthy, if_neg (by simp), if_neg (by omega), reported]
  simp only [Bool.not_true, Bool.false_eq_true, if_false]
  rw [if_neg (Bool.not_eq_true _ ▸ skips)]
  simp only [emit, empty]

/-- The oldest of what is pending comes out, and is held until it is released. -/
theorem dequeueOutput_buffer (idle : decoder.Idle capacity) (now : decoder.outputTryAgain = 0)
    (reported : decoder.formatReported = true) (skips : decoder.skips = false) {time : Int}
    {last : Bool} {later : List (Int × Bool)} (oldest : decoder.pending = (time, last) :: later) :
    decoder.dequeueOutput =
      (.ok (.buffer decoder.nextOutput (if last then ⟨0, 0, 0, .endOfStream⟩
        else ⟨decoder.width * decoder.height * 3 / 2, 0, time, .none⟩)),
        decoder.past.holding decoder.nextOutput time) := by
  unfold dequeueOutput whenRunning
  rw [if_pos idle.running, idle.healthy, if_neg (by simp), if_neg (by omega), reported]
  simp only [Bool.not_true, Bool.false_eq_true, if_false]
  rw [if_neg (Bool.not_eq_true _ ▸ skips)]
  simp only [emit, oldest, idle.returned, holding, past, List.tail_cons, reported]

theorem releaseOutput_held (idle : decoder.Idle capacity) (index : Nat) (time : Int)
    (render : Bool) :
    (decoder.holding index time).releaseOutput index render =
      (.ok (if render then some (decoder.picture time) else none), decoder) := by
  have running : (decoder.holding index time).isRunning = true := idle.running
  have returned := idle.returned
  unfold releaseOutput whenRunning
  rw [if_pos running]
  rcases decoder with ⟨_⟩
  cases returned
  simp [holding, picture]

theorem past (idle : decoder.Idle capacity) : decoder.past.Idle capacity := { idle with }

theorem pictureSize_ne_zero (idle : decoder.Idle capacity) :
    decoder.width * decoder.height * 3 / 2 ≠ 0 := by
  have area := Nat.mul_pos idle.width_pos idle.height_pos
  omega

theorem isWhole_picture (idle : decoder.Idle capacity) (time : Int) :
    (decoder.picture time).isWhole = true := by
  have width_pos := idle.width_pos
  have height_pos := idle.height_pos
  simp [Image.isWhole, picture, testPattern, width_pos, height_pos]

end Idle

end Decoder

namespace Encoder

def lent (encoder : Encoder) : Encoder := { encoder with slots := encoder.slots.lend.2 }

def filled (encoder : Encoder) (written : Bytes) : Encoder :=
  { encoder with slots := encoder.slots.write 0 written }

def holding (encoder : Encoder) (index : Nat) (data : Bytes) : Encoder :=
  { encoder with inFlight := [(index, data)] }

structure Idle (encoder : Encoder) (width height : Nat) : Prop where
  running : encoder.isRunning = true
  offers : encoder.slots.Offers 0
  capacity : encoder.slots.capacity = inputCapacity width height
  returned : encoder.inFlight = []
  healthy : encoder.faults.failEncoderAfter = none

theorem size_sampleData (isKey : Bool) (time : Int) : (sampleData isKey time).size = 13 := by
  simp [sampleData, bigEndian]

theorem outputBuffer_holding (encoder : Encoder) (index : Nat) (data : Bytes) :
    (encoder.holding index data).outputBuffer index = .ok data := by
  simp [outputBuffer, holding]

namespace Idle
variable {encoder : Encoder} {width height : Nat}

theorem dequeueInput_again (idle : encoder.Idle width height) (raw : encoder.hasSurface = false)
    (again : 0 < encoder.inputTryAgain) :
    encoder.dequeueInput = (.error CodecError.tryAgain,
      { encoder with inputTryAgain := encoder.inputTryAgain - 1 }) := by
  unfold dequeueInput whenRunning
  rw [if_pos idle.running, raw, if_neg (by simp), if_pos again]

theorem dequeueInput_lends (idle : encoder.Idle width height) (raw : encoder.hasSurface = false)
    (now : encoder.inputTryAgain = 0) :
    encoder.dequeueInput = (.ok (some 0), encoder.lent) := by
  unfold dequeueInput whenRunning
  rw [if_pos idle.running, if_neg (by simp [raw]), if_neg (by omega)]
  simp only [idle.offers.lend, lent]

theorem filled (idle : encoder.Idle width height) (written : Bytes) :
    (encoder.filled written).Idle width height := { idle with }

theorem inputBuffer_lent (idle : encoder.Idle width height) :
    encoder.lent.inputBuffer 0 = .ok (encoder.slots.content 0) := by
  have running : encoder.lent.isRunning = true := idle.running
  have buffer : encoder.lent.slots.buffer 0 = _ := idle.offers.buffer
  unfold inputBuffer
  rw [if_pos running, buffer]

theorem queueInput_frame (idle : encoder.Idle width height) (written : Bytes) (info : SampleInfo)
    (fits : info.size ≤ inputCapacity width height) (goesOn : info.flags.isEndOfStream = false)
    (log : Log) :
    encoder.lent.queueInput 0 written info log =
      (.ok (), (encoder.filled written).enqueueFrame info.time
        { log with rawInputSizes := log.rawInputSizes ++ [info.size] }) := by
  have running : encoder.lent.isRunning = true := idle.running
  have back : encoder.lent.slots.giveBack 0 written info.size = _ :=
    idle.offers.giveBack written (idle.capacity ▸ fits)
  unfold queueInput
  rw [if_pos running, back]
  simp only [goesOn, Bool.false_eq_true, if_false]
  rfl

theorem queueInput_end (idle : encoder.Idle width height) (written : Bytes) (info : SampleInfo)
    (fits : info.size ≤ inputCapacity width height) (ends : info.flags.isEndOfStream = true)
    (log : Log) :
    encoder.lent.queueInput 0 written info log =
      (.ok (), (encoder.filled written).enqueueEnd log) := by
  have running : encoder.lent.isRunning = true := idle.running
  have back : encoder.lent.slots.giveBack 0 written info.size = _ :=
    idle.offers.giveBack written (idle.capacity ▸ fits)
  unfold queueInput
  rw [if_pos running, back]
  simp only [ends, if_true]
  rfl

theorem signalEnd (idle : encoder.Idle width height) (surface : encoder.hasSurface = true)
    (log : Log) : encoder.signalEnd log = (.ok (), encoder.enqueueEnd log) := by
  unfold Encoder.signalEnd
  rw [if_pos idle.running, if_pos surface]

theorem dequeueOutput_again (idle : encoder.Idle width height)
    (again : 0 < encoder.outputTryAgain) :
    encoder.dequeueOutput = (.error CodecError.tryAgain,
      { encoder with outputTryAgain := encoder.outputTryAgain - 1 }) := by
  unfold dequeueOutput whenRunning
  rw [if_pos idle.running, idle.healthy, if_neg (by simp), if_pos again]

theorem dequeueOutput_now (idle : encoder.Idle width height) (now : encoder.outputTryAgain = 0) :
    encoder.dequeueOutput =
      let (status, next) := if encoder.configSent then encoder.emitNext else encoder.emitConfiguration
      (.ok status, next) := by
  unfold dequeueOutput whenRunning
  rw [if_pos idle.running, idle.healthy, if_neg (by simp), if_neg (by omega)]

theorem dequeueOutput_format (idle : encoder.Idle width height) (now : encoder.outputTryAgain = 0)
    (unsent : encoder.configSent = false) (first : encoder.faults.formatChangeFirst = true) :
    ∃ format, encoder.dequeueOutput =
      (.ok (.formatChanged format), { encoder with configSent := true }) := by
  rw [idle.dequeueOutput_now now, unsent]
  simp only [Bool.false_eq_true, if_false, emitConfiguration, first, if_true]
  exact ⟨_, rfl⟩

theorem emit_held (idle : encoder.Idle width height) (data : Bytes) (time : Int) (flags : Flags) :
    encoder.emit data time flags =
      (.buffer encoder.nextOutput ⟨data.size, 0, time, flags⟩,
        { encoder with nextOutput := encoder.nextOutput + 1 }.holding encoder.nextOutput data) := by
  unfold emit
  rw [idle.returned]
  rfl

theorem dequeueOutput_configuration (idle : encoder.Idle width height)
    (now : encoder.outputTryAgain = 0) (unsent : encoder.configSent = false)
    (plain : encoder.faults.formatChangeFirst = false) :
    encoder.dequeueOutput =
      (.ok (.buffer encoder.nextOutput ⟨16, 0, 0, .codecConfig⟩), { encoder with
        configSent := true
        nextOutput := encoder.nextOutput + 1 }.holding encoder.nextOutput
          simulatedConfiguration) := by
  have sent : { encoder with configSent := true }.Idle width height := { idle with }
  rw [idle.dequeueOutput_now now, unsent]
  simp only [Bool.false_eq_true, if_false, emitConfiguration, plain, sent.emit_held]
  rfl

theorem dequeueOutput_empty (idle : encoder.Idle width height) (now : encoder.outputTryAgain = 0)
    (sent : encoder.configSent = true) (empty : encoder.queue = []) :
    encoder.dequeueOutput = (.ok .tryAgainLater, encoder) := by
  rw [idle.dequeueOutput_now now, if_pos sent]
  simp only [emitNext, empty]

theorem dequeueOutput_frame (idle : encoder.Idle width height) (now : encoder.outputTryAgain = 0)
    (sent : encoder.configSent = true) {time : Int} {queue : List EncoderInput}
    (next : encoder.queue = .frame time :: queue) :
    ∃ data flags, data.size = 13 ∧ flags.isCodecConfig = false ∧ flags.isEndOfStream = false ∧
      encoder.dequeueOutput =
        (.ok (.buffer encoder.nextOutput ⟨13, 0, time, flags⟩), { encoder with
          queue
          nextOutput := encoder.nextOutput + 1 }.holding encoder.nextOutput data) := by
  have shorter : { encoder with queue }.Idle width height := { idle with }
  refine ⟨sampleData (encoder.nextOutput ≤ 1) time,
    if encoder.nextOutput ≤ 1 then .keyFrame else .none, size_sampleData _ _, ?_, ?_, ?_⟩
  · split <;> rfl
  · split <;> rfl
  · rw [idle.dequeueOutput_now now, if_pos sent]
    simp only [emitNext, next, shorter.emit_held, size_sampleData]

theorem dequeueOutput_end (idle : encoder.Idle width height) (now : encoder.outputTryAgain = 0)
    (sent : encoder.configSent = true) {queue : List EncoderInput}
    (next : encoder.queue = .endOfStream :: queue) :
    encoder.dequeueOutput =
      (.ok (.buffer encoder.nextOutput ⟨0, 0, 0, .endOfStream⟩), { encoder with
        queue
        nextOutput := encoder.nextOutput + 1 }.holding encoder.nextOutput #[]) := by
  have shorter : { encoder with queue }.Idle width height := { idle with }
  rw [idle.dequeueOutput_now now, if_pos sent]
  simp only [emitNext, next, shorter.emit_held]
  rfl


theorem releaseOutput_held (idle : encoder.Idle width height) (index : Nat) (data : Bytes) :
    (encoder.holding index data).releaseOutput index = (.ok (), encoder) := by
  have running : (encoder.holding index data).isRunning = true := idle.running
  have returned := idle.returned
  unfold releaseOutput whenRunning
  rw [if_pos running, outputBuffer_holding]
  rcases encoder with ⟨_⟩
  cases returned
  simp [holding]

end Idle

end Encoder

namespace Surface

structure Takes (surface : Surface) (width height : Nat) : Prop where
  unreleased : surface.released = false
  width_eq : surface.width = width
  height_eq : surface.height = height

variable {surface : Surface} {width height : Nat}

theorem Takes.presentAt (takes : surface.Takes width height) (nanoseconds : Int) :
    (surface.presentAt nanoseconds).Takes width height := { takes with }

/-- A frame reaches the encoder in whole microseconds. -/
theorem Takes.swap (takes : surface.Takes width height) (encoder : Encoder) (pixels : Bytes)
    (nanoseconds : Int) (log : Log) :
    (surface.presentAt nanoseconds).swap encoder ⟨width, height, pixels⟩ log =
      (.ok (), encoder.enqueueFrame (nanoseconds.tdiv 1000)
        { log with lastSurfaceFrame := some (width, height) }) := by
  have unreleased : (surface.presentAt nanoseconds).released = false := takes.unreleased
  have same : width = surface.width ∧ height = surface.height :=
    ⟨takes.width_eq.symm, takes.height_eq.symm⟩
  unfold Surface.swap
  rw [unreleased, if_neg (by simp)]
  exact if_pos same

end Surface

end Recode.Simulation
