import Recode.Proofs.IdleCodecs

/-!
All that simulated codecs can answer while they run, whatever they are told to get wrong. A poll for
output brings a refusal, nothing, or a part of what is still to come; what is queued comes behind
that, and then a slot is free again.
-/

namespace Recode.Simulation
open Recode.Media Recode.Device Recode.Picture

namespace Slots
variable {slots next : Slots} {slot size : Nat} {written : Bytes}

theorem lend_of_free (free : slots.free ≠ []) : ∃ slot, slots.lend.1 = some slot := by
  unfold lend
  cases left : slots.free with
  | nil => exact absurd left free
  | cons slot rest => exact ⟨slot, rfl⟩

theorem free_giveBack (given : slots.giveBack slot written size = (.ok (), next)) :
    next.free ≠ [] := by
  unfold giveBack at given
  split at given
  next lent =>
    cases given
    exact List.cons_ne_nil _ _
  next refused => exact nomatch given

end Slots

namespace Decoder
variable {decoder : Decoder}

/-- What a poll for output brings, and what then becomes of the decoder. -/
inductive Polled (decoder : Decoder) : Except Error OutputStatus → Decoder → Prop where
  | fails {error : Error} (lasting : error.isTransient = false) :
      Polled decoder (.error error) decoder
  | again {error : Error} (transient : error.isTransient = true)
      (tries : 0 < decoder.outputTryAgain) :
      Polled decoder (.error error)
        { decoder with outputTryAgain := decoder.outputTryAgain - 1 }
  | format {format : Format} (unreported : decoder.formatReported = false) :
      Polled decoder (.ok (.formatChanged format)) { decoder with formatReported := true }
  | skips (skips : decoder.skips = true) :
      Polled decoder (.ok .tryAgainLater) { decoder with polls := decoder.polls + 1 }
  | nothing (reported : decoder.formatReported = true) (empty : decoder.pending = []) :
      Polled decoder (.ok .tryAgainLater) { decoder with polls := decoder.polls + 1 }
  | buffer {index : Nat} {info : SampleInfo} {time : Int} {later : List (Int × Bool)}
      (oldest : decoder.pending = (time, info.flags.isEndOfStream) :: later)
      (inFlight : List (Nat × Int)) :
      Polled decoder (.ok (.buffer index info)) { decoder.past with inFlight }

theorem emit_cases (decoder : Decoder) :
    (decoder.pending = [] ∧ decoder.emit = (.tryAgainLater, decoder)) ∨
    ∃ index info time later inFlight, decoder.pending = (time, info.flags.isEndOfStream) :: later ∧
      decoder.emit = (.buffer index info, { decoder with
        pending := decoder.pending.tail, nextOutput := decoder.nextOutput + 1, inFlight }) := by
  unfold emit
  split
  next empty => exact .inl ⟨empty, rfl⟩
  next time last later oldest =>
    right
    cases last with
    | true => exact ⟨_, ⟨0, 0, 0, .endOfStream⟩, time, later, _, oldest, by rw [oldest]; rfl⟩
    | false =>
      refine ⟨_, ⟨decoder.width * decoder.height * 3 / 2, 0, time, .none⟩, time, later, _, ?_,
        by rw [oldest]; rfl⟩
      rw [oldest, Flags.isEndOfStream_none]

theorem polled (running : decoder.isRunning = true) :
    decoder.Polled decoder.dequeueOutput.1 decoder.dequeueOutput.2 := by
  unfold dequeueOutput whenRunning
  rw [if_pos running]
  split
  next due => exact .fails rfl
  next healthy =>
    split
    next tries => exact .again rfl tries
    next now =>
      split
      next unreported => exact .format (by simpa using unreported)
      next reported =>
        have reported : decoder.formatReported = true := by simpa using reported
        dsimp only
        split
        next stutters => exact .skips stutters
        next speaks =>
          have cases := emit_cases { decoder with polls := decoder.polls + 1 }
          generalize emit { decoder with polls := decoder.polls + 1 } = emitted at cases
          rcases cases with ⟨empty, rfl⟩ | ⟨index, info, time, later, inFlight, oldest, rfl⟩
          · exact .nothing reported empty
          · exact @Polled.buffer decoder index info time later oldest inFlight

theorem dequeueInput_cases (running : decoder.isRunning = true) (free : decoder.slots.free ≠ []) :
    (0 < decoder.inputTryAgain ∧ decoder.dequeueInput = (.error CodecError.tryAgain,
      { decoder with inputTryAgain := decoder.inputTryAgain - 1 })) ∨
    ∃ slot, decoder.dequeueInput = (.ok (some slot), decoder.lent) := by
  unfold dequeueInput whenRunning
  rw [if_pos running]
  by_cases tries : 0 < decoder.inputTryAgain
  · exact .inl ⟨tries, if_pos tries⟩
  · obtain ⟨slot, lends⟩ := Slots.lend_of_free free
    refine .inr ⟨slot, ?_⟩
    rw [if_neg tries, lent]
    simp only [lends]

theorem queueInput_ok {slot : Nat} {written : Bytes} {info : SampleInfo} {log : Log}
    (queued : (decoder.queueInput slot written info log).1 = .ok ()) :
    ∃ slots : Slots, slots.free ≠ [] ∧ (decoder.queueInput slot written info log).2.1 =
      { decoder with
        slots, pending := decoder.pending ++ [(info.time, info.flags.isEndOfStream)] } := by
  unfold queueInput at queued ⊢
  split at queued
  next running =>
    rw [if_pos running]
    cases given : decoder.slots.giveBack slot written info.size with
    | mk answer slots =>
      rw [given] at queued
      cases answer with
      | error error => exact nomatch queued
      | ok back => exact ⟨slots, Slots.free_giveBack given, rfl⟩
  next halted => exact nomatch queued

theorem releaseOutput_moves (decoder : Decoder) (index : Nat) (render : Bool) :
    ∃ inFlight, (decoder.releaseOutput index render).2 = { decoder with inFlight } := by
  unfold releaseOutput whenRunning
  split
  next running =>
    split
    next held => exact ⟨_, rfl⟩
    next missing => exact ⟨decoder.inFlight, rfl⟩
  next halted => exact ⟨decoder.inFlight, rfl⟩

end Decoder

namespace Encoder
variable {encoder : Encoder}

inductive Polled (encoder : Encoder) : Except Error OutputStatus → Encoder → Prop where
  | fails {error : Error} (lasting : error.isTransient = false) :
      Polled encoder (.error error) encoder
  | again {error : Error} (transient : error.isTransient = true)
      (tries : 0 < encoder.outputTryAgain) :
      Polled encoder (.error error)
        { encoder with outputTryAgain := encoder.outputTryAgain - 1 }
  | format {format : Format} (unsent : encoder.configSent = false) :
      Polled encoder (.ok (.formatChanged format)) { encoder with configSent := true }
  | configuration {index : Nat} {info : SampleInfo} (unsent : encoder.configSent = false)
      (goesOn : info.flags.isEndOfStream = false) (nextOutput : Nat)
      (inFlight : List (Nat × Bytes)) :
      Polled encoder (.ok (.buffer index info))
        { encoder with configSent := true, nextOutput, inFlight }
  | nothing (sent : encoder.configSent = true) (empty : encoder.queue = []) :
      Polled encoder (.ok .tryAgainLater) encoder
  | frame {index : Nat} {info : SampleInfo} {time : Int} {queue : List EncoderInput}
      (oldest : encoder.queue = .frame time :: queue) (goesOn : info.flags.isEndOfStream = false)
      (nextOutput : Nat) (inFlight : List (Nat × Bytes)) :
      Polled encoder (.ok (.buffer index info)) { encoder with queue, nextOutput, inFlight }
  | ends {index : Nat} {info : SampleInfo} {queue : List EncoderInput}
      (oldest : encoder.queue = .endOfStream :: queue) (isEnd : info.flags.isEndOfStream = true)
      (nextOutput : Nat) (inFlight : List (Nat × Bytes)) :
      Polled encoder (.ok (.buffer index info)) { encoder with queue, nextOutput, inFlight }

theorem polled (running : encoder.isRunning = true) :
    encoder.Polled encoder.dequeueOutput.1 encoder.dequeueOutput.2 := by
  unfold dequeueOutput whenRunning
  rw [if_pos running]
  split
  next due => exact .fails rfl
  next healthy =>
    split
    next tries => exact .again rfl tries
    next now =>
      cases sent : encoder.configSent with
      | false =>
        simp only [Bool.false_eq_true, if_false, emitConfiguration]
        split
        next first => exact .format sent
        next plain => exact .configuration sent rfl _ _
      | true =>
        simp only [if_true, emitNext]
        cases queue : encoder.queue with
        | nil => exact .nothing sent queue
        | cons oldest later =>
          cases oldest with
          | frame time =>
            refine .frame queue ?_ _ _
            dsimp only
            split <;> rfl
          | endOfStream => exact .ends queue rfl _ _

/-- Beside what a decoder answers, an encoder whose frames come from a surface refuses. -/
theorem dequeueInput_cases (running : encoder.isRunning = true) (free : encoder.slots.free ≠ []) :
    (∃ error : Error, error.isTransient = false ∧ encoder.dequeueInput = (.error error, encoder)) ∨
    (0 < encoder.inputTryAgain ∧ encoder.dequeueInput = (.error CodecError.tryAgain,
      { encoder with inputTryAgain := encoder.inputTryAgain - 1 })) ∨
    ∃ slot, encoder.dequeueInput = (.ok (some slot), encoder.lent) := by
  unfold dequeueInput whenRunning
  rw [if_pos running]
  by_cases surface : encoder.hasSurface = true
  · exact .inl ⟨_, rfl, if_pos surface⟩
  · rw [if_neg surface]
    by_cases tries : 0 < encoder.inputTryAgain
    · exact .inr (.inl ⟨tries, if_pos tries⟩)
    · obtain ⟨slot, lends⟩ := Slots.lend_of_free free
      refine .inr (.inr ⟨slot, ?_⟩)
      rw [if_neg tries, lent]
      simp only [lends]

def queued (info : SampleInfo) : EncoderInput :=
  if info.flags.isEndOfStream then .endOfStream else .frame info.time

theorem queueInput_ok {slot : Nat} {written : Bytes} {info : SampleInfo} {log : Log}
    (taken : (encoder.queueInput slot written info log).1 = .ok ()) :
    ∃ slots : Slots, slots.free ≠ [] ∧ (encoder.queueInput slot written info log).2.1 =
      { encoder with slots, queue := encoder.queue ++ [queued info] } := by
  unfold queueInput at taken ⊢
  split at taken
  next running =>
    rw [if_pos running]
    cases given : encoder.slots.giveBack slot written info.size with
    | mk answer slots =>
      rw [given] at taken
      cases answer with
      | error error => exact nomatch taken
      | ok back =>
        refine ⟨slots, Slots.free_giveBack given, ?_⟩
        unfold queued
        dsimp only
        split <;> rfl
  next halted => exact nomatch taken

theorem signalEnd_ok {log : Log} (told : (encoder.signalEnd log).1 = .ok ()) :
    (encoder.signalEnd log).2.1 = { encoder with queue := encoder.queue ++ [.endOfStream] } := by
  unfold signalEnd at told ⊢
  split at told
  next running =>
    split at told
    next surface =>
      rw [if_pos running, if_pos surface]
      rfl
    next raw => exact nomatch told
  next halted => exact nomatch told

theorem swap_ok {surface : Surface} {frame : Frame} {log : Log}
    (taken : (surface.swap encoder frame log).1 = .ok ()) :
    ∃ time, (surface.swap encoder frame log).2.1 =
      { encoder with queue := encoder.queue ++ [.frame time] } := by
  unfold Surface.swap at taken ⊢
  split at taken
  next released => exact nomatch taken
  next unreleased =>
    rw [if_neg unreleased]
    split at taken
    next same =>
      rw [if_pos same]
      exact ⟨_, rfl⟩
    next other => exact nomatch taken

theorem releaseOutput_moves (encoder : Encoder) (index : Nat) :
    ∃ inFlight, (encoder.releaseOutput index).2 = { encoder with inFlight } := by
  unfold releaseOutput whenRunning
  split
  next running =>
    split
    next held => exact ⟨_, rfl⟩
    next missing => exact ⟨encoder.inFlight, rfl⟩
  next halted => exact ⟨encoder.inFlight, rfl⟩

end Encoder

end Recode.Simulation
