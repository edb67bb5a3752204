import Recode.Proofs.LivelySession

/-!
The decoder's part in a session that makes headway. What it puts out is given to the encoder, and its
last buffer, or the first at or past the end of the window, ends its part.
-/

namespace Recode.Simulation
open Recode.Media Recode.Container Recode.Device Recode.Picture Recode.Progress Recode.Session
open Recode.Session.Work

section
variable {track patience : Nat} {plan : TranscodePlan} {session next : Standing} {stage : Stage}
  {desk left : Desk (Rig Bench)} {decoder : Decoder} {encoder : Encoder}

theorem Lively.last_cons (lively : Lively track session stage)
    (running : session.decoder.isDone = false) {time : Int} {last : Bool}
    {later : List (Int × Bool)} (oldest : stage.decoder.pending = (time, last) :: later) :
    session.feeding = true ↔ last = false ∧ ∀ sample ∈ later, sample.2 = false := by
  rw [lively.last running, oldest]
  simp

section
variable (lively : Lively track session stage) (turn : session.decoder.state = .hasOutput)
include lively turn

/-- The decoder has put out nothing, and is not polled again before there may be something. -/
theorem Lively.goesOn_undecoded (shows : left.outside.Shows { stage with decoder })
    (runs : decoder.isRunning = true) (free : decoder.slots.free ≠ [])
    (pending : decoder.pending = stage.decoder.pending)
    (light : decoder.load + respite session decoder + (if session.feeding then 0 else 3) ≤
      stage.decoder.load + respite session stage.decoder)
    (calms : Calm session stage → decoder.faults.stutter = false ∧ decoder.outputTryAgain = 0 ∧
      decoder.pending = [] ∧ decoder.formatReported = true) :
    GoesOn track (effort session stage) (Calm session stage)
      { session with decoder := session.decoder.onTryAgain } left := by
  have running := Machine.isDone_of_hasOutput turn
  refine ⟨_, shows, { lively with
    decoderRuns := runs
    decoderFree := free
    decoderFair := Machine.isFair_onTryAgain _
    fed := by simpa using lively.fed
    last := by simpa [pending] using lively.last
    pending := by simpa using lively.pending
    told := by simpa using lively.told }, ?_, fun calm => ?_⟩
  · have polled := decoding_of_hasOutput turn
    have waits : decoding { session with decoder := session.decoder.onTryAgain } =
        if session.feeding then 0 else 3 := by
      have rests := Machine.state_onTryAgain running
      simp [decoding, running, rests]
    have encoded : encoding { session with decoder := session.decoder.onTryAgain } =
      encoding session := rfl
    have rests : respite { session with decoder := session.decoder.onTryAgain } decoder =
        respite session decoder := by simp [respite]
    simp only [effort, load, polled, waits, encoded, rests]
    omega
  · obtain ⟨stutter, tries, empty, reported⟩ := calms calm
    exact { calm with
      stutter, decoder := tries
      decoded := fun _ _ => ⟨empty, reported⟩ }

theorem Lively.goesOn_decoded (encodes : session.encoder.isDone = false)
    (shows : left.outside.Shows { stage with decoder, encoder }) (runs : decoder.isRunning = true)
    (free : decoder.slots.free ≠ [])
    (last : session.feeding = true ↔ ∀ sample ∈ decoder.pending, sample.2 = false)
    (encoderRuns : encoder.isRunning = true) (encoderFree : encoder.slots.free ≠ [])
    (ending : EncoderInput.endOfStream ∈ encoder.queue ↔
      EncoderInput.endOfStream ∈ stage.encoder.queue)
    (light : decoder.load + respite session decoder + encoder.load + 1 <
      stage.decoder.load + respite session stage.decoder + stage.encoder.load)
    (reliable : Reliable stage → Reliable { stage with decoder, encoder }) :
    GoesOn track (effort session stage) (Calm session stage) { session with
      decoder := session.decoder.onOutput, encoder := session.encoder.rearm } left := by
  have running := Machine.isDone_of_hasOutput turn
  have decoderRearmed : session.decoder.onOutput.state = .hasOutput := Machine.state_rearm running
  have encoderRearmed := Machine.state_rearm encodes
  refine ⟨_, shows, { lively with
    decoderRuns := runs
    decoderFree := free
    decoderFair := Machine.isFair_rearm _
    encoderRuns, encoderFree
    encoderFair := Machine.isFair_rearm _
    fed := by simpa using lively.fed
    last := fun _ => last
    pending := by simpa using lively.pending
    told := by simpa using lively.told
    ending := fun _ => by simpa [ending] using lively.ending encodes }, ?_, fun calm => ?_⟩
  · have polled := decoding_of_hasOutput turn
    have decoded : decoding { session with
        decoder := session.decoder.onOutput, encoder := session.encoder.rearm } = 1 :=
      decoding_of_hasOutput decoderRearmed
    have encoded : encoding { session with
        decoder := session.decoder.onOutput, encoder := session.encoder.rearm } = 1 :=
      encoding_of_hasOutput encoderRearmed
    have rests : respite { session with
        decoder := session.decoder.onOutput, encoder := session.encoder.rearm } decoder =
          respite session decoder := by simp [respite]
    simp only [effort, load, polled, decoded, encoded, rests]
    omega
  · exact { reliable calm.toReliable with
      decoded := fun waits => absurd decoderRearmed waits
      encoded := fun waits => absurd encoderRearmed waits }

theorem Lively.goesOn_decodedLast (encodes : session.encoder.isDone = false)
    (shows : left.outside.Shows { stage with decoder, encoder }) (runs : decoder.isRunning = true)
    (free : decoder.slots.free ≠ []) (encoderRuns : encoder.isRunning = true)
    (encoderFree : encoder.slots.free ≠ [])
    (unfed : next.feeding = false) (isDone : next.decoder = session.decoder.onEndOfStream)
    (ending : next.encoder = session.encoder ∧ next.endPending = true ∧
        (EncoderInput.endOfStream ∈ encoder.queue ↔
          EncoderInput.endOfStream ∈ stage.encoder.queue) ∨
      next.encoder = session.encoder.endInput ∧ next.endPending = false ∧
        EncoderInput.endOfStream ∈ encoder.queue)
    (light : decoder.load + encoder.load + 3 < stage.decoder.load + stage.encoder.load)
    (reliable : Reliable stage → Reliable { stage with decoder, encoder }) :
    GoesOn track (effort session stage) (Calm session stage)
      { next with encoder := next.encoder.rearm } left := by
  have running := Machine.isDone_of_hasOutput turn
  have decoded : next.decoder.isDone = true := by rw [isDone]; rfl
  have untold : session.encoder.inputEnded = false := by rw [lively.told, running, Bool.false_and]
  have encodesOn : next.encoder.isDone = false := by
    obtain ⟨same, -⟩ | ⟨told, -⟩ := ending
    · rw [same, encodes]
    · rw [told, Machine.isDone_endInput, encodes]
  have rearmed := Machine.state_rearm encodesOn
  have unended : EncoderInput.endOfStream ∉ stage.encoder.queue := by
    rw [lively.ending encodes, untold]
    exact Bool.false_ne_true
  refine ⟨_, shows, { lively with
    decoderRuns := runs
    decoderFree := free
    decoderFair := isDone ▸ Machine.isFair_onEndOfStream session.decoder
    encoderRuns, encoderFree
    encoderFair := Machine.isFair_rearm _
    fed := fun feeding => Bool.noConfusion (unfed.symm.trans feeding)
    last := fun active => Bool.noConfusion (decoded.symm.trans active)
    pending := fun _ => decoded
    told := ?_
    ending := fun _ => ?_ }, ?_, fun calm => ?_⟩
  · obtain ⟨same, pending, -⟩ | ⟨told, unpending, -⟩ := ending
    · simp [same, pending, untold]
    · simp [told, unpending, decoded]
  · obtain ⟨same, -, queue⟩ | ⟨told, -, queue⟩ := ending
    · simp [same, queue, unended, untold]
    · simp [told, queue]
  · have polled := decoding_of_hasOutput turn
    have silent : decoding { next with encoder := next.encoder.rearm } = 0 :=
      decoding_of_done decoded
    have encoded : encoding { next with encoder := next.encoder.rearm } = 1 :=
      encoding_of_hasOutput rearmed
    have rests : respite { next with encoder := next.encoder.rearm } decoder = 0 :=
      respite_done decoded decoder
    have fed : (if next.feeding then 9 else 0) = 0 := by rw [unfed]; rfl
    have pending : (if next.endPending then 3 else 0) ≤ 3 := by split <;> decide
    simp only [effort, load, polled, silent, encoded, rests, fed]
    omega
  · exact { reliable calm.toReliable with
      decoded := fun _ active => Bool.noConfusion (decoded.symm.trans active)
      encoded := fun waits => absurd rearmed waits }

theorem handleDecoded_goes (encodes : session.encoder.isDone = false) (index : Nat)
    {info : SampleInfo} {time : Int} {later : List (Int × Bool)}
    (oldest : stage.decoder.pending = (time, info.flags.isEndOfStream) :: later)
    {inFlight : List (Nat × Int)}
    (shows : desk.outside.Shows { stage with decoder := { stage.decoder.past with inFlight } }) :
    (plan.handleDecoded session index info).Lasts (Rig.world Bench.answer patience) desk
      fun next => GoesOn track (effort session stage) (Calm session stage)
        { next with encoder := next.encoder.rearm } := by
  have running := Machine.isDone_of_hasOutput turn
  have last := lively.last_cons running oldest
  have lighter : stage.decoder.load = stage.decoder.past.load + 6 := Decoder.load_past oldest
  unfold TranscodePlan.handleDecoded
  simp only [ite_bind]
  refine lasts_releaseOutput_decoder shows fun inFlight left shows => ?_
  have rendered (render : Bool) (next : Standing) : (if render then plan.renderFrame next info.time
      else pure next).Lasts (Rig.world Bench.answer patience) left fun later left =>
        later.gears = next.gears ∧ ∃ encoder, stage.encoder.Takes encoder ∧
          left.outside.Shows { stage with
            decoder := { stage.decoder.past with inFlight }, encoder } := by
    split
    next wanted => exact renderFrame_lasts shows lively.encoderRuns lively.encoderFree info.time
    next skipped =>
      exact lasts_pure ⟨rfl, _, .nothing lively.encoderFree (Nat.le_refl _), shows⟩
  refine (rendered _ _).bind ?_
  rintro next left ⟨same, encoder, takes, shows⟩
  have runs := takes.isRunning.trans lively.encoderRuns
  have loads := takes.load_le
  simp only [Standing.gears, Prod.mk.injEq] at same
  split
  next ends =>
    have unfed : next.feeding = false := by
      cases ended : plan.window.hasEnded info.time with
      | true => simp [same, ended]
      | false =>
        have isLast : info.flags.isEndOfStream = true := by simpa [ended] using ends
        have feeding : session.feeding = false := by
          rw [Bool.eq_false_iff, ne_eq, last, isLast]
          simp
        simp [same, feeding]
    refine (signalEnd_lasts shows runs takes.free).imp ?_
    rintro told left ⟨slots, tries, more, free, shows, outcome⟩
    have sum := encoder.load_taking slots tries more
    simp only [Standing.gears, Prod.mk.injEq] at outcome
    refine lively.goesOn_decodedLast turn encodes shows lively.decoderRuns lively.decoderFree runs free
      ?_ ?_ ?_ ?_ fun reliable => ?_
    · obtain ⟨gears, -⟩ | ⟨gears, -⟩ := outcome <;> exact gears.2.2.1.trans unfed
    · obtain ⟨gears, -⟩ | ⟨gears, -⟩ := outcome <;> exact gears.1.trans rfl
    · obtain ⟨⟨-, encoder, -, pending⟩, rfl, -⟩ | ⟨⟨-, encoder, -, pending⟩, rfl, -⟩ := outcome
      · refine .inl ⟨encoder.trans same.2.1, pending, ?_⟩
        rw [← takes.ending]
        simp [Encoder.taking]
      · exact .inr ⟨encoder.trans (congrArg Machine.endInput same.2.1), pending,
          List.mem_append_right _ List.mem_cons_self⟩
    · show stage.decoder.past.load + (encoder.taking slots tries more).load + 3 < _
      obtain ⟨-, rfl, fewer⟩ | ⟨-, rfl, fewer⟩ := outcome
      · simp only [List.length_nil] at sum
        omega
      · simp only [List.length_singleton] at sum
        omega
    · exact { reliable with encoder := takes.outputTryAgain.trans reliable.encoder }
  next goesOn =>
    simp only [Bool.or_eq_true, not_or, Bool.not_eq_true] at goesOn
    refine lasts_pure ((lively.goesOn_decoded turn encodes shows lively.decoderRuns
      lively.decoderFree ?_ runs takes.free takes.ending ?_ fun reliable => ?_).congr ?_)
    · simpa [goesOn.2, oldest, Decoder.past] using last
    · have before := respite_le session { stage.decoder.past with inFlight }
      have same : Decoder.load { stage.decoder.past with inFlight } = stage.decoder.past.load := rfl
      omega
    · exact { reliable with encoder := takes.outputTryAgain.trans reliable.encoder }
    · simp [Standing.gears, same, goesOn.1]

theorem drainDecoder_goes (encodes : session.encoder.isDone = false)
    (shows : desk.outside.Shows stage) :
    (plan.drainDecoder session).Lasts (Rig.world Bench.answer patience) desk
      (GoesOn track (effort session stage) (Calm session stage)) := by
  have running := Machine.isDone_of_hasOutput turn
  have waits : (if session.feeding then 0 else 3) ≤ 3 := by split <;> decide
  unfold TranscodePlan.drainDecoder
  refine lasts_dequeueOutput_decoder shows lively.decoderRuns ?_
  intro answer decoder status left polled granted shows
  cases polled with
  | fails lasting => simp [retried, lasting] at granted
  | again transient tries =>
    obtain rfl : OutputStatus.tryAgainLater = status := by simpa [retried, transient] using granted
    refine lasts_pure (lively.goesOn_undecoded turn shows lively.decoderRuns lively.decoderFree rfl ?_
      fun calm => absurd calm.decoder (Nat.ne_of_gt tries))
    have same : respite session { stage.decoder with
      outputTryAgain := stage.decoder.outputTryAgain - 1 } = respite session stage.decoder := rfl
    simp only [Decoder.load, same]
    omega
  | skips skips =>
    cases granted
    refine lasts_pure (lively.goesOn_undecoded turn shows lively.decoderRuns lively.decoderFree rfl ?_
      fun calm => ?_)
    · have same : Decoder.load { stage.decoder with polls := stage.decoder.polls + 1 } =
        stage.decoder.load := rfl
      have before := respite_of_skips running skips
      have after := respite_of_skips running (Decoder.skips_next skips)
      rw [same, before, after]
      cases session.feeding <;> simp
    · simp [Decoder.skips, calm.stutter] at skips
  | nothing reported empty =>
    cases granted
    have feeding : session.feeding = true := by
      rw [lively.last running, empty]
      exact fun _ member => absurd member List.not_mem_nil
    refine lasts_pure (lively.goesOn_undecoded turn shows lively.decoderRuns lively.decoderFree rfl ?_
      fun calm => ⟨calm.stutter, calm.decoder, empty, reported⟩)
    rw [respite_feeding running feeding, respite_feeding running feeding, if_pos feeding]
    exact Nat.le_refl _
  | format unreported =>
    cases granted
    refine lasts_pure (lively.goesOn_decoded turn encodes shows lively.decoderRuns lively.decoderFree
      (lively.last running) lively.encoderRuns lively.encoderFree Iff.rfl ?_
      fun reliable => { reliable with })
    have same : respite session { stage.decoder with formatReported := true } =
      respite session stage.decoder := rfl
    simp only [Decoder.load, same, unreported, Bool.false_eq_true, if_false, if_true]
    omega
  | buffer oldest inFlight =>
    cases granted
    refine (handleDecoded_goes lively turn encodes _ oldest shows).bind fun next left goes => ?_
    exact lasts_pure goes

end

end

end Recode.Simulation
