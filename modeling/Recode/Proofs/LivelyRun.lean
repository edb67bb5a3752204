import Recode.Proofs.FreshCodecs
import Recode.Proofs.LivelyDecoding

/-!
The cycles of a session that makes headway, and its whole run. A cycle feeds the decoder, passes over
a foreign sample or tells the encoder of the end; what is left to do bounds the steps of the run.
-/

namespace Recode.Session.TranscodePlan

def step {σ : Type} (plan : TranscodePlan) (session : Standing) : Work σ Standing :=
  match nextStep session.decoder.state session.encoder.state with
  | .finish => pure session
  | .idle => plan.beginCycle session
  | .drainEncoder => plan.drainEncoder session
  | .drainDecoder => plan.drainDecoder session

theorem drive_succ {σ : Type} (plan : TranscodePlan) (limit : Nat) (session : Standing) :
    (plan.drive (limit + 1) session : Work σ Standing) =
      if session.encoder.isDone then pure session else plan.step session >>= plan.drive limit := by
  unfold drive step
  cases turn : nextStep session.decoder.state session.encoder.state with
  | finish => simp [Machine.isDone, nextStep_eq_finish.mp turn]
  | idle => simp [Machine.isDone, (nextStep_eq_idle.mp turn).2.1]
  | drainEncoder => simp [Machine.isDone, nextStep_eq_drainEncoder.mp turn]
  | drainDecoder => simp [Machine.isDone, (nextStep_eq_drainDecoder.mp turn).2.1]

end Recode.Session.TranscodePlan

namespace Recode.Simulation
open Recode.Media Recode.Container Recode.Device Recode.Picture Recode.Progress Recode.Session
open Recode.Session.Work

/-- What is left to do has become less by as much, apart from where the machines stand. -/
def Lightens (track spent : Nat) (session : Standing) (stage : Stage) (next : Standing)
    (desk : Desk (Rig Bench)) : Prop :=
  ∃ after, desk.outside.Shows after ∧ Lively track next after ∧
    load next after + spent ≤ load session stage ∧ (Reliable stage → Reliable after)

section
variable {track patience : Nat} {plan : TranscodePlan} {session : Standing} {stage : Stage}
  {desk : Desk (Rig Bench)}

theorem Decoder.load_given (decoder : Decoder) (slots : Slots) (sample : Int × Bool) :
    (decoder.given slots sample).load = decoder.load + 6 :=
  { decoder with slots }.load_append sample

theorem endFeeding_lightens (lively : Lively track session stage) (feeding : session.feeding = true)
    (shows : desk.outside.Shows { stage with decoder := stage.decoder.lent }) (slot : Nat)
    (content : Bytes) :
    (TranscodePlan.endFeeding session slot content).Lasts (Rig.world Bench.answer patience) desk
      fun next left => next.decoder.isDone = false ∧ next.encoder = session.encoder ∧
        next.endPending = session.endPending ∧ Lightens track 3 session stage next left := by
  have running := (lively.fed feeding).1
  refine lasts_queueInput_decoder shows fun slots left free shows => lasts_pure ⟨?_, rfl, rfl, ?_⟩
  · exact (Machine.isDone_endInput _).trans running
  have shows : left.outside.Shows { stage with decoder := stage.decoder.given slots (0, true) } := shows
  refine ⟨_, shows, { lively with
    decoderRuns := lively.decoderRuns
    decoderFree := free
    decoderFair := Machine.isFair_endInput _
    fed := fun ended => nomatch ended
    last := fun _ => ⟨nofun, fun unended =>
      nomatch unended (0, true) (List.mem_append_right _ List.mem_cons_self)⟩
    pending := by simpa using lively.pending
    told := by simpa using lively.told }, ?_, fun reliable => { reliable with }⟩
  have loads := stage.decoder.load_given slots (0, true)
  have rests := respite_le { session with feeding := false, decoder := session.decoder.endInput }
    (stage.decoder.given slots (0, true))
  have before := respite_feeding running feeding stage.decoder
  simp only [load, feeding, before, Bool.false_eq_true, if_false, if_true]
  omega

theorem decoderWaits_lightens (lively : Lively track session stage)
    (tries : 0 < stage.decoder.inputTryAgain) (shows : desk.outside.Shows { stage with
      decoder := { stage.decoder with inputTryAgain := stage.decoder.inputTryAgain - 1 } }) :
    Lightens track 3 session stage session desk := by
  refine ⟨_, shows, { lively with }, ?_, fun reliable => { reliable with }⟩
  have same : respite session { stage.decoder with
    inputTryAgain := stage.decoder.inputTryAgain - 1 } = respite session stage.decoder := rfl
  simp only [load, Decoder.load, same]
  omega

theorem load_advance (session : Standing) (reads : stage.demuxer.Reads track) {sample : Sample}
    {later : List Sample} (ahead : stage.demuxer.upcoming = sample :: later) :
    load session { stage with demuxer := stage.demuxer.advance.2 } + 9 = load session stage := by
  have rest := reads.upcoming_advance ahead
  simp only [load, rest, ahead, List.length_cons]
  omega

theorem feed_lightens (lively : Lively track session stage) (feeding : session.feeding = true)
    (shows : desk.outside.Shows stage) :
    (plan.feed session).Lasts (Rig.world Bench.answer patience) desk
      fun next left => next.decoder.isDone = false ∧ next.encoder = session.encoder ∧
        next.endPending = session.endPending ∧ Lightens track 3 session stage next left := by
  have running := (lively.fed feeding).1
  unfold TranscodePlan.feed
  refine lasts_currentTrack shows fun left shows => ?_
  cases ahead : stage.demuxer.upcoming with
  | nil =>
    rw [lively.reads.currentTrack?_nil ahead]
    refine lasts_dequeueInput_decoder shows lively.decoderRuns lively.decoderFree
      (fun left tries shows => ?_) fun slot left shows => ?_
    · exact lasts_pure ⟨running, rfl, rfl, decoderWaits_lightens lively tries shows⟩
    · exact endFeeding_lightens lively feeding shows slot #[]
  | cons sample later =>
    have lighter := load_advance session lively.reads ahead
    rw [lively.reads.currentTrack?_cons ahead]
    dsimp only
    split
    next foreign =>
      refine lasts_advance shows fun more left shows => lasts_pure ⟨running, rfl, rfl, ?_⟩
      refine ⟨_, shows, { lively with reads := lively.reads.advance }, ?_,
        fun reliable => { reliable with }⟩
      omega
    next own =>
      refine lasts_dequeueInput_decoder shows lively.decoderRuns lively.decoderFree
        (fun left tries shows => ?_) fun slot left shows => ?_
      · exact lasts_pure ⟨running, rfl, rfl, decoderWaits_lightens lively tries shows⟩
      refine lasts_aside trivial shows fun buffer left shows => lasts_settle fun buffer _ => ?_
      refine lasts_aside trivial shows fun found left shows => lasts_settle fun found _ => ?_
      cases found with
      | none => exact endFeeding_lightens lively feeding shows slot buffer
      | some data =>
        refine lasts_aside trivial shows fun time left shows => ?_
        refine lasts_queueInput_decoder shows fun slots left free shows => ?_
        refine lasts_advance shows fun more left shows => lasts_report _ shows fun left shows => ?_
        have shows : left.outside.Shows { stage with
          demuxer := stage.demuxer.advance.2
          decoder := stage.decoder.given slots (time.getD 0, Flags.none.isEndOfStream) } := shows
        rw [Flags.isEndOfStream_none] at shows
        refine lasts_pure ⟨running, rfl, rfl, _, shows, { lively with
          reads := lively.reads.advance
          decoderRuns := lively.decoderRuns
          decoderFree := free
          last := fun decodes => ?_ }, ?_, fun reliable => { reliable with }⟩
        · simpa [Decoder.given, feeding, or_imp, forall_and] using lively.last decodes
        · have loads := stage.decoder.load_given slots (time.getD 0, false)
          have rests : respite session (stage.decoder.given slots (time.getD 0, false)) =
            respite session stage.decoder := rfl
          simp only [load] at lighter ⊢
          omega

theorem Lightens.goesOn {spent before : Nat} {next : Standing} {left : Desk (Rig Bench)}
    (lightens : Lightens track spent session stage next left)
    (encodes : next.encoder.isDone = false)
    (less : load session stage + (if next.decoder.isDone then 0 else 1) + 1 < before + spent) :
    GoesOn track before (Reliable stage)
      { next with decoder := next.decoder.rearm, encoder := next.encoder.rearm } left := by
  obtain ⟨after, shows, lively, lighter, reliable⟩ := lightens
  have rearmed := Machine.state_rearm encodes
  refine ⟨after, shows, { lively with
    decoderFair := Machine.isFair_rearm _
    encoderFair := Machine.isFair_rearm _
    fed := by simpa using lively.fed
    last := by simpa using lively.last
    pending := by simpa using lively.pending
    told := by simpa using lively.told
    ending := by simpa using lively.ending }, ?_, fun holds => ?_⟩
  · have encoded : encoding { next with
        decoder := next.decoder.rearm, encoder := next.encoder.rearm } = 1 :=
      encoding_of_hasOutput rearmed
    have decoded : decoding { next with
        decoder := next.decoder.rearm, encoder := next.encoder.rearm } =
          if next.decoder.isDone then 0 else 1 := by
      cases isDone : next.decoder.isDone with
      | true => exact decoding_of_done ((Machine.isDone_rearm _).trans isDone)
      | false => exact decoding_of_hasOutput (Machine.state_rearm isDone)
    have same : load { next with
        decoder := next.decoder.rearm, encoder := next.encoder.rearm } after = load next after := by
      simp only [load, respite, Machine.isDone_rearm]
    simp only [effort, encoded, decoded, same]
    omega
  · exact { reliable holds with
      decoded := fun waits active =>
        absurd (Machine.state_rearm ((Machine.isDone_rearm _).symm.trans active)) waits
      encoded := fun waits _ => absurd rearmed waits }

theorem signalEnd_lightens (lively : Lively track session stage)
    (pending : session.endPending = true) (encodes : session.encoder.isDone = false)
    (shows : desk.outside.Shows stage) :
    (plan.signalEnd session).Lasts (Rig.world Bench.answer patience) desk fun next left =>
      next.decoder.isDone = true ∧ next.encoder.isDone = false ∧
        Lightens track 2 session stage next left := by
  have isDone := lively.pending pending
  have untold : session.encoder.inputEnded = false := by rw [lively.told, pending]; simp
  refine (signalEnd_lasts shows lively.encoderRuns lively.encoderFree).imp ?_
  rintro next left ⟨slots, tries, more, free, shows, outcome⟩
  have sum := stage.encoder.load_taking slots tries more
  rcases outcome with ⟨same, rfl, fewer⟩ | ⟨same, rfl, fewer⟩
  · have waits : Lively track session { stage with encoder := stage.encoder.taking slots tries [] } :=
      { lively with
        encoderFree := free
        encoderRuns := lively.encoderRuns
        ending := by simpa [Encoder.taking] using lively.ending }
    have decoder : next.decoder = session.decoder := congrArg (·.1) same
    have encoder : next.encoder = session.encoder := congrArg (·.2.1) same
    refine ⟨decoder ▸ isDone, encoder ▸ encodes, _, shows, waits.congr same, ?_,
      fun reliable => { reliable with }⟩
    rw [load_congr same]
    simp only [load, List.length_nil] at sum ⊢
    omega
  · let told : Standing := { session with encoder := session.encoder.endInput, endPending := false }
    have same : next.gears = told.gears := same
    have tells : Lively track told
        { stage with encoder := stage.encoder.taking slots tries [.endOfStream] } :=
      { lively with
        encoderFree := free
        encoderRuns := lively.encoderRuns
        encoderFair := Machine.isFair_endInput _
        pending := fun pends => absurd pends Bool.false_ne_true
        told := by simp [told, isDone]
        ending := by simp [told, Encoder.taking] }
    have decoder : next.decoder = session.decoder := congrArg (·.1) same
    have encoder : next.encoder = session.encoder.endInput := congrArg (·.2.1) same
    refine ⟨decoder ▸ isDone, ?_, _, shows, tells.congr same, ?_, fun reliable => { reliable with }⟩
    · rw [encoder, Machine.isDone_endInput, encodes]
    · rw [load_congr same]
      have rests : respite told stage.decoder = respite session stage.decoder := rfl
      have fed : told.feeding = session.feeding := rfl
      have unpending : told.endPending = false := rfl
      simp only [load, rests, fed, unpending, pending, List.length_singleton, Bool.false_eq_true,
        if_false, if_true] at sum ⊢
      omega

theorem beginCycle_goes (lively : Lively track session stage)
    (turn : nextStep session.decoder.state session.encoder.state = .idle)
    (shows : desk.outside.Shows stage) :
    (plan.beginCycle session).Lasts (Rig.world Bench.answer patience) desk
      (GoesOn track (effort session stage) (Reliable stage)) := by
  obtain ⟨decoderPolled, encoderRuns, encoderPolled⟩ := nextStep_eq_idle.mp turn
  have encodes : session.encoder.isDone = false := by simp [Machine.isDone, encoderRuns]
  simp only [TranscodePlan.beginCycle, ite_bind]
  refine lasts_checkCancelled shows fun left shows => ?_
  cases feeding : session.feeding with
  | true =>
    have decoding := (lively.fed feeding).1
    rw [if_pos rfl]
    refine (feed_lightens lively feeding shows).bind ?_
    rintro next left ⟨running, encoder, pending, fed⟩
    have unpending : next.endPending = false := by
      cases pends : session.endPending with
      | false => rw [pending, pends]
      | true => exact absurd (lively.pending pends) (by simp [decoding])
    rw [if_neg (by simp [unpending])]
    refine lasts_bind (lasts_pure (lasts_pure (fed.goesOn (encoder ▸ encodes) ?_)))
    rw [if_neg (by simp [running])]
    unfold effort
    omega
  | false =>
    rw [if_neg (by simp)]
    refine lasts_bind (lasts_pure (lasts_bind ?_))
    cases pending : session.endPending with
    | true =>
      rw [if_pos rfl]
      refine (signalEnd_lightens lively pending encodes shows).imp ?_
      rintro next left ⟨isDone, encodesOn, told⟩
      refine lasts_pure (told.goesOn encodesOn ?_)
      rw [if_pos isDone]
      unfold effort
      omega
    | false =>
      rw [if_neg (by simp)]
      have rests : Lightens track 0 session stage session left :=
        ⟨stage, shows, lively, Nat.le_refl _, id⟩
      have told := lively.told
      rw [pending, Bool.not_false, Bool.and_true] at told
      refine lasts_pure (lasts_pure (rests.goesOn encodes ?_))
      cases isDone : session.decoder.isDone with
      | true => simp [effort, decoding, encoding, encodes, encoderPolled, told, isDone]
      | false => simp [effort, decoding, feeding, decoderPolled, isDone]; omega

/-- Each round breaks a session off or leaves it less to do, whatever is in the demuxer, whatever the
codecs are told to get wrong, whether the containers fail and whatever the client does. -/
theorem step_lessens (lively : Lively track session stage) (shows : desk.outside.Shows stage)
    (running : session.encoder.isDone = false) :
    (plan.step session).Lasts (Rig.world Bench.answer patience) desk fun next left =>
      ∃ after, left.outside.Shows after ∧ Lively track next after ∧
        effort next after < effort session stage := by
  have lessens {calm : Prop} (next : Standing) (left : Desk (Rig Bench))
      (goes : GoesOn track (effort session stage) calm next left) :
      ∃ after, left.outside.Shows after ∧ Lively track next after ∧
        effort next after < effort session stage := by
    obtain ⟨after, shows, lively, less, -⟩ := goes
    exact ⟨after, shows, lively, less⟩
  unfold TranscodePlan.step
  cases turn : nextStep session.decoder.state session.encoder.state with
  | finish => simp [Machine.isDone, nextStep_eq_finish.mp turn] at running
  | idle => exact (beginCycle_goes lively turn shows).imp lessens
  | drainEncoder =>
    exact (drainEncoder_goes lively (nextStep_eq_drainEncoder.mp turn) shows).imp lessens
  | drainDecoder =>
    exact (drainDecoder_goes lively (nextStep_eq_drainDecoder.mp turn).1 running shows).imp lessens

/-- With more steps than there is left to do, a session does not stall. -/
theorem drive_lasts (limit : Nat) (lively : Lively track session stage)
    (shows : desk.outside.Shows stage) (enough : effort session stage < limit) :
    (plan.drive limit session).Lasts (Rig.world Bench.answer patience) desk
      fun last _ => last.encoder.isDone = true := by
  induction limit generalizing session stage desk with
  | zero => omega
  | succ limit ih =>
    rw [plan.drive_succ]
    split
    next isDone => exact lasts_pure isDone
    next running =>
      refine (step_lessens lively shows (Bool.eq_false_of_not_eq_true running)).bind ?_
      rintro next left ⟨after, shows, lively, less⟩
      exact ih lively shows (by omega)

theorem lively_of_isFresh {faults : CodecFaults} {demuxer : Demuxer} (reads : demuxer.Reads track)
    (newest : desk.outside.storage.library.demuxers.head? = some demuxer)
    (fresh : desk.outside.device.IsFresh faults) :
    ∃ stage, desk.outside.Shows stage ∧ Lively track {} stage ∧ stage.demuxer = demuxer ∧
      (faults = {} → Reliable stage) ∧
      effort {} stage = 9 * demuxer.upcoming.length + 15 + 3 * (2 * faults.decoderTryAgain +
        faults.encoderOutputTryAgain + faults.encoderInputTryAgain) := by
  obtain ⟨name, width, height, capacity, encoderName, format, encoderWidth, encoderHeight, hasSurface,
    has⟩ := fresh
  let stage : Stage := {
    demuxer
    decoder := .opened name faults width height capacity
    encoder := .opened encoderName faults format encoderWidth encoderHeight hasSurface
    muxer := default, surface := none, transform := default, log := {}
    reads := 0, adds := 0, writes := 0, audience := ⟨none, false, [], 0⟩ }
  refine ⟨stage, ⟨newest, has.decoder, has.encoder⟩, ?_, rfl, ?_, ?_⟩
  · exact {
      reads, decoderRuns := rfl, encoderRuns := rfl
      decoderFree := List.cons_ne_nil _ _
      encoderFree := List.cons_ne_nil _ _
      decoderFair := nofun
      encoderFair := nofun
      fed := fun _ => ⟨rfl, rfl⟩
      last := fun _ => ⟨fun _ => nofun, fun _ => rfl⟩
      pending := nofun
      told := rfl
      ending := fun _ => ⟨nofun, nofun⟩ }
  · rintro rfl
    exact ⟨rfl, rfl, rfl⟩
  · show 9 * demuxer.upcoming.length + (6 * 0 + 3 * faults.decoderTryAgain +
      3 * faults.decoderTryAgain + 2) + (0 + 3 * faults.encoderInputTryAgain +
      3 * faults.encoderOutputTryAgain + 1) + 9 + 0 + 3 + 0 + 0 = _
    omega

section
variable {faults : CodecFaults} {demuxer : Demuxer}
  (newest : desk.outside.storage.library.demuxers.head? = some demuxer)
  (faultsAre : desk.outside.device.catalog.faults = faults)
include newest faultsAre

theorem session_lasts (reads : demuxer.Reads plan.track.index) {input : Format}
    (enough : 9 * demuxer.upcoming.length + 15 + 3 * (2 * faults.decoderTryAgain +
      faults.encoderOutputTryAgain + faults.encoderInputTryAgain) < patience) :
    (plan.openCodecs input >>= fun _ => ensuring plan.closeCodecs do
      plan.finish (← plan.drive (← Work.patience) {})).Lasts (Rig.world Bench.answer patience) desk
        fun _ _ => True := by
  have finishes (last : Standing) (left : Desk (Rig Bench)) : (plan.finish last).Lasts
      (Rig.world Bench.answer patience) left fun _ _ => True := by
    unfold TranscodePlan.finish TranscodePlan.register
    cases last.destination with
    | some destination => exact lasts_pure trivial
    | none => exact lasts_bind (lasts_ask (lasts_settle fun _ _ => lasts_pure (lasts_pure trivial)))
  refine (openCodecs_lasts faultsAre).bind ?_
  rintro _ left ⟨stored, fresh⟩
  obtain ⟨stage, shows, lively, -, -, effort⟩ := lively_of_isFresh reads (stored ▸ newest) fresh
  refine lasts_ensuring (lasts_patience ?_)
  exact (drive_lasts patience lively shows (by omega)).bind fun last left _ => finishes last left

theorem runSelected_lasts (reads : demuxer.Reads plan.track.index)
    (enough : 9 * demuxer.source.samples.length + 15 + 3 * (2 * faults.decoderTryAgain +
      faults.encoderOutputTryAgain + faults.encoderInputTryAgain) < patience) :
    plan.runSelected.Lasts (Rig.world Bench.answer patience) desk fun _ _ => True := by
  let sought := demuxer.seek plan.window.seekTarget .previousSync
  have coming : sought.upcoming.length ≤ sought.source.samples.length := sought.length_upcoming_le
  rw [demuxer.source_seek] at coming
  refine lasts_ask (lasts_settle fun _ granted => lasts_ask (lasts_settle fun input _ => ?_))
  let moved := (Storage.answer (.seek plan.window.seekTarget .previousSync) desk.outside.storage).2
  have seeks : moved.library.demuxers.head? = some sought :=
    (congrArg (·.2.library.demuxers.head?) (Storage.barring_ok granted)).trans
      (Storage.onDemuxer_newest newest _ _).2
  have looks := @Storage.demuxers_answer moved (.trackFormat plan.track.index) trivial
  exact @session_lasts patience plan { desk with outside := { desk.outside with
      storage := (Storage.answer (.trackFormat plan.track.index) moved).2 } } faults sought
    ((congrArg List.head? looks).trans seeks) faultsAre (reads.seek _ _) input (by omega)

theorem transcode_ne_stalled (unreleased : demuxer.released = false)
    (enough : 9 * demuxer.source.samples.length + 15 + 3 * (2 * faults.decoderTryAgain +
      faults.encoderOutputTryAgain + faults.encoderInputTryAgain) < patience) :
    ((transcode plan).run (Rig.world Bench.answer patience) desk).1 ≠ .error .stalled := by
  refine @Lasts.ne_stalled _ _ _ _ (fun _ _ => True) (transcode plan) ?_
  refine lasts_ask (lasts_settle fun _ granted => ?_)
  let chosen := (Storage.answer (.select plan.track.index) desk.outside.storage).2
  have plain : Storage.answer (.select plan.track.index) desk.outside.storage =
    desk.outside.storage.onDemuxer Storage.missing (·.select plan.track.index) :=
      Storage.barring_ok granted
  obtain ⟨same, selected⟩ := Storage.onDemuxer_newest newest Storage.missing (·.select plan.track.index)
  rw [← plain] at same selected
  obtain ⟨reads, source⟩ := demuxer.reads_selected unreleased (same.symm.trans granted)
  have lasts := @runSelected_lasts patience plan
    { desk with outside := { desk.outside with storage := chosen } } faults _ selected faultsAre reads
    (by rw [source]; exact enough)
  exact lasts_bind (lasts_outcome (lasts.imp fun _ _ _ => lasts_ask (lasts_granted fun _ _ => trivial))
    fun _ _ _ => lasts_ask (lasts_granted fun _ _ => trivial))

end

end

end Recode.Simulation
