import Recode.Proofs.LeakingFeed
import Recode.Proofs.LivelyRun

/-!
A transcode from a demuxer that leaks. For every foreign sample the session goes through a cycle of
its own, which polls both codecs in vain. Otherwise it does what it does where nothing leaks, and the
steps it is given suffice for both.
-/

namespace Recode.Simulation
open Recode.Media Recode.Container Recode.Device Recode.Picture Recode.Progress Recode.Session
open Recode.Session.Work

theorem Encoder.dequeueOutput_nothing {encoder : Encoder} (running : encoder.isRunning = true)
    (faultless : encoder.faults = {}) (now : encoder.outputTryAgain = 0)
    (sent : encoder.configSent = true) (empty : encoder.queue = []) :
    encoder.dequeueOutput = (.ok .tryAgainLater, encoder) := by
  unfold dequeueOutput whenRunning
  rw [if_pos running, faultless, if_neg (by simp), if_neg (by omega), if_pos sent, emitNext, empty]

theorem Decoder.dequeueOutput_nothing {decoder : Decoder} (running : decoder.isRunning = true)
    (faultless : decoder.faults = {}) (now : decoder.outputTryAgain = 0)
    (reported : decoder.formatReported = true) (empty : decoder.pending = []) :
    decoder.dequeueOutput = (.ok .tryAgainLater, decoder.overpolled 1) := by
  have healthy : decoder.faults.failDecoderAfter = none := by rw [faultless]
  have steady : decoder.faults.stutter = false := by rw [faultless]
  have emitted : (decoder.overpolled 1).emit = (.tryAgainLater, decoder.overpolled 1) := by
    have pending : (decoder.overpolled 1).pending = [] := empty
    unfold emit
    rw [pending]
  unfold dequeueOutput whenRunning
  rw [if_pos running, healthy, if_neg (by simp), if_neg (by omega), if_neg (by simp [reported])]
  dsimp only
  rw [if_neg (by simp [steady])]
  exact congrArg (fun found => (Except.ok found.1, found.2)) emitted

/-- The rig after its session has passed over a sample: the demuxer has stepped on, and the decoder
was polled once more. -/
def Rig.passed (rig : Rig Bench) : Rig Bench :=
  { rig with
    storage := (Storage.answer .advance rig.storage).2
    device := rig.device.overpolled 1 }

def Stage.passed (stage : Stage) : Stage :=
  { stage with demuxer := stage.demuxer.advance.2, decoder := stage.decoder.overpolled 1 }

theorem Rig.Shows.passed {rig : Rig Bench} {stage : Stage} (shows : rig.Shows stage) :
    rig.passed.Shows stage.passed where
  demuxer := (Storage.onDemuxer_newest shows.demuxer false (·.advance)).2
  decoder := congrArg (Option.map (Decoder.overpolled 1)) shows.decoder
  encoder := shows.encoder

section
variable {track patience count limit more : Nat} {plan : TranscodePlan} {session : Standing}
  {stage : Stage} {desk ahead behind : Desk (Rig Bench)} {source : Source} {leaky tight : Demuxer}

/-- While samples are fed, a session polls neither codec only if it waits for both of them. -/
theorem Lively.waits (lively : Lively track session stage) (feeding : session.feeding = true)
    (turn : nextStep session.decoder.state session.encoder.state = .idle) :
    session.decoder = {} ∧ session.encoder = {} ∧ session.endPending = false := by
  have waits {machine : Machine} (fair : machine.IsFair) (running : machine.isDone = false)
      (unended : machine.inputEnded = false) (unpolled : machine.state ≠ .hasOutput) :
      machine = {} := by
    obtain ⟨_ | _ | _ | _, _⟩ := machine
    · exact congrArg (Machine.mk _) unended
    · exact absurd rfl unpolled
    · exact nomatch unended.symm.trans (fair rfl)
    · exact nomatch running
  obtain ⟨decoderUnpolled, encoderRuns, encoderUnpolled⟩ := nextStep_eq_idle.mp turn
  obtain ⟨running, unended⟩ := lively.fed feeding
  have told := lively.told
  rw [running, Bool.false_and] at told
  refine ⟨waits lively.decoderFair running unended decoderUnpolled,
    waits lively.encoderFair (by simp [Machine.isDone, encoderRuns]) told encoderUnpolled, ?_⟩
  rw [Bool.eq_false_iff]
  exact fun pending => nomatch running.symm.trans (lively.pending pending)

theorem effort_passed (lively : Lively track session stage) (feeding : session.feeding = true)
    {sample : Sample} {later : List Sample} (comes : stage.demuxer.upcoming = sample :: later) :
    effort session stage.passed + 9 = effort session stage := by
  obtain ⟨running, -⟩ := lively.fed feeding
  have lighter := load_advance session lively.reads comes
  have before := respite_feeding running feeding stage.decoder
  have after := respite_feeding running feeding (stage.decoder.overpolled 1)
  have same : load session stage.passed =
      load session { stage with demuxer := stage.demuxer.advance.2 } := by
    simp only [Stage.passed, load, before, after]
    rfl
  simp only [effort, same]
  omega

section
variable {demuxer : Demuxer} (stands : desk.outside.Stands demuxer)
  (reads : demuxer.Reads plan.track.index) {sample : Sample} {later : List Sample}
  (comes : demuxer.upcoming = sample :: later) (foreign : sample.track ≠ plan.track.index)
include stands reads comes foreign

theorem run_beginCycle_foreign (feeding : session.feeding = true)
    (unpending : session.endPending = false) :
    (plan.beginCycle session).run (Rig.world Bench.answer patience) desk =
      (.ok { session with decoder := session.decoder.rearm, encoder := session.encoder.rearm },
        { desk with outside := { desk.outside with
          storage := (Storage.answer .advance desk.outside.storage).2 } }) := by
  have passes : (plan.feed session).run (Rig.world Bench.answer patience) desk =
      (.ok session, { desk with outside := { desk.outside with
        storage := (Storage.answer .advance desk.outside.storage).2 } }) := by
    unfold TranscodePlan.feed
    rw [run_after stands.run_currentTrack, reads.currentTrack?_cons comes]
    dsimp only
    rw [if_pos foreign]
    rfl
  simp only [TranscodePlan.beginCycle, ite_bind]
  rw [run_after stands.run_checkCancelled, if_pos feeding, run_after passes,
    if_neg (by simp [unpending])]
  rfl

end

theorem run_dequeueOutput_nothing {side : Side} {bench : Bench}
    (answered : desk.outside.device.dequeueOutput side = (.ok .tryAgainLater, bench)) :
    (plan.dequeueOutput side).run (Rig.world Bench.answer patience) desk =
      (.ok .tryAgainLater, onBench desk bench) := by
  unfold TranscodePlan.dequeueOutput
  show (ask (.device (.dequeueOutput side plan.timeout)) >>= _).run _ _ = _
  rw [run_bind, run_ask]
  dsimp only [Rig.world, Bench.answer]
  rw [answered]
  rfl

theorem run_drainEncoder_nothing {encoder : Encoder}
    (present : desk.outside.device.encoder = some encoder)
    (polled : encoder.dequeueOutput = (.ok .tryAgainLater, encoder)) :
    (plan.drainEncoder session).run (Rig.world Bench.answer patience) desk =
      (.ok { session with encoder := session.encoder.onTryAgain }, desk) := by
  have answered := Bench.onCodec_encoder present Bench.missing (·.dequeueOutput) (·.dequeueOutput)
  rw [polled, ← present] at answered
  unfold TranscodePlan.drainEncoder
  rw [run_after (run_dequeueOutput_nothing answered)]
  rfl

theorem run_drainDecoder_nothing {decoder : Decoder}
    (present : desk.outside.device.decoder = some decoder)
    (polled : decoder.dequeueOutput = (.ok .tryAgainLater, decoder.overpolled 1)) :
    (plan.drainDecoder session).run (Rig.world Bench.answer patience) desk =
      (.ok { session with decoder := session.decoder.onTryAgain },
        onBench desk (desk.outside.device.overpolled 1)) := by
  have answered := Bench.onCodec_decoder present Bench.missing (·.dequeueOutput) (·.dequeueOutput)
  have counted : desk.outside.device.overpolled 1 =
      { desk.outside.device with decoder := some (decoder.overpolled 1) } := by
    unfold Bench.overpolled
    rw [present]
    rfl
  rw [polled, ← counted] at answered
  unfold TranscodePlan.drainDecoder
  rw [run_after (run_dequeueOutput_nothing answered)]
  rfl

/-- For a foreign sample, a session that waits for both codecs takes three steps, and waits again. -/
theorem run_drive_foreign (shows : desk.outside.Shows stage) (stands : desk.outside.Stands stage.demuxer)
    (lively : Lively plan.track.index session stage) (calm : Calm session stage)
    (faultless : desk.outside.device.IsFaultless)
    (turn : nextStep session.decoder.state session.encoder.state = .idle)
    (feeding : session.feeding = true) {sample : Sample} {later : List Sample}
    (comes : stage.demuxer.upcoming = sample :: later) (foreign : sample.track ≠ plan.track.index) :
    (plan.drive (limit + 3) session).run (Rig.world Bench.answer patience) desk =
      (plan.drive limit session).run (Rig.world Bench.answer patience)
        { desk with outside := desk.outside.passed } := by
  obtain ⟨decoder, encoder, unpending⟩ := lively.waits feeding turn
  obtain ⟨empty, sent⟩ := calm.encoded (by simp [encoder]) (by simp [encoder, Machine.isDone])
  obtain ⟨pending, reported⟩ := calm.decoded (by simp [decoder]) (by simp [decoder, Machine.isDone])
  have encoderPolled := Encoder.dequeueOutput_nothing lively.encoderRuns
    (faultless.encoder _ shows.encoder) calm.encoder sent empty
  have decoderPolled := Decoder.dequeueOutput_nothing lively.decoderRuns
    (faultless.decoder _ shows.decoder) calm.decoder reported pending
  have begins := @run_beginCycle_foreign patience plan session desk stage.demuxer stands lively.reads
    sample later comes foreign feeding unpending
  obtain ⟨_, _, _, _, _, _, _, _, _, _⟩ := session
  cases decoder
  cases encoder
  generalize stepped : { desk with outside := { desk.outside with
    storage := (Storage.answer .advance desk.outside.storage).2 } } = left at begins
  have device : left.outside.device = desk.outside.device := stepped ▸ rfl
  have last : onBench left (left.outside.device.overpolled 1) =
      { desk with outside := desk.outside.passed } := stepped ▸ rfl
  show (plan.beginCycle _ >>= plan.drive (limit + 2)).run _ _ = _
  rw [run_after begins]
  show (plan.drainEncoder _ >>= plan.drive (limit + 1)).run _ _ = _
  rw [run_after (run_drainEncoder_nothing (device ▸ shows.encoder) encoderPolled)]
  show (plan.drainDecoder _ >>= plan.drive limit).run _ _ = _
  rw [run_after (run_drainDecoder_nothing (device ▸ shows.decoder) decoderPolled), last]
  rfl

theorem Rig.Beside.passed {ahead behind : Rig Bench}
    (beside : ahead.Beside (NewestAre leaky tight) count behind) :
    ahead.passed.Beside (NewestAre leaky.advance.2 tight) count behind :=
  { beside with storage := beside.storage.pass, device := beside.device.again }

theorem drive_after {work : Work (Rig Bench) Standing} {before : Nat} {calms : Prop}
    (agrees : work.Agrees work (Rig.world Bench.answer patience)
      (Rig.Reading source plan.track.index count) (Rig.Reading source plan.track.index count) ahead
      behind)
    (goes : work.Lasts (Rig.world Bench.answer patience) ahead
      (GoesOn plan.track.index before calms)) (calm : calms)
    (onward : ∀ next stage leaky tight left right,
      Abreast (Rig.Beside (NewestAre leaky tight) count) left right →
      Demuxer.TwinsReading source plan.track.index leaky tight → left.outside.Shows stage →
      Lively plan.track.index next stage → Calm next stage → effort next stage < before →
      (plan.drive limit next).Agrees (plan.drive (limit + more) next)
        (Rig.world Bench.answer patience)
        (Rig.Twinned source (some plan.track.index) count)
        (Rig.Twinned source (some plan.track.index) count) left right) :
    (work >>= plan.drive limit).Agrees (work >>= plan.drive (limit + more))
      (Rig.world Bench.answer patience) (Rig.Twinned source (some plan.track.index) count)
      (Rig.Twinned source (some plan.track.index) count) ahead behind := by
  refine agrees_bind agrees (fun _ _ beside => beside.imp ?_) fun next left right ran held => ?_
  · rintro _ _ ⟨leaky, tight, newest, twins⟩
    exact ⟨leaky, tight, newest, twins.toTwins⟩
  · obtain ⟨stage, shows, lively, less, calms⟩ := goes.of_ok ran
    obtain ⟨leaky, tight, twins, held⟩ := exists_newest held
    exact onward next stage leaky tight left right held twins shows lively (calms calm) less

/-- The leaking side may need more steps than the other, but has as many as it needs. -/
theorem drive_agrees (limit more : Nat)
    (held : Abreast (Rig.Beside (NewestAre leaky tight) count) ahead behind)
    (twins : Demuxer.TwinsReading source plan.track.index leaky tight)
    (shows : ahead.outside.Shows stage) (lively : Lively plan.track.index session stage)
    (calm : Calm session stage) (enough : effort session stage < limit) :
    (plan.drive limit session).Agrees (plan.drive (limit + more) session)
      (Rig.world Bench.answer patience) (Rig.Twinned source (some plan.track.index) count)
      (Rig.Twinned source (some plan.track.index) count) ahead behind := by
  induction limit using Nat.strongRecOn generalizing more session stage leaky tight ahead behind with
  | ind limit ih =>
  obtain ⟨leakyStands, -⟩ := held.outside.stands
  obtain rfl : leaky = stage.demuxer := Option.some.inj (leakyStands.newest.symm.trans shows.demuxer)
  obtain ⟨limit, rfl⟩ := Nat.exists_eq_succ_of_ne_zero (Nat.ne_of_gt (Nat.zero_lt_of_lt enough))
  have reading := newest_abreast twins held
  have onward {work : Work (Rig Bench) Standing} {calms : Prop} (established : calms)
      (agrees : work.Agrees work (Rig.world Bench.answer patience)
        (Rig.Reading source plan.track.index count) (Rig.Reading source plan.track.index count) ahead
        behind)
      (goes : work.Lasts (Rig.world Bench.answer patience) ahead
        (GoesOn plan.track.index (effort session stage) calms)) :=
    @drive_after patience count limit more plan ahead behind source work _ calms agrees goes established
      fun next stage leaky tight left right held twins shows lively calm less =>
        ih limit (Nat.lt_succ_self limit) more held twins shows lively calm (by omega)
  cases turn : nextStep session.decoder.state session.encoder.state with
  | finish =>
    rw [Nat.succ_eq_add_one, Nat.add_right_comm]
    unfold TranscodePlan.drive
    rw [turn]
    exact agrees_pure (newest_abreast twins.toTwins held)
  | drainEncoder =>
    rw [Nat.succ_eq_add_one, Nat.add_right_comm]
    unfold TranscodePlan.drive
    rw [turn]
    exact onward calm (sparing_agrees (TranscodePlan.drainEncoder_uses.weaken fun _ =>
        Call.IsDownstream.sparesDemuxers) reading)
      (drainEncoder_goes lively (nextStep_eq_drainEncoder.mp turn) shows)
  | drainDecoder =>
    obtain ⟨polled, encoderRuns, -⟩ := nextStep_eq_drainDecoder.mp turn
    have encodes : session.encoder.isDone = false := by simp [Machine.isDone, encoderRuns]
    rw [Nat.succ_eq_add_one, Nat.add_right_comm]
    unfold TranscodePlan.drive
    rw [turn]
    exact onward calm (sparing_agrees TranscodePlan.drainDecoder_spares reading)
      (drainDecoder_goes lively polled encodes shows)
  | idle =>
    have lockstep (level : session.feeding = true →
        Demuxer.TwinsLevel source plan.track.index stage.demuxer tight) :
        (plan.drive limit.succ session).Agrees (plan.drive (limit.succ + more) session)
          (Rig.world Bench.answer patience) (Rig.Twinned source (some plan.track.index) count)
          (Rig.Twinned source (some plan.track.index) count) ahead behind := by
      rw [Nat.succ_eq_add_one, Nat.add_right_comm]
      unfold TranscodePlan.drive
      rw [turn]
      exact onward calm.toReliable (beginCycle_agrees twins level held)
        (beginCycle_goes lively turn shows)
    cases feeding : session.feeding with
    | false => exact lockstep fun feeds => absurd (feeding.symm.trans feeds) Bool.false_ne_true
    | true =>
      cases comes : stage.demuxer.upcoming with
      | nil => exact lockstep fun _ => twins.level fun sample first => by simp [comes] at first
      | cons sample later =>
        by_cases own : sample.track = plan.track.index
        · refine lockstep fun _ => twins.level fun next first => ?_
          rw [comes] at first
          cases first
          exact own
        · -- The leaking side alone goes through a cycle, and passes over the sample.
          have less := effort_passed lively feeding comes
          obtain ⟨fewer, rfl⟩ : ∃ fewer, limit = fewer + 2 := ⟨limit - 2, by omega⟩
          unfold Agrees
          rw [show (fewer + 2).succ = fewer + 3 from rfl, run_drive_foreign shows leakyStands lively calm
            held.outside.device.isFaultless turn feeding comes own, Nat.add_right_comm, Nat.add_assoc]
          exact ih fewer (by omega) (more + 3) ⟨held.reporter, held.announced, held.outside.passed⟩
            (twins.pass comes own) shows.passed { lively with reads := lively.reads.advance }
            { calm with } (by omega)

theorem drive_agrees_of_isFresh (held : Abreast (Rig.Beside (NewestAre leaky tight) count) ahead behind)
    (level : Demuxer.TwinsLevel source plan.track.index leaky tight)
    (fresh : ahead.outside.device.IsFresh {}) (enough : 9 * leaky.upcoming.length + 15 < limit) :
    (plan.drive limit {}).Agrees (plan.drive limit {}) (Rig.world Bench.answer patience)
      (Rig.Twinned source (some plan.track.index) count)
      (Rig.Twinned source (some plan.track.index) count) ahead behind := by
  obtain ⟨stands, -⟩ := held.outside.stands
  obtain ⟨stage, shows, lively, -, reliable, effort⟩ :=
    lively_of_isFresh level.leakyReads stands.newest fresh
  obtain ⟨limit, rfl⟩ := Nat.exists_eq_succ_of_ne_zero (Nat.ne_of_gt (Nat.zero_lt_of_lt enough))
  exact @drive_after patience count limit 0 plan ahead behind source (plan.beginCycle {}) _ _
    (beginCycle_agrees level.toTwinsReading (fun _ => level) held) (beginCycle_goes lively rfl shows)
    (reliable rfl) fun next stage leaky tight left right held twins shows lively calm less =>
      drive_agrees limit 0 held twins shows lively calm (by
        simp only [Nat.mul_zero, Nat.add_zero] at effort
        omega)

theorem runSelected_agrees (few : 9 * source.samples.length + 15 < patience)
    (twins : Demuxer.Twins source (some plan.track.index) leaky tight)
    (held : Abreast (Rig.Beside (NewestAre leaky tight) count) ahead behind) :
    plan.runSelected.Agrees plan.runSelected (Rig.world Bench.answer patience)
      (Rig.Twinned source (some plan.track.index) count)
      (Rig.Twinned source (some plan.track.index) count) ahead behind := by
  have level := twins.seek plan.window.seekTarget .previousSync
  have settled {left right : Desk (Rig Bench)} (held : Abreast (Rig.Beside (NewestAre
      (leaky.seek plan.window.seekTarget .previousSync)
      (tight.seek plan.window.seekTarget .previousSync)) count) left right) :=
    newest_abreast level.toTwins held
  have coming := (leaky.seek plan.window.seekTarget .previousSync).length_upcoming_le
  rw [level.leakySource] at coming
  refine agrees_ask held (held.outside.stored (held.outside.storage.seek _ _)) fun left right held =>
    agrees_settle (settled held) fun _ _ => ?_
  refine agrees_ask held (held.outside.stored (held.outside.storage.listed level.toTwins _ trivial))
    fun left right held => agrees_settle (settled held) fun input _ => ?_
  have faultless := held.outside.device.isFaultless
  refine agrees_bind (sparing_agrees (TranscodePlan.openCodecs_uses.weaken fun _ =>
    Call.IsCodecSetting.sparesDemuxers) held) (fun _ _ beside => beside.imp fun _ _ newest =>
      ⟨_, _, newest, level.toTwins⟩) fun _ left right opened held => ?_
  obtain ⟨-, fresh⟩ := (openCodecs_lasts faultless.catalog).of_ok opened
  refine agrees_ensuring (interrupts_sparing.tidies_shadows (TranscodePlan.closeCodecs_tidies.weaken
    fun _ => Call.IsCodecSetting.sparesDemuxers)) ?_
  show (plan.drive patience {} >>= plan.finish).Agrees (plan.drive patience {} >>= plan.finish) _ _ _
    left right
  refine Agrees.bind (drive_agrees_of_isFresh held level fresh (by omega))
    fun last left right _ held => sparing_agrees ?_ held
  exact .bind (TranscodePlan.register_uses.weaken fun _ => Call.IsDownstream.sparesDemuxers)
    fun _ => .pure _

theorem transcode_agrees (few : 9 * source.samples.length + 15 < patience)
    (held : Abreast (Rig.Twinned source none count) ahead behind) :
    (transcode plan).Agrees (transcode plan) (Rig.world Bench.answer patience)
      (Rig.Twinned source none count) (Rig.Apart count) ahead behind :=
  selected_agrees (fun _ _ _ _ twins held => runSelected_agrees few twins held) held

end

end Recode.Simulation
