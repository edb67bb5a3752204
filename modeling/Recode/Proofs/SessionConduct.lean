import Recode.Proofs.Conduct

/-!
What sessions are made of. Every part of them is said to use only calls of some kind, and the kinds
say what the part leaves alone: a copy writes only samples of its own kind, codecs are opened and
closed without a word to anyone, and no session begins a movie.
-/

namespace Recode.Session
open Recode.Media Recode.Container Recode.Device Recode.Progress
open Recode.Session.Work

namespace Call

def IsCopying (isAudio : Bool) : Call → Prop
  | .storage (.select _) | .storage (.unselect _) | .storage (.seek _ _)
  | .storage .currentTrack | .storage .currentTime | .storage .currentFlags
  | .storage (.read _) | .storage .advance => True
  | .storage (.addTrack _ kind) | .storage (.write _ _ _ kind) => kind = isAudio
  | .client .isCancelled | .client (.deliver _) => True
  | _ => False

def IsReading (isAudio : Bool) : Call → Prop
  | .storage (.select _) | .storage (.unselect _) | .storage (.addTrack _ _) => False
  | call => call.IsCopying isAudio

def IsCodecSetting : Call → Prop
  | .device call => IsSetting (.device call)
  | _ => False

def StaysWithMovie : Call → Prop
  | .storage (.createMovie _ _) => False
  | _ => True

/-- Calls of a session that is set up: those before the encoder's output and those that bring it to
the destination. -/
def IsStepping (call : Call) : Prop := call.IsUpstream ∨ call.IsDownstream

def IsRunning : Call → Prop
  | .storage (.seek _ _) | .storage (.trackFormat _) => True
  | call => call.IsCodecSetting ∨ call.IsStepping

/-- Calls by which tracks come to the movie under way. No container is opened or closed by them, and
no file is touched. -/
def WorksOnTracks : Call → Prop
  | .storage (.openSource _) | .storage (.createMovie _ _) | .storage .releaseDemuxer
  | .storage .finalize | .client (.openFile _) | .client (.removeFile _) | .device .codecs => False
  | _ => True

def ReadsNothing : Call → Prop
  | .storage (.read _) => False
  | _ => True

theorem IsReading.isCopying {isAudio : Bool} {call : Call} (reading : call.IsReading isAudio) :
    call.IsCopying isAudio := by
  unfold IsReading at reading
  split at reading
  · exact reading.elim
  · exact reading.elim
  · exact reading.elim
  · exact reading

theorem IsCodecSetting.isSetting {call : Call} (setting : call.IsCodecSetting) : call.IsSetting := by
  unfold IsCodecSetting at setting
  split at setting
  · exact setting
  · exact setting.elim

theorem WorksOnTracks.staysWithMovie {call : Call} (works : call.WorksOnTracks) :
    call.StaysWithMovie := by
  unfold StaysWithMovie
  split
  next path settings => exact works
  next other => trivial

theorem IsCopying.worksOnTracks {isAudio : Bool} {call : Call} (copying : call.IsCopying isAudio) :
    call.WorksOnTracks := by
  unfold IsCopying at copying
  split at copying <;> trivial

theorem IsSetting.worksOnTracks {call : Call} (setting : call.IsSetting) : call.WorksOnTracks := by
  unfold IsSetting at setting
  split at setting <;> trivial

theorem IsStepping.worksOnTracks {call : Call} (stepping : call.IsStepping) :
    call.WorksOnTracks := by
  unfold WorksOnTracks
  split
  all_goals first
    | exact stepping.elim id id
    | trivial

theorem IsCodecSetting.isRunning {call : Call} (setting : call.IsCodecSetting) : call.IsRunning := by
  unfold IsRunning
  split
  · trivial
  · trivial
  · exact .inl setting

theorem IsStepping.isRunning {call : Call} (stepping : call.IsStepping) : call.IsRunning := by
  unfold IsRunning
  split
  · trivial
  · trivial
  · exact .inr stepping

theorem IsHandling.readsNothing {call : Call} (handles : call.IsHandling) : call.ReadsNothing := by
  unfold ReadsNothing
  split
  next room => exact handles
  next other => trivial

theorem IsDownstream.readsNothing {call : Call} (downstream : call.IsDownstream) :
    call.ReadsNothing := by
  unfold ReadsNothing
  split
  next room => exact downstream
  next other => trivial

theorem IsRunning.worksOnTracks {call : Call} (running : call.IsRunning) : call.WorksOnTracks := by
  unfold IsRunning at running
  split at running
  · trivial
  · trivial
  · exact running.elim (fun setting => setting.isSetting.worksOnTracks) IsStepping.worksOnTracks

end Call

variable {σ : Type}

namespace CopyPlan
variable {plan : CopyPlan}

theorem store_uses {calls : Call → Prop} (looks : calls (.storage .currentFlags))
    (writes : ∀ buffer info,
      calls (.storage (.write plan.destination buffer info plan.track.isAudio)))
    (tells : ∀ event, calls (.client (.deliver event))) {copying : CopyStanding} {size : Nat}
    {time : Int} : (plan.store copying size time : Work σ CopyStanding).Uses calls := by
  refine .bind (.call looks trivial) fun flags => .written (writes _ _) fun stored => ?_
  split
  next written =>
    dsimp only
    split
    next reporting => exact .bind (.report tells time) fun _ => .pure _
    next silent => exact .pure _
  next empty => exact .pure copying

def handle (plan : CopyPlan) (copying : CopyStanding) :
    Option Bytes → Work σ (CopyStanding × Bool)
  | none => return (copying, false)
  | some data => do
      let copying := copying.holding data
      let time := (← storage .currentTime).getD 0
      if plan.window.hasEnded time then return (copying, false)
      let copying ← plan.store copying data.size time
      return (copying, ← storage .advance)

theorem handle_uses {copying : CopyStanding} (found : Option Bytes) :
    (plan.handle copying found : Work σ (CopyStanding × Bool)).Uses fun call =>
      call.IsReading plan.track.isAudio ∧ call.ReadsNothing := by
  cases found with
  | none => exact .pure _
  | some data =>
    refine .bind (.call ⟨trivial, trivial⟩ trivial) fun time => ?_
    dsimp only
    split
    next ended => exact .pure _
    next inside =>
      exact .bind (store_uses ⟨trivial, trivial⟩ (fun _ _ => ⟨rfl, trivial⟩)
        fun _ => ⟨trivial, trivial⟩) fun _ => .bind (.call ⟨trivial, trivial⟩ trivial) fun _ => .pure _

theorem round_uses {copying : CopyStanding} :
    (plan.round copying : Work σ (CopyStanding × Bool)).Uses
      (Call.IsReading plan.track.isAudio) := by
  refine .bind (.check trivial) fun _ => .bind (.call trivial trivial) fun current => ?_
  cases current with
  | none => exact .pure _
  | some index =>
    dsimp only
    split
    next foreign => exact .bind (.call trivial trivial) fun _ => .pure _
    next own =>
      exact .granted (.call trivial trivial) fun found => (handle_uses found).weaken fun _ => And.left

theorem rounds_uses (limit : Nat) (copying : CopyStanding) :
    (plan.rounds limit copying : Work σ CopyStanding).Uses
      (Call.IsReading plan.track.isAudio) := by
  induction limit generalizing copying with
  | zero => exact .stop .stalled
  | succ limit ih =>
    refine .bind round_uses fun result => ?_
    dsimp only
    split
    next more => exact ih result.1
    next done => exact .pure result.1

theorem run_uses (plan : CopyPlan) :
    (plan.run : Work σ CopyOutcome).Uses (Call.IsReading plan.track.isAudio) :=
  .granted (.call trivial trivial) fun _ => .bind .patience fun limit =>
    .bind (rounds_uses limit _) fun copied => .pure copied.toCopyOutcome

end CopyPlan

theorem copyTrack_uses {track : Track} {window : Window} {reporting : Bool} :
    (copyTrack track window reporting : Work σ CopyOutcome).Uses
      (Call.IsCopying track.isAudio) := by
  refine .granted (.call rfl trivial) fun destination => ?_
  cases track.format.maxInputSize with
  | none => exact .stop _
  | some room =>
    refine .granted (.call trivial trivial) fun _ => .attempted ?_ trivial trivial
    exact (CopyPlan.run_uses ⟨_, _, _, _, _⟩).weaken fun _ => Call.IsReading.isCopying

namespace TranscodePlan
variable {plan : TranscodePlan}

theorem dequeueInput_uses {side : Side} {calls : Call → Prop}
    (allowed : calls (.device (.dequeueInput side plan.timeout))) :
    (plan.dequeueInput side : Work σ (Option Nat)).Uses calls :=
  .bind (.call allowed trivial) fun _ => .settle

theorem dequeueOutput_uses {side : Side} {calls : Call → Prop}
    (allowed : calls (.device (.dequeueOutput side plan.timeout))) :
    (plan.dequeueOutput side : Work σ OutputStatus).Uses calls :=
  .poll allowed

theorem endFeeding_uses {session : Standing} {slot : Nat} {content : Bytes} :
    (endFeeding session slot content : Work σ Standing).Uses fun call =>
      call.IsFeeding ∧ call.ReadsNothing :=
  .granted (.call ⟨trivial, trivial⟩ trivial) fun _ => .pure _

theorem endFeeding_yields {session : Standing} {slot : Nat} {content : Bytes} :
    (endFeeding session slot content : Work σ Standing).Yields (·.output = session.output) :=
  yields_after fun _ => yields_after fun _ => yields_pure rfl

def fill (session : Standing) (slot : Nat) (buffer : Bytes) : Option Bytes → Work σ Standing
  | none => endFeeding session slot buffer
  | some data => do
      let time := (← storage .currentTime).getD 0
      settle (← device (.queueInput .decoder slot (overlay data buffer) ⟨data.size, 0, time, .none⟩))
      let _ ← storage .advance
      tell (.report time)
      return session

theorem fill_uses {session : Standing} {slot : Nat} {buffer : Bytes} (found : Option Bytes) :
    (fill session slot buffer found : Work σ Standing).Uses fun call =>
      call.IsFeeding ∧ call.ReadsNothing := by
  cases found with
  | none => exact endFeeding_uses
  | some data =>
    refine .bind (.call ⟨trivial, trivial⟩ trivial) fun time => ?_
    refine .granted (.call ⟨trivial, trivial⟩ trivial) fun _ => ?_
    refine .bind (.call ⟨trivial, trivial⟩ trivial) fun _ => ?_
    exact .bind (.report (fun _ => ⟨trivial, trivial⟩) _) fun _ => .pure _

theorem feed_uses {session : Standing} :
    (plan.feed session : Work σ Standing).Uses Call.IsUpstream := by
  refine .bind (.call trivial trivial) fun current => ?_
  cases current with
  | none =>
    refine .bind (dequeueInput_uses trivial) fun lent => ?_
    cases lent with
    | none => exact .pure _
    | some slot => exact endFeeding_uses.weaken fun _ allowed => allowed.1.isUpstream
  | some index =>
    dsimp only
    split
    next foreign => exact .bind (.call trivial trivial) fun _ => .pure _
    next own =>
      refine .bind (dequeueInput_uses trivial) fun lent => ?_
      cases lent with
      | none => exact .pure _
      | some slot =>
        refine .granted (.call trivial trivial) fun buffer => ?_
        exact .granted (.call trivial trivial) fun found =>
          (fill_uses found).weaken fun _ allowed => allowed.1.isUpstream

theorem feed_yields {session : Standing} :
    (plan.feed session : Work σ Standing).Yields (·.output = session.output) := by
  refine yields_after fun current => ?_
  cases current with
  | none =>
    refine yields_after fun lent => ?_
    cases lent with
    | none => exact yields_pure rfl
    | some slot => exact endFeeding_yields
  | some index =>
    refine yields_ite (yields_after fun _ => yields_pure rfl) (yields_after fun lent => ?_)
    cases lent with
    | none => exact yields_pure rfl
    | some slot =>
      refine yields_after fun _ => yields_after fun buffer => yields_after fun _ =>
        yields_after fun found => ?_
      cases found with
      | none => exact endFeeding_yields
      | some data =>
        refine yields_after fun _ => yields_after fun _ => yields_after fun _ => ?_
        exact yields_after fun _ => yields_after fun _ => yields_pure rfl

theorem signalEnd_uses {session : Standing} :
    (plan.signalEnd session : Work σ Standing).Uses Call.IsEnding := by
  unfold signalEnd
  dsimp only
  split
  next surface => exact .granted (.call trivial trivial) fun _ => .pure _
  next raw =>
    refine .bind (dequeueInput_uses trivial) fun lent => ?_
    cases lent with
    | none => exact .pure _
    | some slot =>
      have isEnd : Flags.endOfStream.isEndOfStream = true := rfl
      exact .granted (.call isEnd trivial) fun _ => .pure _

theorem signalEnd_yields {session : Standing} :
    (plan.signalEnd session : Work σ Standing).Yields (·.output = session.output) := by
  refine yields_ite (yields_after fun _ => yields_after fun _ => yields_pure rfl)
    (yields_after fun lent => ?_)
  cases lent with
  | none => exact yields_pure rfl
  | some slot => exact yields_after fun _ => yields_after fun _ => yields_pure rfl

theorem register_uses {session : Standing} {format : Format} :
    (register session format : Work σ Standing).Uses Call.IsDownstream := by
  unfold register
  split
  next known => exact .pure _
  next unknown => exact .granted (.call trivial trivial) fun _ => .pure _

theorem storeEncoded_uses {session : Standing} {index : Nat} {info : SampleInfo} :
    (plan.storeEncoded session index info : Work σ Standing).Uses Call.IsDownstream := by
  refine .granted (.call trivial trivial) fun buffer => ?_
  split
  next isConfig =>
    split
    next known => exact .pure _
    next unknown =>
      split
      next misses => exact .stop _
      next configuration found => exact register_uses
  next isSample =>
    split
    next unknown => exact .stop _
    next track known =>
      refine .written trivial fun stored => ?_
      split
      next written => exact .pure _
      next empty => exact .pure _

theorem drainEncoder_uses {session : Standing} :
    (plan.drainEncoder session : Work σ Standing).Uses Call.IsDownstream := by
  simp only [drainEncoder, ite_bind]
  refine .bind (dequeueOutput_uses trivial) fun status => ?_
  cases status with
  | tryAgainLater => exact .pure _
  | buffersChanged => exact .pure _
  | formatChanged format => exact .bind register_uses fun _ => .pure _
  | buffer index info =>
    have stored : (if 1 < info.size then plan.storeEncoded session index info else pure session :
        Work σ Standing).Uses Call.IsDownstream :=
      .ite (fun long => storeEncoded_uses) fun short => .pure _
    exact .bind stored fun _ => .granted (.call trivial trivial) fun _ => .pure _

theorem submit_uses {time : Int} :
    (plan.submit time : Work σ Bool).Uses Call.IsHandling := by
  unfold submit
  split
  next surface =>
    refine .granted (.call trivial trivial) fun frame => ?_
    refine .bind (.call trivial trivial) fun _ => ?_
    exact .granted (.call trivial trivial) fun _ => .pure _
  next raw =>
    refine .bind (dequeueInput_uses trivial) fun lent => ?_
    cases lent with
    | none => exact .pure _
    | some slot =>
      refine .granted (.call trivial trivial) fun frame => ?_
      refine .granted (.call trivial trivial) fun buffer => ?_
      refine .bind .settle fun converted => ?_
      exact .granted (.call trivial trivial) fun _ => .pure _

theorem renderFrame_uses {session : Standing} {time : Int} :
    (plan.renderFrame session time : Work σ Standing).Uses Call.IsHandling := by
  refine .bind (.call trivial trivial) fun delivered => ?_
  cases delivered with
  | error refused => exact .pure _
  | ok _ =>
    refine .bind submit_uses fun taken => ?_
    cases taken with
    | false => exact .pure _
    | true => exact .pure _

theorem renderFrame_yields {session : Standing} {time : Int} :
    (plan.renderFrame session time : Work σ Standing).Yields (·.output = session.output) := by
  refine yields_after fun delivered => ?_
  cases delivered with
  | error refused => exact yields_pure rfl
  | ok _ => exact yields_after fun taken => yields_ite (yields_pure rfl) (yields_pure rfl)

theorem handleDecoded_uses {session : Standing} {index : Nat} {info : SampleInfo} :
    (plan.handleDecoded session index info : Work σ Standing).Uses Call.IsHandling := by
  simp only [handleDecoded, ite_bind]
  refine .granted (.call trivial trivial) fun _ =>
    .bind (.ite (fun wanted => renderFrame_uses) fun skipped => .pure _) fun next => ?_
  split
  next ends => exact signalEnd_uses.weaken fun _ => Call.IsEnding.isHandling
  next goesOn => exact .pure _

theorem handleDecoded_yields {session : Standing} {index : Nat} {info : SampleInfo} :
    (plan.handleDecoded session index info : Work σ Standing).Yields (·.output = session.output) := by
  have rendered (wanted : Bool) (next : Standing) :
      (if wanted then plan.renderFrame next info.time else pure next : Work σ Standing).Yields
        (·.output = next.output) := yields_ite renderFrame_yields (yields_pure rfl)
  simp only [handleDecoded, ite_bind]
  refine yields_after fun _ => yields_after fun _ => (rendered _ _).bind fun next same => ?_
  refine yields_ite (fun world desk => ?_) (yields_pure same)
  exact (signalEnd_yields world desk).imp (fun _ _ told => told.trans same) fun _ _ => id

theorem drainDecoder_uses_of {session : Standing} {calls : Call → Prop}
    (polls : calls (.device (.dequeueOutput .decoder plan.timeout)))
    (handles : ∀ call, call.IsHandling → calls call) :
    (plan.drainDecoder session : Work σ Standing).Uses calls := by
  refine .bind (dequeueOutput_uses polls) fun status => ?_
  cases status with
  | tryAgainLater => exact .pure _
  | buffersChanged => exact .pure _
  | formatChanged format => exact .pure _
  | buffer index info => exact .bind (handleDecoded_uses.weaken handles) fun _ => .pure _

theorem drainDecoder_uses {session : Standing} :
    (plan.drainDecoder session : Work σ Standing).Uses Call.IsUpstream :=
  drainDecoder_uses_of trivial fun _ => Call.IsHandling.isUpstream

theorem drainDecoder_yields {session : Standing} :
    (plan.drainDecoder session : Work σ Standing).Yields (·.output = session.output) := by
  refine yields_after fun status => ?_
  cases status with
  | tryAgainLater => exact yields_pure rfl
  | buffersChanged => exact yields_pure rfl
  | formatChanged format => exact yields_pure rfl
  | buffer index info => exact handleDecoded_yields.bind fun next same => yields_pure same

theorem beginCycle_uses {session : Standing} :
    (plan.beginCycle session : Work σ Standing).Uses Call.IsUpstream := by
  have told (next : Standing) : (if next.endPending then plan.signalEnd next else pure next :
      Work σ Standing).Uses Call.IsUpstream :=
    .ite (fun pending => signalEnd_uses.weaken fun _ ends => ends.isHandling.isUpstream)
      fun told => .pure _
  simp only [beginCycle, ite_bind]
  refine .bind (.check trivial) fun _ => ?_
  refine .bind (.ite (fun feeding => feed_uses) fun fed => .pure _) fun next => ?_
  exact .bind (told next) fun _ => .pure _

theorem beginCycle_yields {session : Standing} :
    (plan.beginCycle session : Work σ Standing).Yields (·.output = session.output) := by
  have told (next : Standing) : (if next.endPending then plan.signalEnd next else pure next :
      Work σ Standing).Yields (·.output = next.output) := yields_ite signalEnd_yields (yields_pure rfl)
  have fed : (if session.feeding then plan.feed session else pure session : Work σ Standing).Yields
      (·.output = session.output) := yields_ite feed_yields (yields_pure rfl)
  simp only [beginCycle, ite_bind]
  exact yields_after fun _ => fed.bind fun next same => (told next).bind fun last later =>
    yields_pure (later.trans same)

theorem drive_uses (limit : Nat) (session : Standing) :
    (plan.drive limit session : Work σ Standing).Uses Call.IsStepping := by
  induction limit generalizing session with
  | zero => exact .stop .stalled
  | succ limit ih =>
    unfold drive
    split
    next finish => exact .pure _
    next idle => exact .bind (beginCycle_uses.weaken fun _ => .inl) ih
    next encoder => exact .bind (drainEncoder_uses.weaken fun _ => .inr) ih
    next decoder => exact .bind (drainDecoder_uses.weaken fun _ => .inl) ih

theorem shutDown_tidies {side : Side} : (shutDown side : Work σ Unit).Tidies Call.IsCodecSetting :=
  .bind (.call trivial trivial) fun _ => .call trivial trivial

theorem releaseSurface_tidies : (plan.releaseSurface : Work σ Unit).Tidies Call.IsCodecSetting := by
  unfold releaseSurface
  split
  next surface => exact .call trivial trivial
  next raw => exact .pure ()

theorem closeCodecs_tidies : (plan.closeCodecs : Work σ Unit).Tidies Call.IsCodecSetting :=
  .bind (.call trivial trivial) fun _ => .bind releaseSurface_tidies fun _ =>
    .bind shutDown_tidies fun _ => shutDown_tidies

theorem openCodecs_uses {input : Format} :
    (plan.openCodecs input : Work σ Unit).Uses Call.IsCodecSetting := by
  have surface : (if plan.surfaceInput then device .createSurface >>= settle else pure () :
      Work σ Unit).Uses Call.IsCodecSetting :=
    .ite (fun surface => .bind (.call trivial trivial) fun _ => .settle) fun raw => .pure ()
  simp only [openCodecs, ite_settle]
  refine .granted (.call trivial trivial) fun _ => .undoing shutDown_tidies ?_
  refine .granted (.call trivial trivial) fun _ => .bind surface fun _ => ?_
  refine .undoing releaseSurface_tidies ?_
  refine .granted (.call trivial trivial) fun _ => .granted (.call trivial trivial) fun _ => ?_
  refine .undoing (.call trivial trivial) (.granted (.call trivial trivial) fun _ => ?_)
  refine .undoing shutDown_tidies (.granted (.call trivial trivial) fun _ => ?_)
  exact .bind (.call trivial trivial) fun _ => .settle

theorem finish_uses {session : Standing} :
    (plan.finish session : Work σ TranscodeOutcome).Uses Call.IsStepping :=
  .bind (register_uses.weaken fun _ => .inr) fun _ => .pure _

theorem runSelected_uses (plan : TranscodePlan) :
    (plan.runSelected : Work σ TranscodeOutcome).Uses Call.IsRunning := by
  have sets (call : Call) : call.IsCodecSetting → call.IsRunning := Call.IsCodecSetting.isRunning
  have steps (call : Call) : call.IsStepping → call.IsRunning := Call.IsStepping.isRunning
  refine .granted (.call trivial trivial) fun _ => .granted (.call trivial trivial) fun input => ?_
  refine .bind (openCodecs_uses.weaken sets) fun _ => .ensuring (closeCodecs_tidies.weaken sets) ?_
  exact .bind .patience fun limit => .bind ((drive_uses limit _).weaken steps) fun _ =>
    finish_uses.weaken steps

end TranscodePlan

theorem transcode_uses {plan : TranscodePlan} :
    (transcode plan : Work σ TranscodeOutcome).Uses Call.WorksOnTracks :=
  .granted (.call trivial trivial) fun _ => .attempted
    (plan.runSelected_uses.weaken fun _ => Call.IsRunning.worksOnTracks) trivial trivial

end Recode.Session
