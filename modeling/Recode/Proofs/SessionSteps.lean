import Recode.Proofs.Histories
import Recode.Session.Transcode

/-!
A transcode goes by steps: a cycle begins, the encoder is polled, or the decoder is. What each step
keeps is kept by the whole transcode, provided that setting up and taking down disturb nothing.
-/

namespace Recode.Session
open Recode.Media Recode.Container Recode.Device Recode.Picture Recode.Progress
open Recode.Session.Work

namespace Call

def IsSetting : Call → Prop
  | .storage (.select _) | .storage (.unselect _) | .storage (.seek _ _)
  | .storage (.trackFormat _) => True
  | .device (.createEncoder _) | .device (.createDecoder _) | .device (.configure _ _)
  | .device (.start _) | .device (.stop _) | .device (.release _) | .device .createSurface
  | .device .releaseSurface | .device (.createTransform _) | .device .releaseTransform => True
  | _ => False

def IsClient : Call → Prop
  | .client _ => True
  | _ => False

def IsFeeding : Call → Prop
  | .client .isCancelled | .client (.deliver _) => True
  | .storage .currentTrack | .storage .currentTime | .storage (.read _) | .storage .advance => True
  | .device (.dequeueInput .decoder _) | .device (.inputBuffer .decoder _)
  | .device (.queueInput .decoder _ _ _) => True
  | _ => False

def IsEnding : Call → Prop
  | .device .signalEnd | .device (.dequeueInput .encoder _) => True
  | .device (.queueInput .encoder _ _ info) => info.flags.isEndOfStream = true
  | _ => False

/-- Calls by which what the decoder has put out comes to the encoder. -/
def IsHandling : Call → Prop
  | .device (.dequeueInput .encoder _) | .device (.inputBuffer .encoder _)
  | .device (.queueInput .encoder _ _ _) | .device (.releaseOutput .decoder _ _)
  | .device .awaitImage | .device .drawImage | .device (.presentAt _) | .device (.swap _)
  | .device .signalEnd => True
  | _ => False

/-- Calls before the encoder's output: feeding, decoding, drawing and submitting. -/
def IsUpstream : Call → Prop
  | .device (.dequeueInput .encoder _) | .device (.inputBuffer .encoder _)
  | .device (.queueInput .encoder _ _ _) | .device (.dequeueOutput .decoder _)
  | .device (.releaseOutput .decoder _ _) | .device .awaitImage | .device .drawImage
  | .device (.presentAt _) | .device (.swap _) | .device .signalEnd => True
  | call => call.IsFeeding

/-- Calls before the encoder's output that neither poll the decoder nor hand a frame to the encoder. -/
def IsQuiet : Call → Prop
  | .device (.dequeueOutput .decoder _) | .device (.swap _) => False
  | .device (.queueInput .encoder _ _ info) => info.flags.isEndOfStream = true
  | call => call.IsUpstream

def IsSupplying : Call → Prop
  | .device .signalEnd | .device (.dequeueInput .encoder _) => True
  | .device (.queueInput .encoder _ _ info) => info.flags.isEndOfStream = true
  | call => call.IsFeeding

def IsStoring : Call → Prop
  | .device (.encodedBuffer _) | .device (.releaseOutput .encoder _ _) | .storage (.addTrack _ _)
  | .storage (.write _ _ _ _) => True
  | _ => False

def IsDownstream : Call → Prop
  | .device (.dequeueOutput .encoder _) | .device (.encodedBuffer _)
  | .device (.releaseOutput .encoder _ _) | .storage (.addTrack _ _)
  | .storage (.write _ _ _ _) => True
  | _ => False

theorem IsFeeding.isUpstream {call : Call} (feeds : call.IsFeeding) : call.IsUpstream := by
  unfold IsUpstream
  split <;> trivial

theorem IsFeeding.isSupplying {call : Call} (feeds : call.IsFeeding) : call.IsSupplying := by
  unfold IsSupplying
  split
  · trivial
  · trivial
  · exact feeds.elim
  · exact feeds

theorem IsEnding.isSupplying {call : Call} (ending : call.IsEnding) : call.IsSupplying := by
  unfold IsEnding at ending
  split at ending
  · trivial
  · trivial
  · exact ending
  · exact ending.elim

theorem IsEnding.isHandling {call : Call} (ending : call.IsEnding) : call.IsHandling := by
  unfold IsEnding at ending
  split at ending
  · trivial
  · trivial
  · trivial
  · exact ending.elim

theorem IsHandling.isUpstream {call : Call} (handles : call.IsHandling) : call.IsUpstream := by
  unfold IsHandling at handles
  split at handles <;> first | exact handles.elim | trivial

theorem IsStoring.isDownstream {call : Call} (stores : call.IsStoring) : call.IsDownstream := by
  unfold IsStoring at stores
  split at stores <;> first | exact stores.elim | trivial

theorem IsSupplying.isQuiet {call : Call} (supplies : call.IsSupplying) : call.IsQuiet := by
  unfold IsSupplying at supplies
  split at supplies
  · trivial
  · trivial
  · exact supplies
  · unfold IsQuiet
    split
    · exact supplies
    · exact supplies
    · exact supplies.elim
    · exact supplies.isUpstream

theorem IsQuiet.isUpstream {call : Call} (isQuiet : call.IsQuiet) : call.IsUpstream := by
  unfold IsQuiet at isQuiet
  split at isQuiet
  · exact isQuiet.elim
  · exact isQuiet.elim
  · trivial
  · exact isQuiet

end Call

structure FrameCount where
  firstTime : Option Int
  rendered : Nat
  dropped : Nat
  deriving DecidableEq, Repr

def Standing.frames (session : Standing) : FrameCount :=
  ⟨session.firstTime, session.rendered, session.dropped⟩

def TranscodeOutcome.frames (outcome : TranscodeOutcome) : FrameCount :=
  ⟨outcome.firstTime, outcome.rendered, outcome.dropped⟩

def Standing.output (session : Standing) : Option Nat × Nat :=
  (session.destination, session.written)

def Standing.tally (session : Standing) : (Option Nat × Nat) × FrameCount :=
  (session.output, session.frames)

def Standing.input (session : Standing) : Machine × Bool × Bool × Int × Option Int × Nat × Nat :=
  (session.decoder, session.feeding, session.endPending, session.decodedTime, session.firstTime,
    session.rendered, session.dropped)

theorem Standing.frames_eq {session next : Standing} (same : next.input = session.input) :
    next.frames = session.frames := by
  simp only [Standing.input, Prod.mk.injEq] at same
  simp only [Standing.frames, same]

namespace TranscodePlan
variable {σ : Type} {plan : TranscodePlan}

theorem dequeueInput_asks {side : Side} {allowed : Call → Prop}
    (allows : allowed (.device (.dequeueInput side plan.timeout))) :
    (plan.dequeueInput side : Work (History × σ) (Option Nat)).Asks allowed fun _ => True :=
  asks_bind (asks_ask allows) fun _ _ => asks_settle.imp fun _ _ => trivial

theorem endFeeding_asks {session : Standing} {slot : Nat} {content : Bytes} :
    (endFeeding session slot content : Work (History × σ) Standing).Asks Call.IsFeeding
      (·.tally = session.tally) :=
  asks_granted (asks_ask trivial) fun _ _ => asks_pure rfl

theorem feed_asks {session : Standing} :
    (plan.feed session : Work (History × σ) Standing).Asks Call.IsFeeding
      (·.tally = session.tally) := by
  apply asks_bind (asks_ask trivial)
  intro current _
  cases current with
  | none =>
    apply asks_bind (dequeueInput_asks trivial)
    intro slot _
    cases slot with
    | none => exact asks_pure rfl
    | some slot => exact endFeeding_asks
  | some index =>
    dsimp only
    split
    next foreign => exact asks_bind (asks_ask trivial) fun _ _ => asks_pure rfl
    next own =>
      apply asks_bind (dequeueInput_asks trivial)
      intro slot _
      cases slot with
      | none => exact asks_pure rfl
      | some slot =>
        apply asks_granted (asks_ask trivial)
        intro buffer _
        apply asks_granted (asks_ask trivial)
        intro data _
        cases data with
        | none => exact endFeeding_asks
        | some data =>
          apply asks_bind (asks_ask trivial)
          intro _ _
          apply asks_granted (asks_ask trivial)
          intro _ _
          apply asks_bind (asks_ask trivial)
          intro _ _
          exact asks_bind (asks_tell fun _ => trivial) fun _ _ => asks_pure rfl

theorem signalEnd_asks_ending {session : Standing} :
    (plan.signalEnd session : Work (History × σ) Standing).Asks Call.IsEnding
      (·.tally = session.tally) := by
  unfold signalEnd
  dsimp only
  split
  next surface => exact asks_granted (asks_ask trivial) fun _ _ => asks_pure rfl
  next raw =>
    apply asks_bind (dequeueInput_asks trivial)
    intro slot _
    cases slot with
    | none => exact asks_pure rfl
    | some slot =>
      have isEnd : Flags.endOfStream.isEndOfStream = true := rfl
      exact asks_granted (asks_ask isEnd) fun _ _ => asks_pure rfl

theorem signalEnd_asks {session : Standing} :
    (plan.signalEnd session : Work (History × σ) Standing).Asks Call.IsSupplying
      (·.tally = session.tally) :=
  signalEnd_asks_ending.weaken fun _ => Call.IsEnding.isSupplying

theorem beginCycle_asks {session : Standing} :
    (plan.beginCycle session : Work (History × σ) Standing).Asks Call.IsSupplying
      (·.tally = session.tally) := by
  have fed : (if session.feeding then plan.feed session else pure session :
      Work (History × σ) Standing).Asks Call.IsSupplying (·.tally = session.tally) := by
    split
    next feeding => exact feed_asks.weaken fun _ => Call.IsFeeding.isSupplying
    next ended => exact asks_pure rfl
  have told (session : Standing) : (if session.endPending then plan.signalEnd session else pure session :
      Work (History × σ) Standing).Asks Call.IsSupplying (·.tally = session.tally) := by
    split
    next pending => exact signalEnd_asks
    next told => exact asks_pure rfl
  simp only [beginCycle, ite_bind]
  apply asks_bind (asks_checkCancelled trivial)
  intro _ _
  apply asks_bind fed
  intro next same
  exact asks_bind (told next) fun last later => asks_pure (later.trans same)

theorem submit_asks {time : Int} :
    (plan.submit time : Work (History × σ) Bool).Asks Call.IsHandling fun _ => True := by
  unfold submit
  split
  next surface =>
    apply asks_granted (asks_ask trivial)
    intro frame _
    apply asks_bind (asks_ask trivial)
    intro _ _
    exact asks_granted (asks_ask trivial) fun _ _ => asks_pure trivial
  next raw =>
    apply asks_bind (dequeueInput_asks trivial)
    intro slot _
    cases slot with
    | none => exact asks_pure trivial
    | some slot =>
      apply asks_granted (asks_ask trivial)
      intro frame _
      apply asks_granted (asks_ask trivial)
      intro _ _
      apply asks_bind asks_settle
      intro converted _
      exact asks_granted (asks_ask trivial) fun _ _ => asks_pure trivial

theorem renderFrame_asks {session : Standing} {time : Int} :
    (plan.renderFrame session time : Work (History × σ) Standing).Asks Call.IsHandling
      (·.output = session.output) := by
  apply asks_bind (asks_ask trivial)
  intro delivered _
  cases delivered with
  | error refused => exact asks_pure rfl
  | ok _ =>
    apply asks_bind submit_asks
    intro submitted _
    cases submitted with
    | false => exact asks_pure rfl
    | true => exact asks_pure rfl

theorem handleDecoded_asks {session : Standing} {index : Nat} {info : SampleInfo} :
    (plan.handleDecoded session index info : Work (History × σ) Standing).Asks Call.IsHandling
      (·.output = session.output) := by
  have rendered (wanted : Bool) (session : Standing) :
      (if wanted then plan.renderFrame session info.time else pure session :
        Work (History × σ) Standing).Asks Call.IsHandling (·.output = session.output) := by
    split
    next render => exact renderFrame_asks
    next skip => exact asks_pure rfl
  simp only [handleDecoded, ite_bind]
  apply asks_granted (asks_ask trivial)
  intro _ _
  apply asks_bind (rendered _ _)
  intro next same
  split
  next ends =>
    exact (signalEnd_asks_ending.weaken fun _ => Call.IsEnding.isHandling).imp
      fun _ told => (Prod.mk.inj told).1.trans same
  next goesOn => exact asks_pure same

theorem leads_dequeueOutput {α : Type} {side : Side} {next : OutputStatus → Work (History × σ) α}
    {history : History} {reached : α → History → Prop} {broken : History → Prop}
    (refused : ∀ error,
      broken (⟨.device (.dequeueOutput side plan.timeout), .error error⟩ :: history))
    (onward : ∀ reply status, retried .tryAgainLater reply = .ok status →
      (next status).Leads (⟨.device (.dequeueOutput side plan.timeout), reply⟩ :: history) reached
        broken) :
    (plan.dequeueOutput side >>= next).Leads history reached broken := by
  refine leads_bind (leads_ask fun reply => ?_)
  cases polled : retried .tryAgainLater reply with
  | ok status => exact leads_pure (onward reply status polled)
  | error error =>
    cases reply with
    | error cause => exact leads_fail (refused cause)
    | ok status => exact nomatch polled

theorem leads_dequeueInput {α : Type} {side : Side} {next : Option Nat → Work (History × σ) α}
    {history : History} {reached : α → History → Prop} {broken : History → Prop}
    (refused : ∀ error,
      broken (⟨.device (.dequeueInput side plan.timeout), .error error⟩ :: history))
    (onward : ∀ reply slot, (next slot).Leads
      (⟨.device (.dequeueInput side plan.timeout), reply⟩ :: history) reached broken) :
    (plan.dequeueInput side >>= next).Leads history reached broken := by
  refine leads_bind (leads_ask fun reply => ?_)
  cases polled : retried none reply with
  | ok slot => exact leads_pure (onward reply slot)
  | error error =>
    cases reply with
    | error cause => exact leads_fail (refused cause)
    | ok slot => exact nomatch polled

theorem dequeueOutput_asks {side : Side} {allowed : Call → Prop}
    (allows : allowed (.device (.dequeueOutput side plan.timeout))) :
    (plan.dequeueOutput side : Work (History × σ) OutputStatus).Asks allowed fun _ => True :=
  asks_bind (asks_ask allows) fun _ _ => asks_settle.imp fun _ _ => trivial

theorem drainDecoder_asks {session : Standing} :
    (plan.drainDecoder session : Work (History × σ) Standing).Asks Call.IsUpstream
      (·.output = session.output) := by
  apply asks_bind (dequeueOutput_asks trivial)
  intro status _
  cases status with
  | tryAgainLater => exact asks_pure rfl
  | buffersChanged => exact asks_pure rfl
  | formatChanged format => exact asks_pure rfl
  | buffer index info =>
    exact asks_bind (handleDecoded_asks.weaken fun _ => Call.IsHandling.isUpstream)
      fun next same => asks_pure same

theorem register_asks_storing {session : Standing} {format : Format} :
    (register session format : Work (History × σ) Standing).Asks Call.IsStoring
      fun next => next.input = session.input ∧ next.encoder = session.encoder := by
  unfold register
  split
  next known => exact asks_pure ⟨rfl, rfl⟩
  next unknown => exact asks_granted (asks_ask trivial) fun _ _ => asks_pure ⟨rfl, rfl⟩

theorem storeEncoded_asks_storing {session : Standing} {index : Nat} {info : SampleInfo} :
    (plan.storeEncoded session index info : Work (History × σ) Standing).Asks Call.IsStoring
      fun next => next.input = session.input ∧ next.encoder = session.encoder := by
  apply asks_granted (asks_ask trivial)
  intro buffer _
  split
  next isConfig =>
    split
    next known => exact asks_pure ⟨rfl, rfl⟩
    next unknown =>
      split
      next misses => exact asks_stop
      next configuration found => exact register_asks_storing
  next isSample =>
    split
    next unknown => exact asks_stop
    next track known =>
      apply asks_granted (asks_ask trivial)
      intro written _
      split
      next stored => exact asks_pure ⟨rfl, rfl⟩
      next refused => exact asks_pure ⟨rfl, rfl⟩

theorem register_asks {session : Standing} {format : Format} :
    (register session format : Work (History × σ) Standing).Asks Call.IsDownstream
      fun next => next.input = session.input ∧ next.encoder = session.encoder :=
  register_asks_storing.weaken fun _ => Call.IsStoring.isDownstream

theorem storeEncoded_asks {session : Standing} {index : Nat} {info : SampleInfo} :
    (plan.storeEncoded session index info : Work (History × σ) Standing).Asks Call.IsDownstream
      fun next => next.input = session.input ∧ next.encoder = session.encoder :=
  storeEncoded_asks_storing.weaken fun _ => Call.IsStoring.isDownstream

theorem drainEncoder_asks {session : Standing} :
    (plan.drainEncoder session : Work (History × σ) Standing).Asks Call.IsDownstream
      (·.input = session.input) := by
  have stored (index : Nat) (info : SampleInfo) :
      (if 1 < info.size then plan.storeEncoded session index info else pure session :
        Work (History × σ) Standing).Asks Call.IsDownstream (·.input = session.input) := by
    split
    next long => exact storeEncoded_asks.imp fun _ same => same.1
    next short => exact asks_pure rfl
  simp only [drainEncoder, ite_bind]
  apply asks_bind (dequeueOutput_asks trivial)
  intro status _
  cases status with
  | tryAgainLater => exact asks_pure rfl
  | buffersChanged => exact asks_pure rfl
  | formatChanged format => exact asks_bind register_asks fun next same => asks_pure same.1
  | buffer index info =>
    apply asks_bind (stored index info)
    intro next same
    exact asks_granted (asks_ask trivial) fun _ _ => asks_pure same

theorem shutDown_asks {side : Side} :
    (shutDown side : Work (History × σ) Unit).Asks Call.IsSetting fun _ => True :=
  asks_bind (asks_ask trivial) fun _ _ => asks_ask trivial

theorem releaseSurface_asks :
    (plan.releaseSurface : Work (History × σ) Unit).Asks Call.IsSetting fun _ => True := by
  unfold releaseSurface
  split
  next surface => exact asks_ask trivial
  next raw => exact asks_pure trivial

theorem closeCodecs_asks :
    (plan.closeCodecs : Work (History × σ) Unit).Asks Call.IsSetting fun _ => True :=
  asks_bind (asks_ask trivial) fun _ _ => asks_bind releaseSurface_asks fun _ _ =>
    asks_bind shutDown_asks fun _ _ => shutDown_asks

theorem openCodecs_asks {input : Format} :
    (plan.openCodecs input : Work (History × σ) Unit).Asks Call.IsSetting fun _ => True := by
  have settled : (device .createSurface >>= settle : Work (History × σ) Unit).Asks Call.IsSetting
      fun _ => True := asks_bind (asks_ask trivial) fun _ _ => asks_settle.imp fun _ _ => trivial
  have surface : (if plan.surfaceInput then device .createSurface >>= settle else pure () :
      Work (History × σ) Unit).Asks Call.IsSetting fun _ => True := by
    split
    next surface => exact settled
    next raw => exact asks_pure trivial
  simp only [openCodecs, ite_settle]
  refine asks_granted (asks_ask trivial) fun _ _ => asks_undoing ?_ shutDown_asks
  apply asks_granted (asks_ask trivial)
  intro _ _
  apply asks_bind surface
  intro _ _
  refine asks_undoing ?_ releaseSurface_asks
  apply asks_granted (asks_ask trivial)
  intro _ _
  apply asks_granted (asks_ask trivial)
  intro _ _
  refine asks_undoing (asks_granted (asks_ask trivial) fun _ _ => ?_) (asks_ask trivial)
  refine asks_undoing (asks_granted (asks_ask trivial) fun _ _ => ?_) shutDown_asks
  exact asks_bind (asks_ask trivial) fun _ _ => asks_settle.imp fun _ _ => trivial

/-- The limit decides only whether a session comes to its end, not what comes of it: with more steps
than it needs, nothing is different. -/
theorem run_drive_add {world : World σ} {session : Standing} {desk left : Desk σ} {limit : Nat}
    {result : Except Stop Standing} (ran : (plan.drive limit session).run world desk = (result, left))
    (settled : result ≠ .error .stalled) (more : Nat) :
    (plan.drive (limit + more) session).run world desk = (result, left) := by
  induction limit generalizing session desk with
  | zero =>
    have stalled : (Except.error .stalled, desk) = (result, left) := ran
    cases stalled
    exact absurd rfl settled
  | succ limit ih =>
    have onward {step : Work σ Standing}
        (ran : (step >>= plan.drive limit).run world desk = (result, left)) :
        (step >>= plan.drive (limit + more)).run world desk = (result, left) := by
      rw [run_bind] at ran ⊢
      rcases stepped : step.run world desk with ⟨_ | next, after⟩
      · simpa only [stepped] using ran
      · simp only [stepped] at ran ⊢
        exact ih ran
    rw [Nat.succ_add]
    unfold drive at ran ⊢
    cases turn : nextStep session.decoder.state session.encoder.state with
    | finish => simpa only [turn] using ran
    | idle =>
      simp only [turn] at ran
      exact onward ran
    | drainEncoder =>
      simp only [turn] at ran
      exact onward ran
    | drainDecoder =>
      simp only [turn] at ran
      exact onward ran

/-- What a session keeps: `standing` from step to step, `safe` wherever it breaks off, and `reached`
when it comes to its outcome. -/
structure Upholds (plan : TranscodePlan) (σ : Type) (standing : Standing → History → Prop)
    (safe : History → Prop) (reached : TranscodeOutcome → History → Prop) : Prop where
  start : standing {} []
  standing_safe : ∀ session history, standing session history → safe history
  beginCycle : ∀ session history, standing session history →
    nextStep session.decoder.state session.encoder.state = .idle →
    (plan.beginCycle session : Work (History × σ) Standing).Leads history standing safe
  drainEncoder : ∀ session history, standing session history →
    nextStep session.decoder.state session.encoder.state = .drainEncoder →
    (plan.drainEncoder session : Work (History × σ) Standing).Leads history standing safe
  drainDecoder : ∀ session history, standing session history →
    nextStep session.decoder.state session.encoder.state = .drainDecoder →
    (plan.drainDecoder session : Work (History × σ) Standing).Leads history standing safe
  finish : ∀ session history, standing session history →
    nextStep session.decoder.state session.encoder.state = .finish →
    (plan.finish session : Work (History × σ) TranscodeOutcome).Leads history reached safe
  standing_setting : ∀ session call reply history, Call.IsSetting call →
    standing session history → standing session (⟨call, reply⟩ :: history)
  safe_setting : ∀ call reply history, Call.IsSetting call →
    safe history → safe (⟨call, reply⟩ :: history)
  reached_setting : ∀ outcome call reply history, Call.IsSetting call →
    reached outcome history → reached outcome (⟨call, reply⟩ :: history)

namespace Upholds
variable {standing : Standing → History → Prop} {safe : History → Prop}
  {reached : TranscodeOutcome → History → Prop}

theorem drive (upholds : Upholds plan σ standing safe reached) (limit : Nat) (session : Standing)
    (history : History) (holds : standing session history) :
    (plan.drive limit session : Work (History × σ) Standing).Leads history
      (fun last left => standing last left ∧
        nextStep last.decoder.state last.encoder.state = .finish) safe := by
  induction limit generalizing session history with
  | zero => exact leads_stop (upholds.standing_safe session history holds)
  | succ limit ih =>
    have onward {step : Work (History × σ) Standing} (leads : step.Leads history standing safe) :
        (step >>= plan.drive limit).Leads history (fun last left => standing last left ∧
          nextStep last.decoder.state last.encoder.state = .finish) safe :=
      leads_bind (leads.imp (fun next left held => ih next left held) fun _ held => held)
    unfold TranscodePlan.drive
    cases turn : nextStep session.decoder.state session.encoder.state with
    | finish => exact leads_pure ⟨holds, turn⟩
    | idle => exact onward (upholds.beginCycle session history holds turn)
    | drainEncoder => exact onward (upholds.drainEncoder session history holds turn)
    | drainDecoder => exact onward (upholds.drainDecoder session history holds turn)

theorem runSelected (upholds : Upholds plan σ standing safe reached) (history : History)
    (holds : standing {} history) :
    (plan.runSelected : Work (History × σ) TranscodeOutcome).Leads history reached safe := by
  have stays {α β : Type} {work : Work (History × σ) α} {next : α → Work (History × σ) β}
      {reached : β → History → Prop} (asks : work.Asks Call.IsSetting fun _ => True) {before : History}
      (held : standing {} before)
      (onward : ∀ value left, standing {} left → (next value).Leads left reached safe) :
      (work >>= next).Leads before reached safe :=
    asks.leads_bind (upholds.standing_setting {}) held (upholds.standing_safe {}) fun value left _ =>
      onward value left
  have closes {kept : History → Prop} (setting : ∀ call reply history, Call.IsSetting call →
      kept history → kept (⟨call, reply⟩ :: history)) (left : History) (held : kept left) :
      (plan.closeCodecs : Work (History × σ) Unit).Leads left (fun _ => kept) kept :=
    (closeCodecs_asks kept setting left held).imp (fun _ _ cleaned => cleaned.2) fun _ cleaned => cleaned
  have settles {α : Type} {answer : Except Error α} :
      (settle answer : Work (History × σ) α).Asks Call.IsSetting fun _ => True :=
    asks_settle.imp fun _ _ => trivial
  refine stays ?_ holds fun _ _ held => stays settles held fun _ _ held => ?_
  · exact asks_ask trivial
  refine stays ?_ held fun _ _ held => stays settles held fun input _ held => ?_
  · exact asks_ask trivial
  apply stays openCodecs_asks held
  intro _ _ held
  apply leads_ensuring
  refine (leads_patience fun limit => ?_).imp
    (fun outcome => closes (upholds.reached_setting outcome)) (closes upholds.safe_setting)
  exact leads_bind <| (upholds.drive limit {} _ held).imp
    (fun last left ended => upholds.finish last left ended.1 ended.2) fun _ kept => kept

theorem transcode_from (upholds : Upholds plan σ standing safe reached) {history : History}
    (holds : standing {} history) :
    (Session.transcode plan : Work (History × σ) TranscodeOutcome).Leads history reached safe := by
  apply leads_ask
  intro reply
  have selected : standing {} (⟨.storage (.select plan.track.index), reply⟩ :: history) :=
    upholds.standing_setting {} _ _ _ trivial holds
  apply leads_settle (fun _ _ => upholds.standing_safe _ _ selected)
  intro _ _
  refine leads_bind (leads_outcome ((upholds.runSelected _ selected).imp ?_ ?_))
  · intro outcome left held
    exact leads_ask fun reply => leads_pure (upholds.reached_setting outcome _ reply _ trivial held)
  · intro left held
    refine ⟨held, fun error => leads_ask fun reply => leads_fail ?_⟩
    exact upholds.safe_setting _ reply _ trivial held

theorem transcode (upholds : Upholds plan σ standing safe reached) :
    (Session.transcode plan : Work (History × σ) TranscodeOutcome).Leads [] reached safe :=
  upholds.transcode_from upholds.start

end Upholds

end TranscodePlan

end Recode.Session
