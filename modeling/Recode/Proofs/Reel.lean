import Recode.Proofs.FrameAccount

/-!
What becomes of the pictures between the codecs, as far as the calls of a session tell. A buffer is
released to be rendered, its picture is waited for, drawn, and handed to the encoder under the time of
the buffer. That the picture which is taken is the buffer's own is not looked at anywhere.
-/

namespace Recode.Session
open Recode.Media Recode.Container Recode.Device Recode.Picture Recode.Progress
open Recode.Session.Work Recode.Session.History

/-- Where the pictures stand since the transform was made. -/
structure Reel where
  spec : TransformSpec := default
  /-- The indices and times of the buffers that the decoder put out, the latest first. -/
  buffers : List (Nat × Int) := []
  /-- The times of the buffers that were released to be rendered, the latest first. -/
  rendered : List Int := []
  /-- How many pictures were taken. -/
  taken : Nat := 0
  /-- How often a picture was waited for in vain. -/
  missed : Nat := 0
  /-- The frame that was drawn since a picture was last waited for. -/
  canvas : Option Frame := none
  deriving DecidableEq, Repr, Inhabited

def timeOf (buffers : List (Nat × Int)) (index : Nat) : Int :=
  ((buffers.find? (·.1 == index)).map (·.2)).getD 0

namespace Reel

def after (reel : Reel) : Exchange → Reel
  | ⟨.device (.createTransform spec), .ok _⟩ => { spec, buffers := reel.buffers }
  | ⟨.device (.dequeueOutput .decoder _), .ok (.buffer index info)⟩ =>
      { reel with buffers := (index, info.time) :: reel.buffers }
  | ⟨.device (.releaseOutput .decoder index true), .ok _⟩ =>
      { reel with rendered := timeOf reel.buffers index :: reel.rendered }
  | ⟨.device .awaitImage, .ok _⟩ => { reel with taken := reel.taken + 1, canvas := none }
  | ⟨.device .awaitImage, .error _⟩ => { reel with missed := reel.missed + 1, canvas := none }
  | ⟨.device .drawImage, .ok frame⟩ => { reel with canvas := some frame }
  | _ => reel

/-- Each buffer that was released to be rendered has been waited for. -/
def Waited (reel : Reel) : Prop := reel.taken + reel.missed = reel.rendered.length

end Reel

def Call.IsOffstage : Call → Prop
  | .device (.createTransform _) | .device (.dequeueOutput .decoder _)
  | .device (.releaseOutput .decoder _ true) | .device .awaitImage | .device .drawImage => False
  | _ => True

namespace Reel
variable {reel : Reel} {call : Call}

theorem after_offstage (offstage : call.IsOffstage) (reply : call.Reply) :
    reel.after ⟨call, reply⟩ = reel := by
  rcases call with call | call | call
  · rfl
  · cases call with
    | createTransform spec => exact offstage.elim
    | awaitImage => exact offstage.elim
    | drawImage => exact offstage.elim
    | dequeueOutput side timeout =>
      cases side with
      | decoder => exact offstage.elim
      | encoder => rfl
    | releaseOutput side index render =>
      cases side with
      | encoder => rfl
      | decoder =>
        cases render with
        | true => exact offstage.elim
        | false => rfl
    | _ => rfl
  · rfl

theorem Waited.setting (waited : reel.Waited) (setting : call.IsSetting) (reply : call.Reply) :
    (reel.after ⟨call, reply⟩).Waited := by
  unfold Call.IsSetting at setting
  split at setting
  case h_13 spec =>
    cases reply with
    | ok _ => exact rfl
    | error refused => exact waited
  all_goals first
    | exact waited
    | exact setting.elim

end Reel

namespace Call
variable {call : Call}

theorem IsSupplying.isOffstage (supplies : call.IsSupplying) : call.IsOffstage := by
  unfold IsOffstage
  split
  all_goals first
    | exact supplies
    | trivial

theorem IsDownstream.isOffstage (downstream : call.IsDownstream) : call.IsOffstage := by
  unfold IsOffstage
  split
  all_goals first
    | exact downstream
    | trivial

end Call

def History.reel (history : History) : Reel := history.foldr (fun latest reel => reel.after latest) {}

theorem History.reel_offstage {call : Call} (offstage : call.IsOffstage) (reply : call.Reply)
    (history : History) : History.reel (⟨call, reply⟩ :: history) = history.reel :=
  Reel.after_offstage offstage reply

def Exchange.Carries (plan : TranscodePlan) (frame : Frame) : Exchange → Prop
  | ⟨.device (.swap shown), _⟩ => shown = frame
  | ⟨.device (.queueInput .encoder _ content _), _⟩ => ∃ buffer size,
      convert frame.pixels buffer plan.profile.colorFormat plan.request.width plan.request.height
        plan.profile.bufferPadding plan.profile.swapChroma = .ok (size, content)
  | _ => False

/-- A frame is handed to the encoder under the time of the latest buffer that was released to be
rendered. All such buffers have been waited for, and the frame was drawn since. -/
structure Exchange.Draws (plan : TranscodePlan) (latest : Exchange) (reel : Reel) (time : Int) :
    Prop where
  current : reel.rendered.head? = some time
  waited : reel.Waited
  drawn : ∃ frame, reel.canvas = some frame ∧ latest.Carries plan frame

/-- Whatever is handed to the encoder is drawn before. -/
def Exchange.IsDrawn (plan : TranscodePlan) (latest : Exchange) (earlier : History) : Prop :=
  ∀ time, latest.submitted? earlier.presented = some time →
    ∃ due, plan.stamped due = time ∧ latest.Draws plan earlier.reel due

structure Reeled (plan : TranscodePlan) (history : History) : Prop where
  waited : history.reel.Waited
  drawn : history.Always (Exchange.IsDrawn plan)

structure Expected (plan : TranscodePlan) (time : Int) (history : History) : Prop where
  current : history.reel.rendered.head? = some time
  unwaited : history.reel.taken + history.reel.missed + 1 = history.reel.rendered.length
  drawn : history.Always (Exchange.IsDrawn plan)

structure Latched (plan : TranscodePlan) (time : Int) (history : History) : Prop
    extends Reeled plan history where
  current : history.reel.rendered.head? = some time

structure Finished (plan : TranscodePlan) (time : Int) (frame : Frame) (history : History) : Prop
    extends Latched plan time history where
  canvas : history.reel.canvas = some frame

section
variable {plan : TranscodePlan} {time : Int} {frame : Frame} {history : History} {exchange : Exchange}
  {call : Call}

theorem always_isDrawn (drawn : history.Always (Exchange.IsDrawn plan))
    (unsubmitted : ∀ presented, exchange.submitted? presented = none) :
    History.Always (Exchange.IsDrawn plan) (exchange :: history) :=
  ⟨fun _ submitted => absurd ((unsubmitted _).symm.trans submitted) nofun, drawn⟩

namespace Reeled

theorem begin : Reeled plan [] := ⟨rfl, trivial⟩

theorem offstage (held : Reeled plan history) (call : Call) (offstage : call.IsOffstage)
    (reply : call.Reply)
    (unsubmitted : ∀ presented, Exchange.submitted? presented ⟨call, reply⟩ = none) :
    Reeled plan (⟨call, reply⟩ :: history) where
  waited := reel_offstage offstage reply history ▸ held.waited
  drawn := always_isDrawn held.drawn unsubmitted

theorem setting (held : Reeled plan history) (setting : call.IsSetting) (reply : call.Reply) :
    Reeled plan (⟨call, reply⟩ :: history) where
  waited := held.waited.setting setting reply
  drawn := always_isDrawn held.drawn (Exchange.isUncounted_of_isSetting setting reply).2

end Reeled

theorem Latched.offstage (held : Latched plan time history) (call : Call)
    (offstage : call.IsOffstage) (reply : call.Reply)
    (unsubmitted : ∀ presented, Exchange.submitted? presented ⟨call, reply⟩ = none) :
    Latched plan time (⟨call, reply⟩ :: history) where
  toReeled := held.toReeled.offstage call offstage reply unsubmitted
  current := reel_offstage offstage reply history ▸ held.current

theorem Latched.draw (held : Latched plan time history) (frame : Frame) :
    Finished plan time frame (⟨.device .drawImage, .ok frame⟩ :: history) where
  waited := held.waited
  drawn := always_isDrawn held.drawn fun _ => rfl
  current := held.current
  canvas := rfl

theorem Finished.offstage (held : Finished plan time frame history) (call : Call)
    (offstage : call.IsOffstage) (reply : call.Reply)
    (unsubmitted : ∀ presented, Exchange.submitted? presented ⟨call, reply⟩ = none) :
    Finished plan time frame (⟨call, reply⟩ :: history) where
  toLatched := held.toLatched.offstage call offstage reply unsubmitted
  canvas := reel_offstage offstage reply history ▸ held.canvas

theorem Finished.handOver (held : Finished plan time frame history) (call : Call)
    (offstage : call.IsOffstage) (reply : call.Reply)
    (carries : Exchange.Carries plan frame ⟨call, reply⟩)
    (given : Exchange.submitted? history.presented ⟨call, reply⟩ = some (plan.stamped time)) :
    Reeled plan (⟨call, reply⟩ :: history) where
  waited := reel_offstage offstage reply history ▸ held.waited
  drawn := by
    refine ⟨fun other submitted => ?_, held.drawn⟩
    exact ⟨time, Option.some.inj (given.symm.trans submitted), held.current, held.waited, frame,
      held.canvas, carries⟩

/-- Whether or not the picture comes, it was waited for. -/
theorem Expected.await (held : Expected plan time history) (reply : Except Error Unit) :
    Latched plan time (⟨.device .awaitImage, reply⟩ :: history) := by
  have waited := held.unwaited
  refine { waited := ?_, drawn := always_isDrawn held.drawn fun _ => rfl, current := ?_ }
  · cases reply with
    | ok _ =>
      show history.reel.taken + 1 + history.reel.missed = history.reel.rendered.length
      omega
    | error refused => exact waited
  · cases reply <;> exact held.current

end

namespace TranscodePlan
variable {σ : Type} {plan : TranscodePlan} {session : Standing} {time : Int} {history : History}

theorem supplying_reels (held : Reeled plan history) {α : Type} {work : Work (History × σ) α}
    {yields : α → Prop} (asks : work.Asks Call.IsSupplying yields) :
    work.Leads history (fun _ => Reeled plan) (·.Always (Exchange.IsDrawn plan)) := by
  refine (asks (Reeled plan) (fun call reply before supplies held => ?_) history held).imp
    (fun _ _ both => both.2) fun _ held => held.drawn
  exact held.offstage call supplies.isOffstage reply
    (Exchange.isUncounted_of_isQuiet supplies.isQuiet reply).2

theorem downstream_reels (held : Reeled plan history) {α : Type} {work : Work (History × σ) α}
    {yields : α → Prop} (asks : work.Asks Call.IsDownstream yields) :
    work.Leads history (fun _ => Reeled plan) (·.Always (Exchange.IsDrawn plan)) := by
  refine (asks (Reeled plan) (fun call reply before downstream held => ?_) history held).imp
    (fun _ _ both => both.2) fun _ held => held.drawn
  exact held.offstage call downstream.isOffstage reply
    (Exchange.isUncounted_of_isDownstream downstream reply).2

theorem submit_reels (held : Latched plan time history) :
    (plan.submit time : Work (History × σ) Bool).Leads history (fun _ => Reeled plan)
      (·.Always (Exchange.IsDrawn plan)) := by
  have draws {next : Frame → Work (History × σ) Bool} {before : History}
      (held : Latched plan time before)
      (onward : ∀ frame left, Finished plan time frame left →
        (next frame).Leads left (fun _ => Reeled plan) (·.Always (Exchange.IsDrawn plan))) :
      (device .drawImage >>= fun answer => settle answer >>= next).Leads before
        (fun _ => Reeled plan) (·.Always (Exchange.IsDrawn plan)) := by
    refine leads_ask fun drawn => leads_settle (fun _ _ => always_isDrawn held.drawn fun _ => rfl) ?_
    rintro frame rfl
    exact onward frame _ (held.draw frame)
  unfold submit
  split
  next surface =>
    refine draws held fun frame left held => leads_ask fun presented => leads_ask fun swapped => ?_
    have ready :=
      held.offstage (.device (.presentAt (nanoseconds time))) trivial presented fun _ => rfl
    have given := ready.handOver (.device (.swap frame)) trivial swapped rfl
      (congrArg some (stamped_surface surface time).symm)
    exact leads_settle (fun _ _ => given.drawn) fun _ _ => leads_pure given
  next raw =>
    have polled (reply) :=
      held.offstage (.device (.dequeueInput .encoder plan.timeout)) trivial reply fun _ => rfl
    refine leads_dequeueInput (fun error => (polled (.error error)).drawn) fun reply slot => ?_
    cases slot with
    | none => exact leads_pure (polled reply).toReeled
    | some slot =>
      refine draws (polled reply) fun frame left held => leads_ask fun lent => ?_
      have ready := held.offstage (.device (.inputBuffer .encoder slot)) trivial lent fun _ => rfl
      refine leads_settle (fun _ _ => ready.drawn) fun buffer _ => ?_
      refine leads_settle (fun _ _ => ready.drawn) fun converted same => leads_ask fun queued => ?_
      have content : convert frame.pixels buffer plan.profile.colorFormat plan.request.width
          plan.request.height plan.profile.bufferPadding plan.profile.swapChroma = .ok converted := by
        revert same
        cases convert frame.pixels buffer plan.profile.colorFormat plan.request.width
          plan.request.height plan.profile.bufferPadding plan.profile.swapChroma with
        | error fault => exact nofun
        | ok bytes => exact fun same => congrArg Except.ok (Except.ok.inj same)
      have goesOn : Flags.none.isEndOfStream = false := rfl
      have given := ready.handOver (.device (.queueInput .encoder slot converted.2
        ⟨plan.profile.bufferSize, 0, time, .none⟩)) trivial queued ⟨buffer, converted.1, content⟩
        (by simp only [Exchange.submitted?, goesOn, stamped_raw raw, Bool.false_eq_true, if_false])
      exact leads_settle (fun _ _ => given.drawn) fun _ _ => leads_pure given

theorem renderFrame_reels (held : Expected plan time history) :
    (plan.renderFrame session time : Work (History × σ) Standing).Leads history
      (fun _ => Reeled plan) (·.Always (Exchange.IsDrawn plan)) := by
  refine leads_ask fun delivered => ?_
  have latched := held.await delivered
  cases delivered with
  | error refused => exact leads_pure latched.toReeled
  | ok _ =>
    refine leads_bind ((submit_reels latched).imp (fun taken left held => ?_) fun _ safe => safe)
    cases taken with
    | false => exact leads_pure held
    | true => exact leads_pure held

theorem handleDecoded_reels (held : Reeled plan history) {index : Nat} {info : SampleInfo}
    (known : timeOf history.reel.buffers index = info.time) :
    (plan.handleDecoded session index info : Work (History × σ) Standing).Leads history
      (fun _ => Reeled plan) (·.Always (Exchange.IsDrawn plan)) := by
  have finishes {next : Standing} {left : History} (held : Reeled plan left) :
      (if plan.window.hasEnded info.time || info.flags.isEndOfStream then
        plan.signalEnd { next with decoder := next.decoder.onEndOfStream, endPending := true }
      else pure { next with decoder := next.decoder.onOutput } :
        Work (History × σ) Standing).Leads left (fun _ => Reeled plan)
          (·.Always (Exchange.IsDrawn plan)) := by
    split
    next ends => exact supplying_reels held signalEnd_asks
    next goesOn => exact leads_pure held
  simp only [handleDecoded, ite_bind]
  refine leads_ask fun released => ?_
  have drawn : History.Always (Exchange.IsDrawn plan)
      (⟨.device (.releaseOutput .decoder index
        (plan.isPicture info && plan.window.admits info.time)), released⟩ :: history) :=
    always_isDrawn held.drawn fun _ => rfl
  refine leads_settle (fun _ _ => drawn) fun _ granted => leads_bind ?_
  subst granted
  cases render : plan.isPicture info && plan.window.admits info.time with
  | false =>
    have passed := held.offstage (.device (.releaseOutput .decoder index false)) trivial (.ok ())
      fun _ => rfl
    rw [if_neg Bool.false_ne_true]
    exact leads_pure (finishes passed)
  | true =>
    have awaiting : Expected plan info.time
        (⟨.device (.releaseOutput .decoder index true), .ok ()⟩ :: history) :=
      ⟨congrArg some known, congrArg (· + 1) held.waited, always_isDrawn held.drawn fun _ => rfl⟩
    rw [if_pos rfl]
    exact (renderFrame_reels awaiting).imp (fun _ _ held => finishes held) fun _ safe => safe

theorem drainDecoder_reels (held : Reeled plan history) :
    (plan.drainDecoder session : Work (History × σ) Standing).Leads history (fun _ => Reeled plan)
      (·.Always (Exchange.IsDrawn plan)) := by
  have drawn (reply) : History.Always (Exchange.IsDrawn plan)
      (⟨.device (.dequeueOutput .decoder plan.timeout), reply⟩ :: history) :=
    always_isDrawn held.drawn fun _ => rfl
  apply leads_dequeueOutput fun _ => drawn _
  intro reply status answered
  cases status with
  | tryAgainLater =>
    cases reply with
    | error error => exact leads_pure ⟨held.waited, drawn _⟩
    | ok status =>
      cases answered
      exact leads_pure ⟨held.waited, drawn _⟩
  | buffersChanged =>
    cases retried_eq_ok answered nofun
    exact leads_pure ⟨held.waited, drawn _⟩
  | formatChanged format =>
    cases retried_eq_ok answered nofun
    exact leads_pure ⟨held.waited, drawn _⟩
  | buffer index info =>
    cases retried_eq_ok answered nofun
    have held : Reeled plan (⟨.device (.dequeueOutput .decoder plan.timeout), .ok (.buffer index info)⟩
      :: history) := ⟨held.waited, drawn _⟩
    have known : timeOf (History.reel (⟨.device (.dequeueOutput .decoder plan.timeout),
        .ok (.buffer index info)⟩ :: history)).buffers index = info.time := by
      show timeOf ((index, info.time) :: history.reel.buffers) index = info.time
      simp only [timeOf, List.find?_cons, beq_self_eq_true, Option.map_some, Option.getD_some]
    exact leads_bind ((handleDecoded_reels held known).imp (fun _ _ held => leads_pure held)
      fun _ safe => safe)

theorem upholds_reels (plan : TranscodePlan) :
    Upholds plan σ (fun _ => Reeled plan) (·.Always (Exchange.IsDrawn plan))
      fun _ history => history.Always (Exchange.IsDrawn plan) where
  start := .begin
  standing_safe _ _ held := held.drawn
  beginCycle _ _ held _ := supplying_reels held beginCycle_asks
  drainEncoder _ _ held _ := downstream_reels held drainEncoder_asks
  drainDecoder _ _ held _ := drainDecoder_reels held
  finish _ _ held _ :=
    leads_bind <| (downstream_reels held register_asks).imp (fun _ _ held => leads_pure held.drawn)
      fun _ safe => safe
  standing_setting _ _ reply _ setting held := held.setting setting reply
  safe_setting _ reply _ setting drawn :=
    always_isDrawn drawn (Exchange.isUncounted_of_isSetting setting reply).2
  reached_setting _ _ reply _ setting drawn :=
    always_isDrawn drawn (Exchange.isUncounted_of_isSetting setting reply).2

end TranscodePlan

end Recode.Session
