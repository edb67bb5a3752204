import Recode.Proofs.SessionSteps

/-!
How frames come to an encoder that has no input surface. A slot that it lends out is asked for its
buffer once a frame is drawn, and what the frame is converted to is queued in it at once; or the
slot is queued empty, as the end of the stream. This is so in every world, and can be seen from the
history of the calls.
-/

namespace Recode.Session
open Recode.Media Recode.Container Recode.Device Recode.Picture Recode.Progress
open Recode.Session.Work Recode.Session.History

/-- The slot that the encoder lent out last, provided that since then only a frame and the slot's
buffer have been asked for. -/
def History.lentSlot? : History → Option Nat
  | ⟨.device (.dequeueInput .encoder _), .ok (some slot)⟩ :: _ => some slot
  | ⟨.device .drawImage, _⟩ :: earlier => lentSlot? earlier
  | ⟨.device (.inputBuffer .encoder _), _⟩ :: earlier => lentSlot? earlier
  | _ => none

def Call.LeavesInput : Call → Prop
  | .device (.inputBuffer .encoder _) | .device (.queueInput .encoder _ _ _) => False
  | _ => True

namespace Call

theorem IsSetting.leavesInput {call : Call} (setting : call.IsSetting) : call.LeavesInput := by
  unfold IsSetting at setting
  split at setting <;> first | exact setting.elim | trivial

theorem IsFeeding.leavesInput {call : Call} (feeding : call.IsFeeding) : call.LeavesInput := by
  unfold IsFeeding at feeding
  split at feeding <;> first | exact feeding.elim | trivial

theorem IsDownstream.leavesInput {call : Call} (downstream : call.IsDownstream) :
    call.LeavesInput := by
  unfold IsDownstream at downstream
  split at downstream <;> first | exact downstream.elim | trivial

end Call

namespace TranscodePlan
variable {σ : Type}

def converted (plan : TranscodePlan) (frame : Frame) (buffer : Bytes) :
    Except Fault (Nat × Bytes) :=
  convert frame.pixels buffer plan.profile.colorFormat plan.request.width plan.request.height
    plan.profile.bufferPadding plan.profile.swapChroma

/-- The content with which a slot is to be queued next: a frame was drawn, the slot's buffer was
given, and the one was converted into the other. -/
def filled? (plan : TranscodePlan) : History → Option (Nat × Bytes)
  | ⟨.device (.inputBuffer .encoder slot), .ok buffer⟩ :: ⟨.device .drawImage, .ok frame⟩ :: _ =>
      match plan.converted frame buffer with
      | .ok (_, content) => some (slot, content)
      | .error _ => none
  | _ => none

theorem filled?_cons (plan : TranscodePlan) (slot : Nat) (buffer : Bytes) (frame : Frame)
    (history : History) :
    plan.filled? (⟨.device (.inputBuffer .encoder slot), .ok buffer⟩ ::
      ⟨.device .drawImage, .ok frame⟩ :: history) =
        match plan.converted frame buffer with
        | .ok (_, content) => some (slot, content)
        | .error _ => none := rfl

/-- Only the slot just lent out is asked for its buffer, once a frame is drawn, and only that slot
is queued, empty or with the size that the profile states; and what is filled is queued next. -/
structure Ordered (plan : TranscodePlan) (latest : Exchange) (earlier : History) : Prop where
  asks : ∀ slot, latest.1 = .device (.inputBuffer .encoder slot) → earlier.lentSlot? = some slot ∧
    ∃ frame, earlier.head? = some ⟨.device .drawImage, .ok frame⟩
  queues : ∀ slot content info, latest.1 = .device (.queueInput .encoder slot content info) →
    earlier.lentSlot? = some slot ∧ (info.size = 0 ∨ info.size = plan.profile.bufferSize)
  goesOn : ∀ slot content, plan.filled? earlier = some (slot, content) → ∃ time, latest.1 =
    .device (.queueInput .encoder slot content ⟨plan.profile.bufferSize, 0, time, .none⟩)

structure InOrder (plan : TranscodePlan) (history : History) : Prop where
  always : history.Always plan.Ordered
  unfilled : plan.filled? history = none

variable {plan : TranscodePlan} {session : Standing} {history : History}

theorem InOrder.aside (inOrder : plan.InOrder history) (call : Call) (leaves : call.LeavesInput)
    (reply : call.Reply) : plan.InOrder (⟨call, reply⟩ :: history) := by
  refine ⟨⟨⟨?_, ?_, ?_⟩, inOrder.always⟩, ?_⟩
  · rintro slot rfl
    exact leaves.elim
  · rintro slot content info rfl
    exact leaves.elim
  · intro slot content filled
    exact nomatch inOrder.unfilled.symm.trans filled
  · unfold filled?
    split
    next _ _ _ _ same =>
      cases same
      exact leaves.elim
    next => rfl

theorem InOrder.queueEmpty {slot : Nat} {content : Bytes} {info : SampleInfo}
    {reply : Except Error Unit} (inOrder : plan.InOrder history)
    (lent : history.lentSlot? = some slot) (empty : info.size = 0) :
    plan.InOrder (⟨.device (.queueInput .encoder slot content info), reply⟩ :: history) := by
  refine ⟨⟨⟨fun _ other => ?_, fun _ _ _ same => ?_, fun _ _ filled => ?_⟩, inOrder.always⟩, rfl⟩
  · cases other
  · cases same
    exact ⟨lent, .inl empty⟩
  · exact nomatch inOrder.unfilled.symm.trans filled

theorem leads_lent {α : Type} {side : Side} {next : Option Nat → Work (History × σ) α}
    {reached : α → History → Prop} {broken : History → Prop}
    (refused : ∀ error,
      broken (⟨.device (.dequeueInput side plan.timeout), .error error⟩ :: history))
    (unlent : ∀ reply, (next none).Leads
      (⟨.device (.dequeueInput side plan.timeout), reply⟩ :: history) reached broken)
    (lent : ∀ slot, (next (some slot)).Leads
      (⟨.device (.dequeueInput side plan.timeout), .ok (some slot)⟩ :: history) reached broken) :
    (plan.dequeueInput side >>= next).Leads history reached broken := by
  refine leads_bind (leads_ask fun reply => ?_)
  cases polled : retried none reply with
  | error error =>
    cases reply with
    | error cause => exact leads_fail (refused cause)
    | ok slot => exact nomatch polled
  | ok slot =>
    cases slot with
    | none => exact leads_pure (unlent reply)
    | some slot =>
      cases retried_eq_ok polled (by simp)
      exact leads_pure (lent slot)

theorem aside_orders {allowed : Call → Prop} {α : Type} {yields : α → Prop}
    {work : Work (History × σ) α} (asks : work.Asks allowed yields)
    (leaves : ∀ call, allowed call → call.LeavesInput) (inOrder : plan.InOrder history) :
    work.Leads history (fun _ => plan.InOrder) plan.InOrder :=
  (asks plan.InOrder
    (fun call reply _ isAllowed held => held.aside call (leaves call isAllowed) reply)
    history inOrder).imp (fun _ _ both => both.2) fun _ held => held

theorem signalEnd_orders (inOrder : plan.InOrder history) :
    (plan.signalEnd session : Work (History × σ) Standing).Leads history
      (fun _ => plan.InOrder) plan.InOrder := by
  unfold signalEnd
  dsimp only
  split
  next surface =>
    apply leads_ask
    intro reply
    have held := inOrder.aside (.device .signalEnd) trivial reply
    exact leads_settle (fun _ _ => held) fun _ _ => leads_pure held
  next raw =>
    have polled := inOrder.aside (.device (.dequeueInput .encoder plan.timeout)) trivial
    refine leads_lent (fun _ => polled _) (fun _ => leads_pure (polled _)) fun slot => ?_
    apply leads_ask
    intro reply
    have held : plan.InOrder (⟨.device (.queueInput .encoder slot #[]
        ⟨0, 0, session.decodedTime, .endOfStream⟩), reply⟩ :: _) :=
      (polled (.ok (some slot))).queueEmpty rfl rfl
    exact leads_settle (fun _ _ => held) fun _ _ => leads_pure held

theorem InOrder.ordered_inputBuffer {slot : Nat} {frame : Frame} {reply : Except Error Bytes}
    (inOrder : plan.InOrder (⟨.device .drawImage, .ok frame⟩ :: history))
    (lent : history.lentSlot? = some slot) : Always plan.Ordered
      (⟨.device (.inputBuffer .encoder slot), reply⟩ ::
        ⟨.device .drawImage, .ok frame⟩ :: history) := by
  refine ⟨⟨fun _ same => ?_, fun _ _ _ other => ?_, fun _ _ filled => ?_⟩, inOrder.always⟩
  · cases same
    exact ⟨lent, frame, rfl⟩
  · cases other
  · exact nomatch inOrder.unfilled.symm.trans filled

theorem inOrder_queueFrame {slot : Nat} {content : Bytes} {time : Int} {reply : Except Error Unit}
    (always : history.Always plan.Ordered) (lent : history.lentSlot? = some slot)
    (filled : plan.filled? history = some (slot, content)) :
    plan.InOrder (⟨.device (.queueInput .encoder slot content
      ⟨plan.profile.bufferSize, 0, time, .none⟩), reply⟩ :: history) := by
  refine ⟨⟨⟨fun _ other => ?_, fun _ _ _ same => ?_, fun _ _ same => ?_⟩, always⟩, rfl⟩
  · cases other
  · cases same
    exact ⟨lent, .inr rfl⟩
  · cases filled.symm.trans same
    exact ⟨time, rfl⟩

theorem submit_orders {time : Int} (inOrder : plan.InOrder history) :
    (plan.submit time : Work (History × σ) Bool).Leads history
      (fun _ => plan.InOrder) plan.InOrder := by
  unfold submit
  split
  next surface =>
    apply leads_ask
    intro drawn
    have held := inOrder.aside (.device .drawImage) trivial drawn
    apply leads_settle (fun _ _ => held)
    intro frame _
    apply leads_ask
    intro presented
    have held := held.aside (.device (.presentAt (nanoseconds time))) trivial presented
    apply leads_ask
    intro swapped
    have held := held.aside (.device (.swap frame)) trivial swapped
    exact leads_settle (fun _ _ => held) fun _ _ => leads_pure held
  next raw =>
    have polled := inOrder.aside (.device (.dequeueInput .encoder plan.timeout)) trivial
    refine leads_lent (fun _ => polled _) (fun _ => leads_pure (polled _)) fun slot => ?_
    apply leads_ask
    intro drawn
    have drew := (polled (.ok (some slot))).aside (.device .drawImage) trivial drawn
    apply leads_settle (fun _ _ => drew)
    rintro frame rfl
    apply leads_ask
    intro lent
    have asked : Always plan.Ordered (⟨.device (.inputBuffer .encoder slot), lent⟩ :: _) :=
      drew.ordered_inputBuffer rfl
    cases lent with
    | error refused => exact leads_fail ⟨asked, rfl⟩
    | ok buffer =>
      apply leads_settle nofun
      rintro _ ⟨⟩
      dsimp only
      have filled := plan.filled?_cons slot buffer frame
      cases outcome : plan.converted frame buffer with
      | error fault =>
        rw [outcome] at filled
        unfold converted at outcome
        rw [outcome]
        exact leads_settle (fun _ _ => ⟨asked, filled _⟩) nofun
      | ok result =>
        rw [outcome] at filled
        unfold converted at outcome
        rw [outcome]
        apply leads_settle nofun
        rintro _ ⟨⟩
        apply leads_ask
        intro queued
        have held : plan.InOrder (⟨.device (.queueInput .encoder slot result.2
            ⟨plan.profile.bufferSize, 0, time, .none⟩), queued⟩ :: _) :=
          inOrder_queueFrame asked rfl (filled _)
        exact leads_settle (fun _ _ => held) fun _ _ => leads_pure held

theorem renderFrame_orders {time : Int} (inOrder : plan.InOrder history) :
    (plan.renderFrame session time : Work (History × σ) Standing).Leads history
      (fun _ => plan.InOrder) plan.InOrder := by
  apply leads_ask
  intro delivered
  have held := inOrder.aside (.device .awaitImage) trivial delivered
  cases delivered with
  | error refused => exact leads_pure held
  | ok _ =>
    refine leads_bind ((submit_orders held).imp ?_ fun _ held => held)
    intro taken left held
    cases taken with
    | false => exact leads_pure held
    | true => exact leads_pure held

theorem handleDecoded_orders (index : Nat) (info : SampleInfo) (inOrder : plan.InOrder history) :
    (plan.handleDecoded session index info : Work (History × σ) Standing).Leads history
      (fun _ => plan.InOrder) plan.InOrder := by
  have finishes {next : Standing} {left : History} (held : plan.InOrder left) :
      (if plan.window.hasEnded info.time || info.flags.isEndOfStream then
        plan.signalEnd { next with decoder := next.decoder.onEndOfStream, endPending := true }
      else pure { next with decoder := next.decoder.onOutput } :
        Work (History × σ) Standing).Leads left (fun _ => plan.InOrder) plan.InOrder := by
    split
    next ends => exact signalEnd_orders held
    next goesOn => exact leads_pure held
  simp only [handleDecoded, ite_bind]
  apply leads_ask
  intro released
  have held := inOrder.aside (.device (.releaseOutput .decoder index _)) trivial released
  apply leads_settle (fun _ _ => held)
  intro _ _
  apply leads_bind
  split
  next render => exact (renderFrame_orders held).imp (fun _ _ => finishes) fun _ held => held
  next skip => exact leads_pure (finishes held)

theorem drainDecoder_orders (inOrder : plan.InOrder history) :
    (plan.drainDecoder session : Work (History × σ) Standing).Leads history
      (fun _ => plan.InOrder) plan.InOrder := by
  have polled := inOrder.aside (.device (.dequeueOutput .decoder plan.timeout)) trivial
  apply leads_dequeueOutput (fun _ => polled _)
  intro reply status _
  cases status with
  | tryAgainLater => exact leads_pure (polled reply)
  | buffersChanged => exact leads_pure (polled reply)
  | formatChanged format => exact leads_pure (polled reply)
  | buffer index info =>
    exact leads_bind ((handleDecoded_orders index info (polled reply)).imp
      (fun _ _ held => leads_pure held) fun _ held => held)

theorem beginCycle_orders (inOrder : plan.InOrder history) :
    (plan.beginCycle session : Work (History × σ) Standing).Leads history
      (fun _ => plan.InOrder) plan.InOrder := by
  have fed {left : History} (held : plan.InOrder left) : (if session.feeding then plan.feed session
      else pure session : Work (History × σ) Standing).Leads left (fun _ => plan.InOrder)
        plan.InOrder := by
    split
    next feeding => exact aside_orders feed_asks (fun _ => Call.IsFeeding.leavesInput) held
    next ended => exact leads_pure held
  have told {next : Standing} {left : History} (held : plan.InOrder left) :
      (if next.endPending then plan.signalEnd next else pure next :
        Work (History × σ) Standing).Leads left (fun _ => plan.InOrder) plan.InOrder := by
    split
    next pending => exact signalEnd_orders held
    next told => exact leads_pure held
  simp only [beginCycle, ite_bind]
  have asked := inOrder.aside (.client .isCancelled) trivial
  apply leads_checkCancelled (asked true)
  refine leads_bind ((fed (asked false)).imp (fun next left held => ?_) fun _ held => held)
  exact leads_bind ((told held).imp (fun _ _ held => leads_pure held) fun _ held => held)

theorem upholds_order (plan : TranscodePlan) :
    Upholds plan σ (fun _ => plan.InOrder) plan.InOrder fun _ => plan.InOrder where
  start := ⟨trivial, rfl⟩
  standing_safe _ _ held := held
  beginCycle _ _ held _ := beginCycle_orders held
  drainEncoder _ _ held _ :=
    aside_orders drainEncoder_asks (fun _ => Call.IsDownstream.leavesInput) held
  drainDecoder _ _ held _ := drainDecoder_orders held
  finish _ _ held _ := leads_bind <|
    (aside_orders register_asks (fun _ => Call.IsDownstream.leavesInput) held).imp
      (fun _ _ held => leads_pure held) fun _ held => held
  standing_setting _ call reply _ isSetting held := held.aside call isSetting.leavesInput reply
  safe_setting call reply _ isSetting held := held.aside call isSetting.leavesInput reply
  reached_setting _ call reply _ isSetting held := held.aside call isSetting.leavesInput reply

theorem records_inOrder (plan : TranscodePlan) (world : World σ) (desk : Desk σ) :
    plan.InOrder ((transcode plan).records world desk).2 := by
  have ends := (upholds_order plan).transcode.records world desk
  rcases found : (transcode plan).records world desk with ⟨_ | outcome, history⟩
  · simpa only [found] using ends
  · simpa only [found] using ends

end TranscodePlan

end Recode.Session
