import Recode.Proofs.SessionSteps
import Recode.Simulation.Trial

/-!
The account of the frames of a transcode. A frame that is handed to the encoder is a picture of the
decoder's from inside the window, and these come in the decoder's order. Every other picture from
inside the window is counted as dropped, whatever the reason why it did not get on.
-/

namespace Recode.Session
open Recode.Media Recode.Container Recode.Device Recode.Picture Recode.Progress
open Recode.Session.Work Recode.Session.History

namespace Exchange

def decoded? : Exchange → Option SampleInfo
  | ⟨.device (.dequeueOutput .decoder _), .ok (.buffer _ info)⟩ => some info
  | _ => none

/-- The time that is set for the next frame of the surface, with regard to one more exchange. -/
def present : Exchange → Int → Int
  | ⟨.device (.presentAt nanoseconds), _⟩, _ => nanoseconds
  | _, earlier => earlier

/-- The time in microseconds of a frame that is handed to the encoder: on the surface the time set
before, given in nanoseconds, and otherwise that of the buffer. -/
def submitted? (presented : Int) : Exchange → Option Int
  | ⟨.device (.swap _), _⟩ => some (presented.tdiv 1000)
  | ⟨.device (.queueInput .encoder _ _ info), _⟩ =>
      if info.flags.isEndOfStream then none else some info.time
  | _ => none

end Exchange

namespace History

def decoded (history : History) : List SampleInfo := history.filterMap Exchange.decoded?

def presented (history : History) : Int := history.foldr Exchange.present 0

def submitted : History → List Int
  | [] => []
  | latest :: earlier => (latest.submitted? (presented earlier)).toList ++ submitted earlier

theorem submitted_cons_none {exchange : Exchange} {history : History}
    (unsubmitted : ∀ presented, exchange.submitted? presented = none) :
    submitted (exchange :: history) = history.submitted := by
  simp only [submitted, unsubmitted, Option.toList_none, List.nil_append]

theorem submitted_cons_some {exchange : Exchange} {history : History} {time : Int}
    (given : exchange.submitted? history.presented = some time) :
    submitted (exchange :: history) = time :: history.submitted := by
  simp only [submitted, given, Option.toList_some, List.singleton_append]

end History

namespace Exchange

def IsUncounted (exchange : Exchange) : Prop :=
  exchange.decoded? = none ∧ ∀ presented, exchange.submitted? presented = none

theorem isUncounted_of_isSetting {call : Call} (isSetting : call.IsSetting) (reply : call.Reply) :
    IsUncounted ⟨call, reply⟩ := by
  unfold Call.IsSetting at isSetting
  split at isSetting <;> first | exact isSetting.elim | exact ⟨rfl, fun _ => rfl⟩

theorem isUncounted_of_isDownstream {call : Call} (isDownstream : call.IsDownstream)
    (reply : call.Reply) : IsUncounted ⟨call, reply⟩ := by
  unfold Call.IsDownstream at isDownstream
  split at isDownstream <;> first | exact isDownstream.elim | exact ⟨rfl, fun _ => rfl⟩

theorem isUncounted_of_isQuiet {call : Call} (isQuiet : call.IsQuiet) (reply : call.Reply) :
    IsUncounted ⟨call, reply⟩ := by
  unfold Call.IsQuiet at isQuiet
  split at isQuiet
  next => exact isQuiet.elim
  next => exact isQuiet.elim
  next slot content info => exact ⟨rfl, fun _ => if_pos isQuiet⟩
  next unpolled unswapped unqueued =>
    unfold Call.IsUpstream at isQuiet
    split at isQuiet
    all_goals first
      | exact ⟨rfl, fun _ => rfl⟩
      | exact absurd rfl (unpolled _)
      | exact absurd rfl (unswapped _)
      | exact absurd rfl (unqueued _ _ _)
      | skip
    unfold Call.IsFeeding at isQuiet
    split at isQuiet <;> first | exact isQuiet.elim | exact ⟨rfl, fun _ => rfl⟩

end Exchange

/-- A picture from inside the window, which is to be either handed to the encoder or dropped. -/
def TranscodePlan.isDue (plan : TranscodePlan) (info : SampleInfo) : Bool :=
  plan.isPicture info && plan.window.admits info.time

/-- The frames of the encoder were given these times, which are from inside the window and those of
some of the buffers, in their order. -/
structure Chosen (plan : TranscodePlan) (given : List Int) (dealt : List SampleInfo)
    (history : History) : Prop where
  stamped : history.submitted = given.map plan.stamped
  inOrder : given.Sublist (dealt.map (·.time))
  inside : ∀ time ∈ given, plan.window.admits time = true

namespace Chosen
variable {plan : TranscodePlan} {given : List Int} {dealt : List SampleInfo} {history : History}
  {exchange : Exchange} {info : SampleInfo}

theorem aside (chosen : Chosen plan given dealt history)
    (unsubmitted : ∀ presented, exchange.submitted? presented = none) :
    Chosen plan given dealt (exchange :: history) :=
  { chosen with stamped := (submitted_cons_none unsubmitted).trans chosen.stamped }

theorem passed (chosen : Chosen plan given dealt history) (info : SampleInfo) :
    Chosen plan given (info :: dealt) history := { chosen with inOrder := chosen.inOrder.cons _ }

theorem submitted (chosen : Chosen plan given dealt history) (due : plan.isDue info = true)
    (handed : exchange.submitted? history.presented = some (plan.stamped info.time)) :
    Chosen plan (info.time :: given) (info :: dealt) (exchange :: history) where
  stamped := by
    rw [submitted_cons_some handed, chosen.stamped]
    rfl
  inOrder := chosen.inOrder.cons_cons _
  inside := List.forall_mem_cons.mpr ⟨(Bool.and_eq_true_iff.mp due).2, chosen.inside⟩

end Chosen

def ChoosesFrames (plan : TranscodePlan) (history : History) : Prop :=
  ∃ given, Chosen plan given history.decoded history

theorem ChoosesFrames.uncounted {plan : TranscodePlan} {history : History} {exchange : Exchange}
    (chooses : ChoosesFrames plan history) (uncounted : exchange.IsUncounted) :
    ChoosesFrames plan (exchange :: history) := by
  obtain ⟨given, chosen⟩ := chooses
  have same : decoded (exchange :: history) = history.decoded :=
    List.filterMap_cons_none uncounted.1
  exact ⟨given, same ▸ chosen.aside uncounted.2⟩

namespace FrameCount

def withRendered (frames : FrameCount) (time : Int) : FrameCount :=
  ⟨frames.firstTime.or (some time), frames.rendered + 1, frames.dropped⟩

def withDropped (frames : FrameCount) : FrameCount :=
  { frames with dropped := frames.dropped + 1 }

end FrameCount

/-- The count of frames is right, as far as the decoder's buffers are dealt with. -/
structure Accounted (plan : TranscodePlan) (frames : FrameCount) (dealt : List SampleInfo)
    (history : History) : Prop where
  given : ∃ given, Chosen plan given dealt history ∧ frames.firstTime = given.getLast?
  rendered : frames.rendered = history.submitted.length
  counted : frames.rendered + frames.dropped = dealt.countP plan.isDue

namespace Accounted
variable {plan : TranscodePlan} {frames : FrameCount} {dealt : List SampleInfo} {history : History}
  {exchange : Exchange} {info : SampleInfo}

theorem chooses (held : Accounted plan frames history.decoded history) :
    ChoosesFrames plan history := held.given.imp fun _ both => both.1

theorem aside (held : Accounted plan frames dealt history)
    (unsubmitted : ∀ presented, exchange.submitted? presented = none) :
    Accounted plan frames dealt (exchange :: history) where
  given := held.given.imp fun _ both => ⟨both.1.aside unsubmitted, both.2⟩
  rendered := held.rendered.trans (congrArg List.length (submitted_cons_none unsubmitted).symm)
  counted := held.counted

theorem uncounted (held : Accounted plan frames history.decoded history)
    (uncounted : exchange.IsUncounted) :
    Accounted plan frames (decoded (exchange :: history)) (exchange :: history) := by
  have same : decoded (exchange :: history) = history.decoded :=
    List.filterMap_cons_none uncounted.1
  rw [same]
  exact held.aside uncounted.2

theorem passed (held : Accounted plan frames dealt history) (undue : plan.isDue info = false) :
    Accounted plan frames (info :: dealt) history where
  given := held.given.imp fun _ both => ⟨both.1.passed info, both.2⟩
  rendered := held.rendered
  counted := by
    rw [held.counted, List.countP_cons_of_neg (by simp [undue])]

theorem dropped (held : Accounted plan frames dealt history) (due : plan.isDue info = true) :
    Accounted plan frames.withDropped (info :: dealt) history where
  given := held.given.imp fun _ both => ⟨both.1.passed info, both.2⟩
  rendered := held.rendered
  counted := by
    rw [List.countP_cons_of_pos due, ← held.counted]
    rfl

theorem submitted (held : Accounted plan frames dealt history) (due : plan.isDue info = true)
    (handed : exchange.submitted? history.presented = some (plan.stamped info.time)) :
    Accounted plan (frames.withRendered info.time) (info :: dealt) (exchange :: history) := by
  obtain ⟨given, chosen, first⟩ := held.given
  refine ⟨⟨_, chosen.submitted due handed, ?_⟩, ?_, ?_⟩
  · rw [List.getLast?_cons, FrameCount.withRendered, first]
    cases given.getLast? <;> rfl
  · rw [submitted_cons_some handed, List.length_cons, FrameCount.withRendered, held.rendered]
  · rw [List.countP_cons_of_pos due, ← held.counted]
    exact Nat.succ_add _ _

end Accounted

/-- The decoder's latest buffer is a picture from inside the window, with which nothing was done. -/
structure Outstanding (plan : TranscodePlan) (frames : FrameCount) (info : SampleInfo)
    (earlier : List SampleInfo) (history : History) : Prop
    extends Accounted plan frames earlier history where
  latest : history.decoded = info :: earlier
  due : plan.isDue info = true

namespace Outstanding
variable {plan : TranscodePlan} {frames : FrameCount} {info : SampleInfo} {earlier : List SampleInfo}
  {history : History} {exchange : Exchange}

theorem chooses (held : Outstanding plan frames info earlier history) :
    ChoosesFrames plan history :=
  held.given.imp fun _ both => held.latest ▸ both.1.passed info

theorem uncounted (held : Outstanding plan frames info earlier history)
    (uncounted : exchange.IsUncounted) :
    Outstanding plan frames info earlier (exchange :: history) where
  toAccounted := held.aside uncounted.2
  latest := (List.filterMap_cons_none uncounted.1).trans held.latest
  due := held.due

theorem left (held : Outstanding plan frames info earlier history) :
    Accounted plan frames.withDropped history.decoded history :=
  held.latest ▸ held.dropped held.due

theorem handedOver (held : Outstanding plan frames info earlier history)
    (undecoded : exchange.decoded? = none)
    (handed : exchange.submitted? history.presented = some (plan.stamped info.time)) :
    Accounted plan (frames.withRendered info.time) (decoded (exchange :: history))
      (exchange :: history) := by
  have same : decoded (exchange :: history) = info :: earlier :=
    (List.filterMap_cons_none undecoded).trans held.latest
  rw [same]
  exact held.submitted held.due handed

end Outstanding

namespace TranscodePlan
variable {σ : Type} {plan : TranscodePlan} {session : Standing} {frames : FrameCount}
  {info : SampleInfo} {earlier : List SampleInfo} {history : History}

end TranscodePlan

end Recode.Session

namespace Recode.Simulation
open Recode.Media Recode.Container Recode.Device Recode.Session
open Recode.Session.Work Recode.Session.History

end Recode.Simulation
