import Recode.Proofs.Runs
import Recode.Proofs.SessionSteps
import Recode.Session.Copy

/-!
What work is made of. Apart from its calls, a session does three things that a world can break off:
it polls codecs for output, it writes samples, and it asks whether it is cancelled. All that it tells
its listener is its progress, and what it cleans up with are calls that close something. Whatever
such pieces keep, all work made of them keeps.
-/

namespace Recode.Session
open Recode.Media Recode.Container Recode.Device Recode.Progress

namespace Call

def IsClosing : Call → Prop
  | .storage (.unselect _) | .storage .releaseDemuxer | .storage .finalize => True
  | .device (.stop _) | .device (.release _) | .device .releaseSurface
  | .device .releaseTransform => True
  | _ => False

/-- Calls that are only made for their answer or their effect: no poll for output, no write, no
question after the client's mind and no word to it. -/
def IsPlain : Call → Prop
  | .device (.dequeueOutput _ _) | .storage (.write _ _ _ _) => False
  | .client .isCancelled | .client (.deliver _) => False
  | _ => True

def IsSteady : Call → Prop
  | .device (.dequeueOutput _ _) | .storage (.write _ _ _ _) | .client .isCancelled => False
  | _ => True

def IsSilent : Call → Prop
  | .client (.deliver _) => False
  | _ => True

theorem IsClosing.isPlain {call : Call} (closing : call.IsClosing) : call.IsPlain := by
  unfold IsClosing at closing
  split at closing <;> trivial

theorem IsPlain.isSilent {call : Call} (plain : call.IsPlain) : call.IsSilent := by
  unfold IsSilent
  split
  next event => exact plain
  next other => trivial

theorem IsPlain.isSteady {call : Call} (plain : call.IsPlain) : call.IsSteady := by
  unfold IsSteady
  split
  next timeout => exact plain
  next write => exact plain
  next question => exact plain
  next other => trivial

end Call

namespace Work
variable {σ α β : Type} {calls wider : Call → Prop}

/-- Cleanup: it makes closing calls, and does not care for the answers. -/
inductive Tidies (calls : Call → Prop) : {α : Type} → Work σ α → Prop where
  | pure {α : Type} (value : α) : Tidies calls (pure value)
  | call {call : Call} (allowed : calls call) (closing : call.IsClosing) : Tidies calls (ask call)
  | bind {α β : Type} {first : Work σ α} {next : α → Work σ β} (begins : Tidies calls first)
      (goesOn : ∀ value, Tidies calls (next value)) : Tidies calls (first >>= next)

/-- Work that is made of allowed calls. After an attempt something is closed before its error is
told. -/
inductive Uses (calls : Call → Prop) : {α : Type} → Work σ α → Prop where
  | pure {α : Type} (value : α) : Uses calls (pure value)
  | stop {α : Type} (stop : Stop) : Uses calls (throw stop : Work σ α)
  | patience : Uses calls patience
  | call {call : Call} (allowed : calls call) (plain : call.IsPlain) : Uses calls (ask call)
  | poll {side : Side} {timeout : Int} (allowed : calls (.device (.dequeueOutput side timeout))) :
      Uses calls (device (.dequeueOutput side timeout) >>= fun answer =>
        settle (retried .tryAgainLater answer))
  | write {track : Nat} {buffer : Bytes} {info : SampleInfo} {isAudio : Bool}
      (allowed : calls (.storage (.write track buffer info isAudio))) :
      Uses calls (storage (.write track buffer info isAudio) >>= settle)
  | check (allowed : calls (.client .isCancelled)) : Uses calls checkCancelled
  | report (allowed : ∀ event, calls (.client (.deliver event))) (time : Int) :
      Uses calls (tell (.report time))
  | bind {α β : Type} {first : Work σ α} {next : α → Work σ β} (begins : Uses calls first)
      (goesOn : ∀ value, Uses calls (next value)) : Uses calls (first >>= next)
  | attempt {α β : Type} {work : Work σ α} {call : Call} {next : call.Reply → α → Work σ β}
      (tries : Uses calls work) (allowed : calls call) (closing : call.IsClosing)
      (goesOn : ∀ reply value, Uses calls (next reply value)) :
      Uses calls (outcome work >>= fun result => ask call >>= fun reply =>
        settle result >>= next reply)
  | ensuring {α : Type} {cleanup : Work σ Unit} {work : Work σ α} (cleans : Tidies calls cleanup)
      (works : Uses calls work) : Uses calls (ensuring cleanup work)
  | undoing {α : Type} {cleanup : Work σ Unit} {work : Work σ α} (cleans : Tidies calls cleanup)
      (works : Uses calls work) : Uses calls (undoing cleanup work)

theorem Tidies.weaken {work : Work σ α} (tidies : work.Tidies calls)
    (widens : ∀ call, calls call → wider call) : work.Tidies wider := by
  induction tidies with
  | pure value => exact .pure value
  | call allowed closing => exact .call (widens _ allowed) closing
  | bind _ _ begins goesOn => exact .bind begins goesOn

theorem Tidies.uses {work : Work σ α} (tidies : work.Tidies calls) : work.Uses calls := by
  induction tidies with
  | pure value => exact .pure value
  | call allowed closing => exact .call allowed closing.isPlain
  | bind _ _ begins goesOn => exact .bind begins goesOn

theorem Uses.weaken {work : Work σ α} (uses : work.Uses calls)
    (widens : ∀ call, calls call → wider call) : work.Uses wider := by
  induction uses with
  | pure value => exact .pure value
  | stop stop => exact .stop stop
  | patience => exact .patience
  | call allowed plain => exact .call (widens _ allowed) plain
  | poll allowed => exact .poll (widens _ allowed)
  | write allowed => exact .write (widens _ allowed)
  | check allowed => exact .check (widens _ allowed)
  | report allowed time => exact .report (fun event => widens _ (allowed event)) time
  | bind _ _ begins goesOn => exact .bind begins goesOn
  | attempt _ allowed closing _ tries goesOn =>
    exact .attempt tries (widens _ allowed) closing goesOn
  | ensuring cleans _ works => exact .ensuring (cleans.weaken widens) works
  | undoing cleans _ works => exact .undoing (cleans.weaken widens) works

namespace Uses

theorem settle {answer : Except Error α} : (settle answer : Work σ α).Uses calls := by
  cases answer with
  | ok value => exact .pure value
  | error error => exact .stop (.failed error)

theorem ite {condition : Prop} [Decidable condition] {work other : Work σ α}
    (whenTrue : condition → work.Uses calls) (whenFalse : ¬condition → other.Uses calls) :
    (if condition then work else other).Uses calls := by
  by_cases holds : condition
  · rw [if_pos holds]
    exact whenTrue holds
  · rw [if_neg holds]
    exact whenFalse holds

theorem granted {asked : Work σ (Except Error α)} {next : α → Work σ β} (asks : asked.Uses calls)
    (goesOn : ∀ value, (next value).Uses calls) :
    (asked >>= fun answer => Work.settle answer >>= next).Uses calls :=
  .bind asks fun _ => .bind settle goesOn

theorem written {track : Nat} {buffer : Bytes} {info : SampleInfo} {isAudio : Bool}
    {next : Bool → Work σ α} (allowed : calls (.storage (.write track buffer info isAudio)))
    (goesOn : ∀ stored, (next stored).Uses calls) :
    (storage (.write track buffer info isAudio) >>= fun answer =>
      Work.settle answer >>= next).Uses calls := by
  rw [← bind_assoc]
  exact .bind (.write allowed) goesOn

theorem attempted {work : Work σ α} {call : Call} (tries : work.Uses calls) (allowed : calls call)
    (closing : call.IsClosing) :
    (outcome work >>= fun result => ask call >>= fun _ => Work.settle result).Uses calls := by
  have told := @Uses.attempt σ calls α α work call (fun _ value => Pure.pure value) tries allowed
    closing fun _ => .pure
  simpa only [bind_pure] using told

end Uses

/-- In the world, the work keeps what holds of the desk, however it ends. -/
def Keeps (work : Work σ α) (world : World σ) (kept : Desk σ → Prop) : Prop :=
  ∀ desk, kept desk → kept (work.run world desk).2

section
variable {world : World σ} {kept : Desk σ → Prop}

theorem Keeps.returns {work : Work σ α} {desk : Desk σ} (keeps : work.Keeps world kept)
    (holds : kept desk) : work.Returns world desk (fun _ => kept) fun _ => kept := by
  have worked := keeps desk holds
  unfold Returns
  rcases ran : work.run world desk with ⟨(error | panic | _) | value, left⟩ <;> rw [ran] at worked
  · exact worked
  · trivial
  · trivial
  · exact worked

theorem Returns.keeping {work : Work σ α} {desk : Desk σ} {reached : α → Desk σ → Prop}
    {failed : Error → Desk σ → Prop} (returns : work.Returns world desk reached failed)
    (keeps : work.Keeps world kept) (holds : kept desk) :
    work.Returns world desk (fun value left => reached value left ∧ kept left)
      fun error left => failed error left ∧ kept left := by
  have worked := keeps desk holds
  unfold Returns at returns ⊢
  rcases ran : work.run world desk with ⟨(error | panic | _) | value, left⟩ <;>
    rw [ran] at worked returns
  · exact ⟨returns, worked⟩
  · trivial
  · trivial
  · exact ⟨returns, worked⟩

theorem Keeps.ends {work : Work σ α} {desk : Desk σ} (keeps : work.Keeps world kept)
    (holds : kept desk) : work.Ends world desk (fun _ => kept) (fun _ => kept) kept := by
  have worked := keeps desk holds
  unfold Ends
  rcases ran : work.run world desk with ⟨(error | panic | _) | value, left⟩ <;> rw [ran] at worked <;>
    exact worked

theorem keeps_pure (value : α) : (pure value : Work σ α).Keeps world kept := fun _ holds => holds

theorem keeps_stop (stop : Stop) : (throw stop : Work σ α).Keeps world kept := fun _ holds => holds

theorem keeps_settle (answer : Except Error α) : (settle answer).Keeps world kept := by
  cases answer with
  | ok value => exact keeps_pure value
  | error error => exact keeps_stop (.failed error)

theorem keeps_bind {first : Work σ α} {next : α → Work σ β} (begins : first.Keeps world kept)
    (goesOn : ∀ value, (next value).Keeps world kept) : (first >>= next).Keeps world kept := by
  intro desk holds
  have begun := begins desk holds
  rw [run_bind]
  rcases ran : first.run world desk with ⟨stop | value, left⟩
  · rwa [ran] at begun
  · rw [ran] at begun
    exact goesOn value left begun

theorem keeps_outcome {work : Work σ α} (keeps : work.Keeps world kept) :
    (outcome work).Keeps world kept := by
  intro desk holds
  have worked := keeps desk holds
  rw [run_outcome]
  rcases ran : work.run world desk with ⟨(error | panic | _) | value, left⟩ <;>
    rwa [ran] at worked

theorem keeps_undoing {cleanup : Work σ Unit} {work : Work σ α} (cleans : cleanup.Keeps world kept)
    (keeps : work.Keeps world kept) : (undoing cleanup work).Keeps world kept := by
  intro desk holds
  have worked := keeps desk holds
  rw [run_undoing]
  rcases ran : work.run world desk with ⟨stop | value, left⟩
  · rw [ran] at worked
    exact cleans left worked
  · rwa [ran] at worked

theorem Tidies.keeps {work : Work σ α} (tidies : work.Tidies calls)
    (closed : ∀ call, calls call → call.IsClosing → (ask call).Keeps world kept) :
    work.Keeps world kept := by
  induction tidies with
  | pure value => exact keeps_pure value
  | call allowed closing => exact closed _ allowed closing
  | bind _ _ begins goesOn => exact keeps_bind begins goesOn

/-- What calls and reports of progress keep, work made of them keeps. -/
theorem Uses.keeps {work : Work σ α} (uses : work.Uses calls)
    (asked : ∀ call, calls call → call.IsSilent → (ask call).Keeps world kept)
    (told : (∀ event, calls (.client (.deliver event))) → ∀ time,
      (tell (.report time)).Keeps world kept) : work.Keeps world kept := by
  have closed (call : Call) (allowed : calls call) (closing : call.IsClosing) :
      (ask call).Keeps world kept := asked call allowed closing.isPlain.isSilent
  induction uses with
  | pure value => exact keeps_pure value
  | stop stop => exact keeps_stop stop
  | patience => exact fun _ holds => holds
  | call allowed plain => exact asked _ allowed plain.isSilent
  | poll allowed => exact keeps_bind (asked _ allowed trivial) fun _ => keeps_settle _
  | write allowed => exact keeps_bind (asked _ allowed trivial) keeps_settle
  | check allowed =>
    refine keeps_bind (asked _ allowed trivial) fun isCancelled => ?_
    split
    next cancelled => exact keeps_stop (.failed .cancelled)
    next wanted => exact keeps_pure ()
  | report allowed time => exact told allowed time
  | bind _ _ begins goesOn => exact keeps_bind begins goesOn
  | attempt _ allowed closing _ tries goesOn =>
    refine keeps_bind (keeps_outcome tries) fun result =>
      keeps_bind (closed _ allowed closing) fun reply => ?_
    exact keeps_bind (keeps_settle result) (goesOn reply)
  | ensuring cleans _ works =>
    exact fun desk holds => cleans.keeps closed _ (works desk holds)
  | undoing cleans _ works => exact keeps_undoing (cleans.keeps closed) works

end

/- Whatever is told, all that happens outside is that the client is handed events. -/
section
variable {world : World σ} {kept : σ → Prop}
  (delivers : ∀ event state, kept state → kept (world.answer (.client (.deliver event)) state).2)
include delivers

theorem keeps_deliver (event : Event) :
    (deliver event).Keeps world fun desk => kept desk.outside := by
  intro desk holds
  rw [run_deliver]
  exact delivers event desk.outside holds

theorem keeps_forM_deliver (events : List Event) :
    (events.forM deliver : Work σ Unit).Keeps world fun desk => kept desk.outside := by
  induction events with
  | nil => exact keeps_pure ()
  | cons event rest ih => exact keeps_bind (keeps_deliver delivers event) fun _ => ih

theorem keeps_tell (request : Request) : (tell request).Keeps world fun desk => kept desk.outside := by
  intro desk holds
  cases has : desk.reporter with
  | none =>
    rw [run_tell_none has]
    exact holds
  | some reporter =>
    rw [run_tell has]
    exact keeps_forM_deliver delivers _ _ holds

end

theorem Uses.keeps_outside {work : Work σ α} {world : World σ} {kept : σ → Prop}
    (uses : work.Uses calls)
    (answered : ∀ call state, calls call → kept state → kept (world.answer call state).2) :
    work.Keeps world fun desk => kept desk.outside :=
  uses.keeps (fun call allowed _ desk holds => answered call desk.outside allowed holds)
    fun allowed time => keeps_tell (fun event state => answered _ state (allowed event)) (.report time)

theorem Uses.before {work : Work σ α} {next : α → Work σ β} {world : World σ} {kept : σ → Prop}
    {desk : Desk σ} {reached : β → Desk σ → Prop} (uses : work.Uses calls)
    (answered : ∀ call state, calls call → kept state → kept (world.answer call state).2)
    (holds : kept desk.outside)
    (onward : ∀ value left, kept left.outside →
      (next value).Returns world left reached fun _ _ => True) :
    (work >>= next).Returns world desk reached fun _ _ => True :=
  returns_bind (((uses.keeps_outside answered).returns holds).imp onward fun _ _ _ => trivial)

theorem Uses.before_settle {work : Work σ (Except Error α)} {next : α → Work σ β} {world : World σ}
    {kept : σ → Prop} {desk : Desk σ} {reached : β → Desk σ → Prop} (uses : work.Uses calls)
    (answered : ∀ call state, calls call → kept state → kept (world.answer call state).2)
    (holds : kept desk.outside)
    (onward : ∀ value left, kept left.outside →
      (next value).Returns world left reached fun _ _ => True) :
    (work >>= fun answer => Work.settle answer >>= next).Returns world desk reached fun _ _ => True :=
  uses.before answered holds fun _ left held =>
    returns_settle (fun _ _ => trivial) fun value _ => onward value left held

/- What is written down of a world is said of the history alone. -/
section
variable {world : World σ}

theorem Uses.keeps_history {work : Work (History × σ) α} (uses : work.Uses calls)
    (kept : History → Prop)
    (added : ∀ call reply history, calls call → kept history → kept (⟨call, reply⟩ :: history)) :
    work.Keeps world.recorded fun desk => kept desk.outside.1 :=
  @Uses.keeps_outside _ _ calls work world.recorded (fun state => kept state.1) uses
    fun call state allowed holds => added call (world.answer call state.2).1 state.1 allowed holds

theorem Uses.leads {work : Work (History × σ) α} {history : History} {kept : History → Prop}
    (uses : work.Uses calls)
    (added : ∀ call reply history, calls call → kept history → kept (⟨call, reply⟩ :: history))
    (holds : kept history) : work.Leads history (fun _ => kept) kept := by
  rintro world desk rfl
  have ends := @Uses.keeps_history _ _ _ world work uses kept added desk holds
  rcases ran : work.run world.recorded desk with ⟨stop | value, left⟩ <;> rwa [ran] at ends

theorem keeps_of_leads {work : Work (History × σ) α} {kept : History → Prop}
    (leads : ∀ history, kept history → work.Leads history (fun _ => kept) kept) :
    work.Keeps world.recorded fun desk => kept desk.outside.1 := by
  intro desk holds
  have ends := leads desk.outside.1 holds world desk rfl
  rcases ran : work.run world.recorded desk with ⟨stop | value, left⟩ <;> rwa [ran] at ends

theorem ends_recorded {call : Call} {desk : Desk (History × σ)}
    {next : call.Reply → Work (History × σ) β} {reached : β → Desk (History × σ) → Prop}
    {failed : Error → Desk (History × σ) → Prop} {broken : Desk (History × σ) → Prop}
    (onward : ∀ reply left, left.outside.1 = ⟨call, reply⟩ :: desk.outside.1 →
      (next reply).Ends world.recorded left reached failed broken) :
    (ask call >>= next).Ends world.recorded desk reached failed broken :=
  ends_ask (onward _ _ rfl)

theorem keeps_tell_history (request : Request) (kept : History → Prop)
    (added : ∀ event reply history, kept history →
      kept (⟨.client (.deliver event), reply⟩ :: history)) :
    (tell request : Work (History × σ) Unit).Keeps world.recorded fun desk => kept desk.outside.1 :=
  @keeps_tell _ world.recorded (fun state => kept state.1)
    (fun event state holds => added event (world.answer _ state.2).1 state.1 holds) request

end

end Work

end Recode.Session
