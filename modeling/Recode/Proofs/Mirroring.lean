import Recode.Proofs.Runs

/-!
Work in two worlds of different states, of which one is a view of the other and is answered alike.
What the work comes to is the same in both, and the view of the desk that it leaves in the one is the
desk that it leaves in the other. So it changes nothing if a history is written.
-/

namespace Recode.Session
open Recode.Media Recode.Container Recode.Progress

/-- The world answers as the other does to whoever sees only the view of its states. -/
def World.Mirrors {τ σ : Type} (world : World τ) (view : τ → σ) (other : World σ) : Prop :=
  ∀ call state, other.answer call (view state) =
    ((world.answer call state).1, view (world.answer call state).2)

theorem World.recorded_mirrors {σ : Type} (world : World σ) :
    world.recorded.Mirrors Prod.snd world := fun _ _ => rfl

def Desk.map {τ σ : Type} (view : τ → σ) (desk : Desk τ) : Desk σ where
  reporter := desk.reporter
  announced := desk.announced
  outside := view desk.outside

namespace Work
variable {τ σ α β : Type} {view : τ → σ} {world : World τ} {other : World σ}

/-- The view of what the work comes to is what the other work comes to. -/
def Mirrors (work : Work τ α) (view : τ → σ) (world : World τ) (other : World σ)
    (seen : Work σ α) : Prop :=
  ∀ desk, seen.run other (desk.map view) =
    ((work.run world desk).1, (work.run world desk).2.map view)

theorem mirrors_pure (value : α) :
    (pure value : Work τ α).Mirrors view world other (pure value) := fun _ => rfl

theorem mirrors_stop (stop : Stop) :
    (throw stop : Work τ α).Mirrors view world other (throw stop) := fun _ => rfl

theorem mirrors_settle (answer : Except Error α) :
    (settle answer : Work τ α).Mirrors view world other (settle answer) := by
  cases answer with
  | ok value => exact mirrors_pure value
  | error error => exact mirrors_stop (.failed error)

theorem mirrors_bind {first : Work τ α} {next : α → Work τ β} {begun : Work σ α}
    {onward : α → Work σ β} (begins : first.Mirrors view world other begun)
    (goesOn : ∀ value, (next value).Mirrors view world other (onward value)) :
    (first >>= next).Mirrors view world other (begun >>= onward) := by
  intro desk
  rw [run_bind, run_bind, begins desk]
  rcases first.run world desk with ⟨stop | value, left⟩
  · rfl
  · exact goesOn value left

theorem mirrors_ite {condition : Prop} [Decidable condition] {first second : Work τ α}
    {begun onward : Work σ α} (whenTrue : first.Mirrors view world other begun)
    (whenFalse : second.Mirrors view world other onward) :
    (if condition then first else second).Mirrors view world other
      (if condition then begun else onward) := by
  by_cases holds : condition
  · rw [if_pos holds, if_pos holds]
    exact whenTrue
  · rw [if_neg holds, if_neg holds]
    exact whenFalse

theorem mirrors_patience (alike : other.patience = world.patience) :
    (patience : Work τ Nat).Mirrors view world other patience := by
  intro desk
  rw [run_patience, run_patience, alike]

theorem mirrors_outcome {work : Work τ α} {seen : Work σ α}
    (mirrors : work.Mirrors view world other seen) :
    (outcome work).Mirrors view world other (outcome seen) := by
  intro desk
  rw [run_outcome, run_outcome, mirrors desk]
  rcases work.run world desk with ⟨(error | panic | _) | value, left⟩ <;> rfl

theorem mirrors_ensuring {work : Work τ α} {seen : Work σ α} {cleanup : Work τ Unit}
    {cleaned : Work σ Unit} (cleans : cleanup.Mirrors view world other cleaned)
    (mirrors : work.Mirrors view world other seen) :
    (ensuring cleanup work).Mirrors view world other (ensuring cleaned seen) := by
  intro desk
  rw [run_ensuring, run_ensuring, mirrors desk]
  dsimp only
  rw [cleans]

theorem mirrors_undoing {work : Work τ α} {seen : Work σ α} {cleanup : Work τ Unit}
    {cleaned : Work σ Unit} (cleans : cleanup.Mirrors view world other cleaned)
    (mirrors : work.Mirrors view world other seen) :
    (undoing cleanup work).Mirrors view world other (undoing cleaned seen) := by
  intro desk
  rw [run_undoing, run_undoing, mirrors desk]
  rcases work.run world desk with ⟨stop | value, left⟩
  · dsimp only
    rw [cleans]
  · rfl

/- To tell something takes no more than a client who hears alike. -/
section
variable (hears : ∀ event state, other.answer (.client (.deliver event)) (view state) =
  ((world.answer (.client (.deliver event)) state).1,
    view (world.answer (.client (.deliver event)) state).2))
include hears

theorem mirrors_deliver (event : Event) :
    (deliver event).Mirrors view world other (deliver event) := by
  intro desk
  have heard := hears event desk.outside
  rw [run_deliver, run_deliver]
  change ((other.answer (.client (.deliver event)) (view desk.outside)).1.mapError _, Desk.mk _ _
    (other.answer (.client (.deliver event)) (view desk.outside)).2) = _
  rw [heard]
  rfl

theorem mirrors_forM_deliver (events : List Event) :
    (events.forM deliver : Work τ Unit).Mirrors view world other (events.forM deliver) := by
  induction events with
  | nil => exact mirrors_pure ()
  | cons event rest ih => exact mirrors_bind (mirrors_deliver hears event) fun _ => ih

theorem mirrors_tell_heard (request : Request) :
    (tell request).Mirrors view world other (tell request) := by
  intro desk
  cases has : desk.reporter with
  | none =>
    have without : (desk.map view).reporter = none := has
    rw [run_tell_none has, run_tell_none without]
  | some reporter =>
    have same : (desk.map view).reporter = some reporter := has
    rw [run_tell has, run_tell same]
    exact mirrors_forM_deliver hears _ { desk with reporter := some (reporter.serve request).2 }

end

section
variable (mirrors : world.Mirrors view other)
include mirrors

theorem mirrors_ask (call : Call) : (ask call).Mirrors view world other (ask call) := by
  intro desk
  have answered := mirrors call desk.outside
  rw [run_ask, run_ask]
  change (Except.ok (other.answer call (view desk.outside)).1,
    { desk.map view with outside := (other.answer call (view desk.outside)).2 }) = _
  rw [answered]
  rfl

theorem mirrors_tell (request : Request) :
    (tell request).Mirrors view world other (tell request) :=
  mirrors_tell_heard (fun event => mirrors (.client (.deliver event))) request

theorem mirrors_checkCancelled :
    (checkCancelled : Work τ Unit).Mirrors view world other checkCancelled :=
  mirrors_bind (mirrors_ask mirrors _) fun _ => mirrors_ite (mirrors_stop _) (mirrors_pure ())

theorem mirrors_granted {call : Call} {read : call.Reply → Except Error α} {next : α → Work τ β}
    {onward : α → Work σ β} (goesOn : ∀ value, (next value).Mirrors view world other (onward value)) :
    (ask call >>= fun reply => settle (read reply) >>= next).Mirrors view world other
      (ask call >>= fun reply => settle (read reply) >>= onward) :=
  mirrors_bind (mirrors_ask mirrors call) fun _ => mirrors_bind (mirrors_settle _) goesOn

end

end Work

end Recode.Session
