import Recode.Proofs.Conduct

/-!
Work that does not stall. A loop stalls when it has used up its rounds; all other work goes on to its
value, unless an error or a panic breaks it off. So what is said of work here is said of its value
alone, and that it comes to one or is broken off by something other than a stall.
-/

namespace Recode.Session
open Recode.Progress

namespace Work
variable {σ α β : Type}

/-- In the world, and begun on the desk, the work does not stall, and it comes to a value only as
`reached` says. -/
def Lasts (work : Work σ α) (world : World σ) (desk : Desk σ) (reached : α → Desk σ → Prop) : Prop :=
  match work.run world desk with
  | (.ok value, left) => reached value left
  | (.error stop, _) => stop ≠ .stalled

section
variable {world : World σ} {desk left : Desk σ} {reached : α → Desk σ → Prop}

theorem Lasts.imp {work : Work σ α} {wider : α → Desk σ → Prop}
    (lasts : work.Lasts world desk reached)
    (reached_imp : ∀ value left, reached value left → wider value left) :
    work.Lasts world desk wider := by
  unfold Lasts at lasts ⊢
  split at lasts
  next value left ran => exact reached_imp value left lasts
  next stop left ran => exact lasts

theorem Lasts.ne_stalled {work : Work σ α} (lasts : work.Lasts world desk reached) :
    (work.run world desk).1 ≠ .error .stalled := by
  unfold Lasts at lasts
  split at lasts
  next value left ran => exact fun stalled => nomatch (congrArg Prod.fst ran).symm.trans stalled
  next stop left ran =>
    intro stalled
    cases (congrArg Prod.fst ran).symm.trans stalled
    exact lasts rfl

theorem Lasts.of_ok {work : Work σ α} (lasts : work.Lasts world desk reached) {value : α}
    (ran : work.run world desk = (.ok value, left)) : reached value left := by
  unfold Lasts at lasts
  rwa [ran] at lasts

theorem lasts_pure {value : α} (holds : reached value desk) :
    (pure value : Work σ α).Lasts world desk reached := holds

theorem lasts_fail {error : Error} : (fail error : Work σ α).Lasts world desk reached :=
  Stop.noConfusion

theorem lasts_bind {first : Work σ α} {next : α → Work σ β} {reached : β → Desk σ → Prop}
    (begun : first.Lasts world desk fun value left => (next value).Lasts world left reached) :
    (first >>= next).Lasts world desk reached := by
  unfold Lasts at begun ⊢
  rw [run_bind]
  rcases ran : first.run world desk with ⟨stop | value, left⟩ <;> rw [ran] at begun <;> exact begun

theorem Lasts.bind {first : Work σ α} {next : α → Work σ β} {between : α → Desk σ → Prop}
    {reached : β → Desk σ → Prop} (begins : first.Lasts world desk between)
    (onward : ∀ value left, between value left → (next value).Lasts world left reached) :
    (first >>= next).Lasts world desk reached :=
  lasts_bind (begins.imp onward)

theorem lasts_ask {call : Call} {next : call.Reply → Work σ β} {reached : β → Desk σ → Prop}
    (onward : (next (world.answer call desk.outside).1).Lasts world
      { desk with outside := (world.answer call desk.outside).2 } reached) :
    (ask call >>= next).Lasts world desk reached :=
  lasts_bind onward

theorem lasts_granted {answer : Except Error α}
    (granted : ∀ value, answer = .ok value → reached value desk) :
    (settle answer : Work σ α).Lasts world desk reached := by
  cases answer with
  | error error => exact lasts_fail
  | ok value => exact granted value rfl

theorem lasts_settle {answer : Except Error α} {next : α → Work σ β} {reached : β → Desk σ → Prop}
    (granted : ∀ value, answer = .ok value → (next value).Lasts world desk reached) :
    (settle answer >>= next).Lasts world desk reached := by
  apply lasts_bind
  cases answer with
  | error error => exact lasts_fail
  | ok value => exact granted value rfl

theorem lasts_patience {next : Nat → Work σ β} {reached : β → Desk σ → Prop}
    (onward : (next world.patience).Lasts world desk reached) :
    (patience >>= next).Lasts world desk reached :=
  lasts_bind onward

theorem lasts_outcome {work : Work σ α} {reached : Except Error α → Desk σ → Prop}
    (lasts : work.Lasts world desk fun value => reached (.ok value))
    (failed : ∀ error left, work.run world desk = (.error (.failed error), left) →
      reached (.error error) left) : (outcome work).Lasts world desk reached := by
  unfold Lasts at lasts ⊢
  rw [run_outcome]
  rcases ran : work.run world desk with ⟨(error | panic | _) | value, left⟩ <;> rw [ran] at lasts
  · exact failed error left ran
  · exact lasts
  · exact absurd rfl lasts
  · exact lasts

theorem lasts_ensuring {work : Work σ α} {cleanup : Work σ Unit}
    (lasts : work.Lasts world desk fun value left => reached value (cleanup.run world left).2) :
    (ensuring cleanup work).Lasts world desk reached := by
  unfold Lasts at lasts ⊢
  rw [run_ensuring]
  rcases ran : work.run world desk with ⟨stop | value, left⟩ <;> rw [ran] at lasts <;> exact lasts

theorem lasts_undoing {work : Work σ α} {cleanup : Work σ Unit}
    (lasts : work.Lasts world desk reached) :
    (undoing cleanup work).Lasts world desk reached := by
  unfold Lasts at lasts ⊢
  rw [run_undoing]
  rcases ran : work.run world desk with ⟨stop | value, left⟩ <;> rw [ran] at lasts <;> exact lasts

end

/- Whatever is told, at most the client breaks down on it. -/
section
variable {world : World σ} {kept : σ → Prop}
  (delivers : ∀ event state, kept state → kept (world.answer (.client (.deliver event)) state).2)
include delivers

theorem lasts_deliver (event : Event) {desk : Desk σ} (holds : kept desk.outside) :
    (deliver event).Lasts world desk fun _ left => kept left.outside := by
  have delivered := delivers event desk.outside holds
  unfold Lasts
  rw [run_deliver]
  cases (world.answer (.client (.deliver event)) desk.outside).1 with
  | error panic => exact Stop.noConfusion
  | ok taken => exact delivered

theorem lasts_forM_deliver (events : List Event) {desk : Desk σ} (holds : kept desk.outside) :
    (events.forM deliver).Lasts world desk fun _ left => kept left.outside := by
  induction events generalizing desk with
  | nil => exact lasts_pure holds
  | cons event rest ih => exact (lasts_deliver delivers event holds).bind fun _ left held => ih held

theorem lasts_tell (request : Request) {desk : Desk σ} (holds : kept desk.outside) :
    (tell request).Lasts world desk fun _ left => kept left.outside := by
  cases has : desk.reporter with
  | none =>
    unfold Lasts
    rw [run_tell_none has]
    exact holds
  | some reporter =>
    unfold Lasts
    rw [run_tell has]
    exact lasts_forM_deliver delivers _ holds

end

end Work

end Recode.Session
