import Recode.Session.World

/-!
Work in a world that is known. Here the answers to its calls are known too, so it can be said that
the work comes to its value, and on what desk. Where that is not known, it can still be said what
holds if the work returns, be it with a value or with an error.
-/

namespace Recode.Session
open Recode.Progress

namespace Work
variable {σ α β : Type}

/-- In the world, and begun on the desk, the work comes to a value as `reached` says. -/
def Reaches (work : Work σ α) (world : World σ) (desk : Desk σ) (reached : α → Desk σ → Prop) :
    Prop :=
  ∃ value left, work.run world desk = (.ok value, left) ∧ reached value left

section
variable {world : World σ} {desk : Desk σ} {reached : α → Desk σ → Prop}

theorem Reaches.imp {work : Work σ α} {wider : α → Desk σ → Prop}
    (reaches : work.Reaches world desk reached)
    (reached_imp : ∀ value left, reached value left → wider value left) :
    work.Reaches world desk wider := by
  obtain ⟨value, left, ran, holds⟩ := reaches
  exact ⟨value, left, ran, reached_imp value left holds⟩

theorem reaches_pure {value : α} (holds : reached value desk) :
    (pure value : Work σ α).Reaches world desk reached :=
  ⟨value, desk, rfl, holds⟩

theorem reaches_bind {first : Work σ α} {next : α → Work σ β} {reached : β → Desk σ → Prop}
    (begun : first.Reaches world desk fun value left => (next value).Reaches world left reached) :
    (first >>= next).Reaches world desk reached := by
  obtain ⟨value, left, ran, last, final, ended, holds⟩ := begun
  refine ⟨last, final, ?_, holds⟩
  rw [run_bind, ran]
  exact ended

theorem run_after {first : Work σ α} {next : α → Work σ β} {value : α} {left : Desk σ}
    (ran : first.run world desk = (.ok value, left)) :
    (first >>= next).run world desk = (next value).run world left := by
  rw [run_bind, ran]

theorem ran_bind {first : Work σ α} {next : α → Work σ β} {value : β} {left : Desk σ}
    (ran : (first >>= next).run world desk = (.ok value, left)) :
    ∃ found between, first.run world desk = (.ok found, between) ∧
      (next found).run world between = (.ok value, left) := by
  rw [run_bind] at ran
  rcases begun : first.run world desk with ⟨stop | found, between⟩ <;> rw [begun] at ran
  · exact nomatch ran
  · exact ⟨found, between, rfl, ran⟩

theorem ran_settle {answer : Except Error α} {next : α → Work σ β} {value : β} {left : Desk σ}
    (ran : (settle answer >>= next).run world desk = (.ok value, left)) :
    ∃ granted, answer = .ok granted ∧ (next granted).run world desk = (.ok value, left) := by
  cases answer with
  | error error => exact nomatch ran
  | ok granted => exact ⟨granted, rfl, ran⟩

theorem run_outcome_ok {work : Work σ α} {value : α} {left : Desk σ}
    (ran : work.run world desk = (.ok value, left)) :
    (outcome work).run world desk = (.ok (.ok value), left) := by
  rw [run_outcome, ran]

theorem run_outcome_error {work : Work σ α} {error : Error} {left : Desk σ}
    (ran : work.run world desk = (.error (.failed error), left)) :
    (outcome work).run world desk = (.ok (.error error), left) := by
  rw [run_outcome, ran]

theorem run_deliver (world : World σ) (desk : Desk σ) (event : Event) :
    (deliver event).run world desk =
      ((world.answer (.client (.deliver event)) desk.outside).1.mapError .panicked,
        { desk with
          announced := desk.announced || event.isTerminal
          outside := (world.answer (.client (.deliver event)) desk.outside).2 }) := by
  have asked := run_ask (.client (.deliver event)) world
    { desk with announced := desk.announced || event.isTerminal }
  have begun : (modify fun desk => { desk with announced := desk.announced || event.isTerminal } :
      Work σ PUnit).run world desk =
        (.ok ⟨⟩, { desk with announced := desk.announced || event.isTerminal }) := rfl
  unfold deliver
  rw [run_after begun, client, run_after asked]
  cases (world.answer (.client (.deliver event)) desk.outside).1 <;> rfl

theorem run_tell {reporter : Reporter} (has : desk.reporter = some reporter) (request : Request) :
    (tell request).run world desk =
      ((reporter.serve request).1.forM deliver).run world
        { desk with reporter := some (reporter.serve request).2 } := by
  obtain ⟨_, announced, outside⟩ := desk
  cases has
  rfl

theorem run_tell_none (without : desk.reporter = none) (request : Request) :
    (tell request).run world desk = (.ok (), desk) := by
  obtain ⟨_, announced, outside⟩ := desk
  cases without
  rfl

theorem reaches_after {first : Work σ α} {next : α → Work σ β} {reached : β → Desk σ → Prop}
    {value : α} {left : Desk σ} (ran : first.run world desk = (.ok value, left))
    (onward : (next value).Reaches world left reached) :
    (first >>= next).Reaches world desk reached :=
  reaches_bind ⟨value, left, ran, onward⟩

theorem reaches_settle {answer : Except Error α} {next : α → Work σ β}
    {reached : β → Desk σ → Prop} {value : α} (granted : answer = .ok value)
    (onward : (next value).Reaches world desk reached) :
    (settle answer >>= next).Reaches world desk reached := by
  subst granted
  exact reaches_after (run_settle_ok value world desk) onward

theorem reaches_undoing {work : Work σ α} {cleanup : Work σ Unit}
    (reaches : work.Reaches world desk reached) :
    (undoing cleanup work).Reaches world desk reached := by
  obtain ⟨value, left, ran, holds⟩ := reaches
  refine ⟨value, left, ?_, holds⟩
  rw [run_undoing, ran]

theorem reaches_ensuring {work : Work σ α} {cleanup : Work σ Unit}
    (reaches : work.Reaches world desk fun value left =>
      cleanup.Reaches world left fun _ => reached value) :
    (ensuring cleanup work).Reaches world desk reached := by
  obtain ⟨value, left, ran, _, final, cleaned, holds⟩ := reaches
  refine ⟨value, final, ?_, holds⟩
  rw [run_ensuring, ran, cleaned]

theorem reaches_outcome {work : Work σ α} {reached : Except Error α → Desk σ → Prop}
    (reaches : work.Reaches world desk fun value => reached (.ok value)) :
    (outcome work).Reaches world desk reached := by
  obtain ⟨value, left, ran, holds⟩ := reaches
  refine ⟨.ok value, left, ?_, holds⟩
  rw [run_outcome, ran]

theorem reaches_patience {next : Nat → Work σ β} {reached : β → Desk σ → Prop}
    (onward : (next world.patience).Reaches world desk reached) :
    (patience >>= next).Reaches world desk reached :=
  reaches_after (run_patience world desk) onward

end

/-- In the world, and begun on the desk, the work returns a value only as `reached` says and an error
only as `failed` says; it may also break down or stall. -/
def Returns (work : Work σ α) (world : World σ) (desk : Desk σ) (reached : α → Desk σ → Prop)
    (failed : Error → Desk σ → Prop) : Prop :=
  match work.run world desk with
  | (.ok value, left) => reached value left
  | (.error (.failed error), left) => failed error left
  | (.error _, _) => True

section
variable {world : World σ} {desk : Desk σ} {reached : α → Desk σ → Prop}
  {failed : Error → Desk σ → Prop}

theorem Returns.imp {work : Work σ α} {wider : α → Desk σ → Prop} {looser : Error → Desk σ → Prop}
    (returns : work.Returns world desk reached failed)
    (reached_imp : ∀ value left, reached value left → wider value left)
    (failed_imp : ∀ error left, failed error left → looser error left) :
    work.Returns world desk wider looser := by
  unfold Returns at returns ⊢
  split at returns
  next value left ran => exact reached_imp value left returns
  next error left ran => exact failed_imp error left returns
  next broken => trivial

theorem Reaches.returns {work : Work σ α} (reaches : work.Reaches world desk reached) :
    work.Returns world desk reached failed := by
  obtain ⟨value, left, ran, holds⟩ := reaches
  unfold Returns
  rwa [ran]

theorem Returns.of_ok {work : Work σ α} (returns : work.Returns world desk reached failed) {value : α}
    {left : Desk σ} (ran : work.run world desk = (.ok value, left)) : reached value left := by
  unfold Returns at returns
  rwa [ran] at returns

theorem Reaches.and_returns {work : Work σ α} {other : α → Desk σ → Prop}
    (reaches : work.Reaches world desk reached) (returns : work.Returns world desk other failed) :
    work.Reaches world desk fun value left => reached value left ∧ other value left := by
  obtain ⟨value, left, ran, holds⟩ := reaches
  exact ⟨value, left, ran, holds, returns.of_ok ran⟩

theorem returns_pure {value : α} (holds : reached value desk) :
    (pure value : Work σ α).Returns world desk reached failed := holds

theorem returns_fail {error : Error} (holds : failed error desk) :
    (fail error : Work σ α).Returns world desk reached failed := holds

theorem returns_modify {change : Desk σ → Desk σ} {reached : PUnit → Desk σ → Prop}
    (holds : reached ⟨⟩ (change desk)) :
    (modify change : Work σ PUnit).Returns world desk reached failed := holds

theorem returns_bind {first : Work σ α} {next : α → Work σ β} {reached : β → Desk σ → Prop}
    (begun : first.Returns world desk
      (fun value left => (next value).Returns world left reached failed) failed) :
    (first >>= next).Returns world desk reached failed := by
  unfold Returns at begun ⊢
  rw [run_bind]
  rcases ran : first.run world desk with ⟨(error | panic | _) | value, left⟩ <;> rw [ran] at begun
  · exact begun
  · trivial
  · trivial
  · exact begun

theorem Returns.bind {first : Work σ α} {next : α → Work σ β} {between : α → Desk σ → Prop}
    {reached : β → Desk σ → Prop} (begins : first.Returns world desk between failed)
    (onward : ∀ value left, between value left → (next value).Returns world left reached failed) :
    (first >>= next).Returns world desk reached failed :=
  returns_bind (begins.imp onward fun _ _ => id)

theorem returns_ite {condition : Prop} [Decidable condition] {work other : Work σ α}
    (whenTrue : condition → work.Returns world desk reached failed)
    (whenFalse : ¬condition → other.Returns world desk reached failed) :
    (if condition then work else other).Returns world desk reached failed := by
  by_cases holds : condition
  · rw [if_pos holds]
    exact whenTrue holds
  · rw [if_neg holds]
    exact whenFalse holds

theorem returns_after {first : Work σ α} {next : α → Work σ β} {reached : β → Desk σ → Prop}
    {value : α} {left : Desk σ} (ran : first.run world desk = (.ok value, left))
    (onward : (next value).Returns world left reached failed) :
    (first >>= next).Returns world desk reached failed := by
  unfold Returns
  rw [run_after ran]
  exact onward

theorem returns_ask {call : Call} {next : call.Reply → Work σ β} {reached : β → Desk σ → Prop}
    (onward : (next (world.answer call desk.outside).1).Returns world
      { desk with outside := (world.answer call desk.outside).2 } reached failed) :
    (ask call >>= next).Returns world desk reached failed :=
  returns_bind onward

theorem returns_settle {answer : Except Error α} {next : α → Work σ β} {reached : β → Desk σ → Prop}
    (refused : ∀ error, answer = .error error → failed error desk)
    (granted : ∀ value, answer = .ok value → (next value).Returns world desk reached failed) :
    (settle answer >>= next).Returns world desk reached failed := by
  apply returns_bind
  cases answer with
  | error error => exact returns_fail (refused error rfl)
  | ok value => exact returns_pure (granted value rfl)

theorem returns_patience {next : Nat → Work σ β} {reached : β → Desk σ → Prop}
    (onward : (next world.patience).Returns world desk reached failed) :
    (patience >>= next).Returns world desk reached failed :=
  returns_bind onward

theorem returns_outcome {work : Work σ α} {reached : Except Error α → Desk σ → Prop}
    (returns : work.Returns world desk (fun value => reached (.ok value))
      fun error => reached (.error error)) :
    (outcome work).Returns world desk reached failed := by
  unfold Returns at returns ⊢
  rw [run_outcome]
  rcases ran : work.run world desk with ⟨(error | panic | _) | value, left⟩ <;> rw [ran] at returns
  · exact returns
  · trivial
  · trivial
  · exact returns

theorem returns_ensuring {work : Work σ α} {cleanup : Work σ Unit}
    (returns : work.Returns world desk
      (fun value left => reached value (cleanup.run world left).2)
      fun error left => failed error (cleanup.run world left).2) :
    (ensuring cleanup work).Returns world desk reached failed := by
  unfold Returns at returns ⊢
  rw [run_ensuring]
  rcases ran : work.run world desk with ⟨(error | panic | _) | value, left⟩ <;> rw [ran] at returns
  · exact returns
  · trivial
  · trivial
  · exact returns

end

/-- In the world, and begun on the desk, the work returns a value only as `reached` says and an error
only as `failed` says, and it breaks down or stalls only as `broken` says. -/
def Ends (work : Work σ α) (world : World σ) (desk : Desk σ) (reached : α → Desk σ → Prop)
    (failed : Error → Desk σ → Prop) (broken : Desk σ → Prop) : Prop :=
  match work.run world desk with
  | (.ok value, left) => reached value left
  | (.error (.failed error), left) => failed error left
  | (.error _, left) => broken left

section
variable {world : World σ} {desk : Desk σ} {reached : α → Desk σ → Prop}
  {failed : Error → Desk σ → Prop} {broken : Desk σ → Prop}

theorem Ends.imp {work : Work σ α} {wider : α → Desk σ → Prop} {looser : Error → Desk σ → Prop}
    {weaker : Desk σ → Prop} (ends : work.Ends world desk reached failed broken)
    (reached_imp : ∀ value left, reached value left → wider value left)
    (failed_imp : ∀ error left, failed error left → looser error left)
    (broken_imp : ∀ left, broken left → weaker left) : work.Ends world desk wider looser weaker := by
  unfold Ends at ends ⊢
  rcases ran : work.run world desk with ⟨(error | panic | _) | value, left⟩ <;> rw [ran] at ends
  · exact failed_imp error left ends
  · exact broken_imp left ends
  · exact broken_imp left ends
  · exact reached_imp value left ends

theorem ends_run (work : Work σ α) (world : World σ) (desk : Desk σ) :
    work.Ends world desk (fun value left => work.run world desk = (.ok value, left))
      (fun error left => work.run world desk = (.error (.failed error), left))
      fun _ => ∃ stop, (work.run world desk).1 = .error stop := by
  unfold Ends
  rcases work.run world desk with ⟨(error | panic | _) | value, left⟩
  · rfl
  · exact ⟨_, rfl⟩
  · exact ⟨_, rfl⟩
  · rfl

theorem Ends.and {work : Work σ α} {other : α → Desk σ → Prop} {refused : Error → Desk σ → Prop}
    {disturbed : Desk σ → Prop} (ends : work.Ends world desk reached failed broken)
    (also : work.Ends world desk other refused disturbed) :
    work.Ends world desk (fun value left => reached value left ∧ other value left)
      (fun error left => failed error left ∧ refused error left)
      fun left => broken left ∧ disturbed left := by
  unfold Ends at ends also ⊢
  rcases ran : work.run world desk with ⟨(error | panic | _) | value, left⟩ <;>
    rw [ran] at ends also <;> exact ⟨ends, also⟩

theorem Returns.ends {work : Work σ α} (returns : work.Returns world desk reached failed) :
    work.Ends world desk reached failed fun _ => True := by
  unfold Returns at returns
  unfold Ends
  rcases ran : work.run world desk with ⟨(error | panic | _) | value, left⟩ <;> rw [ran] at returns <;>
    exact returns

theorem ends_pure {value : α} (holds : reached value desk) :
    (pure value : Work σ α).Ends world desk reached failed broken := holds

theorem ends_fail {error : Error} (holds : failed error desk) :
    (fail error : Work σ α).Ends world desk reached failed broken := holds

theorem ends_modify {change : Desk σ → Desk σ} {reached : PUnit → Desk σ → Prop}
    (holds : reached ⟨⟩ (change desk)) :
    (modify change : Work σ PUnit).Ends world desk reached failed broken := holds

theorem ends_bind {first : Work σ α} {next : α → Work σ β} {reached : β → Desk σ → Prop}
    (begun : first.Ends world desk
      (fun value left => (next value).Ends world left reached failed broken) failed broken) :
    (first >>= next).Ends world desk reached failed broken := by
  unfold Ends at begun ⊢
  rw [run_bind]
  rcases ran : first.run world desk with ⟨(error | panic | _) | value, left⟩ <;> rw [ran] at begun <;>
    exact begun

theorem Ends.always {work : Work σ α} {kept : Desk σ → Prop}
    (ends : work.Ends world desk (fun _ => kept) (fun _ => kept) kept) :
    kept (work.run world desk).2 := by
  unfold Ends at ends
  rcases ran : work.run world desk with ⟨(error | panic | _) | value, left⟩ <;> rw [ran] at ends <;>
    exact ends

theorem Ends.bind {first : Work σ α} {next : α → Work σ β} {between : α → Desk σ → Prop}
    {reached : β → Desk σ → Prop} (begins : first.Ends world desk between failed broken)
    (onward : ∀ value left, between value left →
      (next value).Ends world left reached failed broken) :
    (first >>= next).Ends world desk reached failed broken :=
  ends_bind (begins.imp onward (fun _ _ => id) fun _ => id)

theorem ends_ask {call : Call} {next : call.Reply → Work σ β} {reached : β → Desk σ → Prop}
    (onward : (next (world.answer call desk.outside).1).Ends world
      { desk with outside := (world.answer call desk.outside).2 } reached failed broken) :
    (ask call >>= next).Ends world desk reached failed broken :=
  ends_bind onward

theorem ends_settle {answer : Except Error α} {next : α → Work σ β} {reached : β → Desk σ → Prop}
    (refused : ∀ error, answer = .error error → failed error desk)
    (granted : ∀ value, answer = .ok value →
      (next value).Ends world desk reached failed broken) :
    (settle answer >>= next).Ends world desk reached failed broken := by
  apply ends_bind
  cases answer with
  | error error => exact ends_fail (refused error rfl)
  | ok value => exact ends_pure (granted value rfl)

theorem ends_outcome {work : Work σ α} {reached : Except Error α → Desk σ → Prop}
    (ends : work.Ends world desk (fun value => reached (.ok value))
      (fun error => reached (.error error)) broken) :
    (outcome work).Ends world desk reached failed broken := by
  unfold Ends at ends ⊢
  rw [run_outcome]
  rcases ran : work.run world desk with ⟨(error | panic | _) | value, left⟩ <;> rw [ran] at ends <;>
    exact ends

theorem ends_ensuring {work : Work σ α} {cleanup : Work σ Unit}
    (ends : work.Ends world desk (fun value left => reached value (cleanup.run world left).2)
      (fun error left => failed error (cleanup.run world left).2)
      fun left => broken (cleanup.run world left).2) :
    (ensuring cleanup work).Ends world desk reached failed broken := by
  unfold Ends at ends ⊢
  rw [run_ensuring]
  rcases ran : work.run world desk with ⟨(error | panic | _) | value, left⟩ <;> rw [ran] at ends <;>
    exact ends

theorem ends_undoing {work : Work σ α} {cleanup : Work σ Unit}
    (ends : work.Ends world desk reached (fun error left => failed error (cleanup.run world left).2)
      fun left => broken (cleanup.run world left).2) :
    (undoing cleanup work).Ends world desk reached failed broken := by
  unfold Ends at ends ⊢
  rw [run_undoing]
  rcases ran : work.run world desk with ⟨(error | panic | _) | value, left⟩ <;> rw [ran] at ends <;>
    exact ends

end

/-- In every world, the only values that the work comes to are such. -/
def Yields (work : Work σ α) (yields : α → Prop) : Prop :=
  ∀ (world : World σ) (desk : Desk σ),
    work.Returns world desk (fun value _ => yields value) fun _ _ => True

section
variable {yields : α → Prop}

theorem yields_pure {value : α} (holds : yields value) : (pure value : Work σ α).Yields yields :=
  fun _ _ => returns_pure holds

theorem Yields.bind {first : Work σ α} {next : α → Work σ β} {yields : β → Prop} {found : α → Prop}
    (begins : first.Yields found) (onward : ∀ value, found value → (next value).Yields yields) :
    (first >>= next).Yields yields :=
  fun world desk => (begins world desk).bind fun value left holds => onward value holds world left

theorem yields_after {first : Work σ α} {next : α → Work σ β} {yields : β → Prop}
    (onward : ∀ value, (next value).Yields yields) : (first >>= next).Yields yields := by
  have begins : first.Yields fun _ => True := by
    intro world desk
    unfold Returns
    split <;> trivial
  exact begins.bind fun value _ => onward value

theorem yields_ite {condition : Prop} [Decidable condition] {work other : Work σ α}
    (whenTrue : work.Yields yields) (whenFalse : other.Yields yields) :
    (if condition then work else other).Yields yields :=
  fun world desk => returns_ite (fun _ => whenTrue world desk) fun _ => whenFalse world desk

end

end Work

end Recode.Session
