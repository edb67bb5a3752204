import Recode.Proofs.Interruption

/-!
Work done on two desks of one world that nothing interrupts. Where the calls are answered alike on
both, the two runs end with the same result and leave the desks abreast. The two works need not be
the same: one may go through more rounds than the other, as long as both come to the same in the end.
-/

namespace Recode.Session
open Recode.Media Recode.Container Recode.Device Recode.Progress

theorem Abreast.imp {σ : Type} {inStep wider : σ → σ → Prop} {ahead behind : Desk σ}
    (held : Abreast inStep ahead behind) (widens : ∀ first second, inStep first second →
      wider first second) : Abreast wider ahead behind :=
  ⟨held.reporter, held.announced, widens _ _ held.outside⟩

namespace Work
variable {σ α β : Type}

/-- The first work, begun on one of the desks, and the second, begun on the other, come to the same
result, and leave the desks abreast, be it as after a value or as after a stop. -/
def Agrees (first second : Work σ α) (world : World σ) (reached stopped : σ → σ → Prop)
    (ahead behind : Desk σ) : Prop :=
  (second.run world behind).1 = (first.run world ahead).1 ∧
    match first.run world ahead with
    | (.ok _, left) => Abreast reached left (second.run world behind).2
    | (.error _, left) => Abreast stopped left (second.run world behind).2

section
variable {world : World σ} {inStep reached stopped : σ → σ → Prop} {ahead behind : Desk σ}

theorem Agrees.imp {first second : Work σ α} {wider halted : σ → σ → Prop}
    (agrees : first.Agrees second world reached stopped ahead behind)
    (widens : ∀ left right, reached left right → wider left right)
    (halts : ∀ left right, stopped left right → halted left right) :
    first.Agrees second world wider halted ahead behind := by
  obtain ⟨same, held⟩ := agrees
  refine ⟨same, ?_⟩
  split at held
  next value left ran => exact held.imp widens
  next stop left ran => exact held.imp halts

theorem Agrees.abreast {first second : Work σ α}
    (agrees : first.Agrees second world inStep inStep ahead behind) :
    Abreast inStep (first.run world ahead).2 (second.run world behind).2 := by
  obtain ⟨-, held⟩ := agrees
  rcases ran : first.run world ahead with ⟨stop | value, left⟩ <;> rw [ran] at held <;> exact held

theorem agrees_pure {value : α} (held : Abreast reached ahead behind) :
    (pure value : Work σ α).Agrees (pure value) world reached stopped ahead behind := ⟨rfl, held⟩

theorem agrees_stop {stop : Stop} (held : Abreast stopped ahead behind) :
    (throw stop : Work σ α).Agrees (throw stop) world reached stopped ahead behind := ⟨rfl, held⟩

/-- What follows is done on the desks that were left, unless both works have come to a stop. Then it
is enough if what is said after one follows. -/
theorem agrees_bind {first second : Work σ α} {next other : α → Work σ β}
    {between halted : σ → σ → Prop}
    (begins : first.Agrees second world between halted ahead behind)
    (halts : ∀ left right, halted left right → stopped left right)
    (onward : ∀ value left right, first.run world ahead = (.ok value, left) →
      Abreast between left right →
      (next value).Agrees (other value) world reached stopped left right) :
    (first >>= next).Agrees (second >>= other) world reached stopped ahead behind := by
  obtain ⟨same, held⟩ := begins
  unfold Agrees
  rw [run_bind, run_bind]
  rcases met : second.run world behind with ⟨result, right⟩
  rcases ran : first.run world ahead with ⟨stop | value, left⟩ <;> rw [ran, met] at same held <;>
    obtain rfl : result = _ := same
  · exact ⟨rfl, held.imp halts⟩
  · exact onward value left right ran held

theorem Agrees.bind {first second : Work σ α} {next other : α → Work σ β}
    {between : σ → σ → Prop} (begins : first.Agrees second world between stopped ahead behind)
    (onward : ∀ value left right, first.run world ahead = (.ok value, left) →
      Abreast between left right →
      (next value).Agrees (other value) world reached stopped left right) :
    (first >>= next).Agrees (second >>= other) world reached stopped ahead behind :=
  agrees_bind begins (fun _ _ held => held) onward

theorem agrees_ask {call : Call} {next other : call.Reply → Work σ β} {between : σ → σ → Prop}
    (held : Abreast inStep ahead behind)
    (answered : (world.answer call behind.outside).1 = (world.answer call ahead.outside).1 ∧
      between (world.answer call ahead.outside).2 (world.answer call behind.outside).2)
    (onward : ∀ left right, Abreast between left right →
      (next (world.answer call ahead.outside).1).Agrees
        (other (world.answer call ahead.outside).1) world reached stopped left right) :
    (ask call >>= next).Agrees (ask call >>= other) world reached stopped ahead behind := by
  unfold Agrees
  rw [run_bind, run_bind, run_ask, run_ask, answered.1]
  exact onward _ _ ⟨held.reporter, held.announced, answered.2⟩

theorem agrees_settle {answer : Except Error α} {next other : α → Work σ β}
    (refused : Abreast stopped ahead behind)
    (granted : ∀ value, answer = .ok value →
      (next value).Agrees (other value) world reached stopped ahead behind) :
    (settle answer >>= next).Agrees (settle answer >>= other) world reached stopped ahead behind := by
  cases answer with
  | error error => exact ⟨rfl, refused⟩
  | ok value => exact granted value rfl

theorem agrees_outcome {work other : Work σ α}
    (agrees : work.Agrees other world inStep inStep ahead behind) :
    (outcome work).Agrees (outcome other) world inStep inStep ahead behind := by
  obtain ⟨same, held⟩ := agrees
  unfold Agrees
  rw [run_outcome, run_outcome]
  rcases met : other.run world behind with ⟨result, right⟩
  rcases ran : work.run world ahead with ⟨(error | panic | _) | value, left⟩ <;>
    rw [ran, met] at same held <;> obtain rfl : result = _ := same <;> exact ⟨rfl, held⟩

theorem agrees_ensuring {work other : Work σ α} {cleanup : Work σ Unit}
    (cleans : cleanup.Shadows world world inStep fun _ _ => False)
    (agrees : work.Agrees other world inStep inStep ahead behind) :
    (ensuring cleanup work).Agrees (ensuring cleanup other) world inStep inStep ahead behind := by
  obtain ⟨same, held⟩ := agrees
  unfold Agrees
  rw [run_ensuring, run_ensuring]
  rcases met : other.run world behind with ⟨result, right⟩
  rcases ran : work.run world ahead with ⟨stop | value, left⟩ <;> rw [ran, met] at same held <;>
    obtain rfl : result = _ := same <;> exact ⟨rfl, (cleans.abreast held).2⟩

end

section
variable {whole part : World σ} {inStep : σ → σ → Prop} {calls : Call → Prop}

theorem Shadows.agrees {world : World σ} {work : Work σ α}
    (shadows : work.Shadows world world inStep fun _ _ => False) {ahead behind : Desk σ}
    (held : Abreast inStep ahead behind) : work.Agrees work world inStep inStep ahead behind := by
  obtain ⟨same, after⟩ := shadows.abreast held
  refine ⟨same, ?_⟩
  rcases ran : work.run world ahead with ⟨stop | value, left⟩ <;> rw [ran] at after <;> exact after

theorem interrupts_of_alike (patience : part.patience = whole.patience)
    (alike : ∀ call ahead behind, calls call → inStep ahead behind →
      (part.answer call behind).1 = (whole.answer call ahead).1 ∧
        inStep (whole.answer call ahead).2 (part.answer call behind).2) :
    Interrupts calls whole part inStep fun _ _ => False := by
  have asks {call : Call} (allowed : calls call) :
      (ask call).Shadows whole part inStep fun _ _ => False := by
    intro ahead behind held
    obtain ⟨same, after⟩ := alike call ahead.outside behind.outside allowed held.outside
    rw [run_ask, run_ask, same]
    exact .abreast ⟨held.reporter, held.announced, after⟩
  exact {
    patience
    steady := fun call ahead behind allowed _ => alike call ahead behind allowed
    poll := fun side timeout allowed => shadows_after (asks allowed) fun _ => shadows_settle _
    write := fun track buffer info isAudio allowed => shadows_after (asks allowed) shadows_settle
    check := fun allowed => shadows_after (asks allowed) fun isCancelled => by
      cases isCancelled with
      | true => exact shadows_stop (.failed .cancelled)
      | false => exact shadows_pure ()
    ahead := fun _ _ _ _ never => never
    closing := fun _ _ _ _ _ never => never }

end

end Work

end Recode.Session
