import Recode.Proofs.Conduct

/-!
The same work in two worlds, of which one can interrupt it where the other does not. The two runs
stay abreast until an interruption, at which one of them fails: from there on that run only cleans
up, while the other goes ahead alone. What the two worlds keep at each of these, and not only at the
interruption itself, is what they keep over the whole of the work.
-/

namespace Recode.Session
open Recode.Media Recode.Container Recode.Device Recode.Progress

/-- Two desks that differ at most in the worlds outside, which go in step. -/
structure Abreast {σ : Type} (inStep : σ → σ → Prop) (ahead behind : Desk σ) : Prop where
  reporter : behind.reporter = ahead.reporter
  announced : behind.announced = ahead.announced
  outside : inStep ahead.outside behind.outside

/-- Two runs have ended alike and abreast; or the second has come to a stop after it was interrupted,
and left the worlds parted. -/
inductive Paired {σ α : Type} (inStep parted : σ → σ → Prop) :
    Except Stop α × Desk σ → Except Stop α × Desk σ → Prop where
  | abreast {result : Except Stop α} {ahead behind : Desk σ} (held : Abreast inStep ahead behind) :
      Paired inStep parted (result, ahead) (result, behind)
  | parted {result : Except Stop α} {stop : Stop} {ahead behind : Desk σ}
      (held : parted ahead.outside behind.outside) :
      Paired inStep parted (result, ahead) (.error stop, behind)

namespace Work
variable {σ α β : Type} {whole part : World σ} {inStep parted : σ → σ → Prop}

def Shadows (work : Work σ α) (whole part : World σ) (inStep parted : σ → σ → Prop) : Prop :=
  ∀ ahead behind, Abreast inStep ahead behind →
    Paired inStep parted (work.run whole ahead) (work.run part behind)

def Outruns (work : Work σ α) (whole : World σ) (parted : σ → σ → Prop) : Prop :=
  ∀ behind, work.Keeps whole fun ahead => parted ahead.outside behind

def Trails (work : Work σ α) (part : World σ) (parted : σ → σ → Prop) : Prop :=
  ∀ ahead, work.Keeps part fun behind => parted ahead behind.outside

theorem shadows_pure (value : α) : (pure value : Work σ α).Shadows whole part inStep parted :=
  fun _ _ held => .abreast held

theorem shadows_stop (stop : Stop) : (throw stop : Work σ α).Shadows whole part inStep parted :=
  fun _ _ held => .abreast held

theorem shadows_settle (answer : Except Error α) :
    (settle answer).Shadows whole part inStep parted := by
  cases answer with
  | ok value => exact shadows_pure value
  | error error => exact shadows_stop (.failed error)

/-- What follows an interruption is done in the first world alone. -/
theorem shadows_bind {first : Work σ α} {next : α → Work σ β}
    (begins : first.Shadows whole part inStep parted)
    (goesOn : ∀ value, (next value).Shadows whole part inStep parted)
    (outruns : ∀ value, (next value).Outruns whole parted) :
    (first >>= next).Shadows whole part inStep parted := by
  intro ahead behind held
  have begun := begins ahead behind held
  rw [run_bind, run_bind]
  revert begun
  generalize first.run whole ahead = ended
  generalize first.run part behind = other
  intro begun
  cases begun with
  | @abreast result ahead behind held =>
    cases result with
    | ok value => exact goesOn value ahead behind held
    | error stop => exact .abreast held
  | @parted result stop ahead behind held =>
    cases result with
    | ok value => exact .parted (outruns value behind.outside ahead held)
    | error stop => exact .parted held

section
variable {work : Work σ α} {next : Except Error α → Work σ β} {desk left : Desk σ}

theorem outrun_after_outcome {result : Except Stop α} {behind : σ}
    (ran : work.run whole desk = (result, left)) (held : parted left.outside behind)
    (outruns : ∀ result, (next result).Outruns whole parted) :
    parted ((outcome work >>= next).run whole desk).2.outside behind := by
  rw [run_bind, run_outcome, ran]
  rcases result with (error | panic | _) | value
  · exact outruns (.error error) behind left held
  · exact held
  · exact held
  · exact outruns (.ok value) behind left held

theorem stop_after_outcome {stop : Stop} {ahead : σ} {last : σ → σ → Prop}
    (ran : work.run part desk = (.error stop, left)) (held : parted ahead left.outside)
    (stops : ∀ error ahead behind, parted ahead behind.outside →
      ∃ stop left, (next (.error error)).run part behind = (.error stop, left) ∧
        last ahead left.outside)
    (lasts : ∀ ahead behind, parted ahead behind → last ahead behind) :
    ∃ stop left, (outcome work >>= next).run part desk = (.error stop, left) ∧
      last ahead left.outside := by
  rw [run_bind, run_outcome, ran]
  rcases stop with error | panic | _
  · exact stops error ahead left held
  · exact ⟨.panicked panic, left, rfl, lasts ahead left.outside held⟩
  · exact ⟨.stalled, left, rfl, lasts ahead left.outside held⟩

theorem shadows_outcome {last : σ → σ → Prop} (tries : work.Shadows whole part inStep parted)
    (goesOn : ∀ result, (next result).Shadows whole part inStep last)
    (outruns : ∀ result, (next result).Outruns whole parted)
    (stops : ∀ error ahead behind, parted ahead behind.outside →
      ∃ stop left, (next (.error error)).run part behind = (.error stop, left) ∧
        last ahead left.outside)
    (lasts : ∀ ahead behind, parted ahead behind → last ahead behind) :
    (outcome work >>= next).Shadows whole part inStep last := by
  intro ahead behind held
  have tried := tries ahead behind held
  rcases ran : work.run whole ahead with ⟨result, ahead'⟩
  rcases met : work.run part behind with ⟨other, behind'⟩
  rw [ran, met] at tried
  cases tried with
  | abreast held =>
    rw [run_bind, run_bind, run_outcome, run_outcome, ran, met]
    rcases result with (error | panic | _) | value
    · exact goesOn (.error error) ahead' behind' held
    · exact .abreast held
    · exact .abreast held
    · exact goesOn (.ok value) ahead' behind' held
  | parted held =>
    have onward := outrun_after_outcome ran held outruns
    obtain ⟨stop, left, stopped, holds⟩ := stop_after_outcome met onward stops lasts
    rw [stopped]
    exact .parted holds

end

theorem shadows_attempt {work : Work σ α} {call : Call} {next : call.Reply → α → Work σ β}
    (tries : work.Shadows whole part inStep parted)
    (closes : (ask call).Shadows whole part inStep parted)
    (goesOn : ∀ reply value, (next reply value).Shadows whole part inStep parted)
    (closesAhead : (ask call).Outruns whole parted) (closesBehind : (ask call).Trails part parted)
    (outruns : ∀ reply value, (next reply value).Outruns whole parted) :
    (outcome work >>= fun result => ask call >>= fun reply =>
      settle result >>= next reply).Shadows whole part inStep parted := by
  have settled (result : Except Error α) (reply : call.Reply) :
      (settle result >>= next reply).Outruns whole parted :=
    fun behind => keeps_bind (keeps_settle result) fun value => outruns reply value behind
  refine shadows_outcome tries (fun result => ?_) (fun result behind => ?_)
    (fun error ahead behind held => ?_) fun _ _ => id
  · exact shadows_bind closes
      (fun reply => shadows_bind (shadows_settle result) (goesOn reply) (outruns reply))
      (settled result)
  · exact keeps_bind (closesAhead behind) fun reply => settled result reply behind
  · exact ⟨.failed error, _, rfl, closesBehind ahead behind held⟩

theorem shadows_refused {call : Call} {next : call.Reply → Work σ α}
    (answered : ∀ ahead behind, inStep ahead behind →
      (∃ error, next (part.answer call behind).1 = fail error) ∧
          parted (whole.answer call ahead).2 (part.answer call behind).2 ∨
        (part.answer call behind).1 = (whole.answer call ahead).1 ∧
          inStep (whole.answer call ahead).2 (part.answer call behind).2)
    (goesOn : ∀ reply, (next reply).Shadows whole part inStep parted)
    (outruns : ∀ reply, (next reply).Outruns whole parted) :
    (ask call >>= next).Shadows whole part inStep parted := by
  intro ahead behind held
  rw [run_bind, run_bind, run_ask, run_ask]
  dsimp only
  rcases answered ahead.outside behind.outside held.outside with ⟨⟨error, fails⟩, left⟩ | ⟨same, after⟩
  · rw [fails]
    exact .parted (outruns _ _ { ahead with outside := (whole.answer call ahead.outside).2 } left)
  · rw [same]
    exact goesOn _ _ _ ⟨held.reporter, held.announced, after⟩

theorem Shadows.abreast {work : Work σ α} (shadows : work.Shadows whole part inStep fun _ _ => False)
    {ahead behind : Desk σ} (held : Abreast inStep ahead behind) :
    (work.run part behind).1 = (work.run whole ahead).1 ∧
      Abreast inStep (work.run whole ahead).2 (work.run part behind).2 := by
  have paired := shadows ahead behind held
  revert paired
  generalize work.run whole ahead = ended
  generalize work.run part behind = other
  rintro (held | never)
  · exact ⟨rfl, held⟩
  · exact never.elim

theorem Shadows.weaken {work : Work σ α}
    (shadows : work.Shadows whole part inStep fun _ _ => False) :
    work.Shadows whole part inStep parted := by
  intro ahead behind held
  obtain ⟨same, after⟩ := shadows.abreast held
  rcases ran : work.run part behind with ⟨result, left⟩
  rw [ran] at same after
  obtain rfl : result = _ := same
  exact .abreast after

theorem shadows_after {first : Work σ α} {next : α → Work σ β}
    (begins : first.Shadows whole part inStep fun _ _ => False)
    (goesOn : ∀ value, (next value).Shadows whole part inStep parted) :
    (first >>= next).Shadows whole part inStep parted := by
  intro ahead behind held
  obtain ⟨same, after⟩ := begins.abreast held
  rw [run_bind, run_bind]
  revert same after
  generalize first.run whole ahead = ended
  rcases first.run part behind with ⟨result, left⟩
  rintro rfl after
  obtain ⟨stop | value, left⟩ := ended
  · exact .abreast after
  · exact goesOn value _ _ after

section
variable {cleanup : Work σ Unit} (cleans : cleanup.Shadows whole part inStep fun _ _ => False)
  (outruns : cleanup.Outruns whole parted) (trails : cleanup.Trails part parted)
include cleans outruns trails

theorem shadows_ensuring {work : Work σ α} (works : work.Shadows whole part inStep parted) :
    (ensuring cleanup work).Shadows whole part inStep parted := by
  intro ahead behind held
  have worked := works ahead behind held
  rw [run_ensuring, run_ensuring]
  revert worked
  generalize work.run whole ahead = ended
  generalize work.run part behind = other
  rintro (held | held)
  · exact .abreast (cleans.abreast held).2
  · exact .parted (trails _ _ (outruns _ _ held))

theorem shadows_undoing {work : Work σ α} (works : work.Shadows whole part inStep parted) :
    (undoing cleanup work).Shadows whole part inStep parted := by
  intro ahead behind held
  have worked := works ahead behind held
  rw [run_undoing, run_undoing]
  revert worked
  generalize work.run whole ahead = ended
  generalize work.run part behind = other
  intro worked
  cases worked with
  | @abreast result ahead behind held =>
    cases result with
    | ok value => exact .abreast held
    | error stop => exact .abreast (cleans.abreast held).2
  | @parted result stop ahead behind held =>
    cases result with
    | ok value => exact .parted (trails _ _ held)
    | error stop => exact .parted (trails _ _ (outruns _ _ held))

end

/-- What two worlds keep at each of the calls. -/
structure Interrupts (calls : Call → Prop) (whole part : World σ) (inStep parted : σ → σ → Prop) :
    Prop where
  patience : part.patience = whole.patience
  /-- Where work cannot be interrupted, the answers agree. -/
  steady : ∀ call ahead behind, calls call → call.IsSteady → inStep ahead behind →
    (part.answer call behind).1 = (whole.answer call ahead).1 ∧
      inStep (whole.answer call ahead).2 (part.answer call behind).2
  poll : ∀ side timeout, calls (.device (.dequeueOutput side timeout)) →
    (device (.dequeueOutput side timeout) >>= fun answer =>
      settle (retried .tryAgainLater answer)).Shadows whole part inStep parted
  write : ∀ track buffer info isAudio, calls (.storage (.write track buffer info isAudio)) →
    (storage (.write track buffer info isAudio) >>= settle).Shadows whole part inStep parted
  check : calls (.client .isCancelled) → checkCancelled.Shadows whole part inStep parted
  ahead : ∀ call ahead behind, calls call → parted ahead behind →
    parted (whole.answer call ahead).2 behind
  closing : ∀ call ahead behind, calls call → call.IsClosing → parted ahead behind →
    parted ahead (part.answer call behind).2

namespace Interrupts
variable {calls : Call → Prop} (interrupts : Interrupts calls whole part inStep parted)
include interrupts

theorem ask_outruns {call : Call} (allowed : calls call) : (ask call).Outruns whole parted :=
  fun behind ahead held => interrupts.ahead call ahead.outside behind allowed held

theorem ask_trails {call : Call} (allowed : calls call) (closing : call.IsClosing) :
    (ask call).Trails part parted :=
  fun ahead behind held => interrupts.closing call ahead behind.outside allowed closing held

theorem ask_shadows {call : Call} (allowed : calls call) (isSteady : call.IsSteady)
    {parted : σ → σ → Prop} : (ask call).Shadows whole part inStep parted := by
  intro ahead behind held
  obtain ⟨same, after⟩ := interrupts.steady call _ _ allowed isSteady held.outside
  rw [run_ask, run_ask, same]
  exact .abreast ⟨held.reporter, held.announced, after⟩

section
variable (allowed : ∀ event, calls (.client (.deliver event)))
include allowed

theorem deliver_shadows (event : Event) :
    (deliver event).Shadows whole part inStep parted := by
  intro ahead behind held
  obtain ⟨same, after⟩ :=
    interrupts.steady (.client (.deliver event)) _ _ (allowed event) trivial held.outside
  rw [run_deliver, run_deliver, same]
  exact .abreast ⟨held.reporter, congrArg (· || event.isTerminal) held.announced, after⟩

theorem forM_deliver_outruns (events : List Event) :
    (events.forM deliver : Work σ Unit).Outruns whole parted :=
  fun behind => keeps_forM_deliver
    (fun event ahead held => interrupts.ahead _ ahead behind (allowed event) held) events

theorem forM_deliver_shadows (events : List Event) :
    (events.forM deliver : Work σ Unit).Shadows whole part inStep parted := by
  induction events with
  | nil => exact shadows_pure ()
  | cons event rest ih =>
    exact shadows_bind (interrupts.deliver_shadows allowed event) (fun _ => ih) fun _ =>
      interrupts.forM_deliver_outruns allowed rest

theorem tell_outruns (request : Request) : (tell request).Outruns whole parted :=
  fun behind => keeps_tell
    (fun event ahead held => interrupts.ahead _ ahead behind (allowed event) held) request

theorem tell_shadows (request : Request) : (tell request).Shadows whole part inStep parted := by
  intro ahead behind held
  cases has : ahead.reporter with
  | none =>
    rw [run_tell_none has, run_tell_none (held.reporter.trans has)]
    exact .abreast held
  | some reporter =>
    rw [run_tell has, run_tell (held.reporter.trans has)]
    exact interrupts.forM_deliver_shadows allowed _ _ _ ⟨rfl, held.announced, held.outside⟩

end

theorem uses_outruns {work : Work σ α} (uses : work.Uses calls) : work.Outruns whole parted :=
  fun behind => uses.keeps_outside fun call ahead allowed held =>
    interrupts.ahead call ahead behind allowed held

theorem tidies_trails {work : Work σ α} (tidies : work.Tidies calls) :
    work.Trails part parted :=
  fun ahead => tidies.keeps fun _ allowed closing => interrupts.ask_trails allowed closing ahead

theorem tidies_shadows {work : Work σ α} (tidies : work.Tidies calls) :
    work.Shadows whole part inStep fun _ _ => False := by
  induction tidies with
  | pure value => exact shadows_pure value
  | call allowed closing => exact interrupts.ask_shadows allowed closing.isPlain.isSteady
  | bind _ _ begins goesOn => exact shadows_bind begins goesOn fun _ _ _ never => never.elim

/-- Whatever is made of the calls is paired as they are. -/
theorem uses_shadows {work : Work σ α} (uses : work.Uses calls) :
    work.Shadows whole part inStep parted := by
  induction uses with
  | pure value => exact shadows_pure value
  | stop stop => exact shadows_stop stop
  | patience =>
    intro ahead behind held
    rw [run_patience, run_patience, interrupts.patience]
    exact .abreast held
  | call allowed plain => exact interrupts.ask_shadows allowed plain.isSteady
  | poll allowed => exact interrupts.poll _ _ allowed
  | write allowed => exact interrupts.write _ _ _ _ allowed
  | check allowed => exact interrupts.check allowed
  | report allowed time => exact interrupts.tell_shadows allowed (.report time)
  | bind _ goesOn begins follows =>
    exact shadows_bind begins follows fun value => interrupts.uses_outruns (goesOn value)
  | attempt _ allowed closing goesOn tries follows =>
    exact shadows_attempt tries (interrupts.ask_shadows allowed closing.isPlain.isSteady) follows
      (interrupts.ask_outruns allowed) (interrupts.ask_trails allowed closing)
      fun reply value => interrupts.uses_outruns (goesOn reply value)
  | ensuring cleans _ works =>
    exact shadows_ensuring (interrupts.tidies_shadows cleans) (interrupts.uses_outruns cleans.uses)
      (interrupts.tidies_trails cleans) works
  | undoing cleans _ works =>
    exact shadows_undoing (interrupts.tidies_shadows cleans) (interrupts.uses_outruns cleans.uses)
      (interrupts.tidies_trails cleans) works

end Interrupts

end Work

end Recode.Session
