import Recode.Proofs.JobConduct
import Recode.Proofs.Mirroring

/-!
A client who cancels, beside one who does not. All that a session makes of the client's mind is to ask
for it and to stop if the client has cancelled. So up to there the two runs are the same, and whatever
a session cleans up with afterwards, it tells of the cancellation in the end.
-/

namespace Recode.Session
open Recode.Media Recode.Container Recode.Device Recode.Progress

theorem Call.IsPlain.ne_isCancelled {call : Call} (plain : call.IsPlain) :
    call ≠ .client .isCancelled := by
  rintro rfl
  exact plain

/-- The same world with a client who cancels as soon as so many events are delivered, or never. They
are counted from the state's count on. -/
def World.cancelling {σ : Type} (world : World σ) (after : Option Nat) : World (Nat × σ) where
  answer
    | .client .isCancelled, state => (after.any (· ≤ state.1), state)
    | .client (.deliver event), state =>
        let (reply, outside) := world.answer (.client (.deliver event)) state.2
        (reply, (state.1 + 1, outside))
    | call, state =>
        let (reply, outside) := world.answer call state.2
        (reply, (state.1, outside))
  patience := world.patience

/-- The first world answers as the second does, except that its client may have cancelled. -/
structure World.CutsShort {σ : Type} (part whole : World σ) : Prop where
  patience : part.patience = whole.patience
  answered : ∀ call state, call ≠ .client .isCancelled →
    part.answer call state = whole.answer call state
  asked : ∀ state, (part.answer (.client .isCancelled) state).1 = true ∨
    part.answer (.client .isCancelled) state = whole.answer (.client .isCancelled) state

namespace World
variable {σ : Type} {part whole : World σ}

theorem cancelling_cutsShort (world : World σ) (after : Nat) :
    (world.cancelling (some after)).CutsShort (world.cancelling none) where
  patience := rfl
  answered call state other := by
    rcases call with call | call | call
    · rfl
    · rfl
    · cases call with
      | isCancelled => exact absurd rfl other
      | deliver event => rfl
      | openFile path => rfl
      | removeFile path => rfl
  asked state := by
    by_cases due : after ≤ state.1
    · exact .inl (decide_eq_true due)
    · exact .inr (congrArg (·, state) (decide_eq_false due))

theorem CutsShort.recorded (cuts : part.CutsShort whole) : part.recorded.CutsShort whole.recorded where
  patience := cuts.patience
  answered call state other :=
    congrArg (fun answer => (answer.1, (⟨call, answer.1⟩ :: state.1, answer.2)))
      (cuts.answered call state.2 other)
  asked state :=
    (cuts.asked state.2).imp id <| congrArg fun answer : Bool × σ =>
      (answer.1, (⟨.client .isCancelled, answer.1⟩ :: state.1, answer.2))

end World

namespace Work
variable {σ α β : Type} {part whole : World σ}

/-- The work stops because the client has cancelled, or it runs in both worlds alike. -/
def StopsShort (work : Work σ α) (part whole : World σ) : Prop :=
  ∀ desk, (∃ left, work.run part desk = (.error (.failed .cancelled), left)) ∨
    work.run part desk = work.run whole desk

theorem stopsShort_bind {first : Work σ α} {next : α → Work σ β}
    (begins : first.StopsShort part whole) (goesOn : ∀ value, (next value).StopsShort part whole) :
    (first >>= next).StopsShort part whole := by
  intro desk
  rw [run_bind, run_bind]
  rcases begins desk with ⟨left, stopped⟩ | same
  · rw [stopped]
    exact .inl ⟨left, rfl⟩
  · rw [same]
    rcases first.run whole desk with ⟨stop | value, left⟩
    · exact .inr rfl
    · exact goesOn value left

theorem stopsShort_settle (answer : Except Error α) :
    (settle answer).StopsShort part whole := by
  cases answer <;> exact fun _ => .inr rfl

theorem stopsShort_attempt {work : Work σ α} {call : Call} {next : call.Reply → α → Work σ β}
    (tries : work.StopsShort part whole)
    (goesOn : ∀ result : Except Error α,
      (ask call >>= fun reply => settle result >>= next reply).StopsShort part whole) :
    (outcome work >>= fun result => ask call >>= fun reply =>
      settle result >>= next reply).StopsShort part whole := by
  intro desk
  rw [run_bind, run_bind, run_outcome, run_outcome]
  rcases tries desk with ⟨left, stopped⟩ | same
  · rw [stopped]
    exact .inl ⟨_, rfl⟩
  · rw [same]
    rcases work.run whole desk with ⟨(error | panic | _) | value, left⟩
    · exact goesOn (.error error) left
    · exact .inr rfl
    · exact .inr rfl
    · exact goesOn (.ok value) left

section
variable {cleanup : Work σ Unit} {work : Work σ α}
  (cleans : ∀ desk, cleanup.run part desk = cleanup.run whole desk)
  (works : work.StopsShort part whole)
include cleans works

theorem stopsShort_ensuring : (ensuring cleanup work).StopsShort part whole := by
  intro desk
  rw [run_ensuring, run_ensuring]
  rcases works desk with ⟨left, stopped⟩ | same
  · rw [stopped]
    exact .inl ⟨_, rfl⟩
  · rw [same, cleans]
    exact .inr rfl

theorem stopsShort_undoing : (undoing cleanup work).StopsShort part whole := by
  intro desk
  rw [run_undoing, run_undoing]
  rcases works desk with ⟨left, stopped⟩ | same
  · rw [stopped]
    exact .inl ⟨_, rfl⟩
  · rw [same]
    rcases work.run whole desk with ⟨stop | value, left⟩
    · exact .inr (congrArg (fun cleaned => (_, cleaned.2)) (cleans left))
    · exact .inr rfl

end

section
variable (cuts : part.CutsShort whole)
include cuts

theorem run_ask_alike {call : Call} (other : call ≠ .client .isCancelled) (desk : Desk σ) :
    (ask call).run part desk = (ask call).run whole desk := by
  rw [run_ask, run_ask, cuts.answered call desk.outside other]

theorem run_tell_alike (request : Request) (desk : Desk σ) :
    (tell request).run part desk = (tell request).run whole desk :=
  @mirrors_tell_heard _ _ id whole part (fun _ state => cuts.answered _ state nofun) request desk

theorem Tidies.run_alike {calls : Call → Prop} {work : Work σ α} (tidies : work.Tidies calls)
    (desk : Desk σ) : work.run part desk = work.run whole desk := by
  induction tidies generalizing desk with
  | pure value => rfl
  | call allowed closing => exact run_ask_alike cuts closing.isPlain.ne_isCancelled desk
  | bind _ _ begins goesOn =>
    rw [run_bind, run_bind, begins]
    split
    next value left ran => exact goesOn value left
    next stop left ran => rfl

theorem stopsShort_ask {call : Call} (other : call ≠ .client .isCancelled) :
    (ask call).StopsShort part whole :=
  fun desk => .inr (run_ask_alike cuts other desk)

theorem stopsShort_checkCancelled : (checkCancelled : Work σ Unit).StopsShort part whole := by
  intro desk
  unfold checkCancelled client
  rw [run_bind, run_bind, run_ask, run_ask]
  dsimp only
  rcases cuts.asked desk.outside with cancelled | same
  · rw [if_pos cancelled]
    exact .inl ⟨_, rfl⟩
  · rw [same]
    split
    next cancelled => exact .inr rfl
    next wanted => exact .inr rfl

theorem Uses.stopsShort {calls : Call → Prop} {work : Work σ α} (uses : work.Uses calls) :
    work.StopsShort part whole := by
  have plain {call : Call} (isPlain : call.IsPlain) : (ask call).StopsShort part whole :=
    stopsShort_ask cuts isPlain.ne_isCancelled
  induction uses with
  | pure value => exact fun _ => .inr rfl
  | stop stop => exact fun _ => .inr rfl
  | patience =>
    intro desk
    rw [run_patience, run_patience, cuts.patience]
    exact .inr rfl
  | call allowed isPlain => exact plain isPlain
  | poll allowed => exact stopsShort_bind (stopsShort_ask cuts nofun) fun _ => stopsShort_settle _
  | write allowed => exact stopsShort_bind (stopsShort_ask cuts nofun) stopsShort_settle
  | check allowed => exact stopsShort_checkCancelled cuts
  | report allowed time => exact fun desk => .inr (run_tell_alike cuts (.report time) desk)
  | bind _ _ begins goesOn => exact stopsShort_bind begins goesOn
  | attempt _ allowed closing _ tries goesOn =>
    exact stopsShort_attempt tries fun result => stopsShort_bind (plain closing.isPlain) fun reply =>
      stopsShort_bind (stopsShort_settle result) (goesOn reply)
  | ensuring cleans _ works => exact stopsShort_ensuring (cleans.run_alike cuts) works
  | undoing cleans _ works => exact stopsShort_undoing (cleans.run_alike cuts) works

end

end Work

end Recode.Session

namespace Recode.Job
open Recode.Media Recode.Container Recode.Device Recode.Progress Recode.Session
open Recode.Session.Work

/-- A run was cancelled: it returns with that, unless the listener broke down on the word of it. -/
def IsCancelled {α : Type} (result : Except Stop α) (history : History) : Prop :=
  result = .error (.failed .cancelled) ∨
    ∃ panic, result = .error (.panicked panic) ∧
      history.head? = some ⟨.client (.deliver (.failed Error.cancelled.message)), .error panic⟩

namespace Compression
variable {σ α β : Type} {job : Compression (History × σ)} {part whole : World σ}

def AbortsShort (work : Work (History × σ) α) (part whole : World σ) : Prop :=
  ∀ desk, (let (result, left) := work.run part.recorded desk
      IsCancelled result left.outside.1) ∨
    work.run part.recorded desk = work.run whole.recorded desk

theorem abortsShort_of_stopsShort {work : Work (History × σ) α}
    (stops : work.StopsShort part.recorded whole.recorded) : AbortsShort work part whole :=
  fun desk => (stops desk).imp (fun ⟨_, stopped⟩ => .inl (congrArg Prod.fst stopped)) id

theorem abortsShort_after {first : Work (History × σ) α} {next : α → Work (History × σ) β}
    (begins : ∀ desk, first.run part.recorded desk = first.run whole.recorded desk)
    (goesOn : ∀ value, AbortsShort (next value) part whole) : AbortsShort (first >>= next) part whole := by
  intro desk
  rw [run_bind, run_bind, begins]
  rcases first.run whole.recorded desk with ⟨stop | value, left⟩
  · exact .inr rfl
  · exact goesOn value left

theorem abort_cancelled (desk : Desk (History × σ)) :
    let (result, left) := (abort .cancelled : Work (History × σ) α).run part.recorded desk
    IsCancelled result left.outside.1 := by
  unfold abort
  rw [run_bind]
  cases has : desk.reporter with
  | none =>
    rw [run_tell_none has]
    exact .inl rfl
  | some reporter =>
    have served : (reporter.serve (.fail .cancelled)).1 = [] ∨
        (reporter.serve (.fail .cancelled)).1 = [.failed Error.cancelled.message] := by
      dsimp only [Reporter.serve, Reporter.fail]
      split
      next ended => exact .inl rfl
      next underway => exact .inr rfl
    rw [run_tell has]
    rcases served with nothing | failure
    · rw [nothing]
      exact .inl rfl
    · have told : ([Event.failed Error.cancelled.message].forM deliver :
          Work (History × σ) PUnit) = deliver (.failed Error.cancelled.message) := bind_pure _
      rw [failure, told, run_deliver]
      dsimp only [World.recorded]
      cases (part.answer (.client (.deliver (.failed Error.cancelled.message))) desk.outside.2).1 with
      | error panic => exact .inr ⟨panic, rfl, rfl⟩
      | ok _ => exact .inl rfl

theorem abortsShort_outcome {work : Work (History × σ) α}
    {next : Except Error α → Work (History × σ) β}
    (tries : work.StopsShort part.recorded whole.recorded)
    (goesOn : ∀ result, AbortsShort (next result) part whole)
    (aborts : ∀ desk, let (result, left) := (next (.error .cancelled)).run part.recorded desk
      IsCancelled result left.outside.1) :
    AbortsShort (outcome work >>= next) part whole := by
  intro desk
  rw [run_bind, run_bind, run_outcome, run_outcome]
  rcases tries desk with ⟨left, stopped⟩ | same
  · rw [stopped]
    exact .inl (aborts left)
  · rw [same]
    rcases work.run whole.recorded desk with ⟨(error | panic | _) | value, left⟩
    · exact goesOn (.error error) left
    · exact .inr rfl
    · exact .inr rfl
    · exact goesOn (.ok value) left

section
variable (cuts : part.CutsShort whole)
include cuts

theorem abort_abortsShort (error : Error) :
    AbortsShort (abort error : Work (History × σ) α) part whole :=
  abortsShort_after (run_tell_alike cuts.recorded _) fun _ _ => .inr rfl

theorem conclude_abortsShort {source : Metadata} {parameters : Parameters} {tracks : TrackSummary} :
    AbortsShort (job.conclude source parameters tracks) part whole := by
  obtain ⟨ended, rest, concludes, uses⟩ := @conclude_eq_tell_bind _ job source parameters tracks
  rw [concludes]
  exact abortsShort_after (run_tell_alike cuts.recorded _) fun _ =>
    abortsShort_of_stopsShort ((uses (fun _ => True) trivial).stopsShort cuts.recorded)

/-- A compression whose client may have cancelled is aborted with that, or it runs as it would
have. -/
theorem run_abortsShort (looks : ∀ path, (job.probe path).Uses Call.IsLook) :
    AbortsShort job.run part whole := by
  have listens (duration : Int) (desk : Desk (History × σ)) :
      (listen duration).run part.recorded desk = (listen duration).run whole.recorded desk := rfl
  refine abortsShort_outcome ((prepare_uses looks).stopsShort cuts.recorded) (fun prepared => ?_)
    fun desk => abort_cancelled { desk with reporter := some (.new 0) }
  cases prepared with
  | error error => exact abortsShort_after (listens 0) fun _ => abort_abortsShort cuts error
  | ok source =>
    refine abortsShort_after (listens source.duration) fun _ =>
      abortsShort_after (run_tell_alike cuts.recorded (.report 0)) fun _ => ?_
    refine abortsShort_outcome (execute_uses.stopsShort cuts.recorded) (fun executed => ?_)
      abort_cancelled
    cases executed with
    | error error => exact abort_abortsShort cuts error
    | ok written => exact conclude_abortsShort cuts

end

end Compression

end Recode.Job
