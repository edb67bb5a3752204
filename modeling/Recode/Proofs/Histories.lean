import Recode.Session.World

/-!
Work in a world of which nothing is known. All that can be said of it is said of the history of its
calls and their answers, so a statement is about every container, every codec and every client.
-/

namespace Recode.Session
open Recode.Progress

/-- Calls with their answers, the latest first. -/
abbrev History := List Exchange

namespace History

/-- Every exchange obeys the rule towards the exchanges before it. -/
def Always (rule : Exchange → History → Prop) : History → Prop
  | [] => True
  | latest :: earlier => rule latest earlier ∧ Always rule earlier

theorem Always.imp {rule weaker : Exchange → History → Prop}
    (weakens : ∀ latest earlier, rule latest earlier → weaker latest earlier) {history : History}
    (always : Always rule history) : Always weaker history := by
  induction history with
  | nil => trivial
  | cons latest earlier ih => exact ⟨weakens latest earlier always.1, ih always.2⟩

theorem Always.and {rule other : Exchange → History → Prop} {history : History}
    (always : Always rule history) (also : Always other history) :
    Always (fun latest earlier => rule latest earlier ∧ other latest earlier) history := by
  induction history with
  | nil => trivial
  | cons latest earlier ih => exact ⟨⟨always.1, also.1⟩, ih always.2 also.2⟩

theorem Always.drop {rule : Exchange → History → Prop} {history : History}
    (always : Always rule history) (count : Nat) : Always rule (history.drop count) := by
  induction count generalizing history with
  | zero => exact always
  | succ count ih =>
    cases history with
    | nil => trivial
    | cons latest earlier => exact ih always.2

theorem Always.behind {rule : Exchange → History → Prop} (later : History) {earlier : History}
    (always : Always rule (later ++ earlier)) : Always rule earlier := by
  have left := always.drop later.length
  rwa [List.drop_left] at left

theorem Always.of_mem {rule : Exchange → History → Prop} {history : History} {exchange : Exchange}
    (always : Always rule history) (member : exchange ∈ history) :
    ∃ earlier, rule exchange earlier := by
  obtain ⟨later, earlier, rfl⟩ := List.append_of_mem member
  exact ⟨earlier, (always.behind later).1⟩

/-- A kind of exchange of which none comes after another comes at most once. -/
theorem Always.countP_le_one {kind : Exchange → Bool} {history : History}
    (always : Always (fun latest earlier => kind latest → earlier.countP kind = 0) history) :
    history.countP kind ≤ 1 := by
  induction history with
  | nil => simp
  | cons latest earlier ih =>
    by_cases found : kind latest
    · simp [found, always.1 found]
    · rw [List.countP_cons_of_neg found]
      exact ih always.2

theorem countP_aside {kind : Exchange → Bool} {exchange : Exchange}
    (unmet : kind exchange = false) (history : History) :
    (exchange :: history).countP kind = history.countP kind :=
  List.countP_cons_of_neg (by simp only [unmet, Bool.false_eq_true, not_false_eq_true])

theorem countP_cons_pos {kind : Exchange → Bool} {exchange : Exchange}
    (met : kind exchange = true) (history : History) : 0 < (exchange :: history).countP kind := by
  rw [List.countP_cons_of_pos met]
  exact Nat.succ_pos _

theorem countP_lt_cons {kind : Exchange → Bool} {history : History}
    (found : 0 < history.countP kind) (exchange : Exchange) :
    0 < (exchange :: history).countP kind := by
  rw [List.countP_cons]
  exact Nat.lt_add_right _ found

theorem Always.countP_pos {kind needed : Exchange → Bool} {history : History}
    (always : Always (fun latest earlier => kind latest → 0 < earlier.countP needed) history)
    (found : 0 < history.countP kind) : 0 < history.countP needed := by
  induction history with
  | nil => exact absurd found (Nat.lt_irrefl 0)
  | cons latest earlier ih =>
    apply countP_lt_cons
    by_cases isKind : kind latest
    · exact always.1 isKind
    · rw [List.countP_cons_of_neg isKind] at found
      exact ih always.2 found

end History

namespace Work
variable {σ α β : Type}

/-- In every world, work begun after `history` reaches a value as `reached` says, or breaks off as
`broken` says. -/
def Leads (work : Work (History × σ) α) (history : History) (reached : α → History → Prop)
    (broken : History → Prop) : Prop :=
  ∀ (world : World σ) (desk : Desk (History × σ)), desk.outside.1 = history →
    match work.run world.recorded desk with
    | (.ok value, left) => reached value left.outside.1
    | (.error _, left) => broken left.outside.1

def records (work : Work (History × σ) α) (world : World σ) (desk : Desk σ) :
    Except Stop α × History :=
  let (result, left) := work.run world.recorded { desk with outside := ([], desk.outside) }
  (result, left.outside.1)

section
variable {history : History} {reached : α → History → Prop} {broken : History → Prop}

theorem Leads.records {work : Work (History × σ) α} (leads : work.Leads [] reached broken)
    (world : World σ) (desk : Desk σ) :
    match work.records world desk with
    | (.ok value, history) => reached value history
    | (.error _, history) => broken history := by
  have ends := leads world { desk with outside := ([], desk.outside) } rfl
  unfold Work.records
  rcases found : work.run world.recorded { desk with outside := ([], desk.outside) } with
    ⟨_ | value, left⟩
  · simpa only [found] using ends
  · simpa only [found] using ends

theorem Leads.imp {work : Work (History × σ) α} {wider : α → History → Prop}
    {looser : History → Prop} (leads : work.Leads history reached broken)
    (reached_imp : ∀ value left, reached value left → wider value left)
    (broken_imp : ∀ left, broken left → looser left) : work.Leads history wider looser := by
  intro world desk same
  have ends := leads world desk same
  rcases found : work.run world.recorded desk with ⟨_ | value, left⟩
  · simp only [found] at ends ⊢
    exact broken_imp _ ends
  · simp only [found] at ends ⊢
    exact reached_imp _ _ ends

theorem leads_pure {value : α} (holds : reached value history) :
    (pure value : Work (History × σ) α).Leads history reached broken := by
  intro world desk same
  subst same
  exact holds

theorem leads_stop {stop : Stop} (holds : broken history) :
    (throw stop : Work (History × σ) α).Leads history reached broken := by
  intro world desk same
  subst same
  exact holds

theorem leads_fail {error : Error} (holds : broken history) :
    (fail error : Work (History × σ) α).Leads history reached broken :=
  leads_stop holds

theorem leads_bind {first : Work (History × σ) α} {next : α → Work (History × σ) β}
    {reached : β → History → Prop}
    (begun : first.Leads history (fun value left => (next value).Leads left reached broken) broken) :
    (first >>= next).Leads history reached broken := by
  intro world desk same
  have ends := begun world desk same
  rw [run_bind]
  rcases found : first.run world.recorded desk with ⟨_ | value, left⟩
  · simpa only [found] using ends
  · simp only [found] at ends
    exact ends world left rfl

theorem leads_ask {call : Call} {next : call.Reply → Work (History × σ) β}
    {reached : β → History → Prop}
    (answered : ∀ reply, (next reply).Leads (⟨call, reply⟩ :: history) reached broken) :
    (ask call >>= next).Leads history reached broken := by
  apply leads_bind
  intro world desk same
  subst same
  exact answered _

theorem leads_settle {answer : Except Error α} {next : α → Work (History × σ) β}
    {reached : β → History → Prop} (refused : ∀ error, answer = .error error → broken history)
    (granted : ∀ value, answer = .ok value → (next value).Leads history reached broken) :
    (settle answer >>= next).Leads history reached broken := by
  apply leads_bind
  cases answer with
  | error error => exact leads_fail (refused error rfl)
  | ok value => exact leads_pure (granted value rfl)

theorem leads_checkCancelled {next : Unit → Work (History × σ) β} {reached : β → History → Prop}
    (cancelled : broken (⟨.client .isCancelled, true⟩ :: history))
    (wanted : (next ()).Leads (⟨.client .isCancelled, false⟩ :: history) reached broken) :
    (checkCancelled >>= next).Leads history reached broken := by
  apply leads_bind
  apply leads_ask
  intro reply
  cases reply with
  | false => exact leads_pure wanted
  | true => exact leads_fail cancelled

theorem leads_patience {next : Nat → Work (History × σ) β} {reached : β → History → Prop}
    (given : ∀ limit, (next limit).Leads history reached broken) :
    (patience >>= next).Leads history reached broken := by
  apply leads_bind
  intro world desk same
  subst same
  exact given world.patience

theorem leads_outcome {work : Work (History × σ) α} {reached : Except Error α → History → Prop}
    (leads : work.Leads history (fun value => reached (.ok value))
      (fun left => broken left ∧ ∀ error, reached (.error error) left)) :
    (outcome work).Leads history reached broken := by
  intro world desk same
  have ends := leads world desk same
  rw [run_outcome]
  rcases found : work.run world.recorded desk with ⟨(error | panic | _) | value, left⟩ <;>
    simp only [found] at ends
  · exact ends.2 error
  · exact ends.1
  · exact ends.1
  · exact ends

/-- The cleanup of work that has ended, however it ended, may change nothing of what is said. -/
theorem leads_ensuring {work : Work (History × σ) α} {cleanup : Work (History × σ) Unit}
    (leads : work.Leads history
      (fun value left => cleanup.Leads left (fun _ => reached value) (reached value))
      (fun left => cleanup.Leads left (fun _ => broken) broken)) :
    (ensuring cleanup work).Leads history reached broken := by
  intro world desk same
  have ends := leads world desk same
  rw [run_ensuring]
  rcases found : work.run world.recorded desk with ⟨_ | value, left⟩ <;>
    simp only [found] at ends ⊢ <;>
    have cleaned := ends world left rfl <;>
    rcases after : cleanup.run world.recorded left with ⟨_ | _, last⟩ <;>
    simpa only [after] using cleaned

theorem leads_undoing {work : Work (History × σ) α} {cleanup : Work (History × σ) Unit}
    (leads : work.Leads history reached (fun left => cleanup.Leads left (fun _ => broken) broken)) :
    (undoing cleanup work).Leads history reached broken := by
  intro world desk same
  have ends := leads world desk same
  rw [run_undoing]
  rcases found : work.run world.recorded desk with ⟨_ | value, left⟩ <;>
    simp only [found] at ends ⊢
  · have cleaned := ends world left rfl
    rcases after : cleanup.run world.recorded left with ⟨_ | _, last⟩ <;>
      simpa only [after] using cleaned
  · exact ends

end

/-- The work makes only calls of the allowed kind, so it keeps what these keep, and reaches only
values such as it `yields`. -/
def Asks (work : Work (History × σ) α) (allowed : Call → Prop) (yields : α → Prop) : Prop :=
  ∀ kept : History → Prop,
    (∀ call reply history, allowed call → kept history → kept (⟨call, reply⟩ :: history)) →
    ∀ history, kept history → work.Leads history (fun value left => yields value ∧ kept left) kept

section
variable {allowed : Call → Prop} {yields : α → Prop}

theorem Asks.weaken {work : Work (History × σ) α} {wider : Call → Prop}
    (asks : work.Asks allowed yields) (allows : ∀ call, allowed call → wider call) :
    work.Asks wider yields :=
  fun kept keeps history holds =>
    asks kept (fun call reply before isAllowed => keeps call reply before (allows call isAllowed))
      history holds

theorem Asks.imp {work : Work (History × σ) α} {wider : α → Prop}
    (asks : work.Asks allowed yields) (yields_imp : ∀ value, yields value → wider value) :
    work.Asks allowed wider :=
  fun kept keeps history holds => (asks kept keeps history holds).imp
    (fun value _ held => ⟨yields_imp value held.1, held.2⟩) fun _ held => held

theorem asks_pure {value : α} (holds : yields value) :
    (pure value : Work (History × σ) α).Asks allowed yields :=
  fun _ _ _ held => leads_pure ⟨holds, held⟩

theorem asks_stop {stop : Stop} : (throw stop : Work (History × σ) α).Asks allowed yields :=
  fun _ _ _ held => leads_stop held

theorem asks_settle {answer : Except Error α} :
    (settle answer : Work (History × σ) α).Asks allowed fun value => answer = .ok value := by
  cases answer with
  | error error => exact asks_stop
  | ok value => exact asks_pure rfl

theorem asks_bind {first : Work (History × σ) α} {next : α → Work (History × σ) β}
    {yields : β → Prop} {found : α → Prop} (first_asks : first.Asks allowed found)
    (next_asks : ∀ value, found value → (next value).Asks allowed yields) :
    (first >>= next).Asks allowed yields :=
  fun kept keeps _ holds => leads_bind <| (first_asks kept keeps _ holds).imp
    (fun value _ held => next_asks value held.1 kept keeps _ held.2) fun _ held => held

theorem Asks.leads_bind {first : Work (History × σ) α} {next : α → Work (History × σ) β}
    {kept broken : History → Prop} {reached : β → History → Prop} {history : History}
    (asks : first.Asks allowed yields)
    (keeps : ∀ call reply before, allowed call → kept before → kept (⟨call, reply⟩ :: before))
    (holds : kept history) (breaks : ∀ left, kept left → broken left)
    (onward : ∀ value left, yields value → kept left → (next value).Leads left reached broken) :
    (first >>= next).Leads history reached broken :=
  Work.leads_bind <| (asks kept keeps history holds).imp
    (fun value left held => onward value left held.1 held.2) breaks

theorem asks_ask {call : Call} (isAllowed : allowed call) :
    (ask call : Work (History × σ) call.Reply).Asks allowed fun _ => True := by
  intro kept keeps _ holds world desk same
  subst same
  exact ⟨trivial, keeps call _ _ isAllowed holds⟩

theorem asks_granted {asked : Work (History × σ) (Except Error α)} {found : Except Error α → Prop}
    {next : α → Work (History × σ) β} {yields : β → Prop} (asked_asks : asked.Asks allowed found)
    (next_asks : ∀ value, found (.ok value) → (next value).Asks allowed yields) :
    (asked >>= fun answer => settle answer >>= next).Asks allowed yields := by
  apply asks_bind asked_asks
  intro answer held
  apply asks_bind asks_settle
  intro value same
  exact next_asks value (same ▸ held)

theorem asks_get : (get : Work (History × σ) (Desk (History × σ))).Asks allowed fun _ => True := by
  intro kept keeps _ holds world desk same
  subst same
  exact ⟨trivial, holds⟩

theorem asks_modify {change : Desk (History × σ) → Desk (History × σ)}
    (aside : ∀ desk, (change desk).outside = desk.outside) :
    (modify change : Work (History × σ) PUnit).Asks allowed fun _ => True := by
  intro kept keeps _ holds world desk same
  subst same
  refine ⟨trivial, ?_⟩
  show kept (change desk).outside.1
  rw [aside]
  exact holds

theorem asks_undoing {work : Work (History × σ) α} {cleanup : Work (History × σ) Unit}
    (work_asks : work.Asks allowed yields) (cleanup_asks : cleanup.Asks allowed fun _ => True) :
    (undoing cleanup work).Asks allowed yields :=
  fun kept keeps _ holds => leads_undoing <| (work_asks kept keeps _ holds).imp
    (fun _ _ held => held) fun _ held =>
      (cleanup_asks kept keeps _ held).imp (fun _ _ cleaned => cleaned.2) fun _ cleaned => cleaned

theorem asks_forM {values : List β} {act : β → Work (History × σ) Unit}
    (acts : ∀ value, (act value).Asks allowed fun _ => True) :
    (values.forM act).Asks allowed fun _ => True := by
  induction values with
  | nil => exact asks_pure trivial
  | cons value rest ih => exact asks_bind (acts value) fun _ _ => ih

theorem asks_deliver {event : Event} (allows : ∀ event, allowed (.client (.deliver event))) :
    (deliver event : Work (History × σ) Unit).Asks allowed fun _ => True := by
  refine asks_bind (asks_modify fun _ => rfl) fun _ _ => asks_bind (asks_ask (allows event)) ?_
  intro delivered _
  cases delivered with
  | error panic => exact asks_stop
  | ok _ => exact asks_pure trivial

theorem asks_tell {request : Request} (allows : ∀ event, allowed (.client (.deliver event))) :
    (tell request : Work (History × σ) Unit).Asks allowed fun _ => True := by
  apply asks_bind asks_get
  intro desk _
  cases desk.reporter with
  | none => exact asks_pure trivial
  | some reporter =>
    exact asks_bind (asks_modify fun _ => rfl) fun _ _ => asks_forM fun _ => asks_deliver allows

theorem asks_checkCancelled (allows : allowed (.client .isCancelled)) :
    (checkCancelled : Work (History × σ) Unit).Asks allowed fun _ => True := by
  apply asks_bind (asks_ask allows)
  intro isCancelled _
  cases isCancelled with
  | false => exact asks_pure trivial
  | true => exact asks_stop

end

end Work

end Recode.Session
