import Mathlib.Data.List.Chain
import Recode.Progress.Reporter

/-!
The order in which a listener sees progress. Reports never fall behind one another, and where the
duration is known none of them passes it, so nor does the last one at completion. Where it is
unknown, completion reports nothing done, which is behind whatever was reported before.
-/

namespace Recode.Progress

def processedTimes (events : List Event) : List Int := (marks events).map (·.processed)

theorem marks_append (events later : List Event) :
    marks (events ++ later) = marks events ++ marks later := List.filterMap_append ..

theorem processedTimes_append (events later : List Event) :
    processedTimes (events ++ later) = processedTimes events ++ processedTimes later := by
  simp only [processedTimes, marks_append, List.map_append]

theorem pairwise_cons_cons_iff {first second : Int} {rest : List Int} :
    (first :: second :: rest).Pairwise (· ≤ ·) ↔
      first ≤ second ∧ (second :: rest).Pairwise (· ≤ ·) := by
  simp only [← List.isChain_iff_pairwise, List.isChain_cons_cons]

namespace Reporter

/-- Progress has neither passed a known total nor fallen below zero. -/
structure InBounds (reporter : Reporter) : Prop where
  total_nonneg : 0 ≤ reporter.total
  nonneg : 0 ≤ reporter.processed
  within : 0 < reporter.total → reporter.processed ≤ reporter.total

theorem inBounds_new (duration : Int) : (new duration).InBounds where
  total_nonneg := Int.le_max_right _ _
  nonneg := Int.le_refl 0
  within known := Int.le_of_lt known

section
variable {reporter : Reporter}

theorem InBounds.le_advance (inBounds : reporter.InBounds) (processed : Int) :
    reporter.processed ≤ reporter.advance processed := by
  have within := inBounds.within
  unfold advance
  dsimp only
  split
  next known =>
    have within := within known
    omega
  next unknown => omega

theorem advance_le (processed : Int) (known : 0 < reporter.total) :
    reporter.advance processed ≤ reporter.total := by
  unfold advance
  rw [if_pos known]
  exact Int.min_le_right _ _

theorem InBounds.reported (inBounds : reporter.InBounds) (processed : Int) :
    { reporter with processed := reporter.advance processed }.InBounds where
  total_nonneg := inBounds.total_nonneg
  nonneg := Int.le_trans inBounds.nonneg (inBounds.le_advance processed)
  within known := show reporter.advance processed ≤ reporter.total from
    advance_le processed known

theorem serve_terminated (ended : reporter.terminated = true) (request : Request) :
    reporter.serve request = ([], reporter) := by
  cases request <;> exact if_pos ended

theorem serveAll_terminated (ended : reporter.terminated = true) (requests : List Request) :
    (reporter.serveAll requests).1 = [] := by
  induction requests with
  | nil => rfl
  | cons request rest ih =>
    simp only [serveAll, serve_terminated ended, List.nil_append]
    exact ih

section
variable (live : reporter.terminated = false)
include live

theorem serve_report (processed : Int) : reporter.serve (.report processed) =
    ([.progress ⟨reporter.advance processed, reporter.total⟩],
      { reporter with processed := reporter.advance processed }) := if_neg (by simp [live])

theorem serve_complete (outcome : Outcome) : reporter.serve (.complete outcome) =
    ([.progress ⟨reporter.total, reporter.total⟩, .completed outcome],
      { reporter with processed := reporter.total, terminated := true }) :=
  if_neg (by simp [live])

theorem serve_fail (error : Error) : reporter.serve (.fail error) =
    ([.failed error.message], { reporter with terminated := true }) := if_neg (by simp [live])

theorem processedTimes_serveAll_report (processed : Int) (rest : List Request) :
    processedTimes (reporter.serveAll (.report processed :: rest)).1 =
      reporter.advance processed :: processedTimes
        ({ reporter with processed := reporter.advance processed }.serveAll rest).1 := by
  simp only [serveAll, serve_report live]
  exact processedTimes_append _ _

theorem processedTimes_serveAll_complete (outcome : Outcome) (rest : List Request) :
    processedTimes (reporter.serveAll (.complete outcome :: rest)).1 = [reporter.total] := by
  simp only [serveAll, serve_complete live, serveAll_terminated]
  rfl

theorem processedTimes_serveAll_fail (error : Error) (rest : List Request) :
    processedTimes (reporter.serveAll (.fail error :: rest)).1 = [] := by
  simp only [serveAll, serve_fail live, serveAll_terminated]
  rfl

end

end

/-- The requests begin with reports of these times, behind which completion is asked for. -/
def CompletesAfter (requests : List Request) (times : List Int) : Prop :=
  ∃ outcome rest, requests = times.map Request.report ++ .complete outcome :: rest

theorem completesAfter_report {processed : Int} {rest : List Request} {times : List Int} :
    CompletesAfter (.report processed :: rest) times ↔
      ∃ later, times = processed :: later ∧ CompletesAfter rest later := by
  constructor
  · rintro ⟨outcome, left, same⟩
    cases times with
    | nil => simp at same
    | cons time later =>
      simp only [List.map_cons, List.cons_append, List.cons.injEq, Request.report.injEq] at same
      exact ⟨later, same.1 ▸ rfl, outcome, left, same.2⟩
  · rintro ⟨later, rfl, outcome, left, rfl⟩
    exact ⟨outcome, left, rfl⟩

theorem completesAfter_complete {outcome : Outcome} {rest : List Request} {times : List Int} :
    CompletesAfter (.complete outcome :: rest) times ↔ times = [] := by
  constructor
  · rintro ⟨other, left, same⟩
    cases times with
    | nil => rfl
    | cons time later => simp at same
  · rintro rfl
    exact ⟨outcome, rest, rfl⟩

theorem not_completesAfter_fail {error : Error} {rest : List Request} {times : List Int} :
    ¬CompletesAfter (.fail error :: rest) times := by
  rintro ⟨outcome, left, same⟩
  cases times <;> simp at same

theorem not_completesAfter_nil {times : List Int} : ¬CompletesAfter [] times := by
  rintro ⟨outcome, left, same⟩
  cases times <;> simp at same

/-- From where a reporter stands on, progress never falls back exactly if the total is known, or else
nothing that goes before completion is ahead of it. -/
theorem InBounds.rising_iff {reporter : Reporter} (inBounds : reporter.InBounds)
    (live : reporter.terminated = false) (requests : List Request) :
    (reporter.processed :: processedTimes (reporter.serveAll requests).1).Pairwise (· ≤ ·) ↔
      (reporter.total = 0 → ∀ times, CompletesAfter requests times →
        reporter.processed ≤ 0 ∧ ∀ time ∈ times, time ≤ 0) := by
  induction requests generalizing reporter with
  | nil =>
    have silent : processedTimes (reporter.serveAll []).1 = [] := rfl
    simp [silent, not_completesAfter_nil]
  | cons request rest ih =>
    cases request with
    | report processed =>
      -- A report is never behind; it counts for the rest as what has been processed.
      rw [processedTimes_serveAll_report live, pairwise_cons_cons_iff]
      have further := ih (inBounds.reported processed) live
      dsimp only at further
      rw [further, and_iff_right (inBounds.le_advance processed)]
      refine imp_congr_right fun unknown => ?_
      have reached : reporter.advance processed = max processed reporter.processed := by
        unfold advance
        rw [if_neg (by omega)]
      simp only [completesAfter_report, reached, Int.max_le]
      constructor
      · rintro holds times ⟨later, rfl, completes⟩
        obtain ⟨ahead, others⟩ := holds later completes
        exact ⟨ahead.2, List.forall_mem_cons.mpr ⟨ahead.1, others⟩⟩
      · intro holds later completes
        obtain ⟨before, all⟩ := holds (processed :: later) ⟨later, rfl, completes⟩
        obtain ⟨first, others⟩ := List.forall_mem_cons.mp all
        exact ⟨⟨first, before⟩, others⟩
    | complete outcome =>
      rw [processedTimes_serveAll_complete live, List.pairwise_pair]
      simp only [completesAfter_complete, forall_eq, List.not_mem_nil, IsEmpty.forall_iff,
        implies_true, and_true]
      have total_nonneg := inBounds.total_nonneg
      have within := inBounds.within
      constructor
      · omega
      · intro unknown
        by_cases known : 0 < reporter.total
        · exact within known
        · have none : reporter.total = 0 := by omega
          exact none ▸ unknown none
    | fail error =>
      rw [processedTimes_serveAll_fail live]
      simp [not_completesAfter_fail]

theorem InBounds.processedTimes_ge {reporter : Reporter} (inBounds : reporter.InBounds)
    (requests : List Request) :
    ∀ time ∈ processedTimes (reporter.serveAll requests).1, 0 ≤ time := by
  cases live : reporter.terminated with
  | true =>
    rw [serveAll_terminated live]
    exact nofun
  | false =>
    induction requests generalizing reporter with
    | nil => exact nofun
    | cons request rest ih =>
      cases request with
      | report processed =>
        rw [processedTimes_serveAll_report live]
        exact List.forall_mem_cons.mpr
          ⟨(inBounds.reported processed).nonneg, ih (inBounds.reported processed) live⟩
      | complete outcome =>
        rw [processedTimes_serveAll_complete live]
        exact List.forall_mem_singleton.mpr inBounds.total_nonneg
      | fail error =>
        rw [processedTimes_serveAll_fail live]
        exact nofun

/-- The progress that a listener sees never falls back exactly if the duration is known, or no time
past zero is reported before a completion. -/
theorem processed_rises_iff (duration : Int) (requests : List Request) :
    (processedTimes ((new duration).serveAll requests).1).Pairwise (· ≤ ·) ↔
      0 < duration ∨ ∀ (times : List Int) (outcome : Outcome) (rest : List Request),
        requests = times.map Request.report ++ .complete outcome :: rest →
          ∀ time ∈ times, time ≤ 0 := by
  have inBounds := inBounds_new duration
  have rising := inBounds.rising_iff rfl requests
  have nothing : (new duration).processed = 0 := rfl
  have unknown : (new duration).total = 0 ↔ ¬0 < duration := by
    show max duration 0 = 0 ↔ _
    omega
  rw [List.pairwise_cons, nothing, and_iff_right (inBounds.processedTimes_ge requests), unknown]
    at rising
  rw [rising, or_iff_not_imp_left]
  simp only [CompletesAfter, forall_exists_index, Int.le_refl, true_and]

/-- A source of unknown duration, of which some was done, is completed with nothing done. -/
theorem completion_falls_back :
    ¬(processedTimes ((new 0).serveAll [.report 100, .complete .completed]).1).Pairwise
      (· ≤ ·) := by
  decide

end Reporter

end Recode.Progress
