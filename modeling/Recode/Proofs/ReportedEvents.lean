import Recode.Proofs.ReportedProgress

/-!
All that a listener is told. Whatever a request adds stands behind what was told before: progress
that is within the total and at no lower percentage, or the one event that ends the stream. So
whatever is asked for, and in whatever order, the stream ends at most once and with its end.
-/

namespace Recode.Progress

theorem marks_terminal {event : Event} (terminal : event.isTerminal = true) :
    marks [event] = [] := by
  cases event with
  | progress mark => exact nomatch terminal
  | completed outcome => rfl
  | failed text => rfl

theorem terminalCount_le_one {events : List Event}
    (ends : ∀ event ∈ events.dropLast, event.isTerminal = false) : terminalCount events ≤ 1 := by
  rcases events.eq_nil_or_concat with rfl | ⟨earlier, last, rfl⟩
  · exact Nat.zero_le 1
  · rw [List.concat_eq_append, List.dropLast_concat] at ends
    have none : earlier.countP Event.isTerminal = 0 :=
      List.countP_eq_zero.mpr fun event told => by simp [ends event told]
    rw [terminalCount, List.concat_eq_append, List.countP_append, none, Nat.zero_add]
    exact List.countP_le_length

structure Mark.Fits (mark : Mark) (total : Int) : Prop where
  total_eq : mark.total = total
  total_nonneg : 0 ≤ total
  nonneg : 0 ≤ mark.processed
  within : 0 < total → mark.processed ≤ total

namespace Mark.Fits
variable {mark later : Mark} {total : Int}

theorem hundredths (fits : mark.Fits total) (known : 0 < total) :
    0 ≤ mark.processed * 100 / total ∧ mark.processed * 100 / total ≤ 100 := by
  have nonneg := fits.nonneg
  have within := fits.within known
  constructor
  · exact Int.ediv_nonneg (by omega) (Int.le_of_lt known)
  · exact Int.ediv_le_of_le_mul known (by omega)

theorem percentage_eq (fits : mark.Fits total) :
    mark.percentage = if 0 < total then mark.processed * 100 / total else 0 := by
  have total_nonneg := fits.total_nonneg
  unfold percentage
  rw [fits.total_eq]
  by_cases known : 0 < total
  · have few := fits.hundredths known
    rw [if_neg (by omega), if_pos known]
    exact Int.bmod_eq_of_le (by omega) (Int.lt_of_le_of_lt few.2 (by decide))
  · rw [if_pos (by omega), if_neg known]

theorem percentage_bounds (fits : mark.Fits total) :
    0 ≤ mark.percentage ∧ mark.percentage ≤ 100 := by
  rw [fits.percentage_eq]
  split
  next known => exact fits.hundredths known
  next unknown => decide

theorem percentage_le (fits : mark.Fits total) (further : later.Fits total)
    (ahead : 0 < total → mark.processed ≤ later.processed) :
    mark.percentage ≤ later.percentage := by
  rw [fits.percentage_eq, further.percentage_eq]
  split
  next known =>
    have ahead := ahead known
    exact Int.ediv_le_ediv known (by omega)
  next unknown => exact Int.le_refl 0

/-- Everything is done only where it is known how much that is. -/
theorem done (fits : mark.Fits total) (full : mark.percentage = 100) :
    mark.processed = total ∧ 0 < total := by
  rw [fits.percentage_eq] at full
  split at full
  next known =>
    have within := fits.within known
    have enough := Int.ediv_mul_le (mark.processed * 100) (Int.ne_of_gt known)
    rw [full] at enough
    exact ⟨by omega, known⟩
  next unknown => exact nomatch full

end Mark.Fits

namespace Reporter

def mark (reporter : Reporter) : Mark := ⟨reporter.processed, reporter.total⟩

theorem InBounds.fits {reporter : Reporter} (inBounds : reporter.InBounds) :
    reporter.mark.Fits reporter.total :=
  ⟨rfl, inBounds.total_nonneg, inBounds.nonneg, inBounds.within⟩

structure Heard (reporter : Reporter) (events : List Event) : Prop where
  inBounds : reporter.InBounds
  terminated_iff : reporter.terminated = true ↔ ∃ event ∈ events, event.isTerminal = true
  ends : ∀ event ∈ events.dropLast, event.isTerminal = false
  fits : ∀ mark ∈ marks events, mark.Fits reporter.total
  rising : ((marks events).map Mark.percentage).Pairwise (· ≤ ·)
  reached : ∀ mark ∈ marks events, mark.percentage ≤ reporter.mark.percentage

theorem heard_new (duration : Int) : (new duration).Heard [] where
  inBounds := inBounds_new duration
  terminated_iff := by simp [new]
  ends := nofun
  fits := nofun
  rising := .nil
  reached := nofun

section
variable {reporter next : Reporter} {events : List Event}

theorem Heard.ongoing (heard : reporter.Heard events) (live : reporter.terminated = false) :
    ∀ event ∈ events, event.isTerminal = false := by
  intro event told
  by_contra terminal
  have ended := heard.terminated_iff.mpr ⟨event, told, by simpa using terminal⟩
  rw [live] at ended
  exact nomatch ended

/-- A reporter that has gone on tells of where it stands now. -/
theorem Heard.progress (heard : reporter.Heard events) (live : reporter.terminated = false)
    (inBounds : next.InBounds) (total : next.total = reporter.total)
    (goesOn : next.terminated = false)
    (ahead : 0 < reporter.total → reporter.processed ≤ next.processed) :
    next.Heard (events ++ [.progress next.mark]) := by
  have fits : next.mark.Fits reporter.total := total ▸ inBounds.fits
  have further : reporter.mark.percentage ≤ next.mark.percentage :=
    heard.inBounds.fits.percentage_le fits ahead
  have beyond : ∀ mark ∈ marks events, mark.percentage ≤ next.mark.percentage :=
    fun mark before => Int.le_trans (heard.reached mark before) further
  have told : marks (events ++ [.progress next.mark]) = marks events ++ [next.mark] :=
    marks_append ..
  constructor
  · exact inBounds
  · refine iff_of_false (by simp [goesOn]) ?_
    rintro ⟨event, heardNow, terminal⟩
    rcases List.mem_append.mp heardNow with before | last
    · rw [heard.ongoing live event before] at terminal
      exact nomatch terminal
    · rw [List.mem_singleton.mp last] at terminal
      exact nomatch terminal
  · rw [List.dropLast_concat]
    exact heard.ongoing live
  · rw [told, List.forall_mem_append, List.forall_mem_singleton, total]
    exact ⟨heard.fits, fits⟩
  · rw [told, List.map_append, List.pairwise_append]
    refine ⟨heard.rising, List.pairwise_singleton _ _, ?_⟩
    simpa using beyond
  · rw [told, List.forall_mem_append, List.forall_mem_singleton]
    exact ⟨beyond, Int.le_refl _⟩

theorem Heard.finish (heard : reporter.Heard events) (live : reporter.terminated = false)
    (event : Event) (terminal : event.isTerminal = true) :
    { reporter with terminated := true }.Heard (events ++ [event]) := by
  have told : marks (events ++ [event]) = marks events := by
    rw [marks_append, marks_terminal terminal, List.append_nil]
  constructor
  · exact ⟨heard.inBounds.total_nonneg, heard.inBounds.nonneg, heard.inBounds.within⟩
  · exact iff_of_true rfl ⟨event, List.mem_concat_self, terminal⟩
  · rw [List.dropLast_concat]
    exact heard.ongoing live
  · rw [told]
    exact heard.fits
  · rw [told]
    exact heard.rising
  · rw [told]
    exact heard.reached

theorem Heard.serve (heard : reporter.Heard events) (request : Request) :
    (reporter.serve request).2.Heard (events ++ (reporter.serve request).1) := by
  cases live : reporter.terminated with
  | true =>
    rw [serve_terminated live, List.append_nil]
    exact heard
  | false =>
    cases request with
    | report processed =>
      rw [serve_report live]
      exact heard.progress live (heard.inBounds.reported processed) rfl live
        fun _ => heard.inBounds.le_advance processed
    | complete outcome =>
      -- Completion is a report of the total and then the end.
      let whole : Reporter := { reporter with processed := reporter.total }
      have total_nonneg := heard.inBounds.total_nonneg
      have inBounds : whole.InBounds := ⟨total_nonneg, total_nonneg, fun _ => Int.le_refl _⟩
      have told := heard.progress live inBounds rfl live heard.inBounds.within
      have ended := told.finish live (.completed outcome) rfl
      rw [List.append_assoc] at ended
      rw [serve_complete live]
      exact ended
    | fail error =>
      rw [serve_fail live]
      exact heard.finish live _ rfl

theorem Heard.serveAll (heard : reporter.Heard events) (requests : List Request) :
    (reporter.serveAll requests).2.Heard (events ++ (reporter.serveAll requests).1) := by
  induction requests generalizing reporter events with
  | nil =>
    show reporter.Heard (events ++ [])
    rwa [List.append_nil]
  | cons request rest ih =>
    have later := ih (heard.serve request)
    rwa [List.append_assoc] at later

theorem total_serve (reporter : Reporter) (request : Request) :
    (reporter.serve request).2.total = reporter.total := by
  cases live : reporter.terminated with
  | true => rw [serve_terminated live]
  | false =>
    cases request with
    | report processed => rw [serve_report live]
    | complete outcome => rw [serve_complete live]
    | fail error => rw [serve_fail live]

theorem total_serveAll (reporter : Reporter) (requests : List Request) :
    (reporter.serveAll requests).2.total = reporter.total := by
  induction requests generalizing reporter with
  | nil => rfl
  | cons request rest ih => exact (ih _).trans (total_serve reporter request)

/-- Where completion is the first to end the stream, it is told behind all reports, and nothing
after it. -/
theorem serveAll_completes (live : reporter.terminated = false) (times : List Int)
    (outcome : Outcome) (rest : List Request) :
    ∃ before, (reporter.serveAll (times.map Request.report ++ .complete outcome :: rest)).1 =
      before ++ [.progress ⟨reporter.total, reporter.total⟩, .completed outcome] := by
  induction times generalizing reporter with
  | nil =>
    refine ⟨[], ?_⟩
    simp only [List.map_nil, List.nil_append, Reporter.serveAll, serve_complete live,
      serveAll_terminated, List.append_nil]
  | cons time later ih =>
    let reported : Reporter := { reporter with processed := reporter.advance time }
    obtain ⟨before, told⟩ := @ih reported live
    refine ⟨.progress reported.mark :: before, ?_⟩
    simp only [List.map_cons, List.cons_append, Reporter.serveAll, serve_report live]
    exact congrArg _ told

end

/-- Whatever is asked of a fresh reporter, it tells of at most one end, tells nothing after it, and
has terminated exactly if it has told of it. A completion that is the first to end the stream is told
behind progress at the total. All progress has the reporter's total, which it does not pass if it is
known; its percentages are within a hundred, never fall, and come to a hundred only when all of a
known total is done. -/
theorem events_told (duration : Int) (requests : List Request) :
    let total := max duration 0
    let events := ((new duration).serveAll requests).1
    (terminalCount events ≤ 1 ∧ ∀ event ∈ events.dropLast, event.isTerminal = false) ∧
    (((new duration).serveAll requests).2.terminated = true ↔
      ∃ event ∈ events, event.isTerminal = true) ∧
    (∀ (times : List Int) (outcome : Outcome) (rest : List Request),
      requests = times.map Request.report ++ .complete outcome :: rest →
        ∃ before, events = before ++ [.progress ⟨total, total⟩, .completed outcome]) ∧
    (∀ mark ∈ marks events, mark.total = total ∧ 0 ≤ mark.processed ∧
      (0 < total → mark.processed ≤ total)) ∧
    (∀ mark ∈ marks events, (0 ≤ mark.percentage ∧ mark.percentage ≤ 100) ∧
      (mark.percentage = 100 → mark.processed = total ∧ 0 < total)) ∧
    ((marks events).map Mark.percentage).Pairwise (· ≤ ·) := by
  intro total events
  have heard : ((new duration).serveAll requests).2.Heard events :=
    (heard_new duration).serveAll requests
  have fits : ∀ mark ∈ marks events, mark.Fits total := by
    intro mark told
    have fits := heard.fits mark told
    rwa [total_serveAll] at fits
  refine ⟨⟨terminalCount_le_one heard.ends, heard.ends⟩, heard.terminated_iff, ?_, ?_, ?_,
    heard.rising⟩
  · rintro times outcome rest rfl
    exact serveAll_completes rfl times outcome rest
  · intro mark told
    exact ⟨(fits mark told).total_eq, (fits mark told).nonneg, (fits mark told).within⟩
  · intro mark told
    exact ⟨(fits mark told).percentage_bounds, (fits mark told).done⟩

end Reporter

end Recode.Progress
