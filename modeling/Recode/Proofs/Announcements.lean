import Mathlib.Control.Monad.Basic
import Recode.Proofs.JobConduct
import Recode.Simulation.Rig

/-!
What the listener of a compression hears. Nothing is told before the source is known to be readable,
and nothing but progress until the job knows how it came out; so whichever of the many ways a
compression takes to its end, there is one terminal event, it is the last, and it says what the job
returns.
-/

namespace Recode.Progress

theorem Reporter.serve_new (duration : Int) :
    (Reporter.new duration).serve (.report 0) =
      ([.progress ⟨0, max duration 0⟩], .new duration) := by
  have still : (Reporter.new duration).advance 0 = 0 := by
    unfold Reporter.advance Reporter.new
    dsimp only
    split <;> omega
  unfold Reporter.serve Reporter.report
  dsimp only
  rw [still]
  rfl

end Recode.Progress

namespace Recode.Session
open Recode.Progress
open Recode.Session.Work

def Exchange.heard? : Exchange → Option Event
  | ⟨.client (.deliver event), .ok ()⟩ => some event
  | _ => none

def History.heard (history : History) : List Event := history.reverse.filterMap Exchange.heard?

theorem History.heard_cons (exchange : Exchange) (history : History) :
    heard (exchange :: history) = heard history ++ exchange.heard?.toList := by
  cases found : exchange.heard? with
  | none => simp [heard, found]
  | some event => simp [heard, found]

theorem Exchange.heard?_of_silent {call : Call} (silent : call.IsSilent) (reply : call.Reply) :
    heard? ⟨call, reply⟩ = none := by
  unfold heard?
  split
  next event same =>
    cases same
    exact silent.elim
  next other => rfl

def Desk.heard {σ : Type} (desk : Desk (History × σ)) : List Event := desk.outside.1.heard

section
variable {σ : Type} {world : World σ} {desk : Desk (History × σ)}

theorem heard_ask (world : World σ) (desk : Desk (History × σ)) (call : Call) :
    ((ask call).run world.recorded desk).2.heard =
      desk.heard ++ (Exchange.heard? ⟨call, (world.answer call desk.outside.2).1⟩).toList :=
  History.heard_cons _ _

theorem ask_keeps_heard {call : Call} (silent : call.IsSilent) (events : List Event) :
    (ask call).Keeps world.recorded fun desk : Desk (History × σ) => desk.heard = events := by
  intro desk same
  rw [heard_ask, Exchange.heard?_of_silent silent, same]
  exact List.append_nil _

/-- A listener takes an event, or breaks down on it and then has not heard it. -/
theorem deliver_heard (world : World σ) (desk : Desk (History × σ)) (event : Event) :
    ∃ result left, (deliver event).run world.recorded desk = (result, left) ∧
      left.reporter = desk.reporter ∧
      ((result = .ok () ∧ left.heard = desk.heard ++ [event]) ∨
        (∃ panic, result = .error (.panicked panic)) ∧ left.heard = desk.heard) := by
  have heard := heard_ask world desk (.client (.deliver event))
  obtain ⟨reply, answered⟩ :
      ∃ reply, (world.answer (.client (.deliver event)) desk.outside.2).1 = reply := ⟨_, rfl⟩
  rw [answered] at heard
  refine ⟨_, _, run_deliver world.recorded desk event, rfl, ?_⟩
  cases reply with
  | ok _ => exact .inl ⟨congrArg (Except.mapError Stop.panicked) answered, heard⟩
  | error panic =>
    exact .inr ⟨⟨panic, congrArg (Except.mapError Stop.panicked) answered⟩,
      heard.trans (List.append_nil _)⟩

theorem deliver_returns (event : Event) :
    (deliver event).Returns world.recorded desk
      (fun _ left => left.reporter = desk.reporter ∧ left.heard = desk.heard ++ [event])
      fun _ _ => False := by
  obtain ⟨result, left, ran, same, ⟨rfl, heard⟩ | ⟨⟨panic, rfl⟩, -⟩⟩ :=
    deliver_heard world desk event
  · unfold Returns
    rw [ran]
    exact ⟨same, heard⟩
  · unfold Returns
    rw [ran]
    trivial

theorem forM_deliver_returns (events : List Event) :
    (events.forM deliver).Returns world.recorded desk
      (fun _ left => left.reporter = desk.reporter ∧ left.heard = desk.heard ++ events)
      fun _ _ => False := by
  induction events generalizing desk with
  | nil => exact returns_pure ⟨rfl, (List.append_nil _).symm⟩
  | cons event rest ih =>
    refine returns_bind ((deliver_returns event).imp ?_ fun _ _ never => never)
    intro _ told held
    refine ih.imp ?_ fun _ _ never => never
    intro _ left ends
    refine ⟨ends.1.trans held.1, ?_⟩
    rw [ends.2, held.2, List.append_assoc]
    rfl

theorem tell_returns {reporter : Reporter} (has : desk.reporter = some reporter)
    (request : Request) :
    (tell request).Returns world.recorded desk
      (fun _ left => left.reporter = some (reporter.serve request).2 ∧
        left.heard = desk.heard ++ (reporter.serve request).1)
      fun _ _ => False := by
  unfold Returns
  rw [run_tell has]
  exact forM_deliver_returns _

def Underway (total : Int) (events : List Event) : Prop :=
  ∃ marks : List Mark, (∀ mark ∈ marks, mark.total = total) ∧
    events = .progress ⟨0, total⟩ :: marks.map .progress

theorem Underway.begin (total : Int) : Underway total [.progress ⟨0, total⟩] := ⟨[], nofun, rfl⟩

theorem Underway.append {total : Int} {events : List Event} (underway : Underway total events)
    {mark : Mark} (same : mark.total = total) : Underway total (events ++ [.progress mark]) := by
  obtain ⟨marks, totals, rfl⟩ := underway
  refine ⟨marks ++ [mark], ?_, by simp⟩
  intro other member
  rcases List.mem_append.mp member with earlier | latest
  · exact totals other earlier
  · rwa [List.mem_singleton.mp latest]

/-- The listener has a reporter that has not ended, and has heard of nothing but progress. -/
structure Listening (total : Int) (desk : Desk (History × σ)) : Prop where
  reporter : ∃ processed, desk.reporter = some ⟨total, processed, false⟩
  heard : Underway total desk.heard

theorem report_keeps_listening (total time : Int) :
    (Work.tell (.report time) : Work (History × σ) Unit).Keeps world.recorded (Listening total) := by
  intro desk listening
  obtain ⟨processed, has⟩ := listening.reporter
  let reached := Reporter.advance ⟨total, processed, false⟩ time
  let reporting : Desk (History × σ) := { desk with reporter := some ⟨total, reached, false⟩ }
  have told : (Work.tell (.report time)).run world.recorded desk =
      (deliver (.progress ⟨reached, total⟩) >>= fun _ => pure ()).run world.recorded reporting :=
    run_tell has _
  rw [told]
  obtain ⟨result, left, ran, same, ⟨rfl, heard⟩ | ⟨⟨panic, rfl⟩, heard⟩⟩ :=
    deliver_heard world reporting (.progress ⟨reached, total⟩)
  · rw [run_after ran]
    exact ⟨⟨reached, same⟩, heard ▸ listening.heard.append rfl⟩
  · rw [run_bind, ran]
    exact ⟨⟨reached, same⟩, heard ▸ listening.heard⟩

end

end Recode.Session

namespace Recode.Job
open Recode.Media Recode.Container Recode.Device Recode.Progress Recode.Session
open Recode.Session.Work

namespace Compression
variable {σ : Type} {job : Compression (History × σ)} {world : World σ} {desk : Desk (History × σ)}

theorem prepare_keeps_quiet (looks : ∀ path, (job.probe path).Uses Call.IsLook)
    (events : List Event) :
    job.prepare.Keeps world.recorded fun desk => desk.heard = events := by
  refine (prepare_uses looks).keeps ?_ fun allowed => absurd (allowed (.failed "")) id
  exact fun call _ silent => ask_keeps_heard silent events

theorem execute_keeps_listening (source : Metadata) (total : Int) :
    (job.execute source).Keeps world.recorded (Listening total) := by
  refine execute_uses.keeps ?_ fun _ time => report_keeps_listening total time
  intro call _ silent desk listening
  refine ⟨listening.reporter, ?_⟩
  rw [ask_keeps_heard silent desk.heard desk rfl]
  exact listening.heard

theorem abort_returns {α : Type} {total processed : Int}
    (has : desk.reporter = some ⟨total, processed, false⟩) (error : Error) :
    (abort error : Work (History × σ) α).Returns world.recorded desk (fun _ _ => False)
      fun told left => told = error ∧ left.heard = desk.heard ++ [.failed error.message] :=
  returns_bind <| (tell_returns has (.fail error)).imp (fun _ _ held => returns_fail ⟨rfl, held.2⟩)
    fun _ _ never => never.elim

theorem conclude_returns {total processed : Int}
    (has : desk.reporter = some ⟨total, processed, false⟩) (source : Metadata)
    (parameters : Parameters) (tracks : TrackSummary) :
    (job.conclude source parameters tracks).Returns world.recorded desk
      (fun report left => left.heard =
        desk.heard ++ [.progress ⟨total, total⟩, .completed report.outcome])
      fun _ _ => False := by
  unfold conclude
  generalize (if tracks.videoSamples = 0 then Outcome.emptyResult else .completed) = outcome
  refine returns_bind ((tell_returns has (.complete outcome)).imp ?_ fun _ _ never => never)
  intro _ left told
  dsimp only
  split
  next removes =>
    refine returns_ask (returns_pure ?_)
    have silent : (Call.client (.removeFile job.source)).IsSilent := trivial
    exact (ask_keeps_heard silent left.heard left rfl).trans told.2
  next keeps => exact returns_bind (returns_pure (returns_pure told.2))

/-- The event that says what a job returns. -/
def verdict : Except Error Report → Event
  | .ok report => .completed report.outcome
  | .error error => .failed error.message

def ending (total : Int) (answer : Except Error Report) : List Event :=
  match answer with
  | .ok _ => [.progress ⟨total, total⟩, verdict answer]
  | .error _ => [verdict answer]

def Announced (answer : Except Error Report) (events : List Event) :
    Except Stop Metadata → Prop
  | .ok source =>
      let total := max source.duration 0
      ∃ before, Underway total before ∧ events = before ++ ending total answer
  | .error stop => ∃ error, stop = .failed error ∧ answer = .error error ∧ events = [verdict answer]

/-- Once the source is known, the listener hears of progress from nothing on, and then of the end. -/
theorem listening_returns {source : Metadata}
    (has : desk.reporter = some (.new source.duration)) (unheard : desk.heard = []) :
    (Work.tell (.report 0) >>= fun _ => outcome (job.execute source) >>= fun
      | .error error => abort error
      | .ok (parameters, tracks) => job.conclude source parameters tracks).Returns world.recorded desk
      (fun report left => Announced (.ok report) left.heard (.ok source))
      fun error left => Announced (.error error) left.heard (.ok source) := by
  refine returns_bind ((tell_returns has (.report 0)).imp ?_ fun _ _ never => never.elim)
  rw [Reporter.serve_new, unheard]
  intro _ left told
  let total := max source.duration 0
  have listening : Listening total left := ⟨⟨0, told.1⟩, told.2 ▸ Underway.begin total⟩
  have keeps : (job.execute source).Keeps world.recorded (Listening total) :=
    execute_keeps_listening source total
  refine returns_bind (returns_outcome ((keeps.returns listening).imp ?_ ?_))
  · intro result last listening
    obtain ⟨processed, has⟩ := listening.reporter
    refine (conclude_returns has source result.1 result.2).imp ?_ fun _ _ never => never.elim
    exact fun report final ends => ⟨_, listening.heard, ends⟩
  · intro error last listening
    obtain ⟨processed, has⟩ := listening.reporter
    refine (abort_returns has error).imp (fun _ _ never => never.elim) ?_
    rintro _ final ⟨rfl, ends⟩
    exact ⟨_, listening.heard, ends⟩

theorem run_announced (looks : ∀ path, (job.probe path).Uses Call.IsLook)
    (unheard : desk.heard = []) :
    job.run.Returns world.recorded desk
      (fun report left => Announced (.ok report) left.heard (job.prepare.run world.recorded desk).1)
      fun error left => Announced (.error error) left.heard (job.prepare.run world.recorded desk).1 := by
  have quiet := @prepare_keeps_quiet _ job world looks [] desk unheard
  unfold run
  rcases prepared : job.prepare.run world.recorded desk with ⟨(error | panic | _) | source, left⟩ <;>
    rw [prepared] at quiet
  · refine returns_after (run_outcome_error prepared) ?_
    have listened : (listen 0).run world.recorded left =
        (.ok (), { left with reporter := some (.new 0) }) := rfl
    refine returns_after listened ((abort_returns rfl error).imp (fun _ _ never => never.elim) ?_)
    rintro _ last ⟨rfl, told⟩
    refine ⟨_, rfl, rfl, told.trans ?_⟩
    exact congrArg (· ++ _) quiet
  · unfold Returns
    rw [run_bind, run_outcome, prepared]
    trivial
  · unfold Returns
    rw [run_bind, run_outcome, prepared]
    trivial
  · refine returns_after (run_outcome_ok prepared) ?_
    have listened : (listen source.duration).run world.recorded left =
        (.ok (), { left with reporter := some (.new source.duration) }) := rfl
    exact returns_after listened (listening_returns rfl quiet)

section
variable {answer : Except Error Report} {events : List Event} {prepared : Except Stop Metadata}

/-- Nothing ends a stream but the verdict, which is its last event. -/
theorem Announced.verdict_last (announced : Announced answer events prepared) :
    ∃ earlier, events = earlier ++ [verdict answer] ∧
      ∀ event ∈ earlier, event.isTerminal = false := by
  cases prepared with
  | error stop =>
    obtain ⟨error, -, -, rfl⟩ := announced
    exact ⟨[], rfl, nofun⟩
  | ok source =>
    obtain ⟨before, ⟨marks, -, rfl⟩, rfl⟩ := announced
    have underway (event : Event) (member : event ∈ Event.progress ⟨0, max source.duration 0⟩ ::
        marks.map .progress) : event.isTerminal = false := by
      rcases List.mem_cons.mp member with rfl | later
      · rfl
      · obtain ⟨mark, -, rfl⟩ := List.mem_map.mp later
        rfl
    cases answer with
    | error error => exact ⟨_, rfl, underway⟩
    | ok report =>
      refine ⟨_ ++ [.progress ⟨_, _⟩], (List.append_assoc _ [_] [_]).symm, fun event member => ?_⟩
      rcases List.mem_append.mp member with earlier | latest
      · exact underway event earlier
      · rw [List.mem_singleton.mp latest]
        rfl

theorem Announced.mem_iff (announced : Announced answer events prepared) {event : Event}
    (terminal : event.isTerminal = true) : event ∈ events ↔ event = verdict answer := by
  obtain ⟨earlier, rfl, underway⟩ := announced.verdict_last
  rw [List.mem_append, List.mem_singleton, or_iff_right]
  intro member
  exact absurd (underway event member) (by simp [terminal])

theorem Announced.terminalCount (announced : Announced answer events prepared) :
    terminalCount events = 1 := by
  obtain ⟨earlier, rfl, underway⟩ := announced.verdict_last
  have silent : earlier.countP Event.isTerminal = 0 :=
    List.countP_eq_zero.mpr fun event member => by simp [underway event member]
  have ends : [verdict answer].countP Event.isTerminal = 1 := by cases answer <;> rfl
  rw [Progress.terminalCount, List.countP_append, silent, ends]

theorem Announced.progress {source : Metadata} (announced : Announced answer events (.ok source)) :
    let total := max source.duration 0
    events.head? = some (.progress ⟨0, total⟩) ∧
      (∀ mark ∈ marks events, mark.total = total) ∧
      ∀ report, answer = .ok report →
        [.progress ⟨total, total⟩, .completed report.outcome] <:+ events := by
  intro total
  obtain ⟨before, ⟨passed, totals, rfl⟩, rfl⟩ := announced
  have first : marks (.progress ⟨0, total⟩ :: passed.map .progress) = ⟨0, total⟩ :: passed := by
    simp [marks, Event.mark?, List.filterMap_map, Function.comp_def]
  have last (mark : Mark) (member : mark ∈ marks (ending total answer)) : mark.total = total := by
    cases answer with
    | error error => exact nomatch member
    | ok report => rw [List.mem_singleton.mp member]
  refine ⟨rfl, fun mark member => ?_, ?_⟩
  · rw [marks, List.filterMap_append, List.mem_append] at member
    rcases member with earlier | latest
    · change mark ∈ marks _ at earlier
      rw [first] at earlier
      rcases List.mem_cons.mp earlier with rfl | later
      · rfl
      · exact totals mark later
    · exact last mark latest
  · rintro report rfl
    exact List.suffix_append _ _

end

/-- A compression that returns has told its listener so: exactly one event is terminal, it is the
last, and it says what is returned. If the source could not be prepared, nothing else is told;
otherwise the progress goes from nothing on, always towards the duration of the source, which it
reaches if the job succeeds. -/
theorem run_announces (looks : ∀ path, (job.probe path).Uses Call.IsLook) {desk : Desk σ}
    {answer : Except Error Report} {history : History}
    (returned : (outcome job.run).records world desk = (.ok answer, history)) :
    terminalCount history.heard = 1 ∧ history.heard.getLast? = some (verdict answer) ∧
      (∀ outcome, .completed outcome ∈ history.heard ↔
        ∃ report, answer = .ok report ∧ report.outcome = outcome) ∧
      (∀ text, .failed text ∈ history.heard ↔
        ∃ error, answer = .error error ∧ error.message = text) ∧
      match (job.prepare.records world desk).1 with
      | .error _ => history.heard = [verdict answer]
      | .ok source =>
          let total := max source.duration 0
          history.heard.head? = some (.progress ⟨0, total⟩) ∧
            (∀ mark ∈ marks history.heard, mark.total = total) ∧
            ∀ report, answer = .ok report →
              [.progress ⟨total, total⟩, .completed report.outcome] <:+ history.heard := by
  let begun : Desk (History × σ) := { desk with outside := ([], desk.outside) }
  have returns : (outcome job.run).Returns world.recorded begun
      (fun answer left => Announced answer left.heard (job.prepare.run world.recorded begun).1)
      fun _ _ => False := returns_outcome (run_announced looks rfl)
  obtain ⟨left, ran, rfl⟩ :
      ∃ left, (outcome job.run).run world.recorded begun = (.ok answer, left) ∧
        left.outside.1 = history := by
    obtain ⟨same, ends⟩ := Prod.mk.inj returned
    exact ⟨_, Prod.ext same rfl, ends⟩
  have announced : Announced answer (History.heard left.outside.1) (job.prepare.records world desk).1 :=
    returns.of_ok ran
  refine ⟨announced.terminalCount, ?_, fun outcome => ?_, fun text => ?_, ?_⟩
  · obtain ⟨earlier, told, -⟩ := announced.verdict_last
    exact told ▸ List.getLast?_concat
  · rw [announced.mem_iff rfl]
    cases answer with
    | ok report => simp [verdict, eq_comm]
    | error error => simp [verdict]
  · rw [announced.mem_iff rfl]
    cases answer with
    | ok report => simp [verdict]
    | error error => simp [verdict, eq_comm]
  · cases prepared : (job.prepare.records world desk).1 with
    | error stop =>
      rw [prepared] at announced
      obtain ⟨error, -, -, told⟩ := announced
      exact told
    | ok source =>
      rw [prepared] at announced
      exact announced.progress

end Compression

/-- Where every path leads to a source that ends before the window begins, nothing is kept, and the
listener hears that. -/
theorem run_announces_past_end :
    let source := ({} : Source).addTrack { Format.video videoAvc 4 2 with duration := some 100000 }
    let rig : Simulation.Rig Simulation.Bench :=
      ⟨{ library := { demuxers := [{ source }] } }, { catalog := .new [] {} }, .new none none {}⟩
    let world : World (Simulation.Rig Simulation.Bench) :=
      { answer
          | .storage (.openSource _), rig | .client (.openFile _), rig => (.ok (), rig)
          | call, rig => (Simulation.Rig.world Simulation.Bench.answer 0).answer call rig
        patience := 0 }
    let job : Compression (History × Simulation.Rig Simulation.Bench) :=
      ⟨probeContainer, {}, "in", "out", { start := some 200000, stop := some 300000 }⟩
    ∃ report history, (outcome job.run).records world { outside := rig } = (.ok (.ok report), history) ∧
      terminalCount history.heard = 1 ∧ history.heard.getLast? = some (.completed report.outcome) := by
  intro source rig world job
  let report : Report :=
    ⟨⟨320, 200, 400000, .deg0, .deg0, true⟩, ⟨4, 2, .deg0, 100000⟩, {}, .emptyResult, false⟩
  have done : ((outcome job.run).records world { outside := rig }).1 = .ok (.ok report) := by
    decide +kernel
  obtain ⟨history, returned⟩ : ∃ history,
      (outcome job.run).records world { outside := rig } = (.ok (.ok report), history) :=
    ⟨_, Prod.ext done rfl⟩
  obtain ⟨once, last, -⟩ := Compression.run_announces (fun _ => probeContainer_uses) returned
  exact ⟨report, history, returned, once, last⟩

end Recode.Job
