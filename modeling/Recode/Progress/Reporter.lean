import Recode.Error
import Recode.Progress.Event

/-!
The reporter stands between a job and its listener. Whatever the job reports, the listener sees
progress within the total and at most one terminal event, which is the last.

Each operation answers the events to deliver and the reporter that has delivered them.
-/

namespace Recode.Progress

structure Reporter where
  total : Int
  processed : Int
  terminated : Bool
  deriving DecidableEq, Repr, Inhabited

namespace Reporter

/-- A negative duration is unknown and counts as zero. -/
def new (duration : Int) : Reporter := ⟨max duration 0, 0, false⟩

/-- Where progress stands after a report of `processed`: never behind the last report, and never
past a known total. -/
def advance (reporter : Reporter) (processed : Int) : Int :=
  let reached := max processed reporter.processed
  if 0 < reporter.total then min reached reporter.total else reached

def report (reporter : Reporter) (processed : Int) : List Event × Reporter :=
  if reporter.terminated then ([], reporter) else
    let reached := reporter.advance processed
    ([.progress ⟨reached, reporter.total⟩], { reporter with processed := reached })

/-- Completion is preceded by one last progress at the total. -/
def complete (reporter : Reporter) (outcome : Outcome) : List Event × Reporter :=
  if reporter.terminated then ([], reporter) else
    ([.progress ⟨reporter.total, reporter.total⟩, .completed outcome],
      { reporter with processed := reporter.total, terminated := true })

def fail (reporter : Reporter) (error : Error) : List Event × Reporter :=
  if reporter.terminated then ([], reporter) else
    ([.failed error.message], { reporter with terminated := true })

def describe (reporter : Reporter) : String :=
  s!"ProgressReporter \x7b total_duration_us: {reporter.total}, "
    ++ s!"last_processed_us: {reporter.processed}, terminated: {reporter.terminated} \x7d"

end Reporter

inductive Request where
  | report (processed : Int)
  | complete (outcome : Outcome)
  | fail (error : Error)
  deriving DecidableEq, Repr

def Reporter.serve (reporter : Reporter) : Request → List Event × Reporter
  | .report processed => reporter.report processed
  | .complete outcome => reporter.complete outcome
  | .fail error => reporter.fail error

def Reporter.serveAll (reporter : Reporter) : List Request → List Event × Reporter
  | [] => ([], reporter)
  | request :: rest =>
      let (events, next) := reporter.serve request
      let (later, last) := next.serveAll rest
      (events ++ later, last)

end Recode.Progress
