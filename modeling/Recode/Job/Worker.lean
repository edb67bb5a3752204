import Recode.Job.Compression

/-!
A compression that runs on its own. Whoever waits for it gets a result even if a collaborator breaks
down, and the listener then is told of a failure unless it already knows how the work ended.
-/

namespace Recode.Job
open Recode.Progress Recode.Session
open Recode.Session.Work

def panicText : Panic → String
  | .saying text => text
  | .wordless => "unknown panic"

/-- The last event for a listener who would otherwise wait for one. -/
def abandoned : Event := .failed (Error.workerPanicked "job ended without a result").message

/-- Runs the compression and catches the breakdown of a collaborator, which becomes its error. -/
def compress {σ : Type} (job : Compression σ) (world : World σ) (desk : Desk σ) :
    Except Stop Report × Desk σ :=
  match job.run.run world desk with
  | (.error (.panicked panic), desk) =>
      let desk :=
        if desk.announced then desk else ((deliver abandoned).run world desk).2
      (.error (.failed (.workerPanicked (panicText panic))), desk)
  | result => result

end Recode.Job
