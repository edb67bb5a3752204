import Recode.Job.Worker
import Recode.Session.Copy
import Recode.Session.Transcode
import Recode.Simulation.Rig
import Recode.Simulation.Scripted

/-!
Trials: work done in a simulated world, and all that can be seen of it afterwards. A copy or a
transcode is tried between one source and one destination that are already open; a compression opens
its own.
-/

namespace Recode.Simulation
open Recode.Container Recode.Job Recode.Media Recode.Progress Recode.Session

structure Trial (δ α : Type) where
  result : Except Stop α
  /-- Every call with its answer, in order, if they were written down. -/
  history : List Exchange := []
  /-- The world as the work left it. -/
  rig : Rig δ

namespace Trial

/-- Does the work in the rig's world; `recording` says whether the calls are written down. -/
def of {δ α : Type} (rig : Rig δ) (device : (call : DeviceCall) → δ → call.Reply × δ)
    (patience : Nat) (recording : Bool)
    (start : {σ : Type} → World σ → σ → Except Stop α × σ) : Trial δ α :=
  let world := Rig.world device patience
  if recording then
    let (result, history, rig) := start world.recorded ([], rig)
    ⟨result, history.reverse, rig⟩
  else
    let (result, rig) := start world rig
    ⟨result, [], rig⟩

def begin {σ α : Type} (work : Work σ α) (reporter : Option Reporter) (world : World σ)
    (outside : σ) : Except Stop α × σ :=
  let (result, desk) := work.run world { reporter, outside }
  (result, desk.outside)

/-- A copy of a track, which may be selected by someone else beforehand. -/
def copy (rig : Rig Bench) (reporter : Option Reporter) (selected : Option Nat) (track : Track)
    (window : Window) : Trial Bench CopyOutcome :=
  of rig Bench.answer (rig.patienceFor {}) true <| begin
    (do if let some index := selected then
          let _ ← Work.storage (.select index)
        copyTrack track window true)
    reporter

def transcode (rig : Rig Bench) (reporter : Option Reporter) (plan : TranscodePlan) :
    Trial Bench TranscodeOutcome :=
  of rig Bench.answer (rig.patienceFor rig.device.catalog.faults) false <|
    begin (Session.transcode plan) reporter

def scripted (rig : Rig ScriptedBench) (reporter : Option Reporter) (plan : TranscodePlan) :
    Trial ScriptedBench TranscodeOutcome :=
  of rig ScriptedBench.answer rig.device.patience true <|
    begin (Session.transcode plan) reporter

/-- A compression, done at once or by a worker. -/
def compression (rig : Rig Bench) (recording worker : Bool)
    (job : {σ : Type} → Compression σ) : Trial Bench Report :=
  of rig Bench.answer (rig.patienceFor rig.device.catalog.faults) recording fun world outside =>
    if worker then
      let (result, desk) := compress job world { outside }
      (result, desk.outside)
    else begin job.run none world outside

def probe (library : Library) (path : Path) : Trial Bench Metadata :=
  of ⟨{ library }, { catalog := .surface {} }, {}⟩ Bench.answer 0 false <|
    begin (probeContainer path) none

end Trial

def sessionPath : Path := "session"

def Storage.opened (storage : Storage) (source : Source) (settings : MovieSettings) : Storage :=
  let library := (storage.library.insert sessionPath source).createMovie sessionPath settings
  { storage with library := (library.openSource sessionPath).2 }

def Rig.movie? {δ : Type} (rig : Rig δ) : Option Movie := rig.storage.library.movie? sessionPath

end Recode.Simulation
