import Recode.Session.World
import Recode.Session.Window

/-!
Copying the samples of one track as they are. A copy starts at the sample at which decoding of the
window can start, and ends before the first sample at or past the window's end.
-/

namespace Recode.Session
open Recode.Media Recode.Container Recode.Progress
open Recode.Session.Work

structure CopyOutcome where
  destination : Nat
  firstTime : Option Int := none
  written : Nat := 0
  deriving DecidableEq, Repr, Inhabited

structure CopyStanding extends CopyOutcome where
  /-- The one buffer into which all samples are read. -/
  buffer : Bytes
  deriving DecidableEq, Repr, Inhabited

/-- The copy once data has been read into its buffer. -/
def CopyStanding.holding (copying : CopyStanding) (data : Bytes) : CopyStanding :=
  { copying with buffer := overlay data copying.buffer }

/-- One copy: from which track, into which track of the destination, and how much of it. -/
structure CopyPlan where
  track : Track
  destination : Nat
  window : Window
  /-- The size of the buffer for the samples. -/
  room : Nat
  /-- Whether written samples are reported as progress. -/
  reporting : Bool
  deriving DecidableEq, Repr, Inhabited

namespace CopyPlan
variable {σ : Type}

/-- Writes the sample at the start of the buffer. -/
def store (plan : CopyPlan) (copying : CopyStanding) (size : Nat) (time : Int) :
    Work σ CopyStanding := do
  let info : SampleInfo := ⟨size, 0, time, ← storage .currentFlags⟩
  if ← settle (← storage (.write plan.destination copying.buffer info plan.track.isAudio)) then
    if plan.reporting then tell (.report time)
    return { copying with
      firstTime := copying.firstTime.or (some time), written := copying.written + 1 }
  else return copying

/-- One round: how the copy stands after it, and whether there may be more to copy. -/
def round (plan : CopyPlan) (copying : CopyStanding) : Work σ (CopyStanding × Bool) := do
  checkCancelled
  match ← storage .currentTrack with
  | none => return (copying, false)
  | some index =>
      if index ≠ plan.track.index then return (copying, ← storage .advance)
      match ← settle (← storage (.read plan.room)) with
      | none => return (copying, false)
      | some data =>
          let copying := copying.holding data
          let time := (← storage .currentTime).getD 0
          if plan.window.hasEnded time then return (copying, false)
          let copying ← plan.store copying data.size time
          return (copying, ← storage .advance)

def rounds (plan : CopyPlan) : Nat → CopyStanding → Work σ CopyStanding
  | 0, _ => throw .stalled
  | limit + 1, copying => do
      let (copying, more) ← plan.round copying
      if more then plan.rounds limit copying else return copying

def start (plan : CopyPlan) : CopyStanding :=
  { destination := plan.destination, buffer := .replicate plan.room 0 }

def run (plan : CopyPlan) : Work σ CopyOutcome := do
  settle (← storage (.seek plan.window.seekTarget .previousSync))
  let copied ← plan.rounds (← patience) plan.start
  return copied.toCopyOutcome

end CopyPlan

/-- The destination has a track for the copy even if the window holds no samples, and the source
track is unselected also if the copy fails. -/
def copyTrack {σ : Type} (track : Track) (window : Window) (reporting : Bool) :
    Work σ CopyOutcome := do
  let destination ← settle (← storage (.addTrack track.format track.isAudio))
  match track.format.maxInputSize with
  | none => fail (ContainerError.missingKey "max-input-size")
  | some room =>
      settle (← storage (.select track.index))
      let result ← outcome (CopyPlan.run ⟨track, destination, window, room, reporting⟩)
      let _ ← storage (.unselect track.index)
      settle result

end Recode.Session
