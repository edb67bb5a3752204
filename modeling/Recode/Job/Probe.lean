import Recode.Container.Metadata
import Recode.Session.World

/-! Looking into a source container. -/

namespace Recode.Job
open Recode.Media Recode.Container Recode.Session
open Recode.Session.Work

variable {σ : Type}

def firstTrackOf (isAudio : Bool) : List Nat → Work σ (Option Nat)
  | [] => return none
  | index :: rest => do
      match ← storage (.trackFormat index) with
      | .ok format => if format.isKind isAudio then return some index else firstTrackOf isAudio rest
      | .error _ => firstTrackOf isAudio rest

/-- The first track of the kind; a track whose format cannot be told is passed over. -/
def findTrack (isAudio : Bool) : Work σ (Option Nat) := do
  firstTrackOf isAudio (List.range (← storage .trackCount))

def videoTrack (path : Path) : Work σ Nat := do
  match ← findTrack false with
  | some index => return index
  | none => fail (.unreadableSource s!"{path} has no video track")

def metadataOf (path : Path) : Work σ Metadata := do
  let format ← settle (← storage (.trackFormat (← videoTrack path)))
  match format.width, format.height with
  | some width, some height =>
      return ⟨width, height, format.rotation.getD .deg0, format.duration.getD 0⟩
  | none, _ => fail (ContainerError.missingKey "width")
  | some _, none => fail (ContainerError.missingKey "height")

/-- Opens the source only to look at it, and releases it whether or not it can be read. -/
def probeContainer (path : Path) : Work σ Metadata := do
  settle (← storage (.openSource path))
  let result ← outcome (metadataOf path)
  storage .releaseDemuxer
  settle result

end Recode.Job
