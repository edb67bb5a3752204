import Recode.Container.Source
import Recode.Simulation.Encoder

/-! Made-up source movies with a video track and, if wanted, an audio track beside it. -/

namespace Recode.Simulation
open Recode.Media Recode.Container

structure MovieSpec where
  width : Nat := 64
  height : Nat := 48
  rotation : Option Rotation := none
  frameCount : Nat := 30
  frameInterval : Int := 33333
  /-- Frames from one key frame to the next; with zero all are key frames. -/
  keyFrameInterval : Nat := 10
  audio : Bool := true
  audioInterval : Int := 23220
  deriving DecidableEq, Repr, Inhabited

namespace MovieSpec

def duration (spec : MovieSpec) : Int := spec.frameCount * spec.frameInterval

def frame (spec : MovieSpec) (number : Nat) : Sample :=
  let isKey := spec.keyFrameInterval = 0 ∨ number % spec.keyFrameInterval = 0
  { track := 0
    time := number * spec.frameInterval
    flags := if isKey then .keyFrame else .none
    data := #[0, 0, 0, 1, if isKey then 0x65 else 0x41] ++ bigEndian 4 number }

def audioSample (spec : MovieSpec) (number : Nat) : Sample :=
  ⟨1, number * spec.audioInterval, .keyFrame, bigEndian 4 number⟩

/-- Audio samples begin before the end of the movie, so the last may reach past it. -/
def audioCount (spec : MovieSpec) : Nat :=
  ((spec.duration + spec.audioInterval - 1) / spec.audioInterval).toNat

def hasAudio (spec : MovieSpec) : Bool := spec.audio && decide (0 < spec.audioInterval)

def samples (spec : MovieSpec) : List Sample :=
  (List.range spec.frameCount).map spec.frame
    ++ if spec.hasAudio then (List.range spec.audioCount).map spec.audioSample else []

def source (spec : MovieSpec) : Source :=
  let duration := some spec.duration
  let video := ({} : Source).addTrack
    { Format.video videoAvc spec.width spec.height with duration, rotation := spec.rotation }
  let tracks :=
    if spec.hasAudio then video.addTrack { Format.audio audioAac 44100 2 with duration } else video
  (tracks.addSamples spec.samples).1

end MovieSpec

end Recode.Simulation
