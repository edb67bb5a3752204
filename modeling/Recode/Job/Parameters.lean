import Recode.Container.Metadata
import Recode.Device.Platform
import Recode.Job.Options

/-!
The parameters of the output. Dimensions that the user leaves open are rounded up to standard sizes,
the bitrate follows from the dimensions, and the turn of the source is divided between the drawing
of its frames and the destination's container, as far as the platform can do either.
-/

namespace Recode.Job
open Recode.Media Recode.Container Recode.Device

def standardWidths : List Nat := [320, 352, 480, 640, 768, 800, 854, 1024, 1152, 1280]

def standardHeights : List Nat :=
  [200, 288, 320, 360, 480, 576, 600, 720, 768, 800, 854, 864, 900, 960, 1024]

def defaultBitrate : Nat := 4000000

/-- The first size of the table that is large enough, or else its last. -/
def roundToStandard (value : Nat) (table : List Nat) : Nat :=
  (table.find? (value ≤ ·)).getD (table.getLast?.getD value)

def standardWidth (width : Nat) : Nat := roundToStandard width standardWidths
def standardHeight (height : Nat) : Nat := roundToStandard height standardHeights

/-- A well-known width or height decides; the larger format goes first. -/
def bitrateFor (width height : Nat) : Nat :=
  if width = 1920 ∨ height = 1080 then 7500000
  else if width = 1280 ∨ height = 720 then 5500000
  else if width = 640 ∨ height = 480 then 1500000
  else if width = 320 ∨ height = 240 then 400000
  else defaultBitrate

/-- The size of the drawn frames, the turn with which they are drawn, and the turn that is left to
the container. -/
structure Orientation where
  width : Nat
  height : Nat
  containerRotation : Rotation
  renderRotation : Rotation
  deriving DecidableEq, Repr, Inhabited

/-- Platforms that draw turned frames turn them upright. On those without surface input an upright
target that differs from the source in both dimensions is drawn lying on its side. -/
def orient (source target : Nat × Nat) (rotation : Rotation) (platform : Platform) : Orientation :=
  let (width, height) := target
  if !platform.supportsSurfaceInput then
    if width < height ∧ width ≠ source.1 ∧ height ≠ source.2 then ⟨height, width, .deg90, .deg270⟩
    else ⟨width, height, rotation, .deg0⟩
  else if !platform.rendersRotation then ⟨width, height, rotation, .deg0⟩
  else
    match rotation with
    | .deg0 => ⟨width, height, .deg0, .deg0⟩
    | .deg90 => ⟨height, width, .deg0, .deg270⟩
    | .deg180 => ⟨width, height, .deg0, .deg180⟩
    | .deg270 => ⟨height, width, .deg0, .deg90⟩

structure Parameters where
  width : Nat
  height : Nat
  bitrate : Nat
  containerRotation : Rotation
  renderRotation : Rotation
  /-- Whether the frames are drawn and encoded anew, and not copied. -/
  transcode : Bool
  deriving DecidableEq, Repr, Inhabited

namespace Parameters

def resolve (options : Options) (source : Metadata) (platform : Platform) :
    Except Error Parameters :=
  let width := options.width.getD (standardWidth source.width)
  let height := options.height.getD (standardHeight source.height)
  if width = 0 ∨ height = 0 then
    .error (.invalidParameter s!"target resolution {width}x{height} is empty")
  else
    let drawn := orient (source.width, source.height) (width, height) source.rotation platform
    .ok {
      width := drawn.width
      height := drawn.height
      bitrate := options.bitrate.getD (bitrateFor width height)
      containerRotation := drawn.containerRotation
      renderRotation := drawn.renderRotation
      transcode := drawn.width != source.width || drawn.height != source.height }

end Parameters

end Recode.Job
