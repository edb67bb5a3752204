import Recode.Error
import Recode.Picture.Image

/-!
Drawing a picture turned and scaled. Every pixel of the output takes the colour of the one source
pixel under its upper left corner, so enlarging repeats pixels and reducing leaves some out.
-/

namespace Recode.Picture
open Recode.Media

def turnedSize (rotation : Rotation) (width height : Nat) : Nat × Nat :=
  if rotation.swapsDimensions then (height, width) else (width, height)

/-- The place, in a picture of the given size, of the pixel that the turn brings to column `x` and
row `y`. -/
def unturned (rotation : Rotation) (width height x y : Nat) : Nat × Nat :=
  match rotation with
  | .deg0 => (x, y)
  | .deg90 => (y, height - 1 - x)
  | .deg180 => (width - 1 - x, height - 1 - y)
  | .deg270 => (width - 1 - y, x)

/-- The source pixel, counted from the upper left, for column `x` and row `y` of an output of the
given size. -/
def sourcePixel (image : Image) (rotation : Rotation) (width height x y : Nat) : Nat :=
  let (turnedWidth, turnedHeight) := turnedSize rotation image.width image.height
  let (column, row) := unturned rotation image.width image.height
    (x * turnedWidth / width) (y * turnedHeight / height)
  row * image.width + column

def drawnPixels (image : Image) (width height : Nat) (rotation : Rotation) : Bytes :=
  Array.ofFn (n := 4 * (width * height)) fun i =>
    let pixel := i.val / 4
    let source := sourcePixel image rotation width height (pixel % width) (pixel / width)
    image.pixels.getD (4 * source + i.val % 4) 0

theorem size_drawnPixels (image : Image) (width height : Nat) (rotation : Rotation) :
    (drawnPixels image width height rotation).size = 4 * (width * height) := by
  unfold drawnPixels
  exact Array.size_ofFn

/-- A picture can be drawn if it is not empty and holds all of its pixels. -/
def Image.isWhole (image : Image) : Bool :=
  0 < image.width && 0 < image.height && 4 * (image.width * image.height) ≤ image.pixels.size

def draw (image : Image) (width height : Nat) (rotation : Rotation) : Except Error Frame :=
  if image.isWhole then .ok ⟨width, height, drawnPixels image width height rotation⟩
  else .error (CodecError.surface
    s!"decoded image {image.width}x{image.height} holds {image.pixels.size} bytes")

end Recode.Picture
