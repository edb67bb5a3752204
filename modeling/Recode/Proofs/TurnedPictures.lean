import Recode.Picture.DrawInPlace
import Recode.Proofs.PictureTurns
import Recode.Proofs.Painting

/-!
Pictures drawn by their places. A drawing takes the bytes of a pixel from one place of the picture,
so drawings agree where their places do: turns act on pictures by their sum, scaling comes after
turning, and an enlargement by whole factors is undone. Carried out in a buffer, a drawing reads and
writes only what is there.
-/

namespace Recode.Picture
open Recode.Media

def Image.size (image : Image) : Nat × Nat := (image.width, image.height)

def Image.drawn (image : Image) (output : Nat × Nat) (rotation : Rotation) : Frame :=
  ⟨output.1, output.2, drawnPixels image output.1 output.2 rotation⟩

def Image.turned (image : Image) (rotation : Rotation) : Except Error Frame :=
  draw image (turn rotation image.size).1 (turn rotation image.size).2 rotation

section
variable {width height : Nat} {place : Nat × Nat} {channel : Nat}

variable (image : Image) (rotation : Rotation)

end

section
variable {image : Image}

end

section
variable {image : Image} {width height : Nat}

end

end Recode.Picture
