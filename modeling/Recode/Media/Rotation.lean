/-! Quarter turns, counted clockwise. -/

namespace Recode.Media

inductive Rotation where
  | deg0
  | deg90
  | deg180
  | deg270
  deriving DecidableEq, Repr, Inhabited

namespace Rotation

def degrees : Rotation → Nat
  | .deg0 => 0
  | .deg90 => 90
  | .deg180 => 180
  | .deg270 => 270

/-- Any whole number of degrees is taken modulo a full turn; only quarter turns are rotations. -/
def ofDegrees? (degrees : Int) : Option Rotation :=
  match degrees % 360 with
  | 0 => some .deg0
  | 90 => some .deg90
  | 180 => some .deg180
  | 270 => some .deg270
  | _ => none

def swapsDimensions : Rotation → Bool
  | .deg90 | .deg270 => true
  | .deg0 | .deg180 => false

theorem ofDegrees?_degrees (rotation : Rotation) :
    ofDegrees? rotation.degrees = some rotation := by
  cases rotation <;> rfl

end Rotation

end Recode.Media
