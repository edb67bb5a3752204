/-!
Pixel layouts that encoders advertise, with the integer codes under which devices know them.
-/

namespace Recode.Media

inductive ColorFormat where
  | yuv420Planar
  | yuv420PackedPlanar
  | yuv420SemiPlanar
  | yuv420PackedSemiPlanar
  | tiYuv420PackedSemiPlanar
  | surface
  | other (code : Int)
  deriving DecidableEq, Repr, Inhabited

namespace ColorFormat

def code : ColorFormat → Int
  | .yuv420Planar => 19
  | .yuv420PackedPlanar => 20
  | .yuv420SemiPlanar => 21
  | .yuv420PackedSemiPlanar => 39
  | .tiYuv420PackedSemiPlanar => 0x7f000100
  | .surface => 0x7f000789
  | .other code => code

def ofCode (code : Int) : ColorFormat :=
  if code = 19 then .yuv420Planar
  else if code = 20 then .yuv420PackedPlanar
  else if code = 21 then .yuv420SemiPlanar
  else if code = 39 then .yuv420PackedSemiPlanar
  else if code = 0x7f000100 then .tiYuv420PackedSemiPlanar
  else if code = 0x7f000789 then .surface
  else .other code

/-- Chroma lies in two planes of its own. -/
def isPlanar : ColorFormat → Bool
  | .yuv420Planar | .yuv420PackedPlanar => true
  | _ => false

/-- Chroma lies in one plane, its two components byte by byte in turn. -/
def isSemiPlanar : ColorFormat → Bool
  | .yuv420SemiPlanar | .yuv420PackedSemiPlanar | .tiYuv420PackedSemiPlanar => true
  | _ => false

def name : ColorFormat → String
  | .yuv420Planar => "YUV420Planar"
  | .yuv420PackedPlanar => "YUV420PackedPlanar"
  | .yuv420SemiPlanar => "YUV420SemiPlanar"
  | .yuv420PackedSemiPlanar => "YUV420PackedSemiPlanar"
  | .tiYuv420PackedSemiPlanar => "TI_YUV420PackedSemiPlanar"
  | .surface => "Surface"
  | .other code => s!"ColorFormat({code})"

theorem code_ofCode (code : Int) : (ofCode code).code = code := by
  unfold ofCode
  repeat' split
  all_goals simp_all [ColorFormat.code]

end ColorFormat

end Recode.Media
