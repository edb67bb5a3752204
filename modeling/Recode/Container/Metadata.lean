import Recode.Media.Rotation

/-! What has to be known of a source before its compression can be planned. -/

namespace Recode.Container
open Recode.Media

/-- The duration is in microseconds; zero and less mean that it is unknown. -/
structure Metadata where
  width : Nat
  height : Nat
  rotation : Rotation := .deg0
  duration : Int := 0
  deriving DecidableEq, Repr, Inhabited

end Recode.Container
