import Recode.Media.Format

/-! Pictures of four bytes a pixel: red, green, blue and opacity, row by row from the top. -/

namespace Recode.Picture
open Recode.Media

structure Image where
  width : Nat
  height : Nat
  time : Int
  pixels : Bytes
  deriving DecidableEq, Repr, Inhabited

structure Frame where
  width : Nat
  height : Nat
  pixels : Bytes
  deriving DecidableEq, Repr, Inhabited

def testPattern (width height : Nat) (seed : Int) : Bytes :=
  let shade := (seed % 200).toNat + 28
  Array.ofFn (n := 4 * (width * height)) fun i =>
    match i.val % 4 with
    | 0 => UInt8.ofNat shade
    | 1 => UInt8.ofNat (shade / 2)
    | 2 => UInt8.ofNat (255 - shade)
    | _ => 255

end Recode.Picture
