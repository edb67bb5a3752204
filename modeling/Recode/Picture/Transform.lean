import Recode.Picture.Draw

/-!
The stage between decoder and encoder. Decoded pictures wait in a queue; the transform takes the
oldest of them and draws it at the size and with the turn of the output.
-/

namespace Recode.Picture
open Recode.Media

structure TransformSpec where
  width : Nat
  height : Nat
  rotation : Rotation
  surfaceInput : Bool
  deriving DecidableEq, Repr, Inhabited

def defaultPatience : Nat := 2500

structure Transform where
  spec : TransformSpec
  patience : Nat := defaultPatience
  queue : List Image := []
  latched : Option Image := none
  released : Bool := false
  deriving DecidableEq, Repr, Inhabited

namespace Transform

def create (spec : TransformSpec) (patience : Nat) : Except Error Transform :=
  if spec.width = 0 ∨ spec.height = 0 then
    .error (.invalidParameter
      s!"transform output must be non-empty, got {spec.width}x{spec.height}")
  else .ok { spec, patience }

def enqueue (transform : Transform) (image : Image) : Transform :=
  { transform with queue := transform.queue ++ [image] }

/-- Takes the oldest waiting picture, which stays the one to draw until the next is taken. -/
def await (transform : Transform) : Except Error Unit × Transform :=
  if transform.released then (.error (CodecError.surface "transform already released"), transform)
  else
    match transform.queue with
    | image :: queue => (.ok (), { transform with queue, latched := some image })
    | [] => (.error (CodecError.surface s!"no frame within {transform.patience} ms"), transform)

def drawLatched (transform : Transform) : Except Error Frame :=
  match transform.latched with
  | some image =>
      draw image transform.spec.width transform.spec.height transform.spec.rotation
  | none => .error (CodecError.surface "no image latched")

def release (transform : Transform) : Transform :=
  { transform with latched := none, released := true }

end Transform

end Recode.Picture
