import Recode.Device.Resolver
import Recode.Picture.Image

/-!
Raw frames: one byte of luma for each pixel, and for every two by two pixels one byte of each chroma
component, taken from the upper left of the four. Padding, filled with zeros, may stand before the
chroma; planar frames have a quarter of it also between the two components.
-/

namespace Recode.Picture
open Recode.Media Recode.Device

/-- One component of a pixel by its weights for red, green and blue, in steps of 1/256. -/
def component (red green blue bias : Int) (pixels : Bytes) (pixel : Nat) : UInt8 :=
  let channel (i : Nat) : Int := (pixels.getD (4 * pixel + i) 0).toNat
  let value := (red * channel 0 + green * channel 1 + blue * channel 2 + 128) / 256 + bias
  UInt8.ofNat (max 0 (min 255 value)).toNat

/-- The weights are those of BT.601 for studio range. -/
def lumaAt (pixels : Bytes) (pixel : Nat) : UInt8 := component 66 129 25 16 pixels pixel
def blueChromaAt (pixels : Bytes) (pixel : Nat) : UInt8 :=
  component (-38) (-74) 112 128 pixels pixel
def redChromaAt (pixels : Bytes) (pixel : Nat) : UInt8 :=
  component 112 (-94) (-18) 128 pixels pixel

def blockCount (width height : Nat) : Nat := (width / 2) * (height / 2)

/-- The upper left pixel of the block that has the number `block`. -/
def blockPixel (width block : Nat) : Nat :=
  2 * (block / (width / 2)) * width + 2 * (block % (width / 2))

def lumaPlane (pixels : Bytes) (width height : Nat) : Bytes :=
  Array.ofFn (n := width * height) fun i => lumaAt pixels i.val

def chromaPlane (value : Bytes → Nat → UInt8) (pixels : Bytes) (width height : Nat) : Bytes :=
  Array.ofFn (n := blockCount width height) fun i => value pixels (blockPixel width i.val)

def chromaPairs (first second : Bytes → Nat → UInt8) (pixels : Bytes) (width height : Nat) :
    Bytes :=
  Array.ofFn (n := 2 * blockCount width height) fun i =>
    (if i.val % 2 = 0 then first else second) pixels (blockPixel width (i.val / 2))

inductive ChromaLayout where
  | planes
  | pairs
  deriving DecidableEq, Repr, Inhabited

def ChromaLayout.of? (format : ColorFormat) : Option ChromaLayout :=
  if format.isPlanar then some .planes else if format.isSemiPlanar then some .pairs else none

def convertedSize (layout : ChromaLayout) (width height padding : Nat) : Nat :=
  let whole := width * height + padding + 2 * blockCount width height
  match layout with
  | .planes => whole + padding / 4
  | .pairs => whole

def convertedBytes (layout : ChromaLayout) (pixels : Bytes) (width height padding : Nat)
    (swap : Bool) : Bytes :=
  let (first, second) :=
    if swap then (redChromaAt, blueChromaAt) else (blueChromaAt, redChromaAt)
  let gap (size : Nat) : Bytes := Array.replicate size 0
  let front := lumaPlane pixels width height ++ gap padding
  match layout with
  | .planes =>
      front ++ chromaPlane first pixels width height ++ gap (padding / 4)
        ++ chromaPlane second pixels width height
  | .pairs => front ++ chromaPairs first second pixels width height

/-- The destination after the conversion, and the number of bytes written to its front. -/
def convert (pixels destination : Bytes) (format : ColorFormat) (width height padding : Nat)
    (swap : Bool) : Except Fault (Nat × Bytes) :=
  if pixels.size < 4 * (width * height) then
    .error (.conversion (s!"source holds {pixels.size} bytes, {width}x{height} RGBA needs "
      ++ toString (width * height * 4)))
  else
    match ChromaLayout.of? format with
    | none => .error (.conversion (format.name ++ " is not a raw YUV 4:2:0 layout"))
    | some layout =>
        let needed := convertedSize layout width height padding
        if destination.size < needed then
          .error (.conversion s!"destination holds {destination.size} bytes, need {needed}")
        else
          .ok (needed, convertedBytes layout pixels width height padding swap
            ++ destination.extract needed destination.size)

end Recode.Picture
