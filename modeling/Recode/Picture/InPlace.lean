import Recode.Picture.Yuv

/-!
The conversion of a picture as it is carried out in a buffer. The part of the frame behind the luma
is cleared first. Then every pixel leaves its luma at its own place, and the upper left pixel of each
block the two bytes of chroma at places counted from where each component begins. Every place is
reckoned while the conversion runs, and one outside its buffer would end it.
-/

namespace Recode.Picture
open Recode.Media Recode.Device

/-- The places of the two bytes of chroma of the first block, and the step from one block to the
next. -/
structure ChromaPlaces where
  blue : Nat
  red : Nat
  step : Nat
  deriving DecidableEq, Repr

def ChromaPlaces.exchanged (places : ChromaPlaces) : ChromaPlaces :=
  { places with blue := places.red, red := places.blue }

/-- The chroma begins behind the padding. Planes have a quarter of the padding between them. -/
def ChromaLayout.places (layout : ChromaLayout) (width height padding : Nat) (swap : Bool) :
    ChromaPlaces :=
  let start := width * height + padding
  let places : ChromaPlaces :=
    match layout with
    | .planes => ⟨start, start + blockCount width height + padding / 4, 1⟩
    | .pairs => ⟨start, start + 1, 2⟩
  if swap then places.exchanged else places

/-- A component of a pixel by its weights, before it is cut to a byte. -/
def weighted (red green blue bias : Int) (r g b : UInt8) : Int :=
  ((red * r.toNat + green * g.toNat + blue * b.toNat + 128) >>> (8 : Nat)) + bias

def cut (value : Int) : UInt8 := UInt8.ofNat (max 0 (min 255 value)).toNat

def put? (bytes : Bytes) (place : Nat) (value : UInt8) : Option Bytes :=
  if place < bytes.size then some (bytes.setIfInBounds place value) else none

def clear? (bytes : Bytes) (start stop : Nat) : Option Bytes :=
  if start ≤ stop ∧ stop ≤ bytes.size then
    some (bytes.mapIdx fun place byte => if start ≤ place ∧ place < stop then 0 else byte)
  else none

/-- Only pixels of blocks that the picture holds whole have chroma. -/
def isUpperLeft (width height x y : Nat) : Bool :=
  x % 2 = 0 ∧ y % 2 = 0 ∧ x / 2 < width / 2 ∧ y / 2 < height / 2

def paintPixel (pixels : Bytes) (width height : Nat) (places : ChromaPlaces) (y x : Nat)
    (bytes : Bytes) : Option Bytes := do
  let first := (y * width + x) * 4
  let r ← pixels[first]?
  let g ← pixels[first + 1]?
  let b ← pixels[first + 2]?
  let bytes ← put? bytes (y * width + x) (cut (weighted 66 129 25 16 r g b))
  if isUpperLeft width height x y then
    let distance := (y / 2 * (width / 2) + x / 2) * places.step
    let bytes ← put? bytes (places.blue + distance) (cut (weighted (-38) (-74) 112 128 r g b))
    put? bytes (places.red + distance) (cut (weighted 112 (-94) (-18) 128 r g b))
  else
    some bytes

def paintRow (pixels : Bytes) (width height : Nat) (places : ChromaPlaces) (y : Nat)
    (bytes : Bytes) : Option Bytes :=
  (List.range width).foldlM (fun bytes x => paintPixel pixels width height places y x bytes) bytes

def paint (pixels : Bytes) (width height : Nat) (places : ChromaPlaces) (bytes : Bytes) :
    Option Bytes :=
  (List.range height).foldlM (fun bytes y => paintRow pixels width height places y bytes) bytes

/-- The number of bytes written, or why nothing is, with the destination then; no answer at all if a
place is outside its buffer. -/
def convertInPlace (pixels destination : Bytes) (format : ColorFormat)
    (width height padding : Nat) (swap : Bool) : Option (Except Fault Nat × Bytes) :=
  if pixels.size < width * height * 4 then
    some (.error (.conversion (s!"source holds {pixels.size} bytes, {width}x{height} RGBA needs "
      ++ toString (width * height * 4))), destination)
  else
    match ChromaLayout.of? format with
    | none =>
        some (.error (.conversion (format.name ++ " is not a raw YUV 4:2:0 layout")), destination)
    | some layout =>
        let needed := convertedSize layout width height padding
        if destination.size < needed then
          some (.error (.conversion
            s!"destination holds {destination.size} bytes, need {needed}"), destination)
        else do
          let cleared ← clear? destination (width * height) needed
          let painted ←
            paint pixels width height (layout.places width height padding swap) cleared
          some (.ok needed, painted)

end Recode.Picture
