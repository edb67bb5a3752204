import Recode.Proofs.Painting
import Recode.Proofs.RawFrames

/-!
The bytes of a converted frame by their places: the luma of every pixel in front, the chroma of each
block at the two places that belong to it, and zeros between. The weights keep a component within
the studio range, so none is ever cut.
-/

namespace Recode.Picture
open Recode.Media Recode.Device

theorem toNat_cut {value : Int} (low : 0 ≤ value) (high : value ≤ 255) :
    ((cut value).toNat : Int) = value := by
  have inner : max 0 (min 255 value) = value := by omega
  have small : value.toNat < 256 := by omega
  unfold cut
  rw [inner, UInt8.toNat_ofNat_of_lt' small]
  omega

theorem scaled_between (weight : Int) (shade : UInt8) :
    min 0 (weight * 255) ≤ weight * shade.toNat ∧ weight * shade.toNat ≤ max 0 (weight * 255) := by
  have small := shade.toNat_lt
  have atMost : (shade.toNat : Int) ≤ 255 := by omega
  have atLeast : (0 : Int) ≤ shade.toNat := Int.natCast_nonneg _
  rcases le_total 0 weight with up | down
  · have grows := mul_le_mul_of_nonneg_left atMost up
    have rises := mul_nonneg up atLeast
    omega
  · have falls := mul_le_mul_of_nonpos_left atMost down
    have sinks := mul_nonpos_of_nonpos_of_nonneg down atLeast
    omega

/-- A component is least where all that lowers it is full, and greatest where all that raises it
is. -/
theorem weighted_between (red green blue bias : Int) (r g b : UInt8) :
    (min 0 (red * 255) + min 0 (green * 255) + min 0 (blue * 255) + 128) / 256 + bias ≤
        weighted red green blue bias r g b ∧
      weighted red green blue bias r g b ≤
        (max 0 (red * 255) + max 0 (green * 255) + max 0 (blue * 255) + 128) / 256 + bias := by
  have first := scaled_between red r
  have second := scaled_between green g
  have third := scaled_between blue b
  unfold weighted
  rw [Int.shiftRight_eq_div_pow]
  omega

theorem luma_studio (r g b : UInt8) :
    16 ≤ weighted 66 129 25 16 r g b ∧ weighted 66 129 25 16 r g b ≤ 235 :=
  weighted_between 66 129 25 16 r g b

theorem blueChroma_studio (r g b : UInt8) :
    16 ≤ weighted (-38) (-74) 112 128 r g b ∧ weighted (-38) (-74) 112 128 r g b ≤ 240 :=
  weighted_between (-38) (-74) 112 128 r g b

theorem redChroma_studio (r g b : UInt8) :
    16 ≤ weighted 112 (-94) (-18) 128 r g b ∧ weighted 112 (-94) (-18) 128 r g b ≤ 240 :=
  weighted_between 112 (-94) (-18) 128 r g b

def HasColour (pixels : Bytes) (pixel : Nat) (r g b : UInt8) : Prop :=
  pixels[pixel * 4]? = some r ∧ pixels[pixel * 4 + 1]? = some g ∧ pixels[pixel * 4 + 2]? = some b

theorem exists_colour {pixels : Bytes} {count pixel : Nat} (whole : count * 4 ≤ pixels.size)
    (inside : pixel < count) : ∃ r g b, HasColour pixels pixel r g b :=
  ⟨_, _, _, Array.getElem?_eq_getElem (by omega), Array.getElem?_eq_getElem (by omega),
    Array.getElem?_eq_getElem (by omega)⟩

theorem HasColour.component_eq {pixels : Bytes} {pixel : Nat} {r g b : UInt8}
    (colour : HasColour pixels pixel r g b) (red green blue bias : Int) :
    component red green blue bias pixels pixel = cut (weighted red green blue bias r g b) := by
  obtain ⟨first, second, third⟩ := colour
  unfold component weighted cut
  rw [Int.shiftRight_eq_div_pow]
  simp only [Array.getD_eq_getD_getElem?, Nat.mul_comm 4 pixel, Nat.add_zero, first, second, third,
    Option.getD_some]
  rfl

theorem blockPixel_eq {width i : Nat} (column : i < width / 2) (j : Nat) :
    blockPixel width (j * (width / 2) + i) = 2 * j * width + 2 * i := by
  unfold blockPixel
  rw [row_of_pixel column, column_of_pixel column]

theorem exists_block {width height block : Nat} (inside : block < blockCount width height) :
    ∃ i < width / 2, ∃ j < height / 2, block = j * (width / 2) + i := exists_pixel inside

theorem block_lt {width height i j : Nat} (column : i < width / 2) (row : j < height / 2) :
    j * (width / 2) + i < blockCount width height := pixel_lt column row

/-- The bytes of a frame stand where they belong: the luma in front, each component of the chroma
from its place on, and zeros wherever no component stands. -/
structure Framed (pixels : Bytes) (width height needed : Nat) (places : ChromaPlaces)
    (blue red : Bytes → Nat → UInt8) (content : Bytes) : Prop where
  luma : ∀ pixel < width * height, content[pixel]? = some (lumaAt pixels pixel)
  blue : ∀ block < blockCount width height, content[places.blue + block * places.step]? =
    some (blue pixels (blockPixel width block))
  red : ∀ block < blockCount width height, content[places.red + block * places.step]? =
    some (red pixels (blockPixel width block))
  gap : ∀ place, width * height ≤ place → place < needed →
    (∀ block < blockCount width height, place ≠ places.blue + block * places.step ∧
      place ≠ places.red + block * places.step) → content[place]? = some 0

section
variable {pixels : Bytes} {width height : Nat}

theorem Framed.exchanged {needed : Nat} {places : ChromaPlaces} {first second : Bytes → Nat → UInt8}
    {content : Bytes} (framed : Framed pixels width height needed places first second content) :
    Framed pixels width height needed places.exchanged second first content where
  luma := framed.luma
  blue := framed.red
  red := framed.blue
  gap place behind within apart :=
    framed.gap place behind within fun block inside => (apart block inside).symm

theorem Framed.append {needed : Nat} {places : ChromaPlaces} {first second : Bytes → Nat → UInt8}
    {content : Bytes} (framed : Framed pixels width height needed places first second content)
    (later : Bytes) : Framed pixels width height needed places first second (content ++ later) := by
  have kept {place : Nat} {value : UInt8} (found : content[place]? = some value) :
      (content ++ later)[place]? = some value := by
    rw [Array.getElem?_append_left (Array.getElem?_eq_some_iff.mp found).1, found]
  constructor
  · exact fun pixel inside => kept (framed.luma pixel inside)
  · exact fun block inside => kept (framed.blue block inside)
  · exact fun block inside => kept (framed.red block inside)
  · exact fun place behind within apart => kept (framed.gap place behind within apart)

variable (pixels width height) (padding : Nat) (first second : Bytes → Nat → UInt8)

theorem planes_at (place : Nat) :
    (lumaPlane pixels width height ++ Array.replicate padding 0
        ++ chromaPlane first pixels width height ++ Array.replicate (padding / 4) 0
        ++ chromaPlane second pixels width height)[place]? =
      let start := width * height + padding
      let count := blockCount width height
      if place < width * height then some (lumaAt pixels place)
      else if place < start then some 0
      else if place < start + count then some (first pixels (blockPixel width (place - start)))
      else if place < start + count + padding / 4 then some 0
      else if place < start + count + padding / 4 + count then
        some (second pixels (blockPixel width (place - (start + count + padding / 4))))
      else none := by
  simp only [Array.getElem?_append, Array.size_append, Array.size_replicate, lumaPlane, chromaPlane,
    Array.size_ofFn, Array.getElem?_ofFn, Array.getElem?_replicate]
  split_ifs
  all_goals first | rfl | omega

theorem pairs_at (place : Nat) :
    (lumaPlane pixels width height ++ Array.replicate padding 0
        ++ chromaPairs first second pixels width height)[place]? =
      let start := width * height + padding
      if place < width * height then some (lumaAt pixels place)
      else if place < start then some 0
      else if place < start + 2 * blockCount width height then
        some ((if (place - start) % 2 = 0 then first else second) pixels
          (blockPixel width ((place - start) / 2)))
      else none := by
  simp only [Array.getElem?_append, Array.size_append, Array.size_replicate, lumaPlane, chromaPairs,
    Array.size_ofFn, Array.getElem?_ofFn, Array.getElem?_replicate]
  split_ifs
  all_goals first | rfl | omega

theorem framed_planes : Framed pixels width height
    (convertedSize .planes width height padding)
    ⟨width * height + padding, width * height + padding + blockCount width height + padding / 4, 1⟩
    first second (lumaPlane pixels width height ++ Array.replicate padding 0
      ++ chromaPlane first pixels width height ++ Array.replicate (padding / 4) 0
      ++ chromaPlane second pixels width height) := by
  constructor
  · intro pixel inside
    rw [planes_at]
    exact if_pos inside
  · intro block inside
    dsimp only
    rw [planes_at]
    dsimp only
    rw [if_neg (by omega), if_neg (by omega), if_pos (by omega), Nat.mul_one,
      Nat.add_sub_cancel_left]
  · intro block inside
    dsimp only
    rw [planes_at]
    dsimp only
    rw [if_neg (by omega), if_neg (by omega), if_neg (by omega), if_neg (by omega),
      if_pos (by omega), Nat.mul_one, Nat.add_sub_cancel_left]
  · intro place behind within apart
    have notFirst (inside : place - (width * height + padding) < blockCount width height) :
        place < width * height + padding := by
      have elsewhere := (apart _ inside).1
      dsimp only at elsewhere
      omega
    have notSecond (inside : place - (width * height + padding + blockCount width height
        + padding / 4) < blockCount width height) :
        place < width * height + padding + blockCount width height + padding / 4 := by
      have elsewhere := (apart _ inside).2
      dsimp only at elsewhere
      omega
    simp only [convertedSize] at within
    rw [planes_at]
    dsimp only
    split_ifs
    all_goals first | rfl | omega

theorem framed_pairs : Framed pixels width height (convertedSize .pairs width height padding)
    ⟨width * height + padding, width * height + padding + 1, 2⟩ first second
    (lumaPlane pixels width height ++ Array.replicate padding 0
      ++ chromaPairs first second pixels width height) := by
  constructor
  · intro pixel inside
    rw [pairs_at]
    exact if_pos inside
  · intro block inside
    have even : (width * height + padding + block * 2 - (width * height + padding)) % 2 = 0 := by
      omega
    have half :
        (width * height + padding + block * 2 - (width * height + padding)) / 2 = block := by
      omega
    dsimp only
    rw [pairs_at]
    dsimp only
    rw [if_neg (by omega), if_neg (by omega), if_pos (by omega), if_pos even, half]
  · intro block inside
    have odd : (width * height + padding + 1 + block * 2 - (width * height + padding)) % 2 ≠ 0 := by
      omega
    have half :
        (width * height + padding + 1 + block * 2 - (width * height + padding)) / 2 = block := by
      omega
    dsimp only
    rw [pairs_at]
    dsimp only
    rw [if_neg (by omega), if_neg (by omega), if_pos (by omega), if_neg odd, half]
  · intro place behind within apart
    have elsewhere (inside : (place - (width * height + padding)) / 2 < blockCount width height) :
        place < width * height + padding := by
      have apart := apart _ inside
      dsimp only at apart
      omega
    simp only [convertedSize] at within
    rw [pairs_at]
    dsimp only
    split_ifs
    all_goals first | rfl | omega

end

section
variable (layout : ChromaLayout) (pixels : Bytes) (width height padding : Nat) (swap : Bool)

theorem size_convertedBytes : (convertedBytes layout pixels width height padding swap).size =
    convertedSize layout width height padding := by
  cases layout with
  | planes =>
    simp only [convertedBytes, convertedSize, lumaPlane, chromaPlane, Array.size_append,
      Array.size_replicate, Array.size_ofFn]
    omega
  | pairs =>
    simp only [convertedBytes, convertedSize, lumaPlane, chromaPairs, Array.size_append,
      Array.size_replicate, Array.size_ofFn]

theorem framed_convertedBytes : Framed pixels width height
    (convertedSize layout width height padding) (layout.places width height padding swap)
    blueChromaAt redChromaAt (convertedBytes layout pixels width height padding swap) := by
  cases layout with
  | planes =>
    cases swap with
    | false => exact framed_planes pixels width height padding blueChromaAt redChromaAt
    | true => exact (framed_planes pixels width height padding redChromaAt blueChromaAt).exchanged
  | pairs =>
    cases swap with
    | false => exact framed_pairs pixels width height padding blueChromaAt redChromaAt
    | true => exact (framed_pairs pixels width height padding redChromaAt blueChromaAt).exchanged

end

end Recode.Picture
