import Mathlib.Tactic.Ring
import Recode.Picture.InPlace

/-!
What a loop over the pixels of a picture leaves in a buffer. The buffer is checked against the one
that should be left in the end: a step that writes only what belongs where it writes spoils nothing
that was right before, so the loop leaves right whatever any of its steps has written.
-/

namespace Recode.Picture
open Recode.Media

theorem pixel_lt {width height x y : Nat} (column : x < width) (row : y < height) :
    y * width + x < width * height := by
  calc y * width + x
      _ < y * width + width := by omega
      _ = width * (y + 1) := by ring
      _ ≤ width * height := Nat.mul_le_mul_left width row

theorem column_of_pixel {width x : Nat} (column : x < width) (y : Nat) :
    (y * width + x) % width = x := by
  rw [Nat.mul_comm, Nat.mul_add_mod, Nat.mod_eq_of_lt column]

theorem row_of_pixel {width x : Nat} (column : x < width) (y : Nat) :
    (y * width + x) / width = y := by
  rw [Nat.mul_comm, Nat.mul_add_div (Nat.zero_lt_of_lt column), Nat.div_eq_of_lt column,
    Nat.add_zero]

theorem exists_pixel {width height pixel : Nat} (inside : pixel < width * height) :
    ∃ x < width, ∃ y < height, pixel = y * width + x := by
  have across : 0 < width := Nat.pos_of_mul_pos_right (Nat.zero_lt_of_lt inside)
  refine ⟨pixel % width, Nat.mod_lt pixel across, pixel / width,
    (Nat.div_lt_iff_lt_mul across).mpr (by rwa [Nat.mul_comm]), ?_⟩
  rw [Nat.mul_comm]
  exact (Nat.div_add_mod pixel width).symm

/-- The step goes through in any buffer of the target's size, and writes only what the target has:
it leaves these places as in the target, and every place that was so before. -/
def Paints (target : Bytes) (step : Bytes → Option Bytes) (painted : Nat → Prop) : Prop :=
  ∀ bytes : Bytes, bytes.size = target.size → ∃ left, step bytes = some left ∧
    left.size = target.size ∧
    ∀ place, painted place ∨ bytes[place]? = target[place]? → left[place]? = target[place]?

section
variable {target : Bytes} {painted later : Nat → Prop} {step next : Bytes → Option Bytes}

theorem paints_nothing (target : Bytes) : Paints target some fun _ => False := by
  intro bytes size
  exact ⟨bytes, rfl, size, fun place agrees => agrees.resolve_left False.elim⟩

theorem paints_put {place : Nat} {value : UInt8} (found : target[place]? = some value) :
    Paints target (put? · place value) (· = place) := by
  intro bytes size
  have inside : place < bytes.size := size ▸ (Array.getElem?_eq_some_iff.mp found).1
  refine ⟨bytes.setIfInBounds place value, if_pos inside, by rw [Array.size_setIfInBounds, size],
    fun other agrees => ?_⟩
  rw [Array.getElem?_setIfInBounds]
  by_cases same : place = other
  · subst same
    rw [if_pos rfl, if_pos inside, found]
  · rw [if_neg same]
    exact agrees.resolve_left fun here => same here.symm

theorem Paints.andThen (first : Paints target step painted) (second : Paints target next later) :
    Paints target (fun bytes => step bytes >>= next) fun place => painted place ∨ later place := by
  intro bytes size
  obtain ⟨between, ran, sized, done⟩ := first bytes size
  obtain ⟨left, finished, total, all⟩ := second between sized
  refine ⟨left, ?_, total, fun place agrees => ?_⟩
  · dsimp only
    rw [ran]
    exact finished
  · rcases agrees with (early | late) | was
    · exact all place (.inr (done place (.inl early)))
    · exact all place (.inl late)
    · exact all place (.inr (done place (.inr was)))

/-- A loop leaves painted what any of its rounds paints. -/
theorem Paints.each {count : Nat} {rounds : Nat → Bytes → Option Bytes} {parts : Nat → Nat → Prop}
    (each : ∀ i < count, Paints target (rounds i) (parts i)) :
    Paints target (fun bytes => (List.range count).foldlM (fun bytes i => rounds i bytes) bytes)
      fun place => ∃ i < count, parts i place := by
  induction count with
  | zero =>
    intro bytes size
    refine ⟨bytes, rfl, size, fun place agrees => ?_⟩
    rcases agrees with ⟨i, inside, -⟩ | was
    · exact absurd inside (Nat.not_lt_zero i)
    · exact was
  | succ count ih =>
    have before := ih fun i inside => each i (by omega)
    intro bytes size
    obtain ⟨left, ran, sized, done⟩ := before.andThen (each count (by omega)) bytes size
    refine ⟨left, ?_, sized, fun place agrees => done place ?_⟩
    · simpa only [List.range_succ, List.foldlM_append, List.foldlM_cons, List.foldlM_nil,
        bind_pure] using ran
    · rcases agrees with ⟨i, inside, part⟩ | was
      · rcases Nat.lt_succ_iff_lt_or_eq.mp inside with earlier | rfl
        · exact .inl (.inl ⟨i, earlier, part⟩)
        · exact .inl (.inr part)
      · exact .inr was

end

end Recode.Picture
