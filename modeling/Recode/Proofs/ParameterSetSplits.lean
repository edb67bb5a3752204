import Mathlib.Data.List.Infix
import Recode.Session.ParameterSets

/-!
The cut between two parameter sets, by what stands on either side of it. The second set begins with
the last start code of the buffer that does not stand at its beginning, so wherever a set that holds
no other start code follows one that is not empty, the cut finds both again. Zeros at the end of the
first set do not move it, since no start code that they reach into is later than the second set.
-/

namespace Recode.Session
open Recode.Media

def HasCodeAt (buffer : Bytes) (offset : Nat) : Prop :=
  startCode.toList <+: buffer.toList.drop offset

section
variable {buffer back : Bytes} {offset limit : Nat}

theorem startsAt_iff : startsAt buffer offset = true ↔ HasCodeAt buffer offset := by
  unfold startsAt HasCodeAt
  rw [beq_iff_eq, ← Array.toList_inj, Array.toList_extract, List.extract_eq_take_drop,
    Nat.add_sub_cancel_left, List.prefix_iff_eq_take, eq_comm]
  rfl

theorem hasCodeAt_iff : HasCodeAt buffer offset ↔ buffer[offset]? = some 0 ∧
    buffer[offset + 1]? = some 0 ∧ buffer[offset + 2]? = some 0 ∧ buffer[offset + 3]? = some 1 := by
  unfold HasCodeAt
  simp only [List.prefix_iff_getElem?, List.getElem?_drop, Array.getElem?_toList]
  constructor
  · intro stands
    exact ⟨stands 0 (by decide), stands 1 (by decide), stands 2 (by decide), stands 3 (by decide)⟩
  · rintro ⟨first, second, third, last⟩ place inside
    match place, inside with
    | 0, _ => exact first
    | 1, _ => exact second
    | 2, _ => exact third
    | 3, _ => exact last

theorem hasCodeAt_append_iff (front : Bytes) :
    HasCodeAt (front ++ back) (front.size + offset) ↔ HasCodeAt back offset := by
  simp only [hasCodeAt_iff, Nat.add_assoc, Array.getElem?_append_right (Nat.le_add_right _ _),
    Nat.add_sub_cancel_left]

theorem HasCodeAt.fits (stands : HasCodeAt buffer offset) : offset + 4 ≤ buffer.size := by
  have last := (hasCodeAt_iff.mp stands).2.2.2
  exact (Array.getElem?_eq_some_iff.mp last).1

theorem lastStart?_of_stands (stands : HasCodeAt buffer (limit + 1)) :
    lastStart? buffer (limit + 1) = some (limit + 1) := if_pos (startsAt_iff.mpr stands)

theorem lastStart?_of_absent (absent : ¬HasCodeAt buffer (limit + 1)) :
    lastStart? buffer (limit + 1) = lastStart? buffer limit := if_neg (absent ∘ startsAt_iff.mp)

theorem HasCodeAt.le_succ_iff (here : HasCodeAt buffer offset)
    (absent : ¬HasCodeAt buffer (limit + 1)) : offset ≤ limit + 1 ↔ offset ≤ limit := by
  have other : offset ≠ limit + 1 := by
    rintro rfl
    exact absent here
  omega

theorem lastStart?_eq_none_iff : lastStart? buffer limit = none ↔
    ∀ offset, 1 ≤ offset → offset ≤ limit → ¬HasCodeAt buffer offset := by
  induction limit with
  | zero =>
    refine iff_of_true rfl fun offset behind within => ?_
    omega
  | succ limit ih =>
    by_cases stands : HasCodeAt buffer (limit + 1)
    · rw [lastStart?_of_stands stands]
      exact iff_of_false nofun fun none => none _ (Nat.le_add_left 1 limit) le_rfl stands
    · rw [lastStart?_of_absent stands, ih]
      constructor
      · intro none offset behind within here
        exact none offset behind ((here.le_succ_iff stands).mp within) here
      · intro none offset behind within
        exact none offset behind (Nat.le_succ_of_le within)

theorem lastStart?_eq_some_iff : lastStart? buffer limit = some offset ↔
    (1 ≤ offset ∧ offset ≤ limit) ∧ HasCodeAt buffer offset ∧
      ∀ later, HasCodeAt buffer later → later ≤ limit → later ≤ offset := by
  induction limit with
  | zero =>
    refine iff_of_false nofun ?_
    rintro ⟨⟨behind, within⟩, -⟩
    omega
  | succ limit ih =>
    by_cases stands : HasCodeAt buffer (limit + 1)
    · rw [lastStart?_of_stands stands, Option.some.injEq]
      constructor
      · rintro rfl
        exact ⟨⟨Nat.le_add_left 1 limit, le_rfl⟩, stands, fun later _ within => within⟩
      · rintro ⟨⟨-, within⟩, -, last⟩
        exact Nat.le_antisymm (last _ stands le_rfl) within
    · rw [lastStart?_of_absent stands, ih]
      constructor
      · rintro ⟨⟨behind, within⟩, here, last⟩
        exact ⟨⟨behind, Nat.le_succ_of_le within⟩, here,
          fun later there bound => last later there ((there.le_succ_iff stands).mp bound)⟩
      · rintro ⟨⟨behind, within⟩, here, last⟩
        exact ⟨⟨behind, (here.le_succ_iff stands).mp within⟩, here,
          fun later there bound => last later there (Nat.le_succ_of_le bound)⟩

end

/-- The buffer is cut into a first set that is not empty and a second one that begins with a start
code, behind which there is no other. -/
structure IsCut (buffer first second : Bytes) : Prop where
  joined : first ++ second = buffer
  nonempty : first ≠ #[]
  begins : HasCodeAt second 0
  last : ∀ offset, HasCodeAt buffer offset → offset ≤ first.size

section
variable {buffer first second : Bytes}

theorem splitParameterSets_eq_some_iff :
    splitParameterSets buffer = some (first, second) ↔ IsCut buffer first second := by
  unfold splitParameterSets
  simp only [Option.map_eq_some_iff, lastStart?_eq_some_iff, Prod.mk.injEq]
  constructor
  · rintro ⟨offset, ⟨⟨behind, within⟩, here, last⟩, rfl, rfl⟩
    have joined : buffer.extract 0 offset ++ buffer.extract offset buffer.size = buffer := by
      rw [Array.extract_append_extract, Nat.min_eq_left (Nat.zero_le _), Nat.max_eq_right within,
        Array.extract_size]
    have size : (buffer.extract 0 offset).size = offset := by
      rw [Array.size_extract, Nat.min_eq_left within, Nat.sub_zero]
    refine ⟨joined, Array.ne_empty_of_size_pos (by omega), ?_, fun later there => ?_⟩
    · rw [← hasCodeAt_append_iff (buffer.extract 0 offset), joined, size]
      exact here
    · rw [size]
      exact last later there (by have := there.fits; omega)
  · rintro ⟨rfl, nonempty, begins, last⟩
    have within : first.size ≤ (first ++ second).size := by
      rw [Array.size_append]
      exact Nat.le_add_right _ _
    refine ⟨first.size, ⟨⟨Array.size_pos_iff.mpr nonempty, within⟩, ?_,
      fun later there _ => last later there⟩, ?_, ?_⟩
    · exact (hasCodeAt_append_iff first).mpr begins
    · rw [Array.extract_append_left, Array.extract_size]
    · simp

theorem splitParameterSets_isSome_iff : (splitParameterSets buffer).isSome = true ↔
    ∃ offset, 1 ≤ offset ∧ HasCodeAt buffer offset := by
  unfold splitParameterSets
  rw [Option.isSome_map, Option.isSome_iff_ne_none, ne_eq, lastStart?_eq_none_iff]
  constructor
  · intro some
    by_contra none
    exact some fun offset behind _ stands => none ⟨offset, behind, stands⟩
  · rintro ⟨offset, behind, stands⟩ none
    have within := stands.fits
    exact none offset behind (by omega) stands

end

section
variable {buffer : Bytes}

/-- The bytes that the search looks at are those of the start code that would end where it looks. -/
theorem hasCodeAt_iff_ends {place : Nat} (within : place < buffer.size) (behind : 3 ≤ place) :
    HasCodeAt buffer (place - 3) ↔ buffer[place] = 1 ∧ buffer[place - 1] = 0 ∧
      buffer[place - 2] = 0 ∧ buffer[place - 3] = 0 := by
  obtain ⟨offset, rfl⟩ := Nat.exists_eq_add_of_le' behind
  rw [hasCodeAt_iff]
  have reads (ahead : Nat) (near : ahead ≤ 3) (value : UInt8) :
      buffer[offset + ahead]? = some value ↔ buffer[offset + ahead] = value := by
    rw [Array.getElem?_eq_getElem (by omega), Option.some.injEq]
  have bytes := and_congr (reads 0 (by decide) 0) (and_congr (reads 1 (by decide) 0)
    (and_congr (reads 2 (by decide) 0) (reads 3 (by decide) 1)))
  refine bytes.trans ?_
  constructor
  · rintro ⟨first, second, third, last⟩
    exact ⟨last, third, second, first⟩
  · rintro ⟨last, third, second, first⟩
    exact ⟨first, second, third, last⟩

/-- Before it has looked at all places, the search may still find what ends before them. -/
theorem cutBackwards_eq {count : Nat} (within : count ≤ buffer.size) :
    cutBackwards buffer count within = (lastStart? buffer (count - 4)).map fun offset =>
      (buffer.extract 0 offset, buffer.extract offset buffer.size) := by
  induction count with
  | zero => rfl
  | succ place ih =>
    unfold cutBackwards
    by_cases early : place ≤ 3
    · rw [if_pos early, Nat.sub_eq_zero_of_le (Nat.succ_le_succ early)]
      rfl
    · obtain ⟨offset, rfl⟩ := Nat.exists_eq_add_of_le' (Nat.lt_of_not_le early)
      have ends := hasCodeAt_iff_ends within (Nat.le_add_left 3 (offset + 1))
      rw [if_neg early]
      by_cases stands : HasCodeAt buffer (offset + 1)
      · rw [if_pos (ends.mp stands), Nat.add_sub_cancel (offset + 1) 4, lastStart?_of_stands stands]
        rfl
      · rw [if_neg (stands ∘ ends.mpr), ih, Nat.add_sub_cancel (offset + 1) 4,
          lastStart?_of_absent stands, Nat.add_sub_cancel]

theorem lastStart?_of_late {limit further : Nat} (later : limit ≤ further)
    (late : ∀ offset, HasCodeAt buffer offset → offset ≤ limit) :
    lastStart? buffer further = lastStart? buffer limit := by
  induction further, later using Nat.le_induction with
  | base => rfl
  | succ further later ih =>
    rw [lastStart?_of_absent fun stands => ?_, ih]
    exact absurd (late _ stands) (Nat.not_le_of_lt (Nat.lt_succ_of_le later))

theorem cutBackwards_size (buffer : Bytes) :
    cutBackwards buffer buffer.size le_rfl = splitParameterSets buffer := by
  have late : ∀ offset, HasCodeAt buffer offset → offset ≤ buffer.size - 4 :=
    fun offset stands => Nat.le_sub_of_add_le stands.fits
  rw [cutBackwards_eq, splitParameterSets, lastStart?_of_late (Nat.sub_le _ 4) late]

end

/-- A buffer is cut if a start code stands in it anywhere but at its beginning. The cut is at the
last one, and takes nothing away. So where a set that is not empty, whatever zeros it ends with, is
followed by a set with a start code at its beginning and no other, the cut is between them. The
search from the end backwards cuts just there. -/
theorem splitParameterSets_cuts_at_last (buffer : Bytes) :
    ((splitParameterSets buffer).isSome = true ↔ ∃ offset, 1 ≤ offset ∧ HasCodeAt buffer offset) ∧
    (∀ first second, splitParameterSets buffer = some (first, second) →
      first ++ second = buffer ∧ first ≠ #[] ∧ HasCodeAt second 0 ∧
        ∀ offset, HasCodeAt buffer offset → offset ≤ first.size) ∧
    (∀ first second : Bytes, first ≠ #[] → (∀ offset, HasCodeAt second offset ↔ offset = 0) →
      splitParameterSets (first ++ second) = some (first, second)) ∧
    cutBackwards buffer buffer.size le_rfl = splitParameterSets buffer := by
  refine ⟨splitParameterSets_isSome_iff, ?_, ?_, ?_⟩
  · intro first second split
    obtain ⟨joined, nonempty, begins, last⟩ := splitParameterSets_eq_some_iff.mp split
    exact ⟨joined, nonempty, begins, last⟩
  · intro first second nonempty alone
    refine splitParameterSets_eq_some_iff.mpr ⟨rfl, nonempty, (alone 0).mpr rfl, ?_⟩
    intro offset stands
    by_contra later
    obtain ⟨rest, rfl⟩ := Nat.exists_eq_add_of_lt (Nat.lt_of_not_le later)
    have inSecond := (alone (rest + 1)).mp ((hasCodeAt_append_iff first).mp stands)
    omega
  · exact cutBackwards_size buffer

end Recode.Session
