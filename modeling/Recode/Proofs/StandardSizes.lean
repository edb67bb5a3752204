import Mathlib
import Recode.Proofs.Orientation

/-!
Sizes that are left open. They are rounded to the least standard size that is large enough, or else to
the largest, and a standard size stays as it is. So what comes out of one compression with nothing
asked for is copied by the next.
-/

namespace Recode.Job
open Recode.Media Recode.Container Recode.Device

section
variable {table : List Nat} {value : Nat}

theorem isLeast_roundToStandard (ascending : table.Pairwise (· ≤ ·))
    (fits : ∃ size ∈ table, value ≤ size) :
    IsLeast {size | size ∈ table ∧ value ≤ size} (roundToStandard value table) := by
  obtain ⟨found, finds⟩ : ∃ found, table.find? (value ≤ ·) = some found := by
    rw [← Option.isSome_iff_exists, List.find?_isSome]
    simpa using fits
  have rounded : roundToStandard value table = found := by
    unfold roundToStandard
    rw [finds]
    rfl
  obtain ⟨large, smaller, larger, same, tooSmall⟩ := List.find?_eq_some_iff_append.mp finds
  rw [rounded]
  refine ⟨⟨List.mem_of_find?_eq_some finds, by simpa using large⟩, fun size member => ?_⟩
  obtain ⟨listed, enough⟩ : size ∈ table ∧ value ≤ size := member
  subst same
  rcases List.mem_append.mp listed with before | behind
  · simpa [enough] using tooSmall size before
  · rcases List.mem_cons.mp behind with rfl | behind
    · exact Nat.le_refl _
    · exact (List.pairwise_cons.mp (List.pairwise_append.mp ascending).2.1).1 size behind

theorem isGreatest_roundToStandard (filled : table ≠ []) (ascending : table.Pairwise (· ≤ ·))
    (exceeds : ∀ size ∈ table, size < value) :
    IsGreatest {size | size ∈ table} (roundToStandard value table) := by
  have nothing : table.find? (value ≤ ·) = none := by
    refine List.find?_eq_none.mpr fun size listed => ?_
    simpa using exceeds size listed
  obtain ⟨smaller, largest, rfl⟩ := (List.eq_nil_or_concat table).resolve_left filled
  rw [List.concat_eq_append] at *
  have rounded : roundToStandard value (smaller ++ [largest]) = largest := by
    unfold roundToStandard
    rw [nothing, List.getLast?_concat]
    rfl
  rw [rounded]
  refine ⟨List.mem_append_right _ (List.mem_singleton_self _), fun size listed => ?_⟩
  rcases List.mem_append.mp listed with before | last
  · exact (List.pairwise_append.mp ascending).2.2 size before largest (List.mem_singleton_self _)
  · exact Nat.le_of_eq (List.mem_singleton.mp last)

theorem roundToStandard_mem (filled : table ≠ []) (ascending : table.Pairwise (· ≤ ·))
    (value : Nat) : roundToStandard value table ∈ table := by
  by_cases fits : ∃ size ∈ table, value ≤ size
  · exact (isLeast_roundToStandard ascending fits).1.1
  · exact (isGreatest_roundToStandard filled ascending (by simpa using fits)).1

theorem monotone_roundToStandard (filled : table ≠ []) (ascending : table.Pairwise (· ≤ ·)) :
    Monotone (roundToStandard · table) := by
  intro smaller larger ordered
  show roundToStandard smaller table ≤ roundToStandard larger table
  by_cases fits : ∃ size ∈ table, larger ≤ size
  · obtain ⟨listed, enough⟩ := (isLeast_roundToStandard ascending fits).1
    obtain ⟨size, member, large⟩ := fits
    exact (isLeast_roundToStandard ascending ⟨size, member, Nat.le_trans ordered large⟩).2
      ⟨listed, Nat.le_trans ordered enough⟩
  · exact (isGreatest_roundToStandard filled ascending (by simpa using fits)).2
      (roundToStandard_mem filled ascending smaller)

theorem roundToStandard_of_mem (ascending : table.Pairwise (· ≤ ·)) {size : Nat}
    (listed : size ∈ table) : roundToStandard size table = size :=
  (isLeast_roundToStandard ascending ⟨size, listed, Nat.le_refl _⟩).unique
    ⟨⟨listed, Nat.le_refl _⟩, fun _ member => member.2⟩

end

theorem standardWidths_ascending : standardWidths ≠ [] ∧ standardWidths.Pairwise (· ≤ ·) := by
  decide

theorem standardHeights_ascending : standardHeights ≠ [] ∧ standardHeights.Pairwise (· ≤ ·) := by
  decide

theorem standardWidth_pos (width : Nat) : 0 < standardWidth width := by
  have positive : ∀ size ∈ standardWidths, 0 < size := by decide
  exact positive _ (roundToStandard_mem standardWidths_ascending.1 standardWidths_ascending.2 width)

theorem standardHeight_pos (height : Nat) : 0 < standardHeight height := by
  have positive : ∀ size ∈ standardHeights, 0 < size := by decide
  exact positive _
    (roundToStandard_mem standardHeights_ascending.1 standardHeights_ascending.2 height)

theorem standardWidth_idem (width : Nat) :
    standardWidth (standardWidth width) = standardWidth width :=
  roundToStandard_of_mem standardWidths_ascending.2
    (roundToStandard_mem standardWidths_ascending.1 standardWidths_ascending.2 width)

theorem standardHeight_idem (height : Nat) :
    standardHeight (standardHeight height) = standardHeight height :=
  roundToStandard_of_mem standardHeights_ascending.2
    (roundToStandard_mem standardHeights_ascending.1 standardHeights_ascending.2 height)

theorem orient_unturned {source target : Nat × Nat} {platform : Platform}
    (surface : platform.supportsSurfaceInput = true) :
    orient source target .deg0 platform = ⟨target.1, target.2, .deg0, .deg0⟩ := by
  cases renders : platform.rendersRotation with
  | false => exact orient_unrendered _ surface renders
  | true => simp [orient, surface, renders]

theorem resolve_unturned {source : Metadata} {platform : Platform}
    (surface : platform.supportsSurfaceInput = true) (unturned : source.rotation = .deg0) :
    let width := standardWidth source.width
    let height := standardHeight source.height
    Parameters.resolve {} source platform = .ok ⟨width, height, bitrateFor width height, .deg0, .deg0,
      width != source.width || height != source.height⟩ := by
  have width_pos := standardWidth_pos source.width
  have height_pos := standardHeight_pos source.height
  unfold Parameters.resolve
  dsimp only [Option.getD_none]
  rw [if_neg (by omega), unturned, orient_unturned surface]

/-- Rounding to a table of ascending sizes takes the least that is large enough, or else the largest;
it keeps the order of sizes, and the sizes of the table. The two standard tables are of this kind.
So an unturned source that is resolved with nothing asked for, on a platform with surface input, is
not transcoded again at the size that was resolved. -/
theorem roundToStandard_settles :
    (∀ table : List Nat, table ≠ [] → table.Pairwise (· ≤ ·) →
      (∀ value, roundToStandard value table ∈ table ∧
        ((∃ size ∈ table, value ≤ size) →
          IsLeast {size | size ∈ table ∧ value ≤ size} (roundToStandard value table)) ∧
        ((∀ size ∈ table, size < value) →
          IsGreatest {size | size ∈ table} (roundToStandard value table))) ∧
      Monotone (roundToStandard · table) ∧
      (∀ size ∈ table, roundToStandard size table = size) ∧
      ∀ value, roundToStandard (roundToStandard value table) table = roundToStandard value table) ∧
    (standardWidths ≠ [] ∧ standardWidths.Pairwise (· ≤ ·)) ∧
    (standardHeights ≠ [] ∧ standardHeights.Pairwise (· ≤ ·)) ∧
    ∀ (source : Metadata) (platform : Platform), platform.supportsSurfaceInput = true →
      source.rotation = .deg0 → ∃ parameters,
        Parameters.resolve {} source platform = .ok parameters ∧
        ∀ again : Metadata, again.width = parameters.width → again.height = parameters.height →
          again.rotation = .deg0 → ∃ repeated,
            Parameters.resolve {} again platform = .ok repeated ∧
            repeated.width = parameters.width ∧ repeated.height = parameters.height ∧
            repeated.transcode = false := by
  refine ⟨fun table filled ascending => ⟨fun value => ⟨?_, ?_, ?_⟩, ?_, fun size listed => ?_,
    fun value => ?_⟩, standardWidths_ascending, standardHeights_ascending,
    fun source platform surface unturned => ?_⟩
  · exact roundToStandard_mem filled ascending value
  · exact isLeast_roundToStandard ascending
  · exact isGreatest_roundToStandard filled ascending
  · exact monotone_roundToStandard filled ascending
  · exact roundToStandard_of_mem ascending listed
  · exact roundToStandard_of_mem ascending (roundToStandard_mem filled ascending value)
  · refine ⟨_, resolve_unturned surface unturned, fun again width height unturned => ?_⟩
    dsimp only at width height
    refine ⟨_, resolve_unturned surface unturned, ?_⟩
    rw [width, height, standardWidth_idem, standardHeight_idem]
    simp

end Recode.Job
