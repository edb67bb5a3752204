import Mathlib
import Recode.Device.Vendor

/-!
How far the raw frames of a processor family are aligned. Rows are raised to the least multiple of
sixteen that is not below the height, or that is above it; the chroma is moved to the least multiple of
2048 bytes behind the luma; and where a rule does not hold for a maker, nothing is. What is added to
the buffer besides the padding itself is a quarter of it where rows are added. Machine words compute
the same sizes as long as they do not wrap around.
-/

namespace Recode.Device

theorem isLeast_rows_gt (height : Nat) :
    IsLeast {rows | 16 ∣ rows ∧ height < rows} (height + (16 - height % 16)) := by
  refine ⟨⟨by omega, by omega⟩, fun rows member => ?_⟩
  obtain ⟨multiple, above⟩ : 16 ∣ rows ∧ height < rows := member
  omega

theorem isLeast_rows_ge (height : Nat) : IsLeast {rows | 16 ∣ rows ∧ height ≤ rows}
    (if height % 16 = 0 then height else height + (16 - height % 16)) := by
  split
  next aligned =>
    exact ⟨⟨Nat.dvd_of_mod_eq_zero aligned, Nat.le_refl _⟩, fun rows member => member.2⟩
  next unaligned =>
    refine ⟨⟨by omega, by omega⟩, fun rows member => ?_⟩
    obtain ⟨multiple, enough⟩ : 16 ∣ rows ∧ height ≤ rows := member
    omega

theorem isLeast_chromaOffset (area : Nat) :
    IsLeast {offset | 2048 ∣ offset ∧ area ≤ offset} ((area + 2047) / 2048 * 2048) := by
  refine ⟨⟨by omega, by omega⟩, fun offset member => ?_⟩
  obtain ⟨multiple, enough⟩ : 2048 ∣ offset ∧ area ≤ offset := member
  omega

namespace VendorRule

def plain (width height : Nat) : BufferLayout := ⟨height, 0, plainSize width height⟩

section
variable {rule : VendorRule} {platform : Platform} (width height : Nat)

theorem raised_self : raised width height height = plain width height := by
  simp [raised, plain]

theorem layout_spared (spared : rule.appliesTo.accepts platform.maker = false) :
    rule.layout width height platform = plain width height := by
  unfold layout
  rw [spared]
  rfl

variable (applied : rule.appliesTo.accepts platform.maker = true)
include applied

theorem layout_none (none : rule.padding = .none) :
    rule.layout width height platform = plain width height := by
  unfold layout
  rw [applied, none]
  rfl

theorem layout_alignHeight (aligns : rule.padding = .alignHeight) :
    rule.layout width height platform = raised width height
      (if height % 16 = 0 then height else height + (16 - height % 16)) := by
  unfold layout
  rw [applied, aligns, if_pos rfl]
  dsimp only
  by_cases aligned : height % 16 = 0
  · rw [if_pos aligned, if_pos aligned, raised_self]
    rfl
  · rw [if_neg aligned, if_neg aligned]

theorem layout_stepHeight (steps : rule.padding = .stepHeight) :
    rule.layout width height platform =
      raised width height (height + (16 - height % 16)) := by
  unfold layout
  rw [applied, steps]
  rfl

theorem layout_alignChromaOffset (aligns : rule.padding = .alignChromaOffset) :
    rule.layout width height platform =
      let padding := (width * height + 2047) / 2048 * 2048 - width * height
      ⟨height, padding, plainSize width height + padding⟩ := by
  unfold layout
  rw [applied, aligns]
  rfl

end

/-- The rows that a height rule adds bring the padding, and a quarter of it for their chroma. -/
theorem bufferSize_raised (width height alignedHeight : Nat) :
    let layout := raised width height alignedHeight
    layout.bufferSize = plainSize width height + layout.padding + layout.padding / 4 := by
  dsimp only [raised]
  omega

theorem bufferSize_layout (rule : VendorRule) (width height : Nat) (platform : Platform) :
    let layout := rule.layout width height platform
    layout.bufferSize = plainSize width height + layout.padding +
      if rule.padding = .alignHeight ∨ rule.padding = .stepHeight then layout.padding / 4 else 0 := by
  cases applied : rule.appliesTo.accepts platform.maker with
  | false => simp [layout_spared width height applied, plain]
  | true =>
    cases padding : rule.padding with
    | none => simp [layout_none width height applied padding, plain]
    | alignHeight =>
      simpa [layout_alignHeight width height applied padding] using bufferSize_raised _ _ _
    | stepHeight =>
      simpa [layout_stepHeight width height applied padding] using bufferSize_raised _ _ _
    | alignChromaOffset => simp [layout_alignChromaOffset width height applied padding]

theorem toNat_and_not_2047 (offset : UInt64) :
    (offset &&& ~~~2047).toNat = offset.toNat / 2048 * 2048 := by
  have kept : (~~~2047 : UInt64).toNat = (2 ^ 53 - 1) <<< 11 := by decide
  have blocks : offset.toNat / 2048 * 2048 = offset.toNat >>> 11 <<< 11 := by
    rw [Nat.shiftLeft_eq, Nat.shiftRight_eq_div_pow]
  rw [UInt64.toNat_and, kept, blocks]
  apply Nat.eq_of_testBit_eq
  intro bit
  rw [Nat.testBit_and, Nat.testBit_shiftLeft, Nat.testBit_shiftLeft, Nat.testBit_shiftRight,
    Nat.testBit_two_pow_sub_one]
  by_cases low : bit < 11
  · simp [Nat.not_le_of_lt low]
  · have back : 11 + (bit - 11) = bit := by omega
    rw [back]
    by_cases inside : bit < 64
    · simp [Nat.le_of_not_lt low, show bit - 11 < 53 by omega]
    · have beyond : offset.toNat.testBit bit = false :=
        Nat.testBit_lt_two_pow (Nat.lt_of_lt_of_le offset.toNat_lt
          (Nat.pow_le_pow_right (by decide) (Nat.le_of_not_lt inside)))
      simp [beyond]

theorem toNat_chromaPadding {area : UInt64} (fits : area.toNat + 2047 < 2 ^ 64) :
    (((area + 2047) &&& ~~~2047) - area).toNat = (area.toNat + 2047) / 2048 * 2048 - area.toNat := by
  have moved : (area + 2047).toNat = area.toNat + 2047 := by
    rw [UInt64.toNat_add]
    exact Nat.mod_eq_of_lt fits
  have rounded : ((area + 2047) &&& ~~~2047).toNat = (area.toNat + 2047) / 2048 * 2048 := by
    rw [toNat_and_not_2047, moved]
  rw [UInt64.toNat_sub_of_le _ _ (UInt64.le_iff_toNat_le.mpr (by omega)), rounded]

section
variable {width height : UInt32} (fits : 3 * (width.toNat * height.toNat) < 2 ^ 64)
include fits

theorem toNat_area :
    (width.toUInt64 * height.toUInt64).toNat = width.toNat * height.toNat := by
  rw [UInt64.toNat_mul, UInt32.toNat_toUInt64, UInt32.toNat_toUInt64]
  exact Nat.mod_eq_of_lt (by omega)

theorem toNat_plainSize :
    (width.toUInt64 * height.toUInt64 * 3 / 2).toNat = plainSize width.toNat height.toNat := by
  rw [UInt64.toNat_div, UInt64.toNat_mul, toNat_area fits]
  show _ * 3 % 2 ^ 64 / 2 = _ * _ * 3 / 2
  rw [Nat.mod_eq_of_lt (by omega)]

theorem toLayout_raisedInWords {alignedHeight : UInt32} {rows : Nat} (few : rows ≤ 16)
    (more : alignedHeight.toNat = height.toNat + rows) :
    (raisedInWords width height alignedHeight).toLayout =
      raised width.toNat height.toNat (height.toNat + rows) := by
  have least : (alignedHeight - height).toNat = rows := by
    rw [UInt32.toNat_sub_of_le _ _ (UInt32.le_iff_toNat_le.mpr (by omega)), more]
    omega
  have bound := Nat.mul_le_mul (Nat.le_of_lt width.toNat_lt) few
  have padding : (width.toUInt64 * (alignedHeight - height).toUInt64).toNat = width.toNat * rows := by
    rw [UInt64.toNat_mul, UInt32.toNat_toUInt64, UInt32.toNat_toUInt64, least]
    exact Nat.mod_eq_of_lt (by omega)
  unfold raisedInWords raised WordLayout.toLayout
  dsimp only
  rw [BufferLayout.mk.injEq, Nat.add_sub_cancel_left]
  refine ⟨more, padding, ?_⟩
  rw [UInt64.toNat_add, toNat_plainSize fits, UInt64.toNat_div, UInt64.toNat_mul, padding]
  show (plainSize _ _ + width.toNat * rows * 5 % 2 ^ 64 / 4) % 2 ^ 64 = _
  have few : width.toNat * rows * 5 < 2 ^ 64 := by omega
  rw [Nat.mod_eq_of_lt few]
  unfold plainSize
  exact Nat.mod_eq_of_lt (by omega)

/-- Words compute the same sizes as long as they do not wrap around. -/
theorem toLayout_layoutInWords (rule : VendorRule) (platform : Platform)
    (rows : height.toNat + (16 - height.toNat % 16) < 2 ^ 32) :
    (rule.layoutInWords width height platform).toLayout =
      rule.layout width.toNat height.toNat platform := by
  have unpadded : (⟨height, 0, width.toUInt64 * height.toUInt64 * 3 / 2⟩ : WordLayout).toLayout =
      plain width.toNat height.toNat :=
    congrArg (BufferLayout.mk height.toNat 0) (toNat_plainSize fits)
  have rest : (height % 16).toNat = height.toNat % 16 := UInt32.toNat_mod ..
  have above : (height + (16 - height % 16)).toNat =
      height.toNat + (16 - height.toNat % 16) := by
    have below : height % 16 ≤ 16 := by
      rw [UInt32.le_iff_toNat_le, rest]
      exact Nat.le_of_lt (Nat.mod_lt _ (by decide))
    rw [UInt32.toNat_add, UInt32.toNat_sub_of_le _ _ below, rest]
    exact Nat.mod_eq_of_lt rows
  have padded := toLayout_raisedInWords fits (Nat.sub_le _ _) above
  unfold layoutInWords layout
  dsimp only
  split
  next applies =>
    cases rule.padding with
    | none => exact unpadded
    | alignHeight =>
      have aligned : height % 16 = 0 ↔ height.toNat % 16 = 0 := by
        rw [← UInt32.toNat_inj, rest]
        rfl
      by_cases multiple : height.toNat % 16 = 0
      · simpa [aligned, multiple, plain] using unpadded
      · simpa [aligned, multiple] using padded
    | stepHeight => exact padded
    | alignChromaOffset =>
      have area := toNat_area fits
      have padding := toNat_chromaPadding (by rw [area]; omega)
      rw [area] at padding
      unfold WordLayout.toLayout
      dsimp only
      rw [BufferLayout.mk.injEq]
      refine ⟨rfl, padding, ?_⟩
      rw [UInt64.toNat_add, toNat_plainSize fits, padding]
      unfold plainSize
      exact Nat.mod_eq_of_lt (by omega)
  next spared => exact unpadded

end

theorem accepts_of_alignHeight {rule : VendorRule} (member : rule ∈ vendorRules)
    (aligns : rule.padding = .alignHeight) (maker : String) :
    rule.appliesTo.accepts maker = true := by
  have any : ∀ rule ∈ vendorRules, rule.padding = .alignHeight → rule.appliesTo = .any := by decide
  rw [any rule member aligns]
  rfl

/-- Every rule of the table aligns exactly as it says. Heights are raised to the least multiple of
sixteen that is not below them, or that is above them, and the padding is as many rows; the chroma is
moved to the least multiple of 2048 bytes, and the height stays; and a rule that adds nothing, or does
not hold for the maker, changes neither. The buffer grows by the padding, and by a quarter of it for a
rule about heights. Machine words come to the same as long as no size leaves their range. -/
theorem layout_aligns {rule : VendorRule} (member : rule ∈ vendorRules) (width height : Nat)
    (platform : Platform) :
    let layout := rule.layout width height platform
    let applied := rule.appliesTo.accepts platform.maker = true
    let addsRows := rule.padding = .alignHeight ∨ rule.padding = .stepHeight
    (rule.padding = .alignHeight →
      IsLeast {rows | 16 ∣ rows ∧ height ≤ rows} layout.alignedHeight) ∧
    (rule.padding = .stepHeight → applied →
      IsLeast {rows | 16 ∣ rows ∧ height < rows} layout.alignedHeight) ∧
    (addsRows → layout.padding = width * (layout.alignedHeight - height)) ∧
    (rule.padding = .alignChromaOffset → applied →
      IsLeast {offset | 2048 ∣ offset ∧ width * height ≤ offset} (width * height + layout.padding) ∧
        layout.padding < 2048 ∧ layout.alignedHeight = height) ∧
    (¬applied ∨ rule.padding = .none → layout.padding = 0 ∧ layout.alignedHeight = height) ∧
    layout.bufferSize = width * height * 3 / 2 + layout.padding +
      (if addsRows then layout.padding / 4 else 0) ∧
    ∀ columns rows : UInt32, columns.toNat = width → rows.toNat = height →
      height + (16 - height % 16) < 2 ^ 32 → 3 * (width * height) < 2 ^ 64 →
        (rule.layoutInWords columns rows platform).toLayout = layout := by
  intro layout applied addsRows
  have spared_plain (spared : ¬applied) : layout = plain width height :=
    layout_spared width height (by simpa [applied] using spared)
  refine ⟨fun aligns => ?_, fun steps applied => ?_, fun adds => ?_, fun aligns applied => ?_,
    fun idle => ?_, ?_, ?_⟩
  · have applied := accepts_of_alignHeight member aligns platform.maker
    simp only [layout, layout_alignHeight width height applied aligns]
    exact isLeast_rows_ge height
  · simp only [layout, layout_stepHeight width height applied steps]
    exact isLeast_rows_gt height
  · by_cases applied : applied
    · rcases adds with aligns | steps
      · simp only [layout, layout_alignHeight width height applied aligns, raised]
      · simp only [layout, layout_stepHeight width height applied steps, raised]
    · rw [spared_plain applied]
      simp [plain]
  · have least := isLeast_chromaOffset (width * height)
    have enough := least.1.2
    have moved : width * height + layout.padding =
        (width * height + 2047) / 2048 * 2048 := by
      simp only [layout, layout_alignChromaOffset width height applied aligns]
      omega
    refine ⟨moved ▸ least, by omega, ?_⟩
    simp only [layout, layout_alignChromaOffset width height applied aligns]
  · have unpadded : layout = plain width height := by
      by_cases applied : applied
      · rcases idle with spared | none
        · exact absurd applied spared
        · exact layout_none width height applied none
      · exact spared_plain applied
    rw [unpadded]
    exact ⟨rfl, rfl⟩
  · exact bufferSize_layout rule width height platform
  · rintro columns rows rfl rfl inRange fits
    exact toLayout_layoutInWords fits rule platform inRange

/-- A height that is a multiple already is raised to the next one, for the one maker that wants it. -/
theorem layout_aligns_stepHeight :
    let rule : VendorRule := ⟨.mtk, .stepHeight, .only ["baidu"], .never⟩
    let platform : Platform := { manufacturer := "Baidu", osVersion := 17 }
    let layout := rule.layout 640 480 platform
    rule ∈ vendorRules ∧ layout = ⟨496, 640 * 16, 640 * 480 * 3 / 2 + 640 * 16 + 640 * 4⟩ ∧
      IsLeast {rows | 16 ∣ rows ∧ 480 < rows} layout.alignedHeight ∧
      (rule.layoutInWords 640 480 platform).toLayout = layout := by
  intro rule platform layout
  have member : rule ∈ vendorRules := by decide
  have applied : rule.appliesTo.accepts platform.maker = true := by cbv
  obtain ⟨-, steps, -, -, -, -, words⟩ := layout_aligns member 640 480 platform
  refine ⟨member, ?_, steps rfl applied, words 640 480 rfl rfl (by decide) (by decide)⟩
  exact layout_stepHeight 640 480 applied rfl

end VendorRule

end Recode.Device
