import Mathlib
import Recode.Picture.Draw
import Recode.Picture.Yuv
import Recode.Simulation.Encoder

/-!
Raw frames on their way to an encoder. Whatever profile is resolved for raw buffers, its frames can
be converted, and an encoder that is configured for their size has room for them. The size with which
they are queued is stated by the profile and not counted by the conversion: it takes in the whole frame
save for planar frames whose chroma starts at a multiple of 2048 bytes, where it leaves out the gap
between the two planes.
-/

namespace Recode.Device

theorem fitting_mem {codecs : List CodecInfo} {mime : String} {codec : CodecInfo} {place : Nat}
    (member : (codec, place) ∈ fitting codecs mime) : codec ∈ codecs ∧ codec.isEncoder = true := by
  obtain ⟨inside, fits⟩ := List.mem_filter.mp member
  simp only [Bool.and_eq_true] at fits
  exact ⟨List.fst_mem_of_mem_zipIdx inside, fits.1⟩

theorem select?_mem {codecs : List CodecInfo} {mime : String} {codec : CodecInfo} {place : Nat}
    (chosen : select? codecs mime = some (codec, place)) :
    codec ∈ codecs ∧ codec.isEncoder = true := by
  apply fitting_mem
  rcases Option.or_eq_some_iff.mp chosen with first | ⟨-, last⟩
  · exact List.mem_of_find?_eq_some first
  · exact List.mem_of_getLast? last

theorem resolve_mem {codecs : List CodecInfo} {platform : Platform} {mime : String}
    {width height : Nat} {encoder : ResolvedEncoder}
    (resolved : resolve codecs platform mime width height = .ok encoder) :
    encoder.codec ∈ codecs ∧ encoder.codec.isEncoder = true := by
  unfold resolve at resolved
  split at resolved
  next none_found => exact nomatch resolved
  next codec place chosen =>
    dsimp only at resolved
    split at resolved
    next surface =>
      cases resolved
      exact select?_mem chosen
    next raw =>
      split at resolved
      next format available =>
        cases resolved
        exact select?_mem chosen
      next unavailable => exact nomatch resolved

theorem selectColorFormat?_mem {codec : CodecInfo} {format : Media.ColorFormat}
    (chosen : selectColorFormat? codec = some format) : format ∈ colorPreference := by
  have available (format : Media.ColorFormat)
      (member : format ∈ colorPreference.filter codec.colorFormats.contains) :
      format ∈ colorPreference := (List.mem_filter.mp member).1
  unfold selectColorFormat? at chosen
  dsimp only at chosen
  split at chosen
  next planarLast =>
    rcases Option.or_eq_some_iff.mp chosen with found | ⟨-, first⟩
    · exact available format (List.mem_of_find?_eq_some found)
    · exact available format (List.mem_of_head? first)
  next other => exact available format (List.mem_of_head? chosen)

/-- A profile that does without an input surface is laid out by the rule of a family, in one of the
preferred formats. -/
theorem resolve_raw {codecs : List CodecInfo} {platform : Platform} {mime : String}
    {width height : Nat} {encoder : ResolvedEncoder}
    (resolved : resolve codecs platform mime width height = .ok encoder)
    (raw : encoder.profile.usesSurfaceInput = false) :
    ∃ family, ∃ format ∈ colorPreference,
      encoder.profile = .raw family format width height platform := by
  unfold resolve at resolved
  split at resolved
  next none_found => exact nomatch resolved
  next codec place chosen =>
    dsimp only at resolved
    split at resolved
    next surface =>
      cases resolved
      exact nomatch raw
    next plain =>
      split at resolved
      next format available =>
        cases resolved
        exact ⟨_, format, selectColorFormat?_mem available, rfl⟩
      next unavailable => exact nomatch resolved

namespace VendorRule
variable (rule : VendorRule) (width height : Nat) (platform : Platform)

/-- No rule puts more than sixteen rows, or a block of 2048 bytes, before the chroma. -/
theorem layout_padding_le :
    (rule.layout width height platform).padding ≤ 16 * width + 2047 := by
  have rows (aligned : Nat) (near : aligned - height ≤ 16) :
      (raised width height aligned).padding ≤ 16 * width + 2047 := by
    have bound := Nat.mul_le_mul_left width near
    simp only [raised]
    omega
  unfold layout
  split
  next applies =>
    cases rule.padding with
    | none => exact Nat.zero_le _
    | alignHeight =>
      dsimp only
      split
      · exact Nat.zero_le _
      · exact rows _ (by omega)
    | stepHeight => exact rows _ (by omega)
    | alignChromaOffset =>
      dsimp only
      omega
  next spared => exact Nat.zero_le _

theorem layout_bufferSize_le :
    (rule.layout width height platform).bufferSize ≤
      plainSize width height + (rule.layout width height platform).padding * 5 / 4 := by
  unfold layout
  split
  next applies =>
    cases rule.padding with
    | none => exact Nat.le_add_right _ _
    | alignHeight =>
      dsimp only
      split
      · exact Nat.le_add_right _ _
      · exact Nat.le_refl _
    | stepHeight => exact Nat.le_refl _
    | alignChromaOffset =>
      dsimp only
      omega
  next spared => exact Nat.le_add_right _ _

end VendorRule

end Recode.Device

namespace Recode.Picture
open Recode.Media Recode.Device Recode.Simulation

theorem four_mul_blockCount_le (width height : Nat) :
    4 * blockCount width height ≤ width * height := by
  have columns := Nat.div_mul_le_self width 2
  have rows := Nat.div_mul_le_self height 2
  have area := Nat.mul_le_mul columns rows
  unfold blockCount
  calc 4 * (width / 2 * (height / 2))
      _ = width / 2 * 2 * (height / 2 * 2) := by ring
      _ ≤ width * height := area

theorem convertedSize_le (layout : ChromaLayout) (width height padding : Nat) :
    convertedSize layout width height padding ≤
      width * height + width * height / 2 + padding + padding / 4 := by
  have blocks := four_mul_blockCount_le width height
  unfold convertedSize
  cases layout with
  | planes => dsimp only; omega
  | pairs => dsimp only; omega

/-- The stated size takes in the padding and a quarter of it, as planar frames need, except where the
place of the chroma is a multiple of 2048 bytes: there what half a frame leaves of its chroma must make
up for the quarter. -/
theorem convertedSize_le_bufferSize_iff (rule : VendorRule) (layout : ChromaLayout)
    (width height : Nat) (platform : Platform) :
    let buffer := rule.layout width height platform
    convertedSize layout width height buffer.padding ≤ buffer.bufferSize ↔
      (rule.padding = .alignChromaOffset → layout = .planes →
        buffer.padding / 4 + 2 * blockCount width height ≤ width * height / 2) := by
  have blocks := four_mul_blockCount_le width height
  have plain (layout : ChromaLayout) :
      convertedSize layout width height 0 ≤ VendorRule.plainSize width height := by
    have converted := convertedSize_le layout width height 0
    unfold VendorRule.plainSize
    omega
  have raised (aligned : Nat) :
      convertedSize layout width height (VendorRule.raised width height aligned).padding ≤
        (VendorRule.raised width height aligned).bufferSize := by
    have converted :=
      convertedSize_le layout width height (VendorRule.raised width height aligned).padding
    simp only [VendorRule.raised, VendorRule.plainSize] at converted ⊢
    omega
  unfold VendorRule.layout
  split
  next applies =>
    cases rule.padding with
    | none => simp [plain]
    | alignHeight =>
      dsimp only
      split
      · simp [plain]
      · simp [raised]
    | stepHeight => simp [raised]
    | alignChromaOffset =>
      cases layout with
      | planes =>
        simp only [convertedSize, VendorRule.plainSize, forall_const]
        omega
      | pairs =>
        simp only [convertedSize, VendorRule.plainSize, reduceCtorEq, false_implies, implies_true,
          iff_true]
        omega
  next spared =>
    simp only [plain, true_iff]
    omega

theorem of?_isSome {format : ColorFormat} (preferred : format ∈ colorPreference) :
    (ChromaLayout.of? format).isSome = true := by
  have all : ∀ format ∈ colorPreference, (ChromaLayout.of? format).isSome = true := by decide
  exact all format preferred

theorem Profile.raw_fits {family : Family} {format : ColorFormat} (preferred : format ∈ colorPreference)
    (width height : Nat) (platform : Platform) :
    (∃ layout, ChromaLayout.of? format = some layout ∧
      convertedSize layout width height (Profile.raw family format width height platform).bufferPadding ≤
        Encoder.inputCapacity width height) ∧
    (Profile.raw family format width height platform).bufferSize ≤
      Encoder.inputCapacity width height := by
  have padding := family.rule.layout_padding_le width height platform
  have size := family.rule.layout_bufferSize_le width height platform
  have room : Encoder.inputCapacity width height = 2 * (width * height) + 32 * width + 4096 := by
    unfold Encoder.inputCapacity
    ring
  constructor
  · obtain ⟨layout, found⟩ := Option.isSome_iff_exists.mp (of?_isSome preferred)
    refine ⟨layout, found, ?_⟩
    have converted := convertedSize_le layout width height
      (family.rule.layout width height platform).padding
    simp only [Profile.raw]
    omega
  · simp only [Profile.raw, VendorRule.plainSize] at size ⊢
    omega

theorem convert_ok {pixels buffer : Bytes} {format : ColorFormat} {layout : ChromaLayout}
    {width height padding : Nat} (swap : Bool) (whole : pixels.size = 4 * (width * height))
    (found : ChromaLayout.of? format = some layout)
    (fits : convertedSize layout width height padding ≤ buffer.size) :
    ∃ converted, convert pixels buffer format width height padding swap = .ok converted := by
  unfold convert
  rw [if_neg (by omega), found]
  dsimp only
  rw [if_neg (by omega)]
  exact ⟨_, rfl⟩

theorem written_of_convert {pixels buffer content : Bytes} {format : ColorFormat}
    {width height padding written : Nat} {swap : Bool}
    (converted : convert pixels buffer format width height padding swap = .ok (written, content)) :
    ∃ layout, ChromaLayout.of? format = some layout ∧
      written = convertedSize layout width height padding := by
  unfold convert at converted
  split at converted
  next short => exact nomatch converted
  next whole =>
    split at converted
    next unknown => exact nomatch converted
    next layout found =>
      dsimp only at converted
      split at converted
      next narrow => exact nomatch converted
      next fits =>
        cases converted
        exact ⟨layout, found, rfl⟩

theorem of?_eq_planes_iff {format : ColorFormat} :
    ChromaLayout.of? format = some .planes ↔ format.isPlanar = true := by
  unfold ChromaLayout.of?
  split
  next planar => simp [planar]
  next other => split <;> simp [other]

theorem rule_padding_eq_alignChromaOffset_iff (family : Family) :
    family.rule.padding = .alignChromaOffset ↔ family = .qcom := by
  cases family <;> decide

/-- A converted frame is queued whole, except in planar form for encoders of the family that has its
chroma at a multiple of 2048 bytes: there only if the gap between the planes and the chroma come to no
more than half a frame. -/
theorem raw_frame_whole_iff {codecs : List CodecInfo} {platform : Platform} {mime : String}
    {width height written : Nat} {encoder : ResolvedEncoder} {pixels buffer content : Bytes}
    (resolved : resolve codecs platform mime width height = .ok encoder)
    (raw : encoder.profile.usesSurfaceInput = false)
    (converted : convert pixels buffer encoder.profile.colorFormat width height
      encoder.profile.bufferPadding encoder.profile.swapChroma = .ok (written, content)) :
    written ≤ encoder.profile.bufferSize ↔
      (encoder.profile.family = .qcom → encoder.profile.colorFormat.isPlanar = true →
        encoder.profile.bufferPadding / 4 + 2 * blockCount width height ≤ width * height / 2) := by
  obtain ⟨family, format, -, profile⟩ := resolve_raw resolved raw
  obtain ⟨layout, found, rfl⟩ := written_of_convert converted
  rw [profile] at found ⊢
  change ChromaLayout.of? format = some layout at found
  have planar : layout = .planes ↔ format.isPlanar = true := by
    rw [← of?_eq_planes_iff, found, Option.some.injEq]
  have fits := convertedSize_le_bufferSize_iff family.rule layout width height platform
  rwa [rule_padding_eq_alignChromaOffset_iff, planar] at fits

/-- Two bytes of chroma in turn leave no gap: a semi-planar frame is queued whole. -/
theorem raw_frame_whole_iff_semiPlanar :
    let codec := CodecInfo.encoder "OMX.qcom.video.encoder.avc" videoAvc [.yuv420SemiPlanar]
    let platform : Platform := { osVersion := 17 }
    ∃ encoder written content,
      resolve [codec] platform videoAvc 4 4 = .ok encoder ∧
      convert (Array.replicate 64 0) (Array.replicate 4096 0) encoder.profile.colorFormat 4 4
        encoder.profile.bufferPadding encoder.profile.swapChroma = .ok (written, content) ∧
      written ≤ encoder.profile.bufferSize := by
  intro codec platform
  have resolved : resolve [codec] platform videoAvc 4 4 =
      .ok ⟨codec, ⟨.yuv420SemiPlanar, 2032, false, .qcom, 4, 2056⟩⟩ := by cbv
  obtain ⟨⟨written, content⟩, converted⟩ :
      ∃ frame, convert (Array.replicate 64 0) (Array.replicate 4096 0) .yuv420SemiPlanar 4 4 2032
        false = .ok frame := convert_ok false rfl rfl (by simp [convertedSize, blockCount])
  exact ⟨_, written, content, resolved, converted,
    (raw_frame_whole_iff resolved rfl converted).mpr fun _ planar => by cases planar⟩

/-- The gap between the planes of a small frame is left out, and with it the end of the last plane. -/
theorem raw_frame_not_whole :
    ¬∀ (codecs : List CodecInfo) (platform : Platform) (mime : String) (width height written : Nat)
      (encoder : ResolvedEncoder) (pixels buffer content : Bytes),
      1 ≤ width → 1 ≤ height → resolve codecs platform mime width height = .ok encoder →
        encoder.profile.usesSurfaceInput = false →
        convert pixels buffer encoder.profile.colorFormat width height
          encoder.profile.bufferPadding encoder.profile.swapChroma = .ok (written, content) →
        written ≤ encoder.profile.bufferSize := by
  intro always
  let codec := CodecInfo.encoder "OMX.qcom.video.encoder.avc" videoAvc [.yuv420Planar]
  have resolved : resolve [codec] { osVersion := 17 } videoAvc 4 4 =
      .ok ⟨codec, ⟨.yuv420Planar, 2032, false, .qcom, 4, 2056⟩⟩ := by cbv
  obtain ⟨⟨written, content⟩, converted⟩ :
      ∃ frame, convert (Array.replicate 64 0) (Array.replicate 4096 0) .yuv420Planar 4 4 2032
        false = .ok frame := convert_ok false rfl rfl (by simp [convertedSize, blockCount])
  obtain ⟨layout, planes, rfl⟩ := written_of_convert converted
  cases planes
  have whole := always _ _ _ _ _ _ _ _ _ _ (by decide) (by decide) resolved rfl converted
  exact absurd whole (by decide)

end Recode.Picture
