import Recode.Device.Resolver

/-!
The choice of an encoder. It is made by name alone, before anything is asked of what the encoder can
take, so a device is served exactly if the encoder chosen is one to which frames can be handed. Another
one further down the list is of no help.
-/

namespace Recode.Device
open Recode.Media

def encodersOf (codecs : List CodecInfo) (mime : String) : List CodecInfo :=
  codecs.filter fun codec => codec.isEncoder && codec.supports mime

/-- The encoder that is chosen: the first that is not the reluctant one, or else the last of all. -/
inductive Chosen (codecs : List CodecInfo) (mime : String) : CodecInfo → Prop where
  | first {before after : List CodecInfo} {codec : CodecInfo}
      (listed : encodersOf codecs mime = before ++ codec :: after)
      (willing : codec.name ≠ reluctantEncoder)
      (passed : ∀ other ∈ before, other.name = reluctantEncoder) : Chosen codecs mime codec
  | last {before : List CodecInfo} {codec : CodecInfo}
      (listed : encodersOf codecs mime = before ++ [codec])
      (reluctant : ∀ other ∈ encodersOf codecs mime, other.name = reluctantEncoder) :
      Chosen codecs mime codec

/-- The codec is an encoder of the type, and frames can be handed to it on the platform: through its
input surface, or in one of the layouts to which they can be converted. -/
structure CodecInfo.Usable (codec : CodecInfo) (platform : Platform) (mime : String) : Prop where
  isEncoder : codec.isEncoder = true
  supports : codec.supports mime = true
  takes : platform.supportsSurfaceInput = true ∧ .surface ∈ codec.colorFormats ∨
    ∃ format ∈ colorPreference, format ∈ codec.colorFormats

variable {codecs : List CodecInfo} {mime : String} {codec : CodecInfo}

theorem mem_encodersOf : codec ∈ encodersOf codecs mime ↔
    codec ∈ codecs ∧ codec.isEncoder = true ∧ codec.supports mime = true := by
  unfold encodersOf
  rw [List.mem_filter, Bool.and_eq_true]

theorem map_fitting (codecs : List CodecInfo) (mime : String) :
    (fitting codecs mime).map (·.1) = encodersOf codecs mime := by
  calc (fitting codecs mime).map (·.1)
      _ = (codecs.zipIdx.map (·.1)).filter fun codec => codec.isEncoder && codec.supports mime := by
          rw [List.filter_map]
          rfl
      _ = encodersOf codecs mime := by
          rw [List.zipIdx_map_fst]
          rfl

theorem map_select? (codecs : List CodecInfo) (mime : String) :
    (select? codecs mime).map (·.1) =
      ((encodersOf codecs mime).find? (·.name ≠ reluctantEncoder)).or
        (encodersOf codecs mime).getLast? := by
  unfold select?
  rw [Option.map_or, ← map_fitting, List.find?_map, List.getLast?_map]
  rfl

theorem map_select?_eq_some_iff :
    (select? codecs mime).map (·.1) = some codec ↔ Chosen codecs mime codec := by
  have willing_iff (other : CodecInfo) :
      (!decide (other.name ≠ reluctantEncoder)) = true ↔ other.name = reluctantEncoder := by
    simp
  rw [map_select?, Option.or_eq_some_iff, List.find?_eq_some_iff_append]
  constructor
  · rintro (⟨willing, before, after, listed, passed⟩ | ⟨none_willing, ends⟩)
    · exact .first listed (of_decide_eq_true willing) fun other member =>
        (willing_iff other).mp (passed other member)
    · obtain ⟨before, listed⟩ := List.getLast?_eq_some_iff.mp ends
      refine .last listed fun other member => ?_
      simpa using List.find?_eq_none.mp none_willing other member
  · rintro (⟨listed, willing, passed⟩ | ⟨listed, reluctant⟩)
    · exact .inl ⟨decide_eq_true willing, _, _, listed, fun other member =>
        (willing_iff other).mpr (passed other member)⟩
    · refine .inr ⟨List.find?_eq_none.mpr fun other member => ?_, ?_⟩
      · simpa using reluctant other member
      · rw [listed]
        exact List.getLast?_concat

theorem Chosen.mem (chosen : Chosen codecs mime codec) : codec ∈ encodersOf codecs mime := by
  cases chosen with
  | first listed _ _ =>
    rw [listed]
    exact List.mem_append_right _ List.mem_cons_self
  | last listed _ =>
    rw [listed]
    exact List.mem_append_right _ List.mem_cons_self

theorem Chosen.unique {other : CodecInfo} (chosen : Chosen codecs mime codec)
    (also : Chosen codecs mime other) : codec = other :=
  Option.some.inj ((map_select?_eq_some_iff.mpr chosen).symm.trans (map_select?_eq_some_iff.mpr also))

theorem select?_eq_none_iff : select? codecs mime = none ↔ encodersOf codecs mime = [] := by
  rw [← Option.map_eq_none_iff, map_select?, Option.or_eq_none_iff, List.getLast?_eq_none_iff]
  constructor
  · exact And.right
  · intro empty
    rw [empty]
    exact ⟨rfl, rfl⟩

theorem mem_of_selectColorFormat? {format : ColorFormat}
    (found : selectColorFormat? codec = some format) :
    format ∈ colorPreference ∧ format ∈ codec.colorFormats := by
  have available : format ∈ colorPreference.filter codec.colorFormats.contains := by
    unfold selectColorFormat? at found
    dsimp only at found
    split at found
    next planarLast =>
      rcases Option.or_eq_some_iff.mp found with other | ⟨-, first⟩
      · exact List.mem_of_find?_eq_some other
      · exact List.mem_of_head? first
    next plain => exact List.mem_of_head? found
  simpa using available

theorem selectColorFormat?_eq_none_iff : selectColorFormat? codec = none ↔
    ∀ format ∈ colorPreference, format ∉ codec.colorFormats := by
  have nothing_iff : colorPreference.filter codec.colorFormats.contains = [] ↔
      ∀ format ∈ colorPreference, format ∉ codec.colorFormats := by
    simp [List.filter_eq_nil_iff]
  rw [← nothing_iff]
  unfold selectColorFormat?
  dsimp only
  split
  next planarLast =>
    rw [Option.or_eq_none_iff, List.head?_eq_none_iff]
    constructor
    · exact And.right
    · intro nothing
      rw [nothing]
      exact ⟨rfl, rfl⟩
  next plain => exact List.head?_eq_none_iff

theorem resolve_of_select {platform : Platform} {width height place : Nat}
    (chosen : select? codecs mime = some (codec, place)) :
    match resolve codecs platform mime width height with
    | .ok encoder => encoder.codec = codec ∧ (encoder.profile.usesSurfaceInput = true ↔
        platform.supportsSurfaceInput = true ∧ .surface ∈ codec.colorFormats) ∧
        (platform.supportsSurfaceInput = true ∧ .surface ∈ codec.colorFormats ∨
          ∃ format ∈ colorPreference, format ∈ codec.colorFormats)
    | .error fault => fault = .noColorFormat codec.name ∧
        ¬(platform.supportsSurfaceInput = true ∧ .surface ∈ codec.colorFormats) ∧
        ∀ format ∈ colorPreference, format ∉ codec.colorFormats := by
  have surface_iff : (platform.supportsSurfaceInput && codec.supportsSurfaceInput) = true ↔
      platform.supportsSurfaceInput = true ∧ .surface ∈ codec.colorFormats := by
    simp [CodecInfo.supportsSurfaceInput]
  unfold resolve
  rw [chosen]
  dsimp only
  by_cases surface : (platform.supportsSurfaceInput && codec.supportsSurfaceInput) = true
  · rw [if_pos surface]
    have both := surface_iff.mp surface
    exact ⟨rfl, iff_of_true rfl both, .inl both⟩
  · rw [if_neg surface]
    cases found : selectColorFormat? codec with
    | some format =>
      obtain ⟨preferred, advertised⟩ := mem_of_selectColorFormat? found
      refine ⟨rfl, iff_of_false (fun uses => ?_) (mt surface_iff.mpr surface),
        .inr ⟨format, preferred, advertised⟩⟩
      -- The surface is none of the layouts to which frames are converted.
      have isSurface : format = .surface := by
        change (format == ColorFormat.surface) = true at uses
        exact beq_iff_eq.mp uses
      rw [isSurface] at preferred
      exact absurd preferred (by decide)
    | none =>
      exact ⟨rfl, mt surface_iff.mpr surface, selectColorFormat?_eq_none_iff.mp found⟩

/-- An encoder is resolved exactly if the one chosen by name is usable. It is then that one, and it is
given its frames through its input surface exactly if both the platform and the encoder have one.
Otherwise there is no encoder of the type, or it is the chosen one that cannot take frames. -/
theorem resolve_ok_iff_chosen_usable (codecs : List CodecInfo) (platform : Platform) (mime : String)
    (width height : Nat) :
    ((∃ encoder, resolve codecs platform mime width height = .ok encoder) ↔
      ∃ codec, Chosen codecs mime codec ∧ codec.Usable platform mime) ∧
    match resolve codecs platform mime width height with
    | .ok encoder => encoder.codec ∈ codecs ∧ Chosen codecs mime encoder.codec ∧
        encoder.codec.Usable platform mime ∧ (encoder.profile.usesSurfaceInput = true ↔
          platform.supportsSurfaceInput = true ∧ .surface ∈ encoder.codec.colorFormats)
    | .error fault => fault = .noEncoder mime ∧ encodersOf codecs mime = [] ∨
        ∃ codec, Chosen codecs mime codec ∧ ¬codec.Usable platform mime ∧
          fault = .noColorFormat codec.name := by
  cases selected : select? codecs mime with
  | none =>
    have empty := select?_eq_none_iff.mp selected
    have refused : resolve codecs platform mime width height = .error (.noEncoder mime) := by
      unfold resolve
      rw [selected]
    rw [refused]
    refine ⟨iff_of_false (fun ⟨_, resolved⟩ => nomatch resolved) ?_, .inl ⟨rfl, empty⟩⟩
    rintro ⟨codec, chosen, -⟩
    exact absurd chosen.mem (empty ▸ List.not_mem_nil)
  | some found =>
    obtain ⟨codec, place⟩ := found
    have chosen : Chosen codecs mime codec := by
      rw [← map_select?_eq_some_iff, selected]
      rfl
    obtain ⟨member, isEncoder, supports⟩ := mem_encodersOf.mp chosen.mem
    have comes := @resolve_of_select codecs mime codec platform width height place selected
    cases resolved : resolve codecs platform mime width height with
    | ok encoder =>
      rw [resolved] at comes
      obtain ⟨rfl, uses, takes⟩ := comes
      have usable : encoder.codec.Usable platform mime := ⟨isEncoder, supports, takes⟩
      exact ⟨iff_of_true ⟨encoder, rfl⟩ ⟨_, chosen, usable⟩, member, chosen, usable, uses⟩
    | error fault =>
      rw [resolved] at comes
      obtain ⟨rfl, noSurface, noFormat⟩ := comes
      have useless : ¬codec.Usable platform mime := by
        intro usable
        rcases usable.takes with surface | ⟨format, preferred, advertised⟩
        · exact noSurface surface
        · exact noFormat format preferred advertised
      refine ⟨iff_of_false (fun ⟨_, served⟩ => nomatch served) ?_, .inr ⟨codec, chosen, useless, rfl⟩⟩
      rintro ⟨other, also, usable⟩
      exact useless (chosen.unique also ▸ usable)

/-- An encoder that takes frames in no known layout, ahead of one that takes them through its input
surface. -/
def oddEncoderFirst : List CodecInfo :=
  [.encoder "OMX.odd.encoder" videoAvc [.other 2135033992],
    .encoder "OMX.qcom.video.encoder.avc" videoAvc [.surface]]

/-- The encoder behind the odd one is usable, and is not asked for. -/
theorem usable_encoder_passed_over :
    (∃ codec ∈ oddEncoderFirst, codec.Usable ⟨"google", "pixel", 21⟩ videoAvc) ∧
      resolve oddEncoderFirst ⟨"google", "pixel", 21⟩ videoAvc 640 360 =
        .error (.noColorFormat "OMX.odd.encoder") := by
  constructor
  · refine ⟨.encoder "OMX.qcom.video.encoder.avc" videoAvc [.surface],
      List.mem_cons_of_mem _ List.mem_cons_self, rfl, ?_, .inl ⟨by decide, List.mem_cons_self⟩⟩
    decide +kernel
  · have chosen : select? oddEncoderFirst videoAvc =
        some (.encoder "OMX.odd.encoder" videoAvc [.other 2135033992], 0) := by
      decide +kernel
    unfold resolve
    rw [chosen]
    rfl

end Recode.Device
