import Recode.Job.Parameters

/-!
The turn of the source in the output. A platform leaves it to the container, or draws frames turned
and leaves the container less. Frames that are copied are not drawn, and the decision to copy looks
at sizes alone: a copy keeps the turn exactly where no frame would have been drawn turned. Frames
that are drawn are shown turned as their source only where the turn of the drawing and that of the
container add up to it, and for quarter turns that are drawn they do not.
-/

namespace Recode.Job
open Recode.Media Recode.Container Recode.Device

theorem supportsSurfaceInput_of_rendersRotation {platform : Platform}
    (renders : platform.rendersRotation = true) : platform.supportsSurfaceInput = true := by
  have recent : rotationRenderMinVersion ≤ platform.osVersion := of_decide_eq_true renders
  exact decide_eq_true (Nat.le_trans (by decide) recent)

def targetSize (options : Options) (source : Metadata) : Nat × Nat :=
  (options.width.getD (standardWidth source.width),
    options.height.getD (standardHeight source.height))

/-- A target that is drawn lying on its side where frames reach the encoder as raw buffers. -/
def LaidDown (source target : Nat × Nat) : Prop :=
  target.1 < target.2 ∧ target.1 ≠ source.1 ∧ target.2 ≠ source.2

section
variable {source target : Nat × Nat} {platform : Platform} (rotation : Rotation)

theorem orient_laidDown (raw : platform.supportsSurfaceInput = false)
    (laidDown : LaidDown source target) :
    orient source target rotation platform = ⟨target.2, target.1, .deg90, .deg270⟩ := by
  unfold LaidDown at laidDown
  simp [orient, raw, laidDown]

theorem orient_upright (raw : platform.supportsSurfaceInput = false)
    (upright : ¬LaidDown source target) :
    orient source target rotation platform = ⟨target.1, target.2, rotation, .deg0⟩ := by
  unfold LaidDown at upright
  simp [orient, raw, upright]

theorem orient_unrendered (surface : platform.supportsSurfaceInput = true)
    (unable : platform.rendersRotation = false) :
    orient source target rotation platform = ⟨target.1, target.2, rotation, .deg0⟩ := by
  simp [orient, surface, unable]

/-- Platforms that draw turned frames leave the container no turn. -/
theorem orient_rendered (renders : platform.rendersRotation = true) :
    (orient source target rotation platform).containerRotation = .deg0 ∧
      ((orient source target rotation platform).renderRotation = .deg0 ↔ rotation = .deg0) := by
  have surface := supportsSurfaceInput_of_rendersRotation renders
  cases rotation <;> simp [orient, surface, renders]

end

theorem orient_size (source target : Nat × Nat) (rotation : Rotation) (platform : Platform) :
    let drawn := orient source target rotation platform
    (drawn.width, drawn.height) = target ∨ (drawn.width, drawn.height) = target.swap := by
  unfold orient
  dsimp only
  split
  next raw =>
    split
    next laid => exact .inr rfl
    next stands => exact .inl rfl
  next surface =>
    split
    next unable => exact .inl rfl
    next renders =>
      cases rotation with
      | deg0 | deg180 => exact .inl rfl
      | deg90 | deg270 => exact .inr rfl

theorem resolve_oriented {options : Options} {source : Metadata} {platform : Platform}
    {parameters : Parameters}
    (resolved : Parameters.resolve options source platform = .ok parameters) :
    (0 < (targetSize options source).1 ∧ 0 < (targetSize options source).2) ∧
      let drawn :=
        orient (source.width, source.height) (targetSize options source) source.rotation platform
      parameters.width = drawn.width ∧ parameters.height = drawn.height ∧
        parameters.containerRotation = drawn.containerRotation ∧
        parameters.renderRotation = drawn.renderRotation ∧
        parameters.transcode = (drawn.width != source.width || drawn.height != source.height) := by
  unfold Parameters.resolve at resolved
  dsimp only at resolved
  split at resolved
  next empty => exact nomatch resolved
  next whole =>
    cases resolved
    refine ⟨?_, rfl, rfl, rfl, rfl, rfl⟩
    unfold targetSize
    omega

section
variable {options : Options} {source : Metadata} {platform : Platform} {parameters : Parameters}

theorem size_pos_of_resolve (resolved : Parameters.resolve options source platform = .ok parameters) :
    0 < parameters.width ∧ 0 < parameters.height := by
  obtain ⟨⟨width_pos, height_pos⟩, width, height, -⟩ := resolve_oriented resolved
  rw [width, height]
  rcases orient_size (source.width, source.height) (targetSize options source) source.rotation
    platform with upright | onSide
  · obtain ⟨same_width, same_height⟩ := Prod.mk.inj upright
    exact ⟨same_width ▸ width_pos, same_height ▸ height_pos⟩
  · obtain ⟨same_width, same_height⟩ := Prod.mk.inj onSide
    exact ⟨same_width ▸ height_pos, same_height ▸ width_pos⟩

theorem size_of_copied (resolved : Parameters.resolve options source platform = .ok parameters)
    (copied : parameters.transcode = false) :
    let drawn :=
      orient (source.width, source.height) (targetSize options source) source.rotation platform
    drawn.width = source.width ∧ drawn.height = source.height := by
  obtain ⟨-, -, -, -, -, decided⟩ := resolve_oriented resolved
  rw [copied] at decided
  simpa using decided.symm

theorem laidDown_iff_of_copied
    (resolved : Parameters.resolve options source platform = .ok parameters)
    (copied : parameters.transcode = false) (raw : platform.supportsSurfaceInput = false) :
    LaidDown (source.width, source.height) (targetSize options source) ↔
      targetSize options source = (source.height, source.width) ∧ source.height < source.width := by
  obtain ⟨width, height⟩ := size_of_copied resolved copied
  constructor
  · intro laidDown
    rw [orient_laidDown _ raw laidDown] at width height
    have exchanged : targetSize options source = (source.height, source.width) :=
      Prod.ext height width
    have upright := laidDown.1
    rw [exchanged] at upright
    exact ⟨exchanged, upright⟩
  · rintro ⟨same, lying⟩
    rw [same]
    exact ⟨lying, Nat.ne_of_lt lying, Nat.ne_of_gt lying⟩

/-- A copy keeps the turn of its source, and asks for no turned frames, except on platforms that draw
turned frames, where the turn of any turned source is lost, and on those without surface input, where
a lying source is given a turn if it is to be upright. -/
theorem copy_keeps_rotation_iff
    (resolved : Parameters.resolve options source platform = .ok parameters)
    (copied : parameters.transcode = false) :
    (parameters.containerRotation = source.rotation ∧ parameters.renderRotation = .deg0) ↔
      if platform.supportsSurfaceInput then
        platform.rendersRotation = true → source.rotation = .deg0
      else
        ¬(targetSize options source = (source.height, source.width) ∧
          source.height < source.width) := by
  obtain ⟨-, -, -, container, render, -⟩ := resolve_oriented resolved
  rw [container, render]
  cases surface : platform.supportsSurfaceInput with
  | false =>
    rw [if_neg (by simp), ← laidDown_iff_of_copied resolved copied surface]
    by_cases laidDown : LaidDown (source.width, source.height) (targetSize options source)
    · rw [orient_laidDown _ surface laidDown]
      simp [laidDown]
    · rw [orient_upright _ surface laidDown]
      simp [laidDown]
  | true =>
    rw [if_pos rfl]
    cases renders : platform.rendersRotation with
    | false =>
      rw [orient_unrendered _ surface renders]
      simp
    | true =>
      let drawn :=
        orient (source.width, source.height) (targetSize options source) source.rotation platform
      obtain ⟨container, render⟩ : drawn.containerRotation = .deg0 ∧
          (drawn.renderRotation = .deg0 ↔ source.rotation = .deg0) :=
        orient_rendered source.rotation renders
      rw [container, render]
      constructor
      · intro kept _
        exact kept.2
      · intro unturned
        exact ⟨(unturned rfl).symm, unturned rfl⟩

/-- Drawn with the one turn and shown with the other, the picture is turned as its source is, except
on platforms that draw turned frames, which draw quarter turns the wrong way round, and on those
without surface input, where a target that is laid down takes the place of the source's own turn. -/
theorem shown_as_source_iff
    (resolved : Parameters.resolve options source platform = .ok parameters) :
    (parameters.renderRotation.degrees + parameters.containerRotation.degrees) % 360 =
        source.rotation.degrees ↔
      if platform.supportsSurfaceInput then
        platform.rendersRotation = true → source.rotation.swapsDimensions = false
      else
        LaidDown (source.width, source.height) (targetSize options source) →
          source.rotation = .deg0 := by
  obtain ⟨-, -, -, container, render, -⟩ := resolve_oriented resolved
  rw [container, render]
  have alone : (Rotation.deg0.degrees + source.rotation.degrees) % 360 = source.rotation.degrees := by
    cases source.rotation <;> rfl
  cases surface : platform.supportsSurfaceInput with
  | false =>
    rw [if_neg (by simp)]
    by_cases laidDown : LaidDown (source.width, source.height) (targetSize options source)
    · -- The two turns that lay a target down undo each other.
      rw [orient_laidDown _ surface laidDown]
      simp only [laidDown, true_imp_iff]
      cases source.rotation <;> decide
    · rw [orient_upright _ surface laidDown]
      simp [laidDown, alone]
  | true =>
    rw [if_pos rfl]
    cases renders : platform.rendersRotation with
    | false =>
      rw [orient_unrendered _ surface renders]
      simp [alone]
    | true =>
      cases source.rotation <;>
        simp [orient, surface, renders, Rotation.degrees, Rotation.swapsDimensions]

end

/-- A quarter turn is kept by a copy on a platform that leaves all turns to the container. -/
theorem copy_keeps_rotation_iff_unrendered :
    let source : Metadata := ⟨640, 480, .deg90, 1000000⟩
    let platform : Platform := { osVersion := 18 }
    let parameters : Parameters := ⟨640, 480, 1500000, .deg90, .deg0, false⟩
    Parameters.resolve {} source platform = .ok parameters ∧
      (parameters.containerRotation = source.rotation ∧ parameters.renderRotation = .deg0) := by
  intro source platform parameters
  have resolved : Parameters.resolve {} source platform = .ok parameters := rfl
  exact ⟨resolved, (copy_keeps_rotation_iff resolved rfl).mpr (by decide)⟩

/-- Turned upside down, a source of the size that is asked for is copied, and its turn is told to
nobody. -/
theorem copy_loses_half_turn :
    ¬∀ (options : Options) (source : Metadata) (platform : Platform) (parameters : Parameters),
      Parameters.resolve options source platform = .ok parameters → parameters.transcode = false →
        parameters.containerRotation = source.rotation ∧ parameters.renderRotation = .deg0 := by
  intro always
  have kept := always { width := some 64, height := some 48 } ⟨64, 48, .deg180, 0⟩ {}
    ⟨64, 48, 4000000, .deg0, .deg180, false⟩ rfl rfl
  exact absurd kept.1 (by decide)

/-- A source of which a platform shows its quarter turn by the container alone is enlarged. -/
theorem shown_as_source_iff_unrendered :
    let source : Metadata := ⟨640, 480, .deg90, 1000000⟩
    let options : Options := { width := some 1280, height := some 720 }
    let platform : Platform := { osVersion := 18 }
    let parameters : Parameters := ⟨1280, 720, 5500000, .deg90, .deg0, true⟩
    Parameters.resolve options source platform = .ok parameters ∧
      (parameters.renderRotation.degrees + parameters.containerRotation.degrees) % 360 =
        source.rotation.degrees := by
  intro source options platform parameters
  have resolved : Parameters.resolve options source platform = .ok parameters := rfl
  refine ⟨resolved, (shown_as_source_iff resolved).mpr ?_⟩
  rw [if_pos (by decide)]
  decide

/-- A quarter turn is drawn as three, so the picture is shown upside down. -/
theorem transcode_shows_quarter_turn_reversed :
    ¬∀ (options : Options) (source : Metadata) (platform : Platform) (parameters : Parameters),
      Parameters.resolve options source platform = .ok parameters → parameters.transcode = true →
        (parameters.renderRotation.degrees + parameters.containerRotation.degrees) % 360 =
          source.rotation.degrees := by
  intro always
  have shown := always {} ⟨1280, 720, .deg90, 0⟩ {} ⟨720, 1280, 5500000, .deg0, .deg270, true⟩ rfl rfl
  exact absurd shown (by decide)

end Recode.Job
