import Recode.Proofs.FramePlaces
import Recode.Proofs.Painting

/-!
The conversion in a buffer, checked against the frame that it should leave there. Every write puts a
byte where the frame has that byte, so no write spoils what another has done; and whatever is not
written has been cleared, or is behind the frame and stays. All places that are reckoned on the way
are within their buffers.
-/

namespace Recode.Picture
open Recode.Media Recode.Device

section
variable {pixels target : Bytes} {width height needed : Nat} {places : ChromaPlaces}

def paintedBy (width height : Nat) (places : ChromaPlaces) (y x place : Nat) : Prop :=
  place = y * width + x ∨ isUpperLeft width height x y = true ∧
    (place = places.blue + (y / 2 * (width / 2) + x / 2) * places.step ∨
      place = places.red + (y / 2 * (width / 2) + x / 2) * places.step)

theorem paints_pixel (whole : width * height * 4 ≤ pixels.size)
    (framed : Framed pixels width height needed places blueChromaAt redChromaAt target)
    {x y : Nat} (column : x < width) (row : y < height) :
    Paints target (paintPixel pixels width height places y x)
      (paintedBy width height places y x) := by
  have inside := pixel_lt column row
  obtain ⟨r, g, b, colour⟩ := exists_colour whole inside
  have luma := paints_put (framed.luma _ inside)
  rw [lumaAt, colour.component_eq] at luma
  intro bytes size
  unfold paintPixel
  dsimp only
  rw [colour.1, colour.2.1, colour.2.2]
  cases upper : isUpperLeft width height x y with
  | false =>
    obtain ⟨left, ran, sized, done⟩ := luma.andThen (paints_nothing target) bytes size
    refine ⟨left, ran, sized, fun place agrees => done place ?_⟩
    unfold paintedBy at agrees
    simpa [upper] using agrees
  | true =>
    have corner : x % 2 = 0 ∧ y % 2 = 0 ∧ x / 2 < width / 2 ∧ y / 2 < height / 2 := by
      simpa [isUpperLeft] using upper
    obtain ⟨evenColumn, evenRow, blockColumn, blockRow⟩ := corner
    have pixel : blockPixel width (y / 2 * (width / 2) + x / 2) = y * width + x := by
      have column : 2 * (x / 2) = x := by omega
      have row : 2 * (y / 2) = y := by omega
      rw [blockPixel_eq blockColumn, column, row]
    have isBlock := block_lt blockColumn blockRow
    have blue := paints_put (framed.blue _ isBlock)
    have red := paints_put (framed.red _ isBlock)
    rw [pixel, blueChromaAt, colour.component_eq] at blue
    rw [pixel, redChromaAt, colour.component_eq] at red
    obtain ⟨left, ran, sized, done⟩ := luma.andThen (blue.andThen red) bytes size
    refine ⟨left, ran, sized, fun place agrees => done place ?_⟩
    unfold paintedBy at agrees
    simpa [upper] using agrees

theorem paints_paint (whole : width * height * 4 ≤ pixels.size)
    (framed : Framed pixels width height needed places blueChromaAt redChromaAt target) :
    Paints target (paint pixels width height places) fun place =>
      ∃ y < height, ∃ x < width, paintedBy width height places y x place :=
  Paints.each fun _ row => Paints.each fun _ column => paints_pixel whole framed column row

/-- Every place of the luma belongs to a pixel. -/
theorem painted_luma {place : Nat} (inside : place < width * height) :
    ∃ y < height, ∃ x < width, paintedBy width height places y x place := by
  obtain ⟨x, column, y, row, here⟩ := exists_pixel inside
  exact ⟨y, row, x, column, .inl here⟩

theorem painted_chroma {block place : Nat} (inside : block < blockCount width height)
    (here : place = places.blue + block * places.step ∨
      place = places.red + block * places.step) :
    ∃ y < height, ∃ x < width, paintedBy width height places y x place := by
  obtain ⟨i, column, j, row, rfl⟩ := exists_block inside
  have upper : isUpperLeft width height (2 * i) (2 * j) = true := by
    simp only [isUpperLeft, decide_eq_true_eq]
    omega
  refine ⟨2 * j, by omega, 2 * i, by omega, .inr ⟨upper, ?_⟩⟩
  rwa [Nat.mul_div_cancel_left j two_pos, Nat.mul_div_cancel_left i two_pos]

end

theorem clear?_fills {bytes : Bytes} {start stop : Nat} (ordered : start ≤ stop)
    (within : stop ≤ bytes.size) : ∃ cleared, clear? bytes start stop = some cleared ∧
      cleared.size = bytes.size ∧
      (∀ place, start ≤ place → place < stop → cleared[place]? = some 0) ∧
      ∀ place, stop ≤ place → cleared[place]? = bytes[place]? := by
  refine ⟨_, if_pos ⟨ordered, within⟩, Array.size_mapIdx, fun place behind before => ?_,
    fun place behind => ?_⟩
  · rw [Array.getElem?_mapIdx, Array.getElem?_eq_getElem (by omega)]
    simp [behind, before]
  · have notBefore : ¬(start ≤ place ∧ place < stop) := by omega
    rw [Array.getElem?_mapIdx]
    simp only [if_neg notBefore, Option.map_id']

theorem kept_behind {frame destination : Bytes} {needed : Nat} (size : frame.size = needed)
    (fits : needed ≤ destination.size) :
    (frame ++ destination.extract needed destination.size).size = destination.size ∧
      ∀ place, needed ≤ place →
        (frame ++ destination.extract needed destination.size)[place]? = destination[place]? := by
  constructor
  · rw [Array.size_append, Array.size_extract, size]
    omega
  · intro place behind
    rw [Array.getElem?_append_right (by omega), Array.getElem?_extract, size]
    by_cases inside : place < destination.size
    · rw [if_pos (by omega), Nat.add_sub_cancel' behind]
    · rw [if_neg (by omega), Array.getElem?_eq_none (by omega)]

/-- What is cleared and then painted is the frame, with the old bytes behind it: every place in
front of those is painted, or is a gap. -/
theorem paint_cleared {layout : ChromaLayout} {pixels destination : Bytes}
    {width height padding : Nat} (whole : width * height * 4 ≤ pixels.size)
    (fits : convertedSize layout width height padding ≤ destination.size) (swap : Bool) :
    let needed := convertedSize layout width height padding
    let places := layout.places width height padding swap
    ∃ cleared, clear? destination (width * height) needed = some cleared ∧
      paint pixels width height places cleared =
        some (convertedBytes layout pixels width height padding swap
          ++ destination.extract needed destination.size) := by
  intro needed places
  have ordered : width * height ≤ needed := by
    simp only [needed, convertedSize]
    cases layout <;> dsimp only <;> omega
  obtain ⟨cleared, ran, sized, zeros, kept⟩ := clear?_fills ordered fits
  obtain ⟨size, behind⟩ :=
    kept_behind (size_convertedBytes layout pixels width height padding swap) fits
  have framed := (framed_convertedBytes layout pixels width height padding swap).append
    (destination.extract needed destination.size)
  obtain ⟨left, painted, -, done⟩ := paints_paint whole framed cleared (sized.trans size.symm)
  refine ⟨cleared, ran, painted.trans (congrArg some (Array.ext_getElem? fun place => ?_))⟩
  apply done
  by_cases isLuma : place < width * height
  · exact .inl (painted_luma isLuma)
  have notLuma := Nat.le_of_not_lt isLuma
  by_cases isChroma : ∃ block < blockCount width height,
      place = places.blue + block * places.step ∨ place = places.red + block * places.step
  · obtain ⟨block, inside, here⟩ := isChroma
    exact .inl (painted_chroma inside here)
  right
  by_cases isGap : place < needed
  · have apart : ∀ block < blockCount width height,
        place ≠ places.blue + block * places.step ∧ place ≠ places.red + block * places.step :=
      fun block inside => ⟨fun here => isChroma ⟨block, inside, .inl here⟩,
        fun here => isChroma ⟨block, inside, .inr here⟩⟩
    rw [zeros place notLuma isGap, framed.gap place notLuma isGap apart]
  · have past := Nat.le_of_not_lt isGap
    rw [kept place past, behind place past]

section
variable (pixels destination : Bytes) (format : ColorFormat) (width height padding : Nat)
  (swap : Bool)

/-- Carried out in the destination, the conversion leaves there what it should, or changes nothing
if it fails. -/
theorem convertInPlace_eq : convertInPlace pixels destination format width height padding swap =
    some (match convert pixels destination format width height padding swap with
      | .ok (written, content) => (.ok written, content)
      | .error fault => (.error fault, destination)) := by
  unfold convertInPlace convert
  rw [Nat.mul_comm 4]
  by_cases short : pixels.size < width * height * 4
  · rw [if_pos short, if_pos short]
  rw [if_neg short, if_neg short]
  cases ChromaLayout.of? format with
  | none => rfl
  | some layout =>
    dsimp only
    by_cases narrow : destination.size < convertedSize layout width height padding
    · rw [if_pos narrow, if_pos narrow]
    rw [if_neg narrow, if_neg narrow]
    obtain ⟨cleared, ran, painted⟩ :=
      paint_cleared (Nat.le_of_not_lt short) (Nat.le_of_not_lt narrow) swap
    rw [ran]
    dsimp only [Option.bind_eq_bind, Option.bind_some]
    rw [painted]
    rfl

end

theorem of?_eq_some {format : ColorFormat} {layout : ChromaLayout}
    (found : ChromaLayout.of? format = some layout) :
    layout = if format.isPlanar then .planes else .pairs := by
  unfold ChromaLayout.of? at found
  split at found
  next planar => rw [if_pos planar, Option.some.inj found]
  next other =>
    split at found
    next semiPlanar => rw [if_neg other, Option.some.inj found]
    next neither => exact nomatch found

theorem of?_eq_none_iff {format : ColorFormat} :
    ChromaLayout.of? format = none ↔ format.isPlanar = false ∧ format.isSemiPlanar = false := by
  unfold ChromaLayout.of?
  cases format.isPlanar <;> cases format.isSemiPlanar <;> decide

theorem convertedSize_eq (isPlanar : Bool) (width height padding : Nat) :
    convertedSize (if isPlanar then .planes else .pairs) width height padding =
      width * height + padding + 2 * (width / 2 * (height / 2)) +
        if isPlanar then padding / 4 else 0 := by
  cases isPlanar <;> rfl

def Shows (pixels content : Bytes) (pixel place : Nat) (red green blue bias top : Int) : Prop :=
  ∃ r g b shade, HasColour pixels pixel r g b ∧ content[place]? = some shade ∧
    (shade.toNat : Int) = weighted red green blue bias r g b ∧
    16 ≤ (shade.toNat : Int) ∧ (shade.toNat : Int) ≤ top

theorem shows_of {pixels content : Bytes} {count pixel place : Nat} {red green blue bias top : Int}
    (whole : count * 4 ≤ pixels.size) (inside : pixel < count)
    (found : content[place]? = some (component red green blue bias pixels pixel))
    (studio : ∀ r g b, 16 ≤ weighted red green blue bias r g b ∧
      weighted red green blue bias r g b ≤ top) (isByte : top ≤ 255) :
    Shows pixels content pixel place red green blue bias top := by
  obtain ⟨r, g, b, colour⟩ := exists_colour whole inside
  obtain ⟨low, high⟩ := studio r g b
  have uncut : ((cut (weighted red green blue bias r g b)).toNat : Int) = _ :=
    toNat_cut (by omega) (by omega)
  rw [colour.component_eq] at found
  exact ⟨r, g, b, _, colour, found, uncut, by omega, by omega⟩

/-- The content holds a frame in front, each component where the layout has it, and behind the frame
what the destination held there. -/
structure Converted (layout : ChromaLayout) (pixels destination : Bytes)
    (width height padding : Nat) (swap : Bool) (content : Bytes) : Prop where
  size : content.size = destination.size
  luma : ∀ x < width, ∀ y < height,
    Shows pixels content (y * width + x) (y * width + x) 66 129 25 16 235
  blue : ∀ i < width / 2, ∀ j < height / 2,
    let places := layout.places width height padding swap
    Shows pixels content (2 * j * width + 2 * i)
      (places.blue + (j * (width / 2) + i) * places.step) (-38) (-74) 112 128 240
  red : ∀ i < width / 2, ∀ j < height / 2,
    let places := layout.places width height padding swap
    Shows pixels content (2 * j * width + 2 * i)
      (places.red + (j * (width / 2) + i) * places.step) 112 (-94) (-18) 128 240
  zero : ∀ place, width * height ≤ place → place < convertedSize layout width height padding →
    let places := layout.places width height padding swap
    (∀ i < width / 2, ∀ j < height / 2,
      place ≠ places.blue + (j * (width / 2) + i) * places.step ∧
        place ≠ places.red + (j * (width / 2) + i) * places.step) → content[place]? = some 0
  behind : ∀ place, convertedSize layout width height padding ≤ place →
    content[place]? = destination[place]?

section
variable {pixels destination : Bytes} {format : ColorFormat} {width height padding : Nat}
  {swap : Bool}

theorem converted_of_fits {layout : ChromaLayout} (whole : width * height * 4 ≤ pixels.size)
    (fits : convertedSize layout width height padding ≤ destination.size) :
    Converted layout pixels destination width height padding swap
      (convertedBytes layout pixels width height padding swap
        ++ destination.extract (convertedSize layout width height padding) destination.size) := by
  obtain ⟨size, behind⟩ :=
    kept_behind (size_convertedBytes layout pixels width height padding swap) fits
  have framed := (framed_convertedBytes layout pixels width height padding swap).append
    (destination.extract (convertedSize layout width height padding) destination.size)
  have corner {i j : Nat} (column : i < width / 2) (row : j < height / 2) :
      2 * j * width + 2 * i < width * height := pixel_lt (by omega) (by omega)
  constructor
  · exact size
  · intro x column y row
    have inside := pixel_lt column row
    exact shows_of whole inside (framed.luma _ inside) luma_studio (by decide)
  · intro i column j row
    have found := framed.blue _ (block_lt column row)
    rw [blockPixel_eq column] at found
    exact shows_of whole (corner column row) found blueChroma_studio (by decide)
  · intro i column j row
    have found := framed.red _ (block_lt column row)
    rw [blockPixel_eq column] at found
    exact shows_of whole (corner column row) found redChroma_studio (by decide)
  · intro place notLuma isGap places apart
    apply framed.gap place notLuma isGap
    intro block inside
    obtain ⟨i, column, j, row, rfl⟩ := exists_block inside
    exact apart i column j row
  · exact behind

theorem convert_ok_iff {written : Nat} {content : Bytes} :
    convert pixels destination format width height padding swap = .ok (written, content) ↔
      ∃ layout, ChromaLayout.of? format = some layout ∧ 4 * (width * height) ≤ pixels.size ∧
        convertedSize layout width height padding ≤ destination.size ∧
        written = convertedSize layout width height padding ∧
        content = convertedBytes layout pixels width height padding swap
          ++ destination.extract (convertedSize layout width height padding) destination.size := by
  unfold convert
  by_cases short : pixels.size < 4 * (width * height)
  · rw [if_pos short]
    constructor
    · exact nofun
    · rintro ⟨-, -, whole, -⟩
      omega
  rw [if_neg short]
  cases ChromaLayout.of? format with
  | none => exact ⟨nofun, nofun⟩
  | some layout =>
    dsimp only
    by_cases narrow : destination.size < convertedSize layout width height padding
    · rw [if_pos narrow]
      constructor
      · exact nofun
      · rintro ⟨_, same, -, fits, -⟩
        cases same
        omega
    rw [if_neg narrow]
    constructor
    · rintro ⟨rfl, rfl⟩
      exact ⟨layout, rfl, Nat.le_of_not_lt short, Nat.le_of_not_lt narrow, rfl, rfl⟩
    · rintro ⟨_, same, -, -, rfl, rfl⟩
      cases same
      rfl

end

/-- A conversion fails exactly if the picture is short, the format has no layout or the destination
is too small, and then nothing in the destination is touched. Otherwise it writes as many bytes as
are needed, each component where it belongs and none ever cut, zeros wherever else in the frame, and
nothing behind it. Carried out in the destination byte by byte, it never leaves a buffer. -/
theorem convert_exact (pixels destination : Bytes) (format : ColorFormat)
    (width height padding : Nat) (swap : Bool) :
    let needed := width * height + padding + 2 * (width / 2 * (height / 2)) +
      if format.isPlanar then padding / 4 else 0
    let result := convert pixels destination format width height padding swap
    let ended := convertInPlace pixels destination format width height padding swap
    ((∃ fault, result = .error fault) ↔ pixels.size < 4 * (width * height) ∨
      (format.isPlanar = false ∧ format.isSemiPlanar = false) ∨ destination.size < needed) ∧
    (∀ fault, result = .error fault → ended = some (.error fault, destination)) ∧
    ∀ written content, result = .ok (written, content) →
      written = needed ∧ ended = some (.ok written, content) ∧
        Converted (if format.isPlanar then .planes else .pairs) pixels destination width height
          padding swap content := by
  intro needed result ended
  have same : ended = some _ := convertInPlace_eq ..
  have size : convertedSize (if format.isPlanar then .planes else .pairs) width height padding =
      needed := convertedSize_eq ..
  refine ⟨?_, fun fault failed => ?_, fun written content succeeded => ?_⟩
  · constructor
    · rintro ⟨fault, failed⟩
      by_contra accepted
      rw [← of?_eq_none_iff, not_or, not_or, Nat.not_lt, Nat.not_lt] at accepted
      obtain ⟨whole, known, fits⟩ := accepted
      obtain ⟨layout, found⟩ := Option.ne_none_iff_exists'.mp known
      obtain rfl := of?_eq_some found
      rw [← size] at fits
      have succeeded : result = _ := convert_ok_iff.mpr ⟨_, found, whole, fits, rfl, rfl⟩
      exact nomatch failed.symm.trans succeeded
    · intro refused
      cases outcome : result with
      | error fault => exact ⟨fault, rfl⟩
      | ok frame =>
        obtain ⟨layout, found, whole, fits, -⟩ := convert_ok_iff.mp outcome
        have known := of?_eq_some found
        rw [known, size] at fits
        rcases refused with short | unknown | narrow
        · omega
        · exact nomatch found.symm.trans (of?_eq_none_iff.mpr unknown)
        · omega
  · rw [same]
    show some (match result with | .ok (written, content) => _ | .error fault => _) = _
    rw [failed]
  · obtain ⟨layout, found, whole, fits, rfl, rfl⟩ := convert_ok_iff.mp succeeded
    obtain rfl := of?_eq_some found
    refine ⟨size, ?_, converted_of_fits (by omega) fits⟩
    rw [same]
    show some (match result with | .ok (written, content) => _ | .error fault => _) = _
    rw [succeeded]

end Recode.Picture
