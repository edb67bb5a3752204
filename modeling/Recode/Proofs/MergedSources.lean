import Recode.Proofs.Containers

/-!
How a source comes about. Tracks and samples are added in any order; the samples of all tracks are
kept in the order of their times, and those of one time in the order in which they were added. A new
sample is placed by a search that relies on this order, and finds its place because the order was kept
so far. The format of a track promises room for the longest of its samples.
-/

namespace Recode.Container
open Recode.Media

namespace Source

inductive Request where
  | addTrack (format : Format)
  | addSample (sample : Sample)
  deriving DecidableEq, Repr

abbrev Exchange := Request × Except Error Unit

def serve (source : Source) : Request → Except Error Unit × Source
  | .addTrack format => (.ok (), source.addTrack format)
  | .addSample sample =>
      match source.addSample sample with
      | .ok fuller => (.ok (), fuller)
      | .error error => (.error error, source)

def serveAll (source : Source) (requests : List Request) : List Exchange × Source :=
  converse serve source requests

def declared? : Exchange → Option Format
  | (.addTrack format, _) => some format
  | _ => none

def acceptedSample? : Exchange → Option Sample
  | (.addSample sample, .ok _) => some sample
  | _ => none

def accepted (history : List Exchange) : List Sample := history.filterMap acceptedSample?

/-- The largest of what was declared and of the samples' sizes, if there is any. -/
def promised (declared : Option Nat) (samples : List Sample) : Option Nat :=
  (declared.toList ++ samples.map (·.data.size)).max?

def formats (history : List Exchange) : List Format :=
  (history.filterMap declared?).mapIdx fun index format =>
    { format with
      maxInputSize := promised format.maxInputSize ((accepted history).filter (·.track = index)) }

section
variable {samples : List Sample}

theorem later_of_mem_dropWhile (sorted : samples.Pairwise (·.time ≤ ·.time)) (time : Int) :
    ∀ sample ∈ samples.dropWhile (·.time ≤ time), time < sample.time := by
  induction samples with
  | nil => exact nofun
  | cons first rest ih =>
    obtain ⟨ahead, ordered⟩ := List.pairwise_cons.mp sorted
    by_cases early : first.time ≤ time
    · simpa [early] using ih ordered
    · rw [List.dropWhile_cons_of_neg (by simpa using early), List.forall_mem_cons]
      refine ⟨by omega, fun sample member => ?_⟩
      have later := ahead sample member
      omega

/-- A sample goes behind all that are shown at its time. -/
theorem filter_place (sorted : samples.Pairwise (·.time ≤ ·.time)) (sample : Sample) (time : Int) :
    (place sample samples).filter (·.time = time) =
      samples.filter (·.time = time) ++ [sample].filter (·.time = time) := by
  have whole := List.takeWhile_append_dropWhile (p := (·.time ≤ sample.time)) (l := samples)
  have later := later_of_mem_dropWhile sorted sample.time
  unfold place
  generalize samples.takeWhile (·.time ≤ sample.time) = before at whole
  generalize samples.dropWhile (·.time ≤ sample.time) = behind at whole later
  subst whole
  by_cases now : sample.time = time
  · have none : behind.filter (·.time = time) = [] := by
      refine List.filter_eq_nil_iff.mpr fun other member => ?_
      have after := later other member
      simp only [decide_eq_true_eq]
      omega
    simp [now, none]
  · simp [now]

/-- The order of the times, and at each time the order of the samples, leave nothing open. -/
theorem eq_of_filter_time {others : List Sample} (sorted : samples.Pairwise (·.time ≤ ·.time))
    (ordered : others.Pairwise (·.time ≤ ·.time))
    (alike : ∀ time, samples.filter (·.time = time) = others.filter (·.time = time)) :
    samples = others := by
  have mem_iff {first second : List Sample}
      (alike : ∀ time, first.filter (·.time = time) = second.filter (·.time = time))
      (sample : Sample) (member : sample ∈ first) : sample ∈ second := by
    have shown : sample ∈ first.filter (·.time = sample.time) :=
      List.mem_filter.mpr ⟨member, by simp⟩
    exact (List.mem_filter.mp (alike sample.time ▸ shown)).1
  induction samples generalizing others with
  | nil =>
    cases others with
    | nil => rfl
    | cons other later =>
      exact nomatch mem_iff (fun time => (alike time).symm) other List.mem_cons_self
  | cons sample rest ih =>
    cases others with
    | nil => exact nomatch mem_iff alike sample List.mem_cons_self
    | cons other later =>
      have notBefore : other.time ≤ sample.time := by
        rcases List.mem_cons.mp (mem_iff alike sample List.mem_cons_self) with rfl | behind
        · exact Int.le_refl _
        · exact (List.pairwise_cons.mp ordered).1 sample behind
      have notBehind : sample.time ≤ other.time := by
        rcases List.mem_cons.mp (mem_iff (fun time => (alike time).symm) other List.mem_cons_self)
          with rfl | behind
        · exact Int.le_refl _
        · exact (List.pairwise_cons.mp sorted).1 other behind
      have together : other.time = sample.time := Int.le_antisymm notBefore notBehind
      have now := alike sample.time
      simp only [List.filter_cons, together, decide_true, if_true, List.cons.injEq] at now
      obtain ⟨rfl, now⟩ := now
      refine congrArg (sample :: ·) (ih (List.pairwise_cons.mp sorted).2
        (List.pairwise_cons.mp ordered).2 fun time => ?_)
      have other := alike time
      by_cases same : sample.time = time
      · simpa [same] using other
      · simpa [same] using other

theorem le_trans_of_time (first second third : Sample)
    (one : decide (first.time ≤ second.time) = true)
    (other : decide (second.time ≤ third.time) = true) : decide (first.time ≤ third.time) = true :=
  decide_eq_true (Int.le_trans (of_decide_eq_true one) (of_decide_eq_true other))

theorem le_total_of_time (first second : Sample) :
    (decide (first.time ≤ second.time) || decide (second.time ≤ first.time)) = true := by
  simpa using Int.le_total first.time second.time

theorem pairwise_mergeSort (samples : List Sample) :
    (samples.mergeSort fun first second => first.time ≤ second.time).Pairwise
      (·.time ≤ ·.time) := by
  simpa using List.pairwise_mergeSort le_trans_of_time le_total_of_time samples

theorem filter_mergeSort (samples : List Sample) (time : Int) :
    (samples.mergeSort fun first second => first.time ≤ second.time).filter (·.time = time) =
      samples.filter (·.time = time) := by
  have still : (samples.filter (·.time = time)).Pairwise fun first second =>
      decide (first.time ≤ second.time) = true := by
    refine List.pairwise_of_forall_mem_list fun first one second other => ?_
    have one := (List.mem_filter.mp one).2
    have other := (List.mem_filter.mp other).2
    simp only [decide_eq_true_eq] at one other ⊢
    omega
  have kept := (List.sublist_mergeSort le_trans_of_time le_total_of_time still
    List.filter_sublist).filter (·.time = time)
  simp only [List.filter_filter, Bool.and_self] at kept
  refine (kept.eq_of_length ?_).symm
  exact ((List.mergeSort_perm ..).filter _).length_eq.symm

theorem findBoundary_eq {α : Type} {holds : α → Bool} {values : List α} {boundary : Nat}
    (splits : ∀ index value, values[index]? = some value → (holds value = true ↔ index < boundary))
    {base size : Nat} (lower : base ≤ boundary) (upper : boundary ≤ base + size)
    (within : base + size ≤ values.length) :
    findBoundary holds values base size = boundary := by
  have looks (index : Nat) (inside : index < values.length) :
      values[index]?.any holds = decide (index < boundary) := by
    have found := List.getElem?_eq_getElem inside
    rw [found, Option.any_some, Bool.eq_iff_iff, decide_eq_true_iff]
    exact splits index _ found
  induction size using Nat.strongRecOn generalizing base with
  | ind size ih =>
    unfold findBoundary
    split
    next few =>
      by_cases inside : base < values.length
      · rw [looks base inside]
        by_cases before : base < boundary
        · rw [if_pos (decide_eq_true before)]
          omega
        · rw [if_neg (by simpa using before)]
          omega
      · rw [List.getElem?_eq_none (Nat.le_of_not_lt inside), Option.any_none, if_neg (by simp)]
        omega
    next many =>
      -- Either half keeps the boundary between its ends, and is shorter.
      dsimp only
      rw [looks (base + size / 2) (by omega)]
      by_cases before : base + size / 2 < boundary
      · rw [if_pos (decide_eq_true before)]
        exact ih (size - size / 2) (by omega) (by omega) (by omega) (by omega)
      · rw [if_neg (by simpa using before)]
        exact ih (size - size / 2) (by omega) (by omega) (by omega) (by omega)

theorem insertIdx_length_append {α : Type} (before behind : List α) (value : α) :
    (before ++ behind).insertIdx before.length value = before ++ value :: behind := by
  induction before with
  | nil => rfl
  | cons first rest ih => exact congrArg (first :: ·) ih

/-- In the order of the times, the search finds the place behind all samples that are not later. -/
theorem placeBySearch_eq (sorted : samples.Pairwise (·.time ≤ ·.time)) (sample : Sample) :
    placeBySearch sample samples = place sample samples := by
  have whole := List.takeWhile_append_dropWhile (p := (·.time ≤ sample.time)) (l := samples)
  have later := later_of_mem_dropWhile sorted sample.time
  have early : ∀ other ∈ samples.takeWhile (·.time ≤ sample.time), other.time ≤ sample.time :=
    fun other member => by simpa using List.all_eq_true.mp List.all_takeWhile other member
  unfold placeBySearch place
  generalize samples.takeWhile (·.time ≤ sample.time) = before at *
  generalize samples.dropWhile (·.time ≤ sample.time) = behind at *
  subst whole
  have splits (index : Nat) (other : Sample) (found : (before ++ behind)[index]? = some other) :
      decide (other.time ≤ sample.time) = true ↔ index < before.length := by
    rw [decide_eq_true_iff]
    by_cases ahead : index < before.length
    · rw [List.getElem?_append_left ahead] at found
      exact iff_of_true (early other (List.mem_of_getElem? found)) ahead
    · rw [List.getElem?_append_right (Nat.le_of_not_lt ahead)] at found
      exact iff_of_false (Int.not_le_of_gt (later other (List.mem_of_getElem? found))) ahead
  rw [findBoundary_eq splits (Nat.zero_le _) (by simp) (by simp), insertIdx_length_append]

end

section
variable {source : Source} {history : List Exchange}

theorem serve_known {sample : Sample} (known : sample.track < source.tracks.length) :
    source.serve (.addSample sample) = (.ok (),
      ⟨source.tracks.modify sample.track (widen · sample.data.size),
        place sample source.samples⟩) := by
  simp [serve, addSample, known]

theorem serve_unknown {sample : Sample} (unknown : source.tracks.length ≤ sample.track) :
    source.serve (.addSample sample) =
      (.error (ContainerError.trackNotFound sample.track), source) := by
  simp [serve, addSample, Nat.not_lt_of_le unknown]

theorem Built.serve (built : source.Built) (request : Request) :
    (source.serve request).2.Built := by
  cases request with
  | addTrack format => exact built.track format
  | addSample sample =>
    unfold Source.serve
    dsimp only
    split
    next fuller added => exact built.sample sample added
    next error refused => exact built

theorem promised_nil (declared : Option Nat) : promised declared [] = declared := by
  cases declared <;> rfl

theorem max?_concat (values : List Nat) (value : Nat) :
    (values ++ [value]).max? = some (max (values.max?.getD 0) value) := by
  cases values with
  | nil => simp
  | cons first rest =>
    rw [List.cons_append, List.max?_cons', List.max?_cons', List.foldl_append]
    rfl

theorem promised_concat (declared : Option Nat) (samples : List Sample) (sample : Sample) :
    promised declared (samples ++ [sample]) =
      some (max ((promised declared samples).getD 0) sample.data.size) := by
  unfold promised
  rw [List.map_append, ← List.append_assoc]
  exact max?_concat _ _

theorem accepted_append (history later : List Exchange) :
    accepted (history ++ later) = accepted history ++ accepted later := List.filterMap_append ..

structure Merges (source : Source) (history : List Exchange) : Prop where
  built : source.Built
  perm : source.samples.Perm (accepted history)
  stable : ∀ time, source.samples.filter (·.time = time) =
    (accepted history).filter (·.time = time)
  tracks : source.tracks = formats history
  known : ∀ sample ∈ accepted history, sample.track < source.tracks.length

theorem Merges.addTrack (merges : source.Merges history) (format : Format) :
    (source.addTrack format).Merges (history ++ [(.addTrack format, .ok ())]) := by
  have aside : accepted (history ++ [(.addTrack format, .ok ())]) = accepted history := by
    rw [accepted_append]
    exact List.append_nil _
  have unheard : (accepted history).filter (·.track = source.tracks.length) = [] := by
    refine List.filter_eq_nil_iff.mpr fun sample told => ?_
    simpa using Nat.ne_of_lt (merges.known sample told)
  refine ⟨merges.built.track format, aside ▸ merges.perm, aside ▸ merges.stable, ?_,
    fun sample told => ?_⟩
  · have count : source.tracks.length = (history.filterMap declared?).length := by
      rw [merges.tracks, formats, List.length_mapIdx]
    show source.tracks ++ [format] = formats (history ++ [_])
    unfold formats
    rw [aside, List.filterMap_append, List.mapIdx_append, ← formats, ← merges.tracks, ← count]
    simp [declared?, unheard, promised_nil]
  · have known := merges.known sample (aside ▸ told)
    simp only [Source.addTrack, List.length_append]
    omega

theorem Merges.addSample (merges : source.Merges history) {sample : Sample}
    (known : sample.track < source.tracks.length) :
    (⟨source.tracks.modify sample.track (widen · sample.data.size),
        place sample source.samples⟩ : Source).Merges
      (history ++ [(.addSample sample, .ok ())]) := by
  have longer : accepted (history ++ [(.addSample sample, .ok ())]) = accepted history ++ [sample] :=
    accepted_append ..
  have sorted := merges.built.sorted
  refine ⟨?_, ?_, fun time => ?_, ?_, fun other told => ?_⟩
  · exact merges.built.sample sample (if_pos known)
  · rw [longer]
    calc place sample source.samples
        _ |>.Perm (sample :: source.samples) := place_perm ..
        _ |>.Perm (sample :: accepted history) := merges.perm.cons sample
        _ |>.Perm (accepted history ++ [sample]) := (List.perm_append_singleton ..).symm
  · rw [longer, List.filter_append, ← merges.stable]
    exact filter_place sorted sample time
  · show source.tracks.modify _ _ = _
    rw [merges.tracks]
    apply List.ext_getElem?
    intro index
    rw [List.getElem?_modify]
    unfold formats
    rw [longer]
    by_cases here : sample.track = index
    · simp [declared?, List.filterMap_cons, here, widen, promised_concat, Function.comp_def]
    · simp [declared?, List.filterMap_cons, here]
  · rw [longer] at told
    simp only [List.length_modify]
    rcases List.mem_append.mp told with before | last
    · exact merges.known other before
    · rwa [List.mem_singleton.mp last]

theorem Merges.serve (merges : source.Merges history) (request : Request) :
    (source.serve request).2.Merges (history ++ [(request, (source.serve request).1)]) := by
  cases request with
  | addTrack format => exact merges.addTrack format
  | addSample sample =>
    by_cases known : sample.track < source.tracks.length
    · rw [serve_known known]
      exact merges.addSample known
    · rw [serve_unknown (Nat.le_of_not_lt known)]
      have aside : accepted (history ++ [(.addSample sample,
          .error (ContainerError.trackNotFound sample.track))]) = accepted history := by
        rw [accepted_append]
        exact List.append_nil _
      refine ⟨merges.built, aside ▸ merges.perm, aside ▸ merges.stable, ?_, aside ▸ merges.known⟩
      rw [merges.tracks]
      unfold formats
      rw [aside, List.filterMap_append]
      exact congrArg _ (List.append_nil _).symm

end

/-- Whatever is asked of a new source, its samples are those that were accepted, in the stable order of
their times: none is lost, doubled or changed, and those of one time keep their order. A sample of an
unknown track is refused and changes nothing. Each track is as it was declared, with room for the
largest of its samples, and so every sample fits. The search for the place of a sample would find it
in every such source. -/
theorem source_merges_stably (requests : List Request) :
    let history := (({} : Source).serveAll requests).1
    let source := (({} : Source).serveAll requests).2
    history.map Prod.fst = requests ∧
    (source.samples = (accepted history).mergeSort (fun first second => first.time ≤ second.time) ∧
      source.samples.Pairwise (·.time ≤ ·.time) ∧ source.samples.Perm (accepted history) ∧
      ∀ time, source.samples.filter (·.time = time) = (accepted history).filter (·.time = time)) ∧
    (∀ sample, source.tracks.length ≤ sample.track → source.serve (.addSample sample) =
      (.error (ContainerError.trackNotFound sample.track), source)) ∧
    (∀ sample, sample.track < source.tracks.length →
      (source.serve (.addSample sample)).1 = .ok ()) ∧
    source.tracks = (history.filterMap declared?).mapIdx (fun index format =>
      { format with
        maxInputSize := (format.maxInputSize.toList ++
          ((accepted history).filter (·.track = index)).map (·.data.size)).max? }) ∧
    (∀ sample ∈ source.samples, ∃ format room, source.tracks[sample.track]? = some format ∧
      format.maxInputSize = some room ∧ sample.data.size ≤ room) ∧
    ∀ sample, placeBySearch sample source.samples = place sample source.samples := by
  intro history source
  have merges : source.Merges history :=
    @converse_induction _ _ _ serve Merges (fun _ _ request merges => merges.serve request) {}
      ⟨.empty, .refl _, fun _ => rfl, rfl, nofun⟩ requests
  have sorted := merges.built.sorted
  refine ⟨map_fst_converse _ requests, ⟨?_, sorted, merges.perm, merges.stable⟩,
    fun sample unknown => serve_unknown unknown, fun sample known => ?_, merges.tracks,
    merges.built.hasRoom, placeBySearch_eq sorted⟩
  · refine eq_of_filter_time sorted (pairwise_mergeSort _) fun time => ?_
    rw [filter_mergeSort, merges.stable]
  · rw [serve_known known]

/-- The sample of a later call comes first when it is earlier, and behind when it is not. -/
example :
    let format : Format := { mime := "audio/raw" }
    let first : Sample := ⟨0, 0, .none, #[1]⟩
    let earlier : Sample := ⟨0, -5, .none, #[2, 3]⟩
    let together : Sample := ⟨0, 0, .none, #[]⟩
    (serveAll {} [.addTrack format, .addSample first, .addSample earlier,
        .addSample { first with track := 1 }, .addSample together]).2 =
      { tracks := [{ format with maxInputSize := some 2 }]
        samples := [earlier, first, together] } := by
  rfl

end Source

end Recode.Container
