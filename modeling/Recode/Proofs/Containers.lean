import Recode.Container.Demuxer
import Recode.Container.Muxer

/-!
Reading a source from first to last, and writing a movie. A demuxer that reads a track stands at a
sample that can be seen, or at the end, and stepping on takes one such sample after another. Of
anything that answers requests, what one request keeps is kept by all.
-/

namespace Recode.Container
open Recode.Media

/-- One request after another: each with its answer, and what is there in the end. -/
def converse {State Request Answer : Type} (serve : State → Request → Answer × State)
    (state : State) : List Request → List (Request × Answer) × State
  | [] => ([], state)
  | request :: rest =>
      let (answer, next) := serve state request
      let (later, last) := converse serve next rest
      ((request, answer) :: later, last)

section
variable {State Request Answer : Type} {serve : State → Request → Answer × State}

theorem converse_cons (state : State) (request : Request) (rest : List Request) :
    converse serve state (request :: rest) =
      ((request, (serve state request).1) :: (converse serve (serve state request).2 rest).1,
        (converse serve (serve state request).2 rest).2) := rfl

theorem map_fst_converse (state : State) (requests : List Request) :
    (converse serve state requests).1.map Prod.fst = requests := by
  induction requests generalizing state with
  | nil => rfl
  | cons request rest ih => exact congrArg (request :: ·) (ih (serve state request).2)

/-- What each request keeps between the state and the history that led to it, all of them keep. -/
theorem converse_induction {Invariant : State → List (Request × Answer) → Prop}
    (step : ∀ state history request, Invariant state history →
      Invariant (serve state request).2 (history ++ [(request, (serve state request).1)]))
    {state : State} (begins : Invariant state []) (requests : List Request) :
    Invariant (converse serve state requests).2 (converse serve state requests).1 := by
  have goesOn (history : List (Request × Answer)) (holds : Invariant state history) :
      Invariant (converse serve state requests).2
        (history ++ (converse serve state requests).1) := by
    clear begins
    induction requests generalizing state history with
    | nil =>
      show Invariant state (history ++ [])
      rwa [List.append_nil]
    | cons request rest ih =>
      have later := ih _ (step state history request holds)
      rwa [List.append_assoc] at later
  exact goesOn [] begins

end

namespace Source

/-- Sources as they come about: tracks and samples are added in turn. -/
inductive Built : Source → Prop where
  | empty : Built {}
  | track {source : Source} (built : Built source) (format : Format) :
      Built (source.addTrack format)
  | sample {source fuller : Source} (built : Built source) (sample : Sample)
      (added : source.addSample sample = .ok fuller) : Built fuller

theorem Built.addSamples {source : Source} (built : source.Built) (samples : List Sample) :
    (source.addSamples samples).1.Built := by
  induction samples generalizing source with
  | nil => exact built
  | cons sample rest ih =>
    unfold Source.addSamples
    split
    next fuller added => exact ih (built.sample sample added)
    next error refused => exact ih built

def HasRoom (source : Source) : Prop :=
  ∀ sample ∈ source.samples, ∃ format room, source.tracks[sample.track]? = some format ∧
    format.maxInputSize = some room ∧ sample.data.size ≤ room

theorem mem_place {sample other : Sample} {samples : List Sample} :
    other ∈ place sample samples ↔ other = sample ∨ other ∈ samples := by
  rw [(place_perm sample samples).mem_iff, List.mem_cons]

theorem pairwise_place {samples : List Sample} (sorted : samples.Pairwise (·.time ≤ ·.time))
    (sample : Sample) : (place sample samples).Pairwise (·.time ≤ ·.time) := by
  induction samples with
  | nil => simp [place]
  | cons first rest ih =>
    obtain ⟨ahead, ordered⟩ := List.pairwise_cons.mp sorted
    by_cases early : first.time ≤ sample.time
    · have behind : place sample (first :: rest) = first :: place sample rest := by
        simp [place, early]
      rw [behind, List.pairwise_cons]
      refine ⟨fun other member => ?_, ih ordered⟩
      rcases mem_place.mp member with rfl | member
      · exact early
      · exact ahead other member
    · have inFront : place sample (first :: rest) = sample :: first :: rest := by
        simp [place, early]
      rw [inFront, List.pairwise_cons]
      refine ⟨fun other member => ?_, sorted⟩
      rcases List.mem_cons.mp member with rfl | member
      · omega
      · have later := ahead other member
        omega

theorem HasRoom.fits {source : Source} (hasRoom : source.HasRoom) {track : Nat} {format : Format}
    (known : source.tracks[track]? = some format) {room : Nat}
    (promised : format.maxInputSize = some room) {sample : Sample} (member : sample ∈ source.samples)
    (own : sample.track = track) : sample.data.size ≤ room := by
  obtain ⟨other, size, found, stated, fits⟩ := hasRoom sample member
  rw [own, known] at found
  cases found
  rw [promised] at stated
  cases stated
  exact fits

theorem HasRoom.promises {source : Source} (hasRoom : source.HasRoom) {track : Nat}
    (sounds : source.trackSamples track ≠ []) :
    ∃ format room, source.tracks[track]? = some format ∧ format.maxInputSize = some room := by
  obtain ⟨sample, rest, found⟩ := List.exists_cons_of_ne_nil sounds
  have member : sample ∈ source.trackSamples track := found ▸ List.mem_cons_self
  obtain ⟨stored, own⟩ := List.mem_filter.mp member
  have own : sample.track = track := of_decide_eq_true own
  obtain ⟨format, room, known, promised, -⟩ := hasRoom sample stored
  exact ⟨format, room, own ▸ known, promised⟩

theorem HasRoom.addTrack {source : Source} (hasRoom : source.HasRoom) (format : Format) :
    (source.addTrack format).HasRoom := by
  intro sample member
  obtain ⟨kept, room, found, promised, fits⟩ := hasRoom sample member
  refine ⟨kept, room, ?_, promised, fits⟩
  exact List.getElem?_append_left (List.getElem?_eq_some_iff.mp found).1 ▸ found

theorem HasRoom.addSample {source fuller : Source} (hasRoom : source.HasRoom) {sample : Sample}
    (added : source.addSample sample = .ok fuller) : fuller.HasRoom := by
  unfold Source.addSample at added
  split at added
  next known =>
    cases added
    intro other member
    rcases mem_place.mp member with rfl | member
    · refine ⟨widen source.tracks[other.track] other.data.size, _, ?_, rfl, Nat.le_max_right _ _⟩
      simp only [List.getElem?_modify, List.getElem?_eq_getElem known]
      rfl
    · obtain ⟨format, room, found, promised, fits⟩ := hasRoom other member
      by_cases same : sample.track = other.track
      · refine ⟨widen format sample.data.size, max room sample.data.size, ?_, ?_, ?_⟩
        · simp [found, same]
        · simp only [widen, promised, Option.getD_some]
        · exact Nat.le_trans fits (Nat.le_max_left _ _)
      · refine ⟨format, room, ?_, promised, fits⟩
        simp [found, same]
  next unknown => exact nomatch added

/-- However a source came about, its samples are in the order of their times. -/
theorem Built.sorted {source : Source} (built : source.Built) :
    source.samples.Pairwise (·.time ≤ ·.time) := by
  induction built with
  | empty => exact List.Pairwise.nil
  | track _ _ sorted => exact sorted
  | sample _ sample added sorted =>
    unfold Source.addSample at added
    split at added
    next known =>
      cases added
      exact pairwise_place sorted sample
    next unknown => exact nomatch added

theorem Built.hasRoom {source : Source} (built : source.Built) : source.HasRoom := by
  induction built with
  | empty => exact nofun
  | track _ format hasRoom => exact hasRoom.addTrack format
  | sample _ _ added hasRoom => exact hasRoom.addSample added

end Source

namespace Demuxer

/-- What is still to be met: the samples that can be seen from the cursor on. -/
def upcoming (demuxer : Demuxer) : List Sample :=
  (demuxer.source.samples.drop demuxer.cursor).filter demuxer.isVisible

/-- The track is read: the cursor stands at a sample that can be seen, or at the end. -/
structure Reads (demuxer : Demuxer) (track : Nat) : Prop where
  selected : demuxer.selected = some track
  unreleased : demuxer.released = false
  settled : ∀ sample, demuxer.source.samples[demuxer.cursor]? = some sample →
    demuxer.isVisible sample = true

theorem drop_skipHidden (demuxer : Demuxer) :
    demuxer.source.samples.drop demuxer.skipHidden.cursor =
      (demuxer.source.samples.drop demuxer.cursor).dropWhile (!demuxer.isVisible ·) := by
  unfold skipHidden
  rw [← List.drop_drop]
  generalize demuxer.source.samples.drop demuxer.cursor = ahead
  calc ahead.drop (ahead.takeWhile (!demuxer.isVisible ·)).length
      _ = (ahead.takeWhile (!demuxer.isVisible ·) ++ ahead.dropWhile (!demuxer.isVisible ·)).drop
            (ahead.takeWhile (!demuxer.isVisible ·)).length := by
          rw [List.takeWhile_append_dropWhile]
      _ = ahead.dropWhile (!demuxer.isVisible ·) := List.drop_left

theorem upcoming_skipHidden (demuxer : Demuxer) :
    demuxer.skipHidden.upcoming = demuxer.upcoming := by
  show (demuxer.source.samples.drop demuxer.skipHidden.cursor).filter demuxer.isVisible =
    (demuxer.source.samples.drop demuxer.cursor).filter demuxer.isVisible
  rw [drop_skipHidden]
  induction demuxer.source.samples.drop demuxer.cursor with
  | nil => rfl
  | cons sample ahead ih =>
    cases seen : demuxer.isVisible sample with
    | true => simp [seen]
    | false => simpa [seen] using ih

theorem reads_skipHidden {demuxer : Demuxer} {track : Nat} (selected : demuxer.selected = some track)
    (unreleased : demuxer.released = false) : demuxer.skipHidden.Reads track where
  selected := selected
  unreleased := unreleased
  settled sample found := by
    have ahead := List.head?_dropWhile_not (!demuxer.isVisible ·)
      (demuxer.source.samples.drop demuxer.cursor)
    have same : (demuxer.source.samples.drop demuxer.skipHidden.cursor).head? = some sample := by
      rw [List.head?_drop]
      exact found
    rw [drop_skipHidden] at same
    rw [same] at ahead
    have seen : demuxer.isVisible sample = true := by simpa only [Bool.not_eq_false'] using ahead
    exact seen

namespace Reads
variable {demuxer : Demuxer} {track : Nat}

theorem current? (reads : demuxer.Reads track) : demuxer.current? = demuxer.upcoming.head? := by
  unfold Demuxer.current? upcoming
  rw [reads.unreleased]
  cases found : demuxer.source.samples[demuxer.cursor]? with
  | none =>
    have past := List.getElem?_eq_none_iff.mp found
    simp [List.drop_eq_nil_of_le past]
  | some sample =>
    obtain ⟨inside, same⟩ := List.getElem?_eq_some_iff.mp found
    rw [List.drop_eq_getElem_cons inside, same]
    simp [reads.settled sample found]

theorem upcoming_advance (reads : demuxer.Reads track) {sample : Sample} {later : List Sample}
    (ahead : demuxer.upcoming = sample :: later) : demuxer.advance.2.upcoming = later := by
  have seen : demuxer.current?.isNone = false := by simp only [reads.current?, ahead]; rfl
  unfold Demuxer.advance
  simp only [seen, Bool.false_eq_true, if_false]
  rw [upcoming_skipHidden]
  cases found : demuxer.source.samples[demuxer.cursor]? with
  | none =>
    have past := List.getElem?_eq_none_iff.mp found
    simp [upcoming, List.drop_eq_nil_of_le past] at ahead
  | some first =>
    obtain ⟨inside, same⟩ := List.getElem?_eq_some_iff.mp found
    unfold upcoming at ahead
    rw [List.drop_eq_getElem_cons inside, same,
      List.filter_cons_of_pos (reads.settled first found)] at ahead
    exact (List.cons.inj ahead).2

theorem advance (reads : demuxer.Reads track) : demuxer.advance.2.Reads track := by
  unfold Demuxer.advance
  split
  next atEnd => exact reads
  next seen => exact reads_skipHidden reads.selected reads.unreleased

theorem currentTrack?_cons (reads : demuxer.Reads track) {sample : Sample} {later : List Sample}
    (ahead : demuxer.upcoming = sample :: later) : demuxer.currentTrack? = some sample.track := by
  rw [currentTrack?, reads.current?, ahead]
  rfl

theorem currentTime?_cons (reads : demuxer.Reads track) {sample : Sample} {later : List Sample}
    (ahead : demuxer.upcoming = sample :: later) : demuxer.currentTime? = some sample.time := by
  rw [currentTime?, reads.current?, ahead]
  rfl

theorem currentTrack?_nil (reads : demuxer.Reads track) (ahead : demuxer.upcoming = []) :
    demuxer.currentTrack? = none := by
  rw [currentTrack?, reads.current?, ahead]
  rfl

theorem currentFlags_cons (reads : demuxer.Reads track) {sample : Sample} {later : List Sample}
    (ahead : demuxer.upcoming = sample :: later) : demuxer.currentFlags = sample.flags := by
  rw [currentFlags, reads.current?, ahead]
  rfl

theorem advance_more (reads : demuxer.Reads track) :
    demuxer.advance.1 = !demuxer.advance.2.upcoming.isEmpty := by
  have seen := reads.advance.current?
  unfold Demuxer.advance at seen ⊢
  split
  next atEnd =>
    rw [reads.current?, Option.isNone_iff_eq_none, List.head?_eq_none_iff] at atEnd
    simp [atEnd]
  next notEnd =>
    rw [if_neg notEnd] at seen
    simp only [seen]
    cases (skipHidden { demuxer with cursor := demuxer.cursor + 1 }).upcoming <;> rfl

theorem read_cons (reads : demuxer.Reads track) {sample : Sample} {later : List Sample}
    (ahead : demuxer.upcoming = sample :: later) {room : Nat} (fits : sample.data.size ≤ room) :
    demuxer.read room = .ok (some sample.data) := by
  unfold Demuxer.read
  rw [reads.unreleased, reads.current?, ahead]
  simp [fits]

end Reads

theorem source_seek (demuxer : Demuxer) (time : Int) (mode : SeekMode) :
    (demuxer.seek time mode).source = demuxer.source := by
  unfold Demuxer.seek
  split <;> rfl

theorem source_advance (demuxer : Demuxer) : demuxer.advance.2.source = demuxer.source := by
  unfold Demuxer.advance
  split <;> rfl

theorem mem_of_upcoming {demuxer : Demuxer} {sample : Sample} (member : sample ∈ demuxer.upcoming) :
    sample ∈ demuxer.source.samples :=
  List.mem_of_mem_drop (List.mem_filter.mp member).1

theorem length_upcoming_le (demuxer : Demuxer) :
    demuxer.upcoming.length ≤ demuxer.source.samples.length := by
  have seen := List.length_filter_le demuxer.isVisible
    (demuxer.source.samples.drop demuxer.cursor)
  rw [List.length_drop] at seen
  exact Nat.le_trans seen (Nat.sub_le _ _)

/-- Where a seek brings the cursor, before what is hidden is passed over. -/
def landing (source : Source) (track : Nat) (time : Int) (mode : SeekMode) : Nat :=
  match syncPoint? (syncPoints source track) time mode with
  | some (_, place) => place
  | none => source.samples.length

theorem select_known {demuxer : Demuxer} {index : Nat} (known : index < demuxer.trackCount)
    (unselected : demuxer.selected = none) :
    demuxer.select index = (.ok (), { demuxer with selected := some index }.skipHidden) := by
  unfold select
  rw [if_pos known, unselected]

theorem reads_select {demuxer : Demuxer} {index : Nat} (known : index < demuxer.trackCount)
    (unselected : demuxer.selected = none) (unreleased : demuxer.released = false) :
    (demuxer.select index).1 = .ok () ∧ (demuxer.select index).2.Reads index ∧
      (demuxer.select index).2.source = demuxer.source := by
  rw [select_known known unselected]
  exact ⟨rfl, reads_skipHidden rfl unreleased, rfl⟩

theorem reads_selected (demuxer : Demuxer) {index : Nat} (unreleased : demuxer.released = false)
    (granted : (demuxer.select index).1 = .ok ()) :
    (demuxer.select index).2.Reads index ∧ (demuxer.select index).2.source = demuxer.source := by
  unfold select at granted ⊢
  split at granted
  next known =>
    rw [if_pos known]
    cases selected : demuxer.selected with
    | none => exact ⟨reads_skipHidden rfl unreleased, rfl⟩
    | some active =>
      rw [selected] at granted
      dsimp only at granted ⊢
      split at granted
      next again =>
        rw [if_pos again]
        exact ⟨reads_skipHidden (again ▸ selected) unreleased, rfl⟩
      next other => exact nomatch granted
  next unknown => exact nomatch granted

theorem unselect_known {demuxer : Demuxer} {index : Nat} (known : index < demuxer.trackCount)
    (selected : demuxer.selected = some index) :
    demuxer.unselect index = (.ok (), { demuxer with selected := none }) := by
  unfold unselect
  rw [if_pos known, if_pos selected]

theorem Reads.seek {demuxer : Demuxer} {track : Nat} (reads : demuxer.Reads track) (time : Int)
    (mode : SeekMode) : (demuxer.seek time mode).Reads track := by
  unfold Demuxer.seek
  rw [reads.selected]
  exact reads_skipHidden rfl reads.unreleased

theorem Reads.unselect {demuxer : Demuxer} {track : Nat} (reads : demuxer.Reads track)
    (known : track < demuxer.trackCount) :
    demuxer.unselect track = (.ok (), { demuxer with selected := none }) :=
  unselect_known known reads.selected

/-- After a seek, the track's samples from the landing on are to be met. -/
theorem Reads.own_seek {demuxer : Demuxer} {track : Nat} (reads : demuxer.Reads track) (time : Int)
    (mode : SeekMode) :
    (demuxer.seek time mode).upcoming.filter (·.track = track) =
      (demuxer.source.samples.drop (landing demuxer.source track time mode)).filter
        (·.track = track) := by
  unfold Demuxer.seek
  rw [reads.selected]
  simp only [upcoming_skipHidden]
  unfold upcoming
  rw [List.filter_filter]
  apply List.filter_congr
  intro sample _
  by_cases own : sample.track = track
  · simp [isVisible, own]
  · simp [own]

theorem seek_moves (demuxer : Demuxer) (time : Int) (mode : SeekMode) :
    ∃ cursor, demuxer.seek time mode = { demuxer with cursor } := by
  unfold seek
  split
  next unselected => exact ⟨0, rfl⟩
  next track selected => exact ⟨_, rfl⟩

theorem advance_moves (demuxer : Demuxer) : ∃ cursor, demuxer.advance.2 = { demuxer with cursor } := by
  unfold advance
  split
  next stands => exact ⟨demuxer.cursor, rfl⟩
  next goes => exact ⟨_, rfl⟩

theorem released_select (demuxer : Demuxer) (index : Nat) :
    (demuxer.select index).2.released = demuxer.released := by
  unfold select
  split
  next known =>
    split
    next active selected => split <;> rfl
    next unselected => rfl
  next unknown => rfl

theorem released_unselect (demuxer : Demuxer) (index : Nat) :
    (demuxer.unselect index).2.released = demuxer.released := by
  unfold unselect
  split
  next known =>
    dsimp only
    split <;> rfl
  next unknown => rfl

end Demuxer

namespace Muxer

structure Accepts (muxer : Muxer) : Prop where
  unfinalized : muxer.movie.finalized = false
  healthy : muxer.faults.failWriteAfter = none

variable {muxer : Muxer}

structure Stores (muxer : Muxer) (track : Nat) (buffer : Bytes) (info : SampleInfo)
    (isAudio : Bool) : Prop where
  unfinalized : muxer.movie.finalized = false
  fits : ∃ kept, muxer.movie.tracks[track]? = some kept ∧ kept.isAudio = isAudio
  positive : 0 < info.size
  healthy : ∀ limit, muxer.faults.failWriteAfter = some limit → muxer.written < limit
  within : info.stop ≤ buffer.size

section
variable {track : Nat} {buffer : Bytes} {info : SampleInfo} {isAudio : Bool}

theorem Stores.known (stores : muxer.Stores track buffer info isAudio) :
    track < muxer.movie.tracks.length := by
  obtain ⟨kept, found, -⟩ := stores.fits
  exact (List.getElem?_eq_some_iff.mp found).1

theorem cut_eq_some_iff {sample : MuxedSample} : admit?.cut buffer info = .ok (some sample) ↔
    info.stop ≤ buffer.size ∧
      sample = ⟨info.time, info.flags, buffer.extract info.offset info.stop⟩ := by
  unfold admit?.cut SampleInfo.slice?
  by_cases within : info.stop ≤ buffer.size
  · simp [within, eq_comm]
  · simp [within]

theorem admit?_eq_some_iff {sample : MuxedSample} :
    muxer.admit? track buffer info isAudio = .ok (some sample) ↔
      muxer.Stores track buffer info isAudio ∧
        sample = ⟨info.time, info.flags, buffer.extract info.offset info.stop⟩ := by
  constructor
  · intro admitted
    unfold admit? at admitted
    split at admitted
    next closed => exact nomatch admitted
    next live =>
      have unfinalized : muxer.movie.finalized = false := by simpa using live
      split at admitted
      next unknown => exact nomatch admitted
      next kept found =>
        split at admitted
        next misfits => exact nomatch admitted
        next kind =>
          have fits : ∃ kept, muxer.movie.tracks[track]? = some kept ∧ kept.isAudio = isAudio :=
            ⟨kept, found, Decidable.of_not_not kind⟩
          split at admitted
          next empty => exact nomatch admitted
          next filled =>
            have positive := Nat.pos_of_ne_zero filled
            split at admitted
            next limit faulty =>
              split at admitted
              next fails => exact nomatch admitted
              next works =>
                obtain ⟨within, same⟩ := cut_eq_some_iff.mp admitted
                refine ⟨⟨unfinalized, fits, positive, fun other told => ?_, within⟩, same⟩
                obtain rfl := Option.some.inj (faulty.symm.trans told)
                exact Nat.lt_of_not_le works
            next sound =>
              obtain ⟨within, same⟩ := cut_eq_some_iff.mp admitted
              refine ⟨⟨unfinalized, fits, positive, fun limit told => ?_, within⟩, same⟩
              exact nomatch sound.symm.trans told
  · rintro ⟨⟨unfinalized, ⟨kept, found, kind⟩, positive, healthy, within⟩, same⟩
    have whole := cut_eq_some_iff.mpr ⟨within, same⟩
    unfold admit?
    rw [unfinalized, if_neg (by simp), found]
    simp only [kind, ne_eq, not_true_eq_false, if_false, Nat.ne_of_gt positive]
    split
    next limit faulty =>
      rw [if_neg (Nat.not_le_of_lt (healthy limit faulty))]
      exact whole
    next sound => exact whole

end

theorem Accepts.finalize (accepts : muxer.Accepts) (faultless : muxer.faults = {}) :
    muxer.finalize = (.ok (), { muxer with movie := { muxer.movie with
      finalizeCalls := muxer.movie.finalizeCalls + 1, finalized := true } }) := by
  unfold Muxer.finalize
  dsimp only
  rw [accepts.unfinalized, faultless]
  rfl

theorem Accepts.addTrack (accepts : muxer.Accepts) (format : Format) (isAudio : Bool) :
    muxer.addTrack format isAudio = (.ok muxer.movie.tracks.length, { muxer with
      movie := { muxer.movie with tracks := muxer.movie.tracks ++ [⟨format, isAudio, []⟩] } }) := by
  unfold Muxer.addTrack
  rw [accepts.unfinalized, if_neg (by simp)]

theorem Accepts.write_empty (accepts : muxer.Accepts) {track : Nat} {kept : MuxedTrack}
    {isAudio : Bool} (found : muxer.movie.tracks[track]? = some kept)
    (kind : kept.isAudio = isAudio) (buffer : Bytes) {info : SampleInfo} (empty : info.size = 0) :
    muxer.write track buffer info isAudio = (.ok false, muxer) := by
  have admitted : muxer.admit? track buffer info isAudio = .ok none := by
    unfold admit?
    rw [accepts.unfinalized, if_neg (by simp), found]
    simp only [kind, ne_eq, not_true_eq_false, if_false, empty, if_true]
  unfold Muxer.write
  rw [admitted]

theorem Accepts.write (accepts : muxer.Accepts) {track : Nat} {kept : MuxedTrack} {isAudio : Bool}
    (found : muxer.movie.tracks[track]? = some kept) (kind : kept.isAudio = isAudio)
    {buffer data : Bytes} {info : SampleInfo} (positive : 0 < info.size)
    (within : info.slice? buffer = some data) :
    muxer.write track buffer info isAudio = (.ok true, { muxer with
      movie := { muxer.movie with
        tracks := muxer.movie.tracks.modify track fun kept =>
          { kept with samples := kept.samples ++ [⟨info.time, info.flags, data⟩] } }
      written := muxer.written + 1 }) := by
  have admitted : muxer.admit? track buffer info isAudio =
      .ok (some ⟨info.time, info.flags, data⟩) := by
    obtain ⟨inside, cut⟩ := Option.ite_none_right_eq_some.mp within
    obtain rfl := Option.some.inj cut
    exact admit?_eq_some_iff.mpr ⟨⟨accepts.unfinalized, ⟨kept, found, kind⟩, positive,
      by simp [accepts.healthy], inside⟩, rfl⟩
  unfold Muxer.write
  rw [admitted]

theorem time_of_admit? {track : Nat} {buffer : Bytes} {info : SampleInfo}
    {isAudio : Bool} {sample : MuxedSample}
    (admitted : muxer.admit? track buffer info isAudio = .ok (some sample)) :
    sample.time = info.time := by
  obtain ⟨-, same⟩ := admit?_eq_some_iff.mp admitted
  rw [same]

/-- A write either adds the one sample to its track or leaves all tracks as they are. -/
theorem tracks_write {place : Nat} {buffer : Bytes} {info : SampleInfo} {isAudio stored : Bool}
    (written : (muxer.write place buffer info isAudio).1 = .ok stored) :
    if stored then ∃ sample, sample.time = info.time ∧
      (muxer.write place buffer info isAudio).2.movie.tracks = muxer.movie.tracks.modify place
        fun kept => { kept with samples := kept.samples ++ [sample] }
    else (muxer.write place buffer info isAudio).2.movie.tracks = muxer.movie.tracks := by
  unfold Muxer.write at written ⊢
  split at written
  next error refused => exact nomatch written
  next empty =>
    cases written
    rfl
  next sample admitted =>
    cases written
    exact ⟨sample, time_of_admit? admitted, rfl⟩

end Muxer

end Recode.Container
