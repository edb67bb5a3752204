import Recode.Proofs.WholeCopies

/-!
Where a seek lands. A source stores the samples of all tracks in the order of their times, and a
seek goes to one at which decoding of the selected track can start: the last that is not too late,
the first that is not too early, or the first of the nearest. Nothing is passed over from there, so
the cursor stays at that sample; and a later time never leads to an earlier place.
-/

namespace Recode.Container
open Recode.Media

namespace Source
variable {source : Source} {track : Nat}

/-- At the place stands a sample of the track, shown at this time, with which decoding can start. -/
def SyncAt (source : Source) (track place : Nat) (shown : Int) : Prop :=
  ∃ sample, source.samples[place]? = some sample ∧ sample.track = track ∧ sample.time = shown ∧
    source.IsSync track sample

/-- The place to which each mode of seeking should lead, in a track that has samples. -/
def Target (source : Source) (track : Nat) (time : Int) (goal : Nat) : SeekMode → Prop
  | .previousSync =>
      IsGreatest {place | ∃ shown ≤ time, source.SyncAt track place shown} goal ∨
        (∀ place shown, source.SyncAt track place shown → time < shown) ∧
          IsLeast {place | ∃ shown, source.SyncAt track place shown} goal
  | .nextSync =>
      IsLeast {place | ∃ shown ≥ time, source.SyncAt track place shown} goal ∨
        (∀ place shown, source.SyncAt track place shown → shown < time) ∧
          goal = source.samples.length
  | .closestSync =>
      IsLeast {place | ∃ shown, source.SyncAt track place shown ∧ ∀ other far,
        source.SyncAt track other far → (shown - time).natAbs ≤ (far - time).natAbs} goal

theorem SyncAt.lt_length {place : Nat} {shown : Int} (syncs : source.SyncAt track place shown) :
    place < source.samples.length := by
  obtain ⟨sample, found, -⟩ := syncs
  exact (List.getElem?_eq_some_iff.mp found).1

theorem SyncAt.time_le (sorted : source.samples.Pairwise (·.time ≤ ·.time)) {first second : Nat}
    {early late : Int} (ordered : first < second) (one : source.SyncAt track first early)
    (other : source.SyncAt track second late) : early ≤ late := by
  obtain ⟨sample, found, -, rfl, -⟩ := one
  obtain ⟨next, behind, -, rfl, -⟩ := other
  obtain ⟨inside, rfl⟩ := List.getElem?_eq_some_iff.mp found
  obtain ⟨within, rfl⟩ := List.getElem?_eq_some_iff.mp behind
  exact List.pairwise_iff_getElem.mp sorted first second inside within ordered

/-- A later time is not sought at an earlier place. Only the nearest sync point depends on the order
of the times: if the later time had a nearer one in front, so would the earlier time. -/
theorem Target.mono (sorted : source.samples.Pairwise (·.time ≤ ·.time)) {earlier later : Int}
    (ordered : earlier ≤ later) {mode : SeekMode} {first second : Nat}
    (one : source.Target track earlier first mode) (other : source.Target track later second mode) :
    first ≤ second := by
  cases mode with
  | previousSync =>
    rcases one with ⟨⟨shown, notLater, syncs⟩, -⟩ | ⟨-, isFirst⟩
    · rcases other with ⟨-, isLast⟩ | ⟨allLater, -⟩
      · exact isLast ⟨shown, Int.le_trans notLater ordered, syncs⟩
      · have tooLate := allLater first shown syncs
        omega
    · rcases other with ⟨⟨shown, -, syncs⟩, -⟩ | ⟨-, ⟨shown, syncs⟩, -⟩
      · exact isFirst.2 ⟨shown, syncs⟩
      · exact isFirst.2 ⟨shown, syncs⟩
  | nextSync =>
    rcases other with ⟨⟨shown, notEarlier, syncs⟩, -⟩ | ⟨-, rfl⟩
    · rcases one with ⟨-, isFirst⟩ | ⟨allEarlier, -⟩
      · exact isFirst ⟨shown, Int.le_trans ordered notEarlier, syncs⟩
      · have tooEarly := allEarlier second shown syncs
        omega
    · rcases one with ⟨⟨_, -, syncs⟩, -⟩ | ⟨-, rfl⟩
      · exact Nat.le_of_lt syncs.lt_length
      · exact Nat.le_refl _
  | closestSync =>
    obtain ⟨⟨shown, syncs, nearest⟩, isFirst⟩ := one
    obtain ⟨⟨found, founds, best⟩, -⟩ := other
    by_contra behind
    have behind : second < first := Nat.lt_of_not_le behind
    have sooner : found ≤ shown := SyncAt.time_le sorted behind founds syncs
    have better := best first shown syncs
    have worse : (shown - earlier).natAbs < (found - earlier).natAbs := by
      by_contra asNear
      have alsoNearest : first ≤ second := isFirst ⟨found, founds, fun place far member => by
        have least := nearest place far member
        omega⟩
      omega
    omega

end Source

theorem le_of_find? {α : Type} {place : α → Nat} {values : List α} {found : α → Bool} {first : α}
    (rising : values.Pairwise (place · < place ·)) (finds : values.find? found = some first)
    {value : α} (member : value ∈ values) (isFound : found value = true) :
    place first ≤ place value := by
  have kept := rising.filter found
  have begins : (values.filter found).head? = some first := (List.head?_filter ..).trans finds
  exact le_of_head? kept begins (List.mem_filter.mpr ⟨member, isFound⟩)

namespace Demuxer
variable {source : Source} {track : Nat}

theorem syncAt_iff {place : Nat} {shown : Int} : source.SyncAt track place shown ↔
    ∃ sample, (sample, place) ∈ syncPoints source track ∧ sample.time = shown := by
  constructor
  · rintro ⟨sample, found, own, shown, syncs⟩
    exact ⟨sample, mem_syncPoints.mpr ⟨mem_ownPlaces.mpr ⟨found, own⟩, syncs⟩, shown⟩
  · rintro ⟨sample, member, shown⟩
    obtain ⟨placed, syncs⟩ := mem_syncPoints.mp member
    obtain ⟨found, own⟩ := mem_ownPlaces.mp placed
    exact ⟨sample, found, own, shown, syncs⟩

theorem nearest?_eq_none {time : Int} {points : List (Sample × Nat)} :
    nearest? time points = none ↔ points = [] := by
  cases points with
  | nil => exact ⟨fun _ => rfl, fun _ => rfl⟩
  | cons point rest =>
    unfold nearest?
    constructor
    · intro nothing
      split at nothing
      next later _ => split at nothing <;> exact nomatch nothing
      next => exact nomatch nothing
    · exact nofun

/-- No other point is nearer than the nearest, and those that are as near come behind it. -/
theorem nearest?_spec {time : Int} {points : List (Sample × Nat)}
    (rising : points.Pairwise (·.2 < ·.2)) {point : Sample × Nat}
    (found : nearest? time points = some point) {other : Sample × Nat} (member : other ∈ points) :
    (point.1.time - time).natAbs ≤ (other.1.time - time).natAbs ∧
      ((other.1.time - time).natAbs ≤ (point.1.time - time).natAbs → point.2 ≤ other.2) := by
  induction points generalizing point with
  | nil => exact nomatch member
  | cons first rest ih =>
    obtain ⟨ahead, rising⟩ := List.pairwise_cons.mp rising
    unfold nearest? at found
    split at found
    next later nearest =>
      have best := ih rising nearest
      split at found
      next nearer =>
        cases found
        rcases List.mem_cons.mp member with rfl | member
        · omega
        · exact best member
      next further =>
        cases found
        rcases List.mem_cons.mp member with rfl | member
        · exact ⟨Nat.le_refl _, fun _ => Nat.le_refl _⟩
        · have notNearer := (best member).1
          exact ⟨by omega, fun _ => Nat.le_of_lt (ahead other member)⟩
    next alone =>
      cases found
      rw [nearest?_eq_none] at alone
      subst alone
      rw [List.mem_singleton.mp member]
      exact ⟨Nat.le_refl _, fun _ => Nat.le_refl _⟩

theorem target_landing (sounds : source.trackSamples track ≠ []) (time : Int) (mode : SeekMode) :
    source.Target track time (landing source track time mode) mode := by
  have rising := pairwise_syncPoints source track
  unfold landing
  cases mode with
  | previousSync =>
    obtain ⟨sample, place, found⟩ := exists_previousSync sounds time
    rw [found]
    have here : source.SyncAt track place sample.time :=
      syncAt_iff.mpr ⟨sample, mem_of_syncPoint? found, rfl⟩
    rcases Option.or_eq_some_iff.mp found with last | ⟨nothing, first⟩
    · have notLater : sample.time ≤ time := by simpa using List.find?_some last
      refine .inl ⟨⟨sample.time, notLater, here⟩, ?_⟩
      rintro other ⟨shown, early, syncs⟩
      obtain ⟨point, member, rfl⟩ := syncAt_iff.mp syncs
      exact le_of_find?_reverse rising last member (decide_eq_true early)
    · refine .inr ⟨fun other shown syncs => ?_, ⟨sample.time, here⟩, ?_⟩
      · obtain ⟨point, member, rfl⟩ := syncAt_iff.mp syncs
        have tooLate := List.find?_eq_none.mp nothing _ (List.mem_reverse.mpr member)
        simpa using tooLate
      · rintro other ⟨shown, syncs⟩
        obtain ⟨point, member, -⟩ := syncAt_iff.mp syncs
        exact le_of_head? rising first member
  | nextSync =>
    cases found : syncPoint? (syncPoints source track) time .nextSync with
    | none =>
      refine .inr ⟨fun other shown syncs => ?_, rfl⟩
      obtain ⟨point, member, rfl⟩ := syncAt_iff.mp syncs
      have tooEarly := List.find?_eq_none.mp found _ member
      simpa using tooEarly
    | some point =>
      have notEarlier : time ≤ point.1.time := by simpa using List.find?_some found
      have here : source.SyncAt track point.2 point.1.time :=
        syncAt_iff.mpr ⟨point.1, mem_of_syncPoint? found, rfl⟩
      refine .inl ⟨⟨point.1.time, notEarlier, here⟩, ?_⟩
      rintro other ⟨shown, late, syncs⟩
      obtain ⟨next, member, rfl⟩ := syncAt_iff.mp syncs
      exact le_of_find? rising found member (decide_eq_true late)
  | closestSync =>
    cases found : syncPoint? (syncPoints source track) time .closestSync with
    | none =>
      have nothing : syncPoints source track = [] := nearest?_eq_none.mp found
      obtain ⟨sample, place, previous⟩ := exists_previousSync sounds time
      have member := mem_of_syncPoint? previous
      rw [nothing] at member
      exact nomatch member
    | some point =>
      have best {other : Sample × Nat} (member : other ∈ syncPoints source track) :=
        nearest?_spec rising found member
      refine ⟨⟨point.1.time, syncAt_iff.mpr ⟨point.1, mem_of_syncPoint? found, rfl⟩, ?_⟩, ?_⟩
      · intro other far syncs
        obtain ⟨next, member, rfl⟩ := syncAt_iff.mp syncs
        exact (best member).1
      · rintro other ⟨shown, syncs, nearest⟩
        obtain ⟨next, member, rfl⟩ := syncAt_iff.mp syncs
        exact (best member).2 (nearest point.2 point.1.time
          (syncAt_iff.mpr ⟨point.1, mem_of_syncPoint? found, rfl⟩))

theorem landing_silent (silent : source.trackSamples track = []) (time : Int) (mode : SeekMode) :
    landing source track time mode = source.samples.length := by
  unfold landing
  cases found : syncPoint? (syncPoints source track) time mode with
  | none => rfl
  | some point =>
    have own := mem_ownPlaces_of_sync (mem_of_syncPoint? found)
    have member : point.1 ∈ source.trackSamples track :=
      map_ownPlaces source track ▸ List.mem_map_of_mem own
    rw [silent] at member
    exact nomatch member

theorem own_of_landing {time : Int} {mode : SeekMode} {sample : Sample}
    (found : source.samples[landing source track time mode]? = some sample) :
    sample.track = track := by
  unfold landing at found
  split at found
  next point place chosen =>
    obtain ⟨stored, own⟩ := mem_ownPlaces.mp (mem_ownPlaces_of_sync (mem_of_syncPoint? chosen))
    rw [found] at stored
    cases stored
    exact own
  next nothing =>
    rw [List.getElem?_eq_none (Nat.le_refl _)] at found
    exact nomatch found

theorem skipHidden_settled {demuxer : Demuxer} (settled : ∀ sample,
    demuxer.source.samples[demuxer.cursor]? = some sample → demuxer.isVisible sample = true) :
    demuxer.skipHidden = demuxer := by
  have nothing : (demuxer.source.samples.drop demuxer.cursor).takeWhile
      (!demuxer.isVisible ·) = [] := by
    cases ahead : demuxer.source.samples.drop demuxer.cursor with
    | nil => rfl
    | cons sample later =>
      have first : demuxer.source.samples[demuxer.cursor]? = some sample := by
        rw [← List.head?_drop, ahead]
        rfl
      simp [settled sample first]
  unfold skipHidden
  rw [nothing]
  rfl

theorem seek_eq {demuxer : Demuxer} (selected : demuxer.selected = some track) (time : Int)
    (mode : SeekMode) :
    demuxer.seek time mode =
      { demuxer with cursor := landing demuxer.source track time mode } := by
  have own (sample : Sample)
      (found : demuxer.source.samples[landing demuxer.source track time mode]? = some sample) :
      ({ demuxer with cursor := landing demuxer.source track time mode } : Demuxer).isVisible
        sample = true := by
    unfold isVisible
    simp [selected, own_of_landing found]
  calc demuxer.seek time mode
      = ({ demuxer with cursor := landing demuxer.source track time mode } : Demuxer).skipHidden :=
        by
          unfold seek
          rw [selected]
          rfl
    _ = { demuxer with cursor := landing demuxer.source track time mode } :=
        skipHidden_settled own

/-- A seek in a track with samples lands at the sync point for which its mode asks, and it is what
is seen then; in a track without samples, leaking or not, it goes to the end, where nothing is seen.
A later time never leads to an earlier place. -/
theorem seek_lands_in_sync {demuxer : Demuxer} (built : demuxer.source.Built)
    (selected : demuxer.selected = some track) :
    (demuxer.source.trackSamples track ≠ [] → ∀ time mode,
      demuxer.source.Target track time (demuxer.seek time mode).cursor mode) ∧
    (demuxer.source.trackSamples track = [] → ∀ time mode,
      (demuxer.seek time mode).cursor = demuxer.source.samples.length ∧
        (demuxer.seek time mode).current? = none) ∧
    (demuxer.released = false → ∀ time mode, (demuxer.seek time mode).current? =
      demuxer.source.samples[(demuxer.seek time mode).cursor]?) ∧
    ∀ mode, Monotone fun time => (demuxer.seek time mode).cursor := by
  have lands (time : Int) (mode : SeekMode) :
      (demuxer.seek time mode).cursor = landing demuxer.source track time mode :=
    congrArg (·.cursor) (seek_eq selected time mode)
  refine ⟨fun sounds time mode => ?_, fun silent time mode => ⟨?_, ?_⟩,
    fun unreleased time mode => ?_, fun mode earlier later ordered => ?_⟩
  · rw [lands]
    exact target_landing sounds time mode
  · rw [lands]
    exact landing_silent silent time mode
  · rw [seek_eq selected, landing_silent silent]
    simp [current?]
  · rw [seek_eq selected]
    unfold current?
    rw [unreleased]
    cases found : demuxer.source.samples[landing demuxer.source track time mode]? with
    | none => rfl
    | some sample => simp [isVisible, selected, own_of_landing found]
  · show (demuxer.seek earlier mode).cursor ≤ (demuxer.seek later mode).cursor
    rw [lands, lands]
    by_cases silent : demuxer.source.trackSamples track = []
    · rw [landing_silent silent, landing_silent silent]
    · exact Source.Target.mono built.sorted ordered (target_landing silent earlier mode)
        (target_landing silent later mode)

/-- A track with two key frames at one time, and the sound between them and behind them. -/
def steppedSource : Source :=
  ((({} : Source).addTrack (.video videoAvc 4 4)).addTrack (.audio audioAac 44100 2)
    |>.addSamples [⟨0, 0, .keyFrame, #[1]⟩, ⟨0, 10, .none, #[2]⟩, ⟨0, 20, .keyFrame, #[3]⟩,
      ⟨1, 20, .keyFrame, #[4]⟩, ⟨0, 20, .keyFrame, #[5]⟩, ⟨1, 30, .keyFrame, #[6]⟩]).1

theorem seek_lands_in_sync_stepped :
    let demuxer : Demuxer := { source := steppedSource, leaks := true, selected := some 0 }
    steppedSource.Target 0 25 4 .previousSync ∧ steppedSource.Target 0 25 6 .nextSync ∧
      steppedSource.Target 0 25 2 .closestSync ∧
      ∀ mode, Monotone fun time => (demuxer.seek time mode).cursor := by
  intro demuxer
  have built : steppedSource.Built := ((Source.Built.empty.track _).track _).addSamples _
  obtain ⟨lands, -, -, mono⟩ := @seek_lands_in_sync 0 demuxer built rfl
  exact ⟨lands (by decide) 25 .previousSync, lands (by decide) 25 .nextSync,
    lands (by decide) 25 .closestSync, mono⟩

end Demuxer

end Recode.Container
