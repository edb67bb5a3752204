import Recode.Proofs.Containers

/-!
Seeking backwards in a track whose samples come at ever later times. What a seek to the sync point
before a time passes over is earlier than that time, provided that the track begins with a sync point;
and if every sample is one, the seek lands at the last sample that is not later.
-/

namespace Recode.Container
open Recode.Media

theorem takeWhile_eq_filter {α : Type} {before : α → α → Prop} {keeps : α → Bool} {values : List α}
    (sorted : values.Pairwise before)
    (earlier : ∀ first second, before first second → keeps second = true → keeps first = true) :
    values.takeWhile keeps = values.filter keeps := by
  induction values with
  | nil => rfl
  | cons value rest ih =>
    obtain ⟨first, sorted⟩ := List.pairwise_cons.mp sorted
    by_cases kept : keeps value = true
    · rw [List.takeWhile_cons_of_pos kept, List.filter_cons_of_pos kept, ih sorted]
    · have none_later : rest.filter keeps = [] := by
        rw [List.filter_eq_nil_iff]
        intro other member stays
        exact kept (earlier value other (first other member) stays)
      rw [List.takeWhile_cons_of_neg kept, List.filter_cons_of_neg kept, none_later]

namespace Source

def Rises (source : Source) (track : Nat) : Prop :=
  (source.trackSamples track).Pairwise (·.time < ·.time)

/-- Decoding can start with the first sample of the track: it is a key frame, or none is. -/
def StartsInSync (source : Source) (track : Nat) : Prop :=
  (∀ sample ∈ source.trackSamples track, sample.flags.isKeyFrame = false) ∨
    ∀ first, (source.trackSamples track).head? = some first → first.flags.isKeyFrame = true

end Source

/-- The last of the samples that is not later than the time, or else the first of all. -/
def previous? (samples : List Sample) (time : Int) : Option Sample :=
  (samples.filter (·.time ≤ time)).getLast?.or samples.head?

namespace Demuxer
variable {source : Source} {track : Nat}

def ownPlaces (source : Source) (track : Nat) : List (Sample × Nat) :=
  source.samples.zipIdx.filter (·.1.track = track)

theorem map_ownPlaces (source : Source) (track : Nat) :
    (ownPlaces source track).map (·.1) = source.trackSamples track := by
  calc (source.samples.zipIdx.filter (·.1.track = track)).map (·.1)
      _ = (source.samples.zipIdx.map (·.1)).filter (·.track = track) := by
          rw [List.filter_map]
          rfl
      _ = source.samples.filter (·.track = track) := by rw [List.zipIdx_map_fst]

theorem syncPoints_eq (source : Source) (track : Nat) :
    syncPoints source track =
      if (ownPlaces source track).any (·.1.flags.isKeyFrame) then
        (ownPlaces source track).filter (·.1.flags.isKeyFrame)
      else ownPlaces source track := rfl

theorem mem_ownPlaces_of_sync {point : Sample × Nat} (member : point ∈ syncPoints source track) :
    point ∈ ownPlaces source track := by
  rw [syncPoints_eq] at member
  split at member
  next keyed => exact (List.mem_filter.mp member).1
  next unkeyed => exact member

theorem mem_of_nearest? {time : Int} {points : List (Sample × Nat)} {point : Sample × Nat}
    (found : nearest? time points = some point) : point ∈ points := by
  induction points generalizing point with
  | nil => exact nomatch found
  | cons first rest ih =>
    unfold nearest? at found
    split at found
    next later nearest =>
      split at found
      next nearer => exact List.mem_cons_of_mem _ (ih (nearest.trans found))
      next further => exact Option.some.inj found ▸ List.mem_cons_self
    next alone => exact Option.some.inj found ▸ List.mem_cons_self

theorem mem_of_syncPoint? {points : List (Sample × Nat)} {time : Int} {mode : SeekMode}
    {point : Sample × Nat} (found : syncPoint? points time mode = some point) : point ∈ points := by
  cases mode with
  | previousSync =>
    rcases Option.or_eq_some_iff.mp found with early | ⟨-, first⟩
    · exact List.mem_reverse.mp (List.mem_of_find?_eq_some early)
    · exact List.mem_of_head? first
  | nextSync => exact List.mem_of_find?_eq_some found
  | closestSync => exact mem_of_nearest? found

theorem trackSamples_split {sample : Sample} {place : Nat}
    (member : (sample, place) ∈ ownPlaces source track) :
    ∃ later, (source.samples.drop place).filter (·.track = track) = sample :: later ∧
      source.trackSamples track =
        (source.samples.take place).filter (·.track = track) ++ sample :: later := by
  obtain ⟨indexed, own⟩ := List.mem_filter.mp member
  have own : decide (sample.track = track) = true := own
  obtain ⟨inside, found⟩ : ∃ inside : place < source.samples.length,
      source.samples[place] = sample :=
    List.getElem?_eq_some_iff.mp (List.mem_zipIdx_iff_getElem?.mp indexed)
  have ahead : (source.samples.drop place).filter (·.track = track) =
      sample :: (source.samples.drop (place + 1)).filter (·.track = track) := by
    rw [List.drop_eq_getElem_cons inside, found]
    exact List.filter_cons_of_pos own
  refine ⟨_, ahead, ?_⟩
  rw [← ahead, ← List.filter_append, List.take_append_drop]
  rfl

theorem head_syncPoints (sync : source.StartsInSync track) :
    (syncPoints source track).head? = (ownPlaces source track).head? := by
  rw [syncPoints_eq]
  split
  next keyed =>
    obtain ⟨point, member, isKey⟩ := List.any_eq_true.mp keyed
    rcases sync with unkeyed | first
    · have absent := unkeyed point.1 (map_ownPlaces source track ▸ List.mem_map_of_mem member)
      rw [isKey] at absent
      exact nomatch absent
    · rw [← map_ownPlaces] at first
      cases places : ownPlaces source track with
      | nil => rfl
      | cons place rest =>
        rw [places] at first
        have isKey : place.1.flags.isKeyFrame = true := first place.1 rfl
        simp [isKey]
  next unkeyed => rfl

theorem landing_passes (rises : source.Rises track) (sync : source.StartsInSync track)
    (time : Int) :
    ∃ passed, source.trackSamples track = passed ++
        (source.samples.drop (landing source track time .previousSync)).filter (·.track = track) ∧
      ∀ sample ∈ passed, sample.time < time := by
  unfold landing
  cases found : syncPoint? (syncPoints source track) time .previousSync with
  | none =>
    obtain ⟨-, nothing⟩ := Option.or_eq_none_iff.mp found
    rw [head_syncPoints sync, List.head?_eq_none_iff] at nothing
    have silent : source.trackSamples track = [] := by rw [← map_ownPlaces, nothing]; rfl
    refine ⟨[], ?_, nofun⟩
    simp [silent]
  | some point =>
    obtain ⟨sample, place⟩ := point
    dsimp only
    obtain ⟨later, ahead, parted⟩ :=
      trackSamples_split (mem_ownPlaces_of_sync (mem_of_syncPoint? found))
    have rises : (source.trackSamples track).Pairwise (·.time < ·.time) := rises
    rcases Option.or_eq_some_iff.mp found with early | ⟨-, first⟩
    · have notLater : sample.time ≤ time := by simpa using List.find?_some early
      refine ⟨_, ahead ▸ parted, fun other passed => ?_⟩
      rw [parted] at rises
      have before := (List.pairwise_append.mp rises).2.2 other passed sample List.mem_cons_self
      omega
    · rw [head_syncPoints sync] at first
      have head : (source.trackSamples track).head? = some sample := by
        rw [← map_ownPlaces, List.head?_map, first]
        rfl
      refine ⟨[], ?_, nofun⟩
      rw [parted] at head rises
      rw [parted, ahead]
      cases before : (source.samples.take place).filter (·.track = track) with
      | nil => rfl
      | cons other rest =>
        -- The first sample would be earlier than itself.
        rw [before] at head rises
        cases head
        have earlier := (List.pairwise_append.mp rises).2.2 sample List.mem_cons_self sample
          List.mem_cons_self
        omega

theorem syncPoints_of_keys (keys : ∀ sample ∈ source.trackSamples track,
    sample.flags.isKeyFrame = true) : syncPoints source track = ownPlaces source track := by
  rw [syncPoints_eq]
  split
  next keyed =>
    rw [List.filter_eq_self]
    intro point member
    exact keys point.1 (map_ownPlaces source track ▸ List.mem_map_of_mem member)
  next unkeyed => rfl

/-- In a track of key frames a seek lands at the last sample that is not later, or else at the
first. -/
theorem landing_of_keys (rises : source.Rises track) (keys : ∀ sample ∈ source.trackSamples track,
    sample.flags.isKeyFrame = true) {time : Int} {start : Sample}
    (found : previous? (source.trackSamples track) time = some start) :
    (source.samples.drop (landing source track time .previousSync)).filter (·.track = track) =
      (source.trackSamples track).filter (start.time ≤ ·.time) := by
  have same : (syncPoint? (syncPoints source track) time .previousSync).map (·.1) = some start := by
    rw [← found, syncPoints_of_keys keys, ← map_ownPlaces, previous?, List.getLast?_filter,
      ← List.map_reverse, List.find?_map, List.head?_map, ← Option.map_or]
    rfl
  obtain ⟨⟨sample, place⟩, point, rfl⟩ := Option.map_eq_some_iff.mp same
  obtain ⟨later, ahead, parted⟩ :=
    trackSamples_split (mem_ownPlaces_of_sync (mem_of_syncPoint? point))
  have rises : (source.trackSamples track).Pairwise (·.time < ·.time) := rises
  unfold landing
  rw [point]
  dsimp only
  rw [parted] at rises
  obtain ⟨-, onward, before⟩ := List.pairwise_append.mp rises
  have none_passed :
      ((source.samples.take place).filter (·.track = track)).filter (sample.time ≤ ·.time) = [] := by
    rw [List.filter_eq_nil_iff]
    intro other member notEarlier
    have earlier := before other member sample List.mem_cons_self
    have notEarlier : sample.time ≤ other.time := by simpa using notEarlier
    omega
  have all_later : (sample :: later).filter (sample.time ≤ ·.time) = sample :: later := by
    rw [List.filter_eq_self]
    intro other member
    rcases List.mem_cons.mp member with rfl | member
    · simp
    · have later := (List.pairwise_cons.mp onward).1 other member
      simpa using Int.le_of_lt later
  rw [ahead, parted, List.filter_append, none_passed, all_later, List.nil_append]

end Demuxer

end Recode.Container
