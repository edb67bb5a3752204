import Recode.Proofs.Seeking
import Recode.Proofs.SimulatedTranscode

/-!
Copies of a whole track. A copy from the beginning to the end takes what comes from the landing of
the seek on, so it loses what comes before a sync point that is not later than time zero, or before
the first of all.
-/

namespace Recode.Container

namespace Source

/-- Decoding of the track can start with the sample: it is a key frame, or the track has none. -/
def IsSync (source : Source) (track : Nat) (sample : Sample) : Prop :=
  sample.flags.isKeyFrame = true ∨
    ∀ other ∈ source.trackSamples track, other.flags.isKeyFrame = false

/-- Only samples without bytes come before a sync point that is not later than time zero, and before
the first. -/
def BeginsWhole (source : Source) (track : Nat) : Prop :=
  ∀ passed sync later, source.trackSamples track = passed ++ sync :: later →
    source.IsSync track sync → (sync.time ≤ 0 ∨ ∀ sample ∈ passed, ¬source.IsSync track sample) →
    ∀ sample ∈ passed, sample.data.size = 0

end Source

theorem le_of_find?_reverse {α : Type} {place : α → Nat} {values : List α} {found : α → Bool}
    {last : α} (rising : values.Pairwise (place · < place ·))
    (finds : values.reverse.find? found = some last) {value : α} (member : value ∈ values)
    (isFound : found value = true) : place value ≤ place last := by
  obtain ⟨-, behind, before, parted, unfound⟩ := List.find?_eq_some_iff_append.mp finds
  have parted : values = before.reverse ++ last :: behind.reverse := by
    rw [← List.reverse_reverse values, parted]
    simp
  rw [parted] at rising member
  rcases List.mem_append.mp member with early | others
  · exact Nat.le_of_lt ((List.pairwise_append.mp rising).2.2 value early last List.mem_cons_self)
  · rcases List.mem_cons.mp others with rfl | late
    · exact Nat.le_refl _
    · have missed := unfound value (List.mem_reverse.mp late)
      simp [isFound] at missed

theorem le_of_head? {α : Type} {place : α → Nat} {values : List α} {first value : α}
    (rising : values.Pairwise (place · < place ·)) (begins : values.head? = some first)
    (member : value ∈ values) : place first ≤ place value := by
  obtain ⟨rest, rfl⟩ := List.head?_eq_some_iff.mp begins
  rcases List.mem_cons.mp member with rfl | later
  · exact Nat.le_refl _
  · exact Nat.le_of_lt ((List.pairwise_cons.mp rising).1 value later)

namespace Demuxer
variable {source : Source} {track : Nat}

theorem pairwise_ownPlaces (source : Source) (track : Nat) :
    (ownPlaces source track).Pairwise (·.2 < ·.2) := by
  have places : (source.samples.zipIdx.map (·.2)).Pairwise (· < ·) := by
    rw [List.zipIdx_map_snd]
    exact List.pairwise_lt_range'
  exact (List.pairwise_map.mp places).filter _

theorem pairwise_syncPoints (source : Source) (track : Nat) :
    (syncPoints source track).Pairwise (·.2 < ·.2) := by
  rw [syncPoints_eq]
  split
  next keyed => exact (pairwise_ownPlaces source track).filter _
  next unkeyed => exact pairwise_ownPlaces source track

theorem mem_ownPlaces {point : Sample × Nat} : point ∈ ownPlaces source track ↔
    source.samples[point.2]? = some point.1 ∧ point.1.track = track := by
  unfold ownPlaces
  rw [List.mem_filter, List.mem_zipIdx_iff_getElem?, decide_eq_true_eq]

theorem mem_syncPoints {point : Sample × Nat} : point ∈ syncPoints source track ↔
    point ∈ ownPlaces source track ∧ source.IsSync track point.1 := by
  rw [syncPoints_eq]
  have unkeyed_iff : (∀ other ∈ source.trackSamples track, other.flags.isKeyFrame = false) ↔
      (ownPlaces source track).any (·.1.flags.isKeyFrame) = false := by
    rw [← map_ownPlaces]
    simp
  unfold Source.IsSync
  rw [unkeyed_iff]
  split
  next keyed => simp [keyed]
  next unkeyed => simp [unkeyed]

def before (source : Source) (track : Nat) (place : Nat) : List Sample :=
  (source.samples.take place).filter (·.track = track)

theorem mem_before {sample : Sample} {place : Nat} : sample ∈ before source track place ↔
    ∃ earlier < place, (sample, earlier) ∈ ownPlaces source track := by
  unfold before
  simp only [List.mem_filter, decide_eq_true_eq, mem_ownPlaces, List.mem_take_iff_getElem,
    List.getElem?_eq_some_iff]
  constructor
  · rintro ⟨⟨earlier, inside, rfl⟩, own⟩
    exact ⟨earlier, by omega, ⟨by omega, rfl⟩, own⟩
  · rintro ⟨earlier, isBefore, ⟨inside, rfl⟩, own⟩
    exact ⟨⟨earlier, by omega, rfl⟩, own⟩

theorem place_of_split {passed later : List Sample} {sample : Sample}
    (parted : source.trackSamples track = passed ++ sample :: later) :
    ∃ place, (sample, place) ∈ ownPlaces source track ∧ before source track place = passed := by
  obtain ⟨front, back, whole, rfl, ahead⟩ := List.filter_eq_append_iff.mp parted
  obtain ⟨skipped, rest, rfl, unseen, own, -⟩ := List.filter_eq_cons_iff.mp ahead
  refine ⟨(front ++ skipped).length, mem_ownPlaces.mpr ⟨?_, of_decide_eq_true own⟩, ?_⟩
  · rw [whole, ← List.append_assoc]
    simp
  · have unseen : skipped.filter (·.track = track) = [] := List.filter_eq_nil_iff.mpr unseen
    unfold before
    rw [whole, ← List.append_assoc, List.take_left, List.filter_append, unseen, List.append_nil]

theorem exists_previousSync (sounds : source.trackSamples track ≠ []) (time : Int) :
    ∃ sample place, syncPoint? (syncPoints source track) time .previousSync = some (sample, place) := by
  cases found : syncPoint? (syncPoints source track) time .previousSync with
  | some point => exact ⟨point.1, point.2, rfl⟩
  | none =>
    obtain ⟨-, nothing⟩ := Option.or_eq_none_iff.mp found
    rw [List.head?_eq_none_iff, List.eq_nil_iff_forall_not_mem] at nothing
    -- Whether or not there are key frames, some sample is a sync point.
    have unkeyed (other) (member : other ∈ source.trackSamples track) :
        other.flags.isKeyFrame = false := by
      rw [← map_ownPlaces] at member
      obtain ⟨point, own, rfl⟩ := List.mem_map.mp member
      rw [← Bool.not_eq_true]
      exact fun isKey => nothing point (mem_syncPoints.mpr ⟨own, .inl isKey⟩)
    obtain ⟨sample, rest, begins⟩ := List.exists_cons_of_ne_nil sounds
    have begins : source.trackSamples track = [] ++ sample :: rest := begins
    obtain ⟨place, own, -⟩ := place_of_split begins
    exact absurd (mem_syncPoints.mpr ⟨own, .inr unkeyed⟩) (nothing _)

/-- A seek to the beginning passes over nothing but empty samples exactly if the track begins
whole. -/
theorem before_landing_empty_iff (sounds : source.trackSamples track ≠ []) :
    (∀ sample ∈ before source track (landing source track 0 .previousSync), sample.data.size = 0) ↔
      source.BeginsWhole track := by
  obtain ⟨start, place, found⟩ := exists_previousSync sounds 0
  have lands : landing source track 0 .previousSync = place := by
    unfold landing
    rw [found]
  have isPoint := mem_of_syncPoint? found
  obtain ⟨own, isSync⟩ := mem_syncPoints.mp isPoint
  have rising := pairwise_syncPoints source track
  rw [lands]
  constructor
  · intro empty passed sync later parted syncs early sample member
    obtain ⟨other, held, rfl⟩ := place_of_split parted
    have isOther := mem_syncPoints.mpr ⟨held, syncs⟩
    -- No such sync point lies behind the one at which the seek lands.
    have notBehind : other ≤ place := by
      rcases early with notLater | isFirst
      · rcases Option.or_eq_some_iff.mp found with last | ⟨nothing, -⟩
        · exact le_of_find?_reverse rising last isOther (decide_eq_true notLater)
        · have missed := List.find?_eq_none.mp nothing _ (List.mem_reverse.mpr isOther)
          exact absurd (decide_eq_true notLater) missed
      · by_contra behind
        exact isFirst start (mem_before.mpr ⟨place, Nat.lt_of_not_le behind, own⟩) isSync
    obtain ⟨earlier, isBefore, known⟩ := mem_before.mp member
    exact empty sample (mem_before.mpr ⟨earlier, Nat.lt_of_lt_of_le isBefore notBehind, known⟩)
  · intro whole
    obtain ⟨later, -, parted⟩ := trackSamples_split own
    refine whole _ start later parted isSync ?_
    rcases Option.or_eq_some_iff.mp found with last | ⟨-, first⟩
    · exact .inl (by simpa using List.find?_some last)
    · refine .inr fun sample member syncs => ?_
      obtain ⟨earlier, isBefore, known⟩ := mem_before.mp member
      have notBefore := le_of_head? rising first (mem_syncPoints.mpr ⟨known, syncs⟩)
      dsimp only at notBefore
      omega

end Demuxer

end Recode.Container

namespace Recode.Simulation
open Recode.Media Recode.Container Recode.Device Recode.Progress Recode.Session
open Recode.Session.Work

structure Copies (ended : Except Stop CopyOutcome × Rig Bench) (track : Track)
    (samples : List MuxedSample) : Prop where
  result : ended.1 = .ok ⟨0, samples.head?.map (·.time), samples.length⟩
  movie : ended.2.movie?.map (·.tracks) = some [⟨track.format, track.isAudio, samples⟩]

def wholeTrack (source : Source) (track : Nat) : List MuxedSample :=
  ((source.trackSamples track).filter (·.data.size ≠ 0)).map Sample.muxed

section
variable {source : Source} {track : Nat} {window : Window}

theorem copiedSamples_unbounded (unbounded : window.stop? = none) :
    copiedSamples source track window = ((source.samples.drop
      (Demuxer.landing source track window.seekTarget .previousSync)).filter (·.track = track)).filter
        (·.data.size ≠ 0) := by
  unfold copiedSamples
  have goesOn : ∀ ahead : List Sample, ahead.takeWhile (!window.hasEnded ·.time) = ahead := by
    intro ahead
    rw [List.takeWhile_eq_self_iff]
    intro sample _
    unfold Window.hasEnded
    rw [unbounded]
    rfl
  dsimp only
  rw [goesOn]

/-- What a copy from the beginning takes is the whole track but for what comes before the landing. -/
theorem wholeTrack_eq (fromStart : window.start ≤ 0) (unbounded : window.stop? = none) :
    wholeTrack source track =
      ((Demuxer.before source track (Demuxer.landing source track 0 .previousSync)).filter
        (·.data.size ≠ 0)).map Sample.muxed ++
      (copiedSamples source track window).map Sample.muxed := by
  have target : window.seekTarget = 0 := Int.max_eq_right fromStart
  rw [copiedSamples_unbounded unbounded, target, ← List.map_append, ← List.filter_append]
  unfold Demuxer.before
  rw [← List.filter_append, List.take_append_drop]
  rfl

theorem copiedSamples_whole_iff (sounds : source.trackSamples track ≠ [])
    (fromStart : window.start ≤ 0) (unbounded : window.stop? = none) :
    (copiedSamples source track window).map Sample.muxed = wholeTrack source track ↔
      source.BeginsWhole track := by
  rw [wholeTrack_eq fromStart unbounded, ← Demuxer.before_landing_empty_iff sounds, eq_comm,
    List.append_left_eq_self]
  simp

end

theorem Trial.begin_eq {σ α : Type} {work : Work σ α} {reporter : Option Reporter} {world : World σ}
    {outside : σ} {result : Except Stop α} {left : Desk σ}
    (ran : work.run world { reporter, outside } = (result, left)) :
    Trial.begin work reporter world outside = (result, left.outside) := by
  unfold Trial.begin
  rw [ran]

section
variable {source : Source} (built : source.Built) {track : Track}
  (known : source.tracks[track.index]? = some track.format)
  (sounds : source.trackSamples track.index ≠ []) {library : Library}
  (writable : library.faults.failWriteAfter = none)
include built known sounds writable

theorem copyTrack_copies (window : Window) (settings : MovieSettings) (encoders : List CodecInfo)
    (faults : CodecFaults) (disk : Disk) (reporter : Option Reporter) (reporting : Bool) :
    let rig := Rig.forSession library source settings encoders faults disk
    Copies (Trial.begin (copyTrack track window reporting) reporter
      (Rig.world Bench.answer (rig.patienceFor {})) rig) track
        ((copiedSamples source track.index window).map Sample.muxed) := by
  intro rig
  have hasRoom := built.hasRoom
  obtain ⟨format, room, stored, sized⟩ := hasRoom.promises sounds
  obtain rfl : track.format = format := Option.some.inj (known.symm.trans stored)
  have counted : source.samples.length ≤ rig.sampleCount :=
    samples_le_sampleCount library source settings encoders faults disk
  have enough : source.samples.length < rig.patienceFor {} := by
    unfold Rig.patienceFor
    omega
  have started := desk_forSession library source settings encoders faults disk (rig.patienceFor {})
    reporter
  have resting : Resting source library.faults (.initial library source settings reporter) :=
    ⟨rfl, rfl, rfl, ⟨rfl, writable⟩, rfl⟩
  let backdrop : Backdrop := .ofSession library source (Catalog.new encoders faults).codecs faults
    disk (rig.patienceFor {})
  obtain ⟨outcome, left, ran, rfl, stage, rfl, -, tracks⟩ :=
    @copyTrack_reaches _ _ _ resting hasRoom track known room sized backdrop enough
      ⟨⟨(Catalog.new encoders faults).codecs, faults, {}⟩, none, none, none, none⟩ window reporting
  rw [Trial.begin_eq (started ▸ ran)]
  have movie : (backdrop.desk stage).outside.movie? = some stage.muxer.movie :=
    Backdrop.movie?_storage backdrop stage
  refine ⟨?_, (congrArg (Option.map (·.tracks)) movie).trans (congrArg some tracks)⟩
  rw [List.head?_map, Option.map_map, List.length_map]
  rfl

/-- A copy from the beginning to the end succeeds. It takes the end of the track, leaving out only
samples without bytes; and that is the whole track exactly if nothing else comes before the place at
which reading from the beginning starts. -/
theorem copy_from_start_whole_iff {window : Window} (fromStart : window.start ≤ 0)
    (unbounded : window.stop? = none) (settings : MovieSettings) (encoders : List CodecInfo)
    (faults : CodecFaults) (disk : Disk) (reporter : Option Reporter) (reporting : Bool) :
    let rig := Rig.forSession library source settings encoders faults disk
    ∃ samples, Copies (Trial.begin (copyTrack track window reporting) reporter
        (Rig.world Bench.answer (rig.patienceFor {})) rig) track samples ∧
      samples <:+ wholeTrack source track.index ∧
      (samples = wholeTrack source track.index ↔ source.BeginsWhole track.index) := by
  intro rig
  refine ⟨_, copyTrack_copies built known sounds writable window settings encoders faults disk
    reporter reporting, ?_, copiedSamples_whole_iff sounds fromStart unbounded⟩
  rw [wholeTrack_eq fromStart unbounded]
  exact List.suffix_append _ _

end

theorem briefSource_beginsWhole : briefSource.BeginsWhole 0 := by
  intro passed sync later parted syncs _ sample member
  obtain ⟨key, others, begins, noKeys⟩ : ∃ key others,
      briefSource.trackSamples 0 = key :: others ∧
        ∀ other ∈ others, other.flags.isKeyFrame = false :=
    ⟨⟨0, 0, .keyFrame, #[1]⟩, _, rfl, by decide⟩
  have isKey : sync.flags.isKeyFrame = true :=
    syncs.resolve_right fun none => nomatch none ⟨0, 0, .keyFrame, #[1]⟩ List.mem_cons_self
  rw [begins] at parted
  cases passed with
  | nil => exact nomatch member
  | cons first rest =>
    obtain ⟨-, rfl⟩ := List.cons.inj parted
    have noKey := noKeys sync (List.mem_append_right _ List.mem_cons_self)
    rw [isKey] at noKey
    exact nomatch noKey

theorem copy_from_start_whole_iff_brief :
    let rig := Rig.forSession {} briefSource ⟨.deg0, 4, 4⟩ [] {} {}
    ∃ format, Copies (Trial.begin (copyTrack ⟨0, false, format⟩ { start := -1 } true) none
      (Rig.world Bench.answer (rig.patienceFor {})) rig) ⟨0, false, format⟩
        (wholeTrack briefSource 0) := by
  intro rig
  have built : briefSource.Built := (Source.Built.empty.track _).addSamples _
  obtain ⟨samples, copies, -, whole⟩ :=
    @copy_from_start_whole_iff briefSource built ⟨0, false, _⟩ rfl (by decide) {} rfl
      { start := -1 } (by decide) rfl ⟨.deg0, 4, 4⟩ [] {} {} none true
  obtain rfl := whole.mpr briefSource_beginsWhole
  exact ⟨_, copies⟩

/-- Two samples of sound at the very beginning. -/
def doubledSource : Source :=
  ((({} : Source).addTrack (.audio audioAac 44100 2)).addSamples
    [⟨0, 0, .keyFrame, #[10]⟩, ⟨0, 0, .keyFrame, #[11]⟩]).1

/-- Of two key frames at time zero only the second is copied. -/
theorem copy_from_start_loses_first :
    let rig := Rig.forSession {} doubledSource ⟨.deg0, 64, 48⟩ [] {} {}
    ∃ format, doubledSource.tracks = [format] ∧
      Copies (Trial.begin (copyTrack ⟨0, true, format⟩ {} true) none
        (Rig.world Bench.answer (rig.patienceFor {})) rig) ⟨0, true, format⟩
          [⟨0, .keyFrame, #[11]⟩] ∧
      wholeTrack doubledSource 0 = [⟨0, .keyFrame, #[10]⟩, ⟨0, .keyFrame, #[11]⟩] := by
  intro rig
  have built : doubledSource.Built := (Source.Built.empty.track _).addSamples _
  have copies := @copyTrack_copies doubledSource built ⟨0, true, _⟩ rfl (by decide) {} rfl {}
    ⟨.deg0, 64, 48⟩ [] {} {} none true
  exact ⟨_, rfl, copies, rfl⟩

end Recode.Simulation
