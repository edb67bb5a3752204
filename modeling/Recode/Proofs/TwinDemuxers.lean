import Recode.Proofs.Seeking

/-!
Two demuxers open on one source, of which the second does not leak. With the same track selected,
both meet that track's samples in the same order, and the first may meet foreign ones between them.
-/

namespace Recode.Container
open Recode.Media

namespace Demuxer

theorem Reads.seek_lands {demuxer : Demuxer} {track : Nat} (reads : demuxer.Reads track) (time : Int)
    (mode : SeekMode) {sample : Sample}
    (first : (demuxer.seek time mode).upcoming.head? = some sample) : sample.track = track := by
  unfold Demuxer.seek at first
  rw [reads.selected] at first
  dsimp only at first
  rw [upcoming_skipHidden] at first
  unfold upcoming at first
  cases landed : syncPoint? (syncPoints demuxer.source track) time mode with
  | none => simp [landed] at first
  | some point =>
    obtain ⟨stored, own⟩ := List.mem_filter.mp (mem_ownPlaces_of_sync (mem_of_syncPoint? landed))
    have own : point.1.track = track := of_decide_eq_true own
    obtain ⟨inside, same⟩ := List.getElem?_eq_some_iff.mp (List.mem_zipIdx_iff_getElem?.mp stored)
    simp only [landed] at first
    rw [List.drop_eq_getElem_cons inside, same, List.filter_cons_of_pos] at first
    · exact Option.some.inj first ▸ own
    · simp [isVisible, own]

/-- Both demuxers are open on the source and have the same selected, and the second hides what is not. -/
structure Twins (source : Source) (selected : Option Nat) (leaky tight : Demuxer) : Prop where
  leakySource : leaky.source = source
  tightSource : tight.source = source
  leakySelected : leaky.selected = selected
  tightSelected : tight.selected = selected
  leakyOpen : leaky.released = false
  tightOpen : tight.released = false
  hides : tight.leaks = false

def TwinsSelected (source : Source) (index : Nat) (answer : Except Error Unit)
    (leaky tight : Demuxer) : Prop :=
  match answer with
  | .ok _ => index < source.tracks.length ∧ Twins source (some index) leaky tight
  | .error _ => Twins source none leaky tight

structure TwinsReading (source : Source) (track : Nat) (leaky tight : Demuxer) : Prop extends
    Twins source (some track) leaky tight where
  leakyReads : leaky.Reads track
  tightReads : tight.Reads track
  upcoming : tight.upcoming = leaky.upcoming.filter (·.track = track)

structure TwinsLevel (source : Source) (track : Nat) (leaky tight : Demuxer) : Prop extends
    TwinsReading source track leaky tight where
  current : tight.current? = leaky.current?

section
variable {source : Source} {selected : Option Nat} {track index : Nat} {leaky tight : Demuxer}

namespace Twins

theorem leakyCount (twins : Twins source selected leaky tight) :
    leaky.trackCount = source.tracks.length :=
  congrArg (·.tracks.length) twins.leakySource

theorem tightCount (twins : Twins source selected leaky tight) :
    tight.trackCount = source.tracks.length :=
  congrArg (·.tracks.length) twins.tightSource

theorem trackFormat (twins : Twins source selected leaky tight) (index : Nat) :
    tight.trackFormat index = leaky.trackFormat index := by
  unfold Demuxer.trackFormat
  rw [twins.leakySource, twins.tightSource]

theorem select (twins : Twins source none leaky tight) (index : Nat) :
    (tight.select index).1 = (leaky.select index).1 ∧
      TwinsSelected source index (leaky.select index).1 (leaky.select index).2
        (tight.select index).2 := by
  by_cases known : index < source.tracks.length
  · rw [select_known (twins.leakyCount ▸ known) twins.leakySelected,
      select_known (twins.tightCount ▸ known) twins.tightSelected]
    exact ⟨rfl, known, twins.leakySource, twins.tightSource, rfl, rfl, twins.leakyOpen,
      twins.tightOpen, twins.hides⟩
  · have refused {demuxer : Demuxer} (counted : demuxer.trackCount = source.tracks.length) :
        demuxer.select index = (.error (ContainerError.trackNotFound index), demuxer) :=
      if_neg (counted ▸ known)
    rw [refused twins.leakyCount, refused twins.tightCount]
    exact ⟨rfl, twins⟩

theorem unselect (twins : Twins source (some index) leaky tight)
    (known : index < source.tracks.length) :
    (tight.unselect index).1 = (leaky.unselect index).1 ∧
      Twins source none (leaky.unselect index).2 (tight.unselect index).2 := by
  rw [unselect_known (twins.leakyCount ▸ known) twins.leakySelected,
    unselect_known (twins.tightCount ▸ known) twins.tightSelected]
  exact ⟨rfl, twins.leakySource, twins.tightSource, rfl, rfl, twins.leakyOpen, twins.tightOpen,
    twins.hides⟩

theorem moved (twins : Twins source selected leaky tight) {leakyNext tightNext : Demuxer}
    (leakyMoves : ∃ cursor, leakyNext = { leaky with cursor })
    (tightMoves : ∃ cursor, tightNext = { tight with cursor }) :
    Twins source selected leakyNext tightNext := by
  obtain ⟨_, rfl⟩ := leakyMoves
  obtain ⟨_, rfl⟩ := tightMoves
  exact ⟨twins.leakySource, twins.tightSource, twins.leakySelected, twins.tightSelected,
    twins.leakyOpen, twins.tightOpen, twins.hides⟩

end Twins

theorem filter_upcoming {demuxer : Demuxer} (hides : demuxer.leaks = false)
    (selected : demuxer.selected = some track) :
    demuxer.upcoming.filter (·.track = track) = demuxer.upcoming := by
  rw [List.filter_eq_self]
  intro sample member
  have seen := (List.mem_filter.mp member).2
  simpa [isVisible, hides, selected] using seen

namespace TwinsReading

/-- They stand level unless the first stands at a foreign sample. -/
theorem level (twins : TwinsReading source track leaky tight)
    (own : ∀ sample, leaky.upcoming.head? = some sample → sample.track = track) :
    TwinsLevel source track leaky tight := by
  refine { twins with current := ?_ }
  rw [twins.leakyReads.current?, twins.tightReads.current?, twins.upcoming]
  cases ahead : leaky.upcoming with
  | nil => rfl
  | cons sample later =>
    have mine : decide (sample.track = track) = true := decide_eq_true (own sample (by rw [ahead]; rfl))
    rw [List.filter_cons, if_pos mine]
    rfl

theorem pass (twins : TwinsReading source track leaky tight) {sample : Sample}
    {later : List Sample} (ahead : leaky.upcoming = sample :: later)
    (foreign : sample.track ≠ track) : TwinsReading source track leaky.advance.2 tight where
  toTwins := twins.moved leaky.advance_moves ⟨tight.cursor, rfl⟩
  leakyReads := twins.leakyReads.advance
  tightReads := twins.tightReads
  upcoming := by
    rw [twins.upcoming, twins.leakyReads.upcoming_advance ahead, ahead,
      List.filter_cons_of_neg (by simpa using foreign)]

end TwinsReading

theorem Twins.seek (twins : Twins source (some track) leaky tight) (time : Int) (mode : SeekMode) :
    TwinsLevel source track (leaky.seek time mode) (tight.seek time mode) := by
  have reads {demuxer : Demuxer} (selected : demuxer.selected = some track)
      (unreleased : demuxer.released = false) : demuxer.skipHidden.Reads track :=
    reads_skipHidden selected unreleased
  have leakyReads := reads twins.leakySelected twins.leakyOpen
  have tightReads := reads twins.tightSelected twins.tightOpen
  have moved := twins.moved (leaky.seek_moves time mode) (tight.seek_moves time mode)
  refine TwinsReading.level ⟨moved, leakyReads.seek time mode, tightReads.seek time mode, ?_⟩
    fun sample first => leakyReads.seek_lands time mode first
  rw [← filter_upcoming moved.hides moved.tightSelected]
  refine (tightReads.own_seek time mode).trans (Eq.trans ?_ (leakyReads.own_seek time mode).symm)
  rw [show tight.skipHidden.source = source from twins.tightSource,
    show leaky.skipHidden.source = source from twins.leakySource]

theorem TwinsLevel.advance (twins : TwinsLevel source track leaky tight) :
    TwinsReading source track leaky.advance.2 tight.advance.2 := by
  refine ⟨twins.moved leaky.advance_moves tight.advance_moves, twins.leakyReads.advance,
    twins.tightReads.advance, ?_⟩
  have same := twins.current
  rw [twins.leakyReads.current?, twins.tightReads.current?] at same
  have upcoming := twins.upcoming
  cases ahead : leaky.upcoming with
  | nil =>
    have atEnd {demuxer : Demuxer} (reads : demuxer.Reads track) (nothing : demuxer.upcoming = []) :
        demuxer.advance.2 = demuxer := by
      unfold Demuxer.advance
      rw [reads.current?, nothing]
      rfl
    rw [ahead] at upcoming
    rw [atEnd twins.leakyReads ahead, atEnd twins.tightReads upcoming, ahead, upcoming]
  | cons sample later =>
    rw [ahead] at same upcoming
    obtain ⟨rest, also⟩ := List.head?_eq_some_iff.mp same
    rw [twins.leakyReads.upcoming_advance ahead, twins.tightReads.upcoming_advance also]
    rw [also] at upcoming
    have mine : decide (sample.track = track) = true := by
      have member : sample ∈ (sample :: later).filter (·.track = track) :=
        upcoming ▸ List.mem_cons_self
      exact (List.mem_filter.mp member).2
    rw [List.filter_cons, if_pos mine] at upcoming
    exact (List.cons.inj upcoming).2

end

end Demuxer

end Recode.Container
