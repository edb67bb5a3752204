import Recode.Proofs.KeptFrames
import Recode.Proofs.Seeking

/-!
What a demuxer lets its reader see. Whatever was asked of it before, a demuxer that has a track
selected and is not released stands at a sample that can be seen, or at the end. So looking and
stepping on meets every sample that can be seen from there on, once, and in the order in which the
source stores them; and the step away from the last of them says that it was the last.
-/

namespace Recode.Container
open Recode.Media

namespace Demuxer

inductive Request where
  | select (index : Nat)
  | unselect (index : Nat)
  | seek (time : Int) (mode : SeekMode)
  | read (room : Nat)
  | advance
  | release
  deriving DecidableEq, Repr

def after (demuxer : Demuxer) : Request → Demuxer
  | .select index => (demuxer.select index).2
  | .unselect index => (demuxer.unselect index).2
  | .seek time mode => demuxer.seek time mode
  | .read _ => demuxer
  | .advance => demuxer.advance.2
  | .release => demuxer.release

def afterAll (demuxer : Demuxer) (requests : List Request) : Demuxer := requests.foldl after demuxer

/-- The samples met by looking and stepping on until there is none, each with the answer of the step
away from it. -/
def walk (demuxer : Demuxer) : Nat → List (Sample × Bool)
  | 0 => []
  | rounds + 1 =>
      match demuxer.current? with
      | none => []
      | some sample => (sample, demuxer.advance.1) :: demuxer.advance.2.walk rounds

def withMore (samples : List Sample) : List (Sample × Bool) :=
  samples.zipIdx.map fun (sample, place) => (sample, decide (place + 1 < samples.length))

theorem withMore_cons (sample : Sample) (later : List Sample) :
    withMore (sample :: later) = (sample, !later.isEmpty) :: withMore later := by
  have first : decide (0 + 1 < (sample :: later).length) = !later.isEmpty := by
    cases later <;> simp
  have rest : (later.zipIdx 1).map (fun point : Sample × Nat =>
      (point.1, decide (point.2 + 1 < (sample :: later).length))) = withMore later := by
    unfold withMore
    rw [List.zipIdx_succ, List.map_map]
    apply List.map_congr_left
    intro point _
    simp
  calc withMore (sample :: later)
      = (sample, decide (0 + 1 < (sample :: later).length)) :: (later.zipIdx 1).map
          (fun point => (point.1, decide (point.2 + 1 < (sample :: later).length))) := rfl
    _ = (sample, !later.isEmpty) :: withMore later := by rw [first, rest]

/-- The cursor is within the source, and a track that is selected is read. -/
structure Settled (demuxer : Demuxer) : Prop where
  within : demuxer.cursor ≤ demuxer.source.samples.length
  reads : ∀ track, demuxer.selected = some track → demuxer.released = false → demuxer.Reads track

theorem skipHidden_within {demuxer : Demuxer}
    (within : demuxer.cursor ≤ demuxer.source.samples.length) :
    demuxer.skipHidden.cursor ≤ demuxer.skipHidden.source.samples.length := by
  have hidden := (List.takeWhile_sublist (l := demuxer.source.samples.drop demuxer.cursor)
    (!demuxer.isVisible ·)).length_le
  rw [List.length_drop] at hidden
  unfold skipHidden
  dsimp only
  omega

theorem landing_within (source : Source) (track : Nat) (time : Int) (mode : SeekMode) :
    landing source track time mode ≤ source.samples.length := by
  unfold landing
  split
  next sample place found =>
    have indexed := (List.mem_filter.mp (mem_ownPlaces_of_sync (mem_of_syncPoint? found))).1
    exact Nat.le_of_lt (List.getElem?_eq_some_iff.mp (List.mem_zipIdx_iff_getElem?.mp indexed)).1
  next nothing => exact Nat.le_refl _

section
variable {demuxer : Demuxer}

theorem settled_skipHidden (within : demuxer.cursor ≤ demuxer.source.samples.length) :
    demuxer.skipHidden.Settled :=
  ⟨skipHidden_within within, fun _ selected unreleased => reads_skipHidden selected unreleased⟩

theorem select_cases (demuxer : Demuxer) (index : Nat) :
    (∃ error, demuxer.select index = (.error error, demuxer)) ∨
      demuxer.select index =
          (.ok (), ({ demuxer with selected := some index } : Demuxer).skipHidden) ∧
        ∀ active, demuxer.selected = some active → active = index := by
  unfold Demuxer.select
  by_cases known : index < demuxer.trackCount
  · rw [if_pos known]
    cases selected : demuxer.selected with
    | none => exact .inr ⟨rfl, nofun⟩
    | some active =>
      by_cases again : active = index
      · subst again
        have same : { demuxer with selected := some active } = demuxer := by rw [← selected]
        rw [same]
        exact .inr ⟨if_pos rfl, fun _ also => (Option.some.inj also).symm⟩
      · exact .inl ⟨_, if_neg again⟩
  · exact .inl ⟨_, if_neg known⟩

theorem unselect_cases (demuxer : Demuxer) (index : Nat) :
    (demuxer.unselect index).2 = demuxer ∨
      (demuxer.unselect index).2 = { demuxer with selected := none } := by
  unfold Demuxer.unselect
  by_cases known : index < demuxer.trackCount
  · rw [if_pos known]
    by_cases active : demuxer.selected = some index
    · exact .inr (if_pos active)
    · exact .inl (if_neg active)
  · rw [if_neg known]
    exact .inl rfl

theorem release_cases (demuxer : Demuxer) :
    demuxer.release = demuxer ∨
      demuxer.release = { demuxer with released := true, selected := none } := by
  unfold Demuxer.release
  by_cases already : demuxer.released = true
  · exact .inl (if_pos already)
  · exact .inr (if_neg already)

theorem Settled.select (settled : demuxer.Settled) (index : Nat) :
    (demuxer.select index).2.Settled := by
  rcases demuxer.select_cases index with ⟨error, refused⟩ | ⟨granted, -⟩
  · rw [refused]
    exact settled
  · rw [granted]
    exact @settled_skipHidden { demuxer with selected := some index } settled.within

theorem Settled.unselect (settled : demuxer.Settled) (index : Nat) :
    (demuxer.unselect index).2.Settled := by
  rcases demuxer.unselect_cases index with same | dropped
  · rw [same]
    exact settled
  · rw [dropped]
    exact ⟨settled.within, fun _ selected => nomatch selected⟩

theorem seek_settled (demuxer : Demuxer) (time : Int) (mode : SeekMode) :
    (demuxer.seek time mode).Settled := by
  unfold Demuxer.seek
  split
  next unselected => exact ⟨Nat.zero_le _, fun _ other => nomatch unselected.symm.trans other⟩
  next track _ =>
    have landed := landing_within demuxer.source track time mode
    exact @settled_skipHidden
      { demuxer with cursor := landing demuxer.source track time mode } landed

/-- A step is made only from a sample, so it does not leave the source. -/
theorem Settled.advance (settled : demuxer.Settled) : demuxer.advance.2.Settled := by
  unfold Demuxer.advance
  cases current : demuxer.current? with
  | none => exact settled
  | some sample =>
    have inside : demuxer.cursor < demuxer.source.samples.length := by
      unfold current? at current
      split at current
      · exact nomatch current
      · obtain ⟨found, -⟩ := Option.filter_eq_some_iff.mp current
        exact (List.getElem?_eq_some_iff.mp found).1
    exact @settled_skipHidden { demuxer with cursor := demuxer.cursor + 1 } inside

theorem Settled.release (settled : demuxer.Settled) : demuxer.release.Settled := by
  rcases demuxer.release_cases with same | released
  · rw [same]
    exact settled
  · rw [released]
    exact ⟨settled.within, fun _ selected => nomatch selected⟩

theorem Settled.after (settled : demuxer.Settled) (request : Request) :
    (demuxer.after request).Settled := by
  cases request with
  | select index => exact settled.select index
  | unselect index => exact settled.unselect index
  | seek time mode => exact demuxer.seek_settled time mode
  | read room => exact settled
  | advance => exact settled.advance
  | release => exact settled.release

/-- A request changes neither what is read nor whether it leaks, and it takes up another track only
if none is selected. -/
structure Keeps (demuxer next : Demuxer) : Prop where
  source : next.source = demuxer.source
  leaks : next.leaks = demuxer.leaks
  selected : ∀ active chosen, demuxer.selected = some active → next.selected = some chosen →
    chosen = active

theorem Keeps.of_selected {next : Demuxer} (source : next.source = demuxer.source)
    (leaks : next.leaks = demuxer.leaks)
    (same : next.selected = demuxer.selected ∨ next.selected = none) : demuxer.Keeps next := by
  refine ⟨source, leaks, fun active chosen was is => ?_⟩
  rcases same with same | dropped
  · exact Option.some.inj (is.symm.trans (same.trans was))
  · exact nomatch dropped.symm.trans is

theorem keeps_select (demuxer : Demuxer) (index : Nat) :
    demuxer.Keeps (demuxer.select index).2 := by
  rcases demuxer.select_cases index with ⟨error, refused⟩ | ⟨granted, sole⟩
  · rw [refused]
    exact .of_selected rfl rfl (.inl rfl)
  · rw [granted]
    refine ⟨rfl, rfl, fun active chosen was is => ?_⟩
    exact (Option.some.inj is).symm.trans (sole active was).symm

theorem keeps_unselect (demuxer : Demuxer) (index : Nat) :
    demuxer.Keeps (demuxer.unselect index).2 := by
  rcases demuxer.unselect_cases index with same | dropped
  · rw [same]
    exact .of_selected rfl rfl (.inl rfl)
  · rw [dropped]
    exact .of_selected rfl rfl (.inr rfl)

theorem keeps_release (demuxer : Demuxer) : demuxer.Keeps demuxer.release := by
  rcases demuxer.release_cases with same | released
  · rw [same]
    exact .of_selected rfl rfl (.inl rfl)
  · rw [released]
    exact .of_selected rfl rfl (.inr rfl)

theorem keeps_after (demuxer : Demuxer) (request : Request) :
    demuxer.Keeps (demuxer.after request) := by
  cases request with
  | select index => exact demuxer.keeps_select index
  | unselect index => exact demuxer.keeps_unselect index
  | seek time mode =>
    obtain ⟨cursor, moved⟩ := demuxer.seek_moves time mode
    exact .of_selected (congrArg (·.source) moved) (congrArg (·.leaks) moved)
      (.inl (congrArg (·.selected) moved))
  | read room => exact .of_selected rfl rfl (.inl rfl)
  | advance =>
    obtain ⟨cursor, moved⟩ := demuxer.advance_moves
    exact .of_selected (congrArg (·.source) moved) (congrArg (·.leaks) moved)
      (.inl (congrArg (·.selected) moved))
  | release => exact demuxer.keeps_release

theorem Settled.afterAll (settled : demuxer.Settled) (requests : List Request) :
    (demuxer.afterAll requests).Settled ∧ (demuxer.afterAll requests).source = demuxer.source ∧
      (demuxer.afterAll requests).leaks = demuxer.leaks := by
  induction requests generalizing demuxer with
  | nil => exact ⟨settled, rfl, rfl⟩
  | cons request rest ih =>
    obtain ⟨last, source, leaks⟩ := ih (settled.after request)
    have kept := demuxer.keeps_after request
    exact ⟨last, source.trans kept.source, leaks.trans kept.leaks⟩

theorem Reads.walk_eq {track : Nat} (reads : demuxer.Reads track) {rounds : Nat}
    (enough : demuxer.upcoming.length ≤ rounds) :
    demuxer.walk rounds = withMore demuxer.upcoming := by
  induction rounds generalizing demuxer with
  | zero =>
    rw [List.eq_nil_of_length_eq_zero (Nat.le_zero.mp enough)]
    rfl
  | succ rounds ih =>
    unfold walk
    rw [reads.current?]
    cases ahead : demuxer.upcoming with
    | nil => rfl
    | cons sample later =>
      have next := reads.upcoming_advance ahead
      rw [ahead, List.length_cons] at enough
      have rest := ih reads.advance (by rw [next]; omega)
      rw [next] at rest
      show (sample, demuxer.advance.1) :: demuxer.advance.2.walk rounds = _
      rw [rest, reads.advance_more, next, withMore_cons]

theorem Reads.drain_eq {track : Nat} (reads : demuxer.Reads track) {rounds : Nat}
    (enough : demuxer.upcoming.length ≤ rounds) :
    (demuxer.drain rounds).1 = demuxer.upcoming ∧ (demuxer.drain rounds).2.current? = none := by
  induction rounds generalizing demuxer with
  | zero =>
    have nothing := List.eq_nil_of_length_eq_zero (Nat.le_zero.mp enough)
    refine ⟨nothing.symm, ?_⟩
    show demuxer.current? = none
    rw [reads.current?, nothing]
    rfl
  | succ rounds ih =>
    unfold drain
    rw [reads.current?]
    cases ahead : demuxer.upcoming with
    | nil =>
      refine ⟨rfl, ?_⟩
      show demuxer.current? = none
      rw [reads.current?, ahead]
      rfl
    | cons sample later =>
      have next := reads.upcoming_advance ahead
      rw [ahead, List.length_cons] at enough
      obtain ⟨rest, last⟩ := ih reads.advance (by rw [next]; omega)
      rw [next] at rest
      dsimp only [List.head?_cons]
      rw [reads.advance_more, next]
      cases later with
      | nil =>
        refine ⟨rfl, ?_⟩
        show demuxer.advance.2.current? = none
        rw [reads.advance.current?, next]
        rfl
      | cons => exact ⟨congrArg (sample :: ·) rest, last⟩

theorem select_refused {index : Nat} {error : Error}
    (refused : (demuxer.select index).1 = .error error) :
    (demuxer.select index).2 = demuxer := by
  rcases demuxer.select_cases index with ⟨_, same⟩ | ⟨granted, -⟩
  · rw [same]
  · rw [granted] at refused
    exact nomatch refused

theorem select_other {active index : Nat} (selected : demuxer.selected = some active)
    (other : index ≠ active) : ∃ error, (demuxer.select index).1 = .error error := by
  rcases demuxer.select_cases index with ⟨error, refused⟩ | ⟨-, sole⟩
  · exact ⟨error, congrArg Prod.fst refused⟩
  · exact absurd (sole active selected).symm other

end

end Demuxer

end Recode.Container

namespace Recode.Simulation
open Recode.Media Recode.Container Recode.Session

/-- Whatever was asked of a demuxer on a source, leaking or not: if it has a track selected and is
not released, its cursor is at the end or at a sample that can be seen, and walking on from there
meets exactly the samples that can be seen, the last of them alone with the word that none is behind
it. It never holds more than one track, refuses without a change, and stays where it is when it is
read, also as a part of a storage. -/
theorem demuxer_view_is_whole (source : Source) (leaks : Bool) (requests : List Demuxer.Request) :
    let demuxer := ({ source, leaks } : Demuxer).afterAll requests
    (∀ track, demuxer.selected = some track → demuxer.released = false →
      let ahead := (source.samples.drop demuxer.cursor).filter fun sample =>
        leaks || sample.track == track
      (demuxer.cursor = source.samples.length ∨ ∃ sample,
        source.samples[demuxer.cursor]? = some sample ∧ (leaks = true ∨ sample.track = track)) ∧
      (∀ rounds, ahead.length ≤ rounds → demuxer.walk rounds =
        ahead.zipIdx.map fun (sample, place) => (sample, decide (place + 1 < ahead.length))) ∧
      demuxer.drainAll.1 = ahead ∧ demuxer.drainAll.2.current? = none) ∧
    (∀ active, demuxer.selected = some active →
      (∀ index, index ≠ active → ∃ error, (demuxer.select index).1 = .error error) ∧
      ∀ request chosen, (demuxer.after request).selected = some chosen → chosen = active) ∧
    (∀ index error, (demuxer.select index).1 = .error error → (demuxer.select index).2 = demuxer) ∧
    ∀ (storage : Storage) older room, storage.library.demuxers = demuxer :: older →
      (Storage.answer (.read room) storage).2.library.demuxers = demuxer :: older := by
  intro demuxer
  have fresh : ({ source, leaks } : Demuxer).Settled :=
    ⟨Nat.zero_le _, fun _ selected => nomatch selected⟩
  obtain ⟨settled, sameSource, sameLeaks⟩ :
      demuxer.Settled ∧ demuxer.source = source ∧ demuxer.leaks = leaks := fresh.afterAll requests
  refine ⟨fun track selected unreleased => ?_, fun active selected => ⟨?_, ?_⟩, ?_, ?_⟩
  · intro ahead
    have reads := settled.reads track selected unreleased
    have visible (sample : Sample) :
        demuxer.isVisible sample = (leaks || sample.track == track) := by
      unfold Demuxer.isVisible
      rw [selected, sameLeaks]
    have same : demuxer.upcoming = ahead := by
      unfold Demuxer.upcoming
      rw [sameSource]
      exact List.filter_congr fun sample _ => visible sample
    have few := demuxer.length_upcoming_le
    refine ⟨?_, fun rounds enough => ?_, ?_⟩
    · cases found : source.samples[demuxer.cursor]? with
      | none =>
        have within := settled.within
        have past := List.getElem?_eq_none_iff.mp found
        rw [sameSource] at within
        exact .inl (Nat.le_antisymm within past)
      | some sample =>
        have seen := reads.settled sample (sameSource ▸ found)
        rw [visible] at seen
        exact .inr ⟨sample, rfl, by simpa using seen⟩
    · rw [← same] at enough ⊢
      exact reads.walk_eq enough
    · rw [← same]
      exact reads.drain_eq (Nat.le_succ_of_le few)
  · intro index other
    exact Demuxer.select_other selected other
  · intro request chosen next
    exact (demuxer.keeps_after request).selected active chosen selected next
  · intro index error refused
    exact Demuxer.select_refused refused
  · intro storage older room opened
    exact (demuxers_read storage room).trans opened

end Recode.Simulation
