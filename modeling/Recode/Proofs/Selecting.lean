import Recode.Proofs.Containers
import Recode.Proofs.MovieUnderWay

/-!
The selection of the track that is read. A session selects its track, changes nothing of that while it
reads, and unselects the track again, whatever came of its work.
-/

namespace Recode.Session.Call

def KeepsSelection : Call → Prop
  | .storage (.openSource _) | .storage .releaseDemuxer | .storage (.select _)
  | .storage (.unselect _) => False
  | _ => True

theorem IsRunning.keepsSelection {call : Call} (running : call.IsRunning) : call.KeepsSelection := by
  unfold KeepsSelection
  split
  all_goals first
    | exact running.elim id fun stepping => stepping.elim id id
    | trivial

theorem IsReading.keepsSelection {isAudio : Bool} {call : Call} (reading : call.IsReading isAudio) :
    call.KeepsSelection := by
  unfold KeepsSelection
  split
  all_goals first
    | exact reading
    | trivial

end Recode.Session.Call

namespace Recode.Simulation
open Recode.Media Recode.Container Recode.Device Recode.Session
open Recode.Session.Work

namespace Storage
variable {α : Type} {storage next : Storage}

/-- At most the cursor of the demuxer opened last has moved. -/
def Moves (storage next : Storage) : Prop :=
  next.script = storage.script ∧ ∃ cursor : Demuxer → Nat, next.library.demuxers =
    storage.library.demuxers.modifyHead fun newest => { newest with cursor := cursor newest }

theorem moves_of_demuxers_eq (script : next.script = storage.script)
    (same : next.library.demuxers = storage.library.demuxers) : storage.Moves next := by
  refine ⟨script, (·.cursor), same.trans ?_⟩
  cases storage.library.demuxers <;> rfl

theorem moves_onDemuxer {absent : α} {act : Demuxer → α × Demuxer}
    (moves : ∀ demuxer, ∃ cursor, (act demuxer).2 = { demuxer with cursor }) :
    storage.Moves (storage.onDemuxer absent act).2 := by
  dsimp only [onDemuxer, Library.onDemuxer]
  split
  next newest older opened =>
    obtain ⟨cursor, moved⟩ := moves newest
    exact ⟨rfl, fun _ => cursor, by rw [opened, List.modifyHead_cons, moved]⟩
  next unopened => exact moves_of_demuxers_eq rfl rfl

theorem moves_view {absent : α} {look : Demuxer → α} : storage.Moves (storage.view absent look).2 :=
  moves_onDemuxer fun demuxer => ⟨demuxer.cursor, rfl⟩

theorem moves_onMuxer {absent : α} {act : Muxer → α × Muxer} :
    storage.Moves (storage.onMuxer absent act).2 := by
  dsimp only [onMuxer, Library.onMuxer]
  split <;> exact moves_of_demuxers_eq rfl rfl

theorem moves_barring {error? : Option Error} {act : Except Error α × Storage}
    (moves : storage.Moves act.2) : storage.Moves (storage.barring error? act).2 := by
  cases error? with
  | some error => exact moves_of_demuxers_eq rfl rfl
  | none => exact moves

theorem moves_answer (call : StorageCall) (keeps : Call.KeepsSelection (.storage call)) :
    storage.Moves (Storage.answer call storage).2 := by
  cases call with
  | openSource path => exact keeps.elim
  | releaseDemuxer => exact keeps.elim
  | select index => exact keeps.elim
  | unselect index => exact keeps.elim
  | createMovie path settings => exact moves_barring (moves_of_demuxers_eq rfl rfl)
  | trackFormat index => exact moves_barring moves_view
  | seek time mode => exact moves_barring (moves_onDemuxer fun demuxer => demuxer.seek_moves time mode)
  | read room =>
    refine @moves_barring _ { storage with reads := storage.reads + 1 } _ _ ?_
    split
    next ends => exact moves_of_demuxers_eq rfl rfl
    next goesOn => exact moves_view
  | advance => exact moves_onDemuxer Demuxer.advance_moves
  | addTrack format isAudio =>
    exact @moves_barring _ { storage with adds := storage.adds + 1 } _ _ moves_onMuxer
  | write track buffer info isAudio =>
    refine @moves_barring _ { storage with writes := storage.writes + 1 } _ _ ?_
    split
    next passed => exact moves_of_demuxers_eq rfl rfl
    next taken => exact moves_onMuxer
  | finalize => exact moves_barring moves_onMuxer
  | _ => exact moves_view

def selected? (storage : Storage) : Option Nat := storage.library.demuxers.head?.bind (·.selected)

/-- What the demuxer opened last reads and has selected, and whether it is told not to give that up. -/
def selection (storage : Storage) : Option Error × Option (Source × Option Nat) :=
  (storage.script.demuxer.unselectError,
    storage.library.demuxers.head?.map fun newest => (newest.source, newest.selected))

theorem selected?_of_selection (same : next.selection = storage.selection) :
    next.selected? = storage.selected? := by
  have selected (storage : Storage) : storage.selected? = storage.selection.2.bind (·.2) := by
    unfold selected? selection
    cases storage.library.demuxers.head? <;> rfl
  rw [selected, selected, same]

theorem Moves.selection (moves : storage.Moves next) : next.selection = storage.selection := by
  obtain ⟨script, cursor, moved⟩ := moves
  rw [Storage.selection, Storage.selection, script, moved]
  cases storage.library.demuxers <;> rfl

def Selects (index : Nat) (storage : Storage) : Prop :=
  ∃ source, storage.selection = (none, some (source, some index)) ∧ index < source.tracks.length

theorem select_selects {index : Nat} (free : storage.selected? = none)
    (unbarred : storage.script.demuxer.unselectError = none) :
    (∀ error, (Storage.answer (.select index) storage).1 = .error error →
      (Storage.answer (.select index) storage).2.selected? = none) ∧
    ((Storage.answer (.select index) storage).1 = .ok () →
      (Storage.answer (.select index) storage).2.Selects index) := by
  dsimp only [Storage.answer, barring]
  split
  next error refused => exact ⟨fun _ _ => free, nofun⟩
  next reached =>
    dsimp only [onDemuxer, Library.onDemuxer]
    split
    next newest older opened =>
      have unselected : newest.selected = none := by
        rw [selected?, opened] at free
        exact free
      unfold Demuxer.select
      rw [unselected]
      split
      next known => exact ⟨nofun, fun _ => ⟨newest.source, by rw [selection, unbarred]; rfl, known⟩⟩
      next unknown => exact ⟨fun _ _ => unselected, nofun⟩
    next unopened => exact ⟨fun _ _ => free, nofun⟩

theorem Selects.unselect {index : Nat} (selects : storage.Selects index) :
    (Storage.answer (.unselect index) storage).2.selected? = none := by
  obtain ⟨source, same, known⟩ := selects
  obtain ⟨unbarred, newest⟩ := Prod.mk.inj same
  obtain ⟨demuxer, first, same⟩ := Option.map_eq_some_iff.mp newest
  obtain ⟨older, opened⟩ := List.head?_eq_some_iff.mp first
  obtain ⟨rfl, selected⟩ := Prod.mk.inj same
  have gives : (demuxer.unselect index).2.selected = none := by
    unfold Demuxer.unselect Demuxer.trackCount
    rw [if_pos known, if_pos selected]
  simp only [Storage.answer, barring, unbarred, onDemuxer, Library.onDemuxer, opened, selected?,
    List.head?_cons, Option.bind_some, gives]

end Storage

section
variable {σ α : Type} {world : World σ} {shelf : σ → Storage} {desk : Desk σ}

theorem Houses.selected_during (houses : Houses world shelf) {calls : Call → Prop}
    {work : Work σ α} (uses : work.Uses calls) (keeps : ∀ call, calls call → call.KeepsSelection)
    (index : Nat) (free : (shelf desk.outside).selected? = none)
    (unbarred : (shelf desk.outside).script.demuxer.unselectError = none) :
    (storage (.select index) >>= fun answer => settle answer >>= fun _ =>
      outcome work >>= fun result => storage (.unselect index) >>= fun _ =>
        settle result).Returns world desk (fun _ left => (shelf left.outside).selected? = none)
      fun _ left => (shelf left.outside).selected? = none := by
  obtain ⟨refused, granted⟩ := @Storage.select_selects _ index free unbarred
  refine houses.returns_storage fun reply left replied stored =>
    returns_settle (fun error same => ?_) fun _ same => ?_
  · rw [stored]
    exact refused error (replied.symm.trans same)
  · have begun : (shelf left.outside).Selects index := stored ▸ granted (replied.symm.trans same)
    have kept : work.Keeps world fun desk => (shelf desk.outside).Selects index :=
      houses.keeps uses fun call storage allowed ⟨source, same, known⟩ =>
        ⟨source, (Storage.moves_answer call (keeps _ allowed)).selection.trans same, known⟩
    have given (result : Except Error α) (left : Desk σ)
        (selects : (shelf left.outside).Selects index) :
        (storage (.unselect index) >>= fun _ => settle result).Returns world left
          (fun _ left => (shelf left.outside).selected? = none)
          fun _ left => (shelf left.outside).selected? = none := by
      refine houses.returns_storage fun reply left _ stored => ?_
      have unselected : (shelf left.outside).selected? = none := stored ▸ selects.unselect
      cases result with
      | error error => exact returns_fail unselected
      | ok value => exact returns_pure unselected
    exact returns_bind (returns_outcome ((kept.returns begun).imp
      (fun value left selects => given (.ok value) left selects)
      fun error left selects => given (.error error) left selects))

/-- A transcode that returns has nothing selected, if nothing was selected when it began. -/
theorem transcode_unselects (houses : Houses world shelf) (plan : TranscodePlan)
    (free : (shelf desk.outside).selected? = none)
    (unbarred : (shelf desk.outside).script.demuxer.unselectError = none) :
    (transcode plan).Returns world desk (fun _ left => (shelf left.outside).selected? = none)
      fun _ left => (shelf left.outside).selected? = none :=
  houses.selected_during plan.runSelected_uses (fun _ => Call.IsRunning.keepsSelection) _ free unbarred

/-- The same of a copy, even if it does not come to selecting its track. -/
theorem copyTrack_unselects (houses : Houses world shelf) {track : Track} {window : Window}
    {reporting : Bool} (free : (shelf desk.outside).selected? = none)
    (unbarred : (shelf desk.outside).script.demuxer.unselectError = none) :
    (copyTrack track window reporting).Returns world desk
      (fun _ left => (shelf left.outside).selected? = none)
      fun _ left => (shelf left.outside).selected? = none := by
  refine houses.returns_storage fun reply left _ stored => ?_
  have same : (shelf left.outside).selection = (shelf desk.outside).selection :=
    stored ▸ (Storage.moves_answer (.addTrack track.format track.isAudio) trivial).selection
  have free : (shelf left.outside).selected? = none :=
    (Storage.selected?_of_selection same).trans free
  have unbarred : (shelf left.outside).script.demuxer.unselectError = none :=
    (Prod.mk.inj same).1.trans unbarred
  refine returns_settle (fun _ _ => free) fun destination _ => ?_
  cases track.format.maxInputSize with
  | none => exact returns_fail free
  | some room =>
    exact houses.selected_during (CopyPlan.run_uses ⟨track, destination, window, room, reporting⟩)
      (fun _ => Call.IsReading.keepsSelection) _ free unbarred

end

end Recode.Simulation
