import Recode.Proofs.JobConduct
import Recode.Proofs.KeptFrames

/-!
The movie under way in any world whose containers are the simulated ones. Apart from what adds tracks
and writes samples, whatever is asked there leaves that movie as it is, and so does all work made of
such calls.
-/

namespace Recode.Session.Call

def WritesNothing : Call → Prop
  | .storage (.createMovie _ _) | .storage (.addTrack _ _) | .storage (.write _ _ _ _) => False
  | _ => True

theorem IsUpstream.writesNothing {call : Call} (upstream : call.IsUpstream) : call.WritesNothing := by
  unfold WritesNothing
  split <;> trivial

theorem IsSetting.writesNothing {call : Call} (setting : call.IsSetting) : call.WritesNothing := by
  unfold WritesNothing
  split <;> trivial

end Recode.Session.Call

namespace Recode.Simulation
open Recode.Media Recode.Container Recode.Device Recode.Progress Recode.Session
open Recode.Session.Work

namespace Storage
variable {path : Path} {tracks : List MuxedTrack} {storage other : Storage} {α : Type}

/-- The movie begun last is that of the path, and has these tracks. -/
def Writes (path : Path) (tracks : List MuxedTrack) (storage : Storage) : Prop :=
  ∃ muxer older, storage.library.muxers = (path, muxer) :: older ∧ muxer.movie.tracks = tracks

def Finished (path : Path) (tracks : List MuxedTrack) (storage : Storage) : Prop :=
  ∃ muxer older, storage.library.muxers = (path, muxer) :: older ∧ muxer.movie.tracks = tracks ∧
    muxer.movie.finalized = true

theorem Writes.of_muxers_eq (writes : storage.Writes path tracks)
    (same : other.library.muxers = storage.library.muxers) : other.Writes path tracks := by
  obtain ⟨muxer, older, begun, written⟩ := writes
  exact ⟨muxer, older, same.trans begun, written⟩

theorem Finished.of_muxers_eq (finished : storage.Finished path tracks)
    (same : other.library.muxers = storage.library.muxers) : other.Finished path tracks := by
  obtain ⟨muxer, older, begun, written, finalized⟩ := finished
  exact ⟨muxer, older, same.trans begun, written, finalized⟩

theorem Finished.movie? (finished : storage.Finished path tracks) :
    ∃ movie, storage.library.movie? path = some movie ∧ movie.tracks = tracks ∧
      movie.finalized = true := by
  obtain ⟨muxer, older, begun, written, finalized⟩ := finished
  have same : path.same path = true := beq_self_eq_true _
  refine ⟨muxer.movie, ?_, written, finalized⟩
  unfold Library.movie?
  rw [begun, List.find?_cons, same]
  rfl

theorem onMuxer_cons {muxer : Muxer} {older : List (Path × Muxer)}
    (begun : storage.library.muxers = (path, muxer) :: older) (absent : α) (act : Muxer → α × Muxer) :
    (storage.onMuxer absent act).1 = (act muxer).1 ∧
      (storage.onMuxer absent act).2.library.muxers = (path, (act muxer).2) :: older := by
  obtain ⟨⟨sources, leaks, faults, demuxers, muxers⟩, script, reads, adds, writes⟩ := storage
  cases begun
  exact ⟨rfl, rfl⟩

theorem Writes.answer (writes : storage.Writes path tracks) {call : StorageCall}
    (aside : Call.WritesNothing (.storage call)) : (answer call storage).2.Writes path tracks := by
  have looks {β : Type} (absent : β) (act : Demuxer → β × Demuxer) :
      (storage.onDemuxer absent act).2.library.muxers = storage.library.muxers :=
    onDemuxer_muxers storage absent act
  cases call with
  | createMovie path settings => exact aside.elim
  | addTrack format isAudio => exact aside.elim
  | write track buffer info isAudio => exact aside.elim
  | openSource path => exact writes.of_muxers_eq (storage.openSource_muxers path)
  | read room => exact writes.of_muxers_eq (storage.read_muxers room)
  | trackFormat index => exact writes.of_muxers_eq (barring_muxers (looks _ _))
  | select index => exact writes.of_muxers_eq (barring_muxers (looks _ _))
  | unselect index => exact writes.of_muxers_eq (barring_muxers (looks _ _))
  | seek time mode => exact writes.of_muxers_eq (barring_muxers (looks _ _))
  | finalize =>
    obtain ⟨muxer, older, begun, written⟩ := writes
    dsimp only [Storage.answer]
    cases storage.script.muxer.finalizeError with
    | some error => exact ⟨muxer, older, begun, written⟩
    | none =>
      refine ⟨_, older, (onMuxer_cons begun missing (·.finalize)).2, ?_⟩
      exact muxer.finalize_tracks.2.trans written
  | _ => exact writes.of_muxers_eq (looks _ _)

theorem Writes.addTrack (writes : storage.Writes path tracks) {format : Format} {isAudio : Bool}
    {place : Nat} (added : (storage.addTrack format isAudio).1 = .ok place) :
    place = tracks.length ∧
      (storage.addTrack format isAudio).2.Writes path (tracks ++ [⟨format, isAudio, []⟩]) := by
  obtain ⟨muxer, older, begun, rfl⟩ := writes
  dsimp only [Storage.addTrack] at added ⊢
  have reached := granted_of_barring added
  rw [reached] at added ⊢
  let counted : Storage := { storage with adds := storage.adds + 1 }
  have begun : counted.library.muxers = (path, muxer) :: older := begun
  obtain ⟨answered, left⟩ := onMuxer_cons begun missing (·.addTrack format isAudio)
  rw [answered] at added
  dsimp only [Muxer.addTrack] at added left
  split at added
  next finalized => exact nomatch added
  next unfinished =>
    cases added
    rw [if_neg unfinished] at left
    exact ⟨rfl, _, older, left, rfl⟩

theorem Writes.write {earlier : List MuxedTrack} {track : MuxedTrack}
    (writes : storage.Writes path (earlier ++ [track])) {buffer : Bytes} {info : SampleInfo}
    {isAudio stored : Bool}
    (written : (storage.write earlier.length buffer info isAudio).1 = .ok stored) :
    ∃ samples, (storage.write earlier.length buffer info isAudio).2.Writes path
        (earlier ++ [{ track with samples }]) ∧
      if stored then ∃ sample, sample.time = info.time ∧ samples = track.samples ++ [sample]
      else samples = track.samples := by
  obtain ⟨muxer, older, begun, tracks⟩ := writes
  dsimp only [Storage.write] at written ⊢
  have reached := granted_of_barring written
  rw [reached] at written ⊢
  split at written
  next passed =>
    cases written
    exact ⟨track.samples, ⟨muxer, older, begun, tracks⟩, rfl⟩
  next taken =>
    let counted : Storage := { storage with writes := storage.writes + 1 }
    have begun : counted.library.muxers = (path, muxer) :: older := begun
    obtain ⟨answered, left⟩ :=
      onMuxer_cons begun missing (·.write earlier.length buffer info isAudio)
    rw [answered] at written
    have grown := Muxer.tracks_write written
    cases stored with
    | false => exact ⟨track.samples, ⟨_, older, left, grown.trans tracks⟩, rfl⟩
    | true =>
      obtain ⟨sample, time, grown⟩ := grown
      refine ⟨track.samples ++ [sample], ⟨_, older, left, grown.trans ?_⟩, sample, time, rfl⟩
      rw [tracks, List.modify_eq_take_drop, List.take_left, List.drop_left]
      rfl

theorem Writes.finalize (writes : storage.Writes path tracks)
    (granted : (Storage.answer .finalize storage).1 = .ok ()) :
    (Storage.answer .finalize storage).2.Finished path tracks := by
  obtain ⟨muxer, older, begun, rfl⟩ := writes
  dsimp only [Storage.answer] at granted ⊢
  have reached := granted_of_barring granted
  rw [reached] at granted ⊢
  obtain ⟨answered, left⟩ := onMuxer_cons begun missing (·.finalize)
  rw [answered] at granted
  refine ⟨_, older, left, muxer.finalize_tracks.2, ?_⟩
  dsimp only [Muxer.finalize] at granted ⊢
  split at granted
  next finalized => exact nomatch granted
  next unfinished =>
    split at granted
    next fails => exact nomatch granted
    next works => rw [if_neg unfinished, if_neg works]

theorem writes_createMovie {settings : MovieSettings}
    (granted : (storage.createMovie path settings).1 = .ok ()) :
    (storage.createMovie path settings).2.Writes path [] := by
  have reached := granted_of_barring granted
  unfold createMovie
  rw [reached]
  exact ⟨_, _, rfl, rfl⟩

end Storage

/-- The world's containers are the simulated ones, and nothing but calls to them touches them. -/
structure Houses {σ : Type} (world : World σ) (shelf : σ → Storage) : Prop where
  replies : ∀ call state,
    (world.answer (.storage call) state).1 = (Storage.answer call (shelf state)).1
  stores : ∀ call state,
    shelf (world.answer (.storage call) state).2 = (Storage.answer call (shelf state)).2
  device : ∀ call state, shelf (world.answer (.device call) state).2 = shelf state
  client : ∀ call state, shelf (world.answer (.client call) state).2 = shelf state

theorem Rig.houses {δ : Type} (device : (call : DeviceCall) → δ → call.Reply × δ) (patience : Nat) :
    Houses (Rig.world device patience) Rig.storage :=
  ⟨fun _ _ => rfl, fun _ _ => rfl, fun _ _ => rfl, fun _ _ => rfl⟩

namespace Houses
variable {σ α β : Type} {world : World σ} {shelf : σ → Storage} {calls : Call → Prop}

/-- What is written down of a world takes no part in it. -/
theorem recorded (houses : Houses world shelf) :
    Houses world.recorded fun state => shelf state.2 :=
  ⟨fun call state => houses.replies call state.2, fun call state => houses.stores call state.2,
    fun call state => houses.device call state.2, fun call state => houses.client call state.2⟩

theorem keeps (houses : Houses world shelf) {kept : Storage → Prop} {work : Work σ α}
    (uses : work.Uses calls) (answered : ∀ call storage, calls (.storage call) → kept storage →
      kept (Storage.answer call storage).2) :
    work.Keeps world fun desk => kept (shelf desk.outside) := by
  have keeping (call : Call) (state : σ) (allowed : calls call) (holds : kept (shelf state)) :
      kept (shelf (world.answer call state).2) := by
    cases call with
    | storage call => exact houses.stores call state ▸ answered call (shelf state) allowed holds
    | device call => exact (houses.device call state).symm ▸ holds
    | client call => exact (houses.client call state).symm ▸ holds
  exact uses.keeps_outside keeping

theorem keeps_writes (houses : Houses world shelf) {path : Path} {tracks : List MuxedTrack}
    {work : Work σ α} (uses : work.Uses Call.WritesNothing) :
    work.Keeps world fun desk => (shelf desk.outside).Writes path tracks :=
  houses.keeps uses fun _ _ aside writes => writes.answer aside

section
variable {desk : Desk σ} {reached : β → Desk σ → Prop} {path : Path} {tracks : List MuxedTrack}

theorem returns_storage (houses : Houses world shelf) {call : StorageCall}
    {next : call.Reply → Work σ β} {failed : Error → Desk σ → Prop}
    (onward : ∀ reply left, reply = (Storage.answer call (shelf desk.outside)).1 →
      shelf left.outside = (Storage.answer call (shelf desk.outside)).2 →
      (next reply).Returns world left reached failed) :
    (storage call >>= next).Returns world desk reached failed :=
  returns_ask (onward _ _ (houses.replies call desk.outside) (houses.stores call desk.outside))

theorem before (houses : Houses world shelf) (writes : (shelf desk.outside).Writes path tracks)
    {work : Work σ α} {next : α → Work σ β} (uses : work.Uses Call.WritesNothing)
    (onward : ∀ value left, (shelf left.outside).Writes path tracks →
      (next value).Returns world left reached fun _ _ => True) :
    (work >>= next).Returns world desk reached fun _ _ => True :=
  returns_bind (((houses.keeps_writes uses).returns writes).imp onward fun _ _ _ => trivial)

theorem granted (houses : Houses world shelf) (writes : (shelf desk.outside).Writes path tracks)
    {work : Work σ (Except Error α)} {next : α → Work σ β} (uses : work.Uses Call.WritesNothing)
    (onward : ∀ value left, (shelf left.outside).Writes path tracks →
      (next value).Returns world left reached fun _ _ => True) :
    (work >>= fun answer => settle answer >>= next).Returns world desk reached fun _ _ => True :=
  houses.before writes uses fun _ left held =>
    returns_settle (fun _ _ => trivial) fun value _ => onward value left held

theorem addTrack (houses : Houses world shelf) (writes : (shelf desk.outside).Writes path tracks)
    {format : Format} {isAudio : Bool} {next : Nat → Work σ β}
    (onward : ∀ left, (shelf left.outside).Writes path (tracks ++ [⟨format, isAudio, []⟩]) →
      (next tracks.length).Returns world left reached fun _ _ => True) :
    (storage (.addTrack format isAudio) >>= fun answer => settle answer >>= next).Returns world desk
      reached fun _ _ => True := by
  refine houses.returns_storage fun reply left replied stored =>
    returns_settle (fun _ _ => trivial) fun place granted => ?_
  obtain ⟨rfl, added⟩ := writes.addTrack (replied.symm.trans granted)
  exact onward left (stored ▸ added)

theorem write (houses : Houses world shelf) {earlier : List MuxedTrack} {track : MuxedTrack}
    (writes : (shelf desk.outside).Writes path (earlier ++ [track])) {buffer : Bytes}
    {info : SampleInfo} {isAudio : Bool} {next : Bool → Work σ β}
    (onward : ∀ stored left samples,
      (shelf left.outside).Writes path (earlier ++ [{ track with samples }]) →
      (if stored then ∃ sample, sample.time = info.time ∧ samples = track.samples ++ [sample]
        else samples = track.samples) →
      (next stored).Returns world left reached fun _ _ => True) :
    (storage (.write earlier.length buffer info isAudio) >>= fun answer => settle answer >>= next).Returns
      world desk reached fun _ _ => True := by
  refine houses.returns_storage fun reply left replied stored =>
    returns_settle (fun _ _ => trivial) fun took granted => ?_
  obtain ⟨samples, written, grown⟩ := writes.write (replied.symm.trans granted)
  exact onward took left samples (stored ▸ written) grown

end

end Houses

end Recode.Simulation
