import Mathlib.Data.List.Forall2
import Recode.Proofs.SessionConduct
import Recode.Simulation.Rig

/-!
What a compression leaves outside only grows. Whatever is asked of a simulated world, short of a new
movie, its movies are continued and its events are added to; and what is closed gains nothing by it.
-/

namespace Recode.Container
open Recode.Media

structure MuxedTrack.IsPartOf (part whole : MuxedTrack) : Prop where
  format : part.format = whole.format
  isAudio : part.isAudio = whole.isAudio
  samples : part.samples <+: whole.samples

/-- The other movie has all tracks in the same places, and there may be more of each and more of
them. -/
structure Movie.IsPartOf (part whole : Movie) : Prop where
  settings : part.settings = whole.settings
  tracks : ∀ (index : Nat) (track : MuxedTrack), part.tracks[index]? = some track →
    ∃ full, whole.tracks[index]? = some full ∧ track.IsPartOf full

theorem MuxedTrack.IsPartOf.refl (track : MuxedTrack) : track.IsPartOf track :=
  ⟨rfl, rfl, List.prefix_refl _⟩

theorem MuxedTrack.IsPartOf.trans {first second third : MuxedTrack} (begun : first.IsPartOf second)
    (goesOn : second.IsPartOf third) : first.IsPartOf third :=
  ⟨begun.format.trans goesOn.format, begun.isAudio.trans goesOn.isAudio,
    begun.samples.trans goesOn.samples⟩

theorem Movie.IsPartOf.of_tracks_eq {part whole : Movie} (settings : part.settings = whole.settings)
    (tracks : part.tracks = whole.tracks) : part.IsPartOf whole :=
  ⟨settings, fun _ track found => ⟨track, tracks ▸ found, .refl track⟩⟩

theorem Movie.IsPartOf.refl (movie : Movie) : movie.IsPartOf movie := .of_tracks_eq rfl rfl

theorem Movie.IsPartOf.trans {first second third : Movie} (begun : first.IsPartOf second)
    (goesOn : second.IsPartOf third) : first.IsPartOf third := by
  refine ⟨begun.settings.trans goesOn.settings, fun index track found => ?_⟩
  obtain ⟨longer, next, part⟩ := begun.tracks index track found
  obtain ⟨full, last, whole⟩ := goesOn.tracks index longer next
  exact ⟨full, last, part.trans whole⟩

namespace Muxer

theorem isPartOf_addTrack (muxer : Muxer) (format : Format) (isAudio : Bool) :
    muxer.movie.IsPartOf (muxer.addTrack format isAudio).2.movie := by
  unfold addTrack
  split
  next finalized => exact .refl _
  next unfinalized =>
    refine ⟨rfl, fun index track found => ⟨track, ?_, .refl track⟩⟩
    exact (List.getElem?_append_left (List.getElem?_eq_some_iff.mp found).1).trans found

theorem isPartOf_write (muxer : Muxer) (track : Nat) (buffer : Bytes) (info : SampleInfo)
    (isAudio : Bool) : muxer.movie.IsPartOf (muxer.write track buffer info isAudio).2.movie := by
  unfold write
  split
  next error refused => exact .refl _
  next empty => exact .refl _
  next sample admitted =>
    refine ⟨rfl, fun index kept found => ?_⟩
    dsimp only
    rw [List.getElem?_modify, found]
    by_cases here : track = index
    · exact ⟨_, congrArg some (if_pos here), rfl, rfl, List.prefix_append _ _⟩
    · exact ⟨kept, congrArg some (if_neg here), .refl kept⟩

theorem finalize_tracks (muxer : Muxer) :
    muxer.finalize.2.movie.settings = muxer.movie.settings ∧
      muxer.finalize.2.movie.tracks = muxer.movie.tracks := by
  unfold finalize
  dsimp only
  split
  next finalized => exact ⟨rfl, rfl⟩
  next unfinalized => split <;> exact ⟨rfl, rfl⟩

end Muxer

/-- The movies begun in the one library are those of the other, each at least as far. -/
def Library.Precedes (part whole : Library) : Prop :=
  List.Forall₂ (fun part whole => part.1 = whole.1 ∧ part.2.movie.IsPartOf whole.2.movie)
    part.muxers whole.muxers

namespace Library.Precedes

theorem of_muxers_eq {part whole : Library} (same : part.muxers = whole.muxers) :
    part.Precedes whole := by
  unfold Precedes
  rw [same]
  exact List.forall₂_same.mpr fun _ _ => ⟨rfl, .refl _⟩

theorem trans {first second third : Library} (begun : first.Precedes second)
    (goesOn : second.Precedes third) : first.Precedes third := by
  unfold Precedes at *
  revert begun goesOn
  generalize first.muxers = before
  generalize second.muxers = between
  generalize third.muxers = after
  intro begun
  induction begun generalizing after with
  | nil => exact id
  | cons head _ ih =>
    rintro (_ | ⟨next, rest⟩)
    exact .cons ⟨head.1.trans next.1, head.2.trans next.2⟩ (ih _ rest)

theorem movie? {part whole : Library} (precedes : part.Precedes whole) {path : Path} {movie : Movie}
    (found : part.movie? path = some movie) :
    ∃ full, whole.movie? path = some full ∧ movie.IsPartOf full := by
  unfold Library.movie? at *
  unfold Precedes at precedes
  revert precedes found
  generalize part.muxers = mine
  generalize whole.muxers = others
  intro precedes
  induction precedes with
  | nil => exact nofun
  | @cons begun other _ _ head _ ih =>
    rw [List.find?_cons, List.find?_cons, head.1]
    split
    next here =>
      rintro ⟨⟩
      exact ⟨other.2.movie, rfl, head.2⟩
    next elsewhere => exact ih

variable {α : Type} {library : Library} {absent : α} {act : Muxer → α × Muxer}

theorem forall₂_onMuxer {related : Path × Muxer → Path × Muxer → Prop}
    (alike : ∀ begun, related begun begun)
    (acts : ∀ path muxer, related (path, muxer) (path, (act muxer).2)) :
    List.Forall₂ related library.muxers (library.onMuxer absent act).2.muxers := by
  unfold Library.onMuxer
  split
  next path newest older found =>
    rw [found]
    exact .cons (acts path newest) (List.forall₂_same.mpr fun begun _ => alike begun)
  next none => exact List.forall₂_same.mpr fun begun _ => alike begun

theorem onMuxer (grows : ∀ muxer : Muxer, muxer.movie.IsPartOf (act muxer).2.movie) :
    library.Precedes (library.onMuxer absent act).2 :=
  forall₂_onMuxer (fun _ => ⟨rfl, .refl _⟩) fun _ muxer => ⟨rfl, grows muxer⟩

theorem of_onMuxer (keeps : ∀ muxer : Muxer, (act muxer).2.movie.IsPartOf muxer.movie) :
    (library.onMuxer absent act).2.Precedes library :=
  .flip (forall₂_onMuxer (fun _ => ⟨rfl, .refl _⟩) fun _ muxer => ⟨rfl, keeps muxer⟩)

end Library.Precedes

end Recode.Container

namespace Recode.Simulation
open Recode.Media Recode.Container Recode.Progress Recode.Session

namespace Storage
variable {α : Type}

theorem onDemuxer_muxers (storage : Storage) (absent : α) (act : Demuxer → α × Demuxer) :
    (storage.onDemuxer absent act).2.library.muxers = storage.library.muxers := by
  dsimp only [onDemuxer, Library.onDemuxer]
  cases storage.library.demuxers <;> rfl

theorem barring_precedes {storage : Storage} {error? : Option Error} {act : Except Error α × Storage}
    (grows : storage.library.Precedes act.2.library) :
    storage.library.Precedes (storage.barring error? act).2.library := by
  cases error? with
  | some error => exact .of_muxers_eq rfl
  | none => exact grows

theorem barring_muxers {storage : Storage} {error? : Option Error} {act : Except Error α × Storage}
    (same : act.2.library.muxers = storage.library.muxers) :
    (storage.barring error? act).2.library.muxers = storage.library.muxers := by
  cases error? with
  | some error => rfl
  | none => exact same

theorem openSource_muxers (storage : Storage) (path : Path) :
    (storage.openSource path).2.library.muxers = storage.library.muxers := by
  refine barring_muxers ?_
  unfold Library.openSource
  cases storage.library.source? path <;> rfl

theorem read_muxers (storage : Storage) (room : Nat) :
    (storage.read room).2.library.muxers = storage.library.muxers := by
  refine barring_muxers ?_
  dsimp only
  split
  next ends => rfl
  next goesOn => exact onDemuxer_muxers _ _ _

theorem precedes_answer (storage : Storage) {call : StorageCall}
    (stays : Call.StaysWithMovie (.storage call)) :
    storage.library.Precedes (answer call storage).2.library := by
  have looks {α : Type} (absent : α) (act : Demuxer → α × Demuxer) :
      storage.library.Precedes (storage.onDemuxer absent act).2.library :=
    .of_muxers_eq (onDemuxer_muxers storage absent act).symm
  cases call with
  | openSource path => exact .of_muxers_eq (openSource_muxers storage path).symm
  | createMovie path settings => exact stays.elim
  | trackCount => exact looks _ _
  | trackFormat index => exact barring_precedes (looks _ _)
  | select index => exact barring_precedes (looks _ _)
  | unselect index => exact barring_precedes (looks _ _)
  | seek time mode => exact barring_precedes (looks _ _)
  | currentTrack => exact looks _ _
  | currentTime => exact looks _ _
  | currentFlags => exact looks _ _
  | read room => exact .of_muxers_eq (read_muxers storage room).symm
  | advance => exact looks _ _
  | releaseDemuxer => exact looks _ _
  | addTrack format isAudio =>
    exact @barring_precedes _ { storage with adds := storage.adds + 1 } _ _
      (.onMuxer fun muxer => muxer.isPartOf_addTrack format isAudio)
  | write track buffer info isAudio =>
    refine @barring_precedes _ { storage with writes := storage.writes + 1 } _ _ ?_
    dsimp only
    split
    next stores => exact .of_muxers_eq rfl
    next writes => exact .onMuxer fun muxer => muxer.isPartOf_write track buffer info isAudio
  | finalize =>
    exact barring_precedes (.onMuxer fun muxer =>
      .of_tracks_eq muxer.finalize_tracks.1.symm muxer.finalize_tracks.2.symm)

theorem answer_precedes (storage : Storage) {call : StorageCall}
    (closing : Call.IsClosing (.storage call)) :
    (answer call storage).2.library.Precedes storage.library := by
  cases call with
  | unselect index => exact .of_muxers_eq (barring_muxers (onDemuxer_muxers _ _ _))
  | releaseDemuxer => exact .of_muxers_eq (onDemuxer_muxers _ _ _)
  | finalize =>
    dsimp only [answer, barring]
    split
    next told => exact .of_muxers_eq rfl
    next silent =>
      exact .of_onMuxer fun muxer => .of_tracks_eq muxer.finalize_tracks.1 muxer.finalize_tracks.2
  | _ => exact closing.elim

end Storage

theorem Client.events_prefix_answer (client : Client) (call : ClientCall) :
    client.events <+: (answer call client).2.events := by
  cases call with
  | deliver event =>
    dsimp only [answer, deliver]
    split
    next explodes => exact List.prefix_refl _
    next takes => exact List.prefix_append _ _
  | isCancelled => exact List.prefix_refl _
  | openFile path => exact List.prefix_refl _
  | removeFile path => exact List.prefix_refl _

structure Rig.Precedes {δ : Type} (part whole : Rig δ) : Prop where
  movies : part.storage.library.Precedes whole.storage.library
  events : part.client.events <+: whole.client.events

namespace Rig
variable {δ : Type} {device : (call : DeviceCall) → δ → call.Reply × δ} {patience : Nat}

theorem Precedes.trans {first second third : Rig δ} (begun : first.Precedes second)
    (goesOn : second.Precedes third) : first.Precedes third :=
  ⟨begun.movies.trans goesOn.movies, begun.events.trans goesOn.events⟩

theorem Precedes.of_eq {part whole : Rig δ}
    (muxers : part.storage.library.muxers = whole.storage.library.muxers)
    (events : part.client.events = whole.client.events) : part.Precedes whole :=
  ⟨.of_muxers_eq muxers, events ▸ List.prefix_refl _⟩

/-- Whatever is asked of the world, short of a new movie, is an addition to it. -/
theorem precedes_answer (rig : Rig δ) {call : Call} (stays : call.StaysWithMovie) :
    rig.Precedes ((world device patience).answer call rig).2 := by
  cases call with
  | storage call => exact ⟨rig.storage.precedes_answer stays, List.prefix_refl _⟩
  | device call => exact .of_eq rfl rfl
  | client call => exact ⟨.of_muxers_eq rfl, rig.client.events_prefix_answer call⟩

theorem answer_precedes (rig : Rig δ) {call : Call} (closing : call.IsClosing) :
    ((world device patience).answer call rig).2.Precedes rig := by
  cases call with
  | storage call => exact ⟨rig.storage.answer_precedes closing, List.prefix_refl _⟩
  | device call => exact .of_eq rfl rfl
  | client call => exact closing.elim

end Rig

end Recode.Simulation
