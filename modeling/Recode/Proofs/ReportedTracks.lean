import Recode.Proofs.SampleCounts
import Recode.Proofs.WindowedCompression

/-!
What a compression reports of its destination is what the destination holds. The summary of the tracks
is put together from the counts of the sessions that wrote them, and nothing is written to a movie
behind its sessions' backs.
-/

namespace Recode.Simulation
open Recode.Media Recode.Container Recode.Device Recode.Progress Recode.Session Recode.Job
open Recode.Session.Work

/-- The tracks are as the summary says: one of pictures, and one of sound if there is any. The first
time told of copied pictures is that of the track. -/
structure Summarizes (sounds copied : Bool) (summary : TrackSummary) (video : MuxedTrack)
    (audio : Option MuxedTrack) : Prop where
  isVideo : video.isAudio = false
  isAudio : ∀ track, audio = some track → track.isAudio = true
  heard : audio.isSome = sounds
  pictures : summary.videoSamples = video.samples.length
  sound : summary.audioSamples = audio.map (·.samples.length)
  first : copied = true → summary.firstVideoTime = video.samples.head?.map (·.time)

namespace Storage
variable {storage : Storage} {source : Source}

def Reads (source : Source) (storage : Storage) : Prop :=
  ∃ demuxer older, storage.library.demuxers = demuxer :: older ∧ demuxer.source = source

theorem reads_openSource {path : Path} (granted : (storage.openSource path).1 = .ok ()) :
    ∃ source, storage.library.source? path = some source ∧
      (storage.openSource path).2.Reads source := by
  have reached := granted_of_barring granted
  unfold openSource at granted ⊢
  rw [reached] at granted ⊢
  unfold Library.openSource at granted ⊢
  cases found : storage.library.source? path with
  | none =>
    rw [found] at granted
    exact nomatch granted
  | some source => exact ⟨source, rfl, _, _, rfl, rfl⟩

theorem Reads.createMovie (reads : storage.Reads source) (path : Path) (settings : MovieSettings) :
    (storage.createMovie path settings).2.Reads source := by
  unfold Storage.createMovie
  cases storage.script.createError with
  | some error => exact reads
  | none => exact reads

theorem answer_listing (storage : Storage) {call : StorageCall}
    (listing : Call.IsListing (.storage call)) : (Storage.answer call storage).2 = storage := by
  cases call with
  | trackCount => exact snd_view _ _ _
  | trackFormat index =>
    dsimp only [Storage.answer]
    cases storage.script.demuxer.formatError with
    | some error => rfl
    | none => exact snd_view _ _ _
  | _ => exact listing.elim

def formatOf? (storage : Storage) (index : Nat) : Option Format :=
  (Storage.answer (.trackFormat index) storage).1.toOption

/-- Unless the formats are kept back, the first track of a kind is the source's. -/
theorem Reads.find (reads : storage.Reads source) (isAudio : Bool) :
    (List.range (Storage.answer .trackCount storage).1).find?
        (fun index => (storage.formatOf? index).any (·.isKind isAudio)) =
      if storage.script.demuxer.formatError = none then source.tracks.findIdx? (·.isKind isAudio)
      else none := by
  obtain ⟨demuxer, older, opened, rfl⟩ := reads
  have newest : storage.library.demuxers.head? = some demuxer := opened ▸ rfl
  have count : (Storage.answer .trackCount storage).1 = demuxer.source.tracks.length :=
    view_newest newest 0 (·.trackCount)
  unfold formatOf?
  dsimp only [Storage.answer] at count ⊢
  rw [count]
  cases storage.script.demuxer.formatError with
  | some error =>
    rw [if_neg nofun, List.find?_eq_none]
    intro index _
    exact Bool.false_ne_true
  | none =>
    rw [if_pos rfl, ← find?_range_eq_findIdx?]
    refine congrArg (List.find? · _) (funext fun index => ?_)
    have told : (storage.view missing (·.trackFormat index)).1 = demuxer.trackFormat index :=
      view_newest newest missing (·.trackFormat index)
    dsimp only [barring]
    rw [told, Demuxer.trackFormat]
    cases demuxer.source.tracks[index]? <;> rfl

theorem source?_answer (storage : Storage) (call : StorageCall) (path : Path) :
    (Storage.answer call storage).2.library.source? path = storage.library.source? path := by
  have onDemuxer {α : Type} (storage : Storage) (absent : α) (act : Demuxer → α × Demuxer) :
      (storage.onDemuxer absent act).2.library.source? path = storage.library.source? path := by
    dsimp only [Storage.onDemuxer, Library.onDemuxer]
    cases storage.library.demuxers <;> rfl
  have onMuxer {α : Type} (storage : Storage) (absent : α) (act : Muxer → α × Muxer) :
      (storage.onMuxer absent act).2.library.source? path = storage.library.source? path := by
    dsimp only [Storage.onMuxer, Library.onMuxer]
    cases storage.library.muxers <;> rfl
  have barring {α : Type} (storage : Storage) {error? : Option Error}
      {act : Except Error α × Storage}
      (same : act.2.library.source? path = storage.library.source? path) :
      (storage.barring error? act).2.library.source? path = storage.library.source? path := by
    cases error? with
    | some error => rfl
    | none => exact same
  cases call with
  | openSource opened =>
    refine barring storage ?_
    unfold Library.openSource
    cases storage.library.source? opened <;> rfl
  | createMovie begun settings => exact barring storage rfl
  | trackFormat index => exact barring storage (onDemuxer _ _ _)
  | select index => exact barring storage (onDemuxer _ _ _)
  | unselect index => exact barring storage (onDemuxer _ _ _)
  | seek time mode => exact barring storage (onDemuxer _ _ _)
  | read room =>
    refine barring { storage with reads := storage.reads + 1 } ?_
    split
    next ends => rfl
    next goesOn => exact onDemuxer _ _ _
  | addTrack format isAudio =>
    exact barring { storage with adds := storage.adds + 1 } (onMuxer _ _ _)
  | write track buffer info isAudio =>
    refine barring { storage with writes := storage.writes + 1 } ?_
    split
    next passed => rfl
    next taken => exact onMuxer _ _ _
  | finalize => exact barring storage (onMuxer _ _ _)
  | _ => exact onDemuxer _ _ _

end Storage

section
variable {σ : Type} {world : World σ} {shelf : σ → Storage} {desk : Desk σ} {source : Source}
  {path : Path} {sounds : Bool}

theorem firstTrackOf_finds (houses : Houses world shelf) (isAudio : Bool) (indices : List Nat) :
    (firstTrackOf isAudio indices).Returns world desk
      (fun found left => shelf left.outside = shelf desk.outside ∧
        found = indices.find? fun index =>
          ((shelf desk.outside).formatOf? index).any (·.isKind isAudio))
      fun _ _ => True := by
  induction indices generalizing desk with
  | nil => exact returns_pure ⟨rfl, rfl⟩
  | cons index rest ih =>
    refine houses.returns_storage fun reply left replied stored => ?_
    have same : shelf left.outside = shelf desk.outside :=
      stored.trans (Storage.answer_listing _ trivial)
    have told : (shelf desk.outside).formatOf? index = reply.toOption :=
      congrArg Except.toOption replied.symm
    have onward := @ih left
    rw [same] at onward
    rw [List.find?_cons, told]
    cases reply with
    | error refused => exact onward
    | ok format =>
      dsimp only [Except.toOption, Option.any_some]
      cases kind : format.isKind isAudio with
      | true => exact returns_pure ⟨same, rfl⟩
      | false => exact onward

theorem findTrack_finds (houses : Houses world shelf) (reads : (shelf desk.outside).Reads source)
    (isAudio : Bool) :
    (findTrack isAudio).Returns world desk
      (fun found left => shelf left.outside = shelf desk.outside ∧
        found = if (shelf desk.outside).script.demuxer.formatError = none
          then source.tracks.findIdx? (·.isKind isAudio) else none)
      fun _ _ => True := by
  refine houses.returns_storage fun count left replied stored => ?_
  have same : shelf left.outside = shelf desk.outside :=
    stored.trans (Storage.answer_listing _ trivial)
  refine (firstTrackOf_finds houses isAudio (List.range count)).imp (fun found last ends => ?_)
    fun _ _ => id
  rw [same] at ends
  rw [← reads.find isAudio, ← replied]
  exact ends

theorem videoTrack_finds (houses : Houses world shelf) (reads : (shelf desk.outside).Reads source) :
    (videoTrack path).Returns world desk
      (fun _ left => shelf left.outside = shelf desk.outside ∧
        (shelf desk.outside).script.demuxer.formatError = none)
      fun _ _ => True := by
  refine (findTrack_finds houses reads false).bind fun found left ends => ?_
  obtain ⟨same, only⟩ := ends
  cases found with
  | none => exact returns_fail trivial
  | some index =>
    refine returns_pure ⟨same, ?_⟩
    by_contra keptBack
    rw [if_neg keptBack] at only
    exact nomatch only

variable {job : Compression σ} {plan : Plan}

theorem writeEmpty_summarizes (houses : Houses world shelf)
    (writes : (shelf desk.outside).Writes path []) {video : Track} {audio : Option Track} :
    (job.writeEmpty plan video audio).Returns world desk
      (fun summary left => ∃ pictures sound,
        (shelf left.outside).Writes path (pictures :: sound.toList) ∧
        Summarizes audio.isSome true summary pictures sound)
      fun _ _ => True := by
  unfold Compression.writeEmpty
  dsimp only
  generalize (if plan.parameters.transcode then _ else _ : Format) = format
  refine houses.addTrack writes fun left held => ?_
  let pictures : MuxedTrack := ⟨format, false, []⟩
  cases audio with
  | none =>
    have silent (track : MuxedTrack) (absent : none = some track) : track.isAudio = true :=
      nomatch absent
    exact returns_pure ⟨pictures, none, held, ⟨rfl, silent, rfl, rfl, rfl, fun _ => rfl⟩⟩
  | some track =>
    refine houses.addTrack held fun left held => ?_
    let sound : MuxedTrack := ⟨track.format, true, []⟩
    refine returns_pure ⟨pictures, some sound, held, ⟨rfl, ?_, rfl, rfl, rfl, fun _ => rfl⟩⟩
    rintro other ⟨⟩
    rfl

theorem writeVideo_summarizes (houses : Houses world shelf)
    (writes : (shelf desk.outside).Writes path []) {video : Track} (isVideo : video.isAudio = false) :
    (job.writeVideo plan video).Returns world desk
      (fun summary left => ∃ pictures, (shelf left.outside).Writes path [pictures] ∧
        Summarizes false plan.encoder.isNone summary pictures none)
      fun _ _ => True := by
  have silent (track : MuxedTrack) (absent : none = some track) : track.isAudio = true :=
    nomatch absent
  unfold Compression.writeVideo
  cases plan.encoder with
  | some encoder =>
    refine (transcode_counts houses writes).bind fun outcome left counted => ?_
    obtain ⟨pictures, held, isVideo, written⟩ := counted
    exact returns_pure ⟨pictures, held, isVideo, silent, rfl, written, rfl, nofun⟩
  | none =>
    refine (copyTrack_counts houses writes).bind fun outcome left copied => ?_
    obtain ⟨pictures, held, kind, written, first⟩ := copied
    exact returns_pure ⟨pictures, held, kind.trans isVideo, silent, rfl, written, rfl, fun _ => first⟩

theorem writeFound_summarizes (houses : Houses world shelf)
    (writes : (shelf desk.outside).Writes path []) {video : Track} (isVideo : video.isAudio = false)
    {audio : Option Track} (isAudio : ∀ track, audio = some track → track.isAudio = true) :
    (job.writeFound plan video audio).Returns world desk
      (fun summary left => ∃ pictures sound,
        (shelf left.outside).Writes path (pictures :: sound.toList) ∧
        Summarizes audio.isSome plan.encoder.isNone summary pictures sound)
      fun _ _ => True := by
  refine returns_ite (fun empty => ?_) fun lasting => ?_
  · refine (writeEmpty_summarizes houses writes).imp (fun summary left ends => ?_) fun _ _ => id
    obtain ⟨pictures, sound, held, facts⟩ := ends
    exact ⟨pictures, sound, held, { facts with first := fun _ => facts.first rfl }⟩
  · refine (writeVideo_summarizes houses writes isVideo).bind fun summary left ends => ?_
    obtain ⟨pictures, held, facts⟩ := ends
    cases audio with
    | none => exact returns_pure ⟨pictures, none, held, facts⟩
    | some track =>
      refine (copyTrack_counts houses held).bind fun outcome left copied => ?_
      obtain ⟨sound, held, kind, written, -⟩ := copied
      refine returns_pure ⟨pictures, some sound, held, { facts with
        isAudio := ?_, heard := rfl, sound := congrArg some written }⟩
      rintro other ⟨⟩
      exact kind.trans (isAudio track rfl)

/-- There is a track of sound exactly if the source has one. -/
theorem writeTracks_summarizes (houses : Houses world shelf)
    (writes : (shelf desk.outside).Writes path []) (reads : (shelf desk.outside).Reads source) :
    (job.writeTracks plan).Returns world desk
      (fun summary left => ∃ pictures sound,
        (shelf left.outside).Writes path (pictures :: sound.toList) ∧
        Summarizes (source.tracks.findIdx? (·.isKind true)).isSome plan.encoder.isNone summary
          pictures sound)
      fun _ _ => True := by
  rw [Compression.writeTracks_eq]
  refine (videoTrack_finds houses reads).bind fun index left ends => ?_
  obtain ⟨same, told⟩ := ends
  refine houses.returns_storage fun reply left _ stored => ?_
  refine returns_settle (fun _ _ => trivial) fun format _ => ?_
  replace same := (stored.trans (Storage.answer_listing _ trivial)).trans same
  refine (findTrack_finds houses (same ▸ reads) true).bind fun sound left ends => ?_
  obtain ⟨still, found⟩ := ends
  rw [same, if_pos told] at found
  replace same := still.trans same
  subst found
  cases source.tracks.findIdx? (·.isKind true) with
  | none =>
    refine writeFound_summarizes houses (same ▸ writes) rfl ?_
    exact fun _ absent => nomatch absent
  | some index =>
    refine houses.returns_storage fun reply left _ stored => ?_
    refine returns_settle (fun _ _ => trivial) fun format _ => ?_
    replace same := (stored.trans (Storage.answer_listing _ trivial)).trans same
    refine writeFound_summarizes houses (same ▸ writes) rfl ?_
    rintro track ⟨⟩
    rfl

theorem writeDestination_summarizes (houses : Houses world shelf)
    (reads : (shelf desk.outside).Reads source) :
    (job.writeDestination plan).Returns world desk
      (fun summary left => ∃ pictures sound,
        (shelf left.outside).Finished job.destination (pictures :: sound.toList) ∧
        Summarizes (source.tracks.findIdx? (·.isKind true)).isSome plan.encoder.isNone summary
          pictures sound)
      fun _ _ => True := by
  refine houses.returns_storage fun reply left replied stored => ?_
  refine returns_settle (fun _ _ => trivial) fun _ granted => ?_
  have begun : (shelf left.outside).Writes job.destination [] :=
    stored ▸ Storage.writes_createMovie (replied.symm.trans granted)
  have opened : (shelf left.outside).Reads source := stored ▸ reads.createMovie _ _
  have written := @writeTracks_summarizes σ world shelf left source job.destination job plan houses
    begun opened
  refine returns_bind (returns_outcome (written.imp (fun summary left ends => ?_) fun error left _ => ?_))
  · obtain ⟨pictures, sound, writes, facts⟩ := ends
    refine houses.returns_storage fun finalized left replied stored => ?_
    refine returns_settle (fun _ _ => trivial) fun _ same => ?_
    cases same
    refine returns_settle (fun _ _ => trivial) fun _ granted => returns_pure ?_
    exact ⟨pictures, sound, stored ▸ writes.finalize (replied.symm.trans granted), facts⟩
  · exact returns_ask (returns_fail trivial)

theorem plan_chooses (houses : Houses world shelf) {metadata : Metadata} :
    (job.plan metadata).Returns world desk
      (fun plan left => shelf left.outside = shelf desk.outside ∧
        (plan.parameters.transcode = false → plan.encoder = none))
      fun _ _ => True := by
  refine returns_settle (fun _ _ => trivial) fun parameters _ => ?_
  refine returns_ite (fun transcodes => ?_) fun copies => returns_pure ⟨rfl, fun _ => rfl⟩
  refine returns_ask (returns_settle (fun _ _ => trivial) fun encoder _ => ?_)
  refine returns_pure ⟨houses.device _ _, fun copies => ?_⟩
  rw [copies] at transcodes
  exact nomatch transcodes

def Reports (job : Compression σ) (source? : Option Source) (parameters : Parameters)
    (summary : TrackSummary) (storage : Storage) : Prop :=
  ∃ source pictures sound, source? = some source ∧
    storage.Finished job.destination (pictures :: sound.toList) ∧
    Summarizes (source.tracks.findIdx? (·.isKind true)).isSome (!parameters.transcode) summary pictures
      sound

theorem execute_reports (houses : Houses world shelf) {metadata : Metadata} :
    (job.execute metadata).Returns world desk
      (fun written left => Reports job ((shelf desk.outside).library.source? job.source) written.1
        written.2 (shelf left.outside))
      fun _ _ => True := by
  refine (plan_chooses houses).bind fun plan left ends => ?_
  obtain ⟨same, copies⟩ := ends
  refine houses.returns_storage fun reply left replied stored => ?_
  refine returns_settle (fun _ _ => trivial) fun _ granted => ?_
  obtain ⟨source, found, reads⟩ := Storage.reads_openSource (replied.symm.trans granted)
  rw [same] at found
  have written := @writeDestination_summarizes σ world shelf left source job plan houses
    (stored ▸ reads)
  refine returns_bind (returns_outcome (written.imp (fun summary left ends => ?_) fun error left _ => ?_))
  · obtain ⟨pictures, sound, finished, facts⟩ := ends
    refine houses.returns_storage fun _ left _ stored => ?_
    refine returns_settle (fun _ _ => trivial) fun _ same => ?_
    cases same
    have finished : (shelf left.outside).Finished job.destination (pictures :: sound.toList) :=
      stored ▸ finished.of_muxers_eq (Storage.onDemuxer_muxers _ _ _)
    refine returns_pure ⟨source, pictures, sound, found, finished, { facts with first := ?_ }⟩
    intro copied
    have uncoded : plan.encoder = none := copies (by simpa using copied)
    exact facts.first (congrArg Option.isNone uncoded)
  · exact returns_ask (returns_fail trivial)

theorem run_reports (houses : Houses world shelf)
    (looks : ∀ path, (job.probe path).Uses Call.IsLook) :
    job.run.Returns world desk
      (fun report left =>
        Reports job ((shelf desk.outside).library.source? job.source) report.parameters report.tracks
          (shelf left.outside) ∧
        report.outcome = if report.tracks.videoSamples = 0 then .emptyResult else .completed)
      fun _ _ => True := by
  have sources (known : Option Source) (call : StorageCall) (storage : Storage)
      (_ : Call.IsLook (.storage call)) (same : storage.library.source? job.source = known) :
      (Storage.answer call storage).2.library.source? job.source = known :=
    (storage.source?_answer call job.source).trans same
  have told (kept : Storage → Prop) (request : Request) :
      (Work.tell request).Keeps world fun desk : Desk σ => kept (shelf desk.outside) := by
    have delivers (event : Event) (state : σ) (holds : kept (shelf state)) :
        kept (shelf (world.answer (.client (.deliver event)) state).2) :=
      (houses.client _ state).symm ▸ holds
    exact keeps_tell delivers request
  let known := (shelf desk.outside).library.source? job.source
  have prepared := houses.keeps (Compression.prepare_uses looks) (sources known)
  refine returns_bind (returns_outcome (((prepared.returns rfl).imp (fun metadata left same => ?_)
    fun error left _ => ?_)))
  · have begins := told (fun storage => storage.library.source? job.source = known) (.report 0)
    refine returns_bind (returns_modify ?_)
    refine returns_bind ((begins.returns ?_).imp (fun _ left same => ?_) fun _ _ _ => trivial)
    · exact same
    have executed := @execute_reports σ world shelf left job houses metadata
    refine returns_bind (returns_outcome (executed.imp (fun written left reports => ?_)
      fun error left _ => ?_))
    · rw [same] at reports
      obtain ⟨ended, rest, concludes, uses⟩ :=
        @Compression.conclude_eq_tell_bind _ job metadata written.1 written.2
      have removes := uses (fun call => call = .client (.removeFile job.source)) rfl
      have keeps : (job.conclude metadata written.1 written.2).Keeps world fun desk =>
          Reports job known written.1 written.2 (shelf desk.outside) := by
        rw [concludes]
        exact keeps_bind (told _ _) fun _ => houses.keeps removes (fun _ _ same => nomatch same)
      refine (Compression.conclude_reports.keeping keeps reports).imp (fun report left ends => ?_)
        fun _ _ _ => trivial
      obtain ⟨⟨-, parameters, tracks, outcome⟩, reports⟩ := ends
      rw [parameters, tracks]
      exact ⟨reports, outcome⟩
    · exact Compression.abort_yields_nothing
  · exact returns_bind (returns_modify Compression.abort_yields_nothing)

end

namespace Trial

/-- A compression that succeeds is a run of the job in a world with the rig's containers, whether or
not its calls are written down, and whether or not a worker does it. -/
theorem compression_ran {rig : Rig Bench} {recording worker : Bool}
    {job : {σ : Type} → Compression σ} {report : Report}
    (returned : (compression rig recording worker job).result = .ok report) :
    ∃ (σ : Type) (world : World σ) (shelf : σ → Storage) (desk left : Desk σ),
      Houses world shelf ∧ shelf desk.outside = rig.storage ∧
      job.run.run world desk = (.ok report, left) ∧
      shelf left.outside = (compression rig recording worker job).rig.storage := by
  let limit := rig.patienceFor rig.device.catalog.faults
  have houses : Houses (Rig.world Bench.answer limit) Rig.storage := Rig.houses _ _
  have worked {σ : Type} (world : World σ) (desk : Desk σ)
      (done : (if worker then compress job world desk else job.run.run world desk).1 = .ok report) :
      job.run.run world desk =
        (.ok report, (if worker then compress job world desk else job.run.run world desk).2) := by
    cases worker with
    | false => exact Prod.ext done rfl
    | true =>
      simp only [if_true, compress] at done ⊢
      split at done
      next panic left ran => exact nomatch done
      next unbroken => exact Prod.ext done rfl
  cases recording with
  | false =>
    refine ⟨_, _, _, { outside := rig }, _, houses, rfl, worked _ _ ?_, ?_⟩
    · cases worker <;> exact returned
    · cases worker <;> rfl
  | true =>
    refine ⟨_, _, _, { outside := ([], rig) }, _, houses.recorded, rfl, worked _ _ ?_, ?_⟩
    · cases worker <;> exact returned
    · cases worker <;> rfl

/-- A compression that succeeds has finalized its destination, which holds one track of pictures and
then, if the source has sound, one of sound, and no other. The report tells how many samples these
have, and that the result is empty exactly if there are no pictures; of copied pictures it tells the
time of the first. -/
theorem compression_reports_tracks (rig : Rig Bench) (recording worker : Bool) (config : Config)
    (path destination : Path) (options : Options) (report : Report)
    (returned : (compression rig recording worker
      (compressing config path destination options)).result = .ok report) :
    ∃ source movie video audio, rig.storage.library.source? path = some source ∧
      (compression rig recording worker (compressing config path destination
        options)).rig.storage.library.movie? destination = some movie ∧
      movie.finalized = true ∧ movie.tracks = video :: Option.toList audio ∧
      video.isAudio = false ∧ (∀ track, audio = some track → track.isAudio = true) ∧
      audio.isSome = source.tracks.any (·.isKind true) ∧
      report.tracks.videoSamples = video.samples.length ∧
      report.tracks.audioSamples = audio.map (·.samples.length) ∧
      (report.outcome = .emptyResult ↔ video.samples = []) ∧
      (report.parameters.transcode = false →
        report.tracks.firstVideoTime = video.samples.head?.map (·.time)) := by
  obtain ⟨σ, world, shelf, desk, left, houses, begun, ran, ended⟩ := compression_ran returned
  have ends := (@run_reports _ _ _ _ (compressing config path destination options) houses
    fun _ => probeContainer_uses).of_ok ran
  obtain ⟨⟨source, video, audio, found, finished, facts⟩, outcome⟩ := ends
  obtain ⟨movie, made, tracks, finalized⟩ := finished.movie?
  rw [begun] at found
  rw [ended] at made
  refine ⟨source, movie, video, audio, found, made, finalized, tracks, facts.isVideo, facts.isAudio,
    ?_, facts.pictures, facts.sound, ?_, fun copied => facts.first (by rw [copied]; rfl)⟩
  · rw [facts.heard, List.findIdx?_isSome]
  · rw [outcome, facts.pictures, ← List.length_eq_zero_iff]
    split
    next empty => simp [empty]
    next pictured => simp [pictured]

end Trial

/-- A copy that begins at the sync point before its window tells of both pictures that it took, and
of the sound. -/
theorem compression_reports_tracks_brief :
    ∃ report movie video audio, (briefCopy (briefWindow 30000 50000)).result = .ok report ∧
      (briefCopy (briefWindow 30000 50000)).rig.storage.library.movie? "out" = some movie ∧
      movie.tracks = [video, audio] ∧ report.outcome = .completed ∧
      report.tracks.videoSamples = 2 ∧ video.samples.length = 2 ∧
      report.tracks.audioSamples = some audio.samples.length ∧
      report.tracks.firstVideoTime = video.samples.head?.map (·.time) := by
  obtain ⟨report, returned, -, parameters, counted, outcome⟩ :=
    @briefCopy_reports (briefWindow 30000 50000) ⟨4, 2, 4000000, .deg0, .deg0, false⟩
      ⟨(briefOptions_feasible "").configured, rfl, rfl, rfl, rfl⟩
  obtain ⟨source, movie, video, audio, found, made, -, tracks, -, -, heard, pictures, sound, -, first⟩ :=
    Trial.compression_reports_tracks _ _ _ _ _ _ _ report returned
  obtain rfl : briefMovie = source := Option.some.inj (source?_brief.symm.trans found)
  have sounds : briefMovie.tracks.any (·.isKind true) = true := by decide +kernel
  obtain ⟨audio, rfl⟩ := Option.isSome_iff_exists.mp (heard.trans sounds)
  have two : (copiedSamples briefMovie 0
      ((briefWindow 30000 50000).window.clamped 100000)).length = 2 := by decide
  rw [two] at counted outcome
  exact ⟨report, movie, video, audio, returned, made, tracks, outcome, counted, pictures ▸ counted,
    sound, first (by rw [parameters])⟩

end Recode.Simulation
