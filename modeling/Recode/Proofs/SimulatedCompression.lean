import Mathlib.Algebra.Order.BigOperators.Group.List
import Recode.Job.Compression
import Recode.Proofs.Orientation
import Recode.Proofs.Probing
import Recode.Proofs.Trimming

/-!
Whole compressions on a simulated rig. A job looks into its source, resolves what is to be made of
it, and opens it once more to write the destination: first the pictures, then the sound that goes
with them. Nothing is left over from one part that would disturb the next.
-/

namespace Recode.Simulation
open Recode.Media Recode.Container Recode.Device Recode.Progress Recode.Session Recode.Job
open Recode.Session.Work

/-- Samples of sound that can be copied from any of them on. -/
structure Audible (source : Source) (audio : Nat) : Prop where
  sounds : source.trackSamples audio ≠ []
  whole : ∀ sample ∈ source.trackSamples audio, sample.data.size ≠ 0
  keys : ∀ sample ∈ source.trackSamples audio, sample.flags.isKeyFrame = true
  rises : source.Rises audio

/-- A source whose pictures can be transcoded, and whose sound, if it has any, can be copied. -/
structure Playable (source : Source) (video : Nat) (format : Format) (metadata : Metadata) : Prop
    extends Describes source video format metadata where
  built : source.Built
  avc : format.mime = videoAvc
  width_pos : 0 < metadata.width
  height_pos : 0 < metadata.height
  lasting : 0 < metadata.duration
  rises : source.Rises video
  sync : source.StartsInSync video
  within : ∀ sample ∈ source.trackSamples video, 0 ≤ sample.time ∧ sample.time < metadata.duration
  audible : ∀ audio, source.tracks.findIdx? (·.isKind true) = some audio → Audible source audio

/-- What is asked for is valid, and comes to a transcode of some time for which there is an
encoder. -/
structure Feasible (config : Config) (options : Options) (metadata : Metadata)
    (encoders : List CodecInfo) (parameters : Parameters) (encoder : ResolvedEncoder) : Prop where
  configured : config.validate = .ok ()
  asked : options.validate = .ok ()
  resolved : Parameters.resolve options metadata config.platform = .ok parameters
  transcodes : parameters.transcode = true
  selected : resolve (Catalog.new encoders {}).codecs config.platform config.pipeline.mime
    parameters.width parameters.height = .ok encoder
  lasting : (options.window.clamped metadata.duration).isEmpty = false

def PresentsTo (encoder : ResolvedEncoder) (source : Source) (video : Nat) : Prop :=
  encoder.profile.usesSurfaceInput = true → ∀ sample ∈ source.trackSamples video,
    Presentable sample.time

def compressing (config : Config) (source destination : Path) (options : Options) {σ : Type} :
    Compression σ :=
  ⟨probeContainer, config, source, destination, options⟩

def videoPlan (config : Config) (plan : Plan) (encoder : ResolvedEncoder) (track : Track) :
    TranscodePlan :=
  let parameters := plan.parameters
  ⟨track, encoder, ⟨parameters.width, parameters.height, parameters.bitrate,
    parameters.renderRotation, plan.window⟩, config.pipeline⟩

def Remade (source : Source) (times : List Int) (sound : Nat → List Sample)
    (tracks : List MuxedTrack) : Prop :=
  ∃ pictures rest, tracks = pictures :: rest ∧ pictures.isAudio = false ∧
    pictures.samples.map (·.time) = times ∧
    match source.tracks.findIdx? (·.isKind true) with
    | none => rest = []
    | some audio => ∃ format, source.tracks[audio]? = some format ∧
        rest = [⟨format, true, (sound audio).map Sample.muxed⟩]

/-- The tracks that come of a transcode of the pictures and of a copy of the sound from the first of
them on. -/
def Made (source : Source) (plan : TranscodePlan) (tracks : List MuxedTrack) : Prop :=
  let times := keptTimes plan source
  let window := Compression.audioWindow plan.window times.head?
  Remade source times (copiedSamples source · window) tracks

section
variable {config : Config} {options : Options} {encoders : List CodecInfo}
  {parameters : Parameters} {encoder : ResolvedEncoder} {library : Library} {audience : Audience}
  {disk : Disk} {patience : Nat} {source : Source} {path destination : Path} {video : Nat}
  {format : Format} {metadata : Metadata}

theorem run_openFile {entry : Entry} (readable : disk.look path = .ok entry) (storage : Storage)
    (bench : Bench) :
    (client (.openFile path)).run (Rig.world Bench.answer patience)
        (audience.desk storage bench disk) =
      (.ok (.ok ()), audience.desk storage bench disk) := by
  have answered : (audience.client disk).openFile path = .ok () := by
    unfold Client.openFile Audience.client
    rw [readable]
  have ran : (client (.openFile path)).run (Rig.world Bench.answer patience)
      (audience.desk storage bench disk) =
        (.ok ((audience.client disk).openFile path), audience.desk storage bench disk) := rfl
  rwa [answered] at ran

theorem run_prepare (configured : config.validate = .ok ()) (asked : options.validate = .ok ())
    (describes : Describes source video format metadata)
    (found : library.source? path = some source) {entry : Entry}
    (readable : disk.look path = .ok entry) (bench : Bench) :
    (compressing config path destination options).prepare.run (Rig.world Bench.answer patience)
        (audience.desk { library } bench disk) =
      (.ok metadata, audience.desk { library := library.reading source true } bench disk) := by
  unfold Compression.prepare
  dsimp only [compressing]
  rw [configured, run_after (run_settle_ok _ _ _), asked,
    run_after (run_settle_ok _ _ _), run_after (run_openFile readable _ _)]
  exact run_probeContainer found describes

theorem run_plan (feasible : Feasible config options metadata encoders parameters encoder)
    (storage : Storage) :
    ((compressing config path destination options).plan metadata).run
        (Rig.world Bench.answer patience)
        (audience.desk storage { catalog := .new encoders {} } disk) =
      (.ok ⟨parameters, some encoder, options.window.clamped metadata.duration⟩,
        audience.desk storage { catalog := .new encoders {} } disk) := by
  have told : (device .codecs).run (Rig.world Bench.answer patience)
      (audience.desk storage { catalog := .new encoders {} } disk) =
        (.ok (Catalog.new encoders {}).codecs,
          audience.desk storage { catalog := .new encoders {} } disk) := rfl
  have needed : (parameters.transcode &&
      !(options.window.clamped metadata.duration).isEmpty) = true := by
    rw [feasible.transcodes, feasible.lasting]
    rfl
  unfold Compression.plan
  dsimp only [compressing]
  rw [feasible.resolved, run_after (run_settle_ok _ _ _), if_pos needed, run_after told,
    feasible.selected]
  exact run_after (run_settle_ok _ _ _)

theorem Playable.transcodable (playable : Playable source video format metadata)
    (feasible : Feasible config options metadata encoders parameters encoder)
    (presents : PresentsTo encoder source video) (window : Window) :
    Transcodable source encoders
      (videoPlan config ⟨parameters, some encoder, window⟩ encoder ⟨video, false, format⟩) := by
  obtain ⟨width_pos, height_pos⟩ := size_pos_of_resolve feasible.resolved
  refine ⟨playable.built, ⟨format, metadata.width, metadata.height, playable.known, playable.avc,
    playable.width, playable.height, playable.width_pos, playable.height_pos⟩, width_pos,
    height_pos, ⟨_, _, feasible.selected⟩, fun time kept surface => ?_⟩
  obtain ⟨sample, own, rfl⟩ := exists_sample_of_keptTimes kept
  exact presents surface sample own

end

/-- Faultless codecs, and rounds enough for all samples of the source. -/
structure Backdrop.Serves (backdrop : Backdrop) (encoders : List CodecInfo) (source : Source) :
    Prop where
  codecs : backdrop.codecs = (Catalog.new encoders {}).codecs
  faults : backdrop.faults = {}
  patience : ∃ rig : Rig Bench, source.samples.length ≤ rig.sampleCount ∧
    backdrop.patience = rig.patienceFor {}

theorem Backdrop.Serves.patient {backdrop : Backdrop} {encoders : List CodecInfo} {source : Source}
    (serves : backdrop.Serves encoders source) : source.samples.length < backdrop.patience := by
  obtain ⟨rig, counted, patience⟩ := serves.patience
  rw [patience, Rig.patienceFor]
  omega

section
variable {source : Source} {faults : MuxerFaults} {stage : Stage}

theorem Resting.findTrack? (resting : Resting source faults stage) (isAudio : Bool) :
    stage.demuxer.findTrack? isAudio = source.tracks.findIdx? (·.isKind isAudio) := by
  unfold Demuxer.findTrack?
  rw [resting.reading]

theorem Resting.trackFormat (resting : Resting source faults stage) {index : Nat} {format : Format}
    (known : source.tracks[index]? = some format) :
    stage.demuxer.trackFormat index = .ok format := by
  unfold Demuxer.trackFormat
  rw [resting.reading, known]

end

section
variable {config : Config} {encoders : List CodecInfo} {source : Source} {path destination : Path}
  {options : Options} {plan : Plan} {encoder : ResolvedEncoder} {stage : Stage}
  {backdrop : Backdrop} {track : Track}

theorem writeVideo_reaches (chosen : plan.encoder = some encoder)
    (transcodable : Transcodable source encoders (videoPlan config plan encoder track))
    (serves : backdrop.Serves encoders source) (resting : Resting source {} stage)
    (empty : stage.muxer.movie.tracks = []) :
    ((compressing config path destination options).writeVideo plan track).Reaches backdrop.world
      (onBench (backdrop.desk stage) ⟨⟨backdrop.codecs, {}, {}⟩, none, none, none, none⟩)
      fun summary left =>
        let times := keptTimes (videoPlan config plan encoder track) source
        summary.firstVideoTime = times.head? ∧ ∃ after, left = backdrop.desk after ∧
          Transcoded source {} times after := by
  obtain ⟨rig, counted, patience⟩ := serves.patience
  have transcoded := transcode_leaves transcodable backdrop stage serves.codecs serves.faults rfl rfl
    rfl resting empty counted patience
  have none_lost : lostPictures (videoPlan config plan encoder track) {} = 0 := ite_self 0
  unfold Compression.writeVideo
  rw [chosen]
  refine reaches_bind (transcoded.imp fun outcome left leaves => ?_)
  obtain ⟨rfl, after, rfl, done⟩ := leaves
  unfold transcodeOutcome
  rw [none_lost, List.drop_zero] at *
  exact reaches_pure ⟨rfl, after, rfl, done⟩

theorem Transcoded.remade_of_silent {times : List Int} (done : Transcoded source {} times stage)
    (silent : source.tracks.findIdx? (·.isKind true) = none) (sound : Nat → List Sample) :
    Remade source times sound stage.muxer.movie.tracks := by
  obtain ⟨pictures, only, isVideo, shown⟩ := done.movie
  refine ⟨pictures, [], only, isVideo, shown, ?_⟩
  rw [silent]

theorem writeSound_reaches {times : List Int} (done : Transcoded source {} times stage)
    (built : source.Built) (serves : backdrop.Serves encoders source)
    (heard : source.tracks.findIdx? (·.isKind true) = some track.index)
    (known : source.tracks[track.index]? = some track.format) (isAudio : track.isAudio = true)
    {room : Nat} (sized : track.format.maxInputSize = some room) (window : Window) :
    (copyTrack track window false).Reaches backdrop.world (backdrop.desk stage) fun _ left =>
      ∃ after bench, left = onBench (backdrop.desk after) bench ∧ Resting source {} after ∧
        Remade source times (copiedSamples source · window) after.muxer.movie.tracks := by
  obtain ⟨pictures, only, isVideo, shown⟩ := done.movie
  have copied := copyTrack_reaches done.toResting built.hasRoom known sized serves.patient
    (backdrop.bench stage) window false
  refine copied.imp fun outcome left ends => ?_
  obtain ⟨-, after, rfl, resting, tracks⟩ := ends
  rw [only, isAudio] at tracks
  refine ⟨after, _, rfl, resting, pictures, _, tracks, isVideo, shown, ?_⟩
  rw [heard]
  exact ⟨track.format, known, rfl⟩

theorem writeTracks_reaches {video : Nat} {format : Format} (chosen : plan.encoder = some encoder)
    (lasting : plan.window.isEmpty = false)
    (first : source.tracks.findIdx? (·.isKind false) = some video)
    (known : source.tracks[video]? = some format)
    (transcodable : Transcodable source encoders
      (videoPlan config plan encoder ⟨video, false, format⟩))
    (sounds : ∀ audio, source.tracks.findIdx? (·.isKind true) = some audio →
      source.trackSamples audio ≠ [])
    (serves : backdrop.Serves encoders source) (resting : Resting source {} stage)
    (empty : stage.muxer.movie.tracks = []) :
    ((compressing config path destination options).writeTracks plan).Reaches backdrop.world
      (onBench (backdrop.desk stage) ⟨⟨backdrop.codecs, {}, {}⟩, none, none, none, none⟩)
      fun _ left => ∃ after bench, left = onBench (backdrop.desk after) bench ∧
        Resting source {} after ∧ Made source
          (videoPlan config plan encoder ⟨video, false, format⟩) after.muxer.movie.tracks := by
  have presents := presents_onBench backdrop stage
    ⟨⟨backdrop.codecs, {}, {}⟩, none, none, none, none⟩
  have pictures := @writeVideo_reaches config encoders source path destination options plan encoder
    stage backdrop ⟨video, false, format⟩ chosen transcodable serves resting empty
  have going : ¬plan.window.isEmpty = true := by simp [lasting]
  -- Both tracks are looked for before anything is written, while the source is still at rest.
  unfold Compression.writeTracks
  refine reaches_after (presents.videoTrack ((resting.findTrack? false).trans first) path) ?_
  refine reaches_after (presents.format video) (reaches_settle (resting.trackFormat known) ?_)
  refine reaches_after (presents.findTrack true) ?_
  rw [resting.findTrack? true]
  cases heard : source.tracks.findIdx? (·.isKind true) with
  | none =>
    refine reaches_after (run_pure none _ _) ?_
    dsimp only
    rw [if_neg going]
    refine reaches_bind (pictures.imp fun summary left written => ?_)
    obtain ⟨-, after, rfl, done⟩ := written
    exact reaches_pure ⟨after, backdrop.bench after, rfl, done.toResting,
      done.remade_of_silent heard _⟩
  | some audio =>
    obtain ⟨sound, room, sounding, sized⟩ :=
      transcodable.built.hasRoom.promises (sounds audio heard)
    refine reaches_after (presents.format audio) (reaches_settle (resting.trackFormat sounding) ?_)
    refine reaches_after (run_pure _ _ _) ?_
    dsimp only
    rw [if_neg going]
    refine reaches_bind (pictures.imp fun summary left written => ?_)
    obtain ⟨begins, after, rfl, done⟩ := written
    rw [begins]
    have copied := @writeSound_reaches encoders source after backdrop ⟨audio, true, sound⟩ _ done
      transcodable.built serves heard sounding rfl room sized
    refine reaches_bind ((copied _).imp fun outcome left ends => ?_)
    obtain ⟨last, bench, rfl, rested, remade⟩ := ends
    exact reaches_pure ⟨last, bench, rfl, rested, remade⟩

end

/-- What the writing of a destination finds and leaves alone: the source was looked into, and is
open once more. -/
def Backdrop.ofCompression (library : Library) (source : Source) (destination : Path)
    (encoders : List CodecInfo) (disk : Disk) (patience : Nat) : Backdrop where
  library := library
  older := { source, leaks := library.leaks, released := true } :: library.demuxers
  path := destination
  others := library.muxers
  codecs := (Catalog.new encoders {}).codecs
  faults := {}
  disk := disk
  patience := patience

def Stage.begun (library : Library) (source : Source) (settings : MovieSettings)
    (audience : Audience) : Stage :=
  { Stage.initial library source settings none with audience }

section
variable {config : Config} {options : Options} {encoders : List CodecInfo}
  {parameters : Parameters} {encoder : ResolvedEncoder} {library : Library}
  {disk : Disk} {patience : Nat} {source : Source} {path destination : Path} {video : Nat}
  {format : Format} {metadata : Metadata}

theorem run_createMovie (audience : Audience) (settings : MovieSettings) :
    (Work.storage (.createMovie destination settings)).run (Rig.world Bench.answer patience)
        (audience.desk { library := (library.reading source true).reading source false }
          { catalog := .new encoders {} } disk) =
      (.ok (.ok ()), onBench
        ((Backdrop.ofCompression library source destination encoders disk patience).desk
          (.begun library source settings audience)) { catalog := .new encoders {} }) := rfl

theorem run_finalize (backdrop : Backdrop) {stage : Stage} (accepts : stage.muxer.Accepts)
    (faultless : stage.muxer.faults = {}) (bench : Bench) :
    (Work.storage .finalize).run backdrop.world (onBench (backdrop.desk stage) bench) =
      (.ok (.ok ()), onBench (backdrop.desk { stage with muxer := { stage.muxer with
        movie := { stage.muxer.movie with
          finalizeCalls := stage.muxer.movie.finalizeCalls + 1, finalized := true } } }) bench) := by
  have ran : (Work.storage .finalize).run backdrop.world (onBench (backdrop.desk stage) bench) =
      (.ok stage.muxer.finalize.1,
        onBench (backdrop.desk { stage with muxer := stage.muxer.finalize.2 }) bench) := rfl
  rwa [accepts.finalize faultless] at ran

theorem resting_begun (faultless : library.faults = {}) (settings : MovieSettings)
    (audience : Audience) : Resting source {} (Stage.begun library source settings audience) := by
  have healthy : library.faults.failWriteAfter = none := by rw [faultless]
  exact ⟨rfl, rfl, rfl, ⟨rfl, healthy⟩, faultless⟩

def Stage.Finalized (stage : Stage) (source : Source) (plan : TranscodePlan) : Prop :=
  stage.muxer.movie.finalized = true ∧ Made source plan stage.muxer.movie.tracks

theorem writeDestination_reaches (playable : Playable source video format metadata)
    (feasible : Feasible config options metadata encoders parameters encoder)
    (presents : PresentsTo encoder source video)
    (faultless : library.faults = {}) {rig : Rig Bench}
    (counted : source.samples.length ≤ rig.sampleCount) (audience : Audience) :
    let plan : Plan := ⟨parameters, some encoder, options.window.clamped metadata.duration⟩
    ((compressing config path destination options).writeDestination plan).Reaches
      (Rig.world Bench.answer (rig.patienceFor {}))
      (audience.desk { library := (library.reading source true).reading source false }
        { catalog := .new encoders {} } disk)
      fun _ left => ∃ after bench, left = onBench ((Backdrop.ofCompression library source destination
          encoders disk (rig.patienceFor {})).desk after) bench ∧
        after.Finalized source (videoPlan config plan encoder ⟨video, false, format⟩) := by
  intro plan
  let settings : MovieSettings :=
    ⟨parameters.containerRotation, parameters.width, parameters.height⟩
  have resting : Resting source {} (Stage.begun library source settings audience) :=
    resting_begun faultless settings audience
  have serves : (Backdrop.ofCompression library source destination encoders disk
      (rig.patienceFor {})).Serves encoders source := ⟨rfl, rfl, rig, counted, rfl⟩
  have written := @writeTracks_reaches config encoders source path destination options plan encoder
    _ _ video format rfl feasible.lasting playable.first playable.known
    (playable.transcodable feasible presents plan.window)
    (fun audio heard => (playable.audible audio heard).sounds) serves resting rfl
  unfold Compression.writeDestination
  refine reaches_after (run_createMovie audience settings) (reaches_settle rfl ?_)
  refine reaches_bind (reaches_outcome (written.imp fun tracks left ends => ?_))
  obtain ⟨after, bench, rfl, rested, made⟩ := ends
  refine reaches_after (run_finalize _ rested.accepts rested.faults bench) ?_
  refine reaches_settle rfl (reaches_settle rfl (reaches_pure ⟨_, bench, rfl, rfl, made⟩))

theorem execute_reaches (playable : Playable source video format metadata)
    (feasible : Feasible config options metadata encoders parameters encoder)
    (presents : PresentsTo encoder source video)
    (found : library.source? path = some source) (faultless : library.faults = {}) {rig : Rig Bench}
    (counted : source.samples.length ≤ rig.sampleCount) (audience : Audience) :
    let plan : Plan := ⟨parameters, some encoder, options.window.clamped metadata.duration⟩
    ((compressing config path destination options).execute metadata).Reaches
      (Rig.world Bench.answer (rig.patienceFor {}))
      (audience.desk { library := library.reading source true } { catalog := .new encoders {} } disk)
      fun _ left => ∃ after bench, left = onBench ((Backdrop.ofCompression library source destination
          encoders disk (rig.patienceFor {})).desk after) bench ∧
        after.Finalized source (videoPlan config plan encoder ⟨video, false, format⟩) := by
  intro plan
  have again : (library.reading source true).source? path = some source := found
  unfold Compression.execute
  refine reaches_after (run_plan feasible _) ?_
  refine reaches_after (run_openSource again) (reaches_settle rfl ?_)
  have written := @writeDestination_reaches config options encoders parameters encoder library disk
    source path destination video format metadata playable feasible presents faultless rig counted audience
  refine reaches_bind (reaches_outcome (written.imp fun tracks left ends => ?_))
  obtain ⟨after, bench, rfl, finalized⟩ := ends
  have released : (Work.storage .releaseDemuxer).run (Rig.world Bench.answer (rig.patienceFor {}))
      (onBench ((Backdrop.ofCompression library source destination encoders disk
        (rig.patienceFor {})).desk after) bench) =
    (.ok (), onBench ((Backdrop.ofCompression library source destination encoders disk
      (rig.patienceFor {})).desk { after with demuxer := after.demuxer.release }) bench) := rfl
  exact reaches_after released (reaches_settle rfl (reaches_pure ⟨_, bench, rfl, finalized⟩))

theorem conclude_reaches (job : Compression (Rig Bench)) (metadata : Metadata)
    (parameters : Parameters) (tracks : TrackSummary) (audience : Audience) (storage : Storage)
    (bench : Bench) :
    (job.conclude metadata parameters tracks).Reaches (Rig.world Bench.answer patience)
      (audience.desk storage bench disk) fun _ left => left.outside.storage = storage := by
  unfold Compression.conclude
  generalize (if tracks.videoSamples = 0 then Outcome.emptyResult else .completed) = outcome
  obtain ⟨heard, told⟩ := audience.run_tell (.complete outcome)
  refine reaches_after told ?_
  dsimp only
  split
  next removes =>
    have removed : (client (.removeFile job.source)).run (Rig.world Bench.answer patience)
        (heard.desk storage bench disk) =
      (.ok (disk.remove job.source).1,
        heard.desk storage bench (disk.remove job.source).2) := rfl
    exact reaches_after removed (reaches_pure rfl)
  next keeps => exact reaches_after (run_pure false _ _) (reaches_pure rfl)

theorem run_reaches (playable : Playable source video format metadata)
    (feasible : Feasible config options metadata encoders parameters encoder)
    (presents : PresentsTo encoder source video)
    (found : library.source? path = some source) (faultless : library.faults = {}) {entry : Entry}
    (readable : disk.look path = .ok entry) {rig : Rig Bench}
    (counted : source.samples.length ≤ rig.sampleCount) (audience : Audience) :
    let plan : Plan := ⟨parameters, some encoder, options.window.clamped metadata.duration⟩
    (compressing config path destination options).run.Reaches
      (Rig.world Bench.answer (rig.patienceFor {}))
      (audience.desk { library } { catalog := .new encoders {} } disk)
      fun _ left => ∃ movie, left.outside.storage.library.movie? destination = some movie ∧
        movie.finalized = true ∧
        Made source (videoPlan config plan encoder ⟨video, false, format⟩) movie.tracks := by
  intro plan
  let world := Rig.world Bench.answer (rig.patienceFor {})
  let job : Compression (Rig Bench) := compressing config path destination options
  let shown (audience : Audience) (library : Library) : Desk (Rig Bench) :=
    audience.desk { library } { catalog := .new encoders {} } disk
  have prepared : job.prepare.run world (shown audience library) =
      (.ok metadata, shown audience (library.reading source true)) :=
    run_prepare feasible.configured feasible.asked playable.toDescribes found readable _
  unfold Compression.run
  refine reaches_after (run_outcome_ok prepared) ?_
  let listening : Audience := { audience with reporter := some (.new metadata.duration) }
  have listened : (Compression.listen metadata.duration).run world
      (shown audience (library.reading source true)) =
    (.ok (), shown listening (library.reading source true)) := rfl
  refine reaches_after listened ?_
  obtain ⟨heard, told⟩ := listening.run_tell (.report 0)
  refine reaches_after told ?_
  have executed := @execute_reaches config options encoders parameters encoder library disk source
    path destination video format metadata playable feasible presents found faultless rig counted heard
  refine reaches_bind (reaches_outcome (executed.imp fun answer left ends => ?_))
  obtain ⟨after, bench, rfl, finalized, made⟩ := ends
  refine (conclude_reaches job metadata answer.1 answer.2 _ _ _).imp fun report left same => ?_
  refine ⟨after.muxer.movie, ?_, finalized, made⟩
  rw [same]
  exact Backdrop.movie?_storage _ after

end

/-- Where the sound begins that goes with pictures from the time on: with the last of its samples
that is not later, or else with the first. -/
def soundStart (samples : List Sample) (time : Int) : Int :=
  ((previous? samples time).map (·.time)).getD time

section
variable {config : Config} {options : Options} {encoders : List CodecInfo}
  {parameters : Parameters} {encoder : ResolvedEncoder} {library : Library} {disk : Disk}
  {source : Source} {path : Path} {video : Nat} {format : Format} {metadata : Metadata}

theorem Remade.congr {times : List Int} {sound other : Nat → List Sample} {tracks : List MuxedTrack}
    (remade : Remade source times sound tracks)
    (same : ∀ audio, source.tracks.findIdx? (·.isKind true) = some audio →
      sound audio = other audio) : Remade source times other tracks := by
  obtain ⟨pictures, rest, both, isVideo, shown, heard⟩ := remade
  refine ⟨pictures, rest, both, isVideo, shown, ?_⟩
  cases found : source.tracks.findIdx? (·.isKind true) with
  | none =>
    rw [found] at heard
    exact heard
  | some audio =>
    rw [found] at heard
    dsimp only
    rwa [← same audio found]

theorem keptTimes_compression (playable : Playable source video format metadata)
    {plan : TranscodePlan} (track : plan.track.index = video)
    (window : plan.window = options.window.clamped metadata.duration) :
    keptTimes plan source =
      ((source.trackSamples video).map (·.time)).filter (options.window.Spans ·) := by
  subst track
  rw [keptTimes_eq playable.rises playable.sync fun sample member =>
    (playable.within sample member).1]
  refine List.filter_congr fun time member => ?_
  obtain ⟨sample, own, rfl⟩ := List.mem_map.mp member
  obtain ⟨nonneg, inside⟩ := playable.within sample own
  rw [window, Window.admits_clamped nonneg inside]

theorem copiedSamples_compression {audio : Nat} (audible : Audible source audio) {window : Window}
    (nonneg : 0 ≤ window.start) :
    copiedSamples source audio window = (source.trackSamples audio).filter fun sample =>
      (⟨soundStart (source.trackSamples audio) window.start, window.stop?⟩ : Window).Spans
        sample.time := by
  obtain ⟨first, rest, samples⟩ := List.exists_cons_of_ne_nil audible.sounds
  obtain ⟨start, found⟩ :
      ∃ start, previous? (source.trackSamples audio) window.start = some start := by
    rw [← Option.isSome_iff_exists, previous?, samples]
    simp
  have begins : soundStart (source.trackSamples audio) window.start = start.time := by
    rw [soundStart, found]
    rfl
  rw [begins]
  exact copiedSamples_eq audible.rises audible.keys audible.whole
    (by rwa [Window.seekTarget_of_nonneg nonneg])

theorem samples_le_of_mem {entry : Path × Source} (registered : entry ∈ library.sources)
    (bench : Bench) (client : Client) :
    entry.2.samples.length ≤ (⟨{ library }, bench, client⟩ : Rig Bench).sampleCount := by
  have counted : entry.2.samples.length ∈ library.sources.map (·.2.samples.length) :=
    List.mem_map.mpr ⟨entry, registered, rfl⟩
  rw [Rig.sampleCount, List.length_flatMap]
  exact Nat.le_trans (List.le_sum_of_mem counted) (Nat.le_add_right _ _)

theorem samples_le_of_source? (found : library.source? path = some source) (bench : Bench)
    (client : Client) :
    source.samples.length ≤ (⟨{ library }, bench, client⟩ : Rig Bench).sampleCount := by
  obtain ⟨entry, registered, rfl⟩ := Option.map_eq_some_iff.mp found
  exact samples_le_of_mem (List.mem_of_find?_eq_some registered) bench client

theorem Trial.compression_run (rig : Rig Bench) (job : {σ : Type} → Compression σ) :
    Trial.compression rig false false job =
      let ran := (job : Compression (Rig Bench)).run.run
        (Rig.world Bench.answer (rig.patienceFor rig.device.catalog.faults)) { outside := rig }
      ⟨ran.1, [], ran.2.outside⟩ := rfl

theorem Trial.compression_eq {rig : Rig Bench} {job : {σ : Type} → Compression σ} {report : Report}
    {left : Desk (Rig Bench)}
    (ran : (job : Compression (Rig Bench)).run.run
        (Rig.world Bench.answer (rig.patienceFor rig.device.catalog.faults)) { outside := rig } =
      (.ok report, left)) :
    Trial.compression rig false false job = ⟨.ok report, [], left.outside⟩ := by
  rw [compression_run, ran]

/-- A compression succeeds and its destination holds exactly the pictures between the start and the
end that were asked for, followed, if there is sound, by the sound from the first of them on. -/
theorem Trial.compression_trims (playable : Playable source video format metadata)
    (feasible : Feasible config options metadata encoders parameters encoder)
    (presents : PresentsTo encoder source video)
    (found : library.source? path = some source) (faultless : library.faults = {}) {entry : Entry}
    (readable : disk.look path = .ok entry) (destination : Path) :
    let rig : Rig Bench := ⟨{ library }, { catalog := .new encoders {} }, .new none none disk⟩
    let trial := Trial.compression rig false false (compressing config path destination options)
    let window := options.window.clamped metadata.duration
    let times := ((source.trackSamples video).map (·.time)).filter (options.window.Spans ·)
    let sound (audio : Nat) := (source.trackSamples audio).filter fun sample =>
      (⟨soundStart (source.trackSamples audio) (times.head?.getD window.start), window.stop?⟩ :
        Window).Spans sample.time
    (∃ report, trial.result = .ok report) ∧
      ∃ movie, trial.rig.storage.library.movie? destination = some movie ∧
        movie.finalized = true ∧ Remade source times sound movie.tracks := by
  intro rig trial window times sound
  have counted : source.samples.length ≤ rig.sampleCount := samples_le_of_source? found _ _
  let job : Compression (Rig Bench) := compressing config path destination options
  have reaches : job.run.Reaches (Rig.world Bench.answer (rig.patienceFor {}))
      { outside := rig } _ :=
    run_reaches playable feasible presents found faultless readable counted ⟨none, false, [], 0⟩
  obtain ⟨report, left, ran, movie, written, finalized, made⟩ := reaches
  have done : trial = ⟨.ok report, [], left.outside⟩ := Trial.compression_eq ran
  rw [done]
  refine ⟨⟨report, rfl⟩, movie, written, finalized, ?_⟩
  unfold Made at made
  rw [keptTimes_compression playable rfl rfl] at made
  refine Remade.congr made fun audio heard => ?_
  -- A start before zero would be sought at zero, and so would not be where the sound begins.
  have nonneg : 0 ≤ times.head?.getD window.start := by
    cases first : times.head? with
    | none => exact Window.start_clamped_nonneg playable.lasting
    | some time =>
      obtain ⟨stored, -⟩ := List.mem_filter.mp (List.mem_of_head? first)
      obtain ⟨sample, own, rfl⟩ := List.mem_map.mp stored
      exact (playable.within sample own).1
  exact copiedSamples_compression (playable.audible audio heard) nonneg

end

/-- Four pictures, of which the first is a key frame, and four pieces of sound. -/
def briefMovie : Source :=
  (((({} : Source).addTrack { Format.video videoAvc 4 2 with duration := some 100000 }).addTrack
    (.audio audioAac 44100 2)).addSamples
    [⟨0, 0, .keyFrame, #[1]⟩, ⟨1, 5000, .keyFrame, #[5]⟩, ⟨1, 25000, .keyFrame, #[6]⟩,
      ⟨0, 40000, .none, #[2]⟩, ⟨1, 50000, .keyFrame, #[7]⟩, ⟨0, 60000, .none, #[3]⟩,
      ⟨1, 80000, .keyFrame, #[8]⟩, ⟨0, 90000, .none, #[4]⟩]).1

theorem briefMovie_playable :
    Playable briefMovie 0
      { Format.video videoAvc 4 2 with duration := some 100000, maxInputSize := some 1 }
      ⟨4, 2, .deg0, 100000⟩ where
  first := by decide +kernel
  known := rfl
  width := rfl
  height := rfl
  rotation := rfl
  duration := rfl
  built := ((Source.Built.empty.track _).track _).addSamples _
  avc := rfl
  width_pos := by decide
  height_pos := by decide
  lasting := by decide
  rises := by unfold Source.Rises; decide
  sync := .inr fun first found => by cases found; rfl
  within := by decide
  audible audio heard := by
    have second : briefMovie.tracks.findIdx? (·.isKind true) = some 1 := by decide +kernel
    rw [second] at heard
    cases heard
    exact ⟨by decide, by decide, by decide, by unfold Source.Rises; decide⟩

theorem briefMovie_presentable :
    ∀ sample ∈ briefMovie.trackSamples 0, Presentable sample.time := by
  decide

/-- Its middle, enlarged. -/
def briefOptions : Options :=
  { width := some 8, height := some 4, start := some 30000, stop := some 80000 }

theorem briefOptions_feasible (name : String) :
    Feasible {} briefOptions ⟨4, 2, .deg0, 100000⟩ [.encoder name videoAvc [.surface]]
      ⟨8, 4, 4000000, .deg0, .deg0, true⟩
      ⟨.encoder name videoAvc [.surface], .surface (.ofCodecName name) 8 4⟩ where
  configured := by decide +kernel
  asked := rfl
  resolved := rfl
  transcodes := rfl
  selected := by
    unfold resolve
    rw [select?_sole]
    rfl
  lasting := rfl

/-- Its pictures begin at 40000, and its sound with the piece at 25000. -/
theorem compression_trims_brief :
    let codec := CodecInfo.encoder "OMX.qcom.video.encoder.avc" videoAvc [.surface]
    let trial := Trial.compression
      ⟨{ library := ({} : Library).insert "in" briefMovie }, { catalog := .new [codec] {} },
        .new none none { kept := some ("in", .file #[]) }⟩
      false false (compressing {} "in" "out" briefOptions)
    (∃ report, trial.result = .ok report) ∧
      ∃ movie, trial.rig.storage.library.movie? "out" = some movie ∧ movie.finalized = true ∧
        movie.tracks.map (fun track => (track.isAudio, track.samples.map (·.time))) =
          [(false, [40000, 60000]), (true, [25000, 50000])] := by
  intro codec trial
  have same : Path.same "in" "in" = true := beq_self_eq_true _
  have found : (({} : Library).insert "in" briefMovie).source? "in" = some briefMovie := by
    simp [Library.source?, Library.insert, same]
  have readable : ({ kept := some ("in", .file #[]) } : Disk).look "in" = .ok (.file #[]) := by
    simp [Disk.look, same]
  obtain ⟨done, movie, written, finalized, pictures, rest, tracks, isVideo, times, heard⟩ :=
    Trial.compression_trims briefMovie_playable (briefOptions_feasible codec.name)
      (fun _ => briefMovie_presentable) found rfl readable "out"
  have second : briefMovie.tracks.findIdx? (·.isKind true) = some 1 := by decide +kernel
  rw [second] at heard
  obtain ⟨format, -, rfl⟩ := heard
  refine ⟨done, movie, written, finalized, ?_⟩
  rw [tracks, List.map_cons, isVideo, times]
  rfl

end Recode.Simulation
