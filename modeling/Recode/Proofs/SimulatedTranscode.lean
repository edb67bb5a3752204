import Recode.Proofs.Copying
import Recode.Proofs.CourseRun
import Recode.Proofs.Opening
import Recode.Simulation.Trial

/-!
Transcodes on a simulated rig. A transcode takes the pictures of its track from the sync point at or
before its window, and all of them that the window keeps come out of the encoder and into the movie,
in order. Codecs that stutter, or ask to be tried again, change nothing about that, except that a
raw encoder without room loses the first of the pictures, which are counted.
-/

namespace Recode.Simulation
open Recode.Media Recode.Container Recode.Device Recode.Picture Recode.Progress Recode.Session
open Recode.Session.Work

/-- The times of the pictures that a transcode of the source is to keep: those of the track's
samples in the order in which they are stored, from the landing of the seek on. -/
def keptTimes (plan : TranscodePlan) (source : Source) : List Int :=
  let landing := Demuxer.landing source plan.track.index plan.window.seekTarget .previousSync
  plan.window.kept
    (((source.samples.drop landing).filter (·.track = plan.track.index)).map (·.time))

theorem exists_sample_of_keptTimes {plan : TranscodePlan} {source : Source} {time : Int}
    (kept : time ∈ keptTimes plan source) :
    ∃ sample ∈ source.trackSamples plan.track.index, sample.time = time := by
  have shown := (List.takeWhile_sublist _).subset (List.mem_filter.mp kept).1
  obtain ⟨sample, ahead, time⟩ := List.mem_map.mp shown
  obtain ⟨later, own⟩ := List.mem_filter.mp ahead
  exact ⟨sample, List.mem_filter.mpr ⟨List.mem_of_mem_drop later, own⟩, time⟩

/-- A track of AVC video, a request that is not empty, and an encoder resolved for it, which can be
told the times of the pictures. -/
structure Transcodable (source : Source) (encoders : List CodecInfo) (plan : TranscodePlan) :
    Prop where
  built : source.Built
  track : ∃ format width height, source.tracks[plan.track.index]? = some format ∧
    format.mime = videoAvc ∧ format.width = some width ∧ format.height = some height ∧
    0 < width ∧ 0 < height
  width_pos : 0 < plan.request.width
  height_pos : 0 < plan.request.height
  resolved : ∃ platform mime, resolve (Catalog.new encoders {}).codecs platform mime
    plan.request.width plan.request.height = .ok plan.encoder
  presents : ∀ time ∈ keptTimes plan source, plan.Presents time

/-- The rig of one session: its source and its movie are open, and its client neither cancels nor
breaks down. -/
def Rig.forSession (library : Library) (source : Source) (settings : MovieSettings)
    (encoders : List CodecInfo) (faults : CodecFaults) (disk : Disk) : Rig Bench :=
  ⟨({ library } : Storage).opened source settings, { catalog := .new encoders faults },
    .new none none disk⟩

/-- The trial succeeds: frames of these times, and no others, come out of the encoder and into the
movie's one track, and are counted, as are the pictures dropped. -/
structure Trial.Yields (trial : Trial Bench TranscodeOutcome) (times : List Int) (dropped : Nat) :
    Prop where
  result : trial.result = .ok
    { destination := 0
      firstTime := times.head?
      rendered := times.length
      dropped
      written := times.length }
  frames : trial.rig.device.catalog.log.encoderFrames = times
  movie : ∃ movie track, trial.rig.movie? = some movie ∧ movie.tracks = [track] ∧
    track.isAudio = false ∧ track.samples.map (·.time) = times

theorem Storage.opened_eq (library : Library) (source : Source) (settings : MovieSettings) :
    ({ library } : Storage).opened source settings = { library := { library.insert sessionPath source with
      demuxers := { source, leaks := library.leaks } :: library.demuxers
      muxers := (sessionPath, .new settings library.faults) :: library.muxers } } := by
  have same : Path.same sessionPath sessionPath = true := beq_self_eq_true _
  have registered : ((library.insert sessionPath source).createMovie sessionPath
      settings).source? sessionPath = some source := by
    simp [Library.source?, Library.createMovie, Library.insert, same]
  unfold Storage.opened Library.openSource
  simp only [registered]
  rfl

def Backdrop.ofSession (library : Library) (source : Source) (codecs : List CodecInfo)
    (faults : CodecFaults) (disk : Disk) (patience : Nat) : Backdrop where
  library := library.insert sessionPath source
  older := library.demuxers
  path := sessionPath
  others := library.muxers
  codecs := codecs
  faults := faults
  disk := disk
  patience := patience

def Stage.initial (library : Library) (source : Source) (settings : MovieSettings)
    (reporter : Option Reporter) : Stage where
  demuxer := { source, leaks := library.leaks }
  muxer := .new settings library.faults
  decoder := default
  encoder := default
  surface := none
  transform := default
  log := {}
  reads := 0
  adds := 0
  writes := 0
  audience := ⟨reporter, false, [], 0⟩

theorem desk_forSession (library : Library) (source : Source) (settings : MovieSettings)
    (encoders : List CodecInfo) (faults : CodecFaults) (disk : Disk) (patience : Nat)
    (reporter : Option Reporter) :
    ({ reporter, outside := .forSession library source settings encoders faults disk } :
      Desk (Rig Bench)) =
      onBench ((Backdrop.ofSession library source (Catalog.new encoders faults).codecs faults disk
        patience).desk (.initial library source settings reporter))
        ⟨⟨(Catalog.new encoders faults).codecs, faults, {}⟩, none, none, none, none⟩ := by
  unfold Rig.forSession
  rw [Storage.opened_eq]
  rfl

section
variable (backdrop : Backdrop) (stage : Stage)

theorem run_trackFormat (index : Nat) (bench : Bench) :
    (Work.storage (.trackFormat index)).run backdrop.world (onBench (backdrop.desk stage) bench) =
      (.ok (stage.demuxer.trackFormat index), onBench (backdrop.desk stage) bench) := rfl

end

/-- A raw encoder has no room for as many of the first pictures as it has to be asked again. -/
def lostPictures (plan : TranscodePlan) (faults : CodecFaults) : Nat :=
  if plan.surfaceInput then 0 else faults.encoderInputTryAgain

def Course.ofSession (plan : TranscodePlan) (source : Source) (faults : CodecFaults)
    (muxing : MuxerFaults) (capacity : Nat) : Course where
  plan := plan
  source := source
  faults := muxing
  capacity := capacity
  lost := lostPictures plan faults
  whole := keptTimes plan source

section
variable {plan : TranscodePlan} {source : Source} {faults : CodecFaults}

theorem fits_of_built (built : source.Built) {track : Nat} {format : Format}
    (found : source.tracks[track]? = some format) {sample : Sample}
    (member : sample ∈ source.samples) (own : sample.track = track) :
    sample.data.size ≤ format.maxInputSize.getD Decoder.defaultInputCapacity := by
  obtain ⟨other, room, known, promised, fits⟩ := built.hasRoom sample member
  rw [own, found] at known
  cases known
  rwa [promised]

theorem follows_opened {stage : Stage} {capacity : Nat} {muxing : MuxerFaults}
    (reads : stage.demuxer.Reads plan.track.index) (reading : stage.demuxer.source = source)
    (ahead : (stage.demuxer.upcoming.filter (·.track = plan.track.index)).map (·.time) =
      ((source.samples.drop (Demuxer.landing source plan.track.index plan.window.seekTarget
        .previousSync)).filter (·.track = plan.track.index)).map (·.time))
    (room : ∀ sample ∈ stage.demuxer.upcoming, sample.track = plan.track.index →
      sample.data.size ≤ capacity)
    (decoder : stage.decoder.Idle capacity) (fresh : stage.decoder.pending = [])
    {name : String} {format : Format}
    (encoder : stage.encoder = .opened name faults format plan.request.width plan.request.height
      plan.surfaceInput)
    (healthy : faults.failEncoderAfter = none)
    (surface : plan.surfaceInput = true → ∃ surface, stage.surface = some surface ∧
      surface.Takes plan.request.width plan.request.height)
    (transform : stage.transform = { spec := ⟨plan.request.width, plan.request.height,
      plan.request.rotation, plan.surfaceInput⟩, patience := 0 })
    (convertible : Convertible plan) (accepts : stage.muxer.Accepts)
    (told : stage.muxer.faults = muxing)
    (empty : stage.muxer.movie.tracks = []) (noFrames : stage.log.encoderFrames = [])
    (presents : ∀ time ∈ keptTimes plan source, plan.Presents time) :
    (Course.ofSession plan source faults muxing capacity).Follows [] [] [] {} stage := by
  refine ⟨⟨reads, reading, room, decoder, ?_, ?_, surface, ?_, ?_, ?_, convertible, accepts, told, presents⟩,
    ⟨fun _ => rfl, fun _ => ?_, fun _ => ?_, nofun, nofun⟩,
    ⟨?_, ?_, ?_, ?_, ?_, ?_⟩, ⟨rfl, nofun, fun _ => ?_, nofun, nofun, ?_, rfl⟩, ?_⟩
  · rw [encoder]
    exact Encoder.idle_opened name healthy format _ _ _
  · rw [encoder]
    rfl
  · rw [transform]
  · rw [transform]
    rfl
  · rw [transform]
    rfl
  · show keptTimes plan source = _
    unfold keptTimes Course.ahead
    rw [List.nil_append, List.nil_append]
    exact (congrArg plan.window.kept ahead).symm
  · exact fresh
  · rw [noFrames]
    exact List.drop_nil.symm
  · rw [noFrames]
    rfl
  · exact (Nat.min_zero _).symm
  · rw [noFrames]
    rfl
  · intro raw _
    have raw : plan.surfaceInput = false := raw
    rw [encoder]
    show faults.encoderInputTryAgain = (if plan.surfaceInput then 0 else _) - 0
    simp [raw]
  · intro onSurface
    exact if_pos onSurface
  · rw [encoder, noFrames]
    rfl
  · unfold Course.Muxed
    rw [encoder]
    exact ⟨rfl, empty, rfl⟩
  · rw [transform]

theorem effort_opened_lt {stage : Stage} {decoderName encoderName : String}
    {width height capacity : Nat} {format : Format}
    (decoder : stage.decoder = .opened decoderName faults width height capacity)
    (encoder : stage.encoder = .opened encoderName faults format plan.request.width
      plan.request.height plan.surfaceInput) {rig : Rig Bench}
    (counted : stage.demuxer.source.samples.length ≤ rig.sampleCount) :
    effort {} stage < rig.patienceFor faults := by
  have ahead := stage.demuxer.length_upcoming_le
  have pause := respite_le {} stage.decoder
  have decoding : decoding {} = 0 := rfl
  have encoding : encoding {} = 0 := rfl
  have decoderLoad : stage.decoder.load = 6 * faults.decoderTryAgain + 2 := by
    rw [decoder]
    simp only [Decoder.load, Decoder.opened, Decoder.prepared, Decoder.new, List.length_nil,
      Bool.false_eq_true, if_false]
    omega
  have encoderLoad : stage.encoder.load =
      3 * faults.encoderInputTryAgain + 3 * faults.encoderOutputTryAgain + 1 := by
    rw [encoder]
    simp only [Encoder.load, Encoder.opened, Encoder.prepared, Encoder.new, List.length_nil,
      Bool.false_eq_true, if_false]
    omega
  simp only [effort, load, decoderLoad, encoderLoad, decoding, encoding, Rig.patienceFor,
    Bool.false_eq_true, if_false, if_true]
  omega

theorem runSelected_leaves {encoders : List CodecInfo}
    (transcodable : Transcodable source encoders plan) {backdrop : Backdrop}
    (codecs : backdrop.codecs = (Catalog.new encoders faults).codecs)
    (same : backdrop.faults = faults) (creatable : faults.failEncoderCreation = false)
    (decodes : faults.failDecoderAfter = none) (encodes : faults.failEncoderAfter = none)
    {stage : Stage} (reads : stage.demuxer.Reads plan.track.index)
    (reading : stage.demuxer.source = source) (accepts : stage.muxer.Accepts)
    (empty : stage.muxer.movie.tracks = []) {rig : Rig Bench}
    (counted : source.samples.length ≤ rig.sampleCount)
    (patience : backdrop.patience = rig.patienceFor faults) :
    ∃ capacity, plan.runSelected.Reaches backdrop.world
      (onBench (backdrop.desk stage) ⟨⟨backdrop.codecs, faults, {}⟩, none, none, none, none⟩)
      fun outcome left =>
        outcome = (Course.ofSession plan source faults stage.muxer.faults capacity).result ∧
        (Course.ofSession plan source faults stage.muxer.faults capacity).Leaves backdrop
          ((keptTimes plan source).drop (lostPictures plan faults)) left := by
  obtain ⟨format, width, height, found, avc, width_eq, height_eq, width_pos, height_pos⟩ :=
    transcodable.track
  obtain ⟨platform, mime, resolved⟩ := transcodable.resolved
  obtain ⟨member, isEncoder⟩ := resolve_mem resolved
  have source_eq : (stage.demuxer.seek plan.window.seekTarget .previousSync).source = source :=
    (Demuxer.source_seek _ _ _).trans reading
  refine ⟨format.maxInputSize.getD Decoder.defaultInputCapacity, ?_⟩
  unfold TranscodePlan.runSelected
  refine reaches_after (backdrop.run_seek_onBench stage _ _ _) (reaches_settle rfl ?_)
  refine reaches_after (run_trackFormat backdrop { stage with
    demuxer := stage.demuxer.seek plan.window.seekTarget .previousSync } _ _) ?_
  refine reaches_settle ?_ (reaches_bind ((openCodecs_reaches codecs creatable
    (codecs ▸ member) isEncoder rfl transcodable.width_pos transcodable.height_pos avc width_eq
    height_eq).imp fun _ left opened => ?_))
  · unfold Demuxer.trackFormat
    rw [source_eq, found]
  obtain ⟨_, rfl, decoderName, encoderName, encoderFormat, surface, log, rfl, noFrames, takes⟩ :=
    opened
  subst same
  let opened : Stage := { stage with
    demuxer := stage.demuxer.seek plan.window.seekTarget .previousSync
    decoder := .opened decoderName backdrop.faults width height
      (format.maxInputSize.getD Decoder.defaultInputCapacity)
    encoder := .opened encoderName backdrop.faults encoderFormat plan.request.width
      plan.request.height plan.surfaceInput
    surface
    transform := { spec := ⟨plan.request.width, plan.request.height, plan.request.rotation,
      plan.surfaceInput⟩, patience := 0 }
    log }
  have ahead := reads.own_seek plan.window.seekTarget .previousSync
  rw [reading] at ahead
  have started : (Course.ofSession plan source backdrop.faults stage.muxer.faults
      (format.maxInputSize.getD Decoder.defaultInputCapacity)).Follows [] [] [] {} opened := by
    refine follows_opened (reads.seek _ _) source_eq (congrArg (List.map (·.time)) ahead) ?_
      (Decoder.idle_opened decoderName decodes width_pos height_pos _) rfl rfl encodes takes rfl
      (.of_resolve resolved) accepts rfl empty noFrames transcodable.presents
    intro sample member own
    have stored := Demuxer.mem_of_upcoming member
    rw [source_eq] at stored
    exact fits_of_built transcodable.built found stored own
  have enough : effort {} opened < backdrop.patience := by
    rw [patience]
    exact effort_opened_lt rfl rfl (by rw [source_eq]; exact counted)
  exact Course.driven_leaves started enough

structure Transcoded (source : Source) (muxing : MuxerFaults) (times : List Int) (stage : Stage) :
    Prop extends Resting source muxing stage where
  frames : stage.log.encoderFrames = times
  movie : ∃ track, stage.muxer.movie.tracks = [track] ∧ track.isAudio = false ∧
    track.samples.map (·.time) = times

def transcodeOutcome (plan : TranscodePlan) (source : Source) (faults : CodecFaults) :
    TranscodeOutcome :=
  let frames := (keptTimes plan source).drop (lostPictures plan faults)
  ⟨0, frames.head?, frames.length, min (lostPictures plan faults) (keptTimes plan source).length,
    frames.length⟩

theorem transcode_leaves {encoders : List CodecInfo}
    (transcodable : Transcodable source encoders plan) (backdrop : Backdrop) (stage : Stage)
    (codecs : backdrop.codecs = (Catalog.new encoders faults).codecs)
    (same : backdrop.faults = faults) (creatable : faults.failEncoderCreation = false)
    (decodes : faults.failDecoderAfter = none) (encodes : faults.failEncoderAfter = none)
    {muxing : MuxerFaults} (resting : Resting source muxing stage)
    (empty : stage.muxer.movie.tracks = []) {rig : Rig Bench}
    (counted : source.samples.length ≤ rig.sampleCount)
    (patience : backdrop.patience = rig.patienceFor faults) :
    (transcode plan).Reaches backdrop.world
      (onBench (backdrop.desk stage) ⟨⟨backdrop.codecs, faults, {}⟩, none, none, none, none⟩)
      fun outcome left =>
        outcome = transcodeOutcome plan source faults ∧ ∃ after, left = backdrop.desk after ∧
          Transcoded source muxing
            ((keptTimes plan source).drop (lostPictures plan faults)) after := by
  obtain ⟨format, -, -, found, -⟩ := transcodable.track
  have inside : plan.track.index < source.tracks.length := (List.getElem?_eq_some_iff.mp found).1
  obtain ⟨granted, reads, reading⟩ := resting.select inside
  obtain ⟨capacity, reaches⟩ := @runSelected_leaves plan source faults encoders transcodable backdrop
    codecs same creatable decodes encodes
    { stage with demuxer := (stage.demuxer.select plan.track.index).2 } reads reading
    resting.accepts empty rig counted patience
  unfold transcode
  refine reaches_after (backdrop.run_select_onBench stage _ plan.track.index) (reaches_settle granted ?_)
  refine reaches_bind (reaches_outcome (reaches.imp fun outcome left leaves => ?_))
  obtain ⟨result, after, rfl, complete⟩ := leaves
  exact reaches_after
    (backdrop.run_unselect_onBench after (backdrop.bench after) plan.track.index)
    ⟨outcome, _, run_settle_ok _ _ _, result, _, rfl, .of_unselect complete.reads complete.reading
      inside complete.accepts (complete.faults.trans resting.faults), complete.frames,
      complete.movie⟩

theorem Trial.transcode_eq {rig : Rig Bench} {reporter : Option Reporter} {outcome : TranscodeOutcome}
    {left : Desk (Rig Bench)}
    (ran : (Session.transcode plan).run
        (Rig.world Bench.answer (rig.patienceFor rig.device.catalog.faults))
        { reporter, outside := rig } = (.ok outcome, left)) :
    Trial.transcode rig reporter plan = ⟨.ok outcome, [], left.outside⟩ := by
  unfold Trial.transcode Trial.of Trial.begin
  simp only [Bool.false_eq_true, if_false, ran]

theorem opened_forSession (library : Library) (source : Source) (settings : MovieSettings)
    (encoders : List CodecInfo) (faults : CodecFaults) (disk : Disk) :
    (Rig.forSession library source settings encoders faults disk).storage.library.demuxers.head? =
      some { source, leaks := library.leaks } := by
  unfold Rig.forSession
  rw [Storage.opened_eq]
  rfl

theorem samples_le_of_opened {rig : Rig Bench} {demuxer : Demuxer}
    (opened : rig.storage.library.demuxers.head? = some demuxer) :
    demuxer.source.samples.length ≤ rig.sampleCount := by
  obtain ⟨older, same⟩ := List.head?_eq_some_iff.mp opened
  unfold Rig.sampleCount
  dsimp only
  rw [same, List.flatMap_cons, List.length_append]
  omega

theorem samples_le_sampleCount (library : Library) (source : Source) (settings : MovieSettings)
    (encoders : List CodecInfo) (faults : CodecFaults) (disk : Disk) :
    source.samples.length ≤
      (Rig.forSession library source settings encoders faults disk).sampleCount :=
  samples_le_of_opened (opened_forSession library source settings encoders faults disk)

/-- Whatever the codecs do to delay a transcode, all that the window keeps is written, apart from
the first pictures for which a raw encoder has no room. -/
theorem Trial.transcode_yields {encoders : List CodecInfo}
    (transcodable : Transcodable source encoders plan) {library : Library}
    (writable : library.faults.failWriteAfter = none) (creatable : faults.failEncoderCreation = false)
    (decodes : faults.failDecoderAfter = none) (encodes : faults.failEncoderAfter = none)
    (settings : MovieSettings) (disk : Disk) (reporter : Option Reporter) :
    (Trial.transcode (.forSession library source settings encoders faults disk) reporter
      plan).Yields
        ((keptTimes plan source).drop (if plan.surfaceInput then 0 else faults.encoderInputTryAgain))
        (min (if plan.surfaceInput then 0 else faults.encoderInputTryAgain)
          (keptTimes plan source).length) := by
  let rig : Rig Bench := .forSession library source settings encoders faults disk
  have counted := samples_le_sampleCount library source settings encoders faults disk
  have started := desk_forSession library source settings encoders faults disk
    (rig.patienceFor faults) reporter
  obtain ⟨outcome, left, ran, result, stage, rfl, done⟩ :=
    transcode_leaves transcodable
      (.ofSession library source (Catalog.new encoders faults).codecs faults disk
        (rig.patienceFor faults)) (.initial library source settings reporter) rfl rfl creatable
      decodes encodes ⟨rfl, rfl, rfl, ⟨rfl, writable⟩, rfl⟩ rfl counted rfl
  rw [Trial.transcode_eq (started ▸ ran)]
  subst result
  obtain ⟨track, only, isVideo, times⟩ := done.movie
  exact ⟨rfl, done.frames, stage.muxer.movie, track, Backdrop.movie?_storage _ stage, only, isVideo,
    times⟩

/-- With sound codecs every picture that the window keeps is encoded and written, once and in order,
and none is dropped. -/
theorem Trial.faultless_transcode_yields {encoders : List CodecInfo}
    (transcodable : Transcodable source encoders plan) {library : Library}
    (writable : library.faults.failWriteAfter = none) (settings : MovieSettings) (disk : Disk)
    (reporter : Option Reporter) :
    (Trial.transcode (.forSession library source settings encoders {} disk) reporter plan).Yields
      (keptTimes plan source) 0 := by
  have yields : (Trial.transcode (.forSession library source settings encoders {} disk) reporter
      plan).Yields _ _ :=
    transcode_yields transcodable writable rfl rfl rfl settings disk reporter
  have none_lost : (if plan.surfaceInput then 0 else ({} : CodecFaults).encoderInputTryAgain) = 0 :=
    ite_self 0
  rwa [none_lost, List.drop_zero, Nat.zero_min] at yields

theorem select?_sole (name : String) (formats : List ColorFormat) :
    select? (Catalog.new [.encoder name videoAvc formats] {}).codecs videoAvc =
      some (.encoder name videoAvc formats, 1) := by
  have only : fitting (Catalog.new [.encoder name videoAvc formats] {}).codecs videoAvc =
      [(.encoder name videoAvc formats, 1)] := by
    simp [fitting, Catalog.new, CodecInfo.supports, CodecInfo.encoder, CodecInfo.decoder,
      Text.sameIgnoringCase]
  unfold select?
  rw [only]
  by_cases reluctant : name = reluctantEncoder
  · simp [CodecInfo.encoder, reluctant]
  · simp [CodecInfo.encoder, reluctant]

/-- Four pictures of AVC video, of which the first is a key frame. -/
def briefSource : Source :=
  ((({} : Source).addTrack (.video videoAvc 2 2)).addSamples
    [⟨0, 0, .keyFrame, #[1]⟩, ⟨0, 40000, .none, #[2]⟩, ⟨0, 60000, .none, #[3]⟩,
      ⟨0, 90000, .none, #[4]⟩]).1

/-- Its middle, from an encoder that takes frames in the given ways. -/
def briefPlan (codec : CodecInfo) (profile : Profile) : TranscodePlan where
  track := ⟨0, false, .video videoAvc 2 2⟩
  encoder := ⟨codec, profile⟩
  request := { window := ⟨30000, some 80000⟩ }
  settings := {}

theorem briefPlan_transcodable {codec : CodecInfo} {profile : Profile}
    (resolved : resolve (Catalog.new [codec] {}).codecs {} videoAvc 4 4 = .ok ⟨codec, profile⟩) :
    Transcodable briefSource [codec] (briefPlan codec profile) where
  built := (Source.Built.empty.track _).addSamples _
  track := ⟨_, 2, 2, rfl, rfl, rfl, rfl, by decide, by decide⟩
  width_pos := Nat.succ_pos 3
  height_pos := Nat.succ_pos 3
  resolved := ⟨{}, videoAvc, resolved⟩
  presents := by
    have few : keptTimes (briefPlan codec profile) briefSource = [40000, 60000] := rfl
    rw [few]
    intro time member _
    revert time
    decide

theorem faultless_transcode_yields_brief :
    let codec := CodecInfo.encoder "OMX.qcom.video.encoder.avc" videoAvc [.surface]
    (Trial.transcode (.forSession {} briefSource ⟨.deg0, 4, 4⟩ [codec] {} {}) none
      (briefPlan codec (.surface (.ofCodecName codec.name) 4 4))).Yields [40000, 60000] 0 := by
  intro codec
  have resolved : resolve (Catalog.new [codec] {}).codecs {} videoAvc 4 4 =
      .ok ⟨codec, .surface (.ofCodecName codec.name) 4 4⟩ := by
    unfold resolve
    rw [select?_sole]
    rfl
  exact Trial.faultless_transcode_yields (briefPlan_transcodable resolved) rfl ⟨.deg0, 4, 4⟩ {} none

/-- Transient faults of the codecs change nothing that is written, if pictures reach the encoder
through its surface. A raw encoder loses as many of the first pictures as it has to be asked again,
and they are counted. -/
theorem Trial.transient_faults_drop_first {encoders : List CodecInfo}
    (transcodable : Transcodable source encoders plan) {library : Library}
    (writable : library.faults.failWriteAfter = none) (creatable : faults.failEncoderCreation = false)
    (decodes : faults.failDecoderAfter = none) (encodes : faults.failEncoderAfter = none)
    (settings : MovieSettings) (disk : Disk) (reporter : Option Reporter) :
    let faultless :=
      Trial.transcode (.forSession library source settings encoders {} disk) reporter plan
    let faulty :=
      Trial.transcode (.forSession library source settings encoders faults disk) reporter plan
    let frames := faultless.rig.device.catalog.log.encoderFrames
    let lost := faults.encoderInputTryAgain
    (plan.surfaceInput = true → faulty.Yields frames 0) ∧
      (plan.surfaceInput = false → faulty.Yields (frames.drop lost) (min lost frames.length)) := by
  intro faultless faulty frames lost
  have yields := transcode_yields transcodable writable creatable decodes encodes settings disk
    reporter
  have same : frames = keptTimes plan source := by
    have sound : faultless.Yields _ _ :=
      transcode_yields transcodable writable rfl rfl rfl settings disk reporter
    have none_lost : (if plan.surfaceInput then 0 else ({} : CodecFaults).encoderInputTryAgain) =
      0 := ite_self 0
    rw [none_lost, List.drop_zero] at sound
    exact sound.frames
  constructor
  · intro onSurface
    rw [if_pos onSurface, List.drop_zero, Nat.zero_min, ← same] at yields
    exact yields
  · intro raw
    rw [if_neg (by simp [raw]), ← same] at yields
    exact yields

theorem transient_faults_drop_first_brief :
    let codec := CodecInfo.encoder "OMX.qcom.video.encoder.avc" videoAvc [.yuv420SemiPlanar]
    let plan := briefPlan codec (.raw (.ofCodecName codec.name) .yuv420SemiPlanar 4 4 {})
    let faults : CodecFaults := { stutter := true, decoderTryAgain := 2, encoderInputTryAgain := 1 }
    (Trial.transcode (.forSession {} briefSource ⟨.deg0, 4, 4⟩ [codec] faults {}) none plan).Yields
      [60000] 1 := by
  intro codec plan faults
  have resolved : resolve (Catalog.new [codec] {}).codecs {} videoAvc 4 4 =
      .ok ⟨codec, .raw (.ofCodecName codec.name) .yuv420SemiPlanar 4 4 {}⟩ := by
    unfold resolve
    rw [select?_sole]
    rfl
  have transcodable := briefPlan_transcodable resolved
  have faultless : (Trial.transcode (.forSession {} briefSource ⟨.deg0, 4, 4⟩ [codec] {} {}) none
      plan).Yields [40000, 60000] 0 :=
    Trial.transcode_yields transcodable rfl rfl rfl rfl ⟨.deg0, 4, 4⟩ {} none
  have dropped := (@Trial.transient_faults_drop_first plan briefSource faults [codec] transcodable
    {} rfl rfl rfl rfl ⟨.deg0, 4, 4⟩ {} none).2 rfl
  rw [faultless.frames] at dropped
  exact dropped

end

end Recode.Simulation
