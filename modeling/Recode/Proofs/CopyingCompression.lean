import Recode.Proofs.JobConduct
import Recode.Proofs.SimulatedCompression

/-!
Compressions that copy. Where the size asked for is that of the source, its pictures are copied as
they are, and its sound as well. Such a compression succeeds, and what it reports depends on whether
there was a picture to copy.
-/

namespace Recode.Simulation
open Recode.Media Recode.Container Recode.Device Recode.Job Recode.Progress Recode.Session
open Recode.Session.Work

structure Copyable (source : Source) (video : Nat) (format : Format) (metadata : Metadata) : Prop
    extends Describes source video format metadata where
  built : source.Built
  shows : source.trackSamples video ≠ []
  sounds : ∀ audio, source.tracks.findIdx? (·.isKind true) = some audio →
    source.trackSamples audio ≠ []

/-- What is asked for is valid, and comes to a copy of some time. -/
structure Unaltered (config : Config) (options : Options) (metadata : Metadata)
    (parameters : Parameters) : Prop where
  configured : config.validate = .ok ()
  asked : options.validate = .ok ()
  resolved : Parameters.resolve options metadata config.platform = .ok parameters
  copies : parameters.transcode = false
  lasting : (options.window.clamped metadata.duration).isEmpty = false

section
variable {config : Config} {options : Options} {parameters : Parameters} {library : Library}
  {audience : Audience} {disk : Disk} {patience : Nat} {source : Source} {path destination : Path}
  {video : Nat} {format : Format} {metadata : Metadata} {stage : Stage} {backdrop : Backdrop}
  {encoders : List CodecInfo}

theorem copying_plan (unaltered : Unaltered config options metadata parameters)
    {σ : Type} (world : World σ) (desk : Desk σ) :
    ((compressing config path destination options).plan metadata).run world desk =
      (.ok ⟨parameters, none, options.window.clamped metadata.duration⟩, desk) := by
  have needless : ¬(parameters.transcode &&
      !(options.window.clamped metadata.duration).isEmpty) = true := by
    simp [unaltered.copies]
  unfold Compression.plan
  dsimp only [compressing]
  rw [unaltered.resolved, run_after (run_settle_ok _ _ _), if_neg needless]
  rfl

theorem copying_writeVideo (resting : Resting source {} stage) (hasRoom : source.HasRoom)
    (known : source.tracks[video]? = some format) {room : Nat}
    (promised : format.maxInputSize = some room) {plan : Plan} (copies : plan.encoder = none)
    (enough : source.samples.length < backdrop.patience) (bench : Bench) :
    ((compressing config path destination options).writeVideo plan ⟨video, false, format⟩).Reaches
      backdrop.world (onBench (backdrop.desk stage) bench) fun summary left =>
        summary.videoSamples = (copiedSamples source video plan.window).length ∧
        ∃ after, left = onBench (backdrop.desk after) bench ∧ Resting source {} after := by
  unfold Compression.writeVideo
  rw [copies]
  have copied := @copyTrack_reaches source {} stage resting hasRoom ⟨video, false, format⟩ known room
    promised backdrop enough bench plan.window true
  refine reaches_bind (copied.imp fun outcome left ends => ?_)
  obtain ⟨rfl, after, rfl, rested, -⟩ := ends
  exact reaches_pure ⟨rfl, after, rfl, rested⟩

theorem copying_writeTracks (copyable : Copyable source video format metadata) {plan : Plan}
    (copies : plan.encoder = none) (lasting : plan.window.isEmpty = false)
    (resting : Resting source {} stage) (enough : source.samples.length < backdrop.patience)
    (bench : Bench) :
    ((compressing config path destination options).writeTracks plan).Reaches backdrop.world
      (onBench (backdrop.desk stage) bench) fun summary left =>
        summary.videoSamples = (copiedSamples source video plan.window).length ∧
        ∃ after, left = onBench (backdrop.desk after) bench ∧ Resting source {} after := by
  have hasRoom := copyable.built.hasRoom
  have presents := presents_onBench backdrop stage bench
  obtain ⟨sized, room, known, promised⟩ := hasRoom.promises copyable.shows
  obtain rfl : format = sized := Option.some.inj (copyable.known.symm.trans known)
  have going : ¬plan.window.isEmpty = true := by simp [lasting]
  have pictures := @copying_writeVideo config options source path destination video format stage
    backdrop resting hasRoom known room promised plan copies enough bench
  unfold Compression.writeTracks
  refine reaches_after (presents.videoTrack ((resting.findTrack? false).trans copyable.first) path) ?_
  refine reaches_after (presents.format video) (reaches_settle (resting.trackFormat known) ?_)
  refine reaches_after (presents.findTrack true) ?_
  rw [resting.findTrack? true]
  cases heard : source.tracks.findIdx? (·.isKind true) with
  | none =>
    refine reaches_after (run_pure none _ _) ?_
    dsimp only
    rw [if_neg going]
    exact reaches_bind (pictures.imp fun summary left written => reaches_pure written)
  | some audio =>
    obtain ⟨sound, room, sounding, sized⟩ := hasRoom.promises (copyable.sounds audio heard)
    refine reaches_after (presents.format audio) (reaches_settle (resting.trackFormat sounding) ?_)
    refine reaches_after (run_pure _ _ _) ?_
    dsimp only
    rw [if_neg going]
    refine reaches_bind (pictures.imp fun summary left written => ?_)
    obtain ⟨counted, after, rfl, rested⟩ := written
    have copied := @copyTrack_reaches source {} after rested hasRoom ⟨audio, true, sound⟩ sounding
      room sized backdrop enough bench
    refine reaches_bind ((copied _ false).imp fun outcome left ends => ?_)
    obtain ⟨-, last, rfl, rested, -⟩ := ends
    exact reaches_pure ⟨counted, last, rfl, rested⟩

theorem copying_writeDestination (copyable : Copyable source video format metadata) {plan : Plan}
    (copies : plan.encoder = none) (lasting : plan.window.isEmpty = false)
    (faultless : library.faults = {}) (enough : source.samples.length < patience) :
    ((compressing config path destination options).writeDestination plan).Reaches
      (Rig.world Bench.answer patience)
      (audience.desk { library := (library.reading source true).reading source false }
        { catalog := .new encoders {} } disk)
      fun summary left => summary.videoSamples = (copiedSamples source video plan.window).length ∧
        ∃ after, left = onBench ((Backdrop.ofCompression library source destination encoders disk
          patience).desk after) { catalog := .new encoders {} } := by
  let settings : MovieSettings :=
    ⟨plan.parameters.containerRotation, plan.parameters.width, plan.parameters.height⟩
  have written := @copying_writeTracks config options source path destination video format metadata
    (.begun library source settings audience)
    (.ofCompression library source destination encoders disk patience) copyable plan copies lasting
    (resting_begun faultless settings audience) enough { catalog := .new encoders {} }
  unfold Compression.writeDestination
  refine reaches_after (run_createMovie audience settings) (reaches_settle rfl ?_)
  refine reaches_bind (reaches_outcome (written.imp fun summary left ends => ?_))
  obtain ⟨counted, after, rfl, rested⟩ := ends
  refine reaches_after (run_finalize _ rested.accepts rested.faults _) ?_
  exact reaches_settle rfl (reaches_settle rfl (reaches_pure ⟨counted, _, rfl⟩))

theorem copying_execute (copyable : Copyable source video format metadata)
    (unaltered : Unaltered config options metadata parameters)
    (found : library.source? path = some source) (faultless : library.faults = {})
    (enough : source.samples.length < patience) :
    ((compressing config path destination options).execute metadata).Reaches
      (Rig.world Bench.answer patience)
      (audience.desk { library := library.reading source true } { catalog := .new encoders {} } disk)
      fun written left => written.1 = parameters ∧ written.2.videoSamples =
          (copiedSamples source video (options.window.clamped metadata.duration)).length ∧
        ∃ (heard : Audience) (storage : Storage) (bench : Bench),
          left = heard.desk storage bench disk := by
  have again : (library.reading source true).source? path = some source := found
  unfold Compression.execute
  refine reaches_after (copying_plan unaltered _ _) ?_
  refine reaches_after (run_openSource again) (reaches_settle rfl ?_)
  have written := @copying_writeDestination config options library audience disk patience source path
    destination video format metadata encoders copyable
    ⟨parameters, none, options.window.clamped metadata.duration⟩ rfl unaltered.lasting faultless enough
  refine reaches_bind (reaches_outcome (written.imp fun summary left ends => ?_))
  obtain ⟨counted, after, rfl⟩ := ends
  refine ⟨(parameters, summary), _, rfl, rfl, counted, after.audience, _, _, rfl⟩

theorem copying_reaches (copyable : Copyable source video format metadata)
    (unaltered : Unaltered config options metadata parameters)
    (found : library.source? path = some source) (faultless : library.faults = {}) {entry : Entry}
    (readable : disk.look path = .ok entry) (enough : source.samples.length < patience) :
    (compressing config path destination options).run.Reaches (Rig.world Bench.answer patience)
      (audience.desk { library } { catalog := .new encoders {} } disk) fun report _ =>
        report.source = metadata ∧ report.parameters = parameters ∧
        report.tracks.videoSamples =
          (copiedSamples source video (options.window.clamped metadata.duration)).length ∧
        report.outcome = if report.tracks.videoSamples = 0 then .emptyResult else .completed := by
  let job : Compression (Rig Bench) := compressing config path destination options
  have prepared : job.prepare.run (Rig.world Bench.answer patience)
      (audience.desk { library } { catalog := .new encoders {} } disk) = (.ok metadata, _) :=
    run_prepare unaltered.configured unaltered.asked copyable.toDescribes found readable _
  unfold Compression.run
  refine reaches_after (run_outcome_ok prepared) ?_
  let listening : Audience := { audience with reporter := some (.new metadata.duration) }
  have listened : (Compression.listen metadata.duration).run (Rig.world Bench.answer patience)
      (audience.desk { library := library.reading source true } { catalog := .new encoders {} } disk) =
    (.ok (), listening.desk { library := library.reading source true }
      { catalog := .new encoders {} } disk) := rfl
  refine reaches_after listened ?_
  obtain ⟨heard, told⟩ := listening.run_tell (.report 0)
  refine reaches_after told ?_
  have executed := @copying_execute config options parameters library heard disk patience source path
    destination video format metadata encoders copyable unaltered found faultless enough
  refine reaches_bind (reaches_outcome (executed.imp fun answer left ends => ?_))
  obtain ⟨written, summary⟩ := answer
  obtain ⟨chosen, counted, last, storage, bench, rfl⟩ := ends
  have concluded := (@conclude_reaches disk patience job metadata written summary last storage
    bench).and_returns Compression.conclude_reports
  refine concluded.imp fun report left ends => ?_
  obtain ⟨-, told, parameters, tracks, outcome⟩ := ends
  rw [tracks]
  exact ⟨told, parameters.trans chosen, counted, outcome⟩

/-- A compression that copies succeeds, and it completes if there is a picture to copy. -/
theorem Trial.compression_copies (copyable : Copyable source video format metadata)
    (unaltered : Unaltered config options metadata parameters)
    (found : library.source? path = some source) (faultless : library.faults = {}) {entry : Entry}
    (readable : disk.look path = .ok entry) (destination : Path) :
    let rig : Rig Bench := ⟨{ library }, { catalog := .new encoders {} }, .new none none disk⟩
    let copied := copiedSamples source video (options.window.clamped metadata.duration)
    ∃ report, (Trial.compression rig false false
        (compressing config path destination options)).result = .ok report ∧
      report.source = metadata ∧ report.parameters = parameters ∧
      report.tracks.videoSamples = copied.length ∧
      report.outcome = if copied.length = 0 then .emptyResult else .completed := by
  intro rig copied
  have enough : source.samples.length < rig.patienceFor {} := by
    have counted : source.samples.length ≤ rig.sampleCount := samples_le_of_source? found _ _
    unfold Rig.patienceFor
    omega
  obtain ⟨report, left, ran, told, chosen, counted, outcome⟩ :=
    @copying_reaches config options parameters library ⟨none, false, [], 0⟩ disk (rig.patienceFor {})
      source path destination video format metadata encoders copyable unaltered found faultless entry
      readable enough
  refine ⟨report, congrArg Trial.result (Trial.compression_eq ran), told, chosen, counted, ?_⟩
  rw [← counted]
  exact outcome

end

end Recode.Simulation
