import Recode.Proofs.CopyingCompression
import Recode.Proofs.KeptFrames

/-!
What a compression of any source keeps of its window. If pictures are transcoded, none is written
that the window does not admit. If they are copied, the copy begins at a sync point that may lie
before the window, and what counts is that anything was copied.
-/

namespace Recode.Simulation
open Recode.Media Recode.Container Recode.Device Recode.Job Recode.Progress Recode.Session
open Recode.Session.Work

/-- A track of as many pictures as were written. Transcoded pictures are admitted by the plan's
window, and have their own times if these can be told; others are all that a copy takes. -/
structure Pictured (source : Source) (video : Nat) (plan : Plan) (written : Nat) (track : MuxedTrack) :
    Prop where
  isVideo : track.isAudio = false
  counted : track.samples.length = written
  transcoded : plan.encoder.isSome = true → ∀ sample ∈ track.samples, ∃ shown,
    source.Shows video shown ∧ plan.window.admits shown = true ∧
      (Presentable shown → sample.time = shown)
  copied : plan.encoder = none →
    track.samples = (copiedSamples source video plan.window).map Sample.muxed

def Storage.Leads (track : MuxedTrack) (storage : Storage) : Prop :=
  ∃ rest, storage.library.content.2 = some (track :: rest)

def LeavesPictures : Call → Prop
  | .storage (.createMovie _ _) => False
  | .storage (.write _ _ _ isAudio) => isAudio = true
  | _ => True

theorem leavesPictures_of_isCopying {call : Call} (copies : call.IsCopying true) :
    LeavesPictures call := by
  unfold Call.IsCopying at copies
  split at copies <;> trivial

theorem Muxer.tracks_write_sound {muxer : Muxer} {track : MuxedTrack} {rest : List MuxedTrack}
    (leads : muxer.movie.tracks = track :: rest) (isVideo : track.isAudio = false) (place : Nat)
    (buffer : Bytes) (info : SampleInfo) :
    ∃ others, (muxer.write place buffer info true).2.movie.tracks = track :: others := by
  unfold Muxer.write
  split
  next error refused => exact ⟨rest, leads⟩
  next empty => exact ⟨rest, leads⟩
  next sample admitted =>
    cases place with
    | succ place => exact ⟨rest.modify place _, congrArg (List.modify · (place + 1) _) leads⟩
    | zero =>
      have known : muxer.movie.tracks[0]? = some track := congrArg (·[0]?) leads
      obtain ⟨kept, found, kind⟩ := (Muxer.admit?_eq_some_iff.mp admitted).1.fits
      obtain rfl := Option.some.inj (known.symm.trans found)
      exact nomatch isVideo.symm.trans kind

namespace Storage.Leads
variable {track : MuxedTrack} {storage : Storage} {α : Type}

theorem of_content {other : Storage} (leads : storage.Leads track)
    (same : other.library.content.2 = storage.library.content.2) : other.Leads track :=
  leads.imp fun _ => same.trans

theorem onMuxer {absent : α} {act : Muxer → α × Muxer} (leads : storage.Leads track)
    (keeps : ∀ muxer rest, muxer.movie.tracks = track :: rest →
      ∃ others, (act muxer).2.movie.tracks = track :: others) :
    (storage.onMuxer absent act).2.Leads track := by
  obtain ⟨⟨sources, leaks, faults, demuxers, _ | ⟨⟨path, newest⟩, older⟩⟩, script, reads, adds,
    writes⟩ := storage
  · exact nomatch leads.choose_spec
  · obtain ⟨rest, begins⟩ := leads
    obtain ⟨others, still⟩ := keeps newest rest (Option.some.inj begins)
    exact ⟨others, congrArg some still⟩

theorem barring {error? : Option Error} {act : Except Error α × Storage}
    (leads : storage.Leads track) (still : act.2.Leads track) :
    (storage.barring error? act).2.Leads track := by
  cases error? with
  | some error => exact leads
  | none => exact still

theorem answer (leads : storage.Leads track) (isVideo : track.isAudio = false) {call : StorageCall}
    (leaves : LeavesPictures (.storage call)) : (Storage.answer call storage).2.Leads track := by
  cases call with
  | openSource path =>
    exact leads.of_content (congrArg (·.head?.map (·.2.movie.tracks)) (storage.openSource_muxers path))
  | createMovie path settings => exact leaves.elim
  | addTrack format isAudio =>
    refine barring leads (onMuxer leads fun muxer rest begins => ?_)
    unfold Muxer.addTrack
    split
    next finalized => exact ⟨rest, begins⟩
    next unfinished => exact ⟨_, congrArg (· ++ _) begins⟩
  | write place buffer info isAudio =>
    obtain rfl : isAudio = true := leaves
    refine barring leads ?_
    split
    next passed => exact leads
    next taken =>
      exact onMuxer leads fun muxer rest begins =>
        Muxer.tracks_write_sound begins isVideo place buffer info
  | _ => exact leads.of_content (congrArg Prod.snd (storage.answer_content trivial))

end Storage.Leads

theorem leads_answer {track : MuxedTrack} (isVideo : track.isAudio = false) {patience : Nat}
    (call : Call) (rig : Rig Bench) (leaves : LeavesPictures call)
    (leads : rig.storage.Leads track) :
    ((Rig.world Bench.answer patience).answer call rig).2.storage.Leads track := by
  cases call with
  | storage call => exact leads.answer isVideo leaves
  | device call => exact leads
  | client call => exact leads

def Accomplished (source : Source) (plan : Plan) (video written : Nat) (storage : Storage) : Prop :=
  ∃ track, storage.Leads track ∧ Pictured source video plan written track

namespace Presents
variable {σ : Type} {world : World σ} {desk : Desk σ} {demuxer : Demuxer}

theorem videoTrack_returns (presents : Presents world desk demuxer) {path : Path} :
    (Job.videoTrack path).Returns world desk
      (fun video left => left = desk ∧ demuxer.findTrack? false = some video) fun _ _ => True := by
  unfold Job.videoTrack
  refine returns_after (presents.findTrack false) ?_
  cases demuxer.findTrack? false with
  | none => exact returns_fail trivial
  | some video => exact returns_pure ⟨rfl, rfl⟩

theorem metadataOf_returns (presents : Presents world desk demuxer) {path : Path} :
    (Job.metadataOf path).Returns world desk (fun _ left => left = desk) fun _ _ => True := by
  unfold Job.metadataOf
  refine presents.videoTrack_returns.bind fun video left found => ?_
  obtain ⟨rfl, -⟩ := found
  refine returns_after (presents.format video) (returns_settle (fun _ _ => trivial) fun format _ => ?_)
  cases format.width with
  | none => exact returns_fail trivial
  | some width =>
    cases format.height with
    | none => exact returns_fail trivial
    | some height => exact returns_pure rfl

end Presents

section
variable {config : Config} {source : Source} {path destination : Path} {options : Options} {plan : Plan}
  {stage : Stage} {backdrop : Backdrop} {video : Nat} {format : Format}

theorem copyTrack_unsized {σ : Type} {world : World σ} {desk : Desk σ} {track : Track} {window : Window}
    {reporting : Bool} {reached : CopyOutcome → Desk σ → Prop}
    (sized : track.format.maxInputSize = none) :
    (copyTrack track window reporting).Returns world desk reached fun _ _ => True := by
  refine returns_ask (returns_settle (fun _ _ => trivial) fun destination _ => ?_)
  rw [sized]
  exact returns_fail trivial

theorem writeVideo_pictured (resting : Resting source {} stage) (hasRoom : source.HasRoom)
    (known : source.tracks[video]? = some format) (empty : stage.muxer.movie.tracks = [])
    (enough : source.samples.length < backdrop.patience) {bench : Bench}
    (undecoded : bench.decoder = none) (unencoded : bench.encoder = none) :
    ((compressing config path destination options).writeVideo plan ⟨video, false, format⟩).Returns
      backdrop.world (onBench (backdrop.desk stage) bench)
      (fun summary left => Accomplished source plan video summary.videoSamples left.outside.storage)
      fun _ _ => True := by
  unfold Compression.writeVideo
  cases chosen : plan.encoder with
  | some encoder =>
    have flows : Flowing (videoPlan config plan encoder ⟨video, false, format⟩) source []
        (onBench (backdrop.desk stage) bench).outside :=
      ⟨Prod.ext (congrArg some resting.reading) (congrArg some empty),
        .empty bench undecoded unencoded⟩
    refine (transcode_fills flows).bind fun outcome left fills => ?_
    obtain ⟨track, held, filled⟩ := fills
    refine returns_pure ⟨track, ⟨[], congrArg Prod.snd held.content⟩, filled.isVideo,
      filled.counted, fun _ sample member => ?_, fun none => nomatch chosen.symm.trans none⟩
    obtain ⟨shown, ⟨shows, admits⟩, stamped⟩ := filled.carried sample member
    refine ⟨shown, shows, admits, fun presentable => ?_⟩
    exact stamped.symm.trans (TranscodePlan.Presents.stamped_eq fun _ => presentable)
  | none =>
    cases sized : format.maxInputSize with
    | none =>
      exact returns_bind (copyTrack_unsized sized)
    | some room =>
      have copied := @copyTrack_reaches source {} stage resting hasRoom ⟨video, false, format⟩ known
        room sized backdrop enough bench plan.window true
      refine copied.returns.bind fun outcome left ends => ?_
      obtain ⟨rfl, after, rfl, -, tracks⟩ := ends
      rw [empty] at tracks
      refine returns_pure ⟨_, ⟨[], congrArg some tracks⟩, rfl, List.length_map _, fun some => ?_,
        fun _ => rfl⟩
      rw [chosen] at some
      exact nomatch some

theorem Resting.known_of_trackFormat {faults : MuxerFaults} (resting : Resting source faults stage)
    {index : Nat} (granted : stage.demuxer.trackFormat index = .ok format) :
    source.tracks[index]? = some format := by
  unfold Demuxer.trackFormat at granted
  rw [resting.reading] at granted
  split at granted
  next known => cases granted; assumption
  next unknown => exact nomatch granted

theorem writeEmpty_returns {desk : Desk (Rig Bench)} {track : Track} {audio : Option Track} :
    ((compressing config path destination options).writeEmpty plan track audio).Returns backdrop.world
      desk (fun summary _ => summary.videoSamples = 0) fun _ _ => True := by
  refine returns_ask (returns_settle (fun _ _ => trivial) fun _ _ => ?_)
  cases audio with
  | none => exact returns_pure rfl
  | some sound => exact returns_ask (returns_settle (fun _ _ => trivial) fun _ _ => returns_pure rfl)

theorem copySound_accomplishes {written : Nat} {desk : Desk (Rig Bench)}
    (done : Accomplished source plan video written desk.outside.storage) {sound : Track}
    (isAudio : sound.isAudio = true) (window : Window) :
    (copyTrack sound window false).Returns backdrop.world desk
      (fun _ left => Accomplished source plan video written left.outside.storage) fun _ _ => True := by
  obtain ⟨track, leads, pictured⟩ := done
  have uses : (copyTrack sound window false : Work (Rig Bench) CopyOutcome).Uses LeavesPictures :=
    copyTrack_uses.weaken fun call copies =>
      leavesPictures_of_isCopying (isAudio ▸ copies)
  have keeps := uses.keeps_outside (@leads_answer track pictured.isVideo backdrop.patience)
  exact (keeps.returns leads).imp (fun _ _ still => ⟨track, still, pictured⟩) fun _ _ _ => trivial

/-- The tracks that were written yield pictures only of a window that lasts, and these as planned. -/
def AccomplishedIfAny (source : Source) (plan : Plan) (summary : TrackSummary)
    (desk : Desk (Rig Bench)) : Prop :=
  summary.videoSamples ≠ 0 → plan.window.isEmpty = false ∧
    ∃ video, source.tracks.findIdx? (·.isKind false) = some video ∧
      Accomplished source plan video summary.videoSamples desk.outside.storage

theorem writeFound_accomplishes (first : source.tracks.findIdx? (·.isKind false) = some video)
    (resting : Resting source {} stage) (hasRoom : source.HasRoom)
    (known : source.tracks[video]? = some format) (empty : stage.muxer.movie.tracks = [])
    (enough : source.samples.length < backdrop.patience) {bench : Bench}
    (undecoded : bench.decoder = none) (unencoded : bench.encoder = none) {audio : Option Track}
    (isAudio : ∀ track, audio = some track → track.isAudio = true) :
    ((compressing config path destination options).writeFound plan ⟨video, false, format⟩
      audio).Returns backdrop.world (onBench (backdrop.desk stage) bench) (AccomplishedIfAny source plan)
      fun _ _ => True := by
  have pictures := @writeVideo_pictured config source path destination options plan stage backdrop
    video format resting hasRoom known empty enough bench undecoded unencoded
  unfold Compression.writeFound
  split
  next selectsNothing =>
    exact writeEmpty_returns.imp (fun _ _ none some => absurd none some) fun _ _ => id
  next lasting =>
    have lasting : plan.window.isEmpty = false := by simpa using lasting
    refine pictures.bind fun summary left done => ?_
    cases audio with
    | none => exact returns_pure fun _ => ⟨lasting, video, first, done⟩
    | some sound =>
      refine (copySound_accomplishes done (isAudio sound rfl) _).bind fun copied left still => ?_
      exact returns_pure fun _ => ⟨lasting, video, first, still⟩

theorem writeTracks_accomplishes (resting : Resting source {} stage) (hasRoom : source.HasRoom)
    (empty : stage.muxer.movie.tracks = []) (enough : source.samples.length < backdrop.patience)
    {bench : Bench} (undecoded : bench.decoder = none) (unencoded : bench.encoder = none) :
    ((compressing config path destination options).writeTracks plan).Returns backdrop.world
      (onBench (backdrop.desk stage) bench) (AccomplishedIfAny source plan) fun _ _ => True := by
  have presents := presents_onBench backdrop stage bench
  rw [Compression.writeTracks_eq]
  refine presents.videoTrack_returns.bind fun video left found => ?_
  obtain ⟨rfl, first⟩ := found
  rw [resting.findTrack?] at first
  refine returns_after (presents.format video) (returns_settle (fun _ _ => trivial)
    fun format granted => ?_)
  have known := resting.known_of_trackFormat granted
  refine returns_after (presents.findTrack true) ?_
  cases stage.demuxer.findTrack? true with
  | none =>
    refine writeFound_accomplishes first resting hasRoom known empty enough undecoded unencoded ?_
    exact fun track absent => nomatch absent
  | some index =>
    refine returns_after (presents.format index) (returns_settle (fun _ _ => trivial)
      fun sound _ => ?_)
    refine writeFound_accomplishes first resting hasRoom known empty enough undecoded unencoded ?_
    rintro track ⟨⟩
    rfl

end

def Delivered (source : Source) (destination : Path) (plan : Plan) (written : Nat) (storage : Storage) :
    Prop :=
  plan.window.isEmpty = false ∧ ∃ video movie track,
    source.tracks.findIdx? (·.isKind false) = some video ∧
    storage.library.movie? destination = some movie ∧ movie.trackOf? false = some track ∧
    Pictured source video plan written track

section
variable {config : Config} {source : Source} {path destination : Path} {options : Options} {plan : Plan}
  {library : Library} {encoders : List CodecInfo} {disk : Disk} {patience written video : Nat}
  {audience : Audience}

theorem Delivered.of_muxers_eq {storage other : Storage}
    (delivered : Delivered source destination plan written storage)
    (same : other.library.muxers = storage.library.muxers) :
    Delivered source destination plan written other := by
  have kept : other.library.movie? destination = storage.library.movie? destination := by
    unfold Library.movie?
    rw [same]
  unfold Delivered
  rwa [kept]

theorem Accomplished.delivered {storage last : Storage} {muxer : Muxer} {older : List (Path × Muxer)}
    (done : Accomplished source plan video written last)
    (begun : storage.library.muxers = (destination, muxer) :: older)
    (precedes : storage.library.Precedes last.library) (lasting : plan.window.isEmpty = false)
    (first : source.tracks.findIdx? (·.isKind false) = some video) :
    Delivered source destination plan written last := by
  obtain ⟨track, ⟨rest, leads⟩, pictured⟩ := done
  obtain ⟨⟨sources, leaks, faults, demuxers, muxers⟩, script, reads, adds, writes⟩ := last
  unfold Library.Precedes at precedes
  rw [begun] at precedes
  cases precedes with
  | @cons _ newest _ others head _ =>
    have tracks : newest.2.movie.tracks = track :: rest := Option.some.inj leads
    have same : newest.1.same destination = true := head.1 ▸ beq_self_eq_true _
    refine ⟨lasting, video, newest.2.movie, track, first, ?_, ?_, pictured⟩
    · unfold Library.movie?
      rw [List.find?_cons, same]
      rfl
    · unfold Movie.trackOf?
      rw [tracks, List.find?_cons, decide_eq_true pictured.isVideo]

theorem writeDestination_delivers (hasRoom : source.HasRoom) (faultless : library.faults = {})
    (enough : source.samples.length < patience) :
    ((compressing config path destination options).writeDestination plan).Returns
      (Rig.world Bench.answer patience)
      (audience.desk { library := (library.reading source true).reading source false }
        { catalog := .new encoders {} } disk)
      (fun summary left => summary.videoSamples ≠ 0 →
        Delivered source destination plan summary.videoSamples left.outside.storage)
      fun _ _ => True := by
  let settings : MovieSettings :=
    ⟨plan.parameters.containerRotation, plan.parameters.width, plan.parameters.height⟩
  let begun : Storage := (Backdrop.ofCompression library source destination encoders disk
    patience).storage (.begun library source settings audience)
  have resting : Resting source {} (Stage.begun library source settings audience) :=
    resting_begun faultless settings audience
  have grows (call : Call) (rig : Rig Bench) (stays : call.StaysWithMovie)
      (precedes : begun.library.Precedes rig.storage.library) : begun.library.Precedes
        ((Rig.world Bench.answer patience).answer call rig).2.storage.library :=
    precedes.trans (rig.precedes_answer stays).movies
  have written := (@writeTracks_accomplishes config source path destination options plan _
    (.ofCompression library source destination encoders disk patience) resting hasRoom rfl enough
    { catalog := .new encoders {} } rfl rfl).keeping
      ((Compression.writeTracks_uses.weaken fun _ => Call.WorksOnTracks.staysWithMovie).keeps_outside
        grows) (.of_muxers_eq rfl)
  unfold Compression.writeDestination
  refine returns_after (run_createMovie audience settings) (returns_settle (fun _ _ => trivial)
    fun _ _ => ?_)
  refine returns_bind (returns_outcome (written.imp (fun summary left ends => ?_)
    fun error left _ => ?_))
  · obtain ⟨done, precedes⟩ := ends
    refine returns_ask (returns_settle (fun _ _ => trivial) fun _ same => ?_)
    cases same
    refine returns_settle (fun _ _ => trivial) fun _ _ => returns_pure fun some => ?_
    obtain ⟨lasting, video, first, track, leads, pictured⟩ := done some
    have still : Accomplished source plan video summary.videoSamples _ :=
      ⟨track, @leads_answer track pictured.isVideo patience (.storage .finalize) left.outside trivial
        leads, pictured⟩
    exact still.delivered rfl (grows (.storage .finalize) left.outside trivial precedes) lasting first
  · exact returns_ask (returns_fail trivial)

theorem plan_returns {metadata : Metadata} {desk : Desk (Rig Bench)} :
    ((compressing config path destination options).plan metadata).Returns
      (Rig.world Bench.answer patience) desk
      (fun plan left => left = desk ∧ plan.window = options.window.clamped metadata.duration ∧
        (plan.window.isEmpty = false → plan.encoder.isSome = plan.parameters.transcode))
      fun _ _ => True := by
  unfold Compression.plan
  refine returns_settle (fun _ _ => trivial) fun parameters _ => ?_
  dsimp only
  split
  next transcodes =>
    refine returns_ask (returns_settle (fun _ _ => trivial) fun encoder _ => ?_)
    exact returns_pure ⟨rfl, rfl, fun _ => (Bool.and_eq_true_iff.mp transcodes).1.symm⟩
  next copies =>
    refine returns_pure ⟨rfl, rfl, fun lasting => ?_⟩
    simpa [lasting] using copies

theorem prepare_returns (found : library.source? path = some source) (bench : Bench) :
    (compressing config path destination options).prepare.Returns (Rig.world Bench.answer patience)
      (audience.desk { library } bench disk)
      (fun _ left => left = audience.desk { library := library.reading source true } bench disk)
      fun _ _ => True := by
  unfold Compression.prepare
  refine returns_settle (fun _ _ => trivial) fun _ _ => ?_
  refine returns_settle (fun _ _ => trivial) fun _ _ => ?_
  refine returns_ask ?_
  split
  next text refused => exact returns_fail trivial
  next readable =>
    show (probeContainer path).Returns _ _ _ _
    refine returns_after (run_openSource found) (returns_settle (fun _ _ => trivial) fun _ _ => ?_)
    refine returns_bind (returns_outcome (presents_reading.metadataOf_returns.imp
      (fun metadata left same => ?_) fun error left _ => ?_))
    · subst same
      exact returns_ask (returns_pure rfl)
    · exact returns_ask (returns_fail trivial)

theorem execute_delivers {metadata : Metadata} (found : library.source? path = some source)
    (hasRoom : source.HasRoom) (faultless : library.faults = {})
    (enough : source.samples.length < patience) :
    ((compressing config path destination options).execute metadata).Returns
      (Rig.world Bench.answer patience)
      (audience.desk { library := library.reading source true } { catalog := .new encoders {} } disk)
      (fun written left => written.2.videoSamples ≠ 0 → ∃ plan,
        plan.window = options.window.clamped metadata.duration ∧
        plan.encoder.isSome = written.1.transcode ∧
        Delivered source destination plan written.2.videoSamples left.outside.storage)
      fun _ _ => True := by
  have again : (library.reading source true).source? path = some source := found
  unfold Compression.execute
  refine plan_returns.bind fun plan left planned => ?_
  obtain ⟨rfl, window, chosen⟩ := planned
  refine returns_after (run_openSource again) (returns_settle (fun _ _ => trivial) fun _ _ => ?_)
  have written := @writeDestination_delivers config source path destination options plan library
    encoders disk patience audience hasRoom faultless enough
  refine returns_bind (returns_outcome (written.imp (fun summary left done => ?_)
    fun error left _ => ?_))
  · refine returns_ask (returns_settle (fun _ _ => trivial) fun _ same => ?_)
    cases same
    exact returns_pure fun some => ⟨plan, window, chosen (done some).1,
      (done some).of_muxers_eq
        (left.outside.storage.onDemuxer_muxers () fun demuxer => ((), demuxer.release))⟩
  · exact returns_ask (returns_fail trivial)

theorem conclude_keeps_storage {job : Compression (Rig Bench)} {metadata : Metadata}
    {parameters : Parameters} {tracks : TrackSummary} {storage : Storage} :
    (job.conclude metadata parameters tracks).Keeps (Rig.world Bench.answer patience)
      fun desk => desk.outside.storage = storage := by
  obtain ⟨ended, rest, same, uses⟩ :=
    @Compression.conclude_eq_tell_bind _ job metadata parameters tracks
  have removes := uses (fun call => call = .client (.removeFile job.source)) rfl
  have answered (call : Call) (rig : Rig Bench) (only : call = .client (.removeFile job.source))
      (kept : rig.storage = storage) :
      ((Rig.world Bench.answer patience).answer call rig).2.storage = storage := by
    subst only
    exact kept
  have told := @keeps_tell (Rig Bench) (Rig.world Bench.answer patience) (·.storage = storage)
    (fun _ _ kept => kept) (.complete ended)
  rw [same]
  exact keeps_bind told fun _ => removes.keeps_outside answered

theorem run_delivers (found : library.source? path = some source) (hasRoom : source.HasRoom)
    (faultless : library.faults = {}) (enough : source.samples.length < patience) :
    (compressing config path destination options).run.Returns (Rig.world Bench.answer patience)
      (audience.desk { library } { catalog := .new encoders {} } disk)
      (fun report left => report.outcome = .completed → ∃ plan written,
        written ≠ 0 ∧ plan.window = options.window.clamped report.source.duration ∧
        plan.encoder.isSome = report.parameters.transcode ∧
        Delivered source destination plan written left.outside.storage)
      fun _ _ => True := by
  unfold Compression.run
  refine returns_bind (returns_outcome ((prepare_returns found _).imp (fun metadata left same => ?_)
    fun error left _ => ?_))
  · subst same
    let listening : Audience := { audience with reporter := some (.new metadata.duration) }
    have listened : (Compression.listen metadata.duration).run (Rig.world Bench.answer patience)
        (audience.desk { library := library.reading source true } { catalog := .new encoders {} }
          disk) =
      (.ok (), listening.desk { library := library.reading source true }
        { catalog := .new encoders {} } disk) := rfl
    obtain ⟨heard, told⟩ := listening.run_tell (.report 0)
    refine returns_after listened (returns_after told ?_)
    have executed := @execute_delivers config source path destination options library encoders disk
      patience heard metadata found hasRoom faultless enough
    refine returns_bind (returns_outcome (executed.imp (fun written left done => ?_)
      fun error left _ => ?_))
    · refine (Compression.conclude_reports.keeping conclude_keeps_storage rfl).imp
        (fun report last ends completed => ?_) fun _ _ _ => trivial
      obtain ⟨⟨rfl, parameters, -, outcome⟩, same⟩ := ends
      rw [completed] at outcome
      have some : written.2.videoSamples ≠ 0 := fun none =>
        nomatch (if_pos none).symm.trans outcome.symm
      obtain ⟨plan, window, chosen, delivered⟩ := done some
      exact ⟨plan, _, some, window, parameters ▸ chosen, same ▸ delivered⟩
    · exact Compression.abort_yields_nothing
  · exact returns_bind (returns_modify Compression.abort_yields_nothing)

end

namespace Trial

section
variable {config : Config} {options : Options} {encoders : List CodecInfo} {library : Library}
  {disk : Disk} {source : Source} {path : Path}

/-- What is delivered by a compression that completes. -/
theorem delivered_of_completed (built : source.Built) (found : library.source? path = some source)
    (faultless : library.faults = {}) (destination : Path) :
    let rig : Rig Bench := ⟨{ library }, { catalog := .new encoders {} }, .new none none disk⟩
    let trial := Trial.compression rig false false (compressing config path destination options)
    ∀ report, trial.result = .ok report → report.outcome = .completed → ∃ plan written,
      written ≠ 0 ∧ plan.window = options.window.clamped report.source.duration ∧
      plan.encoder.isSome = report.parameters.transcode ∧
      Delivered source destination plan written trial.rig.storage := by
  intro rig trial report returned completed
  let job : Compression (Rig Bench) := compressing config path destination options
  have enough : source.samples.length < rig.patienceFor rig.device.catalog.faults := by
    have counted : source.samples.length ≤ rig.sampleCount := samples_le_of_source? found _ _
    unfold Rig.patienceFor
    omega
  have delivers : job.run.Returns (Rig.world Bench.answer _) { outside := rig } _ _ :=
    @run_delivers config source path destination options library encoders disk _ ⟨none, false, [], 0⟩
      found built.hasRoom faultless enough
  rcases ran : job.run.run (Rig.world Bench.answer (rig.patienceFor rig.device.catalog.faults))
    { outside := rig } with ⟨result, left⟩
  have tried : trial = ⟨result, [], left.outside⟩ := by
    dsimp only [trial, compression, of, begin]
    simp only [Bool.false_eq_true, if_false]
    rw [ran]
  rw [tried] at returned ⊢
  cases returned
  exact delivers.of_ok ran completed

/-- A compression that completes has kept something of its window exactly if it transcodes, pictures of
times that can be told, or if something of the window is among what a copy takes, which is from the
sync point at or before the start. A transcode that completes has found a picture of the source in its window. -/
theorem completed_keeps_iff (built : source.Built) (found : library.source? path = some source)
    (faultless : library.faults = {}) (destination : Path) :
    let rig : Rig Bench := ⟨{ library }, { catalog := .new encoders {} }, .new none none disk⟩
    let trial := Trial.compression rig false false (compressing config path destination options)
    ∀ report, trial.result = .ok report → report.outcome = .completed →
      let window := options.window.clamped report.source.duration
      ∃ video movie track, source.tracks.findIdx? (·.isKind false) = some video ∧
        trial.rig.storage.library.movie? destination = some movie ∧
        movie.trackOf? false = some track ∧
        ((report.parameters.transcode = true →
            ∀ sample ∈ source.trackSamples video, Presentable sample.time) →
          ((∃ sample ∈ track.samples, window.admits sample.time = true) ↔
            report.parameters.transcode = true ∨
              ∃ sample ∈ copiedSamples source video window, window.admits sample.time = true)) ∧
        (report.parameters.transcode = true →
          ∃ sample ∈ source.trackSamples video, window.admits sample.time = true) := by
  intro rig trial report returned completed window
  obtain ⟨plan, written, some, within, chosen, -, video, movie, track, first, made, shown, pictured⟩ :=
    delivered_of_completed built found faultless destination report returned completed
  have within : plan.window = window := within
  obtain ⟨sample, rest, samples⟩ : ∃ sample rest, track.samples = sample :: rest :=
    List.exists_cons_of_length_pos (pictured.counted ▸ Nat.pos_of_ne_zero some)
  have member : sample ∈ track.samples := samples ▸ List.mem_cons_self
  refine ⟨video, movie, track, first, made, shown, fun presentable => ?_, fun transcodes => ?_⟩
  · cases transcodes : report.parameters.transcode with
    | true =>
      rw [transcodes] at chosen
      obtain ⟨time, ⟨own, stored, rfl⟩, admits, timed⟩ := pictured.transcoded chosen sample member
      rw [within, ← timed (presentable transcodes own stored)] at admits
      exact ⟨fun _ => .inl rfl, fun _ => ⟨sample, member, admits⟩⟩
    | false =>
      have copies : plan.encoder = none := by simpa [transcodes] using chosen
      rw [pictured.copied copies, within]
      simp [Sample.muxed, window]
  · rw [transcodes] at chosen
    obtain ⟨time, ⟨own, stored, rfl⟩, admits, -⟩ := pictured.transcoded chosen sample member
    exact ⟨own, stored, within ▸ admits⟩

end

end Trial

theorem briefMovie_copyable :
    Copyable briefMovie 0
      { Format.video videoAvc 4 2 with duration := some 100000, maxInputSize := some 1 }
      ⟨4, 2, .deg0, 100000⟩ where
  toDescribes := briefMovie_playable.toDescribes
  built := briefMovie_playable.built
  shows := by decide
  sounds audio heard := (briefMovie_playable.audible audio heard).sounds

def briefWindow (start stop : Int) : Options :=
  { width := some 4, height := some 2, start := some start, stop := some stop }

def briefCopy (options : Options) : Trial Bench Report :=
  Trial.compression ⟨{ library := ({} : Library).insert "in" briefMovie }, { catalog := .new [] {} },
    .new none none { kept := some ("in", .file #[]) }⟩
    false false (compressing {} "in" "out" options)

theorem source?_brief : (({} : Library).insert "in" briefMovie).source? "in" = some briefMovie := by
  have same : Path.same "in" "in" = true := beq_self_eq_true _
  simp [Library.source?, Library.insert, same]

theorem briefCopy_reports {options : Options} {parameters : Parameters}
    (unaltered : Unaltered {} options ⟨4, 2, .deg0, 100000⟩ parameters) :
    let copied := copiedSamples briefMovie 0 (options.window.clamped 100000)
    ∃ report, (briefCopy options).result = .ok report ∧ report.source = ⟨4, 2, .deg0, 100000⟩ ∧
      report.parameters = parameters ∧ report.tracks.videoSamples = copied.length ∧
      report.outcome = if copied.length = 0 then .emptyResult else .completed := by
  have readable : ({ kept := some ("in", .file #[]) } : Disk).look "in" = .ok (.file #[]) := by
    have same : Path.same "in" "in" = true := beq_self_eq_true _
    simp [Disk.look, same]
  exact Trial.compression_copies briefMovie_copyable unaltered source?_brief rfl readable "out"

/-- Of a window around a picture, the copy keeps that picture. -/
theorem completed_keeps_iff_brief :
    ∃ report movie track, (briefCopy (briefWindow 30000 50000)).result = .ok report ∧
      report.outcome = .completed ∧
      (briefCopy (briefWindow 30000 50000)).rig.storage.library.movie? "out" = some movie ∧
      movie.trackOf? false = some track ∧
      ∃ sample ∈ track.samples, 30000 ≤ sample.time ∧ sample.time < 50000 := by
  obtain ⟨report, returned, told, parameters, counted, outcome⟩ :=
    @briefCopy_reports (briefWindow 30000 50000) ⟨4, 2, 4000000, .deg0, .deg0, false⟩
      ⟨(briefOptions_feasible "").configured, rfl, rfl, rfl, rfl⟩
  have completed : report.outcome = .completed := outcome.trans (by decide)
  obtain ⟨video, movie, track, first, made, shown, keeps, -⟩ :=
    Trial.completed_keeps_iff briefMovie_playable.built source?_brief rfl "out" report returned completed
  obtain rfl : 0 = video := Option.some.inj (briefMovie_playable.first.symm.trans first)
  rw [told] at keeps
  obtain ⟨sample, member, admits⟩ :=
    (keeps fun _ => briefMovie_presentable).mpr (.inr (by decide))
  have window : (briefWindow 30000 50000).window.clamped 100000 = ⟨30000, some 50000⟩ := rfl
  rw [window] at admits
  refine ⟨report, movie, track, returned, completed, made, shown, sample, member, ?_⟩
  simpa [Window.admits, Window.isBeforeStart, Window.hasEnded] using admits

/-- Between two pictures there is none, and yet the copy of those before completes. -/
theorem completed_between_pictures :
    ∃ report movie track, (briefCopy (briefWindow 50000 55000)).result = .ok report ∧
      report.outcome = .completed ∧
      (briefCopy (briefWindow 50000 55000)).rig.storage.library.movie? "out" = some movie ∧
      movie.trackOf? false = some track ∧
      ∀ sample ∈ track.samples, ¬(50000 ≤ sample.time ∧ sample.time < 55000) := by
  obtain ⟨report, returned, told, parameters, counted, outcome⟩ :=
    @briefCopy_reports (briefWindow 50000 55000) ⟨4, 2, 4000000, .deg0, .deg0, false⟩
      ⟨(briefOptions_feasible "").configured, rfl, rfl, rfl, rfl⟩
  have completed : report.outcome = .completed := outcome.trans (by decide)
  obtain ⟨plan, written, some, within, chosen, -, video, movie, track, first, made, shown, pictured⟩ :=
    Trial.delivered_of_completed briefMovie_playable.built source?_brief rfl "out" report returned
      completed
  obtain rfl : 0 = video := Option.some.inj (briefMovie_playable.first.symm.trans first)
  refine ⟨report, movie, track, returned, completed, made, shown, ?_⟩
  have copies : plan.encoder = none := by simpa [parameters] using chosen
  rw [told] at within
  rw [pictured.copied copies, within]
  decide

end Recode.Simulation
