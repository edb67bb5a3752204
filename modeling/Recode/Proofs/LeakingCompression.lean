import Recode.Proofs.LeakingTranscode
import Recode.Proofs.SimulatedCompression

/-!
A whole compression over demuxers that leak the samples of other tracks, beside the same compression
over demuxers that do not. Its sessions agree, and what it does around them does not come to the
samples.
-/

namespace Recode.Simulation
open Recode.Media Recode.Container Recode.Device Recode.Job Recode.Picture Recode.Progress
open Recode.Session Recode.Session.Work

section
variable {α β : Type} {source : Source} {job : Compression (Rig Bench)} {count patience : Nat}
  {ahead behind : Desk (Rig Bench)}

theorem unpaired_agrees {first second : Work (Rig Bench) α}
    {faces wider : List Demuxer → List Demuxer → Prop} {world : World (Rig Bench)}
    (agrees : first.Agrees second world (Rig.Beside faces count) (Rig.Beside wider count) ahead behind) :
    first.Agrees second world (Rig.Apart count) (Rig.Apart count) ahead behind :=
  agrees.imp (fun _ _ beside => beside.imp fun _ _ _ => trivial)
    fun _ _ beside => beside.imp fun _ _ _ => trivial

theorem listing_agrees {work : Work (Rig Bench) α} (uses : work.Uses Call.IsListing)
    (held : Abreast (Rig.Twinned source none count) ahead behind) :
    work.Agrees work (Rig.world Bench.answer patience) (Rig.Twinned source none count)
      (Rig.Apart count) ahead behind := by
  obtain ⟨leaky, tight, twins, held⟩ := exists_newest held
  refine Agrees.imp (((interrupts_listing twins).uses_shadows (uses.weaken fun _ => .inr)).agrees held)
    (fun _ _ beside => beside.imp fun _ _ newest => ⟨leaky, tight, newest, twins⟩)
    fun _ _ beside => beside.imp fun _ _ _ => trivial

theorem formatOf_agrees {index : Nat} {next : Format → Work (Rig Bench) α}
    (held : Abreast (Rig.Twinned source none count) ahead behind)
    (onward : ∀ format left right,
      Abreast (Rig.Twinned source none count) left right →
      (next format).Agrees (next format) (Rig.world Bench.answer patience)
        (Rig.Twinned source none count) (Rig.Apart count) left right) :
    let looking : Work (Rig Bench) α :=
      storage (.trackFormat index) >>= fun answer => settle answer >>= next
    looking.Agrees looking (Rig.world Bench.answer patience) (Rig.Twinned source none count)
      (Rig.Apart count) ahead behind := by
  refine Agrees.bind (listing_agrees (.call trivial trivial) held) ?_
  exact fun answer left right _ held =>
    agrees_settle (unpaired_abreast held) fun format _ => onward format left right held

section
variable (few : 9 * source.samples.length + 15 < patience) {plan : Plan} {video : Track}
  {audio : Option Track}
  (held : Abreast (Rig.Twinned source none count) ahead behind)
include few held

theorem writeVideo_agrees :
    (job.writeVideo plan video).Agrees (job.writeVideo plan video) (Rig.world Bench.answer patience)
      (Rig.Twinned source none count) (Rig.Apart count) ahead behind := by
  unfold Compression.writeVideo
  split
  next encoder =>
    exact Agrees.bind (transcode_agrees few held) fun outcome left right _ held => agrees_pure held
  next copies =>
    exact Agrees.bind (copyTrack_agrees (by omega) held)
      fun outcome left right _ held => agrees_pure held

theorem writeFound_agrees :
    (job.writeFound plan video audio).Agrees (job.writeFound plan video audio)
      (Rig.world Bench.answer patience) (Rig.Twinned source none count) (Rig.Apart count) ahead
      behind := by
  unfold Compression.writeFound
  split
  next selectsNothing =>
    have adds (format : Format) (isAudio : Bool) :
        Call.SparesDemuxers (.storage (.addTrack format isAudio)) := trivial
    refine (sparing_agrees ?_ held).imp (fun _ _ beside => beside)
      fun _ _ beside => beside.imp fun _ _ _ => trivial
    refine .granted (.call (adds _ _) trivial) fun _ => ?_
    cases audio with
    | none => exact .pure _
    | some track => exact .granted (.call (adds _ _) trivial) fun _ => .pure _
  next lasting =>
    refine Agrees.bind (writeVideo_agrees few held) ?_
    intro summary left right _ held
    cases audio with
    | none => exact agrees_pure held
    | some track =>
      exact Agrees.bind (copyTrack_agrees (by omega) held)
        fun outcome left right _ held => agrees_pure held

theorem writeTracks_agrees :
    (job.writeTracks plan).Agrees (job.writeTracks plan) (Rig.world Bench.answer patience)
      (Rig.Twinned source none count) (Rig.Apart count) ahead behind := by
  rw [Compression.writeTracks_eq]
  refine Agrees.bind (listing_agrees videoTrack_uses held) ?_
  refine fun index _ _ _ held => formatOf_agrees held fun format _ _ held => ?_
  refine Agrees.bind (listing_agrees findTrack_uses held) ?_
  intro sound left right _ held
  cases sound with
  | none => exact writeFound_agrees few held
  | some index => exact formatOf_agrees held fun format left right held => writeFound_agrees few held

theorem writeDestination_agrees :
    (job.writeDestination plan).Agrees (job.writeDestination plan) (Rig.world Bench.answer patience)
      (Rig.Apart count) (Rig.Apart count) ahead behind := by
  refine agrees_ask held (held.outside.spared trivial) fun left right held =>
    agrees_settle (unpaired_abreast held) fun _ _ => ?_
  refine Agrees.bind (agrees_outcome (unpaired_agrees (writeTracks_agrees few held))) ?_
  intro written left right _ held
  exact sparing_agrees (.bind (.call trivial trivial) fun finalized => .bind .settle fun tracks =>
    .bind .settle fun _ => .pure tracks) held

end

/-- What is done with a source from its opening to its release. -/
theorem opened_agrees {path : Path} {work : Work (Rig Bench) α}
    {next : Except Error α → Work (Rig Bench) β}
    (works : ∀ source left right, source.samples.length ≤ count →
      Abreast (Rig.Twinned source none count) left right →
      work.Agrees work (Rig.world Bench.answer patience) (Rig.Apart count) (Rig.Apart count)
        left right)
    (spares : ∀ result, (next result).Uses Call.SparesDemuxers)
    (held : Abreast (Rig.Apart count) ahead behind) :
    let opening : Work (Rig Bench) β := storage (.openSource path) >>= fun answer =>
      settle answer >>= fun _ => outcome work >>= fun result =>
        storage .releaseDemuxer >>= fun _ => next result
    opening.Agrees opening (Rig.world Bench.answer patience) (Rig.Apart count) (Rig.Apart count)
      ahead behind := by
  rcases held.outside.storage.openSource path with
    ⟨error, refused, also, beside⟩ | ⟨source, few, granted, also, beside⟩
  · refine agrees_ask held (held.outside.stored ⟨also.trans refused.symm, beside⟩)
      fun left right held => agrees_settle held fun value granted => ?_
    exact nomatch refused.symm.trans granted
  · refine agrees_ask held (held.outside.stored ⟨also.trans granted.symm, beside⟩)
      fun left right held => agrees_settle (unpaired_abreast held) fun _ _ => ?_
    refine Agrees.bind (agrees_outcome (works source left right few held)) ?_
    intro result left right _ held
    exact agrees_ask held (held.outside.stored held.outside.storage.released)
      fun left right held => sparing_agrees (spares result) held

theorem probeContainer_agrees {path : Path} (held : Abreast (Rig.Apart count) ahead behind) :
    (probeContainer path).Agrees (probeContainer path) (Rig.world Bench.answer patience)
      (Rig.Apart count) (Rig.Apart count) ahead behind :=
  opened_agrees (fun _ _ _ _ held => unpaired_agrees (listing_agrees metadataOf_uses held))
    (fun _ => .settle) held

theorem execute_agrees (lasting : 9 * count + 15 < patience) {metadata : Metadata}
    (held : Abreast (Rig.Apart count) ahead behind) :
    (job.execute metadata).Agrees (job.execute metadata) (Rig.world Bench.answer patience)
      (Rig.Apart count) (Rig.Apart count) ahead behind := by
  have plans : (job.plan metadata).Uses Call.SparesDemuxers :=
    Compression.plan_uses.weaken fun call isCodecs => isCodecs ▸ trivial
  refine Agrees.bind (sparing_agrees plans held) ?_
  intro plan left right _ held
  exact opened_agrees (fun source left right few held => writeDestination_agrees (by omega) held)
    (fun result => .bind .settle fun tracks => .pure (plan.parameters, tracks)) held

theorem prepare_agrees {config : Config} {path destination : Path} {options : Options}
    (held : Abreast (Rig.Apart count) ahead behind) :
    let job : Compression (Rig Bench) := compressing config path destination options
    job.prepare.Agrees job.prepare (Rig.world Bench.answer patience) (Rig.Apart count)
      (Rig.Apart count) ahead behind := by
  intro job
  refine agrees_settle held fun _ _ => agrees_settle held fun _ _ => ?_
  refine agrees_ask held (held.outside.spared trivial) fun left right held => ?_
  split
  next text refused => exact agrees_stop held
  next opened => exact probeContainer_agrees held

theorem tell_agrees {faces : List Demuxer → List Demuxer → Prop} (request : Request)
    (held : Abreast (Rig.Beside faces count) ahead behind) :
    (Work.tell request).Agrees (Work.tell request) (Rig.world Bench.answer patience)
      (Rig.Beside faces count) (Rig.Beside faces count) ahead behind :=
  (interrupts_sparing.tell_shadows (fun _ => trivial) request).agrees held

theorem abort_agrees (error : Error) (held : Abreast (Rig.Apart count) ahead behind) :
    (Compression.abort error : Work (Rig Bench) α).Agrees (Compression.abort error)
      (Rig.world Bench.answer patience) (Rig.Apart count) (Rig.Apart count) ahead behind :=
  Agrees.bind (tell_agrees (.fail error) held) fun _ _ _ _ held => agrees_stop held

theorem conclude_agrees {metadata : Metadata} {parameters : Parameters} {tracks : TrackSummary}
    (held : Abreast (Rig.Apart count) ahead behind) :
    (job.conclude metadata parameters tracks).Agrees (job.conclude metadata parameters tracks)
      (Rig.world Bench.answer patience) (Rig.Apart count) (Rig.Apart count) ahead behind := by
  obtain ⟨ended, rest, concludes, uses⟩ :=
    @Compression.conclude_eq_tell_bind _ job metadata parameters tracks
  rw [concludes]
  exact Agrees.bind (tell_agrees _ held)
    fun _ left right _ held => sparing_agrees (uses _ trivial) held

theorem run_agrees (lasting : 9 * count + 15 < patience) {config : Config}
    {path destination : Path} {options : Options}
    (held : Abreast (Rig.Apart count) ahead behind) :
    let job : Compression (Rig Bench) := compressing config path destination options
    job.run.Agrees job.run (Rig.world Bench.answer patience) (Rig.Apart count) (Rig.Apart count)
      ahead behind := by
  intro job
  have listens {left right : Desk (Rig Bench)} (duration : Int)
      (held : Abreast (Rig.Apart count) left right) :
      (Compression.listen duration).Agrees (Compression.listen duration)
        (Rig.world Bench.answer patience) (Rig.Apart count) (Rig.Apart count) left right :=
    ⟨rfl, rfl, held.announced, held.outside⟩
  refine Agrees.bind (agrees_outcome (prepare_agrees held)) ?_
  intro prepared left right _ held
  cases prepared with
  | error error =>
    exact Agrees.bind (listens 0 held) fun _ left right _ held => abort_agrees error held
  | ok metadata =>
    refine Agrees.bind (listens metadata.duration held) ?_
    refine fun _ _ _ _ held => Agrees.bind (tell_agrees _ held) ?_
    refine fun _ _ _ _ held => Agrees.bind (agrees_outcome (execute_agrees lasting held)) ?_
    intro executed left right _ held
    cases executed with
    | error error => exact abort_agrees error held
    | ok written => exact conclude_agrees held

end

/-- What demuxers leak of other tracks makes no difference to a compression whose codecs are faultless
and that nobody cancels. It comes to the same result and leaves the same movies, and its client has
heard the same and keeps the same disk. -/
theorem Trial.compression_hides_leaks (sources : List (Path × Source)) (faults : MuxerFaults)
    (encoders : List CodecInfo) (panicAt : Option Nat) (disk : Disk) (config : Config)
    (path destination : Path) (options : Options) :
    let rig (leaks : Bool) : Rig Bench :=
      ⟨{ library := { sources, leaks, faults } }, { catalog := .new encoders {} },
        .new none panicAt disk⟩
    let trial (leaks : Bool) : Trial Bench Report :=
      compression (rig leaks) false false (compressing config path destination options)
    (trial true).result = (trial false).result ∧
      (∀ place, (trial true).rig.storage.library.movie? place =
        (trial false).rig.storage.library.movie? place) ∧
      (trial true).rig.client = (trial false).rig.client := by
  intro rig trial
  have faultless : (rig false).device.IsFaultless := Bench.isFaultless_new encoders
  have counted (entry : Path × Source) (member : entry ∈ sources) :
      entry.2.samples.length ≤ (rig true).sampleCount :=
    @samples_le_of_mem { sources, leaks := true, faults } entry member _ _
  have held : Abreast (Rig.Apart (rig true).sampleCount) { outside := rig true }
      { outside := rig false } := {
    reporter := rfl
    announced := rfl
    outside := {
      storage := ⟨⟨[], rfl, trivial⟩, rfl, counted⟩
      device := .refl faultless
      client := rfl
      willing := ⟨rfl, rfl⟩ } }
  have lasting : 9 * (rig true).sampleCount + 15 < (rig true).patienceFor {} := by
    unfold Rig.patienceFor
    omega
  have agrees := @run_agrees _ _ _ _ lasting config path destination options held
  have last := agrees.abreast.outside
  obtain ⟨demuxers, same, -⟩ := last.storage.same
  dsimp only [trial]
  rw [compression_run, compression_run]
  exact ⟨agrees.1.symm, fun place => (congrArg (·.library.movie? place) same).symm, last.client.symm⟩

end Recode.Simulation
