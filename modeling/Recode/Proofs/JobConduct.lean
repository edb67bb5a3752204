import Recode.Job.Compression
import Recode.Proofs.SessionConduct

/-!
What compressions are made of. A look at a source writes nothing and tells nothing, the search for an
encoder only asks which codecs there are, and what writes the tracks stays with the movie that the
job began for them.
-/

namespace Recode.Session.Call

def IsLook : Call → Prop
  | .storage (.openSource _) | .storage .releaseDemuxer | .storage .trackCount
  | .storage (.trackFormat _) | .storage (.select _) | .storage (.unselect _)
  | .storage (.seek _ _) | .storage .currentTrack | .storage .currentTime
  | .storage .currentFlags | .storage (.read _) | .storage .advance | .client (.openFile _) => True
  | _ => False

def IsListing : Call → Prop
  | .storage .trackCount | .storage (.trackFormat _) => True
  | _ => False

theorem IsListing.isLook {call : Call} (listing : call.IsListing) : call.IsLook := by
  unfold IsListing at listing
  split at listing <;> trivial

theorem IsListing.worksOnTracks {call : Call} (listing : call.IsListing) : call.WorksOnTracks := by
  unfold IsListing at listing
  split at listing <;> trivial

end Recode.Session.Call

namespace Recode.Job
open Recode.Media Recode.Container Recode.Device Recode.Progress Recode.Session
open Recode.Session.Work

variable {σ : Type}

theorem firstTrackOf_uses {isAudio : Bool} (indices : List Nat) :
    (firstTrackOf isAudio indices : Work σ (Option Nat)).Uses Call.IsListing := by
  induction indices with
  | nil => exact .pure none
  | cons index rest ih =>
    refine .bind (.call trivial trivial) fun answer => ?_
    cases answer with
    | error refused => exact ih
    | ok format =>
      dsimp only
      split
      next found => exact .pure _
      next other => exact ih

theorem findTrack_uses {isAudio : Bool} :
    (findTrack isAudio : Work σ (Option Nat)).Uses Call.IsListing :=
  .bind (.call trivial trivial) fun count => firstTrackOf_uses (List.range count)

theorem videoTrack_uses {path : Path} : (videoTrack path : Work σ Nat).Uses Call.IsListing := by
  refine .bind findTrack_uses fun found => ?_
  cases found with
  | none => exact .stop _
  | some index => exact .pure index

theorem metadataOf_uses {path : Path} : (metadataOf path : Work σ Metadata).Uses Call.IsListing := by
  refine .bind videoTrack_uses fun index => .granted (.call trivial trivial) fun format => ?_
  cases format.width with
  | none => exact .stop _
  | some width =>
    cases format.height with
    | none => exact .stop _
    | some height => exact .pure _

theorem probeContainer_uses {path : Path} :
    (probeContainer path : Work σ Metadata).Uses Call.IsLook :=
  .granted (.call trivial trivial) fun _ =>
    .attempted (metadataOf_uses.weaken fun _ => Call.IsListing.isLook) trivial trivial

namespace Compression
variable {job : Compression σ}

theorem prepare_uses (looks : ∀ path, (job.probe path).Uses Call.IsLook) :
    job.prepare.Uses Call.IsLook := by
  refine .bind .settle fun _ => .bind .settle fun _ => .bind (.call trivial trivial) fun answer => ?_
  cases answer with
  | error text => exact .stop _
  | ok _ => exact looks job.source

theorem plan_uses {source : Metadata} :
    (job.plan source).Uses (· = .device .codecs) := by
  refine .bind .settle fun parameters => ?_
  dsimp only
  split
  next transcodes => exact .bind (.call rfl trivial) fun _ => .bind .settle fun _ => .pure _
  next copies => exact .pure _

theorem writeEmpty_uses {plan : Plan} {video : Track} {audio : Option Track} :
    (job.writeEmpty plan video audio).Uses Call.WorksOnTracks := by
  refine .granted (.call trivial trivial) fun _ => ?_
  cases audio with
  | none => exact .pure _
  | some track => exact .granted (.call trivial trivial) fun _ => .pure _

theorem writeVideo_uses {plan : Plan} {video : Track} :
    (job.writeVideo plan video).Uses Call.WorksOnTracks := by
  unfold writeVideo
  split
  next encoder => exact .bind transcode_uses fun _ => .pure _
  next copies =>
    exact .bind (copyTrack_uses.weaken fun _ => Call.IsCopying.worksOnTracks) fun _ => .pure _

def writeFound (job : Compression σ) (plan : Plan) (video : Track) (audio : Option Track) :
    Work σ TrackSummary := do
  if plan.window.isEmpty then job.writeEmpty plan video audio
  else
    let summary ← job.writeVideo plan video
    match audio with
    | some track =>
        let window := audioWindow plan.window summary.firstVideoTime
        let outcome ← copyTrack track window false
        return { summary with audioSamples := some outcome.written }
    | none => return summary

theorem writeTracks_eq {plan : Plan} :
    job.writeTracks plan = (do
      let index ← videoTrack job.source
      let video : Track := ⟨index, false, ← settle (← storage (.trackFormat index))⟩
      match ← findTrack true with
      | some index =>
          let sound : Track := ⟨index, true, ← settle (← storage (.trackFormat index))⟩
          job.writeFound plan video (some sound)
      | none => job.writeFound plan video none) := rfl

theorem writeFound_uses {plan : Plan} (video : Track) (audio : Option Track) :
    (job.writeFound plan video audio).Uses Call.WorksOnTracks := by
  refine .ite (fun selectsNothing => writeEmpty_uses) fun lasting => ?_
  refine .bind writeVideo_uses fun summary => ?_
  cases audio with
  | none => exact .pure _
  | some track =>
    exact .bind (copyTrack_uses.weaken fun _ => Call.IsCopying.worksOnTracks) fun _ => .pure _

theorem writeTracks_uses {plan : Plan} : (job.writeTracks plan).Uses Call.WorksOnTracks := by
  rw [writeTracks_eq]
  have widens (call : Call) : call.IsListing → call.WorksOnTracks := Call.IsListing.worksOnTracks
  refine .bind (videoTrack_uses.weaken widens) fun index => ?_
  refine .granted (.call trivial trivial) fun format => ?_
  refine .bind (findTrack_uses.weaken widens) fun sound => ?_
  cases sound with
  | none => exact writeFound_uses _ none
  | some index =>
    exact .granted (.call trivial trivial) fun format => writeFound_uses _ (some _)

section
variable {world : World σ} {kept : Desk σ → Prop}
  (lists : ∀ call, call.IsListing → (ask call).Keeps world kept)
  (adds : ∀ format isAudio, (storage (.addTrack format isAudio)).Keeps world kept)
  (transcodes : ∀ plan, (transcode plan).Keeps world kept)
  (copies : ∀ track window reporting, (copyTrack track window reporting).Keeps world kept)
include adds transcodes copies

theorem writeFound_keeps {plan : Plan} (video : Track) (audio : Option Track) :
    (job.writeFound plan video audio).Keeps world kept := by
  have empty : (job.writeEmpty plan video audio).Keeps world kept := by
    refine keeps_bind (adds _ _) fun added => keeps_bind (keeps_settle added) fun _ => ?_
    cases audio with
    | none => exact keeps_pure _
    | some track =>
      exact keeps_bind (adds _ _) fun added => keeps_bind (keeps_settle added) fun _ => keeps_pure _
  have pictures : (job.writeVideo plan video).Keeps world kept := by
    unfold writeVideo
    split
    next encoder => exact keeps_bind (transcodes _) fun _ => keeps_pure _
    next copied => exact keeps_bind (copies _ _ _) fun _ => keeps_pure _
  unfold writeFound
  split
  next selectsNothing => exact empty
  next lasting =>
    refine keeps_bind pictures fun summary => ?_
    cases audio with
    | none => exact keeps_pure _
    | some track => exact keeps_bind (copies _ _ _) fun _ => keeps_pure _

include lists

theorem writeTracks_keeps {plan : Plan} : (job.writeTracks plan).Keeps world kept := by
  have finds {α : Type} {work : Work σ α} (uses : work.Uses Call.IsListing) :
      work.Keeps world kept :=
    uses.keeps (fun call listing _ => lists call listing) fun told => (told (.failed "")).elim
  rw [writeTracks_eq]
  refine keeps_bind (finds videoTrack_uses) fun index => ?_
  refine keeps_bind (lists (.storage (.trackFormat index)) trivial) fun format => ?_
  refine keeps_bind (keeps_settle format) fun _ => keeps_bind (finds findTrack_uses) fun sound => ?_
  cases sound with
  | none => exact writeFound_keeps adds transcodes copies _ none
  | some index =>
    refine keeps_bind (lists (.storage (.trackFormat index)) trivial) fun format => ?_
    exact keeps_bind (keeps_settle format) fun _ => writeFound_keeps adds transcodes copies _ (some _)

end

theorem writeDestination_uses {plan : Plan} : (job.writeDestination plan).Uses fun _ => True := by
  refine .granted (.call trivial trivial) fun _ => ?_
  refine .attempt (writeTracks_uses.weaken fun _ _ => trivial) trivial trivial fun finalized tracks => ?_
  exact .bind .settle fun _ => .pure tracks

theorem execute_uses {source : Metadata} : (job.execute source).Uses fun _ => True := by
  refine .bind (plan_uses.weaken fun _ _ => trivial) fun plan => ?_
  refine .granted (.call trivial trivial) fun _ => ?_
  exact .attempt writeDestination_uses trivial trivial fun _ tracks => .pure (plan.parameters, tracks)

theorem conclude_eq_tell_bind {source : Metadata} {parameters : Parameters} {tracks : TrackSummary} :
    ∃ (ended : Outcome) (rest : Work σ Report),
      job.conclude source parameters tracks = Work.tell (.complete ended) >>= (fun _ => rest) ∧
        ∀ calls : Call → Prop, calls (.client (.removeFile job.source)) → rest.Uses calls := by
  unfold conclude
  generalize (if tracks.videoSamples = 0 then Outcome.emptyResult else .completed) = ended
  refine ⟨ended, _, rfl, fun calls allowed => ?_⟩
  dsimp only
  split
  next removes => exact .bind (.call allowed trivial) fun _ => .pure _
  next keeps => exact .bind (.pure false) fun _ => .pure _

theorem conclude_reports {world : World σ} {desk : Desk σ} {source : Metadata}
    {parameters : Parameters} {tracks : TrackSummary} :
    (job.conclude source parameters tracks).Returns world desk
      (fun report _ => report.source = source ∧ report.parameters = parameters ∧
        report.tracks = tracks ∧
        report.outcome = if tracks.videoSamples = 0 then .emptyResult else .completed)
      fun _ _ => True := by
  have tells (outcome : Outcome) := @keeps_tell σ world (fun _ => True) (fun _ _ _ => trivial)
    (.complete outcome)
  unfold conclude
  generalize (if tracks.videoSamples = 0 then Outcome.emptyResult else .completed) = outcome
  refine returns_bind (((tells outcome).returns trivial).imp (fun _ left _ => ?_) fun _ _ _ => trivial)
  dsimp only
  split
  next removes =>
    refine returns_ask ?_
    exact returns_pure ⟨rfl, rfl, rfl, rfl⟩
  next keeps =>
    refine returns_after (run_pure false _ _) ?_
    exact returns_pure ⟨rfl, rfl, rfl, rfl⟩

/-- What all answers keep outside, a compression keeps. -/
theorem run_keeps_outside (looks : ∀ path, (job.probe path).Uses Call.IsLook) {world : World σ}
    (kept : σ → Prop) (answered : ∀ call state, kept state → kept (world.answer call state).2) :
    job.run.Keeps world fun desk => kept desk.outside := by
  have tells (request : Request) : (Work.tell request).Keeps world fun desk => kept desk.outside :=
    keeps_tell (fun event => answered _) request
  have listens (duration : Int) : (listen duration).Keeps world fun desk => kept desk.outside :=
    fun _ holds => holds
  have aborts (error : Error) :
      (abort error : Work σ Report).Keeps world fun desk => kept desk.outside :=
    keeps_bind (tells _) fun _ => keeps_stop _
  have prepares := (prepare_uses looks).keeps_outside fun call state _ => answered call state
  refine keeps_bind (keeps_outcome prepares) fun prepared => ?_
  cases prepared with
  | error error => exact keeps_bind (listens 0) fun _ => aborts error
  | ok source =>
    have executes := (@execute_uses σ job source).keeps_outside fun call state _ => answered call state
    refine keeps_bind (listens _) fun _ => keeps_bind (tells _) fun _ => ?_
    refine keeps_bind (keeps_outcome executes) fun executed => ?_
    cases executed with
    | error error => exact aborts error
    | ok written =>
      obtain ⟨ended, rest, concludes, uses⟩ :=
        @conclude_eq_tell_bind _ job source written.1 written.2
      have ends := (uses (fun _ => True) trivial).keeps_outside fun call state _ => answered call state
      have keeps := keeps_bind (tells (.complete ended)) fun _ => ends
      rwa [← concludes] at keeps

theorem abort_yields_nothing {α : Type} {world : World σ} {desk : Desk σ} {error : Error}
    {reached : α → Desk σ → Prop} :
    (abort error : Work σ α).Returns world desk reached fun _ _ => True := by
  have tells := @keeps_tell σ world (fun _ => True) (fun _ _ _ => trivial) (.fail error)
  exact returns_bind ((tells.returns trivial).imp (fun _ _ _ => returns_fail trivial)
    fun _ _ _ => trivial)

end Compression

end Recode.Job
