import Recode.Proofs.Announcements
import Recode.Proofs.ReportedTracks

/-!
What becomes of a destination and of the source it is made from. A movie is begun once everything
that could stop the job beforehand has been accepted; once begun it is finalized once, whichever way
its tracks came to an end, and of two errors the first is told. The source is only removed behind a
destination that was finalized and holds pictures.
-/

namespace Recode.Session
open Recode.Container Recode.Progress
open Recode.Session.Work

namespace Call

def IsAside : Call → Prop
  | .storage (.createMovie _ _) | .storage .finalize | .client (.removeFile _) => False
  | _ => True

theorem IsLook.isAside {call : Call} (look : call.IsLook) : call.IsAside := by
  unfold IsAside
  split <;> trivial

theorem WorksOnTracks.isAside {call : Call} (works : call.WorksOnTracks) : call.IsAside := by
  unfold IsAside
  split <;> trivial

end Call

namespace Exchange

def asksMovie : Exchange → Bool
  | ⟨.storage (.createMovie _ _), _⟩ => true
  | _ => false

def beginsMovie : Exchange → Bool
  | ⟨.storage (.createMovie _ _), .ok _⟩ => true
  | _ => false

def asksFinalize : Exchange → Bool
  | ⟨.storage .finalize, _⟩ => true
  | _ => false

def finalizes : Exchange → Bool
  | ⟨.storage .finalize, .ok _⟩ => true
  | _ => false

def removes : Exchange → Bool
  | ⟨.client (.removeFile _), _⟩ => true
  | _ => false

end Exchange

structure Milestones where
  asked : Nat := 0
  begun : Nat := 0
  closed : Nat := 0
  finalized : Nat := 0
  removed : Nat := 0
  deriving DecidableEq, Repr

def History.milestones (history : History) : Milestones where
  asked := history.countP Exchange.asksMovie
  begun := history.countP Exchange.beginsMovie
  closed := history.countP Exchange.asksFinalize
  finalized := history.countP Exchange.finalizes
  removed := history.countP Exchange.removes

section
variable {call : Call} {history : History}

theorem Exchange.aside (isAside : call.IsAside) (reply : call.Reply) :
    asksMovie ⟨call, reply⟩ = false ∧ beginsMovie ⟨call, reply⟩ = false ∧
      asksFinalize ⟨call, reply⟩ = false ∧ finalizes ⟨call, reply⟩ = false ∧
      removes ⟨call, reply⟩ = false := by
  rcases call with call | call | call <;> cases call <;>
    first | exact isAside.elim | exact ⟨rfl, rfl, rfl, rfl, rfl⟩

theorem History.milestones_cons (latest : Exchange) (history : History) :
    milestones (latest :: history) =
      ⟨history.milestones.asked + if latest.asksMovie then 1 else 0,
        history.milestones.begun + if latest.beginsMovie then 1 else 0,
        history.milestones.closed + if latest.asksFinalize then 1 else 0,
        history.milestones.finalized + if latest.finalizes then 1 else 0,
        history.milestones.removed + if latest.removes then 1 else 0⟩ := by
  simp only [milestones, List.countP_cons]

theorem History.milestones_aside (isAside : call.IsAside) (reply : call.Reply) :
    milestones (⟨call, reply⟩ :: history) = history.milestones := by
  obtain ⟨movie, begun, finalize, finalized, file⟩ := Exchange.aside isAside reply
  rw [milestones_cons, movie, begun, finalize, finalized, file]
  rfl

end

end Recode.Session

namespace Recode.Job
open Recode.Media Recode.Container Recode.Device Recode.Progress Recode.Session
open Recode.Session.Work

namespace Compression
variable {σ : Type}

/-- Nothing is wrong with what the job was asked, nor with its source, and the source was opened
last. -/
structure Accepts (job : Compression σ) (metadata : Metadata) (parameters : Parameters)
    (earlier : History) : Prop where
  configured : job.config.validate = .ok ()
  asked : job.options.validate = .ok ()
  readable : ⟨.client (.openFile job.source), .ok ()⟩ ∈ earlier
  resolved : Parameters.resolve job.options metadata job.config.platform = .ok parameters
  /-- Where an encoder is needed, one was found among the codecs that there are. -/
  encodable : parameters.transcode = true →
    (job.options.window.clamped metadata.duration).isEmpty = false →
    ∃ codecs encoder, ⟨.device .codecs, codecs⟩ ∈ earlier ∧
      resolve codecs job.config.platform job.config.pipeline.mime parameters.width
        parameters.height = .ok encoder
  opened : earlier.head? = some ⟨.storage (.openSource job.source), .ok ()⟩

/-- When a movie may be begun and finalized, and when the source may be removed. -/
structure Allows (job : Compression σ) (accepted : History → Prop) (latest : Exchange)
    (earlier : History) : Prop where
  movie : latest.asksMovie = true → earlier.milestones.asked = 0 ∧ accepted earlier
  finalize : latest.asksFinalize = true → earlier.milestones.begun = 1 ∧ earlier.milestones.closed = 0
  remove : latest.removes = true → latest.1 = .client (.removeFile job.source) ∧
    earlier.milestones.finalized = 1 ∧ earlier.milestones.removed = 0

structure Stands (job : Compression σ) (accepted : History → Prop) (milestones : Milestones)
    (history : History) : Prop where
  orderly : history.Always (job.Allows accepted)
  milestones : history.milestones = milestones

def Ready (job : Compression σ) (accepted : History → Prop) (history : History) : Prop :=
  job.Stands accepted {} history ∧ ⟨.client (.openFile job.source), .ok ()⟩ ∈ history

/-- Whatever movie was begun, the job has asked to finalize it, and it has removed nothing. -/
def Settles (job : Compression σ) (accepted : History → Prop) (history : History) : Prop :=
  ∃ milestones, job.Stands accepted milestones history ∧ milestones.closed = milestones.begun ∧
    milestones.removed = 0

def Concludes (job : Compression σ) (accepted : History → Prop) (report : Report)
    (history : History) : Prop :=
  ∃ removed, job.Stands accepted ⟨1, 1, 1, 1, removed⟩ history ∧
    (0 < removed → report.outcome = .completed ∧ job.config.deleteSourceOnSuccess = true)

def Breaks (job : Compression σ) (accepted : History → Prop) (history : History) : Prop :=
  ∃ milestones, job.Stands accepted milestones history ∧ milestones.removed = 0

section
variable {job : Compression σ} {accepted : History → Prop} {milestones : Milestones}
  {history : History}

theorem Stands.aside (stands : job.Stands accepted milestones history) (call : Call)
    (isAside : call.IsAside) (reply : call.Reply) :
    job.Stands accepted milestones (⟨call, reply⟩ :: history) := by
  obtain ⟨movie, -, finalize, -, file⟩ := Exchange.aside isAside reply
  refine ⟨⟨⟨?_, ?_, ?_⟩, stands.orderly⟩, (History.milestones_aside isAside reply).trans
    stands.milestones⟩
  · exact fun asks => absurd (movie.symm.trans asks) Bool.false_ne_true
  · exact fun asks => absurd (finalize.symm.trans asks) Bool.false_ne_true
  · exact fun asks => absurd (file.symm.trans asks) Bool.false_ne_true

theorem Settles.aside (settles : job.Settles accepted history) (call : Call)
    (isAside : call.IsAside) (reply : call.Reply) :
    job.Settles accepted (⟨call, reply⟩ :: history) := by
  obtain ⟨milestones, stands, closed, removed⟩ := settles
  exact ⟨milestones, stands.aside call isAside reply, closed, removed⟩

theorem Ready.aside (ready : job.Ready accepted history) (call : Call) (isAside : call.IsAside)
    (reply : call.Reply) : job.Ready accepted (⟨call, reply⟩ :: history) :=
  ⟨ready.1.aside call isAside reply, List.mem_cons_of_mem _ ready.2⟩

theorem Ready.settles (ready : job.Ready accepted history) : job.Settles accepted history :=
  ⟨_, ready.1, rfl, rfl⟩

theorem Settles.breaks (settles : job.Settles accepted history) : job.Breaks accepted history := by
  obtain ⟨milestones, stands, -, removed⟩ := settles
  exact ⟨milestones, stands, removed⟩

/-- A movie is asked for once, of which nothing may come. -/
theorem Stands.createMovie (stands : job.Stands accepted {} history) (admitted : accepted history)
    {path : Path} {settings : MovieSettings} (reply : Except Error Unit) :
    job.Stands accepted { asked := 1, begun := if reply.isOk then 1 else 0 }
      (⟨.storage (.createMovie path settings), reply⟩ :: history) := by
  have asked : history.milestones.asked = 0 := stands.milestones ▸ rfl
  refine ⟨⟨⟨fun _ => ⟨asked, admitted⟩, nofun, nofun⟩, stands.orderly⟩, ?_⟩
  rw [History.milestones_cons, stands.milestones]
  cases reply <;> rfl

theorem Stands.finalize (stands : job.Stands accepted ⟨1, 1, 0, 0, 0⟩ history)
    (reply : Except Error Unit) :
    job.Stands accepted ⟨1, 1, 1, if reply.isOk then 1 else 0, 0⟩
      (⟨.storage .finalize, reply⟩ :: history) := by
  have begun : history.milestones.begun = 1 := stands.milestones ▸ rfl
  have unclosed : history.milestones.closed = 0 := stands.milestones ▸ rfl
  refine ⟨⟨⟨nofun, fun _ => ⟨begun, unclosed⟩, nofun⟩, stands.orderly⟩, ?_⟩
  rw [History.milestones_cons, stands.milestones]
  cases reply <;> rfl

theorem Stands.remove (stands : job.Stands accepted ⟨1, 1, 1, 1, 0⟩ history) (reply : Bool) :
    job.Stands accepted ⟨1, 1, 1, 1, 1⟩ (⟨.client (.removeFile job.source), reply⟩ :: history) := by
  have finalized : history.milestones.finalized = 1 := stands.milestones ▸ rfl
  have unremoved : history.milestones.removed = 0 := stands.milestones ▸ rfl
  refine ⟨⟨⟨nofun, nofun, fun _ => ⟨rfl, finalized, unremoved⟩⟩, stands.orderly⟩, ?_⟩
  rw [History.milestones_cons, stands.milestones]
  rfl

end

variable {job : Compression (History × σ)} {accepted : History → Prop} {milestones : Milestones}
  {world : World σ} {desk : Desk (History × σ)}

theorem ok_of_mapError {ε ζ α : Type} {rename : ε → ζ} {answer : Except ε α} {value : α}
    (found : answer.mapError rename = .ok value) : answer = .ok value := by
  cases answer with
  | error error => exact nomatch found
  | ok other => exact congrArg Except.ok (Except.ok.inj found)

theorem prepare_accepts (looks : ∀ path, (job.probe path).Uses Call.IsLook) :
    job.prepare.Returns world.recorded desk
      (fun _ left => job.config.validate = .ok () ∧ job.options.validate = .ok () ∧
        ⟨.client (.openFile job.source), .ok ()⟩ ∈ left.outside.1)
      fun _ _ => True := by
  refine returns_settle (fun _ _ => trivial) fun _ configured => ?_
  refine returns_settle (fun _ _ => trivial) fun _ asked => returns_ask ?_
  have probed (left : Desk (History × σ))
      (readable : ⟨.client (.openFile job.source), .ok ()⟩ ∈ left.outside.1) :
      (job.probe job.source).Returns world.recorded left
        (fun _ left => job.config.validate = .ok () ∧ job.options.validate = .ok () ∧
          ⟨.client (.openFile job.source), .ok ()⟩ ∈ left.outside.1)
        fun _ _ => True := by
    have keeps : (job.probe job.source).Keeps world.recorded fun desk =>
        ⟨.client (.openFile job.source), .ok ()⟩ ∈ desk.outside.1 :=
      (looks job.source).keeps_history (⟨.client (.openFile job.source), .ok ()⟩ ∈ ·)
        fun _ _ _ _ found => List.mem_cons_of_mem _ found
    exact (keeps.returns readable).imp (fun _ _ found => ⟨configured, asked, found⟩)
      fun _ _ _ => trivial
  have told : (world.recorded.answer (.client (.openFile job.source)) desk.outside).2.1.head? =
      some ⟨_, (world.recorded.answer (.client (.openFile job.source)) desk.outside).1⟩ := rfl
  cases replied : (world.recorded.answer (.client (.openFile job.source)) desk.outside).1 with
  | error text => exact returns_fail trivial
  | ok _ =>
    rw [replied] at told
    exact probed _ (List.mem_of_mem_head? told)

theorem plan_accepts {metadata : Metadata} :
    (job.plan metadata).Returns world.recorded desk
      (fun plan left => Parameters.resolve job.options metadata job.config.platform =
          .ok plan.parameters ∧
        (plan.parameters.transcode = true →
          (job.options.window.clamped metadata.duration).isEmpty = false →
          ∃ codecs encoder, ⟨.device .codecs, codecs⟩ ∈ left.outside.1 ∧
            resolve codecs job.config.platform job.config.pipeline.mime plan.parameters.width
              plan.parameters.height = .ok encoder))
      fun _ _ => True := by
  refine returns_settle (fun _ _ => trivial) fun parameters resolved => ?_
  refine returns_ite (fun needed => returns_ask ?_) fun unneeded => returns_pure ⟨resolved, ?_⟩
  · refine returns_settle (fun _ _ => trivial) fun encoder found => returns_pure ⟨resolved, ?_⟩
    exact fun _ _ => ⟨_, encoder, List.mem_cons_self, ok_of_mapError found⟩
  · intro transcodes lasting
    rw [transcodes, lasting] at unneeded
    exact absurd rfl unneeded

theorem Uses.stands {α : Type} {calls : Call → Prop} {work : Work (History × σ) α}
    (uses : work.Uses calls) (aside : ∀ call, calls call → call.IsAside) :
    work.Keeps world.recorded fun desk => job.Stands accepted milestones desk.outside.1 :=
  uses.keeps_history (job.Stands accepted milestones) fun call reply _ allowed stands =>
    stands.aside call (aside call allowed) reply

theorem tell_keeps_settles (request : Request) :
    (tell request : Work (History × σ) Unit).Keeps world.recorded
      fun desk => job.Settles accepted desk.outside.1 :=
  keeps_tell_history request (job.Settles accepted) fun event reply _ settles =>
    settles.aside (.client (.deliver event)) trivial reply

theorem writeDestination_ends {plan : Plan} (stands : job.Stands accepted {} desk.outside.1)
    (admitted : accepted desk.outside.1) :
    (job.writeDestination plan).Ends world.recorded desk
      (fun _ left => job.Stands accepted ⟨1, 1, 1, 1, 0⟩ left.outside.1)
      (fun _ left => job.Settles accepted left.outside.1)
      fun left => job.Breaks accepted left.outside.1 := by
  refine ends_recorded fun reply left added => ?_
  have begun : job.Stands accepted { asked := 1, begun := if reply.isOk then 1 else 0 }
      left.outside.1 := added ▸ stands.createMovie admitted reply
  refine ends_settle ?_ ?_
  · rintro error rfl
    exact ⟨_, begun, rfl, rfl⟩
  rintro _ rfl
  have writes : (job.writeTracks plan).Keeps world.recorded fun desk =>
      job.Stands accepted ⟨1, 1, 0, 0, 0⟩ desk.outside.1 :=
    Uses.stands writeTracks_uses fun _ => Call.WorksOnTracks.isAside
  have closes (written : Except Error TrackSummary) (left : Desk (History × σ))
      (stands : job.Stands accepted ⟨1, 1, 0, 0, 0⟩ left.outside.1) :
      (storage .finalize >>= fun finalized => settle written >>= fun tracks =>
        settle finalized >>= fun _ => pure tracks).Ends world.recorded left
        (fun _ left => job.Stands accepted ⟨1, 1, 1, 1, 0⟩ left.outside.1)
        (fun _ left => job.Settles accepted left.outside.1)
        fun left => job.Breaks accepted left.outside.1 := by
    refine ends_recorded fun reply left added => ?_
    have closed : job.Stands accepted ⟨1, 1, 1, if reply.isOk then 1 else 0, 0⟩ left.outside.1 :=
      added ▸ stands.finalize reply
    have settles : job.Settles accepted left.outside.1 := ⟨_, closed, rfl, rfl⟩
    refine ends_settle (fun _ _ => settles) fun tracks _ => ends_settle (fun _ _ => settles) ?_
    rintro _ rfl
    exact ends_pure closed
  refine ends_bind (ends_outcome (((writes.ends begun).imp ?_ ?_) fun left stands => ⟨_, stands, rfl⟩))
  · exact fun tracks left stands => closes (.ok tracks) left stands
  · exact fun error left stands => closes (.error error) left stands

/-- The source is opened before the destination is begun, and released behind it. -/
theorem execute_ends {metadata : Metadata} (configured : job.config.validate = .ok ())
    (asked : job.options.validate = .ok ()) (ready : job.Ready accepted desk.outside.1)
    (admits : ∀ parameters earlier, job.Accepts metadata parameters earlier → accepted earlier) :
    (job.execute metadata).Ends world.recorded desk
      (fun _ left => job.Stands accepted ⟨1, 1, 1, 1, 0⟩ left.outside.1)
      (fun _ left => job.Settles accepted left.outside.1)
      fun left => job.Breaks accepted left.outside.1 := by
  have plans : (job.plan metadata).Keeps world.recorded fun desk =>
      job.Ready accepted desk.outside.1 :=
    plan_uses.keeps_history (job.Ready accepted) fun call reply _ codecs ready =>
      ready.aside call (codecs ▸ trivial) reply
  refine Ends.bind (((plans.ends ready).and plan_accepts.ends).imp (fun _ _ => id)
    (fun _ _ held => held.1.settles) fun _ held => held.1.settles.breaks) fun plan left held => ?_
  obtain ⟨⟨stands, readable⟩, resolved, encodable⟩ := held
  refine ends_recorded fun reply left added => ?_
  replace stands : job.Stands accepted {} left.outside.1 := added ▸
    stands.aside (.storage (.openSource job.source)) trivial reply
  refine ends_settle (fun _ _ => ⟨_, stands, rfl, rfl⟩) ?_
  rintro _ rfl
  have admitted : accepted left.outside.1 := by
    rw [added]
    refine admits plan.parameters _ ⟨configured, asked, List.mem_cons_of_mem _ readable, resolved,
      fun transcodes lasting => ?_, rfl⟩
    obtain ⟨codecs, encoder, told, found⟩ := encodable transcodes lasting
    exact ⟨codecs, encoder, List.mem_cons_of_mem _ told, found⟩
  refine ends_bind (ends_outcome ((writeDestination_ends stands admitted).imp
    (fun tracks left stands => ?_) (fun error left settles => ?_) fun _ => id))
  · refine ends_recorded fun reply left added => ends_pure ?_
    exact added ▸ stands.aside (.storage .releaseDemuxer) trivial reply
  · refine ends_recorded fun reply left added => ends_fail ?_
    exact added ▸ settles.aside (.storage .releaseDemuxer) trivial reply

theorem abort_ends {error : Error} (settles : job.Settles accepted desk.outside.1) :
    (abort error : Work (History × σ) Report).Ends world.recorded desk (fun _ _ => False)
      (fun _ left => job.Settles accepted left.outside.1)
      fun left => job.Breaks accepted left.outside.1 :=
  Ends.bind (((tell_keeps_settles (.fail error)).ends settles).imp (fun _ _ => id) (fun _ _ => id)
    fun _ => Settles.breaks) fun _ _ settles => ends_fail settles

theorem conclude_ends {metadata : Metadata} {parameters : Parameters} {tracks : TrackSummary}
    (stands : job.Stands accepted ⟨1, 1, 1, 1, 0⟩ desk.outside.1) :
    (job.conclude metadata parameters tracks).Ends world.recorded desk
      (fun report left => job.Concludes accepted report left.outside.1)
      (fun _ left => job.Settles accepted left.outside.1)
      fun left => job.Breaks accepted left.outside.1 := by
  have settled {left : Desk (History × σ)} (stands : job.Stands accepted ⟨1, 1, 1, 1, 0⟩ left.outside.1) :
      job.Settles accepted left.outside.1 := ⟨_, stands, rfl, rfl⟩
  have tells (outcome : Outcome) : (tell (.complete outcome)).Keeps world.recorded fun desk =>
      job.Stands accepted ⟨1, 1, 1, 1, 0⟩ desk.outside.1 :=
    keeps_tell_history _ (job.Stands accepted ⟨1, 1, 1, 1, 0⟩) fun event reply _ stands =>
      stands.aside (.client (.deliver event)) trivial reply
  unfold conclude
  generalize (if tracks.videoSamples = 0 then Outcome.emptyResult else .completed) = outcome
  refine Ends.bind (((tells outcome).ends stands).imp (fun _ _ => id) (fun _ _ => settled)
    fun _ stands => (settled stands).breaks) fun _ left stands => ?_
  dsimp only
  split
  next removes =>
    refine ends_recorded fun reply left added => ends_pure ⟨1, ?_, fun _ => removes⟩
    exact added ▸ stands.remove reply
  next keeps => exact ends_bind (ends_pure (ends_pure ⟨0, stands, nofun⟩))

/-- However a job ends, its history is in order, and if it returns an error then it has finalized
whatever movie it began and has removed nothing. -/
theorem run_ends (looks : ∀ path, (job.probe path).Uses Call.IsLook) (fresh : desk.outside.1 = [])
    (admits : ∀ metadata parameters earlier,
      (job.prepare.run world.recorded desk).1 = .ok metadata →
      job.Accepts metadata parameters earlier → accepted earlier) :
    job.run.Ends world.recorded desk
      (fun report left => job.Concludes accepted report left.outside.1)
      (fun _ left => job.Settles accepted left.outside.1)
      fun left => job.Breaks accepted left.outside.1 := by
  have settled {left : Desk (History × σ)} (stands : job.Stands accepted {} left.outside.1) :
      job.Settles accepted left.outside.1 := ⟨_, stands, rfl, rfl⟩
  have begun : job.Stands accepted {} desk.outside.1 := by
    rw [fresh]
    exact ⟨trivial, rfl⟩
  have prepares : job.prepare.Keeps world.recorded fun desk => job.Stands accepted {} desk.outside.1 :=
    Uses.stands (prepare_uses looks) fun _ => Call.IsLook.isAside
  have tells : (Work.tell (.report 0) : Work (History × σ) Unit).Keeps world.recorded
      fun desk => job.Ready accepted desk.outside.1 :=
    keeps_tell_history _ (job.Ready accepted) fun event reply _ ready =>
      ready.aside (.client (.deliver event)) trivial reply
  have prepared := ((prepares.ends begun).and (prepare_accepts looks).ends).and
    (ends_run job.prepare world.recorded desk)
  refine ends_bind (ends_outcome (prepared.imp (fun metadata left held => ?_)
    (fun error left held => ?_) fun left held => (settled held.1.1).breaks))
  · obtain ⟨⟨stands, configured, asked, readable⟩, ran⟩ := held
    refine ends_bind (ends_modify (Ends.bind (((tells.ends ?_).imp (fun _ _ => id)
      (fun _ _ => Ready.settles) fun _ ready => ready.settles.breaks)) fun _ left ready => ?_))
    · exact ⟨stands, readable⟩
    have executes := @execute_ends σ job accepted world left metadata configured asked ready
      fun parameters earlier => admits metadata parameters earlier (congrArg Prod.fst ran)
    refine ends_bind (ends_outcome (executes.imp (fun written left stands => ?_)
      (fun error left settles => ?_) fun _ => id))
    · exact conclude_ends stands
    · exact (abort_ends settles).imp (fun _ _ => False.elim) (fun _ _ => id) fun _ => id
  · refine ends_bind (ends_modify ((abort_ends ?_).imp (fun _ _ => False.elim) (fun _ _ => id)
      fun _ => id))
    exact settled held.1.1

/-- What a job does before it writes the tracks of its movie. -/
def opening {σ : Type} (job : Compression σ) : Work σ Plan := do
  let source ← job.prepare
  withListener source.duration <| job.withSource source fun plan => job.withMovie plan (pure plan)

theorem tell_never_fails (request : Request) :
    (tell request).Returns world.recorded desk (fun _ _ => True) fun _ _ => False := by
  cases has : desk.reporter with
  | none =>
    unfold Returns
    rw [run_tell_none has]
    trivial
  | some reporter => exact (tell_returns has request).imp (fun _ _ _ => trivial) fun _ _ => id

/-- An error in the writing of the tracks is what the job returns, whatever comes of the movie. -/
theorem run_returns_first_error {plan : Plan} {begun left : Desk (History × σ)} {error : Error}
    (opened : job.opening.run world.recorded desk = (.ok plan, begun))
    (broke : (job.writeTracks plan).run world.recorded begun = (.error (.failed error), left)) :
    job.run.Returns world.recorded desk (fun _ _ => False) fun told _ => told = error := by
  obtain ⟨source, prepared, readied, opened⟩ := ran_bind opened
  obtain ⟨_, listening, listened, opened⟩ := ran_bind opened
  obtain ⟨_, telling, told, opened⟩ := ran_bind opened
  obtain ⟨planned, planning, plans, opened⟩ := ran_bind opened
  obtain ⟨sourced, sourcing, asked, opened⟩ := ran_bind opened
  obtain ⟨_, sourceOpened, opened⟩ := ran_settle opened
  obtain ⟨movie, creating, created, opened⟩ := ran_bind opened
  obtain ⟨_, movieBegun, opened⟩ := ran_settle opened
  subst sourceOpened movieBegun
  cases opened
  refine returns_after (run_outcome_ok readied) (returns_after listened (returns_after told ?_))
  have executed : (job.execute source).Returns world.recorded telling (fun _ _ => False)
      fun told _ => told = error := by
    refine returns_after plans (returns_after asked (returns_after (run_settle_ok _ _ _) ?_))
    have written : (job.writeDestination plan).Returns world.recorded sourcing (fun _ _ => False)
        fun told _ => told = error := by
      refine returns_after created (returns_after (run_settle_ok _ _ _) ?_)
      exact returns_after (run_outcome_error broke) (returns_ask (returns_fail rfl))
    refine returns_bind (returns_outcome (written.imp (fun _ _ => False.elim) ?_))
    rintro _ last rfl
    exact returns_ask (returns_fail rfl)
  refine returns_bind (returns_outcome (executed.imp (fun _ _ => False.elim) ?_))
  rintro _ last rfl
  exact returns_bind ((tell_never_fails (.fail _)).imp (fun _ _ _ => returns_fail rfl)
    fun _ _ => False.elim)

end Compression

end Recode.Job

namespace Recode.Simulation
open Recode.Media Recode.Container Recode.Device Recode.Progress Recode.Session Recode.Job
open Recode.Session.Work

section
variable {δ : Type} (device : (call : DeviceCall) → δ → call.Reply × δ) (patience : Nat)

theorem Rig.disk_answer (call : Call) (rig : Rig δ) :
    (∃ path, call = .client (.removeFile path)) ∨
      ((world device patience).answer call rig).2.client.disk = rig.client.disk := by
  cases call with
  | storage call => exact .inr rfl
  | device call => exact .inr rfl
  | client call =>
    cases call with
    | removeFile path => exact .inl ⟨path, rfl⟩
    | deliver event =>
      right
      show (rig.client.deliver event).2.disk = _
      unfold Client.deliver
      split <;> rfl
    | _ => exact .inr rfl

theorem run_keeps_disk {job : Compression (History × Rig δ)}
    (looks : ∀ path, (job.probe path).Uses Call.IsLook) (disk : Disk) :
    job.run.Keeps (Rig.world device patience).recorded fun desk =>
      0 < desk.outside.1.milestones.removed ∨ desk.outside.2.client.disk = disk := by
  let kept (state : History × Rig δ) : Prop :=
    0 < state.1.milestones.removed ∨ state.2.client.disk = disk
  refine Compression.run_keeps_outside looks kept fun call state held => ?_
  rcases held with removed | same
  · exact .inl (History.countP_lt_cons removed _)
  · rcases Rig.disk_answer device patience call state.2 with ⟨path, rfl⟩ | still
    · let reply : Bool := ((Rig.world device patience).answer (.client (.removeFile path)) state.2).1
      let latest : Exchange := ⟨.client (.removeFile path), reply⟩
      have removed : latest.removes = true := rfl
      exact .inl (History.countP_cons_pos removed state.1)
    · exact .inr (still.trans same)

/-- In every run of a compression, whatever its source, its options and its configuration, whatever
codecs, containers and client do to it: a movie is asked for at most once, and only once everything
else has been accepted and the source is open. If one was begun, a job that returns has asked to
finalize it exactly once, and it succeeds only if that did; if the writing of the tracks has failed,
that error is what it returns. Unless it returns a report of a finalized movie with pictures and was
to delete its source, the disk is left as it was. -/
theorem compression_finalizes_once (rig : Rig δ) (config : Config) (path destination : Path)
    (options : Options) :
    let world := (Rig.world device patience).recorded
    let job : Compression (History × Rig δ) := compressing config path destination options
    let begun : Desk (History × Rig δ) := { outside := ([], rig) }
    let (result, ⟨_, _, history, last⟩) := job.run.run world begun
    history.countP Exchange.asksMovie ≤ 1 ∧
    history.Always (fun latest earlier => latest.asksMovie = true → ∃ metadata parameters,
      (job.prepare.run world begun).1 = .ok metadata ∧ job.Accepts metadata parameters earlier) ∧
    history.Always (fun latest earlier => latest.asksFinalize = true →
      earlier.countP Exchange.beginsMovie = 1 ∧ earlier.countP Exchange.asksFinalize = 0) ∧
    (∀ report, result = .ok report → history.countP Exchange.beginsMovie = 1 ∧
      history.countP Exchange.asksFinalize = 1 ∧ history.countP Exchange.finalizes = 1) ∧
    (∀ error, result = .error (.failed error) →
      history.countP Exchange.asksFinalize = history.countP Exchange.beginsMovie) ∧
    (∀ plan writing error broken, job.opening.run world begun = (.ok plan, writing) →
      (job.writeTracks plan).run world writing = (.error (.failed error), broken) →
      (∀ report, result ≠ .ok report) ∧ ∀ told, result = .error (.failed told) → told = error) ∧
    history.Always (fun latest earlier => latest.removes = true →
      latest.1 = .client (.removeFile path) ∧ earlier.countP Exchange.finalizes = 1) ∧
    (0 < history.countP Exchange.removes ∨ last.client.disk ≠ rig.client.disk →
      config.deleteSourceOnSuccess = true ∧ ∃ report movie video,
        result = .ok report ∧ last.storage.library.movie? destination = some movie ∧
        movie.finalized = true ∧ movie.tracks.head? = some video ∧ video.isAudio = false ∧
        video.samples ≠ []) := by
  intro world job begun
  have looks (path : Path) : (job.probe path).Uses Call.IsLook := probeContainer_uses
  let accepted (earlier : History) : Prop := ∃ metadata parameters,
    (job.prepare.run world begun).1 = .ok metadata ∧ job.Accepts metadata parameters earlier
  have ends : job.run.Ends world begun
      (fun report left => job.Concludes accepted report left.outside.1)
      (fun _ left => job.Settles accepted left.outside.1)
      fun left => job.Breaks accepted left.outside.1 :=
    Compression.run_ends looks rfl fun metadata parameters earlier prepared accepts =>
      ⟨metadata, parameters, prepared, accepts⟩
  have houses := (Rig.houses device patience).recorded
  have reports := @run_reports _ world _ begun job houses looks
  have same := run_keeps_disk device patience looks rig.client.disk begun (.inr rfl)
  have first {plan : Plan} {writing broken : Desk (History × Rig δ)} {error : Error}
      (opened : job.opening.run world begun = (.ok plan, writing))
      (broke : (job.writeTracks plan).run world writing = (.error (.failed error), broken)) :=
    Compression.run_returns_first_error opened broke
  have always : job.run.Ends world begun
      (fun _ left => left.outside.1.Always (job.Allows accepted))
      (fun _ left => left.outside.1.Always (job.Allows accepted))
      fun left => left.outside.1.Always (job.Allows accepted) :=
    ends.imp (fun _ _ ⟨_, stands, _⟩ => stands.orderly) (fun _ _ ⟨_, stands, _⟩ => stands.orderly)
      fun _ ⟨_, stands, _⟩ => stands.orderly
  replace always := always.always
  unfold Returns at reports first
  unfold Ends at ends
  rcases ran : job.run.run world begun with ⟨result, reporter, announced, history, last⟩
  rw [ran] at always same ends reports
  refine ⟨?_, ?_, ?_, ?_, ?_, ?_, ?_, ?_⟩
  · exact (always.imp fun _ _ allows asks => (allows.movie asks).1).countP_le_one
  · exact always.imp fun _ _ allows asks => (allows.movie asks).2
  · exact always.imp fun _ _ allows asks => allows.finalize asks
  · rintro report rfl
    obtain ⟨removed, ⟨-, milestones⟩, -⟩ := ends
    exact ⟨congrArg Milestones.begun milestones, congrArg Milestones.closed milestones,
      congrArg Milestones.finalized milestones⟩
  · rintro error rfl
    obtain ⟨_, ⟨-, rfl⟩, closed, -⟩ := ends
    exact closed
  · intro plan writing error broken opened broke
    have told := first opened broke
    rw [ran] at told
    exact ⟨fun _ same => by cases same; exact told, fun _ same => by cases same; exact told⟩
  · exact always.imp fun _ _ allows asks => ⟨(allows.remove asks).1, (allows.remove asks).2.1⟩
  · intro removes
    have removed : 0 < history.milestones.removed := removes.elim id same.resolve_right
    rcases result with (error | panic | _) | report
    · obtain ⟨_, ⟨-, rfl⟩, -, none⟩ := ends
      exact absurd none removed.ne'
    · obtain ⟨_, ⟨-, rfl⟩, none⟩ := ends
      exact absurd none removed.ne'
    · obtain ⟨_, ⟨-, rfl⟩, none⟩ := ends
      exact absurd none removed.ne'
    · obtain ⟨count, ⟨-, milestones⟩, wanted⟩ := ends
      obtain ⟨⟨_, pictures, sound, -, finished, facts⟩, outcome⟩ := reports
      obtain ⟨movie, made, tracks, finalized⟩ := finished.movie?
      obtain ⟨completed, deletes⟩ := wanted (by rwa [milestones] at removed)
      refine ⟨deletes, report, movie, pictures, rfl, made, finalized, ?_, facts.isVideo, ?_⟩
      · rw [tracks]
        rfl
      · rintro none
        have empty : report.tracks.videoSamples = 0 := facts.pictures.trans (congrArg List.length none)
        rw [if_pos empty, completed] at outcome
        exact nomatch outcome

end

end Recode.Simulation
