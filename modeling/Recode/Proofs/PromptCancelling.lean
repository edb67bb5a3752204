import Recode.Proofs.Cancelling
import Recode.Simulation.Rig

/-!
How soon a cancellation shows. Between a sample that is read and the events before it stands the
question whether the client has cancelled, so once the client has cancelled no sample is read any more.
Neither a copy nor a transcode so much as touches a sample before it has asked.
-/

namespace Recode.Session
open Recode.Media Recode.Container Recode.Device Recode.Progress
open Recode.Session.Work Recode.Session.History

namespace Exchange

def delivers : Exchange → Bool
  | ⟨.client (.deliver _), _⟩ => true
  | _ => false

def permits : Exchange → Bool
  | ⟨.client .isCancelled, cancelled⟩ => !cancelled
  | _ => false

def reads : Exchange → Bool
  | ⟨.storage (.read _), _⟩ => true
  | _ => false

def touchesSample : Exchange → Bool
  | ⟨.storage (.read _), _⟩ | ⟨.storage (.write _ _ _ _), _⟩
  | ⟨.device (.queueInput .decoder _ _ _), _⟩ => true
  | _ => false

theorem touchesSample_of_reads {exchange : Exchange} (reads : exchange.reads = true) :
    exchange.touchesSample = true := by
  unfold Exchange.reads at reads
  split at reads
  next => rfl
  next => exact nomatch reads

theorem untouched_of_isSetting {call : Call} (setting : call.IsSetting) (reply : call.Reply) :
    touchesSample ⟨call, reply⟩ = false := by
  unfold Call.IsSetting at setting
  split at setting <;> first | exact setting.elim | rfl

theorem reads_eq_false {call : Call} (nothing : call.ReadsNothing) (reply : call.Reply) :
    reads ⟨call, reply⟩ = false := by
  unfold reads
  split
  next same =>
    cases same
    exact nothing.elim
  next => rfl

end Exchange

namespace History

/-- Since the client last said that it has not cancelled, no event was delivered. -/
def Cleared (history : History) : Prop :=
  ∃ recent asked, history = recent ++ ⟨.client .isCancelled, false⟩ :: asked ∧
    ∀ exchange ∈ recent, exchange.delivers = false

theorem Cleared.now (history : History) : Cleared (⟨.client .isCancelled, false⟩ :: history) :=
  ⟨[], history, rfl, List.forall_mem_nil _⟩

theorem Cleared.cons {history : History} (cleared : history.Cleared) {exchange : Exchange}
    (silent : exchange.delivers = false) : Cleared (exchange :: history) := by
  obtain ⟨recent, asked, rfl, quiet⟩ := cleared
  exact ⟨exchange :: recent, asked, rfl, List.forall_mem_cons.mpr ⟨silent, quiet⟩⟩

theorem Cleared.permitted {history : History} (cleared : history.Cleared) :
    0 < history.countP Exchange.permits := by
  obtain ⟨recent, asked, rfl, -⟩ := cleared
  exact List.countP_pos_iff.mpr ⟨_, List.mem_append_right recent List.mem_cons_self, rfl⟩

/-- What holds at each exchange may rest on what held at all those before it. -/
theorem Always.build {rule further : Exchange → History → Prop} {history : History}
    (always : history.Always rule)
    (builds : ∀ latest earlier, rule latest earlier → earlier.Always rule → further latest earlier) :
    history.Always further := by
  induction history with
  | nil => trivial
  | cons latest earlier ih => exact ⟨builds latest earlier always.1 always.2, ih always.2⟩

end History

/-- Unless what came before excuses it, a sample is read with nothing told since the client was
asked, and it is touched at all only after the client was asked. -/
def Heeding (excused : History → Prop) (latest : Exchange) (earlier : History) : Prop :=
  excused earlier ∨ (latest.reads → earlier.Cleared) ∧
    (latest.touchesSample → 0 < earlier.countP Exchange.permits)

abbrev History.Heeds (excused : History → Prop) (history : History) : Prop :=
  history.Always (Heeding excused)

section
variable {σ : Type} {excused : History → Prop} {history : History}

theorem Heeding.untouched {exchange : Exchange} (untouched : exchange.touchesSample = false)
    (history : History) : Heeding excused exchange history := by
  have unmet : exchange.touchesSample ≠ true := by simp [untouched]
  exact .inr ⟨fun reads => absurd (Exchange.touchesSample_of_reads reads) unmet,
    fun touches => absurd touches unmet⟩

theorem Heeding.aside (heeding : history.Heeds excused) {exchange : Exchange}
    (untouched : exchange.touchesSample = false) :
    Heeds excused (exchange :: history) :=
  ⟨.untouched untouched history, heeding⟩

/-- The client has been heeded, and has said once that it has not cancelled. -/
structure History.Permitted (excused : History → Prop) (history : History) : Prop where
  heeding : history.Heeds excused
  asked : 0 < history.countP Exchange.permits

structure History.Ready (excused : History → Prop) (history : History) : Prop where
  heeding : history.Heeds excused
  cleared : history.Cleared

namespace History

theorem Permitted.cons (permitted : history.Permitted excused) {call : Call} (reply : call.Reply)
    (nothing : call.ReadsNothing) : Permitted excused (⟨call, reply⟩ :: history) where
  heeding := by
    have unread : Exchange.reads ⟨call, reply⟩ ≠ true := by simp [Exchange.reads_eq_false nothing]
    exact ⟨.inr ⟨fun reads => absurd reads unread, fun _ => permitted.asked⟩, permitted.heeding⟩
  asked := countP_lt_cons permitted.asked _

theorem Ready.now (heeding : history.Heeds excused) :
    Ready excused (⟨.client .isCancelled, false⟩ :: history) :=
  ⟨⟨.untouched rfl history, heeding⟩, .now history⟩

theorem Ready.aside (ready : history.Ready excused) {exchange : Exchange}
    (untouched : exchange.touchesSample = false) (silent : exchange.delivers = false) :
    Ready excused (exchange :: history) :=
  ⟨⟨.untouched untouched history, ready.heeding⟩, ready.cleared.cons silent⟩

theorem Ready.permitted (ready : history.Ready excused) : history.Permitted excused :=
  ⟨ready.heeding, ready.cleared.permitted⟩

theorem Ready.read (ready : history.Ready excused) {room : Nat}
    (reply : Except Error (Option Bytes)) :
    Permitted excused (⟨.storage (.read room), reply⟩ :: history) :=
  ⟨⟨.inr ⟨fun _ => ready.cleared, fun _ => ready.cleared.permitted⟩, ready.heeding⟩,
    countP_lt_cons ready.cleared.permitted _⟩

end History

theorem Work.Uses.leads_permitted {α : Type} {work : Work (History × σ) α}
    (uses : work.Uses Call.ReadsNothing) (permitted : history.Permitted excused) :
    work.Leads history (fun _ => History.Permitted excused) (Heeds excused) :=
  (uses.leads (fun _ reply _ nothing permitted => permitted.cons reply nothing) permitted).imp
    (fun _ _ => id) fun _ => History.Permitted.heeding

namespace CopyPlan
variable {plan : CopyPlan}

theorem round_heeds (copying : CopyStanding) (heeding : history.Heeds excused) :
    (plan.round copying : Work (History × σ) (CopyStanding × Bool)).Leads history
      (fun _ => Heeds excused) (Heeds excused) := by
  apply leads_checkCancelled (Heeding.aside heeding rfl)
  have ready := History.Ready.now heeding
  apply leads_ask
  intro current
  have ready : History.Ready excused (⟨.storage .currentTrack, current⟩ :: _) := ready.aside rfl rfl
  cases current with
  | none => exact leads_pure ready.heeding
  | some index =>
    dsimp only
    split
    next foreign =>
      apply leads_ask
      intro more
      exact leads_pure (ready.aside rfl rfl).heeding
    next own =>
      apply leads_ask
      intro answer
      have permitted := @History.Ready.read excused _ ready plan.room answer
      refine leads_settle (fun _ _ => permitted.heeding) fun found _ => ?_
      exact (((handle_uses found).weaken fun _ => And.right).leads_permitted permitted).imp
        (fun _ _ => History.Permitted.heeding) fun _ => id

theorem rounds_heeds (limit : Nat) (copying : CopyStanding)
    (heeding : history.Heeds excused) :
    (plan.rounds limit copying : Work (History × σ) CopyStanding).Leads history
      (fun _ => Heeds excused) (Heeds excused) := by
  induction limit generalizing copying history with
  | zero => exact leads_stop heeding
  | succ limit ih =>
    refine leads_bind ((round_heeds copying heeding).imp (fun next left heeding => ?_) fun _ => id)
    dsimp only
    split
    next more => exact ih next.1 heeding
    next done => exact leads_pure heeding

theorem run_heeds (plan : CopyPlan) (heeding : history.Heeds excused) :
    (plan.run : Work (History × σ) CopyOutcome).Leads history
      (fun _ => Heeds excused) (Heeds excused) := by
  apply leads_ask
  intro sought
  have heeding := Heeding.aside heeding (rfl : Exchange.touchesSample
    ⟨.storage (.seek plan.window.seekTarget .previousSync), sought⟩ = false)
  refine leads_settle (fun _ _ => heeding) fun _ _ => ?_
  refine leads_patience fun limit =>
    leads_bind ((rounds_heeds limit _ heeding).imp (fun copied left heeding => ?_) fun _ => id)
  exact leads_pure heeding

end CopyPlan

theorem copyTrack_heeds {track : Track} {window : Window} {reporting : Bool}
    (heeding : history.Heeds excused) :
    (copyTrack track window reporting : Work (History × σ) CopyOutcome).Leads history
      (fun _ => Heeds excused) (Heeds excused) := by
  apply leads_ask
  intro added
  have heeding : Heeds excused
    (⟨.storage (.addTrack track.format track.isAudio), added⟩ :: _) := Heeding.aside heeding rfl
  refine leads_settle (fun _ _ => heeding) fun destination _ => ?_
  cases track.format.maxInputSize with
  | none => exact leads_fail heeding
  | some room =>
    apply leads_ask
    intro selected
    have heeding : Heeds excused (⟨.storage (.select track.index), selected⟩ :: _) :=
      Heeding.aside heeding rfl
    refine leads_settle (fun _ _ => heeding) fun _ _ => leads_bind (leads_outcome ?_)
    have unselects (result : Except Error CopyOutcome) (left : History)
        (heeding : left.Heeds excused) :
        (storage (.unselect track.index) >>= fun _ => settle result :
          Work (History × σ) CopyOutcome).Leads left
          (fun _ => Heeds excused) (Heeds excused) := by
      apply leads_ask
      intro unselected
      have heeding : Heeds excused (⟨.storage (.unselect track.index), unselected⟩ :: _) :=
        Heeding.aside heeding rfl
      cases result with
      | error error => exact leads_fail heeding
      | ok outcome => exact leads_pure heeding
    exact (CopyPlan.run_heeds ⟨track, destination, window, room, reporting⟩ heeding).imp
      (fun outcome left heeding => unselects (.ok outcome) left heeding)
      fun left heeding => ⟨heeding, fun error => unselects (.error error) left heeding⟩

namespace TranscodePlan
variable {plan : TranscodePlan} {session : Standing}

/-- Feeding reads a sample at most once, and first of all. -/
theorem feed_heeds (ready : history.Ready excused) :
    (plan.feed session : Work (History × σ) Standing).Leads history
      (fun _ => Permitted excused) (Heeds excused) := by
  have lends {α : Type} {left : History} (ready : left.Ready excused)
      {next : Option Nat → Work (History × σ) α} {reached : α → History → Prop}
      (onward : ∀ slot left, left.Ready excused →
        (next slot).Leads left reached (Heeds excused)) :
      (plan.dequeueInput .decoder >>= next).Leads left reached (Heeds excused) :=
    leads_dequeueInput (fun _ => Heeding.aside ready.heeding rfl) fun reply slot =>
      onward slot _ (ready.aside rfl rfl)
  apply leads_ask
  intro current
  have ready : Ready excused (⟨.storage .currentTrack, current⟩ :: _) := ready.aside rfl rfl
  cases current with
  | none =>
    refine lends ready fun lent left ready => ?_
    cases lent with
    | none => exact leads_pure ready.permitted
    | some slot =>
      exact (endFeeding_uses.weaken fun _ => And.right).leads_permitted ready.permitted
  | some index =>
    dsimp only
    split
    next foreign =>
      apply leads_ask
      intro more
      exact leads_pure (ready.permitted.cons more trivial)
    next own =>
      refine lends ready fun lent left ready => ?_
      cases lent with
      | none => exact leads_pure ready.permitted
      | some slot =>
        apply leads_ask
        intro lent
        have ready : Ready excused (⟨.device (.inputBuffer .decoder slot), lent⟩ :: left) :=
          ready.aside rfl rfl
        refine leads_settle (fun _ _ => ready.heeding) fun buffer _ => ?_
        apply leads_ask
        intro answer
        have permitted := @Ready.read excused _ ready buffer.size answer
        refine leads_settle (fun _ _ => permitted.heeding) fun found _ => ?_
        exact ((fill_uses found).weaken fun _ => And.right).leads_permitted permitted

theorem beginCycle_heeds (heeding : history.Heeds excused) :
    (plan.beginCycle session : Work (History × σ) Standing).Leads history
      (fun _ => Permitted excused) (Heeds excused) := by
  simp only [beginCycle, ite_bind]
  apply leads_checkCancelled (Heeding.aside heeding rfl)
  have ready := Ready.now heeding
  have fed : (if session.feeding then plan.feed session else pure session :
      Work (History × σ) Standing).Leads (⟨.client .isCancelled, false⟩ :: history)
        (fun _ => Permitted excused) (Heeds excused) := by
    split
    next feeding => exact feed_heeds ready
    next ended => exact leads_pure ready.permitted
  refine leads_bind (fed.imp (fun next left permitted => ?_) fun _ => id)
  refine Uses.leads_permitted (.bind (.ite (fun pending => ?_) fun told => .pure _) fun _ => .pure _)
    permitted
  exact signalEnd_uses.weaken fun _ ends => ends.isHandling.readsNothing

def HeededSince (excused : History → Prop) (session : Standing) (history : History) : Prop :=
  history.Heeds excused ∧
    (nextStep session.decoder.state session.encoder.state = .idle ∨
      0 < history.countP Exchange.permits)

theorem HeededSince.of_permitted (permitted : history.Permitted excused) :
    HeededSince excused session history :=
  ⟨permitted.heeding, .inr permitted.asked⟩

theorem HeededSince.leads {α : Type} {work : Work (History × σ) α} {step : Step}
    (held : HeededSince excused session history)
    (turn : nextStep session.decoder.state session.encoder.state = step) (busy : step ≠ .idle)
    (uses : work.Uses Call.ReadsNothing) :
    work.Leads history (fun _ => Permitted excused) (Heeds excused) :=
  uses.leads_permitted ⟨held.1, held.2.resolve_left (turn ▸ busy)⟩

theorem upholds_heeding (plan : TranscodePlan) : Upholds plan σ (HeededSince excused)
    (Heeds excused) fun _ => Heeds excused where
  start := ⟨trivial, .inl rfl⟩
  standing_safe _ _ held := held.1
  beginCycle _ _ held _ :=
    (beginCycle_heeds held.1).imp (fun _ _ => HeededSince.of_permitted) fun _ => id
  drainEncoder _ _ held turn :=
    (held.leads turn nofun (drainEncoder_uses.weaken fun _ => Call.IsDownstream.readsNothing)).imp
      (fun _ _ => HeededSince.of_permitted) fun _ => id
  drainDecoder _ _ held turn :=
    (held.leads turn nofun (drainDecoder_uses_of trivial fun _ => Call.IsHandling.readsNothing)).imp
      (fun _ _ => HeededSince.of_permitted) fun _ => id
  finish session _ held turn := by
    have finishes : (plan.finish session : Work (History × σ) TranscodeOutcome).Uses
        Call.ReadsNothing :=
      .bind (register_uses.weaken fun _ => Call.IsDownstream.readsNothing) fun _ => .pure _
    exact (held.leads turn nofun finishes).imp (fun _ _ => Permitted.heeding) fun _ => id
  standing_setting _ call reply history setting held :=
    ⟨Heeding.aside held.1 (Exchange.untouched_of_isSetting setting reply),
      held.2.imp id fun asked => countP_lt_cons asked _⟩
  safe_setting call reply history setting heeding :=
    Heeding.aside heeding (Exchange.untouched_of_isSetting setting reply)
  reached_setting _ call reply history setting heeding :=
    Heeding.aside heeding (Exchange.untouched_of_isSetting setting reply)

end TranscodePlan

theorem transcode_heeds {plan : TranscodePlan} (heeding : history.Heeds excused) :
    (transcode plan : Work (History × σ) TranscodeOutcome).Leads history
      (fun _ => Heeds excused) (Heeds excused) :=
  (TranscodePlan.upholds_heeding plan).transcode_from ⟨heeding, .inl rfl⟩

end

end Recode.Session

namespace Recode.Job
open Recode.Media Recode.Container Recode.Device Recode.Progress Recode.Session
open Recode.Session.Work Recode.Session.History

namespace Compression
variable {σ : Type} {job : Compression (History × σ)} {world : World σ}

def Untold (history : History) : Prop := history.countP Exchange.delivers = 0

theorem prepare_heeds (looks : ∀ path, (job.probe path).Uses Call.IsLook) :
    job.prepare.Keeps world.recorded fun desk =>
      Heeds Untold desk.outside.1 ∧ Untold desk.outside.1 := by
  have untold {call : Call} (look : call.IsLook) (reply : call.Reply) :
      Exchange.delivers ⟨call, reply⟩ = false := by
    unfold Exchange.delivers
    split
    next same =>
      cases same
      exact look.elim
    next => rfl
  exact (prepare_uses looks).keeps_history (fun history => history.Heeds Untold ∧ Untold history)
    fun call reply history look held =>
      ⟨⟨.inl held.2, held.1⟩, (countP_aside (untold look reply) history).trans held.2⟩

theorem ask_heeds {excused : History → Prop} {call : Call}
    (untouched : ∀ reply, Exchange.touchesSample ⟨call, reply⟩ = false) :
    (ask call).Keeps world.recorded fun desk => Heeds excused desk.outside.1 :=
  fun _ heeding => Heeding.aside heeding (untouched _)

theorem tell_heeds {excused : History → Prop} (request : Request) :
    (tell request : Work (History × σ) Unit).Keeps world.recorded
      fun desk => Heeds excused desk.outside.1 :=
  keeps_tell_history request (Heeds excused) fun _ _ _ heeding =>
    Heeding.aside heeding rfl

theorem execute_heeds {excused : History → Prop} {source : Metadata} :
    (job.execute source).Keeps world.recorded
      fun desk => Heeds excused desk.outside.1 := by
  have lists (call : Call) (listing : call.IsListing) :
      (ask call).Keeps world.recorded fun desk => Heeds excused desk.outside.1 := by
    refine ask_heeds fun reply => ?_
    unfold Call.IsListing at listing
    split at listing <;> first | exact listing.elim | rfl
  have writes (plan : Plan) : (job.writeTracks plan).Keeps world.recorded
      fun desk => Heeds excused desk.outside.1 :=
    writeTracks_keeps lists (fun _ _ => ask_heeds fun _ => rfl)
      (fun _ => keeps_of_leads fun _ => transcode_heeds)
      fun _ _ _ => keeps_of_leads fun _ => copyTrack_heeds
  have destination (plan : Plan) : (job.writeDestination plan).Keeps world.recorded
      fun desk => Heeds excused desk.outside.1 := by
    refine keeps_bind (ask_heeds fun _ => rfl) fun begun => keeps_bind (keeps_settle begun) fun _ => ?_
    refine keeps_bind (keeps_outcome (writes plan)) fun written =>
      keeps_bind (ask_heeds fun _ => rfl) fun finalized => keeps_bind (keeps_settle written) fun _ => ?_
    exact keeps_bind (keeps_settle finalized) fun _ => keeps_pure _
  have plans : (job.plan source).Keeps world.recorded
      fun desk => Heeds excused desk.outside.1 := by
    apply plan_uses.keeps_history (Heeds excused)
    rintro _ reply history rfl heeding
    exact Heeding.aside heeding rfl
  refine keeps_bind plans fun plan => keeps_bind (ask_heeds fun _ => rfl) fun opened =>
    keeps_bind (keeps_settle opened) fun _ => ?_
  refine keeps_bind (keeps_outcome (destination plan)) fun result =>
    keeps_bind (ask_heeds fun _ => rfl) fun _ => ?_
  exact keeps_bind (keeps_settle result) fun _ => keeps_pure _

theorem abort_heeds {excused : History → Prop} (error : Error) :
    (abort error : Work (History × σ) Report).Keeps world.recorded
      fun desk => Heeds excused desk.outside.1 :=
  keeps_bind (tell_heeds _) fun _ => keeps_stop _

theorem conclude_heeds {excused : History → Prop} {source : Metadata} {parameters : Parameters}
    {tracks : TrackSummary} :
    (job.conclude source parameters tracks).Keeps world.recorded
      fun desk => Heeds excused desk.outside.1 := by
  obtain ⟨ended, rest, concludes, uses⟩ := @conclude_eq_tell_bind _ job source parameters tracks
  rw [concludes]
  apply keeps_bind (tell_heeds _)
  intro _
  apply (uses (· = .client (.removeFile job.source)) rfl).keeps_history (Heeds excused)
  rintro _ reply history rfl heeding
  exact Heeding.aside heeding rfl

/-- A compression reads samples only while it looks at its source, before anything is told, or with
nothing told since the client was asked. -/
theorem run_heeds (looks : ∀ path, (job.probe path).Uses Call.IsLook) {desk : Desk (History × σ)}
    (begun : desk.outside.1 = []) :
    Heeds Untold (job.run.run world.recorded desk).2.outside.1 := by
  have listens (duration : Int) : (listen duration : Work (History × σ) Unit).Keeps world.recorded
      fun desk => Heeds Untold desk.outside.1 := fun _ heeding => heeding
  have executes (source : Metadata) {next : Except Error (Parameters × TrackSummary) →
      Work (History × σ) Report} (ends : ∀ result, (next result).Keeps world.recorded fun desk =>
        Heeds Untold desk.outside.1) :
      (listen source.duration >>= fun _ => tell (.report 0) >>= fun _ =>
        outcome (job.execute source) >>= next).Keeps world.recorded
          fun desk => Heeds Untold desk.outside.1 :=
    keeps_bind (listens source.duration) fun _ => keeps_bind (tell_heeds _) fun _ =>
      keeps_bind (keeps_outcome execute_heeds) ends
  have prepares := (@prepare_heeds _ job world looks).ends (begun.symm ▸ ⟨trivial, rfl⟩ :
    Heeds Untold desk.outside.1 ∧ Untold desk.outside.1)
  have ends : job.run.Ends world.recorded desk (fun _ desk => Heeds Untold desk.outside.1)
      (fun _ desk => Heeds Untold desk.outside.1) fun desk => Heeds Untold desk.outside.1 := by
    refine ends_bind (ends_outcome (prepares.imp ?_ ?_ fun _ held => held.1))
    · refine fun source left held => Keeps.ends (executes source fun result => ?_) held.1
      cases result with
      | error error => exact abort_heeds error
      | ok written => exact conclude_heeds
    · exact fun error left held => (keeps_bind (listens 0) fun _ => abort_heeds error).ends held.1
  exact ends.always

end Compression

end Recode.Job

namespace Recode.Session
open Recode.Media Recode.Container Recode.Progress
open Recode.Session.Work Recode.Session.History

/-- Whenever the client said that it has not cancelled, fewer than so many events were delivered. -/
abbrev History.Patient (after : Nat) (history : History) : Prop :=
  history.Always fun latest earlier => latest.permits → earlier.countP Exchange.delivers < after

/-- The state's count is that of the events, and the client was patient no longer than that. -/
structure Counts {σ : Type} (after : Nat) (state : History × Nat × σ) : Prop where
  counted : state.2.1 = state.1.countP Exchange.delivers
  patient : state.1.Patient after

section
variable {σ : Type} {world : World σ} {after : Nat} {excused : History → Prop} {history : History}

theorem Counts.answer {state : History × Nat × σ} (counts : Counts after state) (call : Call) :
    Counts after ((world.cancelling (some after)).recorded.answer call state).2 := by
  have aside {call : Call} {reply : call.Reply} {outside : σ}
      (silent : Exchange.delivers ⟨call, reply⟩ = false)
      (unasked : Exchange.permits ⟨call, reply⟩ = false) :
      Counts after (⟨call, reply⟩ :: state.1, state.2.1, outside) :=
    ⟨counts.counted.trans (countP_aside silent state.1).symm,
      fun permits => (nomatch unasked.symm.trans permits), counts.patient⟩
  rcases call with call | call | call
  · exact aside rfl rfl
  · exact aside rfl rfl
  · cases call with
    | deliver event =>
      refine ⟨?_, nofun, counts.patient⟩
      exact (congrArg (· + 1) counts.counted).trans (List.countP_cons_of_pos rfl).symm
    | isCancelled =>
      refine ⟨counts.counted.trans (countP_aside rfl state.1).symm, fun permits => ?_, counts.patient⟩
      have early : decide (after ≤ state.2.1) = false := by simpa [Exchange.permits] using permits
      have fewer := of_decide_eq_false early
      rw [counts.counted] at fewer
      exact Nat.lt_of_not_le fewer
    | openFile path => exact aside rfl rfl
    | removeFile path => exact aside rfl rfl

theorem History.Cleared.early (cleared : history.Cleared)
    (patient : history.Patient after) : history.countP Exchange.delivers < after := by
  obtain ⟨recent, asked, rfl, quiet⟩ := cleared
  have none : recent.countP Exchange.delivers = 0 :=
    List.countP_eq_zero.mpr fun exchange member => by simp [quiet exchange member]
  have early := patient.drop recent.length
  rw [List.drop_left] at early
  calc (recent ++ ⟨.client .isCancelled, false⟩ :: asked).countP Exchange.delivers
      _ = recent.countP Exchange.delivers +
          List.countP Exchange.delivers (⟨.client .isCancelled, false⟩ :: asked) :=
        List.countP_append
      _ = asked.countP Exchange.delivers := by rw [none, Nat.zero_add, countP_aside rfl]
      _ < after := early.1 rfl

theorem History.Heeds.inTime (heeds : history.Heeds excused)
    (patient : history.Patient after) :
    history.Always fun latest earlier =>
      latest.reads → earlier.countP Exchange.delivers < after ∨ excused earlier := by
  refine (heeds.and patient).build fun latest earlier heeding before reads => ?_
  rcases heeding.1 with isExcused | ⟨cleared, -⟩
  · exact .inr isExcused
  · exact .inl ((cleared reads).early (before.imp fun _ _ both => both.2))

end

namespace Work
variable {σ α : Type}

/-- What work comes to, with all that it asked, if the client cancels as soon as so many events are
delivered, or never. -/
def whenCancelled (work : Work (History × Nat × σ) α) (world : World σ) (desk : Desk σ)
    (after : Option Nat) : Except Stop α × History :=
  work.records (world.cancelling after) { desk with outside := (0, desk.outside) }

/-- Once the client has cancelled, the work reads no sample any more, and if it had cancelled from the
start no sample is touched at all. The work comes to the cancellation, or to what it comes to with a
client who never cancels. -/
structure CancelsPromptly (work : Work (History × Nat × σ) α) (world : World σ) (desk : Desk σ)
    (after : Nat) : Prop where
  inTime : (work.whenCancelled world desk (some after)).2.Always fun latest earlier =>
    latest.reads → earlier.countP Exchange.delivers < after
  untouched : (work.whenCancelled world desk (some 0)).2.countP Exchange.touchesSample = 0
  result : (work.whenCancelled world desk (some after)).1 = .error (.failed .cancelled) ∨
    work.whenCancelled world desk (some after) = work.whenCancelled world desk none

theorem Uses.cancelsPromptly {calls : Call → Prop} {work : Work (History × Nat × σ) α}
    (uses : work.Uses calls)
    (heeds : ∀ history, history.Heeds (fun _ => False) →
      work.Leads history (fun _ => Heeds fun _ => False) (Heeds fun _ => False))
    (world : World σ) (desk : Desk σ) (after : Nat) : work.CancelsPromptly world desk after := by
  let begun : Desk (History × Nat × σ) := { desk with outside := ([], 0, desk.outside) }
  have told (after : Nat) :
      Counts after (work.run (world.cancelling (some after)).recorded begun).2.outside :=
    uses.keeps_outside (fun call _ _ counts => counts.answer call) begun ⟨rfl, trivial⟩
  have heeded (after : Nat) :
      Heeds (fun _ => False) (work.whenCancelled world desk (some after)).2 :=
    @keeps_of_leads _ _ (world.cancelling (some after)) _ _ heeds begun trivial
  refine ⟨((heeded after).inTime (told after).patient).imp fun _ _ early reads => ?_, ?_, ?_⟩
  · exact (early reads).resolve_right id
  · have needed : (work.whenCancelled world desk (some 0)).2.Always fun latest earlier =>
        latest.touchesSample → 0 < earlier.countP Exchange.permits :=
      (heeded 0).imp fun _ _ heeding touches => (heeding.resolve_left id).2 touches
    -- A client who has cancelled from the start never says that it has not.
    have never : (work.whenCancelled world desk (some 0)).2.Always fun latest earlier =>
        latest.permits → 0 < earlier.countP fun _ => false :=
      (told 0).patient.imp fun _ _ early permits => absurd (early permits) (Nat.not_lt_zero _)
    rcases Nat.eq_zero_or_pos
      ((work.whenCancelled world desk (some 0)).2.countP Exchange.touchesSample) with none | touched
    · exact none
    · have impossible := never.countP_pos (needed.countP_pos touched)
      rw [List.countP_false] at impossible
      exact absurd impossible (Nat.lt_irrefl 0)
  · have cuts := (world.cancelling_cutsShort after).recorded
    exact (uses.stopsShort cuts begun).imp (fun ⟨_, stopped⟩ => congrArg Prod.fst stopped) <|
      congrArg fun ran : Except Stop α × Desk (History × Nat × σ) => (ran.1, ran.2.outside.1)

end Work

end Recode.Session

namespace Recode.Job
open Recode.Media Recode.Container Recode.Progress Recode.Session
open Recode.Session.Work Recode.Session.History

/-- A cancellation takes effect at once. Whatever containers, codecs and listener do, and whichever
event it is after which the client cancels: once that event is delivered, no copy, transcode or
compression reads another sample, so none is fed to the decoder or written that was read later. It comes
to the cancellation, or to just what it comes to with a client who never cancels; only that a listener
may break down on the word that a compression was cancelled. A copy or a transcode with a client who
has cancelled beforehand touches no sample at all. -/
theorem cancelling_takes_effect {σ : Type} (world : World σ) (desk : Desk σ) (after : Nat) :
    (∀ track window reporting,
      (copyTrack track window reporting).CancelsPromptly world desk after) ∧
    (∀ plan, (transcode plan).CancelsPromptly world desk after) ∧
    ∀ job : Compression (History × Nat × σ), (∀ path, (job.probe path).Uses Call.IsLook) →
      let part := job.run.whenCancelled world desk (some after)
      (part.2.Always fun latest earlier =>
        latest.reads → earlier.countP Exchange.delivers < max after 1) ∧
      (IsCancelled part.1 part.2 ∨ part = job.run.whenCancelled world desk none) := by
  refine ⟨fun _ _ _ => copyTrack_uses.cancelsPromptly (fun _ => copyTrack_heeds) world desk after,
    fun _ => transcode_uses.cancelsPromptly (fun _ => transcode_heeds) world desk after, ?_⟩
  intro job looks part
  let begun : Desk (History × Nat × σ) := { desk with outside := ([], 0, desk.outside) }
  have told : Counts after
      (job.run.run (world.cancelling (some after)).recorded begun).2.outside :=
    Compression.run_keeps_outside looks (Counts after) (fun call _ counts => counts.answer call) begun
      ⟨rfl, trivial⟩
  have heeds : part.2.Heeds Compression.Untold :=
    @Compression.run_heeds _ job (world.cancelling (some after)) looks begun rfl
  refine ⟨(heeds.inTime told.patient).imp fun latest earlier early reads => ?_, ?_⟩
  · rcases early reads with early | untold
    · exact Nat.lt_of_lt_of_le early (Nat.le_max_left after 1)
    · exact untold ▸ Nat.lt_of_lt_of_le Nat.one_pos (Nat.le_max_right after 1)
  · exact (Compression.run_abortsShort (world.cancelling_cutsShort after) looks begun).imp id <|
      congrArg fun ran : Except Stop Report × Desk (History × Nat × σ) => (ran.1, ran.2.outside.1)

/-- Of two pictures to copy, the client cancels on the news of the first: the second is not read. -/
theorem cancelling_takes_effect_between_pictures :
    let source : Source :=
      { ({} : Source).addTrack
          { Format.video videoAvc 4 2 with duration := some 100000, maxInputSize := some 1 } with
        samples := [⟨0, 0, .keyFrame, #[1]⟩, ⟨0, 40000, .none, #[2]⟩] }
    let rig : Simulation.Rig Simulation.Bench :=
      ⟨{ library := { demuxers := [{ source }] } }, { catalog := .new [] {} }, .new none none {}⟩
    let world : World (Simulation.Rig Simulation.Bench) :=
      { answer
          | .storage (.openSource _), _ | .client (.openFile _), _ => (.ok (), rig)
          | call, rig => (Simulation.Rig.world Simulation.Bench.answer 9).answer call rig
        patience := 9 }
    let job : Compression (History × Nat × Simulation.Rig Simulation.Bench) :=
      ⟨probeContainer, {}, "in", "out", { width := some 4, height := some 2 }⟩
    let part := job.run.whenCancelled world { outside := rig } (some 2)
    IsCancelled part.1 part.2 ∧ part.2.countP Exchange.reads = 1 ∧
      (part.2.Always fun latest earlier => latest.reads → earlier.countP Exchange.delivers < 2) := by
  intro source rig world job part
  let whole := job.run.whenCancelled world { outside := rig } none
  have one : part.2.countP Exchange.reads = 1 := by decide +kernel
  have both : whole.2.countP Exchange.reads = 2 := by decide +kernel
  obtain ⟨-, -, compresses⟩ := cancelling_takes_effect world { outside := rig } 2
  obtain ⟨inTime, cancelled | same⟩ := compresses job fun _ => probeContainer_uses
  · exact ⟨cancelled, one, inTime⟩
  · have counted : part.2.countP Exchange.reads = whole.2.countP Exchange.reads :=
      congrArg (·.2.countP Exchange.reads) same
    omega

end Recode.Job
