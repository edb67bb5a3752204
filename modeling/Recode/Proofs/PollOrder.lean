import Recode.Proofs.EndOfStream

/-!
The order in which the codecs are polled for their output. The encoder goes first: the decoder is
polled only right after the encoder had nothing, and once the encoder's output has ended nobody is
polled any more.
-/

namespace Recode.Session
open Recode.Media Recode.Container Recode.Device Recode.Picture Recode.Progress
open Recode.Session.Work Recode.Session.History

namespace Exchange

def pollsOutput : Exchange → Bool
  | ⟨.device (.dequeueOutput _ _), _⟩ => true
  | _ => false

def pollsDecoder : Exchange → Bool
  | ⟨.device (.dequeueOutput .decoder _), _⟩ => true
  | _ => false

def findsNothingEncoded : Exchange → Bool
  | ⟨.device (.dequeueOutput .encoder _), .ok .tryAgainLater⟩ => true
  | ⟨.device (.dequeueOutput .encoder _), .error error⟩ => error.isTransient
  | _ => false

theorem findsNothingEncoded_of_retried {timeout : Int} {reply : Except Error OutputStatus}
    (nothing : retried .tryAgainLater reply = .ok .tryAgainLater) :
    findsNothingEncoded ⟨.device (.dequeueOutput .encoder timeout), reply⟩ = true := by
  unfold retried at nothing
  split at nothing
  next error =>
    split at nothing
    next transient => exact transient
    next lasting => exact nomatch nothing
  next answered => exact nothing ▸ rfl

theorem findsNothingEncoded_of_pollsDecoder {exchange : Exchange}
    (isDecoder : exchange.pollsDecoder = true) : exchange.findsNothingEncoded = false := by
  unfold pollsDecoder at isDecoder
  split at isDecoder
  next => rfl
  next => exact nomatch isDecoder

theorem endsOutput_of_retried {timeout : Int} {reply : Except Error OutputStatus}
    {status : OutputStatus} (polled : retried .tryAgainLater reply = .ok status)
    (other : ∀ index info, status ≠ .buffer index info) :
    endsOutput ⟨.device (.dequeueOutput .encoder timeout), reply⟩ = false := by
  cases reply with
  | error error => rfl
  | ok answer =>
    have same : answer = status := Except.ok.inj polled
    cases answer with
    | buffer index info => exact absurd same.symm (other index info)
    | tryAgainLater => rfl
    | buffersChanged => rfl
    | formatChanged format => rfl

theorem pollsOutput_of_isSetting {call : Call} (isSetting : call.IsSetting) (reply : call.Reply) :
    pollsOutput ⟨call, reply⟩ = false := by
  unfold Call.IsSetting at isSetting
  split at isSetting <;> first | exact isSetting.elim | rfl

theorem pollsOutput_of_isSupplying {call : Call} (supplies : call.IsSupplying)
    (reply : call.Reply) : pollsOutput ⟨call, reply⟩ = false := by
  unfold Call.IsSupplying Call.IsFeeding at supplies
  split at supplies
  · rfl
  · rfl
  · rfl
  · split at supplies <;> first | exact supplies.elim | rfl

theorem pollsOutput_of_isHandling {call : Call} (handles : call.IsHandling) (reply : call.Reply) :
    pollsOutput ⟨call, reply⟩ = false := by
  unfold Call.IsHandling at handles
  split at handles <;> first | exact handles.elim | rfl

theorem pollsOutput_of_isStoring {call : Call} (stores : call.IsStoring) (reply : call.Reply) :
    pollsOutput ⟨call, reply⟩ = false := by
  unfold Call.IsStoring at stores
  split at stores <;> first | exact stores.elim | rfl

end Exchange

namespace History

def outputPolls (history : History) : History := history.filter Exchange.pollsOutput

/-- The last poll for output was one of the encoder, which had nothing. -/
def EndsDrained (history : History) : Prop :=
  ∃ poll, history.outputPolls.head? = some poll ∧ poll.findsNothingEncoded

theorem outputPolls_aside {exchange : Exchange} (aside : exchange.pollsOutput = false)
    (history : History) : outputPolls (exchange :: history) = outputPolls history :=
  List.filter_cons_of_neg (by simp only [aside, Bool.false_eq_true, not_false_eq_true])

theorem outputPolls_poll (side : Side) (timeout : Int) (reply : Except Error OutputStatus)
    (history : History) :
    outputPolls (⟨.device (.dequeueOutput side timeout), reply⟩ :: history) =
      ⟨.device (.dequeueOutput side timeout), reply⟩ :: outputPolls history := rfl

end History

theorem Work.Asks.outputPolls {σ α : Type} {work : Work (History × σ) α} {allowed : Call → Prop}
    {yields : α → Prop} (asks : work.Asks allowed yields)
    (aside : ∀ call reply, allowed call → Exchange.pollsOutput ⟨call, reply⟩ = false)
    (history : History) :
    work.Leads history
      (fun value left => yields value ∧ left.outputPolls = history.outputPolls)
      (·.outputPolls = history.outputPolls) :=
  asks (·.outputPolls = history.outputPolls)
    (fun call reply _ isAllowed same => (outputPolls_aside (aside call reply isAllowed) _).trans same)
    history rfl

/-- The decoder's turn comes when the encoder has just had nothing, and nobody's once the encoder's
output has ended. -/
structure PollRule (latest : Exchange) (earlier : History) : Prop where
  drained : latest.pollsDecoder → ∃ poll, earlier.head? = some poll ∧ poll.findsNothingEncoded
  unended : earlier.countP Exchange.endsOutput = 0

def PollsInOrder (history : History) : Prop := history.outputPolls.Always PollRule

theorem PollsInOrder.congr {history left : History} (ordered : PollsInOrder history)
    (same : left.outputPolls = history.outputPolls) : PollsInOrder left := by
  unfold PollsInOrder
  rw [same]
  exact ordered

/-- Where the session stands says whose turn it is. -/
structure PollsKept (session : Standing) (history : History) : Prop where
  ordered : PollsInOrder history
  drained : nextStep session.decoder.state session.encoder.state = .drainDecoder →
    history.EndsDrained
  unended : session.encoder.isDone = false → history.outputPolls.countP Exchange.endsOutput = 0

namespace PollsKept
variable {session : Standing} {history left : History}

theorem congr (kept : PollsKept session history)
    (same : left.outputPolls = history.outputPolls) : PollsKept session left := by
  refine ⟨kept.ordered.congr same, ?_, ?_⟩
  · unfold EndsDrained
    rw [same]
    exact kept.drained
  · rw [same]
    exact kept.unended

theorem waiting (ordered : PollsInOrder left)
    (waits : nextStep session.decoder.state session.encoder.state ≠ .drainDecoder)
    (unended : left.outputPolls.countP Exchange.endsOutput = 0) : PollsKept session left :=
  ⟨ordered, fun turn => absurd turn waits, fun _ => unended⟩

theorem polls_encoder (kept : PollsKept session history)
    (turn : nextStep session.decoder.state session.encoder.state = .drainEncoder) (timeout : Int)
    (reply : Except Error OutputStatus) :
    PollsInOrder (⟨.device (.dequeueOutput .encoder timeout), reply⟩ :: history) :=
  ⟨⟨nofun, kept.unended (Machine.isDone_of_hasOutput (nextStep_eq_drainEncoder.mp turn))⟩,
    kept.ordered⟩

theorem polls_decoder (kept : PollsKept session history)
    (turn : nextStep session.decoder.state session.encoder.state = .drainDecoder) (timeout : Int)
    (reply : Except Error OutputStatus) :
    PollsInOrder (⟨.device (.dequeueOutput .decoder timeout), reply⟩ :: history) := by
  have running : session.encoder.isDone = false := by
    simp [Machine.isDone, (nextStep_eq_drainDecoder.mp turn).2.1]
  exact ⟨⟨fun _ => kept.drained turn, kept.unended running⟩, kept.ordered⟩

end PollsKept

/-- Whoever has just been rearmed is polled first, so long as it has not ended. -/
theorem nextStep_rearm_ne (decoder : CodecState) (encoder : Machine) :
    nextStep decoder encoder.rearm.state ≠ .drainDecoder := by
  intro turn
  obtain ⟨-, goesOn, drained⟩ := nextStep_eq_drainDecoder.mp turn
  have running : encoder.isDone = false := by
    rw [← Machine.isDone_rearm]
    simp [Machine.isDone, goesOn]
  exact drained (Machine.state_rearm running)

namespace TranscodePlan
variable {σ : Type} {plan : TranscodePlan} {session : Standing} {history : History}

theorem beginCycle_asks_rearming :
    (plan.beginCycle session : Work (History × σ) Standing).Asks Call.IsSupplying
      fun next => nextStep next.decoder.state next.encoder.state ≠ .drainDecoder := by
  have fed : (if session.feeding then plan.feed session else pure session :
      Work (History × σ) Standing).Asks Call.IsSupplying fun _ => True := by
    split
    next feeding =>
      exact (feed_asks.weaken fun _ => Call.IsFeeding.isSupplying).imp fun _ _ => trivial
    next ended => exact asks_pure trivial
  have told (next : Standing) : (if next.endPending then plan.signalEnd next else pure next :
      Work (History × σ) Standing).Asks Call.IsSupplying fun _ => True := by
    split
    next pending => exact signalEnd_asks.imp fun _ _ => trivial
    next told => exact asks_pure trivial
  simp only [beginCycle, ite_bind]
  apply asks_bind (asks_checkCancelled trivial)
  intro _ _
  apply asks_bind fed
  intro next _
  exact asks_bind (told next) fun last _ => asks_pure (nextStep_rearm_ne _ last.encoder)

theorem beginCycle_polls (kept : PollsKept session history)
    (turn : nextStep session.decoder.state session.encoder.state = .idle) :
    (plan.beginCycle session : Work (History × σ) Standing).Leads history PollsKept
      PollsInOrder := by
  have running : session.encoder.isDone = false := by
    simp [Machine.isDone, (nextStep_eq_idle.mp turn).2.1]
  refine (beginCycle_asks_rearming.outputPolls
    (fun _ reply supplies => Exchange.pollsOutput_of_isSupplying supplies reply) history).imp ?_ ?_
  · rintro next left ⟨waits, same⟩
    exact .waiting (kept.ordered.congr same) waits (same ▸ kept.unended running)
  · exact fun left same => kept.ordered.congr same

theorem drainDecoder_polls (kept : PollsKept session history)
    (turn : nextStep session.decoder.state session.encoder.state = .drainDecoder) :
    (plan.drainDecoder session : Work (History × σ) Standing).Leads history PollsKept
      PollsInOrder := by
  have ordered := kept.polls_decoder turn plan.timeout
  have running : session.encoder.isDone = false := by
    simp [Machine.isDone, (nextStep_eq_drainDecoder.mp turn).2.1]
  have decoding : session.decoder.isDone = false := by
    simp [Machine.isDone, (nextStep_eq_drainDecoder.mp turn).1]
  have unended := kept.unended running
  apply leads_dequeueOutput (fun error => ordered (.error error))
  intro reply status _
  cases status with
  | tryAgainLater =>
    refine leads_pure (.waiting (ordered reply) ?_ unended)
    exact fun again => Machine.state_onTryAgain decoding (nextStep_eq_drainDecoder.mp again).1
  | buffersChanged =>
    exact leads_pure (.waiting (ordered reply) (nextStep_rearm_ne _ session.encoder) unended)
  | formatChanged format =>
    exact leads_pure (.waiting (ordered reply) (nextStep_rearm_ne _ session.encoder) unended)
  | buffer index info =>
    refine leads_bind ((handleDecoded_asks.outputPolls
      (fun _ reply handles => Exchange.pollsOutput_of_isHandling handles reply) _).imp ?_ ?_)
    · rintro next left ⟨-, same⟩
      exact leads_pure
        (.waiting ((ordered reply).congr same) (nextStep_rearm_ne _ next.encoder) (same ▸ unended))
    · exact fun left same => (ordered reply).congr same

theorem drainEncoder_polls (kept : PollsKept session history)
    (turn : nextStep session.decoder.state session.encoder.state = .drainEncoder) :
    (plan.drainEncoder session : Work (History × σ) Standing).Leads history PollsKept
      PollsInOrder := by
  have ordered := kept.polls_encoder turn plan.timeout
  have running := Machine.isDone_of_hasOutput (nextStep_eq_drainEncoder.mp turn)
  have unended := kept.unended running
  -- As long as the buffer is not the last, the encoder stays in turn.
  have polled {next : Standing} {left : History} {reply : Except Error OutputStatus}
      (same : left.outputPolls =
        outputPolls (⟨.device (.dequeueOutput .encoder plan.timeout), reply⟩ :: history))
      (goesOn : Exchange.endsOutput ⟨.device (.dequeueOutput .encoder plan.timeout), reply⟩ = false) :
      PollsKept { next with encoder := next.encoder.onOutput } left := by
    refine .waiting ((ordered reply).congr same) (nextStep_rearm_ne _ next.encoder) ?_
    rw [same, outputPolls_poll, countP_aside goesOn]
    exact unended
  apply leads_dequeueOutput (fun error => ordered (.error error))
  intro reply status answered
  cases status with
  | tryAgainLater =>
    refine leads_pure ⟨ordered reply, fun _ => ?_, fun _ => ?_⟩
    · exact ⟨_, rfl, Exchange.findsNothingEncoded_of_retried answered⟩
    · rw [outputPolls_poll, countP_aside (Exchange.endsOutput_of_retried answered nofun)]
      exact unended
  | buffersChanged =>
    exact leads_pure (polled rfl (Exchange.endsOutput_of_retried answered nofun))
  | formatChanged format =>
    refine leads_bind ((register_asks_storing.outputPolls
      (fun _ reply stores => Exchange.pollsOutput_of_isStoring stores reply) _).imp ?_ ?_)
    · rintro next left ⟨-, same⟩
      exact leads_pure (polled same (Exchange.endsOutput_of_retried answered nofun))
    · exact fun left same => (ordered reply).congr same
  | buffer index info =>
    have stored : (if 1 < info.size then plan.storeEncoded session index info else pure session :
        Work (History × σ) Standing).Asks Call.IsStoring fun _ => True := by
      split
      next long => exact storeEncoded_asks_storing.imp fun _ _ => trivial
      next short => exact asks_pure trivial
    simp only [ite_bind]
    refine leads_bind ((stored.outputPolls
      (fun _ reply stores => Exchange.pollsOutput_of_isStoring stores reply) _).imp ?_ ?_)
    · rintro next left ⟨-, same⟩
      apply leads_ask
      intro released
      have same : outputPolls (⟨.device (.releaseOutput .encoder index false), released⟩ :: left) =
        outputPolls (⟨.device (.dequeueOutput .encoder plan.timeout), reply⟩ :: history) := same
      apply leads_settle (fun _ _ => (ordered reply).congr same)
      intro _ _
      apply leads_pure
      split
      next isLast =>
        exact ⟨(ordered reply).congr same,
          fun turn => absurd rfl (nextStep_eq_drainDecoder.mp turn).2.1, nofun⟩
      next goesOn =>
        refine polled same ?_
        rw [retried_eq_ok answered nofun]
        exact Bool.eq_false_iff.mpr goesOn
    · exact fun left same => (ordered reply).congr same

theorem upholds_polls (plan : TranscodePlan) : Upholds plan σ PollsKept PollsInOrder
    fun _ => PollsInOrder where
  start := ⟨trivial, nofun, fun _ => rfl⟩
  standing_safe _ _ kept := kept.ordered
  beginCycle _ _ kept turn := beginCycle_polls kept turn
  drainEncoder _ _ kept turn := drainEncoder_polls kept turn
  drainDecoder _ _ kept turn := drainDecoder_polls kept turn
  finish _ history kept _ := leads_bind <| (register_asks_storing.outputPolls
    (fun _ reply stores => Exchange.pollsOutput_of_isStoring stores reply) history).imp
      (fun _ _ held => leads_pure (kept.ordered.congr held.2))
      fun _ same => kept.ordered.congr same
  standing_setting _ _ reply history isSetting kept :=
    kept.congr (outputPolls_aside (Exchange.pollsOutput_of_isSetting isSetting reply) history)
  safe_setting _ reply history isSetting ordered :=
    ordered.congr (outputPolls_aside (Exchange.pollsOutput_of_isSetting isSetting reply) history)
  reached_setting _ _ reply history isSetting ordered :=
    ordered.congr (outputPolls_aside (Exchange.pollsOutput_of_isSetting isSetting reply) history)

end TranscodePlan

/-- Right before the decoder is polled, the encoder was, and had nothing; so between two polls of
the decoder the encoder has been drained, and nobody is polled behind the encoder's last buffer. -/
theorem transcode_drains_encoder_first {σ : Type} (plan : TranscodePlan) (world : World σ)
    (desk : Desk σ) :
    let polls := ((transcode plan).records world desk).2.outputPolls
    polls.Always (fun latest earlier => latest.pollsDecoder →
      ∃ poll, earlier.head? = some poll ∧ poll.findsNothingEncoded) ∧
    (∀ later second between first earlier,
      polls = later ++ second :: (between ++ first :: earlier) →
      second.pollsDecoder → first.pollsDecoder → ∃ poll ∈ between, poll.findsNothingEncoded) ∧
    polls.Always (fun _ earlier => earlier.countP Exchange.endsOutput = 0) := by
  have ends := (TranscodePlan.upholds_polls plan).transcode.records world desk
  rcases found : (transcode plan).records world desk with ⟨result, history⟩
  have ordered : PollsInOrder history := by
    cases result with
    | error stop => simpa only [found] using ends
    | ok outcome => simpa only [found] using ends
  refine ⟨ordered.imp fun _ _ rule => rule.drained, ?_, ordered.imp fun _ _ rule => rule.unended⟩
  intro later second between first earlier same isSecond isFirst
  have after := ordered.drop later.length
  rw [same, List.drop_left] at after
  obtain ⟨poll, last, drained⟩ := after.1.drained isSecond
  cases between with
  | nil =>
    cases last
    exact absurd drained (by simp [Exchange.findsNothingEncoded_of_pollsDecoder isFirst])
  | cons latest before =>
    cases last
    exact ⟨poll, .head _, drained⟩

end Recode.Session
