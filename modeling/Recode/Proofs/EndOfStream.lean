import Recode.Proofs.SessionSteps

/-!
The end of the stream as the codecs are told of it. The decoder is told at most once and is fed
nothing afterwards; the encoder is told at most once and gets no frame afterwards; and where it ends
its output only after it was told, every transcode that succeeds has told it.
-/

namespace Recode.Session
open Recode.Media Recode.Container Recode.Device Recode.Picture Recode.Progress
open Recode.Session.Work Recode.Session.History

namespace Exchange

def feedsDecoder : Exchange → Bool
  | ⟨.device (.queueInput .decoder _ _ _), _⟩ => true
  | _ => false

def endsDecoder : Exchange → Bool
  | ⟨.device (.queueInput .decoder _ _ info), _⟩ => info.flags.isEndOfStream
  | _ => false

/-- The encoder takes the news that no more frames will come. -/
def tellsEncoder : Exchange → Bool
  | ⟨.device .signalEnd, .ok ()⟩ => true
  | ⟨.device (.queueInput .encoder _ _ info), .ok ()⟩ => info.flags.isEndOfStream
  | _ => false

/-- A frame is submitted to the encoder, through its surface or as a raw buffer. -/
def submitsFrame : Exchange → Bool
  | ⟨.device (.swap _), _⟩ => true
  | ⟨.device (.queueInput .encoder _ _ info), _⟩ => !info.flags.isEndOfStream
  | _ => false

def endsOutput : Exchange → Bool
  | ⟨.device (.dequeueOutput .encoder _), .ok (.buffer _ info)⟩ => info.flags.isEndOfStream
  | _ => false

theorem feedsDecoder_of_endsDecoder {exchange : Exchange} (isEnd : exchange.endsDecoder = true) :
    exchange.feedsDecoder = true := by
  unfold endsDecoder at isEnd
  split at isEnd
  next => rfl
  next => exact nomatch isEnd

def isAside (exchange : Exchange) : Bool :=
  !exchange.feedsDecoder && !exchange.endsDecoder && !exchange.tellsEncoder &&
    !exchange.submitsFrame

theorem isAside_eq_true {exchange : Exchange} : exchange.isAside = true ↔
    exchange.feedsDecoder = false ∧ exchange.endsDecoder = false ∧ exchange.tellsEncoder = false ∧
      exchange.submitsFrame = false := by
  simp only [isAside, Bool.and_eq_true, Bool.not_eq_true', and_assoc]

theorem isAside_of_isSetting {call : Call} (isSetting : call.IsSetting) (reply : call.Reply) :
    isAside ⟨call, reply⟩ = true := by
  unfold Call.IsSetting at isSetting
  split at isSetting <;> first | exact isSetting.elim | rfl

theorem isAside_of_isDownstream {call : Call} (isDownstream : call.IsDownstream)
    (reply : call.Reply) : isAside ⟨call, reply⟩ = true := by
  unfold Call.IsDownstream at isDownstream
  split at isDownstream <;> first | exact isDownstream.elim | rfl

theorem isAside_of_isClient {call : Call} (isClient : call.IsClient) (reply : call.Reply) :
    isAside ⟨call, reply⟩ = true := by
  unfold Call.IsClient at isClient
  split at isClient <;> first | exact isClient.elim | rfl

end Exchange

/-- After the end of the stream a codec gets nothing, and no second end either. -/
def EndRule (latest : Exchange) (earlier : History) : Prop :=
  (latest.feedsDecoder → earlier.countP Exchange.endsDecoder = 0) ∧
    (latest.submitsFrame ∨ latest.tellsEncoder → earlier.countP Exchange.tellsEncoder = 0)

theorem EndRule.of_isAside {exchange : Exchange} (isAside : exchange.isAside = true)
    (history : History) : EndRule exchange history := by
  obtain ⟨unfed, -, untold, unsubmitted⟩ := Exchange.isAside_eq_true.mp isAside
  simp [EndRule, unfed, untold, unsubmitted]

/-- What the session knows of the ends it has told agrees with what it has told. -/
structure EndsKept (session : Standing) (history : History) : Prop where
  ordered : history.Always EndRule
  feeding : session.feeding = true → history.countP Exchange.endsDecoder = 0
  untold : session.decoder.isDone = false ∨ session.endPending = true →
    history.countP Exchange.tellsEncoder = 0
  pending : session.endPending = true → session.decoder.isDone = true
  ended : session.encoder.isDone = true → 0 < history.countP Exchange.endsOutput

namespace EndsKept
variable {session next : Standing} {history : History} {exchange : Exchange}

theorem moved (kept : EndsKept session history)
    (feeding : next.feeding = true → session.feeding = true)
    (untold : next.decoder.isDone = false ∨ next.endPending = true →
      session.decoder.isDone = false ∨ session.endPending = true)
    (pending : next.endPending = true → next.decoder.isDone = true)
    (ended : next.encoder.isDone = true → session.encoder.isDone = true) :
    EndsKept next history where
  ordered := kept.ordered
  feeding isFeeding := kept.feeding (feeding isFeeding)
  untold isUntold := kept.untold (untold isUntold)
  pending := pending
  ended isEnded := kept.ended (ended isEnded)

theorem quiet (kept : EndsKept session history) (unfed : exchange.feedsDecoder = false)
    (unended : exchange.endsDecoder = false) (untold : exchange.tellsEncoder = false)
    (unsubmitted : exchange.submitsFrame = false ∨ session.decoder.isDone = false) :
    EndsKept session (exchange :: history) where
  ordered := by
    refine ⟨⟨by simp [unfed], ?_⟩, kept.ordered⟩
    rcases unsubmitted with unsubmitted | decoding
    · simp [untold, unsubmitted]
    · exact fun _ => kept.untold (.inl decoding)
  feeding isFeeding := (countP_aside unended history).trans (kept.feeding isFeeding)
  untold isUntold := (countP_aside untold history).trans (kept.untold isUntold)
  pending := kept.pending
  ended isEnded := countP_lt_cons (kept.ended isEnded) _

theorem aside (kept : EndsKept session history) (isAside : exchange.isAside = true) :
    EndsKept session (exchange :: history) := by
  obtain ⟨unfed, unended, untold, unsubmitted⟩ := Exchange.isAside_eq_true.mp isAside
  exact kept.quiet unfed unended untold (.inl unsubmitted)

theorem fed (kept : EndsKept session history) (feeding : session.feeding = true)
    (slot : Nat) (content : Bytes) (info : SampleInfo) (goesOn : info.flags.isEndOfStream = false)
    (reply : Except Error Unit) :
    EndsKept session (⟨.device (.queueInput .decoder slot content info), reply⟩ :: history) where
  ordered := ⟨⟨fun _ => kept.feeding feeding, by simp [Exchange.submitsFrame, Exchange.tellsEncoder]⟩,
    kept.ordered⟩
  feeding _ := (countP_aside goesOn history).trans (kept.feeding feeding)
  untold isUntold := (countP_aside rfl history).trans (kept.untold isUntold)
  pending := kept.pending
  ended isEnded := countP_lt_cons (kept.ended isEnded) _

theorem endFed (kept : EndsKept session history) (feeding : session.feeding = true)
    (slot : Nat) (content : Bytes) (info : SampleInfo) (reply : Except Error Unit) :
    EndsKept { session with feeding := false, decoder := session.decoder.endInput }
      (⟨.device (.queueInput .decoder slot content info), reply⟩ :: history) where
  ordered := ⟨⟨fun _ => kept.feeding feeding, by simp [Exchange.submitsFrame, Exchange.tellsEncoder]⟩,
    kept.ordered⟩
  feeding isFeeding := nomatch isFeeding
  untold isUntold := by
    refine (countP_aside rfl history).trans (kept.untold ?_)
    simpa only [Machine.isDone_endInput] using isUntold
  pending isPending := by simpa only [Machine.isDone_endInput] using kept.pending isPending
  ended isEnded := countP_lt_cons (kept.ended isEnded) _

theorem told (kept : EndsKept session history) (pending : session.endPending = true)
    (unfed : exchange.feedsDecoder = false) (unended : exchange.endsDecoder = false) :
    EndsKept { session with endPending := false, encoder := session.encoder.endInput }
      (exchange :: history) where
  ordered := ⟨⟨by simp [unfed], fun _ => kept.untold (.inr pending)⟩, kept.ordered⟩
  feeding isFeeding := (countP_aside unended history).trans (kept.feeding isFeeding)
  untold isUntold := by simp [kept.pending pending] at isUntold
  pending isPending := nomatch isPending
  ended isEnded := by
    refine countP_lt_cons (kept.ended ?_) _
    simpa only [Machine.isDone_endInput] using isEnded

theorem stored (kept : EndsKept session history) (input : next.input = session.input)
    (encoder : next.encoder = session.encoder) : EndsKept next history := by
  simp only [Standing.input, Prod.mk.injEq] at input
  obtain ⟨decoder, feeding, endPending, -⟩ := input
  refine kept.moved ?_ ?_ ?_ ?_
  · simp only [feeding, imp_self]
  · simp only [decoder, endPending, imp_self]
  · simpa only [decoder, endPending] using kept.pending
  · simp only [encoder, imp_self]

end EndsKept

namespace TranscodePlan
variable {σ : Type} {plan : TranscodePlan} {session : Standing} {history : History}

theorem dequeueInput_keeps {α : Type} {reached : α → History → Prop}
    (kept : EndsKept session history) (side : Side) {next : Option Nat → Work (History × σ) α}
    (onward : ∀ slot later, EndsKept session later →
      (next slot).Leads later reached (·.Always EndRule)) :
    (plan.dequeueInput side >>= next).Leads history reached (·.Always EndRule) := by
  have quiet (reply) : EndsKept session
      (⟨.device (.dequeueInput side plan.timeout), reply⟩ :: history) := kept.aside rfl
  apply leads_dequeueInput (fun error => (quiet (.error error)).ordered)
  intro reply slot
  exact onward slot _ (quiet reply)

theorem endFeeding_keeps (kept : EndsKept session history) (feeding : session.feeding = true)
    (slot : Nat) (content : Bytes) :
    (endFeeding session slot content : Work (History × σ) Standing).Leads history EndsKept
      (·.Always EndRule) := by
  apply leads_ask
  intro reply
  have told := kept.endFed feeding slot content ⟨0, 0, 0, .endOfStream⟩ reply
  exact leads_settle (fun _ _ => told.ordered) fun _ _ => leads_pure told

theorem feed_keeps (kept : EndsKept session history) (feeding : session.feeding = true) :
    (plan.feed session : Work (History × σ) Standing).Leads history EndsKept
      (·.Always EndRule) := by
  apply leads_ask
  intro current
  cases current with
  | none =>
    apply dequeueInput_keeps (kept.aside rfl) .decoder
    intro slot later held
    cases slot with
    | none => exact leads_pure held
    | some slot => exact endFeeding_keeps held feeding slot #[]
  | some index =>
    have seen : EndsKept session (⟨.storage .currentTrack, some index⟩ :: history) :=
      kept.aside rfl
    dsimp only
    split
    next foreign => exact leads_ask fun _ => leads_pure (seen.aside rfl)
    next own =>
      apply dequeueInput_keeps seen .decoder
      intro slot later held
      cases slot with
      | none => exact leads_pure held
      | some slot =>
        apply leads_ask
        intro buffer
        have lent : EndsKept session (⟨.device (.inputBuffer .decoder slot), buffer⟩ :: later) :=
          held.aside rfl
        apply leads_settle (fun _ _ => lent.ordered)
        intro content _
        apply leads_ask
        intro answer
        have read : EndsKept session (⟨.storage (.read content.size), answer⟩ :: _) :=
          lent.aside rfl
        apply leads_settle (fun _ _ => read.ordered)
        intro data _
        cases data with
        | none => exact endFeeding_keeps read feeding slot content
        | some data =>
          apply leads_ask
          intro time
          apply leads_ask
          intro queued
          have timed : EndsKept session (⟨.storage .currentTime, time⟩ :: _) :=
            read.aside rfl
          have fed := timed.fed feeding slot (overlay data content)
            ⟨data.size, 0, Option.getD time 0, .none⟩ Flags.isEndOfStream_none queued
          apply leads_settle (fun _ _ => fed.ordered)
          intro _ _
          apply leads_ask
          intro more
          have moved : EndsKept session (⟨.storage .advance, more⟩ :: _) :=
            fed.aside rfl
          exact (asks_tell fun _ => trivial).leads_bind (fun _ reply _ asked held => held.aside (Exchange.isAside_of_isClient asked reply))
            moved (fun _ held => held.ordered) fun _ _ _ held => leads_pure held

theorem signalEnd_keeps (kept : EndsKept session history) (pending : session.endPending = true) :
    (plan.signalEnd session : Work (History × σ) Standing).Leads history EndsKept
      (·.Always EndRule) := by
  unfold signalEnd
  dsimp only
  split
  next surface =>
    apply leads_ask
    intro reply
    have told : EndsKept _ (⟨.device .signalEnd, reply⟩ :: history) := kept.told pending rfl rfl
    exact leads_settle (fun _ _ => told.ordered) fun _ _ => leads_pure told
  next raw =>
    apply dequeueInput_keeps kept .encoder
    intro slot later held
    cases slot with
    | none => exact leads_pure held
    | some slot =>
      apply leads_ask
      intro reply
      have told : EndsKept _ (⟨.device (.queueInput .encoder slot #[]
          ⟨0, 0, session.decodedTime, .endOfStream⟩), reply⟩ :: later) := held.told pending rfl rfl
      exact leads_settle (fun _ _ => told.ordered) fun _ _ => leads_pure told

theorem submit_keeps (kept : EndsKept session history) (decoding : session.decoder.isDone = false)
    (time : Int) :
    (plan.submit time : Work (History × σ) Bool).Leads history (fun _ => EndsKept session)
      (·.Always EndRule) := by
  unfold submit
  split
  next surface =>
    apply leads_ask
    intro drawn
    have kept : EndsKept session (⟨.device .drawImage, drawn⟩ :: _) := kept.aside rfl
    apply leads_settle (fun _ _ => kept.ordered)
    intro frame _
    apply leads_ask
    intro _
    have kept : EndsKept session (⟨.device (.presentAt (nanoseconds time)), ()⟩ :: _) :=
      kept.aside rfl
    apply leads_ask
    intro swapped
    have kept : EndsKept session (⟨.device (.swap frame), swapped⟩ :: _) :=
      kept.quiet rfl rfl rfl (.inr decoding)
    exact leads_settle (fun _ _ => kept.ordered) fun _ _ => leads_pure kept
  next raw =>
    apply dequeueInput_keeps kept .encoder
    intro slot later kept
    cases slot with
    | none => exact leads_pure kept
    | some slot =>
      apply leads_ask
      intro drawn
      have kept : EndsKept session (⟨.device .drawImage, drawn⟩ :: _) := kept.aside rfl
      apply leads_settle (fun _ _ => kept.ordered)
      intro frame _
      apply leads_ask
      intro lent
      have kept : EndsKept session (⟨.device (.inputBuffer .encoder slot), lent⟩ :: _) :=
        kept.aside rfl
      apply leads_settle (fun _ _ => kept.ordered)
      intro buffer _
      apply leads_settle (fun _ _ => kept.ordered)
      intro converted _
      apply leads_ask
      intro queued
      have kept : EndsKept session (⟨.device (.queueInput .encoder slot converted.2
          ⟨plan.profile.bufferSize, 0, time, .none⟩), queued⟩ :: _) :=
        kept.quiet rfl rfl (by cases queued <;> exact Flags.isEndOfStream_none) (.inr decoding)
      exact leads_settle (fun _ _ => kept.ordered) fun _ _ => leads_pure kept

theorem renderFrame_keeps (kept : EndsKept session history)
    (decoding : session.decoder.isDone = false) (time : Int) :
    (plan.renderFrame session time : Work (History × σ) Standing).Leads history
      (fun next left => next.decoder = session.decoder ∧ EndsKept next left)
      (·.Always EndRule) := by
  apply leads_ask
  intro delivered
  cases delivered with
  | error refused =>
    refine leads_pure ⟨rfl, ?_⟩
    have seen : EndsKept session (⟨.device .awaitImage, .error refused⟩ :: history) :=
      kept.aside rfl
    exact seen.moved id id seen.pending id
  | ok _ =>
    have seen : EndsKept session (⟨.device .awaitImage, .ok ()⟩ :: history) :=
      kept.aside rfl
    refine leads_bind ((submit_keeps seen decoding time).imp ?_ fun _ ordered => ordered)
    intro submitted left held
    cases submitted with
    | false => exact leads_pure ⟨rfl, held.moved id id held.pending id⟩
    | true => exact leads_pure ⟨rfl, held.moved id id held.pending id⟩

theorem handleDecoded_keeps (kept : EndsKept session history)
    (decoding : session.decoder.isDone = false) (index : Nat) (info : SampleInfo) :
    (plan.handleDecoded session index info : Work (History × σ) Standing).Leads history EndsKept
      (·.Always EndRule) := by
  simp only [handleDecoded, ite_bind]
  apply leads_ask
  intro released
  have seen : EndsKept session (⟨.device (.releaseOutput .decoder index _), released⟩ :: history) :=
    kept.aside rfl
  apply leads_settle (fun _ _ => seen.ordered)
  intro _ _
  apply leads_bind
  have begun : EndsKept { session with
      decodedTime := info.time, feeding := session.feeding && !plan.window.hasEnded info.time }
      (⟨.device (.releaseOutput .decoder index _), released⟩ :: history) :=
    seen.moved (fun isFeeding => (Bool.and_eq_true_iff.mp isFeeding).1) id seen.pending id
  have finishes {next : Standing} {left : History} (same : next.decoder = session.decoder)
      (held : EndsKept next left) :
      (if plan.window.hasEnded info.time || info.flags.isEndOfStream then
          plan.signalEnd { next with decoder := next.decoder.onEndOfStream, endPending := true }
        else pure { next with decoder := next.decoder.onOutput } :
        Work (History × σ) Standing).Leads left EndsKept (·.Always EndRule) := by
    rw [← same] at decoding
    split
    next ends =>
      exact signalEnd_keeps (held.moved id (fun _ => .inl decoding) (fun _ => rfl) id) rfl
    next goesOn =>
      refine leads_pure (held.moved id (fun _ => .inl decoding) ?_ id)
      simpa only [Machine.isDone_onOutput] using held.pending
  split
  next render =>
    exact (renderFrame_keeps begun decoding info.time).imp
      (fun _ _ held => finishes held.1 held.2) fun _ ordered => ordered
  next skip => exact leads_pure (finishes rfl begun)

theorem dequeueOutput_keeps {α : Type} {reached : α → History → Prop}
    (kept : EndsKept session history) (side : Side) {next : OutputStatus → Work (History × σ) α}
    (onward : ∀ reply status, retried .tryAgainLater reply = .ok status →
      EndsKept session (⟨.device (.dequeueOutput side plan.timeout), reply⟩ :: history) →
      (next status).Leads (⟨.device (.dequeueOutput side plan.timeout), reply⟩ :: history) reached
        (·.Always EndRule)) :
    (plan.dequeueOutput side >>= next).Leads history reached (·.Always EndRule) := by
  have quiet (reply) : EndsKept session
      (⟨.device (.dequeueOutput side plan.timeout), reply⟩ :: history) := kept.aside rfl
  apply leads_dequeueOutput (fun error => (quiet (.error error)).ordered)
  intro reply status polled
  exact onward reply status polled (quiet reply)

theorem drainDecoder_keeps (kept : EndsKept session history)
    (turn : nextStep session.decoder.state session.encoder.state = .drainDecoder) :
    (plan.drainDecoder session : Work (History × σ) Standing).Leads history EndsKept
      (·.Always EndRule) := by
  have decoding : session.decoder.isDone = false := by
    simp [Machine.isDone, (nextStep_eq_drainDecoder.mp turn).1]
  have polled {left : History} (held : EndsKept session left) (machine : Machine)
      (same : machine.isDone = session.decoder.isDone) :
      EndsKept { session with decoder := machine } left :=
    held.moved id (fun _ => .inl decoding) (fun isPending => same.trans (held.pending isPending)) id
  have rearmed {next : Standing} {left : History} (held : EndsKept next left) :
      EndsKept { next with encoder := next.encoder.rearm } left := by
    refine held.moved id id held.pending ?_
    simp only [Machine.isDone_rearm, imp_self]
  apply dequeueOutput_keeps kept .decoder
  intro reply status _ held
  cases status with
  | tryAgainLater => exact leads_pure (polled held _ (Machine.isDone_onTryAgain _))
  | buffersChanged => exact leads_pure (rearmed (polled held _ (Machine.isDone_onOutput _)))
  | formatChanged format => exact leads_pure (rearmed (polled held _ (Machine.isDone_onOutput _)))
  | buffer index info =>
    exact leads_bind ((handleDecoded_keeps held decoding index info).imp
      (fun next left held => leads_pure (rearmed held)) fun _ ordered => ordered)

theorem beginCycle_keeps (kept : EndsKept session history) :
    (plan.beginCycle session : Work (History × σ) Standing).Leads history EndsKept
      (·.Always EndRule) := by
  simp only [beginCycle, ite_bind]
  refine (asks_checkCancelled trivial).leads_bind (fun _ reply _ asked held => held.aside (Exchange.isAside_of_isClient asked reply))
    kept (fun _ held => held.ordered) fun _ begun _ kept => ?_
  have fed : (if session.feeding then plan.feed session else pure session :
      Work (History × σ) Standing).Leads begun EndsKept (·.Always EndRule) := by
    split
    next feeding => exact feed_keeps kept feeding
    next ended => exact leads_pure kept
  have told (next : Standing) (left : History) (held : EndsKept next left) :
      (if next.endPending then plan.signalEnd next else pure next :
        Work (History × σ) Standing).Leads left EndsKept (·.Always EndRule) := by
    split
    next pending => exact signalEnd_keeps held pending
    next told => exact leads_pure held
  refine leads_bind (fed.imp (fun next left held => leads_bind ?_) fun _ ordered => ordered)
  refine (told next left held).imp (fun last left held => leads_pure ?_) fun _ ordered => ordered
  refine held.moved id ?_ ?_ ?_
  · simp only [Machine.isDone_rearm, imp_self]
  · simpa only [Machine.isDone_rearm] using held.pending
  · simp only [Machine.isDone_rearm, imp_self]

theorem drainEncoder_keeps (kept : EndsKept session history) :
    (plan.drainEncoder session : Work (History × σ) Standing).Leads history EndsKept
      (·.Always EndRule) := by
  have polled {next : Standing} {left : History} (held : EndsKept next left) (machine : Machine)
      (same : machine.isDone = next.encoder.isDone) :
      EndsKept { next with encoder := machine } left :=
    held.moved id id held.pending fun isEnded => same.symm.trans isEnded
  apply dequeueOutput_keeps kept .encoder
  intro reply status answered held
  cases status with
  | tryAgainLater => exact leads_pure (polled held _ (Machine.isDone_onTryAgain _))
  | buffersChanged => exact leads_pure (polled held _ (Machine.isDone_onOutput _))
  | formatChanged format =>
    refine register_asks.leads_bind (fun _ reply _ stores held => held.aside (Exchange.isAside_of_isDownstream stores reply))
      held (fun _ held => held.ordered) fun next left same held => leads_pure ?_
    exact polled (held.stored same.1 same.2) _ (Machine.isDone_onOutput _)
  | buffer index info =>
    have known : reply = .ok (.buffer index info) := retried_eq_ok answered (by simp)
    subst known
    have ends : info.flags.isEndOfStream = true → 0 < List.countP Exchange.endsOutput
        (⟨.device (.dequeueOutput .encoder plan.timeout), .ok (.buffer index info)⟩ :: history) :=
      fun isLast => countP_cons_pos isLast history
    have stored : (if 1 < info.size then plan.storeEncoded session index info else pure session :
        Work (History × σ) Standing).Asks Call.IsDownstream
          fun next => next.input = session.input ∧ next.encoder = session.encoder := by
      split
      next long => exact storeEncoded_asks
      next short => exact asks_pure ⟨rfl, rfl⟩
    have keeps : ∀ (call : Call) (reply : call.Reply) (before : History), call.IsDownstream →
        (EndsKept session before ∧
          (info.flags.isEndOfStream = true → 0 < before.countP Exchange.endsOutput)) →
        EndsKept session (⟨call, reply⟩ :: before) ∧ (info.flags.isEndOfStream = true →
          0 < List.countP Exchange.endsOutput (⟨call, reply⟩ :: before)) :=
      fun call reply before stores both =>
        ⟨both.1.aside (Exchange.isAside_of_isDownstream stores reply),
          fun isLast => countP_lt_cons (both.2 isLast) _⟩
    simp only [ite_bind]
    apply stored.leads_bind keeps ⟨held, ends⟩ (fun _ both => both.1.ordered)
    intro next left same both
    apply leads_ask
    intro released
    have both := keeps _ released left trivial both
    apply leads_settle (fun _ _ => both.1.ordered)
    intro _ _
    apply leads_pure
    have held := both.1.stored same.1 same.2
    split
    next isLast =>
      exact ⟨held.ordered, held.feeding, held.untold, held.pending, fun _ => both.2 isLast⟩
    next goesOn => exact polled held _ (Machine.isDone_onOutput _)

theorem finish_keeps (kept : EndsKept session history)
    (turn : nextStep session.decoder.state session.encoder.state = .finish) :
    (plan.finish session : Work (History × σ) TranscodeOutcome).Leads history
      (fun _ left => left.Always EndRule ∧ 0 < left.countP Exchange.endsOutput)
      (·.Always EndRule) := by
  have isDone : session.encoder.isDone = true := by
    simp [Machine.isDone, nextStep_eq_finish.mp turn]
  exact register_asks.leads_bind
    (fun _ reply _ stores held => held.aside (Exchange.isAside_of_isDownstream stores reply)) kept
    (fun _ held => held.ordered) fun next left same held =>
      leads_pure ⟨held.ordered, held.ended isDone⟩

/-- Whatever the session's world answers, the ends are told as they should be. -/
theorem upholds_ends (plan : TranscodePlan) : Upholds plan σ EndsKept (·.Always EndRule)
    fun _ history => history.Always EndRule ∧ 0 < history.countP Exchange.endsOutput where
  start := ⟨trivial, fun _ => rfl, fun _ => rfl, nofun, nofun⟩
  standing_safe _ _ held := held.ordered
  beginCycle _ _ held _ := beginCycle_keeps held
  drainEncoder _ _ held _ := drainEncoder_keeps held
  drainDecoder _ _ held turn := drainDecoder_keeps held turn
  finish _ _ held turn := finish_keeps held turn
  standing_setting _ _ reply _ isSetting held :=
    held.aside (Exchange.isAside_of_isSetting isSetting reply)
  safe_setting _ reply history isSetting ordered :=
    ⟨.of_isAside (Exchange.isAside_of_isSetting isSetting reply) history, ordered⟩
  reached_setting _ _ reply history isSetting held :=
    ⟨⟨.of_isAside (Exchange.isAside_of_isSetting isSetting reply) history, held.1⟩,
      countP_lt_cons held.2 _⟩

end TranscodePlan

/-- A transcode tells each codec of the end in time. The decoder is told at most once and gets
nothing more; the encoder is told at most once and gets no frame afterwards; and where it ends its
output only after it was told, each transcode that succeeds told it exactly once. -/
theorem transcode_tells_end_once {σ : Type} (plan : TranscodePlan) (world : World σ)
    (desk : Desk σ) :
    let (result, history) := (transcode plan).records world desk
    history.Always (fun latest earlier =>
      latest.feedsDecoder → earlier.countP Exchange.endsDecoder = 0) ∧
    history.countP Exchange.endsDecoder ≤ 1 ∧
    history.countP Exchange.tellsEncoder ≤ 1 ∧
    history.Always (fun latest earlier =>
      latest.submitsFrame → earlier.countP Exchange.tellsEncoder = 0) ∧
    (history.Always (fun latest earlier =>
        latest.endsOutput → 0 < earlier.countP Exchange.tellsEncoder) →
      ∀ outcome, result = .ok outcome → history.countP Exchange.tellsEncoder = 1) := by
  have ends := (TranscodePlan.upholds_ends plan).transcode.records world desk
  rcases found : (transcode plan).records world desk with ⟨result, history⟩
  have ordered : history.Always EndRule := by
    cases result with
    | error stop => simpa only [found] using ends
    | ok outcome =>
      simp only [found] at ends
      exact ends.1
  have atMostOnce : history.countP Exchange.tellsEncoder ≤ 1 :=
    (ordered.imp fun _ _ rule tells => rule.2 (.inr tells)).countP_le_one
  refine ⟨ordered.imp fun _ _ rule => rule.1, ?_, atMostOnce, ?_, ?_⟩
  · refine Always.countP_le_one (ordered.imp fun latest earlier rule isEnd => rule.1 ?_)
    exact Exchange.feedsDecoder_of_endsDecoder isEnd
  · exact ordered.imp fun _ _ rule submits => rule.2 (.inl submits)
  · intro afterTelling outcome succeeded
    simp only [found, succeeded] at ends
    have told := afterTelling.countP_pos ends.2
    omega

end Recode.Session
