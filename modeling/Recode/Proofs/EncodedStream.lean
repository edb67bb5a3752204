import Recode.Proofs.SessionSteps

/-!
What the muxer gets of a transcode: one track, and in it the encoder's output, buffer for buffer. It
does not matter when and how often the encoder tells its format, or how its configuration and its
samples are mixed.
-/

namespace Recode.Session
open Recode.Media Recode.Container Recode.Device Recode.Picture Recode.Progress
open Recode.Session.Work Recode.Session.History

structure Output where
  index : Nat
  info : SampleInfo
  content : Option Bytes := none
  deriving DecidableEq, Repr

namespace Output

/-- Configuration belongs to no sample, and neither does a buffer of one byte or none. -/
def isSample (output : Output) : Bool :=
  decide (1 < output.info.size) && !output.info.flags.isCodecConfig

def samples (outputs : List Output) : List (SampleInfo × Option Bytes) :=
  (outputs.filter isSample).map fun output => (output.info, output.content)

theorem samples_cons_of_sample {output : Output} (isSample : output.isSample = true)
    (outputs : List Output) :
    samples (output :: outputs) = (output.info, output.content) :: samples outputs := by
  simp only [samples, List.filter_cons_of_pos isSample, List.map_cons]

theorem samples_cons_of_other {output : Output} (other : output.isSample = false)
    (outputs : List Output) : samples (output :: outputs) = samples outputs := by
  simp only [samples, List.filter_cons, other, Bool.false_eq_true, if_false]

theorem samples_suffix_cons (output : Output) (outputs : List Output) :
    samples outputs <:+ samples (output :: outputs) := by
  cases found : output.isSample with
  | false => exact ⟨[], (samples_cons_of_other found outputs).symm⟩
  | true =>
    rw [samples_cons_of_sample found]
    exact List.suffix_cons _ _

end Output

namespace Exchange

def putOut : Exchange → List Output → List Output
  | ⟨.device (.dequeueOutput .encoder _), .ok (.buffer index info)⟩, outputs =>
      ⟨index, info, none⟩ :: outputs
  | ⟨.device (.encodedBuffer index), .ok content⟩, output :: outputs =>
      (if output.index = index then { output with content := some content } else output) :: outputs
  | _, outputs => outputs

def addsTrack : Exchange → Bool
  | ⟨.storage (.addTrack _ _), _⟩ => true
  | _ => false

def addedTrack? : Exchange → Option Nat
  | ⟨.storage (.addTrack _ _), .ok track⟩ => some track
  | _ => none

def isAudio : Exchange → Bool
  | ⟨.storage (.addTrack _ isAudio), _⟩ => isAudio
  | ⟨.storage (.write _ _ _ isAudio), _⟩ => isAudio
  | _ => false

def writtenTrack? : Exchange → Option Nat
  | ⟨.storage (.write track _ _ _), _⟩ => some track
  | _ => none

def written? : Exchange → Option (SampleInfo × Option Bytes)
  | ⟨.storage (.write _ buffer info _), _⟩ => some (info, some buffer)
  | _ => none

def isStored : Exchange → Bool
  | ⟨.storage (.write _ _ _ _), .ok true⟩ => true
  | _ => false

end Exchange

namespace History

def outputs (history : History) : List Output := history.foldr Exchange.putOut []

/-- The samples among the encoder's output, the latest first. -/
def samples (history : History) : List (SampleInfo × Option Bytes) :=
  Output.samples history.outputs

def tracks (history : History) : List Nat := history.filterMap Exchange.addedTrack?

def writes (history : History) : List (SampleInfo × Option Bytes) :=
  history.filterMap Exchange.written?

end History

/-- Nothing is audio, and what is written goes to a track that there is. -/
def StoreRule (latest : Exchange) (earlier : History) : Prop :=
  latest.isAudio = false ∧ ∀ track, latest.writtenTrack? = some track → track ∈ earlier.tracks

/-- What holds of the muxer wherever a transcode breaks off. -/
structure StoredSafely (history : History) : Prop where
  ruled : history.Always StoreRule
  added : history.countP Exchange.addsTrack ≤ 1
  inOrder : history.writes <:+ history.samples

/-- What a session knows of its destination agrees with what the muxer was told. -/
structure Tracked (session : Standing) (history : History) : Prop where
  ruled : history.Always StoreRule
  added : history.countP Exchange.addsTrack = session.destination.toList.length
  tracks : history.tracks = session.destination.toList
  written : history.countP Exchange.isStored = session.written

structure Stored (session : Standing) (history : History) : Prop extends Tracked session history where
  matched : history.writes = history.samples

namespace Exchange

def IsIdle (exchange : Exchange) : Prop :=
  exchange.putOut = id ∧ exchange.addsTrack = false ∧ exchange.addedTrack? = none ∧
    exchange.isAudio = false ∧ exchange.writtenTrack? = none ∧ exchange.written? = none ∧
    exchange.isStored = false

theorem isIdle_of_isSetting {call : Call} (isSetting : call.IsSetting) (reply : call.Reply) :
    IsIdle ⟨call, reply⟩ := by
  unfold Call.IsSetting at isSetting
  split at isSetting
  all_goals first
    | exact isSetting.elim
    | exact ⟨rfl, rfl, rfl, rfl, rfl, rfl, rfl⟩

theorem isIdle_of_isUpstream {call : Call} (isUpstream : call.IsUpstream) (reply : call.Reply) :
    IsIdle ⟨call, reply⟩ := by
  unfold Call.IsUpstream at isUpstream
  split at isUpstream
  all_goals try exact ⟨rfl, rfl, rfl, rfl, rfl, rfl, rfl⟩
  unfold Call.IsFeeding at isUpstream
  split at isUpstream
  all_goals first
    | exact isUpstream.elim
    | exact ⟨rfl, rfl, rfl, rfl, rfl, rfl, rfl⟩

end Exchange

theorem StoreRule.of_isIdle {exchange : Exchange} (isIdle : exchange.IsIdle) (history : History) :
    StoreRule exchange history := by
  obtain ⟨-, -, -, video, unwritten, -, -⟩ := isIdle
  exact ⟨video, by simp [unwritten]⟩

namespace History
variable {exchange : Exchange}

theorem outputs_cons (exchange : Exchange) (history : History) :
    outputs (exchange :: history) = exchange.putOut history.outputs := rfl

theorem samples_cons (quiet : exchange.putOut = id) (history : History) :
    samples (exchange :: history) = history.samples := by
  simp only [samples, outputs_cons, quiet, id_eq]

theorem tracks_cons (none_added : exchange.addedTrack? = none) (history : History) :
    tracks (exchange :: history) = history.tracks :=
  List.filterMap_cons_none none_added

theorem writes_cons (unwritten : exchange.written? = none) (history : History) :
    writes (exchange :: history) = history.writes :=
  List.filterMap_cons_none unwritten

end History

theorem StoredSafely.idle {history : History} (safe : StoredSafely history) {exchange : Exchange}
    (isIdle : exchange.IsIdle) : StoredSafely (exchange :: history) where
  ruled := ⟨.of_isIdle isIdle history, safe.ruled⟩
  added := by
    rw [countP_aside isIdle.2.1]
    exact safe.added
  inOrder := by
    rw [samples_cons isIdle.1, writes_cons isIdle.2.2.2.2.2.1]
    exact safe.inOrder

namespace Tracked
variable {session : Standing} {history : History} {exchange : Exchange}

theorem aside (held : Tracked session history) (rule : StoreRule exchange history)
    (unadded : exchange.addsTrack = false) (untracked : exchange.addedTrack? = none)
    (unstored : exchange.isStored = false) : Tracked session (exchange :: history) where
  ruled := ⟨rule, held.ruled⟩
  added := (countP_aside unadded history).trans held.added
  tracks := (tracks_cons untracked history).trans held.tracks
  written := (countP_aside unstored history).trans held.written

theorem idle (held : Tracked session history) (isIdle : exchange.IsIdle) :
    Tracked session (exchange :: history) :=
  held.aside (.of_isIdle isIdle history) isIdle.2.1 isIdle.2.2.1 isIdle.2.2.2.2.2.2

theorem added_le_one (held : Tracked session history) :
    history.countP Exchange.addsTrack ≤ 1 := by
  rw [held.added]
  cases session.destination <;> simp

end Tracked

namespace Stored
variable {session next : Standing} {history : History} {exchange : Exchange}

theorem safely (held : Stored session history) : StoredSafely history where
  ruled := held.ruled
  added := held.added_le_one
  inOrder := held.matched ▸ List.suffix_rfl

theorem idle (held : Stored session history) (isIdle : exchange.IsIdle) :
    Stored session (exchange :: history) where
  toTracked := held.toTracked.idle isIdle
  matched := by
    rw [samples_cons isIdle.1, writes_cons isIdle.2.2.2.2.2.1]
    exact held.matched

theorem moved (held : Stored session history) (same : next.output = session.output) :
    Stored next history := by
  simp only [Standing.output, Prod.mk.injEq] at same
  obtain ⟨destination, written⟩ := same
  exact ⟨⟨held.ruled, destination ▸ held.added, destination ▸ held.tracks, written ▸ held.written⟩,
    held.matched⟩

end Stored

/-- What a transcode that succeeds leaves behind: one track, and in it all samples. -/
structure StoredWholly (outcome : TranscodeOutcome) (history : History) : Prop where
  ruled : history.Always StoreRule
  added : history.countP Exchange.addsTrack = 1
  tracks : history.tracks = [outcome.destination]
  written : history.countP Exchange.isStored = outcome.written
  matched : history.writes = history.samples

theorem StoredWholly.idle {outcome : TranscodeOutcome} {history : History}
    (held : StoredWholly outcome history) {exchange : Exchange} (isIdle : exchange.IsIdle) :
    StoredWholly outcome (exchange :: history) where
  ruled := ⟨.of_isIdle isIdle history, held.ruled⟩
  added := (countP_aside isIdle.2.1 history).trans held.added
  tracks := (tracks_cons isIdle.2.2.1 history).trans held.tracks
  written := (countP_aside isIdle.2.2.2.2.2.2 history).trans held.written
  matched := by
    rw [samples_cons isIdle.1, writes_cons isIdle.2.2.2.2.2.1]
    exact held.matched

/-- The encoder has put out `output`, and all its samples before are written. -/
structure Awaiting (session : Standing) (output : Output) (earlier : List Output)
    (history : History) : Prop extends Tracked session history where
  outputs : history.outputs = output :: earlier
  matched : history.writes = Output.samples earlier

namespace Awaiting
variable {session : Standing} {output : Output} {earlier : List Output} {history : History}

theorem safely (held : Awaiting session output earlier history) : StoredSafely history where
  ruled := held.ruled
  added := held.added_le_one
  inOrder := by
    rw [held.matched, samples, held.outputs]
    exact Output.samples_suffix_cons output earlier

theorem passed (held : Awaiting session output earlier history)
    (other : output.isSample = false) : Stored session history where
  toTracked := held.toTracked
  matched := by rw [held.matched, samples, held.outputs, Output.samples_cons_of_other other]

theorem idle (held : Awaiting session output earlier history) {exchange : Exchange}
    (isIdle : exchange.IsIdle) : Awaiting session output earlier (exchange :: history) where
  toTracked := held.toTracked.idle isIdle
  outputs := by rw [outputs_cons, isIdle.1, id_eq, held.outputs]
  matched := (writes_cons isIdle.2.2.2.2.2.1 history).trans held.matched

theorem fetched {content : Bytes} (held : Awaiting session output earlier history) :
    Awaiting session { output with content := some content } earlier
      (⟨.device (.encodedBuffer output.index), .ok content⟩ :: history) where
  toTracked := held.aside ⟨rfl, nofun⟩ rfl rfl rfl
  outputs := by
    rw [outputs_cons, held.outputs]
    simp only [Exchange.putOut, if_true]
  matched := (writes_cons rfl history).trans held.matched

theorem handedOver {content : Bytes} {track : Nat} (held : Awaiting session output earlier history)
    (isSample : output.isSample = true) (fetched : output.content = some content)
    (known : session.destination = some track) (reply : Except Error Bool) :
    Stored { session with written := session.written + match reply with
        | .ok isStored => isStored.toNat
        | .error _ => 0 }
      (⟨.storage (.write track content output.info false), reply⟩ :: history) where
  ruled := by
    refine ⟨⟨rfl, fun other same => ?_⟩, held.ruled⟩
    cases same
    rw [held.tracks, known]
    exact List.mem_singleton.mpr rfl
  added := (countP_aside rfl history).trans held.added
  tracks := (tracks_cons rfl history).trans held.tracks
  written := by
    rw [List.countP_cons, held.written]
    cases reply with
    | error error => rfl
    | ok isStored => cases isStored <;> rfl
  matched := by
    have given : writes (⟨.storage (.write track content output.info false), reply⟩ :: history) =
        (output.info, some content) :: history.writes := rfl
    rw [given, samples_cons rfl, held.matched, samples, held.outputs,
      Output.samples_cons_of_sample isSample, fetched]

end Awaiting

namespace TranscodePlan
variable {σ : Type} {plan : TranscodePlan} {session : Standing} {history : History}

theorem upstream_stores (held : Stored session history) {work : Work (History × σ) Standing}
    (asks : work.Asks Call.IsUpstream (·.output = session.output)) :
    work.Leads history Stored StoredSafely := by
  have keeps : ∀ (call : Call) (reply : call.Reply) (before : History), call.IsUpstream →
      Stored session before → Stored session (⟨call, reply⟩ :: before) :=
    fun _ reply _ isUpstream held => held.idle (Exchange.isIdle_of_isUpstream isUpstream reply)
  exact (asks _ keeps history held).imp (fun _ _ both => both.2.moved both.1) fun _ held => held.safely

theorem register_stores (held : Stored session history) (format : Format) :
    (register session format : Work (History × σ) Standing).Leads history
      (fun next left => next.destination.isSome = true ∧ Stored next left) StoredSafely := by
  unfold register
  split
  next track known => exact leads_pure ⟨known ▸ rfl, held⟩
  next unknown =>
    have none_added : history.countP Exchange.addsTrack = 0 := by simp [held.added, unknown]
    have rule (reply) : StoreRule ⟨.storage (.addTrack format false), reply⟩ history :=
      ⟨rfl, nofun⟩
    have added (reply) : List.countP Exchange.addsTrack
        (⟨.storage (.addTrack format false), reply⟩ :: history) = 1 :=
      (List.countP_cons_of_pos rfl).trans (congrArg Nat.succ none_added)
    apply leads_ask
    intro reply
    refine leads_settle ?_ ?_
    · intro error refused
      subst refused
      refine ⟨⟨rule _, held.ruled⟩, Nat.le_of_eq (added _), ?_⟩
      exact held.safely.inOrder
    · intro track granted
      subst granted
      refine leads_pure ⟨rfl, ⟨⟨rule _, held.ruled⟩, added _, ?_, ?_⟩, ?_⟩
      · show track :: history.tracks = [track]
        rw [held.tracks, unknown]
        rfl
      · exact held.written
      · exact held.matched

theorem storeEncoded_stores {index : Nat} {info : SampleInfo} {earlier : List Output}
    (held : Awaiting session ⟨index, info, none⟩ earlier history) (long : 1 < info.size) :
    (plan.storeEncoded session index info : Work (History × σ) Standing).Leads history Stored
      StoredSafely := by
  apply leads_ask
  intro reply
  refine leads_settle ?_ ?_
  · intro error refused
    subst refused
    exact (held.idle ⟨rfl, rfl, rfl, rfl, rfl, rfl, rfl⟩).safely
  · intro buffer granted
    subst granted
    have fetched : Awaiting session ⟨index, info, some buffer⟩ earlier
        (⟨.device (.encodedBuffer index), .ok buffer⟩ :: history) := held.fetched
    split
    next isConfig =>
      have passed := fetched.passed (by simp [Output.isSample, isConfig])
      split
      next known => exact leads_pure passed
      next unknown =>
        split
        next misses => exact leads_fail passed.safely
        next configuration found =>
          exact (register_stores passed _).imp (fun _ _ held => held.2) fun _ safe => safe
    next isSample =>
      split
      next unknown => exact leads_fail fetched.safely
      next track known =>
        apply leads_ask
        intro reply
        have given := fetched.handedOver (by simp [Output.isSample, isSample, long]) rfl known reply
        apply leads_settle (fun _ _ => given.safely)
        intro isStored granted
        subst granted
        cases isStored with
        | true => exact leads_pure given
        | false => exact leads_pure given

theorem drainEncoder_stores (held : Stored session history) :
    (plan.drainEncoder session : Work (History × σ) Standing).Leads history Stored
      StoredSafely := by
  have polled (reply) (isIdle : Exchange.IsIdle ⟨.device (.dequeueOutput .encoder plan.timeout), reply⟩) :
      Stored session (⟨.device (.dequeueOutput .encoder plan.timeout), reply⟩ :: history) :=
    held.idle isIdle
  simp only [drainEncoder, ite_bind]
  apply leads_dequeueOutput (fun _ => (polled _ ⟨rfl, rfl, rfl, rfl, rfl, rfl, rfl⟩).safely)
  intro reply status answered
  cases status with
  | tryAgainLater =>
    cases reply with
    | error error => exact leads_pure ((polled _ ⟨rfl, rfl, rfl, rfl, rfl, rfl, rfl⟩).moved rfl)
    | ok status =>
      cases answered
      exact leads_pure ((polled _ ⟨rfl, rfl, rfl, rfl, rfl, rfl, rfl⟩).moved rfl)
  | buffersChanged =>
    cases retried_eq_ok answered (by simp)
    exact leads_pure ((polled _ ⟨rfl, rfl, rfl, rfl, rfl, rfl, rfl⟩).moved rfl)
  | formatChanged format =>
    cases retried_eq_ok answered (by simp)
    have seen := polled (.ok (.formatChanged format)) ⟨rfl, rfl, rfl, rfl, rfl, rfl, rfl⟩
    exact leads_bind ((register_stores seen format).imp
      (fun next left both => leads_pure (both.2.moved rfl)) fun _ safe => safe)
  | buffer index info =>
    cases retried_eq_ok answered (by simp)
    have stores {left : History} (awaiting : Awaiting session ⟨index, info, none⟩ history.outputs left) :
        (if 1 < info.size then plan.storeEncoded session index info else pure session :
          Work (History × σ) Standing).Leads left Stored StoredSafely := by
      split
      next long => exact storeEncoded_stores awaiting long
      next short =>
        exact leads_pure (awaiting.passed (by simp [Output.isSample, short]))
    have awaiting : Awaiting session ⟨index, info, none⟩ history.outputs
        (⟨.device (.dequeueOutput .encoder plan.timeout), .ok (.buffer index info)⟩ :: history) :=
      ⟨held.aside ⟨rfl, fun _ written => by cases written⟩ rfl rfl rfl, rfl, held.matched⟩
    refine leads_bind ((stores awaiting).imp (fun next left held => leads_ask fun reply => ?_)
      fun _ safe => safe)
    have held : Stored next (⟨.device (.releaseOutput .encoder index false), reply⟩ :: left) :=
      held.idle ⟨rfl, rfl, rfl, rfl, rfl, rfl, rfl⟩
    exact leads_settle (fun _ _ => held.safely) fun _ _ => leads_pure (held.moved rfl)

theorem finish_stores (held : Stored session history) :
    (plan.finish session : Work (History × σ) TranscodeOutcome).Leads history StoredWholly
      StoredSafely := by
  refine leads_bind ((register_stores held _).imp (fun next left both => leads_pure ?_) fun _ safe => safe)
  obtain ⟨known, held⟩ := both
  obtain ⟨track, known⟩ := Option.isSome_iff_exists.mp known
  have added := held.added
  have tracks := held.tracks
  rw [known] at added tracks
  refine ⟨held.ruled, added, ?_, held.written, held.matched⟩
  rw [known]
  exact tracks

/-- Whatever the session's world answers, the muxer gets what it should. -/
theorem upholds_stored (plan : TranscodePlan) :
    Upholds plan σ Stored StoredSafely StoredWholly where
  start := ⟨⟨trivial, rfl, rfl, rfl⟩, rfl⟩
  standing_safe _ _ held := held.safely
  beginCycle _ _ held _ := upstream_stores held <|
    (beginCycle_asks.weaken fun _ supplies => supplies.isQuiet.isUpstream).imp fun _ same => (Prod.mk.inj same).1
  drainEncoder _ _ held _ := drainEncoder_stores held
  drainDecoder _ _ held _ := upstream_stores held drainDecoder_asks
  finish _ _ held _ := finish_stores held
  standing_setting _ _ reply _ isSetting held :=
    held.idle (Exchange.isIdle_of_isSetting isSetting reply)
  safe_setting _ reply _ isSetting safe :=
    safe.idle (Exchange.isIdle_of_isSetting isSetting reply)
  reached_setting _ _ reply _ isSetting held :=
    held.idle (Exchange.isIdle_of_isSetting isSetting reply)

end TranscodePlan

/-- The muxer gets exactly the encoder's output: at most one track is added, nothing is audio, and
every write comes after the track and goes to it. What a transcode that succeeds has written are the
encoder's samples, with their bytes and as they came; where it fails, an earlier part of them. -/
theorem transcode_writes_encoded {σ : Type} (plan : TranscodePlan) (world : World σ)
    (desk : Desk σ) :
    let (result, history) := (transcode plan).records world desk
    history.countP Exchange.addsTrack ≤ 1 ∧
    history.Always (fun latest earlier => latest.isAudio = false ∧
      ∀ track, latest.writtenTrack? = some track → track ∈ earlier.tracks) ∧
    history.writes <:+ history.samples ∧
    ∀ outcome, result = .ok outcome →
      history.countP Exchange.addsTrack = 1 ∧ history.tracks = [outcome.destination] ∧
      history.writes = history.samples ∧
      history.countP Exchange.isStored = outcome.written := by
  have ends := (TranscodePlan.upholds_stored plan).transcode.records world desk
  rcases found : (transcode plan).records world desk with ⟨result, history⟩
  cases result with
  | error stop =>
    simp only [found] at ends
    exact ⟨ends.added, ends.ruled, ends.inOrder, nofun⟩
  | ok outcome =>
    simp only [found] at ends
    refine ⟨Nat.le_of_eq ends.added, ends.ruled, ends.matched ▸ List.suffix_rfl, ?_⟩
    intro other same
    cases same
    exact ⟨ends.added, ends.tracks, ends.matched, ends.written⟩

end Recode.Session
