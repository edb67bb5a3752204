import Recode.Proofs.Course
import Recode.Proofs.WorkingRig

/-!
A session on a rig whose codecs work makes headway, whatever the codecs are told to get wrong, whether
the containers fail, and even if the client cancels or breaks down. Each of its steps ends it or leaves
less to do, so with enough steps it does not stall.
-/

namespace Recode.Session

namespace Machine

def IsFair (machine : Machine) : Prop :=
  machine.state = .draining → machine.inputEnded = true

theorem isFair_endInput (machine : Machine) : machine.endInput.IsFair := fun _ => rfl

theorem isFair_onEndOfStream (machine : Machine) : machine.onEndOfStream.IsFair := fun _ => rfl

theorem isFair_rearm (machine : Machine) : machine.rearm.IsFair := by
  rcases machine with ⟨_ | _ | _ | _, _⟩ <;> exact fun drains => nomatch drains

theorem isFair_onTryAgain (machine : Machine) : machine.onTryAgain.IsFair := by
  rcases machine with ⟨_ | _ | _ | _, _ | _⟩ <;> intro drains <;>
    first | rfl | exact nomatch drains

end Machine

def Standing.gears (session : Standing) : Machine × Machine × Bool × Bool :=
  (session.decoder, session.encoder, session.feeding, session.endPending)

end Recode.Session

namespace Recode.Simulation
open Recode.Media Recode.Container Recode.Device Recode.Picture Recode.Progress Recode.Session
open Recode.Session.Work

def Encoder.Takes (encoder after : Encoder) : Prop :=
  ∃ slots tries more, slots.free ≠ [] ∧ tries ≤ encoder.inputTryAgain ∧ List.length more ≤ 1 ∧
    EncoderInput.endOfStream ∉ more ∧ after = encoder.taking slots tries more

namespace Encoder
variable {encoder after : Encoder}

theorem load_taking (encoder : Encoder) (slots : Slots) (tries : Nat) (more : List EncoderInput) :
    (encoder.taking slots tries more).load + 3 * encoder.inputTryAgain =
      encoder.load + 3 * tries + more.length := by
  show { encoder with slots, inputTryAgain := tries, queue := encoder.queue ++ more }.load + _ = _
  simp only [load, List.length_append]
  omega

namespace Takes

theorem nothing (free : encoder.slots.free ≠ []) {tries : Nat}
    (fewer : tries ≤ encoder.inputTryAgain) :
    encoder.Takes { encoder with inputTryAgain := tries } :=
  ⟨encoder.slots, tries, [], free, fewer, Nat.zero_le _, List.not_mem_nil,
    by simp only [taking, List.append_nil]⟩

variable (takes : encoder.Takes after)
include takes

theorem isRunning : after.isRunning = encoder.isRunning := by
  obtain ⟨slots, tries, more, -, -, -, -, rfl⟩ := takes
  rfl

theorem outputTryAgain : after.outputTryAgain = encoder.outputTryAgain := by
  obtain ⟨slots, tries, more, -, -, -, -, rfl⟩ := takes
  rfl

theorem free : after.slots.free ≠ [] := by
  obtain ⟨slots, tries, more, free, -, -, -, rfl⟩ := takes
  exact free

theorem load_le : after.load ≤ encoder.load + 1 := by
  obtain ⟨slots, tries, more, -, fewer, short, -, rfl⟩ := takes
  have sum := encoder.load_taking slots tries more
  omega

theorem ending : EncoderInput.endOfStream ∈ after.queue ↔
    EncoderInput.endOfStream ∈ encoder.queue := by
  obtain ⟨slots, tries, more, -, -, -, frames, rfl⟩ := takes
  simp [taking, frames]

end Takes

end Encoder

/-- Between two steps of a session the track is read and both codecs run, and what the session
remembers of them agrees with what they hold. -/
structure Lively (track : Nat) (session : Standing) (stage : Stage) : Prop where
  reads : stage.demuxer.Reads track
  decoderRuns : stage.decoder.isRunning = true
  decoderFree : stage.decoder.slots.free ≠ []
  encoderRuns : stage.encoder.isRunning = true
  encoderFree : stage.encoder.slots.free ≠ []
  decoderFair : session.decoder.IsFair
  encoderFair : session.encoder.IsFair
  fed : session.feeding = true →
    session.decoder.isDone = false ∧ session.decoder.inputEnded = false
  /-- The last of the samples is in the decoder once no more are fed. -/
  last : session.decoder.isDone = false →
    (session.feeding = true ↔ ∀ sample ∈ stage.decoder.pending, sample.2 = false)
  pending : session.endPending = true → session.decoder.isDone = true
  told : session.encoder.inputEnded = (session.decoder.isDone && !session.endPending)
  /-- The word of the end is in the encoder once it is told. -/
  ending : session.encoder.isDone = false →
    (EncoderInput.endOfStream ∈ stage.encoder.queue ↔ session.encoder.inputEnded = true)

/-- Neither codec is told to let polls for output find nothing. -/
structure Reliable (stage : Stage) : Prop where
  stutter : stage.decoder.faults.stutter = false
  decoder : stage.decoder.outputTryAgain = 0
  encoder : stage.encoder.outputTryAgain = 0

/-- A codec that is not worth a poll has nothing to put out. -/
structure Calm (session : Standing) (stage : Stage) : Prop extends Reliable stage where
  decoded : session.decoder.state ≠ .hasOutput → session.decoder.isDone = false →
    stage.decoder.pending = [] ∧ stage.decoder.formatReported = true
  encoded : session.encoder.state ≠ .hasOutput → session.encoder.isDone = false →
    stage.encoder.queue = [] ∧ stage.encoder.configSent = true

def GoesOn (track before : Nat) (calm : Prop) (session : Standing) (desk : Desk (Rig Bench)) : Prop :=
  ∃ stage, desk.outside.Shows stage ∧ Lively track session stage ∧
    effort session stage < before ∧ (calm → Calm session stage)

section
variable {track before : Nat} {calm : Prop} {session next : Standing} {stage : Stage}
  {desk : Desk (Rig Bench)}

theorem Lively.congr (lively : Lively track session stage) (same : next.gears = session.gears) :
    Lively track next stage := by
  simp only [Standing.gears, Prod.mk.injEq] at same
  obtain ⟨decoder, encoder, feeding, pending⟩ := same
  exact { lively with
    decoderFair := decoder ▸ lively.decoderFair
    encoderFair := encoder ▸ lively.encoderFair
    fed := by simpa only [decoder, feeding] using lively.fed
    last := by simpa only [decoder, feeding] using lively.last
    pending := by simpa only [decoder, pending] using lively.pending
    told := by simpa only [decoder, encoder, pending] using lively.told
    ending := by simpa only [encoder] using lively.ending }

theorem Calm.congr (calm : Calm session stage) (same : next.gears = session.gears) :
    Calm next stage := by
  simp only [Standing.gears, Prod.mk.injEq] at same
  exact { calm with
    decoded := by simpa only [same] using calm.decoded
    encoded := by simpa only [same] using calm.encoded }

theorem load_congr (same : next.gears = session.gears) : load next stage = load session stage := by
  simp only [Standing.gears, Prod.mk.injEq] at same
  simp only [load, respite, same]

theorem effort_congr (same : next.gears = session.gears) :
    effort next stage = effort session stage := by
  simp only [Standing.gears, Prod.mk.injEq] at same
  simp only [effort, load, respite, decoding, encoding, same]

theorem GoesOn.congr (goes : GoesOn track before calm session desk)
    (same : next.gears = session.gears) : GoesOn track before calm next desk := by
  obtain ⟨stage, shows, lively, less, calms⟩ := goes
  exact ⟨stage, shows, lively.congr same, effort_congr same ▸ less,
    fun holds => (calms holds).congr same⟩

theorem Standing.gears_encoder (same : next.gears = session.gears) (turned : Machine → Machine) :
    { next with encoder := turned next.encoder }.gears =
      { session with encoder := turned session.encoder }.gears := by
  simp only [Standing.gears, Prod.mk.injEq] at same ⊢
  simp only [same, and_self]

theorem effort_encoder (session : Standing) (stage : Stage) (machine : Machine) (encoder : Encoder) :
    effort { session with encoder := machine } { stage with encoder } +
        (stage.encoder.load + encoding session) =
      effort session stage + (encoder.load + encoding { session with encoder := machine }) := by
  have decoded : decoding { session with encoder := machine } = decoding session := rfl
  have rests : respite { session with encoder := machine } stage.decoder =
    respite session stage.decoder := rfl
  simp only [effort, load, decoded, rests]
  omega

end

section
variable {patience : Nat} {desk : Desk (Rig Bench)} {stage : Stage} {session : Standing}
  {plan : TranscodePlan}

theorem register_lasts (shows : desk.outside.Shows stage) (format : Format) :
    (TranscodePlan.register session format).Lasts (Rig.world Bench.answer patience) desk
      fun next left => next.gears = session.gears ∧ left.outside.Shows stage := by
  unfold TranscodePlan.register
  split
  next known => exact lasts_pure ⟨rfl, shows⟩
  next unknown =>
    exact lasts_aside trivial shows fun added left shows =>
      lasts_settle fun _ _ => lasts_pure ⟨rfl, shows⟩

theorem storeEncoded_lasts (shows : desk.outside.Shows stage) (index : Nat) (info : SampleInfo) :
    (plan.storeEncoded session index info).Lasts (Rig.world Bench.answer patience) desk
      fun next left => next.gears = session.gears ∧ left.outside.Shows stage := by
  unfold TranscodePlan.storeEncoded
  refine lasts_aside trivial shows fun found left shows => lasts_settle fun buffer _ => ?_
  split
  next isConfig =>
    split
    next known => exact lasts_pure ⟨rfl, shows⟩
    next unknown =>
      split
      next misses => exact lasts_fail
      next configuration cut => exact register_lasts shows _
  next isSample =>
    split
    next unknown => exact lasts_fail
    next track known =>
      refine lasts_aside trivial shows fun written left shows => lasts_settle fun stored _ => ?_
      cases stored with
      | true => exact lasts_pure ⟨rfl, shows⟩
      | false => exact lasts_pure ⟨rfl, shows⟩

theorem submit_lasts (shows : desk.outside.Shows stage) (running : stage.encoder.isRunning = true)
    (free : stage.encoder.slots.free ≠ []) (time : Int) :
    (plan.submit time).Lasts (Rig.world Bench.answer patience) desk fun _ left =>
      ∃ encoder, stage.encoder.Takes encoder ∧ left.outside.Shows { stage with encoder } := by
  unfold TranscodePlan.submit
  split
  next surface =>
    refine lasts_aside trivial shows fun drawn left shows => lasts_settle fun frame _ => ?_
    refine lasts_aside trivial shows fun _ left shows => lasts_swap shows fun shown left shows => ?_
    exact lasts_pure ⟨_, ⟨_, _, _, free, Nat.le_refl _, Nat.le_refl _, by simp, rfl⟩, shows⟩
  next raw =>
    refine lasts_dequeueInput_encoder shows running free (fun left _ shows => ?_)
      fun slot left shows => ?_
    · exact lasts_pure ⟨_, .nothing free (Nat.sub_le _ 1), shows⟩
    · refine lasts_aside trivial shows fun drawn left shows => lasts_settle fun frame _ => ?_
      refine lasts_aside trivial shows fun buffer left shows => lasts_settle fun buffer _ => ?_
      refine lasts_settle fun converted _ => ?_
      refine lasts_queueInput_encoder shows fun slots left free shows => ?_
      exact lasts_pure ⟨_, ⟨slots, _, _, free, Nat.le_refl _, Nat.le_refl _, by simp [Encoder.queued],
        rfl⟩, shows⟩

theorem renderFrame_lasts (shows : desk.outside.Shows stage)
    (running : stage.encoder.isRunning = true) (free : stage.encoder.slots.free ≠ []) (time : Int) :
    (plan.renderFrame session time).Lasts (Rig.world Bench.answer patience) desk fun next left =>
      next.gears = session.gears ∧
        ∃ encoder, stage.encoder.Takes encoder ∧ left.outside.Shows { stage with encoder } := by
  unfold TranscodePlan.renderFrame
  refine lasts_aside trivial shows fun delivered left shows => ?_
  cases delivered with
  | error refused => exact lasts_pure ⟨rfl, _, .nothing free (Nat.le_refl _), shows⟩
  | ok arrived =>
    refine (submit_lasts shows running free time).bind fun taken left took => ?_
    cases taken with
    | true => exact lasts_pure ⟨rfl, took⟩
    | false => exact lasts_pure ⟨rfl, took⟩

theorem signalEnd_lasts (shows : desk.outside.Shows stage)
    (running : stage.encoder.isRunning = true) (free : stage.encoder.slots.free ≠ []) :
    (plan.signalEnd session).Lasts (Rig.world Bench.answer patience) desk fun next left =>
      ∃ slots tries more, slots.free ≠ [] ∧
        left.outside.Shows { stage with encoder := stage.encoder.taking slots tries more } ∧
        (next.gears = session.gears ∧ more = [] ∧ tries < stage.encoder.inputTryAgain ∨
          next.gears = (session.decoder, session.encoder.endInput, session.feeding, false) ∧
            more = [.endOfStream] ∧ tries ≤ stage.encoder.inputTryAgain) := by
  unfold TranscodePlan.signalEnd
  dsimp only
  split
  next surface =>
    exact lasts_signalEnd shows fun left shows =>
      lasts_pure ⟨_, _, _, free, shows, .inr ⟨rfl, rfl, Nat.le_refl _⟩⟩
  next raw =>
    refine lasts_dequeueInput_encoder shows running free (fun left tries shows => ?_)
      fun slot left shows => ?_
    · refine lasts_pure ⟨stage.encoder.slots, stage.encoder.inputTryAgain - 1, [], free, ?_,
        .inl ⟨rfl, rfl, Nat.sub_lt tries Nat.one_pos⟩⟩
      simpa only [Encoder.taking, List.append_nil] using shows
    · exact lasts_queueInput_encoder shows fun slots left free shows =>
        lasts_pure ⟨slots, _, _, free, shows, .inr ⟨rfl, by simp [Encoder.queued], Nat.le_refl _⟩⟩

theorem takeEncoded_lasts {reached : Standing → Desk (Rig Bench) → Prop}
    (shows : desk.outside.Shows stage) (index : Nat) (info : SampleInfo)
    (onward : ∀ (next : Standing) inFlight left, next.gears = session.gears →
      left.outside.Shows { stage with encoder := { stage.encoder with inFlight } } →
      reached { next with encoder := if info.flags.isEndOfStream then next.encoder.onEndOfStream
        else next.encoder.onOutput } left) :
    ((if 1 < info.size then plan.storeEncoded session index info else pure session) >>=
      fun next => device (.releaseOutput .encoder index false) >>= fun released =>
        settle released >>= fun _ => pure { next with encoder :=
          if info.flags.isEndOfStream then next.encoder.onEndOfStream
          else next.encoder.onOutput }).Lasts (Rig.world Bench.answer patience) desk reached := by
  have stored : (if 1 < info.size then plan.storeEncoded session index info else pure session).Lasts
      (Rig.world Bench.answer patience) desk fun next left =>
        next.gears = session.gears ∧ left.outside.Shows stage := by
    split
    next long => exact storeEncoded_lasts shows index info
    next short => exact lasts_pure ⟨rfl, shows⟩
  refine stored.bind ?_
  rintro next left ⟨same, shows⟩
  exact lasts_releaseOutput_encoder shows fun inFlight left shows =>
    lasts_pure (onward next inFlight left same shows)

section
variable {track : Nat} {left : Desk (Rig Bench)} {encoder : Encoder}
  (lively : Lively track session stage) (turn : session.encoder.state = .hasOutput)
include lively turn

theorem Lively.goesOn_encoded (shows : left.outside.Shows { stage with encoder })
    (runs : encoder.isRunning = true) (free : encoder.slots.free ≠ [])
    (ending : EncoderInput.endOfStream ∈ encoder.queue ↔ session.encoder.inputEnded = true)
    (light : encoder.load < stage.encoder.load)
    (tries : encoder.outputTryAgain = stage.encoder.outputTryAgain) :
    GoesOn track (effort session stage) (Calm session stage)
      { session with encoder := session.encoder.onOutput } left := by
  have rearmed := Machine.state_rearm (Machine.isDone_of_hasOutput turn)
  refine ⟨_, shows, { lively with
    encoderRuns := runs
    encoderFree := free
    encoderFair := Machine.isFair_rearm _
    told := by simpa using lively.told
    ending := fun _ => by simpa using ending }, ?_, fun calm => ?_⟩
  · have polled := encoding_of_hasOutput turn
    have pollsAgain : encoding { session with encoder := session.encoder.onOutput } = 1 :=
      encoding_of_hasOutput rearmed
    have sum := effort_encoder session stage session.encoder.onOutput encoder
    omega
  · exact { calm with
      encoder := tries.trans calm.encoder
      encoded := fun rests => absurd rearmed rests }

/-- The encoder has put out nothing, and is not polled again before there may be something. -/
theorem Lively.goesOn_unencoded (shows : left.outside.Shows { stage with encoder })
    (runs : encoder.isRunning = true) (free : encoder.slots.free ≠ [])
    (queue : encoder.queue = stage.encoder.queue)
    (light : encoder.load + (if session.encoder.inputEnded then 2 else 0) ≤ stage.encoder.load)
    (calms : Calm session stage → encoder.outputTryAgain = 0 ∧ encoder.queue = [] ∧
      encoder.configSent = true) :
    GoesOn track (effort session stage) (Calm session stage)
      { session with encoder := session.encoder.onTryAgain } left := by
  have running := Machine.isDone_of_hasOutput turn
  refine ⟨_, shows, { lively with
    encoderRuns := runs
    encoderFree := free
    encoderFair := Machine.isFair_onTryAgain _
    told := by simpa using lively.told
    ending := fun _ => by simpa [queue] using lively.ending running }, ?_, fun calm => ?_⟩
  · have polled := encoding_of_hasOutput turn
    have waits : encoding { session with encoder := session.encoder.onTryAgain } =
        if session.encoder.inputEnded then 2 else 0 := by
      have rests := Machine.state_onTryAgain running
      simp [encoding, running, rests]
    have sum := effort_encoder session stage session.encoder.onTryAgain encoder
    omega
  · obtain ⟨tries, empty, sent⟩ := calms calm
    exact { calm with encoder := tries, encoded := fun _ _ => ⟨empty, sent⟩ }

theorem Lively.goesOn_ended (shows : left.outside.Shows { stage with encoder })
    (runs : encoder.isRunning = true) (free : encoder.slots.free ≠ [])
    (oldest : EncoderInput.endOfStream ∈ stage.encoder.queue)
    (light : encoder.load < stage.encoder.load)
    (tries : encoder.outputTryAgain = stage.encoder.outputTryAgain) :
    GoesOn track (effort session stage) (Calm session stage)
      { session with encoder := session.encoder.onEndOfStream } left := by
  have running := Machine.isDone_of_hasOutput turn
  have ended := (lively.ending running).mp oldest
  refine ⟨_, shows, { lively with
    encoderRuns := runs
    encoderFree := free
    encoderFair := Machine.isFair_onEndOfStream session.encoder
    told := by simpa [ended, Machine.onEndOfStream] using lively.told
    ending := fun active => nomatch active }, ?_, fun calm => ?_⟩
  · have polled := encoding_of_hasOutput turn
    have isDone : encoding { session with encoder := session.encoder.onEndOfStream } = 0 :=
      encoding_of_done rfl
    have sum := effort_encoder session stage session.encoder.onEndOfStream encoder
    omega
  · exact { calm with
      encoder := tries.trans calm.encoder
      encoded := fun _ active => nomatch active }

theorem drainEncoder_goes (shows : desk.outside.Shows stage) :
    (plan.drainEncoder session).Lasts (Rig.world Bench.answer patience) desk
      (GoesOn track (effort session stage) (Calm session stage)) := by
  have running := Machine.isDone_of_hasOutput turn
  unfold TranscodePlan.drainEncoder
  simp only [ite_bind]
  refine lasts_dequeueOutput_encoder shows lively.encoderRuns ?_
  intro answer encoder status left polled granted shows
  cases polled with
  | fails lasting => simp [retried, lasting] at granted
  | again transient tries =>
    obtain rfl : OutputStatus.tryAgainLater = status := by simpa [retried, transient] using granted
    refine lasts_pure (lively.goesOn_unencoded turn shows lively.encoderRuns lively.encoderFree rfl
      ?_ ?_)
    · have few : (if session.encoder.inputEnded then 2 else 0) ≤ 2 := by split <;> decide
      simp only [Encoder.load]
      omega
    · exact fun calm => absurd calm.encoder (Nat.ne_of_gt tries)
  | nothing sent empty =>
    cases granted
    refine lasts_pure (lively.goesOn_unencoded turn shows lively.encoderRuns lively.encoderFree rfl
      ?_ ?_)
    · have untold : ¬session.encoder.inputEnded = true := by
        rw [← lively.ending running, empty]
        exact List.not_mem_nil
      rw [if_neg untold]
      exact Nat.le_refl _
    · exact fun calm => ⟨calm.encoder, empty, sent⟩
  | format unsent =>
    cases granted
    refine (register_lasts shows _).bind ?_
    rintro next left ⟨same, shows⟩
    refine lasts_pure ((lively.goesOn_encoded turn shows lively.encoderRuns lively.encoderFree
      (lively.ending running) ?_ rfl).congr (Standing.gears_encoder same Machine.onOutput))
    simp only [Encoder.load, unsent, Bool.false_eq_true, if_false, if_true]
    omega
  | configuration unsent goesOn nextOutput inFlight =>
    cases granted
    refine takeEncoded_lasts shows _ _ fun next inFlight left same shows => ?_
    rw [goesOn]
    refine (lively.goesOn_encoded turn shows lively.encoderRuns lively.encoderFree
      (lively.ending running) ?_ rfl).congr (Standing.gears_encoder same Machine.onOutput)
    simp only [Encoder.load, unsent, Bool.false_eq_true, if_false, if_true]
    omega
  | frame oldest goesOn nextOutput inFlight =>
    cases granted
    refine takeEncoded_lasts shows _ _ fun next inFlight left same shows => ?_
    rw [goesOn]
    refine (lively.goesOn_encoded turn shows lively.encoderRuns lively.encoderFree ?_ ?_ rfl).congr
      (Standing.gears_encoder same Machine.onOutput)
    · rw [← lively.ending running, oldest]
      simp
    · simp only [Encoder.load, oldest, List.length_cons]
      omega
  | ends oldest isEnd nextOutput inFlight =>
    cases granted
    refine takeEncoded_lasts shows _ _ fun next inFlight left same shows => ?_
    rw [isEnd]
    refine (lively.goesOn_ended turn shows lively.encoderRuns lively.encoderFree ?_ ?_ rfl).congr
      (Standing.gears_encoder same Machine.onEndOfStream)
    · rw [oldest]
      exact List.mem_cons_self
    · simp only [Encoder.load, oldest, List.length_cons]
      omega

end

end

end Recode.Simulation
