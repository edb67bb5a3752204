import Recode.Proofs.Disturbances

/-!
Polls that find nothing. A decoder counts how often it was polled, but as long as it is not told to
stutter it never goes by the count. So two benches that differ in nothing else answer all calls alike.
-/

namespace Recode.Simulation
open Recode.Media Recode.Device Recode.Picture Recode.Session

def Decoder.overpolled (more : Nat) (decoder : Decoder) : Decoder :=
  { decoder with polls := decoder.polls + more }

def Bench.overpolled (more : Nat) (bench : Bench) : Bench :=
  { bench with decoder := bench.decoder.map (·.overpolled more) }

structure Bench.IsFaultless (bench : Bench) : Prop where
  catalog : bench.catalog.faults = {}
  decoder : ∀ decoder, bench.decoder = some decoder → decoder.faults = {}
  encoder : ∀ encoder, bench.encoder = some encoder → encoder.faults = {}

theorem Bench.isFaultless_new (encoders : List CodecInfo) :
    ({ catalog := .new encoders {} } : Bench).IsFaultless where
  catalog := rfl
  decoder _ present := nomatch present
  encoder _ present := nomatch present

/-- The second bench gets nothing wrong, and in the first one at most the decoder was polled more
often. -/
structure Bench.Overpolls (ahead behind : Bench) : Prop where
  same : ∃ more, ahead = behind.overpolled more
  faultless : behind.IsFaultless

/-- What a faultless decoder does hides how often it was polled, and leaves it faultless. -/
def Decoder.Uncounted {α : Type} (act : Decoder → Log → α × Decoder × Log) : Prop :=
  ∀ decoder log more, decoder.faults = {} →
    act (decoder.overpolled more) log =
        ((act decoder log).1, (act decoder log).2.1.overpolled more, (act decoder log).2.2) ∧
      (act decoder log).2.1.faults = decoder.faults

namespace Decoder

theorem uncounted_configure (format : Format) : Uncounted (·.configure format) := by
  intro decoder log more _
  dsimp only [configure]
  split <;> exact ⟨rfl, rfl⟩

theorem uncounted_start : Uncounted fun decoder log => (decoder.start.1, decoder.start.2, log) := by
  intro decoder log more _
  dsimp only [start, overpolled]
  split <;> exact ⟨rfl, rfl⟩

theorem uncounted_release :
    Uncounted fun decoder log => ((), decoder.release log) := by
  intro decoder log more _
  dsimp only [release, overpolled]
  split <;> exact ⟨rfl, rfl⟩

theorem uncounted_whenRunning {α : Type} {act : Decoder → Except Error α × Decoder}
    (alike : ∀ decoder more, decoder.faults = {} → act (decoder.overpolled more) =
      ((act decoder).1, (act decoder).2.overpolled more) ∧ (act decoder).2.faults = decoder.faults) :
    Uncounted fun decoder log =>
      ((decoder.whenRunning (act decoder)).1, (decoder.whenRunning (act decoder)).2, log) := by
  intro decoder log more faultless
  obtain ⟨same, faults⟩ := alike decoder more faultless
  have runs : (overpolled more decoder).isRunning = decoder.isRunning := rfl
  dsimp only [whenRunning]
  rw [runs, same]
  split
  next running => exact ⟨rfl, faults⟩
  next halted => exact ⟨rfl, rfl⟩

theorem uncounted_dequeueInput :
    Uncounted fun decoder log => (decoder.dequeueInput.1, decoder.dequeueInput.2, log) := by
  refine uncounted_whenRunning fun decoder more _ => ?_
  dsimp only [overpolled]
  split <;> exact ⟨rfl, rfl⟩

theorem uncounted_queueInput (slot : Nat) (written : Bytes) (info : SampleInfo) :
    Uncounted (·.queueInput slot written info) := by
  intro decoder log more _
  have runs : (overpolled more decoder).isRunning = decoder.isRunning := rfl
  dsimp only [queueInput]
  rw [runs]
  dsimp only [overpolled]
  split
  next running => split <;> exact ⟨rfl, rfl⟩
  next halted => exact ⟨rfl, rfl⟩

theorem uncounted_releaseOutput (index : Nat) (render : Bool) :
    Uncounted fun decoder log =>
      ((decoder.releaseOutput index render).1, (decoder.releaseOutput index render).2, log) := by
  refine uncounted_whenRunning fun decoder more _ => ?_
  dsimp only [overpolled]
  split <;> exact ⟨rfl, rfl⟩

theorem uncounted_dequeueOutput :
    Uncounted fun decoder log => (decoder.dequeueOutput.1, decoder.dequeueOutput.2, log) := by
  refine uncounted_whenRunning fun decoder more faultless => ?_
  dsimp only [overpolled, emit]
  split
  next fails => exact ⟨rfl, rfl⟩
  next works =>
    split
    next retries => exact ⟨rfl, rfl⟩
    next serves =>
      split
      next unreported => exact ⟨rfl, rfl⟩
      next reported =>
        have count : decoder.polls + more + 1 = decoder.polls + 1 + more := Nat.add_right_comm _ _ _
        simp only [faultless, count, Bool.false_and, Bool.false_eq_true, if_false]
        split <;> exact ⟨rfl, rfl⟩

end Decoder

def Encoder.KeepsFaults {α : Type} (act : Encoder → Log → α × Encoder × Log) : Prop :=
  ∀ encoder log, (act encoder log).2.1.faults = encoder.faults

namespace Encoder

theorem keepsFaults_of_unseen {α : Type} {act : Encoder → Log → α × Encoder × Log}
    (unseen : ∀ change, UnseenLogged (refault change) act) : KeepsFaults act :=
  fun encoder log => congrArg (·.2.1.faults) (unseen (fun _ => encoder.faults) encoder log)

theorem keepsFaults_dequeueOutput :
    KeepsFaults fun encoder log => (encoder.dequeueOutput.1, encoder.dequeueOutput.2, log) := by
  intro encoder log
  dsimp only [dequeueOutput, whenRunning, emitNext, emitConfiguration, emit]
  split
  next running =>
    split
    next fails => rfl
    next works =>
      split
      next retries => rfl
      next serves =>
        split
        next configured => split <;> rfl
        next unconfigured => split <;> rfl
  next halted => rfl

end Encoder

namespace Bench
variable {α : Type} {ahead behind : Bench}

theorem Overpolls.refl (faultless : behind.IsFaultless) : behind.Overpolls behind := by
  refine ⟨⟨0, ?_⟩, faultless⟩
  obtain ⟨catalog, _ | decoder, encoder, surface, transform⟩ := behind <;> rfl

theorem Overpolls.isFaultless (overpolls : ahead.Overpolls behind) : ahead.IsFaultless := by
  obtain ⟨⟨more, rfl⟩, faultless⟩ := overpolls
  refine ⟨faultless.catalog, fun decoder found => ?_, faultless.encoder⟩
  obtain ⟨same, present, rfl⟩ := Option.map_eq_some_iff.mp found
  exact faultless.decoder same present

theorem Overpolls.again (overpolls : ahead.Overpolls behind) :
    (ahead.overpolled 1).Overpolls behind := by
  obtain ⟨⟨more, rfl⟩, faultless⟩ := overpolls
  refine ⟨⟨more + 1, ?_⟩, faultless⟩
  obtain ⟨catalog, _ | decoder, encoder, surface, transform⟩ := behind <;> rfl

def AnswersAlike (act : Bench → α × Bench) (ahead behind : Bench) : Prop :=
  (act behind).1 = (act ahead).1 ∧ (act ahead).2.Overpolls (act behind).2

section
variable (overpolls : ahead.Overpolls behind)
include overpolls

theorem Overpolls.onDecoder {act : Decoder → Log → α × Decoder × Log}
    (uncounted : Decoder.Uncounted act) (absent : α) :
    AnswersAlike (·.onDecoder absent act) ahead behind := by
  obtain ⟨⟨more, rfl⟩, faultless⟩ := overpolls
  obtain ⟨catalog, _ | decoder, encoder, surface, transform⟩ := behind
  · exact ⟨rfl, ⟨more, rfl⟩, faultless⟩
  · obtain ⟨same, faults⟩ := uncounted decoder catalog.log more (faultless.decoder decoder rfl)
    dsimp only [AnswersAlike, Bench.onDecoder, overpolled, Option.map_some]
    rw [same]
    refine ⟨rfl, ⟨more, rfl⟩, faultless.catalog, fun next found => ?_, faultless.encoder⟩
    cases found
    exact faults.trans (faultless.decoder decoder rfl)

theorem Overpolls.onEncoder {act : Encoder → Log → α × Encoder × Log}
    (keeps : Encoder.KeepsFaults act) (absent : α) :
    AnswersAlike (·.onEncoder absent act) ahead behind := by
  obtain ⟨⟨more, rfl⟩, faultless⟩ := overpolls
  obtain ⟨catalog, decoder, _ | encoder, surface, transform⟩ := behind
  · exact ⟨rfl, ⟨more, rfl⟩, faultless⟩
  · refine ⟨rfl, ⟨more, rfl⟩, faultless.catalog, faultless.decoder, fun next found => ?_⟩
    cases found
    exact (keeps encoder catalog.log).trans (faultless.encoder encoder rfl)

theorem Overpolls.onCodec {decode : Decoder → α × Decoder} {encode : Encoder → α × Encoder}
    (uncounted : Decoder.Uncounted fun decoder log => ((decode decoder).1, (decode decoder).2, log))
    (keeps : Encoder.KeepsFaults fun encoder log => ((encode encoder).1, (encode encoder).2, log))
    (side : Side) (absent : α) :
    AnswersAlike (·.onCodec side absent decode encode) ahead behind := by
  cases side with
  | decoder => exact overpolls.onDecoder uncounted absent
  | encoder => exact overpolls.onEncoder keeps absent

theorem Overpolls.aside {act : Bench → α × Bench}
    (apart : ∀ bench : Bench, ∀ decoder, act { bench with decoder } =
      ((act bench).1, { (act bench).2 with decoder }))
    (faults : (act behind).2.catalog.faults = behind.catalog.faults)
    (encoder : (act behind).2.encoder = behind.encoder) :
    AnswersAlike act ahead behind := by
  obtain ⟨⟨more, rfl⟩, faultless⟩ := overpolls
  have kept : (act behind).2.decoder = behind.decoder :=
    congrArg (·.2.decoder) (apart behind behind.decoder)
  have alike : act (behind.overpolled more) =
      ((act behind).1, (act behind).2.overpolled more) := by
    unfold overpolled
    rw [apart behind, kept]
  unfold AnswersAlike
  rw [alike]
  exact ⟨rfl, ⟨more, rfl⟩, faults.trans faultless.catalog, kept ▸ faultless.decoder,
    encoder ▸ faultless.encoder⟩

theorem Overpolls.createEncoder (name : String) :
    AnswersAlike (·.createEncoder name) ahead behind := by
  obtain ⟨⟨more, rfl⟩, faultless⟩ := overpolls
  dsimp only [AnswersAlike, Bench.createEncoder, Catalog.createEncoder, overpolled]
  rw [faultless.catalog]
  cases behind.catalog.codecs.find? fun codec => codec.isEncoder && codec.name == name with
  | none => exact ⟨rfl, ⟨more, rfl⟩, faultless⟩
  | some codec =>
    refine ⟨rfl, ⟨more, rfl⟩, rfl, faultless.decoder, fun encoder found => ?_⟩
    cases found
    rfl

theorem Overpolls.createDecoder (mime : String) :
    AnswersAlike (·.createDecoder mime) ahead behind := by
  obtain ⟨⟨more, rfl⟩, faultless⟩ := overpolls
  dsimp only [AnswersAlike, Bench.createDecoder, Catalog.createDecoder, overpolled]
  cases behind.catalog.codecs.find? fun codec => !codec.isEncoder && codec.supports mime with
  | none => exact ⟨rfl, ⟨more, rfl⟩, faultless⟩
  | some codec =>
    refine ⟨rfl, ⟨0, rfl⟩, faultless.catalog, fun decoder found => ?_, faultless.encoder⟩
    cases found
    exact faultless.catalog

theorem Overpolls.releaseOutput (side : Side) (index : Nat) (render : Bool) :
    AnswersAlike (·.releaseOutput side index render) ahead behind := by
  cases side with
  | encoder =>
    exact overpolls.onEncoder (Encoder.keepsFaults_of_unseen fun _ =>
      (Encoder.unseen_releaseOutput index).logged) missing
  | decoder =>
    obtain ⟨same, ⟨more, left⟩, faultless⟩ :=
      overpolls.onDecoder (Decoder.uncounted_releaseOutput index render) missing
    dsimp only [AnswersAlike, Bench.releaseOutput] at same left ⊢
    rw [left, ← same]
    split
    next image shown => exact ⟨rfl, ⟨more, rfl⟩, faultless.catalog, faultless.decoder, faultless.encoder⟩
    next hidden => exact ⟨rfl, ⟨more, rfl⟩, faultless⟩
    next error refused => exact ⟨rfl, ⟨more, rfl⟩, faultless⟩

theorem Overpolls.createSurface : AnswersAlike (·.createSurface) ahead behind := by
  obtain ⟨same, ⟨more, left⟩, faultless⟩ := @Overpolls.onEncoder _ ahead behind overpolls
    (fun encoder log => (encoder.createSurface.1, encoder.createSurface.2, log))
    (Encoder.keepsFaults_of_unseen fun _ => Encoder.unseen_createSurface.logged) missing
  dsimp only [AnswersAlike, Bench.createSurface] at same left ⊢
  rw [left, ← same]
  split
  next surface made => exact ⟨rfl, ⟨more, rfl⟩, faultless.catalog, faultless.decoder, faultless.encoder⟩
  next error refused => exact ⟨rfl, ⟨more, rfl⟩, faultless⟩

theorem Overpolls.swap (frame : Frame) : AnswersAlike (·.swap frame) ahead behind := by
  have same : ahead.surface = behind.surface := by
    obtain ⟨⟨more, rfl⟩, -⟩ := overpolls
    rfl
  dsimp only [AnswersAlike, Bench.swap]
  rw [same]
  cases behind.surface with
  | none => exact ⟨rfl, overpolls⟩
  | some surface =>
    exact overpolls.onEncoder
      (Encoder.keepsFaults_of_unseen fun _ => Encoder.unseen_swap surface frame) missing

/-- Whatever is asked of them, both benches answer the same. -/
theorem Overpolls.answer (call : DeviceCall) : AnswersAlike (Bench.answer call) ahead behind := by
  cases call with
  | codecs => exact overpolls.aside (fun _ _ => rfl) rfl rfl
  | createEncoder name => exact overpolls.createEncoder name
  | createDecoder mime => exact overpolls.createDecoder mime
  | configure side format =>
    cases side with
    | decoder => exact overpolls.onDecoder (Decoder.uncounted_configure format) missing
    | encoder =>
      exact overpolls.onEncoder
        (Encoder.keepsFaults_of_unseen fun _ => Encoder.unseen_configure format) missing
  | start side =>
    exact overpolls.onCodec Decoder.uncounted_start
      (Encoder.keepsFaults_of_unseen fun _ => Encoder.unseen_start.logged) side missing
  | stop side => exact overpolls.onCodec (fun _ _ _ _ => ⟨rfl, rfl⟩) (fun _ _ => rfl) side missing
  | release side =>
    cases side with
    | decoder => exact overpolls.onDecoder Decoder.uncounted_release ()
    | encoder =>
      exact overpolls.onEncoder (Encoder.keepsFaults_of_unseen fun _ => Encoder.unseen_release) ()
  | dequeueInput side timeout =>
    exact overpolls.onCodec Decoder.uncounted_dequeueInput
      (Encoder.keepsFaults_of_unseen fun _ => Encoder.unseen_dequeueInput.logged) side missing
  | inputBuffer side slot =>
    exact overpolls.onCodec (fun _ _ _ _ => ⟨rfl, rfl⟩) (fun _ _ => rfl) side missing
  | queueInput side slot content info =>
    cases side with
    | decoder => exact overpolls.onDecoder (Decoder.uncounted_queueInput slot content info) missing
    | encoder =>
      exact overpolls.onEncoder
        (Encoder.keepsFaults_of_unseen fun _ => Encoder.unseen_queueInput slot content info) missing
  | dequeueOutput side timeout =>
    exact overpolls.onCodec Decoder.uncounted_dequeueOutput Encoder.keepsFaults_dequeueOutput side
      missing
  | releaseOutput side index render => exact overpolls.releaseOutput side index render
  | encodedBuffer index => exact overpolls.onEncoder (fun _ _ => rfl) missing
  | signalEnd =>
    exact overpolls.onEncoder
      (Encoder.keepsFaults_of_unseen fun _ => Encoder.unseen_signalEnd) missing
  | createSurface => exact overpolls.createSurface
  | presentAt nanoseconds => exact overpolls.aside (fun _ _ => rfl) rfl rfl
  | swap frame => exact overpolls.swap frame
  | releaseSurface =>
    refine overpolls.aside ?_ ?_ ?_
    · rintro ⟨catalog, _, encoder, _ | surface, transform⟩ decoder <;> rfl
    · obtain ⟨catalog, decoder, encoder, _ | surface, transform⟩ := behind <;> rfl
    · obtain ⟨catalog, decoder, encoder, _ | surface, transform⟩ := behind <;> rfl
  | createTransform spec =>
    refine overpolls.aside (fun bench decoder => ?_) ?_ ?_ <;>
      dsimp only [Bench.answer, createTransform] <;> split <;> rfl
  | awaitImage =>
    refine overpolls.aside ?_ ?_ ?_
    · rintro ⟨catalog, _, encoder, surface, _ | transform⟩ decoder <;> rfl
    · obtain ⟨catalog, decoder, encoder, surface, _ | transform⟩ := behind <;> rfl
    · obtain ⟨catalog, decoder, encoder, surface, _ | transform⟩ := behind <;> rfl
  | drawImage =>
    refine overpolls.aside ?_ ?_ ?_
    · rintro ⟨catalog, _, encoder, surface, _ | transform⟩ decoder <;> rfl
    · obtain ⟨catalog, decoder, encoder, surface, _ | transform⟩ := behind <;> rfl
    · obtain ⟨catalog, decoder, encoder, surface, _ | transform⟩ := behind <;> rfl
  | releaseTransform => exact overpolls.aside (fun _ _ => rfl) rfl rfl

end

end Bench

end Recode.Simulation
