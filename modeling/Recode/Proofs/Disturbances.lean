import Recode.Simulation.Rig

/-!
Four ways in which a simulated world can interrupt a compression: its decoder or its encoder fails
after some outputs, its muxers fail after some writes, or its client cancels after some events. Each
is a setting of the rig that only one kind of call looks at, so for all other calls it makes no
difference whether it is set.
-/

namespace Recode.Simulation
open Recode.Media Recode.Container Recode.Device Recode.Picture Recode.Progress Recode.Session

/-- A change of what codecs are told to get wrong that only concerns when they fail for good. -/
structure Untimely (change : CodecFaults → CodecFaults) : Prop where
  creation : ∀ faults, (change faults).failEncoderCreation = faults.failEncoderCreation
  formatChange : ∀ faults, (change faults).formatChangeFirst = faults.formatChangeFirst
  stutter : ∀ faults, (change faults).stutter = faults.stutter
  decoderTryAgain : ∀ faults, (change faults).decoderTryAgain = faults.decoderTryAgain
  encoderOutputTryAgain : ∀ faults,
    (change faults).encoderOutputTryAgain = faults.encoderOutputTryAgain
  encoderInputTryAgain : ∀ faults,
    (change faults).encoderInputTryAgain = faults.encoderInputTryAgain

/-- The change is seen neither in the answer nor in what else has become of the actor. -/
def Unseen {χ α : Type} (change : χ → χ) (act : χ → α × χ) : Prop :=
  ∀ actor, act (change actor) = ((act actor).1, change (act actor).2)

def UnseenLogged {χ α : Type} (change : χ → χ) (act : χ → Log → α × χ × Log) : Prop :=
  ∀ actor log, act (change actor) log =
    ((act actor log).1, change (act actor log).2.1, (act actor log).2.2)

theorem Unseen.logged {χ α : Type} {change : χ → χ} {act : χ → α × χ} (unseen : Unseen change act) :
    UnseenLogged change fun actor log => ((act actor).1, (act actor).2, log) := by
  intro actor log
  dsimp only
  rw [unseen]

theorem Unseen.andThen {χ α β : Type} {change : χ → χ} {act : χ → α × χ} {next : α → χ → β × χ}
    (unseen : Unseen change act) (goesOn : ∀ value, Unseen change (next value)) :
    Unseen change fun actor => next (act actor).1 (act actor).2 := by
  intro actor
  dsimp only
  rw [unseen, goesOn]

def Decoder.refault (change : CodecFaults → CodecFaults) (decoder : Decoder) : Decoder :=
  { decoder with faults := change decoder.faults }

def Encoder.refault (change : CodecFaults → CodecFaults) (encoder : Encoder) : Encoder :=
  { encoder with faults := change encoder.faults }

def Bench.refault (change : CodecFaults → CodecFaults) (bench : Bench) : Bench :=
  { bench with
    catalog := { bench.catalog with faults := change bench.catalog.faults }
    decoder := bench.decoder.map (·.refault change)
    encoder := bench.encoder.map (·.refault change) }

theorem untimely_failDecoderAfter (after : Option Nat) :
    Untimely ({ · with failDecoderAfter := after }) :=
  ⟨fun _ => rfl, fun _ => rfl, fun _ => rfl, fun _ => rfl, fun _ => rfl, fun _ => rfl⟩

theorem untimely_failEncoderAfter (after : Option Nat) :
    Untimely ({ · with failEncoderAfter := after }) :=
  ⟨fun _ => rfl, fun _ => rfl, fun _ => rfl, fun _ => rfl, fun _ => rfl, fun _ => rfl⟩

section
variable {change : CodecFaults → CodecFaults}

namespace Decoder

theorem whenRunning_refault {α : Type} {decoder : Decoder} {act changed : Except Error α × Decoder}
    (alike : changed = (act.1, act.2.refault change)) :
    (decoder.refault change).whenRunning changed =
      ((decoder.whenRunning act).1, (decoder.whenRunning act).2.refault change) := by
  have same : (refault change decoder).isRunning = decoder.isRunning := rfl
  dsimp only [whenRunning]
  rw [same]
  split
  next running => exact alike
  next halted => rfl

theorem unseen_whenRunning {α : Type} {act : Decoder → Except Error α × Decoder}
    (unseen : Unseen (refault change) act) :
    Unseen (refault change) fun decoder => decoder.whenRunning (act decoder) :=
  fun decoder => whenRunning_refault (unseen decoder)

theorem unseen_configure (format : Format) :
    UnseenLogged (refault change) (·.configure format) := by
  intro decoder log
  dsimp only [configure]
  split <;> rfl

theorem unseen_start : Unseen (refault change) start := by
  intro decoder
  dsimp only [start, refault]
  split <;> rfl

theorem unseen_release :
    UnseenLogged (refault change) fun decoder log => ((), decoder.release log) := by
  intro decoder log
  dsimp only [release, refault]
  split <;> rfl

theorem unseen_dequeueInput : Unseen (refault change) dequeueInput := by
  apply unseen_whenRunning
  intro decoder
  dsimp only [refault]
  split <;> rfl

theorem unseen_queueInput (slot : Nat) (written : Bytes) (info : SampleInfo) :
    UnseenLogged (refault change) (·.queueInput slot written info) := by
  intro decoder log
  have same : (refault change decoder).isRunning = decoder.isRunning := rfl
  dsimp only [queueInput]
  rw [same]
  dsimp only [refault]
  split
  next running => split <;> rfl
  next halted => rfl

theorem unseen_releaseOutput (index : Nat) (render : Bool) :
    Unseen (refault change) (·.releaseOutput index render) := by
  apply unseen_whenRunning
  intro decoder
  dsimp only [refault]
  split <;> rfl

/-- A change of when the decoder fails that it does not meet now does not show in its output. -/
theorem dequeueOutput_refault (untimely : Untimely change) {decoder : Decoder}
    (steadfast : (change decoder.faults).failDecoderAfter.any (· ≤ decoder.nextOutput) =
      decoder.faults.failDecoderAfter.any (· ≤ decoder.nextOutput)) :
    (decoder.refault change).dequeueOutput =
      (decoder.dequeueOutput.1, decoder.dequeueOutput.2.refault change) := by
  have failing : (refault change decoder).faults.failDecoderAfter.any
      (· ≤ (refault change decoder).nextOutput) =
    decoder.faults.failDecoderAfter.any (· ≤ decoder.nextOutput) := steadfast
  apply whenRunning_refault
  rw [failing]
  delta refault
  dsimp only [emit]
  rw [untimely.stutter]
  split
  next fails => rfl
  next works =>
    split
    next retries => rfl
    next serves =>
      split
      next unreported => rfl
      next reported =>
        split
        next stutters => rfl
        next speaks => split <;> rfl

theorem dequeueOutput_failing {decoder : Decoder} (healthy : decoder.faults.failDecoderAfter = none)
    (after : Nat) :
    let failing := decoder.refault ({ · with failDecoderAfter := some after })
    failing.dequeueOutput = (.error (CodecError.unexpectedStatus "decoder" (-1000)), failing) ∨
      failing.dequeueOutput = (decoder.dequeueOutput.1,
        decoder.dequeueOutput.2.refault ({ · with failDecoderAfter := some after })) := by
  intro failing
  by_cases struck : decoder.isRunning = true ∧ after ≤ decoder.nextOutput
  · left
    have running : failing.isRunning = true := struck.1
    have due : failing.faults.failDecoderAfter.any (· ≤ failing.nextOutput) = true :=
      decide_eq_true struck.2
    unfold dequeueOutput whenRunning
    rw [if_pos running, if_pos due]
  · right
    cases running : decoder.isRunning with
    | false =>
      have halted : failing.isRunning = false := running
      simp only [dequeueOutput, whenRunning, halted, running, Bool.false_eq_true, if_false]
      rfl
    | true =>
      refine dequeueOutput_refault (untimely_failDecoderAfter after) ?_
      rw [healthy]
      exact decide_eq_false fun due => struck ⟨running, due⟩

end Decoder

namespace Encoder

theorem whenRunning_refault {α : Type} {encoder : Encoder} {act changed : Except Error α × Encoder}
    (alike : changed = (act.1, act.2.refault change)) :
    (encoder.refault change).whenRunning changed =
      ((encoder.whenRunning act).1, (encoder.whenRunning act).2.refault change) := by
  have same : (refault change encoder).isRunning = encoder.isRunning := rfl
  dsimp only [whenRunning]
  rw [same]
  split
  next running => exact alike
  next halted => rfl

theorem unseen_whenRunning {α : Type} {act : Encoder → Except Error α × Encoder}
    (unseen : Unseen (refault change) act) :
    Unseen (refault change) fun encoder => encoder.whenRunning (act encoder) :=
  fun encoder => whenRunning_refault (unseen encoder)

theorem unseen_configure (format : Format) :
    UnseenLogged (refault change) (·.configure format) := by
  intro encoder log
  dsimp only [configure]
  split
  next width height =>
    split <;> rfl
  next incomplete => rfl

theorem unseen_start : Unseen (refault change) start := by
  intro encoder
  dsimp only [start, refault]
  split <;> rfl

theorem unseen_release :
    UnseenLogged (refault change) fun encoder log => ((), encoder.release log) := by
  intro encoder log
  dsimp only [release, refault]
  split <;> rfl

theorem unseen_createSurface : Unseen (refault change) createSurface := by
  intro encoder
  dsimp only [createSurface, refault]
  split
  next unconfigured => rfl
  next format configured => split <;> rfl

theorem unseen_dequeueInput : Unseen (refault change) dequeueInput := by
  apply unseen_whenRunning
  intro encoder
  dsimp only [refault]
  split
  next surface => rfl
  next raw => split <;> rfl

theorem unseen_queueInput (slot : Nat) (written : Bytes) (info : SampleInfo) :
    UnseenLogged (refault change) (·.queueInput slot written info) := by
  intro encoder log
  have same : (refault change encoder).isRunning = encoder.isRunning := rfl
  dsimp only [queueInput]
  rw [same]
  dsimp only [refault]
  split
  next running =>
    split
    next slots lent => split <;> rfl
    next error refused => rfl
  next halted => rfl

theorem unseen_signalEnd : UnseenLogged (refault change) signalEnd := by
  intro encoder log
  have same : (refault change encoder).isRunning = encoder.isRunning := rfl
  have drawn : (refault change encoder).hasSurface = encoder.hasSurface := rfl
  dsimp only [signalEnd]
  rw [same, drawn]
  split
  next running => split <;> rfl
  next halted => rfl

theorem unseen_releaseOutput (index : Nat) : Unseen (refault change) (·.releaseOutput index) := by
  apply unseen_whenRunning
  intro encoder
  have same : (refault change encoder).outputBuffer index = encoder.outputBuffer index := rfl
  dsimp only
  rw [same]
  split <;> rfl

theorem dequeueOutput_refault (untimely : Untimely change) {encoder : Encoder}
    (steadfast : (change encoder.faults).failEncoderAfter.any (· ≤ encoder.nextOutput) =
      encoder.faults.failEncoderAfter.any (· ≤ encoder.nextOutput)) :
    (encoder.refault change).dequeueOutput =
      (encoder.dequeueOutput.1, encoder.dequeueOutput.2.refault change) := by
  have failing : (refault change encoder).faults.failEncoderAfter.any
      (· ≤ (refault change encoder).nextOutput) =
    encoder.faults.failEncoderAfter.any (· ≤ encoder.nextOutput) := steadfast
  apply whenRunning_refault
  rw [failing]
  delta refault
  dsimp only [emitNext, emitConfiguration, emit]
  rw [untimely.formatChange]
  split
  next fails => rfl
  next works =>
    split
    next retries => rfl
    next serves =>
      split
      next configured => split <;> rfl
      next unconfigured => split <;> rfl

theorem dequeueOutput_failing {encoder : Encoder} (healthy : encoder.faults.failEncoderAfter = none)
    (after : Nat) :
    let failing := encoder.refault ({ · with failEncoderAfter := some after })
    failing.dequeueOutput = (.error (CodecError.unexpectedStatus "encoder" (-1000)), failing) ∨
      failing.dequeueOutput = (encoder.dequeueOutput.1,
        encoder.dequeueOutput.2.refault ({ · with failEncoderAfter := some after })) := by
  intro failing
  by_cases struck : encoder.isRunning = true ∧ after ≤ encoder.nextOutput
  · left
    have running : failing.isRunning = true := struck.1
    have due : failing.faults.failEncoderAfter.any (· ≤ failing.nextOutput) = true :=
      decide_eq_true struck.2
    unfold dequeueOutput whenRunning
    rw [if_pos running, if_pos due]
  · right
    cases running : encoder.isRunning with
    | false =>
      have halted : failing.isRunning = false := running
      simp only [dequeueOutput, whenRunning, halted, running, Bool.false_eq_true, if_false]
      rfl
    | true =>
      refine dequeueOutput_refault (untimely_failEncoderAfter after) ?_
      rw [healthy]
      exact decide_eq_false fun due => struck ⟨running, due⟩

theorem unseen_swap (surface : Surface) (frame : Frame) :
    UnseenLogged (refault change) fun encoder log => surface.swap encoder frame log := by
  intro encoder log
  dsimp only [Surface.swap]
  split
  next released => rfl
  next unreleased => split <;> rfl

end Encoder

namespace Catalog

def refault (change : CodecFaults → CodecFaults) (catalog : Catalog) : Catalog :=
  { catalog with faults := change catalog.faults }

theorem createEncoder_refault (untimely : Untimely change) (catalog : Catalog) (name : String) :
    (catalog.refault change).createEncoder name =
      ((catalog.createEncoder name).1.map (·.refault change),
        (catalog.createEncoder name).2.refault change) := by
  dsimp only [createEncoder, refault]
  rw [untimely.creation]
  split
  next refuses => rfl
  next serves =>
    split
    next codec found =>
      simp only [Except.map, Encoder.new, Encoder.refault, untimely.encoderInputTryAgain,
        untimely.encoderOutputTryAgain]
    next unknown => rfl

theorem createDecoder_refault (untimely : Untimely change) (catalog : Catalog) (mime : String) :
    (catalog.refault change).createDecoder mime =
      ((catalog.createDecoder mime).1.map (·.refault change),
        (catalog.createDecoder mime).2.refault change) := by
  dsimp only [createDecoder, refault]
  split
  next codec found =>
    simp only [Except.map, Decoder.new, Decoder.refault, untimely.decoderTryAgain]
  next unknown => rfl

end Catalog

namespace Bench

theorem catalog_refault (bench : Bench) :
    (bench.refault change).catalog = bench.catalog.refault change := rfl

theorem onDecoder_refault {α : Type} {act : Decoder → Log → α × Decoder × Log} {bench : Bench}
    (alike : ∀ decoder log, bench.decoder = some decoder → act (decoder.refault change) log =
      ((act decoder log).1, (act decoder log).2.1.refault change, (act decoder log).2.2))
    (absent : α) :
    (bench.refault change).onDecoder absent act =
      ((bench.onDecoder absent act).1, (bench.onDecoder absent act).2.refault change) := by
  obtain ⟨catalog, _ | decoder, encoder, surface, transform⟩ := bench
  · rfl
  · dsimp only [onDecoder, refault, Option.map_some]
    rw [alike decoder catalog.log rfl]
    rfl

theorem unseen_onDecoder {α : Type} {act : Decoder → Log → α × Decoder × Log}
    (unseen : UnseenLogged (Decoder.refault change) act) (absent : α) :
    Unseen (refault change) (·.onDecoder absent act) :=
  fun _ => onDecoder_refault (fun decoder log _ => unseen decoder log) absent

theorem onEncoder_refault {α : Type} {act : Encoder → Log → α × Encoder × Log} {bench : Bench}
    (alike : ∀ encoder log, bench.encoder = some encoder → act (encoder.refault change) log =
      ((act encoder log).1, (act encoder log).2.1.refault change, (act encoder log).2.2))
    (absent : α) :
    (bench.refault change).onEncoder absent act =
      ((bench.onEncoder absent act).1, (bench.onEncoder absent act).2.refault change) := by
  obtain ⟨catalog, decoder, _ | encoder, surface, transform⟩ := bench
  · rfl
  · dsimp only [onEncoder, refault, Option.map_some]
    rw [alike encoder catalog.log rfl]
    rfl

theorem unseen_onEncoder {α : Type} {act : Encoder → Log → α × Encoder × Log}
    (unseen : UnseenLogged (Encoder.refault change) act) (absent : α) :
    Unseen (refault change) (·.onEncoder absent act) :=
  fun _ => onEncoder_refault (fun encoder log _ => unseen encoder log) absent

theorem unseen_onCodec {α : Type} {decode : Decoder → α × Decoder} {encode : Encoder → α × Encoder}
    (decoding : Unseen (Decoder.refault change) decode)
    (encoding : Unseen (Encoder.refault change) encode) (side : Side) (absent : α) :
    Unseen (refault change) (·.onCodec side absent decode encode) := by
  cases side with
  | decoder => exact unseen_onDecoder decoding.logged absent
  | encoder => exact unseen_onEncoder encoding.logged absent

theorem unseen_createEncoder (untimely : Untimely change) (name : String) :
    Unseen (refault change) (·.createEncoder name) := by
  rintro ⟨catalog, decoder, encoder, surface, transform⟩
  dsimp only [createEncoder]
  rw [catalog_refault, Catalog.createEncoder_refault untimely]
  rcases catalog.createEncoder name with ⟨_ | _, next⟩ <;> rfl

theorem unseen_createDecoder (untimely : Untimely change) (mime : String) :
    Unseen (refault change) (·.createDecoder mime) := by
  rintro ⟨catalog, decoder, encoder, surface, transform⟩
  dsimp only [createDecoder]
  rw [catalog_refault, Catalog.createDecoder_refault untimely]
  rcases catalog.createDecoder mime with ⟨_ | _, next⟩ <;> rfl

theorem unseen_render (answer : Except Error (Option Image)) :
    Unseen (refault change) fun bench =>
      match answer with
      | .ok (some image) => (Except.ok (), bench.render image)
      | .ok none => (.ok (), bench)
      | .error error => (.error error, bench) := by
  rcases answer with _ | _ | _ <;> exact fun _ => rfl

theorem unseen_releaseOutput (side : Side) (index : Nat) (render : Bool) :
    Unseen (refault change) (·.releaseOutput side index render) := by
  cases side with
  | encoder => exact unseen_onEncoder (Encoder.unseen_releaseOutput index).logged missing
  | decoder =>
    exact (unseen_onDecoder (Decoder.unseen_releaseOutput index render).logged missing).andThen
      unseen_render

theorem unseen_keepSurface (answer : Except Error Surface) :
    Unseen (refault change) fun bench =>
      match answer with
      | .ok surface => (Except.ok (), { bench with surface := some surface })
      | .error error => (.error error, bench) := by
  cases answer <;> exact fun _ => rfl

theorem unseen_createSurface : Unseen (refault change) createSurface :=
  (unseen_onEncoder Encoder.unseen_createSurface.logged missing).andThen unseen_keepSurface

theorem unseen_stop (side : Side) : Unseen (refault change) (·.stop side) :=
  @unseen_onCodec change (Except Error Unit) (fun decoder => (.ok (), decoder.stop))
    (fun encoder => (.ok (), encoder.stop)) (fun _ => rfl) (fun _ => rfl) side missing

theorem unseen_inputBuffer (side : Side) (slot : Nat) :
    Unseen (refault change) (·.inputBuffer side slot) :=
  @unseen_onCodec change _ (fun decoder => (decoder.inputBuffer slot, decoder))
    (fun encoder => (encoder.inputBuffer slot, encoder)) (fun _ => rfl) (fun _ => rfl) side missing

theorem unseen_encodedBuffer (index : Nat) : Unseen (refault change) (·.encodedBuffer index) :=
  @unseen_onEncoder change _ (fun encoder log => (encoder.outputBuffer index, encoder, log))
    (fun _ _ => rfl) missing

theorem unseen_swap (frame : Frame) : Unseen (refault change) (·.swap frame) := by
  rintro ⟨catalog, decoder, encoder, _ | surface, transform⟩
  · rfl
  · exact unseen_onEncoder (Encoder.unseen_swap surface frame) missing _

theorem unseen_releaseSurface : Unseen (refault change) releaseSurface := by
  rintro ⟨catalog, decoder, encoder, _ | surface, transform⟩ <;> rfl

theorem unseen_createTransform (spec : TransformSpec) :
    Unseen (refault change) (·.createTransform spec) := by
  intro bench
  dsimp only [createTransform]
  split <;> rfl

theorem unseen_awaitImage : Unseen (refault change) awaitImage := by
  rintro ⟨catalog, decoder, encoder, surface, _ | transform⟩ <;> rfl

theorem unseen_drawImage : Unseen (refault change) drawImage := by
  rintro ⟨catalog, decoder, encoder, surface, _ | transform⟩ <;> rfl

theorem pollDecoder_refault {bench : Bench}
    (alike : ∀ decoder, bench.decoder = some decoder → (decoder.refault change).dequeueOutput =
      (decoder.dequeueOutput.1, decoder.dequeueOutput.2.refault change)) :
    (bench.refault change).dequeueOutput .decoder =
      ((bench.dequeueOutput .decoder).1, (bench.dequeueOutput .decoder).2.refault change) := by
  refine @onDecoder_refault change _
    (fun decoder log => (decoder.dequeueOutput.1, decoder.dequeueOutput.2, log)) bench
    (fun decoder log found => ?_) missing
  dsimp only
  rw [alike decoder found]

theorem pollDecoder_failing {bench : Bench}
    (healthy : bench.refault ({ · with failDecoderAfter := none }) = bench) (after : Nat) :
    let failing := bench.refault ({ · with failDecoderAfter := some after })
    let polled := bench.dequeueOutput .decoder
    polled.2.refault ({ · with failDecoderAfter := none }) = polled.2 ∧
      (failing.dequeueOutput .decoder =
          (.error (CodecError.unexpectedStatus "decoder" (-1000)), failing) ∨
        failing.dequeueOutput .decoder =
          (polled.1, polled.2.refault ({ · with failDecoderAfter := some after }))) := by
  intro failing polled
  have never (decoder : Decoder) (found : bench.decoder = some decoder) :
      decoder.faults.failDecoderAfter = none := by
    have same := congrArg Bench.decoder healthy
    rw [refault, found] at same
    exact (congrArg (·.faults.failDecoderAfter) (Option.some.inj same)).symm
  constructor
  · have unseen := @pollDecoder_refault ({ · with failDecoderAfter := none }) bench fun decoder found =>
      Decoder.dequeueOutput_refault (untimely_failDecoderAfter none) (by rw [never decoder found])
    rw [healthy] at unseen
    exact (congrArg Prod.snd unseen).symm
  · cases found : bench.decoder with
    | none =>
      exact .inr (pollDecoder_refault fun decoder present => nomatch found.symm.trans present)
    | some decoder =>
      rcases decoder.dequeueOutput_failing (never decoder found) after with refused | unseen
      · left
        dsimp only [dequeueOutput, onCodec, onDecoder, failing, refault]
        rw [found]
        dsimp only [Option.map_some]
        rw [refused]
        rfl
      · refine .inr (pollDecoder_refault fun decoder present => ?_)
        obtain rfl := Option.some.inj (found.symm.trans present)
        exact unseen

theorem pollEncoder_refault {bench : Bench}
    (alike : ∀ encoder, bench.encoder = some encoder → (encoder.refault change).dequeueOutput =
      (encoder.dequeueOutput.1, encoder.dequeueOutput.2.refault change)) :
    (bench.refault change).dequeueOutput .encoder =
      ((bench.dequeueOutput .encoder).1, (bench.dequeueOutput .encoder).2.refault change) := by
  refine @onEncoder_refault change _
    (fun encoder log => (encoder.dequeueOutput.1, encoder.dequeueOutput.2, log)) bench
    (fun encoder log found => ?_) missing
  dsimp only
  rw [alike encoder found]

theorem pollEncoder_failing {bench : Bench}
    (healthy : bench.refault ({ · with failEncoderAfter := none }) = bench) (after : Nat) :
    let failing := bench.refault ({ · with failEncoderAfter := some after })
    let polled := bench.dequeueOutput .encoder
    polled.2.refault ({ · with failEncoderAfter := none }) = polled.2 ∧
      (failing.dequeueOutput .encoder =
          (.error (CodecError.unexpectedStatus "encoder" (-1000)), failing) ∨
        failing.dequeueOutput .encoder =
          (polled.1, polled.2.refault ({ · with failEncoderAfter := some after }))) := by
  intro failing polled
  have never (encoder : Encoder) (found : bench.encoder = some encoder) :
      encoder.faults.failEncoderAfter = none := by
    have same := congrArg Bench.encoder healthy
    rw [refault, found] at same
    exact (congrArg (·.faults.failEncoderAfter) (Option.some.inj same)).symm
  constructor
  · have unseen := @pollEncoder_refault ({ · with failEncoderAfter := none }) bench fun encoder found =>
      Encoder.dequeueOutput_refault (untimely_failEncoderAfter none) (by rw [never encoder found])
    rw [healthy] at unseen
    exact (congrArg Prod.snd unseen).symm
  · cases found : bench.encoder with
    | none =>
      exact .inr (pollEncoder_refault fun encoder present => nomatch found.symm.trans present)
    | some encoder =>
      rcases encoder.dequeueOutput_failing (never encoder found) after with refused | unseen
      · left
        dsimp only [dequeueOutput, onCodec, onEncoder, failing, refault]
        rw [found]
        dsimp only [Option.map_some]
        rw [refused]
        rfl
      · refine .inr (pollEncoder_refault fun encoder present => ?_)
        obtain rfl := Option.some.inj (found.symm.trans present)
        exact unseen

/-- Apart from polls for output, nothing that is asked of the bench shows when its codecs fail. -/
theorem unseen_answer (untimely : Untimely change) {call : DeviceCall}
    (unpolled : ∀ side timeout, call ≠ .dequeueOutput side timeout) :
    Unseen (refault change) (answer call) := by
  cases call with
  | codecs => exact fun _ => rfl
  | createEncoder name => exact unseen_createEncoder untimely name
  | createDecoder mime => exact unseen_createDecoder untimely mime
  | configure side format =>
    cases side with
    | decoder => exact unseen_onDecoder (Decoder.unseen_configure format) missing
    | encoder => exact unseen_onEncoder (Encoder.unseen_configure format) missing
  | start side => exact unseen_onCodec Decoder.unseen_start Encoder.unseen_start side missing
  | stop side => exact unseen_stop side
  | release side =>
    cases side with
    | decoder => exact unseen_onDecoder Decoder.unseen_release ()
    | encoder => exact unseen_onEncoder Encoder.unseen_release ()
  | dequeueInput side timeout =>
    exact unseen_onCodec Decoder.unseen_dequeueInput Encoder.unseen_dequeueInput side missing
  | inputBuffer side slot => exact unseen_inputBuffer side slot
  | queueInput side slot content info =>
    cases side with
    | decoder => exact unseen_onDecoder (Decoder.unseen_queueInput slot content info) missing
    | encoder => exact unseen_onEncoder (Encoder.unseen_queueInput slot content info) missing
  | dequeueOutput side timeout => exact absurd rfl (unpolled side timeout)
  | releaseOutput side index render => exact unseen_releaseOutput side index render
  | encodedBuffer index => exact unseen_encodedBuffer index
  | signalEnd => exact unseen_onEncoder Encoder.unseen_signalEnd missing
  | createSurface => exact unseen_createSurface
  | presentAt nanoseconds => exact fun _ => rfl
  | swap frame => exact unseen_swap frame
  | releaseSurface => exact unseen_releaseSurface
  | createTransform spec => exact unseen_createTransform spec
  | awaitImage => exact unseen_awaitImage
  | drawImage => exact unseen_drawImage
  | releaseTransform => exact fun _ => rfl

end Bench

end

end Recode.Simulation

namespace Recode.Container
open Recode.Media

def Muxer.failingAfter (after : Option Nat) (muxer : Muxer) : Muxer :=
  { muxer with faults := { muxer.faults with failWriteAfter := after } }

def Library.failingAfter (after : Option Nat) (library : Library) : Library :=
  { library with
    faults := { library.faults with failWriteAfter := after }
    muxers := library.muxers.map fun (path, muxer) => (path, muxer.failingAfter after) }

end Recode.Container

namespace Recode.Simulation
open Recode.Media Recode.Container Recode.Device Recode.Picture Recode.Progress Recode.Session

section
variable {after : Option Nat}

theorem Muxer.unseen_addTrack (format : Format) (isAudio : Bool) :
    Unseen (Muxer.failingAfter after) (·.addTrack format isAudio) := by
  intro muxer
  dsimp only [Muxer.addTrack, Muxer.failingAfter]
  split <;> rfl

theorem Muxer.unseen_finalize : Unseen (Muxer.failingAfter after) Muxer.finalize := by
  intro muxer
  dsimp only [Muxer.finalize, Muxer.failingAfter]
  split
  next finalized => rfl
  next unfinalized => split <;> rfl

theorem Muxer.admit?_failing {muxer : Muxer} (healthy : muxer.faults.failWriteAfter = none)
    (after track : Nat) (buffer : Bytes) (info : SampleInfo) (isAudio : Bool) :
    (∃ error, (muxer.failingAfter (some after)).admit? track buffer info isAudio = .error error) ∨
      (muxer.failingAfter (some after)).admit? track buffer info isAudio =
        muxer.admit? track buffer info isAudio := by
  dsimp only [Muxer.admit?, Muxer.failingAfter]
  rw [healthy]
  split
  next finalized => exact .inr rfl
  next unfinalized =>
    split
    next unknown => exact .inr rfl
    next kept found =>
      split
      next other => exact .inr rfl
      next own =>
        split
        next empty => exact .inr rfl
        next filled =>
          by_cases due : after ≤ muxer.written
          · exact .inl ⟨_, if_pos due⟩
          · exact .inr (if_neg due)

theorem Muxer.write_failing {muxer : Muxer} (healthy : muxer.faults.failWriteAfter = none)
    (after track : Nat) (buffer : Bytes) (info : SampleInfo) (isAudio : Bool) :
    let failing := muxer.failingAfter (some after)
    (∃ error, failing.write track buffer info isAudio = (.error error, failing)) ∨
      failing.write track buffer info isAudio =
        ((muxer.write track buffer info isAudio).1,
          (muxer.write track buffer info isAudio).2.failingAfter (some after)) := by
  intro failing
  rcases Muxer.admit?_failing healthy after track buffer info isAudio with ⟨error, refused⟩ | unseen
  · left
    refine ⟨error, ?_⟩
    unfold Muxer.write
    rw [refused]
  · right
    unfold Muxer.write
    rw [unseen]
    split <;> rfl

theorem Muxer.failingAfter_none {muxer : Muxer} (healthy : muxer.faults.failWriteAfter = none) :
    muxer.failingAfter none = muxer := by
  obtain ⟨movie, ⟨failWriteAfter, failFinalize⟩, written⟩ := muxer
  cases healthy
  rfl

theorem Muxer.write_faults (muxer : Muxer) (track : Nat) (buffer : Bytes) (info : SampleInfo)
    (isAudio : Bool) : (muxer.write track buffer info isAudio).2.faults = muxer.faults := by
  unfold Muxer.write
  split <;> rfl

namespace Storage

def failingAfter (after : Option Nat) (storage : Storage) : Storage :=
  { storage with library := storage.library.failingAfter after }

theorem unseen_onDemuxer {α : Type} (absent : α) (act : Demuxer → α × Demuxer) :
    Unseen (failingAfter after) (·.onDemuxer absent act) := by
  rintro ⟨⟨sources, leaks, faults, _ | ⟨newest, older⟩, muxers⟩, script, reads, adds, writes⟩ <;> rfl

theorem onMuxer_failingAfter {storage : Storage} {α : Type} {act : Muxer → α × Muxer}
    (alike : ∀ path muxer older, storage.library.muxers = (path, muxer) :: older →
      act (muxer.failingAfter after) = ((act muxer).1, (act muxer).2.failingAfter after))
    (absent : α) :
    (storage.failingAfter after).onMuxer absent act =
      ((storage.onMuxer absent act).1, (storage.onMuxer absent act).2.failingAfter after) := by
  obtain ⟨⟨sources, leaks, faults, demuxers, _ | ⟨⟨path, newest⟩, older⟩⟩, script, reads, adds,
    writes⟩ := storage
  · rfl
  · simp only [onMuxer, Library.onMuxer, failingAfter, Library.failingAfter, List.map_cons,
      alike path newest older rfl]

theorem onMuxer_idle {storage : Storage} {α : Type} {answer : α} {act : Muxer → α × Muxer}
    {absent : α} {path : Path} {muxer : Muxer} {older : List (Path × Muxer)}
    (found : storage.library.muxers = (path, muxer) :: older)
    (idle : act muxer = (answer, muxer)) : storage.onMuxer absent act = (answer, storage) := by
  obtain ⟨⟨sources, leaks, faults, demuxers, muxers⟩, script, reads, adds, writes⟩ := storage
  cases found
  simp only [onMuxer, Library.onMuxer, idle]

theorem unseen_onMuxer {α : Type} {act : Muxer → α × Muxer}
    (unseen : Unseen (Muxer.failingAfter after) act) (absent : α) :
    Unseen (failingAfter after) (·.onMuxer absent act) :=
  fun _ => onMuxer_failingAfter (fun _ muxer _ _ => unseen muxer) absent

theorem unseen_barring {α : Type} {error? : Storage → Option Error}
    (same : ∀ storage, error? (failingAfter after storage) = error? storage)
    {act : Storage → Except Error α × Storage} (unseen : Unseen (failingAfter after) act) :
    Unseen (failingAfter after) fun storage => storage.barring (error? storage) (act storage) := by
  intro storage
  dsimp only [barring]
  rw [same]
  split
  next error told => rfl
  next silent => exact unseen storage

theorem unseen_openSource (path : Path) : Unseen (failingAfter after) (·.openSource path) := by
  refine unseen_barring (fun _ => rfl) fun storage => ?_
  dsimp only [Library.openSource, failingAfter, Library.failingAfter, Library.source?]
  cases (storage.library.sources.find? (·.1.same path)).map (·.2) <;> rfl

theorem unseen_view {α : Type} (absent : α) (look : Demuxer → α) :
    Unseen (failingAfter after) (·.view absent look) :=
  unseen_onDemuxer absent fun demuxer => (look demuxer, demuxer)

theorem unseen_read (room : Nat) : Unseen (failingAfter after) (·.read room) := by
  intro storage
  have viewed := @unseen_view after _ missing (·.read room)
    { storage with reads := storage.reads + 1 }
  dsimp only [read, barring]
  dsimp only [failingAfter]
  split
  next error told => rfl
  next silent =>
    split
    next ends => rfl
    next goesOn => exact viewed

theorem unseen_addTrack (format : Format) (isAudio : Bool) :
    Unseen (failingAfter after) (·.addTrack format isAudio) := by
  intro storage
  have added := @unseen_onMuxer after _ _ (Muxer.unseen_addTrack format isAudio) missing
    { storage with adds := storage.adds + 1 }
  dsimp only [addTrack, barring]
  dsimp only [failingAfter]
  split
  next error told => rfl
  next silent => exact added

theorem write_failingAfter {storage : Storage} {track : Nat} {buffer : Bytes} {info : SampleInfo}
    {isAudio : Bool}
    (alike : ∀ path muxer older, storage.library.muxers = (path, muxer) :: older →
      (muxer.failingAfter after).write track buffer info isAudio =
        ((muxer.write track buffer info isAudio).1,
          (muxer.write track buffer info isAudio).2.failingAfter after)) :
    (storage.failingAfter after).write track buffer info isAudio =
      ((storage.write track buffer info isAudio).1,
        (storage.write track buffer info isAudio).2.failingAfter after) := by
  have stored := @onMuxer_failingAfter after { storage with writes := storage.writes + 1 } _
    (·.write track buffer info isAudio) alike missing
  dsimp only [write, barring]
  dsimp only [failingAfter]
  split
  next error told => rfl
  next silent =>
    split
    next stores => rfl
    next writes => exact stored

theorem write_failing {storage : Storage} (healthy : storage.failingAfter none = storage)
    (after track : Nat) (buffer : Bytes) (info : SampleInfo) (isAudio : Bool) :
    let failing := storage.failingAfter (some after)
    let written := storage.write track buffer info isAudio
    let refused := failing.write track buffer info isAudio
    written.2.failingAfter none = written.2 ∧
      ((∃ error, refused.1 = .error error) ∧
          refused.2.library.muxers = failing.library.muxers ∨
        refused = (written.1, written.2.failingAfter (some after))) := by
  intro failing written refused
  have never (path : Path) (muxer : Muxer) (older : List (Path × Muxer))
      (found : storage.library.muxers = (path, muxer) :: older) :
      muxer.faults.failWriteAfter = none := by
    have same := congrArg (·.library.muxers) healthy
    dsimp only [failingAfter, Library.failingAfter] at same
    rw [found, List.map_cons] at same
    have head := (Prod.mk.inj (List.cons.inj same).1).2
    exact (congrArg (·.faults.failWriteAfter) head).symm
  constructor
  · have unseen := @write_failingAfter none storage track buffer info isAudio
      fun path muxer older found => by
        have wrote := Muxer.write_faults muxer track buffer info isAudio
        rw [Muxer.failingAfter_none (never path muxer older found),
          Muxer.failingAfter_none (wrote ▸ never path muxer older found)]
    rw [healthy] at unseen
    exact (congrArg Prod.snd unseen).symm
  · cases found : storage.library.muxers with
    | nil => exact .inr (write_failingAfter fun _ _ _ present => nomatch found.symm.trans present)
    | cons newest older =>
      obtain ⟨path, muxer⟩ := newest
      rcases Muxer.write_failing (never path muxer older found) after track buffer info isAudio with
        ⟨error, fails⟩ | unseen
      · have refuses := @onMuxer_idle { failing with writes := storage.writes + 1 } _ _
          (·.write track buffer info isAudio) missing _ _ _
          (congrArg (·.map fun (path, muxer) => (path, muxer.failingAfter (some after))) found) fails
        dsimp only [refused, written, write, barring, failing]
        dsimp only [failingAfter]
        split
        next error told => exact .inl ⟨⟨error, rfl⟩, rfl⟩
        next silent =>
          split
          next stores => exact .inr rfl
          next writes =>
            exact .inl ⟨⟨error, congrArg Prod.fst refuses⟩,
              congrArg (·.2.library.muxers) refuses⟩
      · refine .inr (write_failingAfter fun path muxer older present => ?_)
        obtain ⟨⟨rfl, rfl⟩, rfl⟩ := List.cons.inj (found.symm.trans present)
        exact unseen

/-- Apart from writes, nothing that is asked of the containers shows when muxers fail. -/
theorem unseen_answer {call : StorageCall}
    (unwritten : ∀ track buffer info isAudio, call ≠ .write track buffer info isAudio) :
    Unseen (failingAfter after) (answer call) := by
  cases call with
  | openSource path => exact unseen_openSource path
  | createMovie path settings => exact unseen_barring (fun _ => rfl) fun _ => rfl
  | trackCount => exact unseen_view 0 (·.trackCount)
  | trackFormat index => exact unseen_barring (fun _ => rfl) (unseen_onDemuxer _ _)
  | select index => exact unseen_barring (fun _ => rfl) (unseen_onDemuxer _ _)
  | unselect index => exact unseen_barring (fun _ => rfl) (unseen_onDemuxer _ _)
  | seek time mode => exact unseen_barring (fun _ => rfl) (unseen_onDemuxer _ _)
  | currentTrack => exact unseen_view none (·.currentTrack?)
  | currentTime => exact unseen_view none (·.currentTime?)
  | currentFlags => exact unseen_view .none (·.currentFlags)
  | read room => exact unseen_read room
  | advance => exact unseen_onDemuxer false (·.advance)
  | releaseDemuxer => exact unseen_onDemuxer () fun demuxer => ((), demuxer.release)
  | addTrack format isAudio => exact unseen_addTrack format isAudio
  | write track buffer info isAudio => exact absurd rfl (unwritten track buffer info isAudio)
  | finalize =>
    exact unseen_barring (fun _ => rfl) (unseen_onMuxer Muxer.unseen_finalize missing)

end Storage

namespace Client

def cancelling (after : Option Nat) (client : Client) : Client :=
  { client with cancelAfter := after, cancelled := after.any (· ≤ client.events.length) }

theorem unseen_deliver (event : Event) : Unseen (cancelling after) (·.deliver event) := by
  intro client
  dsimp only [deliver, cancelling]
  split
  next explodes => rfl
  next takes =>
    have cancels : (after.any (· ≤ client.events.length) ||
        after == some (client.events ++ [event]).length) =
          after.any (· ≤ (client.events ++ [event]).length) := by
      cases after with
      | none => rfl
      | some limit =>
        rw [List.length_append, List.length_singleton, Bool.eq_iff_iff]
        simp
        omega
    rw [cancels]

theorem unseen_answer {call : ClientCall} (unasked : call ≠ .isCancelled) :
    Unseen (cancelling after) (answer call) := by
  cases call with
  | deliver event => exact unseen_deliver event
  | isCancelled => exact absurd rfl unasked
  | openFile path => exact fun _ => rfl
  | removeFile path => exact fun _ => rfl

end Client

end

end Recode.Simulation
