import Recode.Proofs.Opening
import Recode.Proofs.RawFrames
import Recode.Proofs.RawSubmission
import Recode.Proofs.SessionConduct
import Recode.Proofs.WorkingRig

/-!
An encoder's slots and the stage before it, on a bench whose encoders are configured for one output
and whose transforms draw at its size. Whatever else is asked of the bench, its slots have the room
that belongs to the output, none of them is free twice, and a slot that was just lent out can be
filled and given back.
-/

namespace Recode.Session
open Recode.Media Recode.Device Recode.Picture

def DeviceCall.IsFor (plan : TranscodePlan) : DeviceCall → Prop
  | .configure .encoder format => format = encoderFormat plan.settings plan.request plan.profile
  | .createTransform spec => spec.width = plan.request.width ∧ spec.height = plan.request.height
  | _ => True

def Call.IsFor (plan : TranscodePlan) : Call → Prop
  | .device call => call.IsFor plan
  | _ => True

end Recode.Session

namespace Recode.Simulation
open Recode.Media Recode.Device Recode.Picture Recode.Session

namespace Slots

/-- No slot is unknown or free twice, and if there are slots, their buffers have the room. -/
structure Suits (slots : Slots) (room : Nat) : Prop where
  nodup : slots.free.Nodup
  known : ∀ slot ∈ slots.free, slot < slots.count
  sized : slots.count = 0 ∨ slots.capacity = room

section
variable {slots : Slots} {room slot : Nat}

theorem Suits.of_eq {other : Slots} (suits : slots.Suits room) (same : other = slots) :
    other.Suits room := same ▸ suits

theorem suits_none (room : Nat) : ({} : Slots).Suits room := ⟨.nil, nofun, .inl rfl⟩

theorem suits_new (count room : Nat) : (new count room).Suits room :=
  ⟨List.nodup_range, fun _ => List.mem_range.mp, .inr rfl⟩

theorem Suits.lend (suits : slots.Suits room) : slots.lend.2.Suits room := by
  unfold Slots.lend
  split
  next slot free found =>
    obtain ⟨nodup, known, sized⟩ := suits
    rw [found] at nodup known
    exact ⟨(List.nodup_cons.mp nodup).2,
      fun other member => known other (List.mem_cons_of_mem _ member), sized⟩
  next none => exact suits

theorem Suits.offers (suits : slots.Suits room) (lent : slots.lend.1 = some slot) :
    slots.Offers slot := by
  unfold Slots.lend at lent
  split at lent
  next first free found =>
    cases lent
    obtain ⟨nodup, known, -⟩ := suits
    rw [found] at nodup known
    exact ⟨known slot List.mem_cons_self, free, found, (List.nodup_cons.mp nodup).1⟩
  next => exact nomatch lent

theorem Suits.capacity (suits : slots.Suits room) (lent : slots.isLent slot = true) :
    slots.capacity = room := by
  have inside : slot < slots.count := by
    simp only [Slots.isLent, Bool.and_eq_true, decide_eq_true_eq] at lent
    exact lent.1
  exact suits.sized.resolve_left (Nat.ne_of_gt (Nat.zero_lt_of_lt inside))

theorem Suits.giveBack (suits : slots.Suits room) (slot : Nat) (written : Bytes) (size : Nat) :
    (slots.giveBack slot written size).2.Suits room := by
  unfold Slots.giveBack
  split
  next lent =>
    obtain ⟨nodup, known, sized⟩ := suits
    simp only [Slots.isLent, Bool.and_eq_true, decide_eq_true_eq, Bool.not_eq_true',
      List.contains_eq_mem, decide_eq_false_iff_not] at lent
    obtain ⟨⟨inside, absent⟩, -⟩ := lent
    refine ⟨List.nodup_cons.mpr ⟨absent, nodup⟩, fun other member => ?_, sized⟩
    rcases List.mem_cons.mp member with rfl | member
    · exact inside
    · exact known other member
  next refused => exact suits

end

end Slots

namespace Encoder
variable {encoder : Encoder} {room : Nat}

theorem slots_start (encoder : Encoder) : encoder.start.2.slots = encoder.slots := by
  unfold start
  split <;> rfl

theorem slots_release (encoder : Encoder) (log : Log) :
    (encoder.release log).1.slots = encoder.slots := by
  unfold release
  split <;> rfl

theorem slots_createSurface (encoder : Encoder) :
    encoder.createSurface.2.slots = encoder.slots := by
  unfold createSurface
  split
  next unconfigured => rfl
  next format configured => split <;> rfl

theorem slots_releaseOutput (encoder : Encoder) (index : Nat) :
    (encoder.releaseOutput index).2.slots = encoder.slots := by
  unfold releaseOutput whenRunning
  split
  next running => split <;> rfl
  next halted => rfl

theorem slots_signalEnd (encoder : Encoder) (log : Log) :
    (encoder.signalEnd log).2.1.slots = encoder.slots := by
  unfold signalEnd
  split
  next running => split <;> rfl
  next halted => rfl

theorem slots_emitNext (encoder : Encoder) : encoder.emitNext.2.slots = encoder.slots := by
  unfold emitNext
  split <;> rfl

theorem slots_emitConfiguration (encoder : Encoder) :
    encoder.emitConfiguration.2.slots = encoder.slots := by
  unfold emitConfiguration
  dsimp only
  split <;> rfl

theorem slots_dequeueOutput (encoder : Encoder) :
    encoder.dequeueOutput.2.slots = encoder.slots := by
  unfold dequeueOutput whenRunning
  split
  next running =>
    split
    next fails => rfl
    next works =>
      split
      next retries => rfl
      next serves =>
        dsimp only
        split
        next configured => exact encoder.slots_emitNext
        next unconfigured => exact encoder.slots_emitConfiguration
  next halted => rfl

theorem slots_swap (surface : Surface) (encoder : Encoder) (frame : Frame) (log : Log) :
    (surface.swap encoder frame log).2.1.slots = encoder.slots := by
  unfold Surface.swap
  split
  next released => rfl
  next held => split <;> rfl

theorem configure_for (encoder : Encoder) (plan : TranscodePlan) (log : Log) :
    let format := encoderFormat plan.settings plan.request plan.profile
    (encoder.configure format log).1 = .ok () ∧ (encoder.configure format log).2.1.slots.Suits
      (inputCapacity plan.request.width plan.request.height) := by
  intro format
  obtain ⟨width, height, complete⟩ :=
    encoderFormat_complete plan.settings plan.request plan.profile
  unfold configure
  rw [width, height]
  dsimp only
  rw [complete]
  exact ⟨rfl, Slots.suits_new _ _⟩

theorem suits_dequeueInput (suits : encoder.slots.Suits room) :
    encoder.dequeueInput.2.slots.Suits room := by
  unfold dequeueInput whenRunning
  split
  next running =>
    split
    next surface => exact suits
    next raw =>
      split
      next retries => exact suits
      next serves => exact suits.lend
  next halted => exact suits

theorem lent_dequeueInput (suits : encoder.slots.Suits room) {slot : Nat}
    (found : encoder.dequeueInput.1 = .ok (some slot)) :
    encoder.dequeueInput.2.isRunning = true ∧ encoder.dequeueInput.2.slots.isLent slot = true := by
  unfold dequeueInput whenRunning at found ⊢
  by_cases running : encoder.isRunning = true
  · rw [if_pos running] at found ⊢
    by_cases surface : encoder.hasSurface = true
    · rw [if_pos surface] at found
      exact nomatch found
    · rw [if_neg surface] at found ⊢
      by_cases retries : 0 < encoder.inputTryAgain
      · rw [if_pos retries] at found
        exact nomatch found
      · rw [if_neg retries] at found ⊢
        exact ⟨running, (suits.offers (Except.ok.inj found)).isLent⟩
  · rw [if_neg running] at found
    exact nomatch found

theorem suits_queueInput (suits : encoder.slots.Suits room) (slot : Nat) (written : Bytes)
    (info : SampleInfo) (log : Log) :
    (encoder.queueInput slot written info log).2.1.slots.Suits room := by
  unfold queueInput
  split
  next running =>
    have given := suits.giveBack slot written info.size
    split
    next slots same =>
      rw [same] at given
      dsimp only
      split
      next ends => exact given
      next goesOn => exact given
    next error refused => exact suits
  next halted => exact suits

theorem queueInput_lent {slot : Nat} (running : encoder.isRunning = true)
    (lent : encoder.slots.isLent slot = true) {info : SampleInfo}
    (fits : info.size ≤ encoder.slots.capacity) (written : Bytes) (log : Log) :
    (encoder.queueInput slot written info log).1 = .ok () := by
  unfold queueInput Slots.giveBack
  rw [if_pos running, if_pos ⟨lent, fits⟩]
  dsimp only
  split <;> rfl

end Encoder

theorem size_draw {image : Image} {width height : Nat} {rotation : Rotation} {frame : Frame}
    (drawn : draw image width height rotation = .ok frame) :
    frame.pixels.size = 4 * (width * height) := by
  unfold draw at drawn
  split at drawn
  next whole =>
    cases drawn
    exact size_drawnPixels image width height rotation
  next cut => exact nomatch drawn

theorem spec_await (transform : Transform) :
    transform.await.2.spec = transform.spec := by
  unfold Transform.await
  split
  next released => rfl
  next waiting => split <;> rfl

namespace Bench

structure Suits (bench : Bench) (width height : Nat) : Prop where
  slots : ∀ encoder, bench.encoder = some encoder →
    encoder.slots.Suits (Encoder.inputCapacity width height)
  output : ∀ transform, bench.transform = some transform →
    transform.spec.width = width ∧ transform.spec.height = height

def Lends (bench : Bench) (slot : Nat) : Prop :=
  ∃ encoder, bench.encoder = some encoder ∧ encoder.isRunning = true ∧
    encoder.slots.isLent slot = true

section
variable {α : Type} {bench : Bench} {width height : Nat}

theorem suits_empty (catalog : Catalog) : ({ catalog } : Bench).Suits width height := by
  constructor
  · exact fun encoder found => absurd found.symm (Option.some_ne_none encoder)
  · exact fun transform found => absurd found.symm (Option.some_ne_none transform)

theorem Suits.onDecoder (suits : bench.Suits width height) (absent : α)
    (act : Decoder → Log → α × Decoder × Log) :
    (bench.onDecoder absent act).2.Suits width height := by
  obtain ⟨catalog, _ | decoder, encoder, surface, transform⟩ := bench
  · exact suits
  · exact ⟨suits.slots, suits.output⟩

theorem Suits.onEncoder (suits : bench.Suits width height) (absent : α)
    {act : Encoder → Log → α × Encoder × Log}
    (keeps : ∀ encoder log, encoder.slots.Suits (Encoder.inputCapacity width height) →
      (act encoder log).2.1.slots.Suits (Encoder.inputCapacity width height)) :
    (bench.onEncoder absent act).2.Suits width height := by
  obtain ⟨catalog, decoder, _ | encoder, surface, transform⟩ := bench
  · exact suits
  · refine ⟨fun next same => ?_, suits.output⟩
    cases same
    exact keeps encoder _ (suits.slots encoder rfl)

theorem Suits.onCodec (suits : bench.Suits width height) (side : Side) (absent : α)
    (decode : Decoder → α × Decoder) {encode : Encoder → α × Encoder}
    (keeps : ∀ encoder, encoder.slots.Suits (Encoder.inputCapacity width height) →
      (encode encoder).2.slots.Suits (Encoder.inputCapacity width height)) :
    (bench.onCodec side absent decode encode).2.Suits width height := by
  cases side with
  | decoder => exact suits.onDecoder absent _
  | encoder => exact suits.onEncoder absent fun encoder _ => keeps encoder

theorem Suits.mapTransform (suits : bench.Suits width height) {change : Transform → Transform}
    (keeps : ∀ transform, (change transform).spec = transform.spec) :
    ({ bench with transform := bench.transform.map change } : Bench).Suits width height := by
  refine ⟨suits.slots, fun transform found => ?_⟩
  obtain ⟨before, held, rfl⟩ := Option.map_eq_some_iff.mp found
  rw [keeps]
  exact suits.output before held

theorem Suits.createEncoder (suits : bench.Suits width height) (name : String) :
    (bench.createEncoder name).2.Suits width height := by
  unfold Bench.createEncoder Catalog.createEncoder
  cases bench.catalog.faults.failEncoderCreation with
  | true => exact ⟨suits.slots, suits.output⟩
  | false =>
    cases bench.catalog.codecs.find? fun codec => codec.isEncoder && codec.name == name with
    | none => exact ⟨suits.slots, suits.output⟩
    | some codec =>
      refine ⟨fun encoder found => ?_, suits.output⟩
      cases found
      exact Slots.suits_none _

theorem Suits.createDecoder (suits : bench.Suits width height) (mime : String) :
    (bench.createDecoder mime).2.Suits width height := by
  unfold Bench.createDecoder Catalog.createDecoder
  cases bench.catalog.codecs.find? fun codec => !codec.isEncoder && codec.supports mime with
  | none => exact ⟨suits.slots, suits.output⟩
  | some codec => exact ⟨suits.slots, suits.output⟩

theorem Suits.createTransform (suits : bench.Suits width height) {spec : TransformSpec}
    (output : spec.width = width ∧ spec.height = height) :
    (bench.createTransform spec).2.Suits width height := by
  unfold Bench.createTransform Transform.create
  split
  next transform made =>
    split at made
    next empty => exact nomatch made
    next whole =>
      cases made
      refine ⟨suits.slots, fun transform found => ?_⟩
      cases found
      exact output
  next error refused => exact suits

theorem Suits.createSurface (suits : bench.Suits width height) :
    bench.createSurface.2.Suits width height := by
  have created : (bench.onEncoder (missing : Except Error Surface) fun encoder log =>
      (encoder.createSurface.1, encoder.createSurface.2, log)).2.Suits width height :=
    suits.onEncoder _ fun encoder _ held => held.of_eq encoder.slots_createSurface
  unfold Bench.createSurface
  dsimp only
  split
  next surface made => exact ⟨created.slots, created.output⟩
  next error refused => exact created

theorem Suits.releaseOutput (suits : bench.Suits width height) (side : Side) (index : Nat)
    (render : Bool) : (bench.releaseOutput side index render).2.Suits width height := by
  cases side with
  | encoder =>
    exact suits.onEncoder _ fun encoder _ held => held.of_eq (encoder.slots_releaseOutput index)
  | decoder =>
    have released := suits.onDecoder (missing : Except Error (Option Image)) fun decoder log =>
      ((decoder.releaseOutput index render).1, (decoder.releaseOutput index render).2, log)
    unfold Bench.releaseOutput
    dsimp only
    split
    next image found => exact released.mapTransform fun _ => rfl
    next found => exact released
    next error refused => exact released

theorem Suits.awaitImage (suits : bench.Suits width height) :
    bench.awaitImage.2.Suits width height := by
  unfold Bench.awaitImage
  split
  next transform held =>
    refine ⟨suits.slots, fun next found => ?_⟩
    obtain rfl := Option.some.inj found
    rw [spec_await transform]
    exact suits.output transform held
  next missing => exact suits

end

/-- Whatever is asked, as long as encoders and transforms are for the plan's output. -/
theorem Suits.answer {bench : Bench} {plan : TranscodePlan}
    (suits : bench.Suits plan.request.width plan.request.height) {call : DeviceCall}
    (isFor : call.IsFor plan) :
    (answer call bench).2.Suits plan.request.width plan.request.height := by
  cases call with
  | codecs => exact suits
  | createEncoder name => exact suits.createEncoder name
  | createDecoder mime => exact suits.createDecoder mime
  | configure side format =>
    cases side with
    | decoder => exact suits.onDecoder _ _
    | encoder =>
      cases isFor
      exact suits.onEncoder _ fun encoder log _ => (encoder.configure_for plan log).2
  | start side => exact suits.onCodec side _ _ fun encoder held => held.of_eq encoder.slots_start
  | stop side => exact suits.onCodec side _ _ fun _ => id
  | release side =>
    cases side with
    | decoder => exact suits.onDecoder _ _
    | encoder =>
      exact suits.onEncoder _ fun encoder log held => held.of_eq (encoder.slots_release log)
  | dequeueInput side timeout => exact suits.onCodec side _ _ fun _ => Encoder.suits_dequeueInput
  | inputBuffer side slot => exact suits.onCodec side _ _ fun _ => id
  | queueInput side slot content info =>
    cases side with
    | decoder => exact suits.onDecoder _ _
    | encoder =>
      exact suits.onEncoder _ fun _ log held => Encoder.suits_queueInput held slot content info log
  | dequeueOutput side timeout =>
    exact suits.onCodec side _ _ fun encoder held => held.of_eq encoder.slots_dequeueOutput
  | releaseOutput side index render => exact suits.releaseOutput side index render
  | encodedBuffer index => exact suits.onEncoder _ fun _ _ => id
  | signalEnd =>
    exact suits.onEncoder _ fun encoder log held => held.of_eq (encoder.slots_signalEnd log)
  | createSurface => exact suits.createSurface
  | presentAt nanoseconds => exact ⟨suits.slots, suits.output⟩
  | swap frame =>
    unfold Bench.answer Bench.swap
    dsimp only
    split
    next surface held =>
      exact suits.onEncoder _ fun encoder log held => held.of_eq (Encoder.slots_swap ..)
    next missing => exact suits
  | releaseSurface =>
    unfold Bench.answer Bench.releaseSurface
    dsimp only
    split
    next surface held => exact ⟨suits.slots, suits.output⟩
    next missing => exact suits
  | createTransform spec => exact suits.createTransform isFor
  | awaitImage => exact suits.awaitImage
  | drawImage =>
    unfold Bench.answer Bench.drawImage
    dsimp only
    split <;> exact suits
  | releaseTransform => exact suits.mapTransform fun _ => rfl

section
variable {bench : Bench} {width height slot : Nat}

theorem Suits.lends_dequeueInput (suits : bench.Suits width height)
    (found : (bench.dequeueInput .encoder).1 = .ok (some slot)) :
    (bench.dequeueInput .encoder).2.Lends slot := by
  cases present : bench.encoder with
  | none =>
    unfold dequeueInput Bench.onCodec Bench.onEncoder at found
    rw [present] at found
    exact nomatch found
  | some encoder =>
    have asked := onCodec_encoder present missing (·.dequeueInput) (·.dequeueInput)
    unfold dequeueInput at found ⊢
    rw [asked] at found ⊢
    exact ⟨_, rfl, encoder.lent_dequeueInput (suits.slots encoder present) found⟩

theorem Lends.inputBuffer (lends : bench.Lends slot) (other : Nat) :
    (bench.inputBuffer .encoder other).2.Lends slot := by
  obtain ⟨encoder, present, isLent⟩ := lends
  unfold Bench.inputBuffer
  rw [onCodec_encoder present]
  exact ⟨encoder, rfl, isLent⟩

theorem drawImage_unchanged (bench : Bench) : bench.drawImage.2 = bench := by
  unfold drawImage
  split <;> rfl

theorem Suits.size_drawn (suits : bench.Suits width height) {frame : Frame}
    (drawn : bench.drawImage.1 = .ok frame) : frame.pixels.size = 4 * (width * height) := by
  unfold drawImage at drawn
  split at drawn
  next transform held =>
    obtain ⟨rfl, rfl⟩ := suits.output transform held
    unfold Transform.drawLatched at drawn
    split at drawn
    next image latched => exact size_draw drawn
    next none_latched => exact nomatch drawn
  next missing => exact nomatch drawn

theorem Suits.inputBuffer_ok (suits : bench.Suits width height) (lends : bench.Lends slot) :
    ∃ buffer, (bench.inputBuffer .encoder slot).1 = .ok buffer ∧
      buffer.size = Encoder.inputCapacity width height := by
  obtain ⟨encoder, present, running, isLent⟩ := lends
  have room := (suits.slots encoder present).capacity isLent
  have asked := onCodec_encoder present missing (fun decoder => (decoder.inputBuffer slot, decoder))
    fun encoder => (encoder.inputBuffer slot, encoder)
  unfold inputBuffer
  rw [asked]
  unfold Encoder.inputBuffer Slots.buffer
  rw [if_pos running, if_pos isLent]
  exact ⟨_, rfl, (encoder.slots.size_content slot).trans room⟩

theorem Suits.queueInput_ok (suits : bench.Suits width height) (lends : bench.Lends slot)
    {info : SampleInfo} (fits : info.size ≤ Encoder.inputCapacity width height)
    (content : Bytes) : (bench.queueInput .encoder slot content info).1 = .ok () := by
  obtain ⟨encoder, present, running, isLent⟩ := lends
  have room := (suits.slots encoder present).capacity isLent
  unfold queueInput
  dsimp only
  rw [onEncoder_some present]
  exact encoder.queueInput_lent running isLent (room ▸ fits) content _

end

end Bench

end Recode.Simulation
