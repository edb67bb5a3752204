import Recode.Proofs.InPlaceConversion
import Recode.Proofs.SuitedSlots

/-!
What is resolved for raw buffers can be carried out. The encoder lends out buffers with room for
the frames of its profile, every frame that is drawn at the output's size can be converted into
them, and the encoder takes them back with the size that the profile states. So in no session does
a frame come to grief between being drawn and being queued.
-/

namespace Recode.Session
open Recode.Media Recode.Container Recode.Device Recode.Picture Recode.Progress
open Recode.Session.Work

namespace Call

theorem IsStepping.isFor {call : Call} (stepping : call.IsStepping) (plan : TranscodePlan) :
    call.IsFor plan := by
  unfold IsFor
  split
  next call =>
    unfold DeviceCall.IsFor
    split
    all_goals first
      | exact stepping.elim False.elim False.elim
      | trivial
  next => trivial

theorem IsClosing.isFor {call : Call} (closing : call.IsClosing) (plan : TranscodePlan) :
    call.IsFor plan := by
  unfold IsClosing at closing
  split at closing <;> first | exact closing.elim | trivial

end Call

theorem Work.Tidies.closing {σ α : Type} {calls : Call → Prop} {work : Work σ α}
    (tidies : work.Tidies calls) : work.Tidies Call.IsClosing := by
  induction tidies with
  | pure value => exact .pure value
  | call allowed closing => exact .call closing closing
  | bind _ _ begins goesOn => exact .bind begins goesOn

namespace TranscodePlan
variable {σ : Type} {plan : TranscodePlan}

theorem openCodecs_for {input : Format} :
    (plan.openCodecs input : Work σ Unit).Uses (Call.IsFor plan) := by
  have closed (call : Call) (closing : call.IsClosing) : call.IsFor plan := closing.isFor plan
  have surface : (if plan.surfaceInput then device .createSurface >>= settle else pure () :
      Work σ Unit).Uses (Call.IsFor plan) :=
    .ite (fun surface => .bind (.call trivial trivial) fun _ => .settle) fun raw => .pure ()
  simp only [openCodecs, ite_settle]
  refine .granted (.call trivial trivial) fun _ =>
    .undoing (shutDown_tidies.closing.weaken closed) ?_
  refine .granted (.call rfl trivial) fun _ => .bind surface fun _ => ?_
  refine .undoing (releaseSurface_tidies.closing.weaken closed) ?_
  refine .granted (.call trivial trivial) fun _ => .granted (.call ⟨rfl, rfl⟩ trivial) fun _ => ?_
  refine .undoing (.call trivial trivial) (.granted (.call trivial trivial) fun _ => ?_)
  refine .undoing (shutDown_tidies.closing.weaken closed)
    (.granted (.call trivial trivial) fun _ => ?_)
  exact .bind (.call trivial trivial) fun _ => .settle

theorem runSelected_for (plan : TranscodePlan) :
    (plan.runSelected : Work σ TranscodeOutcome).Uses (Call.IsFor plan) := by
  have closed (call : Call) (closing : call.IsClosing) : call.IsFor plan := closing.isFor plan
  have steps (call : Call) (stepping : call.IsStepping) : call.IsFor plan := stepping.isFor plan
  refine .granted (.call trivial trivial) fun _ => .granted (.call trivial trivial) fun input => ?_
  refine .bind openCodecs_for fun _ => .ensuring (closeCodecs_tidies.closing.weaken closed) ?_
  exact .bind .patience fun limit => .bind ((drive_uses limit _).weaken steps) fun _ =>
    finish_uses.weaken steps

end TranscodePlan

theorem transcode_for (plan : TranscodePlan) {σ : Type} :
    (transcode plan : Work σ TranscodeOutcome).Uses (Call.IsFor plan) :=
  .granted (.call trivial trivial) fun _ => .attempted plan.runSelected_for trivial trivial

end Recode.Session

namespace Recode.Session.TranscodePlan
open Recode.Media Recode.Device Recode.Picture Recode.Simulation

structure Fits (plan : TranscodePlan) : Prop where
  converts : ∃ layout, ChromaLayout.of? plan.profile.colorFormat = some layout ∧
    convertedSize layout plan.request.width plan.request.height plan.profile.bufferPadding ≤
      Encoder.inputCapacity plan.request.width plan.request.height
  queues : plan.profile.bufferSize ≤ Encoder.inputCapacity plan.request.width plan.request.height

theorem fits_of_resolved {plan : TranscodePlan} {codecs : List CodecInfo} {platform : Platform}
    {mime : String}
    (resolved : resolve codecs platform mime plan.request.width plan.request.height =
      .ok plan.encoder) (raw : plan.profile.usesSurfaceInput = false) : plan.Fits := by
  obtain ⟨family, format, preferred, profile⟩ := resolve_raw resolved raw
  have same : plan.profile = .raw family format plan.request.width plan.request.height platform :=
    profile
  have coloured : format = plan.profile.colorFormat := (congrArg (·.colorFormat) same).symm
  obtain ⟨⟨layout, found, narrow⟩, queues⟩ :=
    Profile.raw_fits preferred plan.request.width plan.request.height platform
  rw [← same] at narrow queues
  exact ⟨⟨layout, coloured ▸ found, narrow⟩, queues⟩

/-- A frame that was drawn can be converted into a buffer that was lent out, byte for byte. -/
theorem Fits.converted_ok {plan : TranscodePlan} (fits : plan.Fits) {frame : Frame} {buffer : Bytes}
    (drawn : frame.pixels.size = 4 * (plan.request.width * plan.request.height))
    (room : buffer.size = Encoder.inputCapacity plan.request.width plan.request.height) :
    ∃ written content, plan.converted frame buffer = .ok (written, content) ∧
      convertInPlace frame.pixels buffer plan.profile.colorFormat plan.request.width
        plan.request.height plan.profile.bufferPadding plan.profile.swapChroma =
          some (.ok written, content) := by
  obtain ⟨layout, found, narrow⟩ := fits.converts
  obtain ⟨⟨written, content⟩, converted⟩ :=
    convert_ok plan.profile.swapChroma drawn found (room ▸ narrow)
  refine ⟨written, content, converted, ?_⟩
  rw [convertInPlace_eq, converted]

end Recode.Session.TranscodePlan

namespace Recode.Simulation
open Recode.Media Recode.Container Recode.Device Recode.Picture Recode.Progress Recode.Session
open Recode.Session.Work

def Bench.after (bench : Bench) (calls : List DeviceCall) : Bench :=
  calls.foldl (fun bench call => (answer call bench).2) bench

theorem Bench.Suits.after {plan : TranscodePlan} {bench : Bench} {calls : List DeviceCall}
    (suits : bench.Suits plan.request.width plan.request.height)
    (isFor : ∀ call ∈ calls, call.IsFor plan) :
    (bench.after calls).Suits plan.request.width plan.request.height := by
  induction calls generalizing bench with
  | nil => exact suits
  | cons call rest ih =>
    exact ih (suits.answer (isFor call List.mem_cons_self))
      fun later member => isFor later (List.mem_cons_of_mem call member)

/-- Every frame of the output's size can be converted into the slot's buffer, byte for byte, and the
slot can be queued with the size that the profile states. -/
def Bench.Accepts (bench : Bench) (plan : TranscodePlan) (slot : Nat) : Prop :=
  ∃ buffer, (bench.inputBuffer .encoder slot).1 = .ok buffer ∧
    (∀ frame : Frame,
      frame.pixels.size = 4 * (plan.request.width * plan.request.height) →
        ∃ written content, plan.converted frame buffer = .ok (written, content) ∧
          convertInPlace frame.pixels buffer plan.profile.colorFormat plan.request.width
            plan.request.height plan.profile.bufferPadding plan.profile.swapChroma =
              some (.ok written, content)) ∧
    ∀ content offset time flags, (bench.queueInput .encoder slot content
      ⟨plan.profile.bufferSize, offset, time, flags⟩).1 = .ok ()

theorem Bench.Suits.accepts {plan : TranscodePlan} {bench : Bench} {slot : Nat}
    (suits : bench.Suits plan.request.width plan.request.height) (lends : bench.Lends slot)
    (fits : plan.Fits) : bench.Accepts plan slot := by
  obtain ⟨buffer, given, room⟩ := suits.inputBuffer_ok lends
  refine ⟨buffer, given, fun frame drawn => ?_, fun content offset time flags => ?_⟩
  · exact fits.converted_ok drawn room
  · exact suits.queueInput_ok lends fits.queues content

/-- On a bench for the plan's output every encoder can be configured and a transform be made, frames
have the output's size, and a slot that was lent out has its buffer and is taken back. -/
structure Served (plan : TranscodePlan) (latest : Exchange) (earlier : History) : Prop where
  configures : ∀ format reply, latest = ⟨.device (.configure .encoder format), reply⟩ →
    reply = .ok () ∨ reply = Bench.missing
  makes : ∀ spec reply, latest = ⟨.device (.createTransform spec), reply⟩ →
    1 ≤ plan.request.width → 1 ≤ plan.request.height → reply = .ok ()
  draws : ∀ frame, latest = ⟨.device .drawImage, .ok frame⟩ →
    frame.pixels.size = 4 * (plan.request.width * plan.request.height)
  gives : ∀ slot reply, latest = ⟨.device (.inputBuffer .encoder slot), reply⟩ →
    earlier.lentSlot? = some slot → ∃ buffer, reply = .ok buffer ∧
      buffer.size = Encoder.inputCapacity plan.request.width plan.request.height
  takes : ∀ slot content info reply,
    latest = ⟨.device (.queueInput .encoder slot content info), reply⟩ →
      earlier.lentSlot? = some slot →
        info.size ≤ Encoder.inputCapacity plan.request.width plan.request.height → reply = .ok ()

/-- The bench is for the plan's output, as are its answers so far, and the slot that was just lent
out is still lent out. -/
structure Stocked (plan : TranscodePlan) (history : History) (bench : Bench) : Prop where
  suits : bench.Suits plan.request.width plan.request.height
  lends : ∀ slot, history.lentSlot? = some slot → bench.Lends slot
  served : history.Always (Served plan)

section
variable {plan : TranscodePlan} {history : History} {bench : Bench}

theorem Bench.createTransform_ok (bench : Bench) {spec : TransformSpec} (wide : 1 ≤ spec.width)
    (high : 1 ≤ spec.height) : (bench.createTransform spec).1 = .ok () := by
  unfold Bench.createTransform Transform.create
  rw [if_neg (by omega)]

theorem Bench.configure_ok_or_missing (bench : Bench) (plan : TranscodePlan) :
    let format := encoderFormat plan.settings plan.request plan.profile
    (bench.configure .encoder format).1 = .ok () ∨
      (bench.configure .encoder format).1 = Bench.missing := by
  intro format
  unfold Bench.configure
  dsimp only
  cases present : bench.encoder with
  | none =>
    right
    unfold Bench.onEncoder
    rw [present]
  | some encoder =>
    left
    rw [Bench.onEncoder_some present]
    exact (encoder.configure_for plan bench.catalog.log).1

theorem Stocked.serves (stocked : Stocked plan history bench) {call : DeviceCall}
    {reply : call.Reply} (isFor : call.IsFor plan)
    (answered : (Bench.answer call bench).1 = reply) :
    Served plan ⟨.device call, reply⟩ history := by
  constructor
  · rintro format _ ⟨⟩
    cases isFor
    rw [← answered]
    exact bench.configure_ok_or_missing plan
  · rintro spec _ ⟨⟩ wide high
    rw [← answered]
    exact bench.createTransform_ok (isFor.1 ▸ wide) (isFor.2 ▸ high)
  · rintro frame ⟨⟩
    exact stocked.suits.size_drawn answered
  · rintro slot _ ⟨⟩ lent
    rw [← answered]
    exact stocked.suits.inputBuffer_ok (stocked.lends slot lent)
  · rintro slot content info _ ⟨⟩ lent fits
    rw [← answered]
    exact stocked.suits.queueInput_ok (stocked.lends slot lent) fits content

theorem Stocked.lends_after (stocked : Stocked plan history bench) {call : DeviceCall}
    {reply : call.Reply} (answered : (Bench.answer call bench).1 = reply) {slot : Nat}
    (lent : History.lentSlot? (⟨.device call, reply⟩ :: history) = some slot) :
    (Bench.answer call bench).2.Lends slot := by
  unfold History.lentSlot? at lent
  split at lent
  next timeout found _ same =>
    cases same
    cases lent
    exact stocked.suits.lends_dequeueInput answered
  next _ earlier same =>
    cases same
    exact bench.drawImage_unchanged.symm ▸ stocked.lends slot lent
  next other _ earlier same =>
    cases same
    exact (stocked.lends slot lent).inputBuffer other
  next => exact nomatch lent

theorem Stocked.answer (stocked : Stocked plan history bench) {call : DeviceCall}
    (isFor : call.IsFor plan) : Stocked plan
      (⟨.device call, (Bench.answer call bench).1⟩ :: history) (Bench.answer call bench).2 where
  suits := stocked.suits.answer isFor
  lends _ lent := stocked.lends_after rfl lent
  served := ⟨stocked.serves isFor rfl, stocked.served⟩

theorem Stocked.aside (stocked : Stocked plan history bench) {call : Call} (reply : call.Reply)
    (elsewhere : ∀ other, call ≠ .device other) :
    Stocked plan (⟨call, reply⟩ :: history) bench where
  suits := stocked.suits
  lends slot lent := by
    unfold History.lentSlot? at lent
    split at lent
    next same => exact absurd (congrArg Sigma.fst (List.cons.inj same).1) (elsewhere _)
    next same => exact absurd (congrArg Sigma.fst (List.cons.inj same).1) (elsewhere _)
    next same => exact absurd (congrArg Sigma.fst (List.cons.inj same).1) (elsewhere _)
    next => exact nomatch lent
  served := by
    refine ⟨⟨?_, ?_, ?_, ?_, ?_⟩, stocked.served⟩
    · exact fun _ _ same => absurd (congrArg Sigma.fst same) (elsewhere _)
    · exact fun _ _ same => absurd (congrArg Sigma.fst same) (elsewhere _)
    · exact fun _ same => absurd (congrArg Sigma.fst same) (elsewhere _)
    · exact fun _ _ same => absurd (congrArg Sigma.fst same) (elsewhere _)
    · exact fun _ _ _ _ same => absurd (congrArg Sigma.fst same) (elsewhere _)

theorem Stocked.step {state : History × Rig Bench} {patience : Nat}
    (stocked : Stocked plan state.1 state.2.device) {call : Call} (isFor : call.IsFor plan) :
    Stocked plan ((Rig.world Bench.answer patience).recorded.answer call state).2.1
      ((Rig.world Bench.answer patience).recorded.answer call state).2.2.device := by
  cases call with
  | storage call => exact stocked.aside _ fun _ => Call.noConfusion
  | device call => exact stocked.answer isFor
  | client call => exact stocked.aside _ fun _ => Call.noConfusion

/-- A session in which codecs and transform are set up for its output is served throughout. -/
theorem transcode_served (plan : TranscodePlan) (patience : Nat) (storage : Storage)
    (catalog : Catalog) (client : Client) (reporter : Option Reporter) :
    ((transcode plan).records (Rig.world Bench.answer patience)
      { reporter, outside := ⟨storage, { catalog }, client⟩ }).2.Always (Served plan) := by
  let kept (state : History × Rig Bench) := Stocked plan state.1 state.2.device
  have keeps := @Uses.keeps_outside _ _ _ _ (Rig.world Bench.answer patience).recorded kept
    (transcode_for plan) fun _ _ isFor stocked => Stocked.step stocked isFor
  have begins : kept ([], ⟨storage, { catalog }, client⟩) :=
    ⟨Bench.suits_empty catalog, nofun, trivial⟩
  exact (keeps { reporter, outside := ([], ⟨storage, { catalog }, client⟩) } begins).served

theorem submitted {later earlier : History} {slot : Nat} {reply : Except Error Bytes}
    (inOrder : plan.InOrder history) (served : history.Always (Served plan)) (fits : plan.Fits)
    (split : history = later ++ ⟨.device (.inputBuffer .encoder slot), reply⟩ :: earlier) :
    ∃ buffer frame written content time rest, reply = .ok buffer ∧
      earlier.head? = some ⟨.device .drawImage, .ok frame⟩ ∧
      plan.converted frame buffer = .ok (written, content) ∧
      later = rest ++ [⟨.device (.queueInput .encoder slot content
        ⟨plan.profile.bufferSize, 0, time, .none⟩), .ok ()⟩] := by
  subst split
  have ordered := inOrder.always.behind later
  have answered := served.behind later
  obtain ⟨lent, frame, drawn⟩ := ordered.1.asks slot rfl
  obtain ⟨buffer, rfl, room⟩ := answered.1.gives slot reply rfl lent
  obtain ⟨older, rfl⟩ := List.head?_eq_some_iff.mp drawn
  obtain ⟨written, content, converted, -⟩ :=
    fits.converted_ok (answered.2.1.draws frame rfl) room
  have filled := plan.filled?_cons slot buffer frame older
  rw [converted] at filled
  refine ⟨buffer, frame, written, content, ?_⟩
  rcases List.eq_nil_or_concat later with rfl | ⟨rest, ⟨call, reply⟩, rfl⟩
  · exact nomatch inOrder.unfilled.symm.trans filled
  · rw [List.concat_append] at inOrder served
    obtain ⟨time, same⟩ := (inOrder.always.behind rest).1.goesOn slot content filled
    cases same
    have taken := (served.behind rest).1.takes slot content _ reply rfl lent fits.queues
    subst taken
    exact ⟨time, rest, rfl, rfl, converted, List.concat_eq_append⟩

theorem queued_taken {slot : Nat} {content : Bytes} {info : SampleInfo} {reply : Except Error Unit}
    (inOrder : plan.InOrder history) (served : history.Always (Served plan)) (fits : plan.Fits)
    (queued : ⟨.device (.queueInput .encoder slot content info), reply⟩ ∈ history) :
    reply = .ok () := by
  obtain ⟨earlier, ordered, answered⟩ := (inOrder.always.and served).of_mem queued
  obtain ⟨lent, size⟩ := ordered.queues slot content info rfl
  apply answered.takes slot content info reply rfl lent
  rcases size with empty | stated
  · exact empty ▸ Nat.zero_le _
  · exact stated ▸ fits.queues

end

/-- Every raw profile that is resolved can be executed. Encoders can be configured for it. Whatever
was done before on a bench whose encoders and transforms are for the plan's output, a slot that is
lent out accepts every frame that is drawn. And in no session is a configuration, a transform, a
slot's buffer, a conversion or a filled slot refused. -/
theorem raw_profile_executes {encoders : List CodecInfo} {faults : CodecFaults}
    {platform : Platform} {mime : String} {plan : TranscodePlan}
    (wide : 1 ≤ plan.request.width) (high : 1 ≤ plan.request.height)
    (resolved : resolve (Catalog.new encoders faults).codecs platform mime plan.request.width
      plan.request.height = .ok plan.encoder)
    (raw : plan.profile.usesSurfaceInput = false) :
    let bench : Bench := { catalog := .new encoders faults }
    (∀ (encoder : Encoder) (log : Log), (encoder.configure
      (encoderFormat plan.settings plan.request plan.profile) log).1 = .ok ()) ∧
    (∀ image rotation frame,
      draw image plan.request.width plan.request.height rotation = .ok frame →
        frame.pixels.size = 4 * (plan.request.width * plan.request.height)) ∧
    (∀ (calls : List DeviceCall) (slot : Nat), (∀ call ∈ calls, call.IsFor plan) →
      ((bench.after calls).dequeueInput .encoder).1 = .ok (some slot) →
        ((bench.after calls).dequeueInput .encoder).2.Accepts plan slot) ∧
    ∀ (storage : Storage) (client : Client) (patience : Nat) (reporter : Option Reporter),
      let history := ((transcode plan).records (Rig.world Bench.answer patience)
        { reporter, outside := ⟨storage, bench, client⟩ }).2
      (∀ format reply, ⟨.device (.configure .encoder format), reply⟩ ∈ history →
        reply = .ok () ∨ reply = Bench.missing) ∧
      (∀ spec reply, ⟨.device (.createTransform spec), reply⟩ ∈ history → reply = .ok ()) ∧
      (∀ slot content info reply,
        ⟨.device (.queueInput .encoder slot content info), reply⟩ ∈ history → reply = .ok ()) ∧
      ∀ later earlier slot reply,
        history = later ++ ⟨.device (.inputBuffer .encoder slot), reply⟩ :: earlier →
          ∃ buffer frame written content time rest, reply = .ok buffer ∧
            earlier.head? = some ⟨.device .drawImage, .ok frame⟩ ∧
            plan.converted frame buffer = .ok (written, content) ∧
            later = rest ++ [⟨.device (.queueInput .encoder slot content
              ⟨plan.profile.bufferSize, 0, time, .none⟩), .ok ()⟩] := by
  have fits := plan.fits_of_resolved resolved raw
  have unused := @Bench.suits_empty plan.request.width plan.request.height (.new encoders faults)
  intro bench
  refine ⟨fun encoder log => (encoder.configure_for plan log).1, ?_, ?_, ?_⟩
  · intro image rotation frame drawn
    exact size_draw drawn
  · intro calls slot isFor found
    have suits := unused.after isFor
    have polled := @Bench.Suits.answer _ plan suits (.dequeueInput .encoder 0) trivial
    exact polled.accepts (suits.lends_dequeueInput found) fits
  · intro storage client patience reporter history
    have served : history.Always (Served plan) :=
      transcode_served plan patience storage _ client reporter
    have inOrder := plan.records_inOrder (Rig.world Bench.answer patience)
      { reporter, outside := ⟨storage, bench, client⟩ }
    refine ⟨?_, ?_, ?_, ?_⟩
    · intro format reply asked
      obtain ⟨earlier, answered⟩ := served.of_mem asked
      exact answered.configures format reply rfl
    · intro spec reply asked
      obtain ⟨earlier, answered⟩ := served.of_mem asked
      exact answered.makes spec reply rfl wide high
    · intro slot content info reply queued
      exact queued_taken inOrder served fits queued
    · intro later earlier slot reply split
      exact submitted inOrder served fits split

/-- An encoder that was created, configured and started for semi-planar frames lends out its first
slot, which then accepts every frame. -/
theorem raw_profile_executes_semiPlanar :
    let codec := CodecInfo.encoder "OMX.qcom.video.encoder.avc" videoAvc [.yuv420SemiPlanar]
    let plan : TranscodePlan := ⟨⟨0, false, .video videoAvc 4 4⟩,
      ⟨codec, ⟨.yuv420SemiPlanar, 2032, false, .qcom, 4, 2056⟩⟩, {}, {}⟩
    let bench := ({ catalog := .new [codec] {} } : Bench).after
      [.createEncoder codec.name, .configure .encoder
        (encoderFormat plan.settings plan.request plan.profile), .start .encoder]
    resolve (Catalog.new [codec] {}).codecs { osVersion := 17 } videoAvc 4 4 = .ok plan.encoder ∧
      (bench.dequeueInput .encoder).1 = .ok (some 0) ∧
      (bench.dequeueInput .encoder).2.Accepts plan 0 := by
  intro codec plan bench
  have resolved : resolve (Catalog.new [codec] {}).codecs { osVersion := 17 } videoAvc 4 4 =
      .ok plan.encoder := by cbv
  have found : (bench.dequeueInput .encoder).1 = .ok (some 0) := by rfl
  have isFor : ∀ call ∈ [DeviceCall.createEncoder codec.name, .configure .encoder
      (encoderFormat plan.settings plan.request plan.profile), .start .encoder],
      call.IsFor plan := by
    simp [DeviceCall.IsFor]
  have sized : 1 ≤ 4 := by decide
  obtain ⟨-, -, accepts, -⟩ := @raw_profile_executes [codec] {} _ _ plan sized sized resolved rfl
  exact ⟨resolved, found, accepts _ 0 isFor found⟩

end Recode.Simulation
