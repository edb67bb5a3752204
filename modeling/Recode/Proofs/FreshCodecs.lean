import Recode.Proofs.Opening
import Recode.Proofs.WorkingRig

/-!
Codecs as a session sets them up, on any bench. Setting them up may fail at many places; if it does
not, both codecs run and have been given nothing yet.
-/

namespace Recode.Simulation
open Recode.Media Recode.Container Recode.Device Recode.Picture Recode.Progress Recode.Session
open Recode.Session.Work

structure Bench.Has (bench : Bench) (faults : CodecFaults) (decoder : Option Decoder)
    (encoder : Option Encoder) : Prop where
  faults : bench.catalog.faults = faults
  decoder : bench.decoder = decoder
  encoder : bench.encoder = encoder

namespace Bench.Has
variable {bench : Bench} {faults : CodecFaults} {decoder : Option Decoder}
  {encoder : Option Encoder} {name : String}

theorem createEncoder (has : bench.Has faults decoder encoder)
    (granted : (bench.createEncoder name).1 = .ok ()) :
    ∃ found, (bench.createEncoder name).2.Has faults decoder (some (.new found faults)) := by
  obtain ⟨rfl, rfl, rfl⟩ := has
  revert granted
  unfold Bench.createEncoder Catalog.createEncoder
  cases bench.catalog.faults.failEncoderCreation with
  | true => exact fun refused => nomatch refused
  | false =>
    cases bench.catalog.codecs.find? fun codec => codec.isEncoder && codec.name == name with
    | none => exact fun refused => nomatch refused
    | some codec => exact fun _ => ⟨codec.name, rfl, rfl, rfl⟩

theorem createDecoder (has : bench.Has faults decoder encoder) {mime : String}
    (granted : (bench.createDecoder mime).1 = .ok ()) :
    ∃ found, (bench.createDecoder mime).2.Has faults (some (.new found faults)) encoder := by
  obtain ⟨rfl, rfl, rfl⟩ := has
  revert granted
  unfold Bench.createDecoder Catalog.createDecoder
  cases bench.catalog.codecs.find? fun codec => !codec.isEncoder && codec.supports mime with
  | none => exact fun refused => nomatch refused
  | some codec => exact fun _ => ⟨codec.name, rfl, rfl, rfl⟩

theorem configure_encoder (has : bench.Has faults decoder (some (.new name faults)))
    (settings : Settings) (request : TranscodeRequest) (profile : Profile) :
    (bench.configure .encoder (encoderFormat settings request profile)).2.Has faults decoder
      (some (.prepared name faults (encoderFormat settings request profile) request.width
        request.height false)) := by
  have configured := Bench.onEncoder_some has.encoder missing
    (·.configure (encoderFormat settings request profile))
  rw [Encoder.configure_ok] at configured
  unfold Bench.configure
  rw [configured]
  exact ⟨has.faults, has.decoder, rfl⟩

theorem createSurface {format : Format} {width height : Nat}
    (has : bench.Has faults decoder (some (.prepared name faults format width height false)))
    (width_eq : format.width = some width) (height_eq : format.height = some height) :
    bench.createSurface.2.Has faults decoder
      (some (.prepared name faults format width height true)) := by
  have created := Bench.onEncoder_some has.encoder missing fun encoder log =>
    (encoder.createSurface.1, encoder.createSurface.2, log)
  rw [Encoder.createSurface_ok name faults width_eq height_eq] at created
  unfold Bench.createSurface
  dsimp only at created ⊢
  rw [created]
  exact ⟨has.faults, has.decoder, rfl⟩

theorem start_encoder {format : Format} {width height : Nat} {hasSurface : Bool}
    (has : bench.Has faults decoder
      (some (.prepared name faults format width height hasSurface))) :
    (bench.start .encoder).2.Has faults decoder
      (some (.opened name faults format width height hasSurface)) := by
  have started := Bench.onCodec_encoder has.encoder missing (·.start) (·.start)
  unfold Bench.start
  rw [started]
  exact ⟨has.faults, has.decoder, rfl⟩

theorem createTransform (has : bench.Has faults decoder encoder) (spec : TransformSpec) :
    (bench.createTransform spec).2.Has faults decoder encoder := by
  unfold Bench.createTransform
  split <;> exact ⟨has.faults, has.decoder, has.encoder⟩

theorem configure_decoder (has : bench.Has faults (some (.new name faults)) encoder)
    {input : Format} (granted : (bench.configure .decoder input).1 = .ok ()) :
    ∃ width height capacity, (bench.configure .decoder input).2.Has faults
      (some (.prepared name faults width height capacity)) encoder := by
  have configured := Bench.onDecoder_some has.decoder missing (·.configure input)
  unfold Bench.configure at granted ⊢
  rw [configured] at granted ⊢
  cases width_eq : input.width with
  | none => simp [Decoder.configure, width_eq] at granted
  | some width =>
    cases height_eq : input.height with
    | none => simp [Decoder.configure, width_eq, height_eq] at granted
    | some height =>
      rw [Decoder.configure_ok name faults width_eq height_eq]
      exact ⟨width, height, _, has.faults, rfl, has.encoder⟩

theorem start_decoder {width height capacity : Nat}
    (has : bench.Has faults (some (.prepared name faults width height capacity)) encoder) :
    (bench.start .decoder).2.Has faults (some (.opened name faults width height capacity))
      encoder := by
  have started := Bench.onCodec_decoder has.decoder missing (·.start) (·.start)
  unfold Bench.start
  rw [started]
  exact ⟨has.faults, rfl, has.encoder⟩

end Bench.Has

def Bench.IsFresh (bench : Bench) (faults : CodecFaults) : Prop :=
  ∃ decoderName width height capacity encoderName format encoderWidth encoderHeight hasSurface,
    bench.Has faults (some (.opened decoderName faults width height capacity))
      (some (.opened encoderName faults format encoderWidth encoderHeight hasSurface))

section
variable {patience : Nat} {plan : TranscodePlan} {input : Format} {desk : Desk (Rig Bench)}
  {faults : CodecFaults} {decoder : Option Decoder}

theorem openDecoder_lasts {name : String} {format : Format} {width height : Nat} {hasSurface : Bool}
    (has : desk.outside.device.Has faults decoder
      (some (.prepared name faults format width height hasSurface))) :
    (undoing plan.releaseSurface do
      settle (← device (.start .encoder))
      settle (← device (.createTransform
        ⟨plan.request.width, plan.request.height, plan.request.rotation, plan.surfaceInput⟩))
      undoing (device .releaseTransform) do
        settle (← device (.createDecoder input.mime))
        undoing (TranscodePlan.shutDown .decoder) do
          settle (← device (.configure .decoder input))
          settle (← device (.start .decoder))).Lasts (Rig.world Bench.answer patience) desk
      fun _ left => left.outside.storage = desk.outside.storage ∧
        left.outside.device.IsFresh faults := by
  refine lasts_undoing (lasts_device rfl (lasts_settle fun _ _ => ?_))
  have has := has.start_encoder
  refine lasts_device rfl (lasts_settle fun _ _ => lasts_undoing ?_)
  have has := has.createTransform
    ⟨plan.request.width, plan.request.height, plan.request.rotation, plan.surfaceInput⟩
  refine lasts_device rfl (lasts_settle fun _ created => lasts_undoing ?_)
  obtain ⟨decoderName, has⟩ := has.createDecoder created
  refine lasts_device rfl (lasts_settle fun _ configured => ?_)
  obtain ⟨_, _, _, has⟩ := has.configure_decoder configured
  have has := has.start_decoder
  refine lasts_device rfl (lasts_granted fun _ _ => ?_)
  exact ⟨rfl, _, _, _, _, _, _, _, _, _, has⟩

theorem openCodecs_lasts (faultsAre : desk.outside.device.catalog.faults = faults) :
    (plan.openCodecs input).Lasts (Rig.world Bench.answer patience) desk
      fun _ left => left.outside.storage = desk.outside.storage ∧
        left.outside.device.IsFresh faults := by
  have has : desk.outside.device.Has faults desk.outside.device.decoder
    desk.outside.device.encoder := ⟨faultsAre, rfl, rfl⟩
  obtain ⟨format_width, format_height, -⟩ :=
    encoderFormat_complete plan.settings plan.request plan.profile
  unfold TranscodePlan.openCodecs
  refine lasts_device rfl (lasts_settle fun _ created => lasts_undoing ?_)
  obtain ⟨name, has⟩ := has.createEncoder created
  refine lasts_device rfl (lasts_settle fun _ _ => ?_)
  have has := has.configure_encoder plan.settings plan.request plan.profile
  dsimp only
  split
  next onSurface =>
    refine lasts_device rfl (lasts_settle fun _ _ => ?_)
    exact openDecoder_lasts (has.createSurface format_width format_height)
  next raw => exact openDecoder_lasts has

end

end Recode.Simulation
