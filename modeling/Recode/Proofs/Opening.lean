import Recode.Proofs.Stage
import Recode.Session.Transcode

/-!
A session sets up its codecs on a simulated bench. Unless the bench is told to refuse, it has the
encoder that was resolved and a decoder for the track, and both are idle when the session begins.
-/

namespace Recode.Simulation
open Recode.Media Recode.Container Recode.Device Recode.Picture Recode.Session
open Recode.Session.Work

def Decoder.prepared (name : String) (faults : CodecFaults) (width height capacity : Nat) :
    Decoder :=
  { Decoder.new name faults with
    width
    height
    slots := .new inputSlots capacity
    configured := true }

def Decoder.opened (name : String) (faults : CodecFaults) (width height capacity : Nat) : Decoder :=
  { prepared name faults width height capacity with started := true }

theorem Decoder.idle_opened (name : String) {faults : CodecFaults}
    (healthy : faults.failDecoderAfter = none) {width height : Nat} (width_pos : 0 < width)
    (height_pos : 0 < height) (capacity : Nat) :
    (opened name faults width height capacity).Idle capacity where
  running := rfl
  offers := Slots.new_offers (by decide) capacity
  capacity := rfl
  returned := rfl
  healthy := healthy
  width_pos := width_pos
  height_pos := height_pos

theorem Decoder.configure_ok (name : String) (faults : CodecFaults) {format : Format}
    {width height : Nat} (width_eq : format.width = some width)
    (height_eq : format.height = some height) (log : Log) :
    (Decoder.new name faults).configure format log =
      (.ok (), prepared name faults width height (format.maxInputSize.getD defaultInputCapacity),
        { log with decoderFormat := some format }) := by
  unfold configure
  rw [width_eq, height_eq]
  rfl

def Encoder.prepared (name : String) (faults : CodecFaults) (format : Format) (width height : Nat)
    (hasSurface : Bool) : Encoder :=
  { Encoder.new name faults with
    format := some format
    slots := .new inputSlots (inputCapacity width height)
    hasSurface }

def Encoder.opened (name : String) (faults : CodecFaults) (format : Format) (width height : Nat)
    (hasSurface : Bool) : Encoder :=
  { prepared name faults format width height hasSurface with started := true }

theorem Encoder.idle_opened (name : String) {faults : CodecFaults}
    (healthy : faults.failEncoderAfter = none) (format : Format) (width height : Nat)
    (hasSurface : Bool) : (opened name faults format width height hasSurface).Idle width height where
  running := rfl
  offers := Slots.new_offers (by decide) _
  capacity := rfl
  returned := rfl
  healthy := healthy

theorem encoderFormat_complete (settings : Settings) (request : TranscodeRequest)
    (profile : Profile) :
    (encoderFormat settings request profile).width = some request.width ∧
      (encoderFormat settings request profile).height = some request.height ∧
      ((encoderFormat settings request profile).colorFormat.isNone ||
        (encoderFormat settings request profile).bitrate.isNone) = false := by
  unfold encoderFormat
  cases profile.usesSurfaceInput with
  | true => exact ⟨rfl, rfl, rfl⟩
  | false => exact ⟨rfl, rfl, rfl⟩

theorem Encoder.configure_ok (name : String) (faults : CodecFaults) (settings : Settings)
    (request : TranscodeRequest) (profile : Profile) (log : Log) :
    (Encoder.new name faults).configure (encoderFormat settings request profile) log =
      (.ok (), prepared name faults (encoderFormat settings request profile) request.width
        request.height false, { log with
          encoderFormat := some (encoderFormat settings request profile) }) := by
  obtain ⟨width_eq, height_eq, complete⟩ := encoderFormat_complete settings request profile
  unfold configure
  rw [width_eq, height_eq]
  exact if_neg (by simp [complete])

theorem Encoder.createSurface_ok (name : String) (faults : CodecFaults) {format : Format}
    {width height : Nat} (width_eq : format.width = some width)
    (height_eq : format.height = some height) :
    (prepared name faults format width height false).createSurface =
      (.ok { width, height }, prepared name faults format width height true) := by
  unfold createSurface prepared
  dsimp only
  rw [if_neg (by simp [Encoder.new]), width_eq, height_eq]
  rfl

section
variable {codecs : List CodecInfo} {faults : CodecFaults}

theorem createEncoder_ok (creatable : faults.failEncoderCreation = false) {codec : CodecInfo}
    (member : codec ∈ codecs) (encodes : codec.isEncoder = true) (log : Log) :
    ∃ name next, next.encoderFrames = log.encoderFrames ∧
      Catalog.createEncoder ⟨codecs, faults, log⟩ codec.name =
        (.ok (.new name faults), ⟨codecs, faults, next⟩) := by
  have some_found : (codecs.find? fun other =>
      other.isEncoder && other.name == codec.name).isSome = true := by
    rw [List.find?_isSome]
    exact ⟨codec, member, by simp [encodes]⟩
  obtain ⟨found, same⟩ := Option.isSome_iff_exists.mp some_found
  refine ⟨found.name, { log with encodersCreated := log.encodersCreated + 1 }, rfl, ?_⟩
  unfold Catalog.createEncoder
  rw [creatable, same]
  rfl

/-- The first codec of every catalog decodes AVC video. -/
theorem createDecoder_ok {encoders : List CodecInfo}
    (same : codecs = (Catalog.new encoders faults).codecs) (log : Log) :
    ∃ name next, next.encoderFrames = log.encoderFrames ∧
      Catalog.createDecoder ⟨codecs, faults, log⟩ videoAvc =
        (.ok (.new name faults), ⟨codecs, faults, next⟩) := by
  have supported : (CodecInfo.decoder "OMX.fake.video.decoder.avc" videoAvc).supports videoAvc =
      true := by simp [CodecInfo.supports, CodecInfo.decoder, Text.sameIgnoringCase]
  subst same
  refine ⟨"OMX.fake.video.decoder.avc", { log with
    decodersCreated := log.decodersCreated + 1 }, rfl, ?_⟩
  unfold Catalog.createDecoder Catalog.new
  rw [List.find?_cons_of_pos (by rw [supported]; rfl)]
  rfl

end

section
variable {patience : Nat} {desk : Desk (Rig Bench)} {codecs : List CodecInfo}
  {faults : CodecFaults} {log next : Log} {decoder : Option Decoder} {encoder : Option Encoder}
  {surface : Option Surface} {transform : Option Transform}

theorem run_device {call : DeviceCall} {bench after : Bench} {answer : call.Reply}
    (found : Bench.answer call bench = (answer, after)) :
    (device call).run (Rig.world Bench.answer patience) (onBench desk bench) =
      (.ok answer, onBench desk after) := by
  have ran : (device call).run (Rig.world Bench.answer patience) (onBench desk bench) =
      (.ok (Bench.answer call bench).1, onBench desk (Bench.answer call bench).2) := rfl
  rw [ran, found]

theorem run_createEncoder {name : String} {created : Encoder}
    (found : Catalog.createEncoder ⟨codecs, faults, log⟩ name =
      (.ok created, ⟨codecs, faults, next⟩)) :
    (device (.createEncoder name)).run (Rig.world Bench.answer patience)
        (onBench desk ⟨⟨codecs, faults, log⟩, decoder, encoder, surface, transform⟩) =
      (.ok (.ok ()), onBench desk
        ⟨⟨codecs, faults, next⟩, decoder, some created, surface, transform⟩) := by
  apply run_device
  unfold Bench.answer Bench.createEncoder
  simp only [found]

theorem run_createDecoder {mime : String} {created : Decoder}
    (found : Catalog.createDecoder ⟨codecs, faults, log⟩ mime =
      (.ok created, ⟨codecs, faults, next⟩)) :
    (device (.createDecoder mime)).run (Rig.world Bench.answer patience)
        (onBench desk ⟨⟨codecs, faults, log⟩, decoder, encoder, surface, transform⟩) =
      (.ok (.ok ()), onBench desk
        ⟨⟨codecs, faults, next⟩, some created, encoder, surface, transform⟩) := by
  apply run_device
  unfold Bench.answer Bench.createDecoder
  simp only [found]

theorem run_configure_encoder {current configured : Encoder} {format : Format}
    (found : current.configure format log = (.ok (), configured, next)) :
    (device (.configure .encoder format)).run (Rig.world Bench.answer patience)
        (onBench desk ⟨⟨codecs, faults, log⟩, decoder, some current, surface, transform⟩) =
      (.ok (.ok ()), onBench desk
        ⟨⟨codecs, faults, next⟩, decoder, some configured, surface, transform⟩) := by
  apply run_device
  unfold Bench.answer Bench.configure Bench.onEncoder
  simp only [found]
  rfl

theorem run_configure_decoder {current configured : Decoder} {format : Format}
    (found : current.configure format log = (.ok (), configured, next)) :
    (device (.configure .decoder format)).run (Rig.world Bench.answer patience)
        (onBench desk ⟨⟨codecs, faults, log⟩, some current, encoder, surface, transform⟩) =
      (.ok (.ok ()), onBench desk
        ⟨⟨codecs, faults, next⟩, some configured, encoder, surface, transform⟩) := by
  apply run_device
  unfold Bench.answer Bench.configure Bench.onDecoder
  simp only [found]
  rfl

theorem run_createSurface {current backed : Encoder} {created : Surface}
    (found : current.createSurface = (.ok created, backed)) :
    (device .createSurface).run (Rig.world Bench.answer patience)
        (onBench desk ⟨⟨codecs, faults, log⟩, decoder, some current, surface, transform⟩) =
      (.ok (.ok ()), onBench desk
        ⟨⟨codecs, faults, log⟩, decoder, some backed, some created, transform⟩) := by
  apply run_device
  unfold Bench.answer Bench.createSurface Bench.onEncoder
  simp only [found]
  rfl

theorem run_start_encoder {current : Encoder} (configured : current.format.isSome = true) :
    (device (.start .encoder)).run (Rig.world Bench.answer patience)
        (onBench desk ⟨⟨codecs, faults, log⟩, decoder, some current, surface, transform⟩) =
      (.ok (.ok ()), onBench desk ⟨⟨codecs, faults, log⟩, decoder,
        some { current with started := true }, surface, transform⟩) := by
  have started : current.start = (.ok (), { current with started := true }) := if_pos configured
  apply run_device
  unfold Bench.answer Bench.start Bench.onCodec Bench.onEncoder
  simp only [started]
  rfl

theorem run_start_decoder {current : Decoder} (configured : current.configured = true) :
    (device (.start .decoder)).run (Rig.world Bench.answer patience)
        (onBench desk ⟨⟨codecs, faults, log⟩, some current, encoder, surface, transform⟩) =
      (.ok (.ok ()), onBench desk ⟨⟨codecs, faults, log⟩,
        some { current with started := true }, encoder, surface, transform⟩) := by
  have started : current.start = (.ok (), { current with started := true }) := if_pos configured
  apply run_device
  unfold Bench.answer Bench.start Bench.onCodec Bench.onDecoder
  simp only [started]
  rfl

theorem run_createTransform {spec : TransformSpec} (width_pos : 0 < spec.width)
    (height_pos : 0 < spec.height) :
    (device (.createTransform spec)).run (Rig.world Bench.answer patience)
        (onBench desk ⟨⟨codecs, faults, log⟩, decoder, encoder, surface, transform⟩) =
      (.ok (.ok ()), onBench desk ⟨⟨codecs, faults, log⟩, decoder, encoder, surface,
        some { spec, patience := 0 }⟩) := by
  have created : Transform.create spec 0 = .ok { spec, patience := 0 } :=
    if_neg (by omega)
  apply run_device
  unfold Bench.answer Bench.createTransform
  simp only [created]

def Opened (plan : TranscodePlan) (codecs : List CodecInfo) (faults : CodecFaults)
    (width height capacity : Nat) (bench : Bench) : Prop :=
  ∃ decoderName encoderName format surface log,
    bench = ⟨⟨codecs, faults, log⟩, some (.opened decoderName faults width height capacity),
      some (.opened encoderName faults format plan.request.width plan.request.height
        plan.surfaceInput), surface,
      some { spec := ⟨plan.request.width, plan.request.height, plan.request.rotation,
        plan.surfaceInput⟩, patience := 0 }⟩ ∧
    log.encoderFrames = [] ∧
    (plan.surfaceInput = true → ∃ backing, surface = some backing ∧
      backing.Takes plan.request.width plan.request.height)

theorem openDecoder_reaches {plan : TranscodePlan} {encoders : List CodecInfo}
    (same : codecs = (Catalog.new encoders faults).codecs) (noFrames : log.encoderFrames = [])
    (request_width : 0 < plan.request.width) (request_height : 0 < plan.request.height)
    {input : Format} (avc : input.mime = videoAvc) {width height : Nat}
    (input_width : input.width = some width) (input_height : input.height = some height)
    (name : String) (format : Format) {hasSurface : Bool} (backed : hasSurface = plan.surfaceInput)
    (takes : plan.surfaceInput = true → ∃ backing, surface = some backing ∧
      backing.Takes plan.request.width plan.request.height) :
    (undoing plan.releaseSurface do
      settle (← device (.start .encoder))
      settle (← device (.createTransform
        ⟨plan.request.width, plan.request.height, plan.request.rotation, plan.surfaceInput⟩))
      undoing (device .releaseTransform) do
        settle (← device (.createDecoder input.mime))
        undoing (TranscodePlan.shutDown .decoder) do
          settle (← device (.configure .decoder input))
          settle (← device (.start .decoder))).Reaches (Rig.world Bench.answer patience)
      (onBench desk ⟨⟨codecs, faults, log⟩, none, some (.prepared name faults format
        plan.request.width plan.request.height hasSurface), surface, none⟩) fun _ left =>
        ∃ bench, left = onBench desk bench ∧ Opened plan codecs faults width height
          (input.maxInputSize.getD Decoder.defaultInputCapacity) bench := by
  subst backed
  obtain ⟨decoderName, second, kept, created⟩ := createDecoder_ok same log
  rw [← avc] at created
  refine reaches_undoing (reaches_after (run_start_encoder rfl) (reaches_settle rfl ?_))
  refine reaches_after (run_createTransform request_width request_height) (reaches_settle rfl ?_)
  refine reaches_undoing (reaches_after (run_createDecoder created) (reaches_settle rfl ?_))
  refine reaches_undoing (reaches_after (run_configure_decoder
    (Decoder.configure_ok _ _ input_width input_height _)) (reaches_settle rfl ?_))
  refine reaches_after (run_start_decoder rfl) ⟨(), _, run_settle_ok _ _ _, _, rfl, ?_⟩
  exact ⟨decoderName, name, format, surface, { second with decoderFormat := some input }, rfl,
    kept.trans noFrames, takes⟩

theorem openCodecs_reaches {plan : TranscodePlan} {encoders : List CodecInfo}
    (same : codecs = (Catalog.new encoders faults).codecs)
    (creatable : faults.failEncoderCreation = false) (member : plan.encoder.codec ∈ codecs)
    (encodes : plan.encoder.codec.isEncoder = true) (noFrames : log.encoderFrames = [])
    (request_width : 0 < plan.request.width) (request_height : 0 < plan.request.height)
    {input : Format} (avc : input.mime = videoAvc) {width height : Nat}
    (input_width : input.width = some width) (input_height : input.height = some height) :
    (plan.openCodecs input).Reaches (Rig.world Bench.answer patience)
      (onBench desk ⟨⟨codecs, faults, log⟩, none, none, none, none⟩) fun _ left =>
        ∃ bench, left = onBench desk bench ∧ Opened plan codecs faults width height
          (input.maxInputSize.getD Decoder.defaultInputCapacity) bench := by
  obtain ⟨name, first, kept, created⟩ := createEncoder_ok creatable member encodes log
  obtain ⟨format_width, format_height, -⟩ :=
    encoderFormat_complete plan.settings plan.request plan.profile
  unfold TranscodePlan.openCodecs
  refine reaches_after (run_createEncoder created) (reaches_settle rfl (reaches_undoing ?_))
  refine reaches_after (run_configure_encoder
    (Encoder.configure_ok name faults plan.settings plan.request plan.profile first))
    (reaches_settle rfl ?_)
  have noFrames (told : Option Format) : { first with encoderFormat := told }.encoderFrames = [] :=
    kept.trans noFrames
  dsimp only
  split
  next onSurface =>
    refine reaches_after (run_createSurface (Encoder.createSurface_ok name faults format_width
      format_height)) (reaches_settle rfl ?_)
    exact openDecoder_reaches same (noFrames _) request_width request_height avc
      input_width input_height name _ onSurface.symm fun _ => ⟨_, rfl, rfl, rfl, rfl⟩
  next raw =>
    exact openDecoder_reaches same (noFrames _) request_width request_height avc
      input_width input_height name _ (Bool.eq_false_iff.mpr raw).symm (absurd · raw)

end

end Recode.Simulation
