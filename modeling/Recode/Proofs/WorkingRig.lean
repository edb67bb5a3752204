import Recode.Proofs.KeptFrames
import Recode.Proofs.Lasting
import Recode.Proofs.RunningCodecs
import Recode.Proofs.Stage

/-!
A simulated rig in the middle of a session of which only the demuxer and the two codecs are known.
Containers and codecs may fail, and the client may cancel or break down: a session then ends early,
but it does not stall.
-/

namespace Recode.Session.Call

def LeavesStage : Call → Prop
  | .client _ | .storage .trackCount | .storage (.trackFormat _) | .storage .currentTrack
  | .storage .currentTime | .storage .currentFlags | .storage (.read _)
  | .storage (.addTrack _ _) | .storage (.write _ _ _ _) | .storage .finalize => True
  | .device .codecs | .device (.inputBuffer _ _) | .device (.encodedBuffer _)
  | .device (.presentAt _) | .device .releaseSurface | .device (.createTransform _)
  | .device .awaitImage | .device .drawImage | .device .releaseTransform => True
  | _ => False

end Recode.Session.Call

namespace Recode.Simulation
open Recode.Media Recode.Container Recode.Device Recode.Picture Recode.Progress Recode.Session
open Recode.Session.Work

namespace Storage
variable {α : Type} {storage : Storage}

theorem demuxers_barring {error? : Option Error} {act : Except Error α × Storage}
    (kept : act.2.library.demuxers = storage.library.demuxers) :
    (storage.barring error? act).2.library.demuxers = storage.library.demuxers := by
  cases error? with
  | some error => rfl
  | none => exact kept

theorem barring_ok {error? : Option Error} {act : Except Error α × Storage} {value : α}
    (granted : (storage.barring error? act).1 = .ok value) : storage.barring error? act = act := by
  cases error? with
  | some error => exact nomatch granted
  | none => rfl

theorem demuxers_onMuxer {absent : α} {act : Muxer → α × Muxer} :
    (storage.onMuxer absent act).2.library.demuxers = storage.library.demuxers := by
  dsimp only [onMuxer, Library.onMuxer]
  split <;> rfl

theorem demuxers_view {absent : α} {look : Demuxer → α} :
    (storage.view absent look).2.library.demuxers = storage.library.demuxers :=
  congrArg (·.library.demuxers) (snd_view storage absent look)

theorem demuxers_answer (call : StorageCall) (leaves : Call.LeavesStage (.storage call)) :
    (Storage.answer call storage).2.library.demuxers = storage.library.demuxers := by
  cases call with
  | trackFormat index => exact demuxers_barring demuxers_view
  | read room => exact demuxers_read storage room
  | addTrack format isAudio =>
    exact @demuxers_barring _ { storage with adds := storage.adds + 1 } _ _ demuxers_onMuxer
  | write track buffer info isAudio =>
    refine @demuxers_barring _ { storage with writes := storage.writes + 1 } _ _ ?_
    split
    next passed => rfl
    next taken => exact demuxers_onMuxer
  | finalize => exact demuxers_barring demuxers_onMuxer
  | trackCount => exact demuxers_view
  | currentTrack => exact demuxers_view
  | currentTime => exact demuxers_view
  | currentFlags => exact demuxers_view
  | _ => exact leaves.elim

theorem onDemuxer_newest {demuxer : Demuxer}
    (newest : storage.library.demuxers.head? = some demuxer) (absent : α)
    (act : Demuxer → α × Demuxer) :
    (storage.onDemuxer absent act).1 = (act demuxer).1 ∧
      (storage.onDemuxer absent act).2.library.demuxers.head? = some (act demuxer).2 := by
  obtain ⟨⟨sources, leaks, faults, _ | ⟨first, older⟩, muxers⟩, script, reads, adds, writes⟩ :=
    storage
  · exact nomatch newest
  · cases newest
    exact ⟨rfl, rfl⟩

end Storage

namespace Bench
variable {α : Type} {bench : Bench}

theorem codecs_answer (call : DeviceCall) (leaves : Call.LeavesStage (.device call)) :
    (answer call bench).2.decoder = bench.decoder ∧ (answer call bench).2.encoder = bench.encoder := by
  obtain ⟨catalog, decoder, encoder, surface, transform⟩ := bench
  cases call with
  | inputBuffer side slot =>
    cases side with
    | decoder => cases decoder <;> exact ⟨rfl, rfl⟩
    | encoder => cases encoder <;> exact ⟨rfl, rfl⟩
  | encodedBuffer index => cases encoder <;> exact ⟨rfl, rfl⟩
  | releaseSurface => cases surface <;> exact ⟨rfl, rfl⟩
  | createTransform spec =>
    dsimp only [answer, createTransform]
    split <;> exact ⟨rfl, rfl⟩
  | awaitImage => cases transform <;> exact ⟨rfl, rfl⟩
  | drawImage => cases transform <;> exact ⟨rfl, rfl⟩
  | codecs => exact ⟨rfl, rfl⟩
  | presentAt nanoseconds => exact ⟨rfl, rfl⟩
  | releaseTransform => exact ⟨rfl, rfl⟩
  | _ => exact leaves.elim

theorem onDecoder_some {decoder : Decoder} (present : bench.decoder = some decoder) (absent : α)
    (act : Decoder → Log → α × Decoder × Log) :
    bench.onDecoder absent act = ((act decoder bench.catalog.log).1,
      { bench.withLog (act decoder bench.catalog.log).2.2 with
        decoder := some (act decoder bench.catalog.log).2.1 }) := by
  unfold onDecoder
  rw [present]

theorem onEncoder_some {encoder : Encoder} (present : bench.encoder = some encoder) (absent : α)
    (act : Encoder → Log → α × Encoder × Log) :
    bench.onEncoder absent act = ((act encoder bench.catalog.log).1,
      { bench.withLog (act encoder bench.catalog.log).2.2 with
        encoder := some (act encoder bench.catalog.log).2.1 }) := by
  unfold onEncoder
  rw [present]

theorem onCodec_decoder {decoder : Decoder} (present : bench.decoder = some decoder) (absent : α)
    (decode : Decoder → α × Decoder) (encode : Encoder → α × Encoder) :
    bench.onCodec .decoder absent decode encode =
      ((decode decoder).1, { bench with decoder := some (decode decoder).2 }) :=
  onDecoder_some present absent fun decoder log => ((decode decoder).1, (decode decoder).2, log)

theorem onCodec_encoder {encoder : Encoder} (present : bench.encoder = some encoder) (absent : α)
    (decode : Decoder → α × Decoder) (encode : Encoder → α × Encoder) :
    bench.onCodec .encoder absent decode encode =
      ((encode encoder).1, { bench with encoder := some (encode encoder).2 }) :=
  onEncoder_some present absent fun encoder log => ((encode encoder).1, (encode encoder).2, log)

end Bench

structure Rig.Shows (rig : Rig Bench) (stage : Stage) : Prop where
  demuxer : rig.storage.library.demuxers.head? = some stage.demuxer
  decoder : rig.device.decoder = some stage.decoder
  encoder : rig.device.encoder = some stage.encoder

section
variable {α : Type} {patience : Nat} {rig : Rig Bench} {stage : Stage} {desk : Desk (Rig Bench)}
  {plan : TranscodePlan} {reached : α → Desk (Rig Bench) → Prop}

theorem shows_answer {call : Call} (leaves : call.LeavesStage) (shows : rig.Shows stage) :
    ((Rig.world Bench.answer patience).answer call rig).2.Shows stage := by
  cases call with
  | storage call =>
    exact { shows with
      demuxer := (congrArg List.head? (Storage.demuxers_answer call leaves)).trans shows.demuxer }
  | device call =>
    obtain ⟨decoder, encoder⟩ := @Bench.codecs_answer rig.device call leaves
    exact ⟨shows.demuxer, decoder.trans shows.decoder, encoder.trans shows.encoder⟩
  | client call => exact ⟨shows.demuxer, shows.decoder, shows.encoder⟩

theorem lasts_aside {call : Call} {next : call.Reply → Work (Rig Bench) α}
    (leaves : call.LeavesStage) (shows : desk.outside.Shows stage)
    (onward : ∀ reply left, left.outside.Shows stage →
      (next reply).Lasts (Rig.world Bench.answer patience) left reached) :
    (ask call >>= next).Lasts (Rig.world Bench.answer patience) desk reached :=
  lasts_ask (onward _ _ (shows_answer leaves shows))

theorem lasts_checkCancelled {next : Unit → Work (Rig Bench) α} (shows : desk.outside.Shows stage)
    (onward : ∀ left, left.outside.Shows stage →
      (next ()).Lasts (Rig.world Bench.answer patience) left reached) :
    (checkCancelled >>= next).Lasts (Rig.world Bench.answer patience) desk reached := by
  unfold checkCancelled
  rw [bind_assoc]
  refine lasts_aside trivial shows fun cancelled left shows => ?_
  cases cancelled with
  | true => exact lasts_bind lasts_fail
  | false => exact onward left shows

theorem lasts_report {next : Unit → Work (Rig Bench) α} (time : Int)
    (shows : desk.outside.Shows stage)
    (onward : ∀ left, left.outside.Shows stage →
      (next ()).Lasts (Rig.world Bench.answer patience) left reached) :
    (Work.tell (.report time) >>= next).Lasts (Rig.world Bench.answer patience) desk reached :=
  (@lasts_tell _ _ (·.Shows stage) (fun event _ held =>
      @shows_answer _ _ _ (.client (.deliver event)) trivial held)
    (.report time) desk shows).bind fun _ left held => onward left held

theorem lasts_currentTrack {next : Option Nat → Work (Rig Bench) α}
    (shows : desk.outside.Shows stage)
    (onward : ∀ left, left.outside.Shows stage →
      (next stage.demuxer.currentTrack?).Lasts (Rig.world Bench.answer patience) left reached) :
    (storage .currentTrack >>= next).Lasts (Rig.world Bench.answer patience) desk reached := by
  have leaves : Call.LeavesStage (.storage .currentTrack) := trivial
  refine lasts_ask ?_
  have looked : ((Rig.world Bench.answer patience).answer (.storage .currentTrack)
      desk.outside).1 = stage.demuxer.currentTrack? :=
    view_newest shows.demuxer none (·.currentTrack?)
  rw [looked]
  exact onward _ (shows_answer leaves shows)

theorem lasts_advance {next : Bool → Work (Rig Bench) α} (shows : desk.outside.Shows stage)
    (onward : ∀ more left, left.outside.Shows { stage with demuxer := stage.demuxer.advance.2 } →
      (next more).Lasts (Rig.world Bench.answer patience) left reached) :
    (storage .advance >>= next).Lasts (Rig.world Bench.answer patience) desk reached := by
  refine lasts_ask (onward _ _ ⟨?_, shows.decoder, shows.encoder⟩)
  exact (Storage.onDemuxer_newest shows.demuxer false (·.advance)).2

theorem lasts_device {call : DeviceCall} {next : call.Reply → Work (Rig Bench) α}
    {answer : call.Reply} {bench : Bench}
    (answered : Bench.answer call desk.outside.device = (answer, bench))
    (onward : (next answer).Lasts (Rig.world Bench.answer patience)
      { desk with outside := { desk.outside with device := bench } } reached) :
    (device call >>= next).Lasts (Rig.world Bench.answer patience) desk reached := by
  refine lasts_ask ?_
  show (next (Bench.answer call desk.outside.device).1).Lasts _ { desk with
    outside := { desk.outside with device := (Bench.answer call desk.outside.device).2 } } _
  rw [answered]
  exact onward

theorem lasts_dequeueInput_decoder {next : Option Nat → Work (Rig Bench) α}
    (shows : desk.outside.Shows stage) (running : stage.decoder.isRunning = true)
    (free : stage.decoder.slots.free ≠ [])
    (waits : ∀ left, 0 < stage.decoder.inputTryAgain → left.outside.Shows { stage with
        decoder := { stage.decoder with inputTryAgain := stage.decoder.inputTryAgain - 1 } } →
      (next none).Lasts (Rig.world Bench.answer patience) left reached)
    (lends : ∀ slot left, left.outside.Shows { stage with decoder := stage.decoder.lent } →
      (next (some slot)).Lasts (Rig.world Bench.answer patience) left reached) :
    (plan.dequeueInput .decoder >>= next).Lasts (Rig.world Bench.answer patience) desk reached := by
  have answered := Bench.onCodec_decoder shows.decoder Bench.missing (·.dequeueInput)
    (·.dequeueInput)
  unfold TranscodePlan.dequeueInput
  rw [bind_assoc]
  refine lasts_device answered ?_
  rcases stage.decoder.dequeueInput_cases running free with ⟨tries, found⟩ | ⟨slot, found⟩
  · rw [found]
    exact waits _ tries { shows with decoder := rfl }
  · rw [found]
    exact lends slot _ { shows with decoder := rfl }

/-- The decoder with other slots and one more sample that is pending. -/
def Decoder.given (decoder : Decoder) (slots : Slots) (sample : Int × Bool) : Decoder :=
  { decoder with slots, pending := decoder.pending ++ [sample] }

theorem lasts_queueInput_decoder {next : Unit → Work (Rig Bench) α} {slot : Nat} {content : Bytes}
    {info : SampleInfo} (shows : desk.outside.Shows stage)
    (onward : ∀ slots left, slots.free ≠ [] → left.outside.Shows { stage with
        decoder := stage.decoder.given slots (info.time, info.flags.isEndOfStream) } →
      (next ()).Lasts (Rig.world Bench.answer patience) left reached) :
    (device (.queueInput .decoder slot content info) >>= fun answer => settle answer >>= next).Lasts
      (Rig.world Bench.answer patience) desk reached := by
  have answered := Bench.onDecoder_some shows.decoder Bench.missing (·.queueInput slot content info)
  refine lasts_device answered (lasts_settle ?_)
  intro _ queued
  obtain ⟨slots, free, same⟩ := stage.decoder.queueInput_ok queued
  exact onward slots _ free ⟨shows.demuxer, congrArg some same, shows.encoder⟩

theorem lasts_dequeueOutput_decoder {next : OutputStatus → Work (Rig Bench) α}
    (shows : desk.outside.Shows stage) (running : stage.decoder.isRunning = true)
    (onward : ∀ answer decoder status left, stage.decoder.Polled answer decoder →
      retried .tryAgainLater answer = .ok status → left.outside.Shows { stage with decoder } →
      (next status).Lasts (Rig.world Bench.answer patience) left reached) :
    (plan.dequeueOutput .decoder >>= next).Lasts (Rig.world Bench.answer patience) desk reached := by
  have answered := Bench.onCodec_decoder shows.decoder Bench.missing (·.dequeueOutput)
    (·.dequeueOutput)
  unfold TranscodePlan.dequeueOutput
  rw [bind_assoc]
  refine lasts_device answered (lasts_settle fun status granted => ?_)
  exact onward _ _ status _ (stage.decoder.polled running) granted { shows with decoder := rfl }

theorem lasts_releaseOutput_decoder {next : Unit → Work (Rig Bench) α} {index : Nat}
    {render : Bool} (shows : desk.outside.Shows stage)
    (onward : ∀ inFlight left, left.outside.Shows { stage with
        decoder := { stage.decoder with inFlight } } →
      (next ()).Lasts (Rig.world Bench.answer patience) left reached) :
    (device (.releaseOutput .decoder index render) >>= fun answer => settle answer >>= next).Lasts
      (Rig.world Bench.answer patience) desk reached := by
  have released : ∃ answer bench, desk.outside.device.releaseOutput .decoder index render =
      (answer, bench) ∧ bench.decoder = some (stage.decoder.releaseOutput index render).2 ∧
        bench.encoder = desk.outside.device.encoder := by
    unfold Bench.releaseOutput
    rw [Bench.onDecoder_some shows.decoder]
    rcases stage.decoder.releaseOutput index render with ⟨_ | _ | _, next⟩ <;>
      exact ⟨_, _, rfl, rfl, rfl⟩
  obtain ⟨answer, bench, answered, decoder, encoder⟩ := released
  obtain ⟨inFlight, moved⟩ := stage.decoder.releaseOutput_moves index render
  refine lasts_device answered (lasts_settle fun _ _ => onward inFlight _ ?_)
  exact ⟨shows.demuxer, moved ▸ decoder, encoder.trans shows.encoder⟩

/-- The encoder with other slots, fewer attempts to get one, and more in its queue. -/
def Encoder.taking (encoder : Encoder) (slots : Slots) (tries : Nat) (more : List EncoderInput) :
    Encoder :=
  { encoder with slots, inputTryAgain := tries, queue := encoder.queue ++ more }

theorem lasts_dequeueInput_encoder {next : Option Nat → Work (Rig Bench) α}
    (shows : desk.outside.Shows stage) (running : stage.encoder.isRunning = true)
    (free : stage.encoder.slots.free ≠ [])
    (waits : ∀ left, 0 < stage.encoder.inputTryAgain → left.outside.Shows { stage with
        encoder := { stage.encoder with inputTryAgain := stage.encoder.inputTryAgain - 1 } } →
      (next none).Lasts (Rig.world Bench.answer patience) left reached)
    (lends : ∀ slot left, left.outside.Shows { stage with encoder := stage.encoder.lent } →
      (next (some slot)).Lasts (Rig.world Bench.answer patience) left reached) :
    (plan.dequeueInput .encoder >>= next).Lasts (Rig.world Bench.answer patience) desk reached := by
  have answered := Bench.onCodec_encoder shows.encoder Bench.missing (·.dequeueInput)
    (·.dequeueInput)
  unfold TranscodePlan.dequeueInput
  rw [bind_assoc]
  refine lasts_device answered ?_
  rcases stage.encoder.dequeueInput_cases running free with
    ⟨error, lasting, found⟩ | ⟨tries, found⟩ | ⟨slot, found⟩
  · have refused : retried none (.error error : Except Error (Option Nat)) = .error error := by
      simp [retried, lasting]
    rw [found, refused]
    exact lasts_bind lasts_fail
  · rw [found]
    exact waits _ tries { shows with encoder := rfl }
  · rw [found]
    exact lends slot _ { shows with encoder := rfl }

theorem lasts_queueInput_encoder {next : Unit → Work (Rig Bench) α} {slot : Nat} {content : Bytes}
    {info : SampleInfo} (shows : desk.outside.Shows stage)
    (onward : ∀ slots left, slots.free ≠ [] → left.outside.Shows { stage with
        encoder := stage.encoder.taking slots stage.encoder.inputTryAgain [Encoder.queued info] } →
      (next ()).Lasts (Rig.world Bench.answer patience) left reached) :
    (device (.queueInput .encoder slot content info) >>= fun answer => settle answer >>= next).Lasts
      (Rig.world Bench.answer patience) desk reached := by
  have answered := Bench.onEncoder_some shows.encoder Bench.missing (·.queueInput slot content info)
  refine lasts_device answered (lasts_settle ?_)
  intro _ taken
  obtain ⟨slots, free, same⟩ := stage.encoder.queueInput_ok taken
  exact onward slots _ free ⟨shows.demuxer, shows.decoder, congrArg some same⟩

theorem lasts_signalEnd {next : Unit → Work (Rig Bench) α} (shows : desk.outside.Shows stage)
    (onward : ∀ left, left.outside.Shows { stage with
        encoder := stage.encoder.taking stage.encoder.slots stage.encoder.inputTryAgain
          [.endOfStream] } →
      (next ()).Lasts (Rig.world Bench.answer patience) left reached) :
    (device .signalEnd >>= fun answer => settle answer >>= next).Lasts
      (Rig.world Bench.answer patience) desk reached := by
  have answered := Bench.onEncoder_some shows.encoder Bench.missing (·.signalEnd)
  refine lasts_device answered (lasts_settle ?_)
  intro _ told
  exact onward _ ⟨shows.demuxer, shows.decoder, congrArg some (stage.encoder.signalEnd_ok told)⟩

theorem lasts_swap {next : Unit → Work (Rig Bench) α} {frame : Frame}
    (shows : desk.outside.Shows stage)
    (onward : ∀ time left, left.outside.Shows { stage with
        encoder := stage.encoder.taking stage.encoder.slots stage.encoder.inputTryAgain
          [.frame time] } →
      (next ()).Lasts (Rig.world Bench.answer patience) left reached) :
    (device (.swap frame) >>= fun answer => settle answer >>= next).Lasts
      (Rig.world Bench.answer patience) desk reached := by
  cases drawn : desk.outside.device.surface with
  | none =>
    have answered : Bench.answer (.swap frame) desk.outside.device =
        (Bench.missing, desk.outside.device) := by
      dsimp only [Bench.answer, Bench.swap]
      rw [drawn]
    exact lasts_device answered (lasts_settle fun _ granted => nomatch granted)
  | some surface =>
    have answered : Bench.answer (.swap frame) desk.outside.device =
        desk.outside.device.onEncoder Bench.missing fun encoder log =>
          surface.swap encoder frame log := by
      dsimp only [Bench.answer, Bench.swap]
      rw [drawn]
    rw [Bench.onEncoder_some shows.encoder] at answered
    refine lasts_device answered (lasts_settle fun _ taken => ?_)
    obtain ⟨time, same⟩ := Encoder.swap_ok taken
    exact onward time _ ⟨shows.demuxer, shows.decoder, congrArg some same⟩

theorem lasts_dequeueOutput_encoder {next : OutputStatus → Work (Rig Bench) α}
    (shows : desk.outside.Shows stage) (running : stage.encoder.isRunning = true)
    (onward : ∀ answer encoder status left, stage.encoder.Polled answer encoder →
      retried .tryAgainLater answer = .ok status → left.outside.Shows { stage with encoder } →
      (next status).Lasts (Rig.world Bench.answer patience) left reached) :
    (plan.dequeueOutput .encoder >>= next).Lasts (Rig.world Bench.answer patience) desk reached := by
  have answered := Bench.onCodec_encoder shows.encoder Bench.missing (·.dequeueOutput)
    (·.dequeueOutput)
  unfold TranscodePlan.dequeueOutput
  rw [bind_assoc]
  refine lasts_device answered (lasts_settle fun status granted => ?_)
  exact onward _ _ status _ (stage.encoder.polled running) granted { shows with encoder := rfl }

theorem lasts_releaseOutput_encoder {next : Unit → Work (Rig Bench) α} {index : Nat}
    {render : Bool} (shows : desk.outside.Shows stage)
    (onward : ∀ inFlight left, left.outside.Shows { stage with
        encoder := { stage.encoder with inFlight } } →
      (next ()).Lasts (Rig.world Bench.answer patience) left reached) :
    (device (.releaseOutput .encoder index render) >>= fun answer => settle answer >>= next).Lasts
      (Rig.world Bench.answer patience) desk reached := by
  obtain ⟨inFlight, moved⟩ := stage.encoder.releaseOutput_moves index
  have answered := Bench.onEncoder_some shows.encoder Bench.missing fun encoder log =>
    ((encoder.releaseOutput index).1, (encoder.releaseOutput index).2, log)
  refine lasts_device answered (lasts_settle ?_)
  exact fun _ _ => onward inFlight _ ⟨shows.demuxer, shows.decoder, congrArg some moved⟩

end

end Recode.Simulation
