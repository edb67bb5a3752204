import Recode.Proofs.IdleCodecs
import Recode.Proofs.Runs
import Recode.Simulation.Rig

/-!
A simulated rig in the middle of a session: a demuxer and a muxer are open, both codecs and the
transform between them exist, and the client listens without objecting. Each call acts on the one
part that it concerns.
-/

namespace Recode.Simulation
open Recode.Media Recode.Container Recode.Device Recode.Picture Recode.Progress Recode.Session
open Recode.Session.Work

/-- What a session finds and leaves alone. -/
structure Backdrop where
  library : Library
  older : List Demuxer
  path : Path
  others : List (Path × Muxer)
  codecs : List CodecInfo
  faults : CodecFaults
  disk : Disk
  patience : Nat

structure Audience where
  reporter : Option Reporter
  announced : Bool
  events : List Event
  delivered : Nat

/-- All that changes on a rig in the course of a session. -/
structure Stage where
  demuxer : Demuxer
  muxer : Muxer
  decoder : Decoder
  encoder : Encoder
  surface : Option Surface
  transform : Transform
  log : Log
  reads : Nat
  adds : Nat
  writes : Nat
  audience : Audience

def Audience.client (audience : Audience) (disk : Disk) : Client where
  events := audience.events
  delivered := audience.delivered
  disk := disk

def Audience.desk (audience : Audience) (storage : Storage) (bench : Bench) (disk : Disk) :
    Desk (Rig Bench) where
  reporter := audience.reporter
  announced := audience.announced
  outside := ⟨storage, bench, audience.client disk⟩

namespace Audience
variable {storage : Storage} {bench : Bench} {disk : Disk} {patience : Nat}

theorem run_forM_deliver (audience : Audience) (events : List Event) :
    ∃ later : Audience, (events.forM Work.deliver).run (Rig.world Bench.answer patience)
        (audience.desk storage bench disk) = (.ok (), later.desk storage bench disk) := by
  induction events generalizing audience with
  | nil => exact ⟨audience, rfl⟩
  | cons event rest ih =>
    let heard : Audience := { audience with
      announced := audience.announced || event.isTerminal
      events := audience.events ++ [event]
      delivered := audience.delivered + 1 }
    have delivered : (Work.deliver event).run (Rig.world Bench.answer patience)
        (audience.desk storage bench disk) = (.ok (), heard.desk storage bench disk) := rfl
    obtain ⟨later, told⟩ := ih heard
    refine ⟨later, ?_⟩
    show (Work.deliver event >>= fun _ => rest.forM Work.deliver).run _ _ = _
    rw [run_bind, delivered]
    exact told

theorem run_tell (audience : Audience) (request : Request) :
    ∃ later : Audience, (tell request).run (Rig.world Bench.answer patience)
        (audience.desk storage bench disk) = (.ok (), later.desk storage bench disk) := by
  obtain ⟨_ | reporter, announced, events, delivered⟩ := audience
  · exact ⟨⟨none, announced, events, delivered⟩, rfl⟩
  · exact run_forM_deliver ⟨some (reporter.serve request).2, announced, events, delivered⟩
      (reporter.serve request).1

end Audience

def onBench (desk : Desk (Rig Bench)) (bench : Bench) : Desk (Rig Bench) :=
  { desk with outside := { desk.outside with device := bench } }

namespace Backdrop
variable (backdrop : Backdrop) (stage : Stage)

def world : World (Rig Bench) := Rig.world Bench.answer backdrop.patience

def storage : Storage where
  library := { backdrop.library with
    demuxers := stage.demuxer :: backdrop.older
    muxers := (backdrop.path, stage.muxer) :: backdrop.others }
  reads := stage.reads
  adds := stage.adds
  writes := stage.writes

def bench : Bench where
  catalog := ⟨backdrop.codecs, backdrop.faults, stage.log⟩
  decoder := some stage.decoder
  encoder := some stage.encoder
  surface := stage.surface
  transform := some stage.transform

def client : Client where
  events := stage.audience.events
  delivered := stage.audience.delivered
  disk := backdrop.disk

def desk : Desk (Rig Bench) where
  reporter := stage.audience.reporter
  announced := stage.audience.announced
  outside := ⟨backdrop.storage stage, backdrop.bench stage, backdrop.client stage⟩

theorem movie?_storage :
    (backdrop.storage stage).library.movie? backdrop.path = some stage.muxer.movie := by
  have same : Path.same backdrop.path backdrop.path = true := beq_self_eq_true _
  show (((backdrop.path, stage.muxer) :: backdrop.others).find? (·.1.same backdrop.path)).map
    (·.2.movie) = some stage.muxer.movie
  simp [same]

theorem run_currentTrack :
    (Work.storage .currentTrack).run backdrop.world (backdrop.desk stage) =
      (.ok stage.demuxer.currentTrack?, backdrop.desk stage) := rfl

theorem run_currentTime :
    (Work.storage .currentTime).run backdrop.world (backdrop.desk stage) =
      (.ok stage.demuxer.currentTime?, backdrop.desk stage) := rfl

theorem run_read (room : Nat) :
    (Work.storage (.read room)).run backdrop.world (backdrop.desk stage) =
      (.ok (stage.demuxer.read room), backdrop.desk { stage with reads := stage.reads + 1 }) := rfl

theorem run_advance :
    (Work.storage .advance).run backdrop.world (backdrop.desk stage) =
      (.ok stage.demuxer.advance.1,
        backdrop.desk { stage with demuxer := stage.demuxer.advance.2 }) := rfl

theorem run_addTrack (format : Format) (isAudio : Bool) :
    (Work.storage (.addTrack format isAudio)).run backdrop.world (backdrop.desk stage) =
      (.ok (stage.muxer.addTrack format isAudio).1, backdrop.desk { stage with
        muxer := (stage.muxer.addTrack format isAudio).2, adds := stage.adds + 1 }) := rfl

theorem run_write (track : Nat) (buffer : Bytes) (info : SampleInfo) (isAudio : Bool) :
    (Work.storage (.write track buffer info isAudio)).run backdrop.world (backdrop.desk stage) =
      (.ok (stage.muxer.write track buffer info isAudio).1, backdrop.desk { stage with
        muxer := (stage.muxer.write track buffer info isAudio).2, writes := stage.writes + 1 }) :=
  rfl

theorem run_checkCancelled :
    checkCancelled.run backdrop.world (backdrop.desk stage) = (.ok (), backdrop.desk stage) := rfl

theorem run_presentAt (nanoseconds : Int) :
    (device (.presentAt nanoseconds)).run backdrop.world (backdrop.desk stage) =
      (.ok (), backdrop.desk { stage with
        surface := stage.surface.map (·.presentAt nanoseconds) }) := rfl

theorem run_awaitImage :
    (device .awaitImage).run backdrop.world (backdrop.desk stage) =
      (.ok stage.transform.await.1,
        backdrop.desk { stage with transform := stage.transform.await.2 }) := rfl

theorem run_drawImage :
    (device .drawImage).run backdrop.world (backdrop.desk stage) =
      (.ok stage.transform.drawLatched, backdrop.desk stage) := rfl

theorem run_dequeueInput_decoder {answer : Except Error (Option Nat)} {next : Decoder}
    (found : stage.decoder.dequeueInput = (answer, next)) (timeout : Int) :
    (device (.dequeueInput .decoder timeout)).run backdrop.world (backdrop.desk stage) =
      (.ok answer, backdrop.desk { stage with decoder := next }) := by
  have ran : (device (.dequeueInput .decoder timeout)).run backdrop.world (backdrop.desk stage) =
      (.ok stage.decoder.dequeueInput.1,
        backdrop.desk { stage with decoder := stage.decoder.dequeueInput.2 }) := rfl
  rwa [found] at ran

theorem run_dequeueInput_encoder {answer : Except Error (Option Nat)} {next : Encoder}
    (found : stage.encoder.dequeueInput = (answer, next)) (timeout : Int) :
    (device (.dequeueInput .encoder timeout)).run backdrop.world (backdrop.desk stage) =
      (.ok answer, backdrop.desk { stage with encoder := next }) := by
  have ran : (device (.dequeueInput .encoder timeout)).run backdrop.world (backdrop.desk stage) =
      (.ok stage.encoder.dequeueInput.1,
        backdrop.desk { stage with encoder := stage.encoder.dequeueInput.2 }) := rfl
  rwa [found] at ran

theorem run_inputBuffer_decoder {answer : Except Error Bytes} {slot : Nat}
    (found : stage.decoder.inputBuffer slot = answer) :
    (device (.inputBuffer .decoder slot)).run backdrop.world (backdrop.desk stage) =
      (.ok answer, backdrop.desk stage) := by
  subst found
  rfl

theorem run_inputBuffer_encoder {answer : Except Error Bytes} {slot : Nat}
    (found : stage.encoder.inputBuffer slot = answer) :
    (device (.inputBuffer .encoder slot)).run backdrop.world (backdrop.desk stage) =
      (.ok answer, backdrop.desk stage) := by
  subst found
  rfl

theorem run_queueInput_decoder {slot : Nat} {content : Bytes} {info : SampleInfo}
    {answer : Except Error Unit} {next : Decoder} {log : Log}
    (found : stage.decoder.queueInput slot content info stage.log = (answer, next, log)) :
    (device (.queueInput .decoder slot content info)).run backdrop.world (backdrop.desk stage) =
      (.ok answer, backdrop.desk { stage with decoder := next, log }) := by
  have ran : (device (.queueInput .decoder slot content info)).run backdrop.world
      (backdrop.desk stage) = (.ok (stage.decoder.queueInput slot content info stage.log).1,
        backdrop.desk { stage with
          decoder := (stage.decoder.queueInput slot content info stage.log).2.1
          log := (stage.decoder.queueInput slot content info stage.log).2.2 }) := rfl
  rwa [found] at ran

theorem run_queueInput_encoder {slot : Nat} {content : Bytes} {info : SampleInfo}
    {answer : Except Error Unit} {next : Encoder} {log : Log}
    (found : stage.encoder.queueInput slot content info stage.log = (answer, next, log)) :
    (device (.queueInput .encoder slot content info)).run backdrop.world (backdrop.desk stage) =
      (.ok answer, backdrop.desk { stage with encoder := next, log }) := by
  have ran : (device (.queueInput .encoder slot content info)).run backdrop.world
      (backdrop.desk stage) = (.ok (stage.encoder.queueInput slot content info stage.log).1,
        backdrop.desk { stage with
          encoder := (stage.encoder.queueInput slot content info stage.log).2.1
          log := (stage.encoder.queueInput slot content info stage.log).2.2 }) := rfl
  rwa [found] at ran

theorem run_dequeueOutput_decoder {answer : Except Error OutputStatus} {next : Decoder}
    (found : stage.decoder.dequeueOutput = (answer, next)) (timeout : Int) :
    (device (.dequeueOutput .decoder timeout)).run backdrop.world (backdrop.desk stage) =
      (.ok answer, backdrop.desk { stage with decoder := next }) := by
  have ran : (device (.dequeueOutput .decoder timeout)).run backdrop.world (backdrop.desk stage) =
      (.ok stage.decoder.dequeueOutput.1,
        backdrop.desk { stage with decoder := stage.decoder.dequeueOutput.2 }) := rfl
  rwa [found] at ran

theorem run_dequeueOutput_encoder {answer : Except Error OutputStatus} {next : Encoder}
    (found : stage.encoder.dequeueOutput = (answer, next)) (timeout : Int) :
    (device (.dequeueOutput .encoder timeout)).run backdrop.world (backdrop.desk stage) =
      (.ok answer, backdrop.desk { stage with encoder := next }) := by
  have ran : (device (.dequeueOutput .encoder timeout)).run backdrop.world (backdrop.desk stage) =
      (.ok stage.encoder.dequeueOutput.1,
        backdrop.desk { stage with encoder := stage.encoder.dequeueOutput.2 }) := rfl
  rwa [found] at ran

theorem run_releaseOutput_decoder {index : Nat} {render : Bool} {image? : Option Image}
    {next : Decoder}
    (found : stage.decoder.releaseOutput index render = (.ok image?, next)) :
    (device (.releaseOutput .decoder index render)).run backdrop.world (backdrop.desk stage) =
      (.ok (.ok ()), backdrop.desk { stage with
        decoder := next
        transform := { stage.transform with
          queue := stage.transform.queue ++ image?.toList } }) := by
  have answered : (backdrop.bench stage).releaseOutput .decoder index render =
      (.ok (), backdrop.bench { stage with
        decoder := next
        transform := { stage.transform with
          queue := stage.transform.queue ++ image?.toList } }) := by
    unfold Bench.releaseOutput Bench.onDecoder bench
    simp only [found]
    cases image? with
    | none => simp only [Option.toList_none, List.append_nil]; rfl
    | some image => rfl
  have ran : (device (.releaseOutput .decoder index render)).run backdrop.world
      (backdrop.desk stage) = (.ok ((backdrop.bench stage).releaseOutput .decoder index render).1,
        { backdrop.desk stage with outside := { (backdrop.desk stage).outside with
          device := ((backdrop.bench stage).releaseOutput .decoder index render).2 } }) := rfl
  rw [answered] at ran
  exact ran

theorem run_releaseOutput_encoder {index : Nat} {answer : Except Error Unit} {next : Encoder}
    (found : stage.encoder.releaseOutput index = (answer, next)) (render : Bool) :
    (device (.releaseOutput .encoder index render)).run backdrop.world (backdrop.desk stage) =
      (.ok answer, backdrop.desk { stage with encoder := next }) := by
  have ran : (device (.releaseOutput .encoder index render)).run backdrop.world
      (backdrop.desk stage) = (.ok (stage.encoder.releaseOutput index).1,
        backdrop.desk { stage with encoder := (stage.encoder.releaseOutput index).2 }) := rfl
  rwa [found] at ran

theorem run_encodedBuffer {index : Nat} {answer : Except Error Bytes}
    (found : stage.encoder.outputBuffer index = answer) :
    (device (.encodedBuffer index)).run backdrop.world (backdrop.desk stage) =
      (.ok answer, backdrop.desk stage) := by
  subst found
  rfl

theorem run_signalEnd {answer : Except Error Unit} {next : Encoder} {log : Log}
    (found : stage.encoder.signalEnd stage.log = (answer, next, log)) :
    (device .signalEnd).run backdrop.world (backdrop.desk stage) =
      (.ok answer, backdrop.desk { stage with encoder := next, log }) := by
  have ran : (device .signalEnd).run backdrop.world (backdrop.desk stage) =
      (.ok (stage.encoder.signalEnd stage.log).1, backdrop.desk { stage with
        encoder := (stage.encoder.signalEnd stage.log).2.1
        log := (stage.encoder.signalEnd stage.log).2.2 }) := rfl
  rwa [found] at ran

theorem run_swap {surface : Surface} (drawn : stage.surface = some surface) {frame : Frame}
    {answer : Except Error Unit} {next : Encoder} {log : Log}
    (found : surface.swap stage.encoder frame stage.log = (answer, next, log)) :
    (device (.swap frame)).run backdrop.world (backdrop.desk stage) =
      (.ok answer, backdrop.desk { stage with encoder := next, log }) := by
  obtain ⟨demuxer, muxer, decoder, encoder, _, transform, before, reads, adds, writes, audience⟩ :=
    stage
  cases drawn
  have ran : (device (.swap frame)).run backdrop.world (backdrop.desk
      ⟨demuxer, muxer, decoder, encoder, some surface, transform, before, reads, adds, writes,
        audience⟩) = (.ok (surface.swap encoder frame before).1, backdrop.desk
      ⟨demuxer, muxer, decoder, (surface.swap encoder frame before).2.1, some surface, transform,
        (surface.swap encoder frame before).2.2, reads, adds, writes, audience⟩) := rfl
  rwa [found] at ran

theorem run_releaseTransform :
    (device .releaseTransform).run backdrop.world (backdrop.desk stage) =
      (.ok (), backdrop.desk { stage with transform := stage.transform.release }) := rfl

theorem run_releaseSurface {surface : Surface} (drawn : stage.surface = some surface) :
    (device .releaseSurface).run backdrop.world (backdrop.desk stage) =
      (.ok (), backdrop.desk { stage with
        surface := some (surface.release stage.log).1, log := (surface.release stage.log).2 }) := by
  obtain ⟨demuxer, muxer, decoder, encoder, _, transform, log, reads, adds, writes, audience⟩ :=
    stage
  cases drawn
  rfl

theorem run_releaseSurface_none (drawn : stage.surface = none) :
    (device .releaseSurface).run backdrop.world (backdrop.desk stage) =
      (.ok (), backdrop.desk stage) := by
  obtain ⟨demuxer, muxer, decoder, encoder, _, transform, log, reads, adds, writes, audience⟩ :=
    stage
  cases drawn
  rfl

theorem run_stop_decoder :
    (device (.stop .decoder)).run backdrop.world (backdrop.desk stage) =
      (.ok (.ok ()), backdrop.desk { stage with decoder := stage.decoder.stop }) := rfl

theorem run_stop_encoder :
    (device (.stop .encoder)).run backdrop.world (backdrop.desk stage) =
      (.ok (.ok ()), backdrop.desk { stage with encoder := stage.encoder.stop }) := rfl

theorem run_release_decoder :
    (device (.release .decoder)).run backdrop.world (backdrop.desk stage) =
      (.ok (), backdrop.desk { stage with
        decoder := (stage.decoder.release stage.log).1
        log := (stage.decoder.release stage.log).2 }) := rfl

theorem run_release_encoder :
    (device (.release .encoder)).run backdrop.world (backdrop.desk stage) =
      (.ok (), backdrop.desk { stage with
        encoder := (stage.encoder.release stage.log).1
        log := (stage.encoder.release stage.log).2 }) := rfl

theorem run_tell_onBench (bench : Bench) (request : Request) :
    ∃ audience, (tell request).run backdrop.world (onBench (backdrop.desk stage) bench) =
      (.ok (), onBench (backdrop.desk { stage with audience }) bench) :=
  stage.audience.run_tell request

theorem run_tell (request : Request) :
    ∃ audience, (tell request).run backdrop.world (backdrop.desk stage) =
      (.ok (), backdrop.desk { stage with audience }) :=
  backdrop.run_tell_onBench stage (backdrop.bench stage) request

end Backdrop

end Recode.Simulation
