import Recode.Session.World
import Recode.Session.Window
import Recode.Session.Machine
import Recode.Session.ParameterSets
import Recode.Session.Settings
import Recode.Picture.Yuv

/-!
Decoding, drawing and encoding one video track. One session drives both codecs: in each cycle it
feeds at most one sample to the decoder, and then polls until neither codec has output left, the
encoder first. Pictures reach the encoder through its input surface or as raw frames.
-/

namespace Recode.Session
open Recode.Media Recode.Container Recode.Device Recode.Picture Recode.Progress
open Recode.Session.Work

/-- What a transcode is to produce; a bitrate of zero asks for the fallback. -/
structure TranscodeRequest where
  width : Nat := 4
  height : Nat := 4
  bitrate : Nat := 0
  rotation : Rotation := .deg0
  window : Window := {}
  deriving DecidableEq, Repr, Inhabited

structure TranscodeOutcome where
  destination : Nat
  firstTime : Option Int
  rendered : Nat
  dropped : Nat
  written : Nat
  deriving DecidableEq, Repr, Inhabited

/-- The format that the encoder is configured with. Only raw frames have rows to lay out. -/
def encoderFormat (settings : Settings) (request : TranscodeRequest) (profile : Profile) : Format :=
  let format : Format :=
    { Format.video settings.mime request.width request.height with
      colorFormat := some profile.colorFormat
      bitrate := some (if request.bitrate = 0 then settings.fallbackBitrate else request.bitrate)
      frameRate := some settings.frameRate
      keyFrameInterval := some settings.keyFrameInterval }
  if profile.usesSurfaceInput then format else
    { format with
      stride := some (request.width + settings.stridePadding)
      sliceHeight := some request.height }

structure TranscodePlan where
  track : Track
  encoder : ResolvedEncoder
  request : TranscodeRequest
  settings : Settings
  deriving DecidableEq, Repr, Inhabited

structure Standing where
  decoder : Machine := {}
  encoder : Machine := {}
  /-- Whether samples are still fed to the decoder. -/
  feeding : Bool := true
  /-- Whether the encoder has still to be told that no more frames will come. -/
  endPending : Bool := false
  /-- The time of the last buffer that the decoder put out. -/
  decodedTime : Int := 0
  destination : Option Nat := none
  firstTime : Option Int := none
  rendered : Nat := 0
  dropped : Nat := 0
  written : Nat := 0
  deriving DecidableEq, Repr, Inhabited

/-- A transient error of a poll means that there was nothing yet. -/
def retried {α : Type} (nothing : α) : Except Error α → Except Error α
  | .error error => if error.isTransient then .ok nothing else .error error
  | answer => answer

theorem retried_eq_ok {α : Type} {nothing value : α} {answer : Except Error α}
    (found : retried nothing answer = .ok value) (other : value ≠ nothing) :
    answer = .ok value := by
  unfold retried at found
  split at found
  next error =>
    split at found
    next transient => exact absurd (Except.ok.inj found).symm other
    next lasting => exact nomatch found
  next answered => exact found

/-- Microseconds in nanoseconds, in a signed word of 64 bits, which wraps around. -/
def nanoseconds (time : Int) : Int := (time * 1000).bmod Int64.size

theorem nanoseconds_toInt (time : Int64) : nanoseconds time.toInt = (time * 1000).toInt :=
  (Int64.toInt_mul time 1000).symm

def Presentable (time : Int) : Prop :=
  Int64.minValue.toInt ≤ time * 1000 ∧ time * 1000 ≤ Int64.maxValue.toInt

instance (time : Int) : Decidable (Presentable time) := inferInstanceAs (Decidable (_ ∧ _))

theorem Presentable.nanoseconds_eq {time : Int} (presentable : Presentable time) :
    nanoseconds time = time * 1000 := by
  obtain ⟨lower, upper⟩ := presentable
  rw [Int64.toInt_minValue] at lower
  rw [Int64.toInt_maxValue] at upper
  have word : Int64.size = 18446744073709551616 := rfl
  exact Int.bmod_eq_of_le (by omega) (by omega)

theorem Presentable.tdiv_nanoseconds {time : Int} (presentable : Presentable time) :
    (nanoseconds time).tdiv 1000 = time := by
  rw [presentable.nanoseconds_eq]
  exact Int.mul_tdiv_cancel time (by decide)

namespace TranscodePlan
variable {σ : Type}

def profile (plan : TranscodePlan) : Profile := plan.encoder.profile
def surfaceInput (plan : TranscodePlan) : Bool := plan.profile.usesSurfaceInput
def window (plan : TranscodePlan) : Window := plan.request.window
def timeout (plan : TranscodePlan) : Int := plan.settings.pollTimeout

/-- The time under which a frame reaches the encoder. A surface takes it in nanoseconds. -/
def stamped (plan : TranscodePlan) (time : Int) : Int :=
  if plan.surfaceInput then (nanoseconds time).tdiv 1000 else time

def Presents (plan : TranscodePlan) (time : Int) : Prop :=
  plan.surfaceInput = true → Presentable time

section
variable {plan : TranscodePlan}

theorem stamped_surface (surface : plan.surfaceInput = true) (time : Int) :
    plan.stamped time = (nanoseconds time).tdiv 1000 := if_pos surface

theorem stamped_raw (raw : plan.surfaceInput ≠ true) (time : Int) : plan.stamped time = time :=
  if_neg raw

theorem Presents.stamped_eq {time : Int} (presents : plan.Presents time) :
    plan.stamped time = time := by
  by_cases surface : plan.surfaceInput = true
  · rw [stamped_surface surface, (presents surface).tdiv_nanoseconds]
  · exact stamped_raw surface time

end

/-- The destination's format as far as it is known without the encoder. -/
def plainFormat (plan : TranscodePlan) : Format :=
  .video plan.settings.mime plan.request.width plan.request.height

def dequeueInput (plan : TranscodePlan) (side : Side) : Work σ (Option Nat) := do
  settle (retried none (← device (.dequeueInput side plan.timeout)))

def dequeueOutput (plan : TranscodePlan) (side : Side) : Work σ OutputStatus := do
  settle (retried .tryAgainLater (← device (.dequeueOutput side plan.timeout)))

def endFeeding (session : Standing) (slot : Nat) (content : Bytes) : Work σ Standing := do
  settle (← device (.queueInput .decoder slot content ⟨0, 0, 0, .endOfStream⟩))
  return { session with feeding := false, decoder := session.decoder.endInput }

def feed (plan : TranscodePlan) (session : Standing) : Work σ Standing := do
  match ← storage .currentTrack with
  | none =>
      match ← plan.dequeueInput .decoder with
      | none => return session
      | some slot => endFeeding session slot #[]
  | some index =>
      if index ≠ plan.track.index then
        let _ ← storage .advance
        return session
      match ← plan.dequeueInput .decoder with
      | none => return session
      | some slot =>
          let buffer ← settle (← device (.inputBuffer .decoder slot))
          match ← settle (← storage (.read buffer.size)) with
          | none => endFeeding session slot buffer
          | some data =>
              let time := (← storage .currentTime).getD 0
              settle (← device (.queueInput .decoder slot (overlay data buffer)
                ⟨data.size, 0, time, .none⟩))
              let _ ← storage .advance
              tell (.report time)
              return session

/-- Tells the encoder that no more frames will come. Without a free slot it has to be told later. -/
def signalEnd (plan : TranscodePlan) (session : Standing) : Work σ Standing := do
  let told := { session with endPending := false, encoder := session.encoder.endInput }
  if plan.surfaceInput then
    settle (← device .signalEnd)
    return told
  else
    match ← plan.dequeueInput .encoder with
    | none => return session
    | some slot =>
        settle (← device (.queueInput .encoder slot #[]
          ⟨0, 0, session.decodedTime, .endOfStream⟩))
        return told

def register (session : Standing) (format : Format) : Work σ Standing := do
  match session.destination with
  | some _ => return session
  | none =>
      let track ← settle (← storage (.addTrack format false))
      return { session with destination := some track }

/-- An encoded sample is written; a configuration buffer names the format of the destination. -/
def storeEncoded (plan : TranscodePlan) (session : Standing) (index : Nat) (info : SampleInfo) :
    Work σ Standing := do
  let buffer ← settle (← device (.encodedBuffer index))
  if info.flags.isCodecConfig then
    if session.destination.isSome then return session
    match info.slice? buffer with
    | none => fail (CodecError.missingBuffer "encoder" index)
    | some configuration =>
        register session <|
          match splitParameterSets configuration with
          | some (first, second) => plan.plainFormat.withParameterSets first second
          | none => plan.plainFormat
  else
    match session.destination with
    | none => fail (CodecError.other "encoder produced frames before its format")
    | some track =>
        if ← settle (← storage (.write track buffer info false)) then
          return { session with written := session.written + 1 }
        else return session

def drainEncoder (plan : TranscodePlan) (session : Standing) : Work σ Standing := do
  match ← plan.dequeueOutput .encoder with
  | .tryAgainLater => return { session with encoder := session.encoder.onTryAgain }
  | .buffersChanged => return { session with encoder := session.encoder.onOutput }
  | .formatChanged format =>
      let session ← register session format
      return { session with encoder := session.encoder.onOutput }
  | .buffer index info =>
      let session ← if 1 < info.size then plan.storeEncoded session index info else pure session
      settle (← device (.releaseOutput .encoder index false))
      return { session with encoder :=
        if info.flags.isEndOfStream then session.encoder.onEndOfStream
        else session.encoder.onOutput }

/-- Hands the drawn frame to the encoder; answers whether it was taken. -/
def submit (plan : TranscodePlan) (time : Int) : Work σ Bool := do
  if plan.surfaceInput then
    let frame ← settle (← device .drawImage)
    device (.presentAt (nanoseconds time))
    settle (← device (.swap frame))
    return true
  else
    match ← plan.dequeueInput .encoder with
    | none => return false
    | some slot =>
        let frame ← settle (← device .drawImage)
        let buffer ← settle (← device (.inputBuffer .encoder slot))
        let profile := plan.profile
        let (_, content) ← settle <| (convert frame.pixels buffer profile.colorFormat
          plan.request.width plan.request.height profile.bufferPadding profile.swapChroma).mapError
            Fault.toError
        settle (← device (.queueInput .encoder slot content ⟨profile.bufferSize, 0, time, .none⟩))
        return true

/-- A picture that is not delivered, or for which the encoder has no room, is dropped. -/
def renderFrame (plan : TranscodePlan) (session : Standing) (time : Int) : Work σ Standing := do
  let taken ← match ← device .awaitImage with
    | .error _ => pure false
    | .ok () => plan.submit time
  if taken then
    return { session with
      firstTime := session.firstTime.or (some time), rendered := session.rendered + 1 }
  else return { session with dropped := session.dropped + 1 }

/-- Whether a decoder's buffer holds a picture. Raw decoders may leave the size open. -/
def isPicture (plan : TranscodePlan) (info : SampleInfo) : Bool :=
  info.size != 0 || (!plan.surfaceInput && info.time != 0)

/-- A buffer at or past the end of the window ends the session's work as the decoder's last one
does. -/
def handleDecoded (plan : TranscodePlan) (session : Standing) (index : Nat) (info : SampleInfo) :
    Work σ Standing := do
  let ended := plan.window.hasEnded info.time
  let session :=
    { session with decodedTime := info.time, feeding := session.feeding && !ended }
  let render := plan.isPicture info && plan.window.admits info.time
  settle (← device (.releaseOutput .decoder index render))
  let session ← if render then plan.renderFrame session info.time else pure session
  if ended || info.flags.isEndOfStream then
    plan.signalEnd { session with decoder := session.decoder.onEndOfStream, endPending := true }
  else return { session with decoder := session.decoder.onOutput }

def drainDecoder (plan : TranscodePlan) (session : Standing) : Work σ Standing := do
  match ← plan.dequeueOutput .decoder with
  | .tryAgainLater => return { session with decoder := session.decoder.onTryAgain }
  | .buffersChanged | .formatChanged _ =>
      return { session with
        decoder := session.decoder.onOutput, encoder := session.encoder.rearm }
  | .buffer index info =>
      let session ← plan.handleDecoded session index info
      return { session with encoder := session.encoder.rearm }

/-- The start of a cycle, after which both codecs are worth a poll. -/
def beginCycle (plan : TranscodePlan) (session : Standing) : Work σ Standing := do
  checkCancelled
  let session ← if session.feeding then plan.feed session else pure session
  let session ← if session.endPending then plan.signalEnd session else pure session
  return { session with decoder := session.decoder.rearm, encoder := session.encoder.rearm }

def drive (plan : TranscodePlan) : Nat → Standing → Work σ Standing
  | 0, _ => throw .stalled
  | limit + 1, session => do
      match nextStep session.decoder.state session.encoder.state with
      | .finish => return session
      | .idle => plan.drive limit (← plan.beginCycle session)
      | .drainEncoder => plan.drive limit (← plan.drainEncoder session)
      | .drainDecoder => plan.drive limit (← plan.drainDecoder session)

/-- A codec that does not stop is released all the same. -/
def shutDown (side : Side) : Work σ Unit := do
  let _ ← device (.stop side)
  device (.release side)

def releaseSurface (plan : TranscodePlan) : Work σ Unit := do
  if plan.surfaceInput then device .releaseSurface

/-- Sets up the codecs and what lies between them; what is already there is released again if a
later part fails. -/
def openCodecs (plan : TranscodePlan) (input : Format) : Work σ Unit := do
  let request := plan.request
  settle (← device (.createEncoder plan.encoder.codec.name))
  undoing (shutDown .encoder) do
    settle (← device (.configure .encoder (encoderFormat plan.settings request plan.profile)))
    if plan.surfaceInput then settle (← device .createSurface)
    undoing plan.releaseSurface do
      settle (← device (.start .encoder))
      settle (← device (.createTransform
        ⟨request.width, request.height, request.rotation, plan.surfaceInput⟩))
      undoing (device .releaseTransform) do
        settle (← device (.createDecoder input.mime))
        undoing (shutDown .decoder) do
          settle (← device (.configure .decoder input))
          settle (← device (.start .decoder))

def closeCodecs (plan : TranscodePlan) : Work σ Unit := do
  device .releaseTransform
  plan.releaseSurface
  shutDown .decoder
  shutDown .encoder

/-- A stream without any output still gets its track. -/
def finish (plan : TranscodePlan) (session : Standing) : Work σ TranscodeOutcome := do
  let session ← register session plan.plainFormat
  return ⟨session.destination.getD 0, session.firstTime, session.rendered, session.dropped,
    session.written⟩

def runSelected (plan : TranscodePlan) : Work σ TranscodeOutcome := do
  settle (← storage (.seek plan.window.seekTarget .previousSync))
  let input ← settle (← storage (.trackFormat plan.track.index))
  plan.openCodecs input
  ensuring plan.closeCodecs do
    plan.finish (← plan.drive (← patience) {})

end TranscodePlan

/-- Codecs and transform are released and the track is unselected however the transcode ends. -/
def transcode {σ : Type} (plan : TranscodePlan) : Work σ TranscodeOutcome := do
  settle (← storage (.select plan.track.index))
  let result ← outcome plan.runSelected
  let _ ← storage (.unselect plan.track.index)
  settle result

end Recode.Session
