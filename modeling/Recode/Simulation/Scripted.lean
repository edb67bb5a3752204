import Recode.Session.World

/-!
The device side of a session, acting out a script: for each codec the answers to its polls, in
order, and the calls that fail. Pictures go through a real transform, which is never waited for.
-/

namespace Recode.Simulation
open Recode.Media Recode.Device Recode.Picture Recode.Session

structure ScriptedBuffer where
  index : Nat
  info : SampleInfo
  data : Option Bytes := none
  image : Option Image := none
  deriving DecidableEq, Repr, Inhabited

inductive ScriptedInput where
  | slot (slot : Option Nat)
  | error (error : Error)
  deriving DecidableEq, Repr, Inhabited

inductive ScriptedOutput where
  | status (status : OutputStatus)
  | buffer (buffer : ScriptedBuffer)
  | error (error : Error)
  deriving DecidableEq, Repr, Inhabited

structure CodecScript where
  createError : Option Error := none
  configureError : Option Error := none
  surfaceError : Option Error := none
  startError : Option Error := none
  stopError : Option Error := none
  endError : Option Error := none
  inputBufferError : Option Error := none
  queueError : Option Error := none
  releaseError : Option Error := none
  swapError : Option Error := none
  inputs : List ScriptedInput := []
  outputs : List ScriptedOutput := []
  deriving DecidableEq, Repr, Inhabited

structure GraphicsScript where
  createError : Option Error := none
  drawError : Option Error := none
  /-- Why a rendered picture cannot be queued. -/
  targetError : Option Error := none
  deriving DecidableEq, Repr, Inhabited

structure ScriptedCodec where
  /-- The script as far as it has not been acted out yet. -/
  script : CodecScript
  /-- The one input buffer, which all slots share. -/
  content : Bytes
  /-- The buffers put out so far, the latest first. -/
  seen : List ScriptedBuffer := []
  configured : Bool := false
  deriving DecidableEq, Repr, Inhabited

namespace ScriptedCodec

def new (script : CodecScript) (capacity : Nat) : ScriptedCodec :=
  { script, content := Array.replicate capacity 0 }

def latest? (codec : ScriptedCodec) (index : Nat) : Option ScriptedBuffer :=
  codec.seen.find? (·.index = index)

/-- When the script is used up, the first slot is always free. -/
def dequeueInput (codec : ScriptedCodec) : Except Error (Option Nat) × ScriptedCodec :=
  match codec.script.inputs with
  | input :: inputs =>
      let codec := { codec with script := { codec.script with inputs } }
      match input with
      | .slot slot => (.ok slot, codec)
      | .error error => (.error error, codec)
  | [] => (.ok (some 0), codec)

def dequeueOutput (codec : ScriptedCodec) (side : Side) :
    Except Error OutputStatus × ScriptedCodec :=
  match codec.script.outputs with
  | output :: outputs =>
      let codec := { codec with script := { codec.script with outputs } }
      match output with
      | .status status => (.ok status, codec)
      | .buffer buffer =>
          (.ok (.buffer buffer.index buffer.info), { codec with seen := buffer :: codec.seen })
      | .error error => (.error error, codec)
  | [] => (.error (CodecError.other (side.name ++ " script exhausted")), codec)

def queueInput (codec : ScriptedCodec) (written : Bytes) : ScriptedCodec :=
  { codec with content := overlay written codec.content }

def encodedBuffer (codec : ScriptedCodec) (index : Nat) : Except Error Bytes :=
  match (codec.latest? index).bind (·.data) with
  | some data => .ok data
  | none => .error (CodecError.missingBuffer "encoder" index)

end ScriptedCodec

def unlessTold : Option Error → Except Error Unit
  | some error => .error error
  | none => .ok ()

structure ScriptedBench where
  decoder : ScriptedCodec
  encoder : ScriptedCodec
  graphics : GraphicsScript := {}
  transform : Option Transform := none
  deriving DecidableEq, Repr, Inhabited

namespace ScriptedBench

def codec (bench : ScriptedBench) : Side → ScriptedCodec
  | .decoder => bench.decoder
  | .encoder => bench.encoder

def withCodec (bench : ScriptedBench) (side : Side) (codec : ScriptedCodec) : ScriptedBench :=
  match side with
  | .decoder => { bench with decoder := codec }
  | .encoder => { bench with encoder := codec }

def script (bench : ScriptedBench) (side : Side) : CodecScript := (bench.codec side).script

def picture? (bench : ScriptedBench) (side : Side) (index : Nat) (render : Bool) : Option Image :=
  if side = .decoder ∧ render ∧ bench.decoder.configured then
    (bench.decoder.latest? index).bind (·.image)
  else none

def releaseOutput (bench : ScriptedBench) (side : Side) (index : Nat) (render : Bool) :
    Except Error Unit × ScriptedBench :=
  match (bench.script side).releaseError with
  | some error => (.error error, bench)
  | none =>
      match bench.picture? side index render with
      | none => (.ok (), bench)
      | some image =>
          match bench.graphics.targetError with
          | some error => (.error error, bench)
          | none => (.ok (), { bench with transform := bench.transform.map (·.enqueue image) })

def createTransform (bench : ScriptedBench) (spec : TransformSpec) :
    Except Error Unit × ScriptedBench :=
  match bench.graphics.createError with
  | some error => (.error error, bench)
  | none =>
      match Transform.create spec 0 with
      | .ok transform => (.ok (), { bench with transform := some transform })
      | .error error => (.error error, bench)

def awaitImage (bench : ScriptedBench) : Except Error Unit × ScriptedBench :=
  match bench.transform with
  | some transform =>
      let (answer, transform) := transform.await
      (answer, { bench with transform := some transform })
  | none => (.error CodecError.notStarted, bench)

def drawImage (bench : ScriptedBench) : Except Error Frame :=
  match bench.graphics.drawError, bench.transform with
  | some error, _ => .error error
  | none, some transform => transform.drawLatched
  | none, none => .error CodecError.notStarted

def answer : (call : DeviceCall) → ScriptedBench → call.Reply × ScriptedBench
  | .codecs, bench => ([], bench)
  | .createEncoder _, bench => (unlessTold bench.encoder.script.createError, bench)
  | .createDecoder _, bench => (unlessTold bench.decoder.script.createError, bench)
  | .configure side _, bench =>
      match (bench.script side).configureError with
      | some error => (.error error, bench)
      | none => (.ok (), bench.withCodec side { bench.codec side with configured := true })
  | .start side, bench => (unlessTold (bench.script side).startError, bench)
  | .stop side, bench => (unlessTold (bench.script side).stopError, bench)
  | .release _, bench => ((), bench)
  | .dequeueInput side _, bench =>
      let (answer, codec) := (bench.codec side).dequeueInput
      (answer, bench.withCodec side codec)
  | .inputBuffer side _, bench =>
      match (bench.script side).inputBufferError with
      | some error => (.error error, bench)
      | none => (.ok (bench.codec side).content, bench)
  | .queueInput side _ content _, bench =>
      (unlessTold (bench.script side).queueError,
        bench.withCodec side ((bench.codec side).queueInput content))
  | .dequeueOutput side _, bench =>
      let (answer, codec) := (bench.codec side).dequeueOutput side
      (answer, bench.withCodec side codec)
  | .releaseOutput side index render, bench => bench.releaseOutput side index render
  | .encodedBuffer index, bench => (bench.encoder.encodedBuffer index, bench)
  | .signalEnd, bench => (unlessTold bench.encoder.script.endError, bench)
  | .createSurface, bench => (unlessTold bench.encoder.script.surfaceError, bench)
  | .presentAt _, bench => ((), bench)
  | .swap _, bench => (unlessTold bench.encoder.script.swapError, bench)
  | .releaseSurface, bench => ((), bench)
  | .createTransform spec, bench => bench.createTransform spec
  | .awaitImage, bench => bench.awaitImage
  | .drawImage, bench => (bench.drawImage, bench)
  | .releaseTransform, bench =>
      ((), { bench with transform := bench.transform.map (·.release) })

/-- Every cycle polls the encoder, whose script ends. -/
def patience (bench : ScriptedBench) : Nat := 4 * (bench.encoder.script.outputs.length + 4)

end ScriptedBench

end Recode.Simulation
