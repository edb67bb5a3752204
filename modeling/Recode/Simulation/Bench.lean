import Recode.Session.World
import Recode.Simulation.Catalog

/-!
The device side of a session, simulated: at most one decoder, one encoder with at most one input
surface, and one transform, into whose queue the decoder renders.
-/

namespace Recode.Simulation
open Recode.Media Recode.Device Recode.Picture Recode.Session

structure Bench where
  catalog : Catalog
  decoder : Option Decoder := none
  encoder : Option Encoder := none
  surface : Option Surface := none
  transform : Option Transform := none
  deriving DecidableEq, Repr, Inhabited

namespace Bench
variable {α : Type}

def withLog (bench : Bench) (log : Log) : Bench :=
  { bench with catalog := { bench.catalog with log } }

/-- Acts on the decoder and the log; without a decoder nothing changes. -/
def onDecoder (bench : Bench) (absent : α) (act : Decoder → Log → α × Decoder × Log) : α × Bench :=
  match bench.decoder with
  | some decoder =>
      let (answer, decoder, log) := act decoder bench.catalog.log
      (answer, { bench.withLog log with decoder := some decoder })
  | none => (absent, bench)

def onEncoder (bench : Bench) (absent : α) (act : Encoder → Log → α × Encoder × Log) : α × Bench :=
  match bench.encoder with
  | some encoder =>
      let (answer, encoder, log) := act encoder bench.catalog.log
      (answer, { bench.withLog log with encoder := some encoder })
  | none => (absent, bench)

/-- Acts on a codec of either side without any account of it. -/
def onCodec (bench : Bench) (side : Side) (absent : α) (decode : Decoder → α × Decoder)
    (encode : Encoder → α × Encoder) : α × Bench :=
  match side with
  | .decoder => bench.onDecoder absent fun decoder log =>
      let (answer, next) := decode decoder
      (answer, next, log)
  | .encoder => bench.onEncoder absent fun encoder log =>
      let (answer, next) := encode encoder
      (answer, next, log)

def missing : Except Error α := .error CodecError.notStarted

def createEncoder (bench : Bench) (name : String) : Except Error Unit × Bench :=
  match bench.catalog.createEncoder name with
  | (.ok encoder, catalog) => (.ok (), { bench with catalog, encoder := some encoder })
  | (.error error, catalog) => (.error error, { bench with catalog })

def createDecoder (bench : Bench) (mime : String) : Except Error Unit × Bench :=
  match bench.catalog.createDecoder mime with
  | (.ok decoder, catalog) => (.ok (), { bench with catalog, decoder := some decoder })
  | (.error error, catalog) => (.error error, { bench with catalog })

def configure (bench : Bench) (side : Side) (format : Format) : Except Error Unit × Bench :=
  match side with
  | .decoder => bench.onDecoder missing (·.configure format)
  | .encoder => bench.onEncoder missing (·.configure format)

def start (bench : Bench) (side : Side) : Except Error Unit × Bench :=
  bench.onCodec side missing (·.start) (·.start)

def stop (bench : Bench) (side : Side) : Except Error Unit × Bench :=
  bench.onCodec side missing (fun decoder => (.ok (), decoder.stop))
    (fun encoder => (.ok (), encoder.stop))

def release (bench : Bench) (side : Side) : Unit × Bench :=
  match side with
  | .decoder => bench.onDecoder () fun decoder log => ((), decoder.release log)
  | .encoder => bench.onEncoder () fun encoder log => ((), encoder.release log)

def dequeueInput (bench : Bench) (side : Side) : Except Error (Option Nat) × Bench :=
  bench.onCodec side missing (·.dequeueInput) (·.dequeueInput)

def inputBuffer (bench : Bench) (side : Side) (slot : Nat) : Except Error Bytes × Bench :=
  bench.onCodec side missing (fun decoder => (decoder.inputBuffer slot, decoder))
    (fun encoder => (encoder.inputBuffer slot, encoder))

def queueInput (bench : Bench) (side : Side) (slot : Nat) (written : Bytes) (info : SampleInfo) :
    Except Error Unit × Bench :=
  match side with
  | .decoder => bench.onDecoder missing (·.queueInput slot written info)
  | .encoder => bench.onEncoder missing (·.queueInput slot written info)

def dequeueOutput (bench : Bench) (side : Side) : Except Error OutputStatus × Bench :=
  bench.onCodec side missing (·.dequeueOutput) (·.dequeueOutput)

/-- A picture goes to the transform; where there is none, nobody sees it. -/
def render (bench : Bench) (image : Image) : Bench :=
  { bench with transform := bench.transform.map (·.enqueue image) }

def releaseOutput (bench : Bench) (side : Side) (index : Nat) (render : Bool) :
    Except Error Unit × Bench :=
  match side with
  | .encoder => bench.onEncoder missing fun encoder log =>
      let (answer, next) := encoder.releaseOutput index
      (answer, next, log)
  | .decoder =>
      let (answer, next) := bench.onDecoder missing fun decoder log =>
        let (answer, next) := decoder.releaseOutput index render
        (answer, next, log)
      match answer with
      | .ok (some image) => (.ok (), next.render image)
      | .ok none => (.ok (), next)
      | .error error => (.error error, next)

def encodedBuffer (bench : Bench) (index : Nat) : Except Error Bytes × Bench :=
  bench.onEncoder missing fun encoder log => (encoder.outputBuffer index, encoder, log)

def signalEnd (bench : Bench) : Except Error Unit × Bench :=
  bench.onEncoder missing (·.signalEnd)

def createSurface (bench : Bench) : Except Error Unit × Bench :=
  let (answer, next) := bench.onEncoder missing fun encoder log =>
    let (answer, next) := encoder.createSurface
    (answer, next, log)
  match answer with
  | .ok surface => (.ok (), { next with surface := some surface })
  | .error error => (.error error, next)

def presentAt (bench : Bench) (nanoseconds : Int) : Unit × Bench :=
  ((), { bench with surface := bench.surface.map (·.presentAt nanoseconds) })

def swap (bench : Bench) (frame : Frame) : Except Error Unit × Bench :=
  match bench.surface with
  | some surface => bench.onEncoder missing fun encoder log => surface.swap encoder frame log
  | none => (missing, bench)

def releaseSurface (bench : Bench) : Unit × Bench :=
  match bench.surface with
  | some surface =>
      let (surface, log) := surface.release bench.catalog.log
      ((), { bench.withLog log with surface := some surface })
  | none => ((), bench)

/-- Pictures are never waited for: a decoder renders when its buffer is released. -/
def createTransform (bench : Bench) (spec : TransformSpec) : Except Error Unit × Bench :=
  match Transform.create spec 0 with
  | .ok transform => (.ok (), { bench with transform := some transform })
  | .error error => (.error error, bench)

def awaitImage (bench : Bench) : Except Error Unit × Bench :=
  match bench.transform with
  | some transform =>
      let (answer, transform) := transform.await
      (answer, { bench with transform := some transform })
  | none => (missing, bench)

def drawImage (bench : Bench) : Except Error Frame × Bench :=
  match bench.transform with
  | some transform => (transform.drawLatched, bench)
  | none => (missing, bench)

def releaseTransform (bench : Bench) : Unit × Bench :=
  ((), { bench with transform := bench.transform.map (·.release) })

def answer : (call : DeviceCall) → Bench → call.Reply × Bench
  | .codecs, bench => (bench.catalog.codecs, bench)
  | .createEncoder name, bench => bench.createEncoder name
  | .createDecoder mime, bench => bench.createDecoder mime
  | .configure side format, bench => bench.configure side format
  | .start side, bench => bench.start side
  | .stop side, bench => bench.stop side
  | .release side, bench => bench.release side
  | .dequeueInput side _, bench => bench.dequeueInput side
  | .inputBuffer side slot, bench => bench.inputBuffer side slot
  | .queueInput side slot written info, bench => bench.queueInput side slot written info
  | .dequeueOutput side _, bench => bench.dequeueOutput side
  | .releaseOutput side index render, bench => bench.releaseOutput side index render
  | .encodedBuffer index, bench => bench.encodedBuffer index
  | .signalEnd, bench => bench.signalEnd
  | .createSurface, bench => bench.createSurface
  | .presentAt nanoseconds, bench => bench.presentAt nanoseconds
  | .swap frame, bench => bench.swap frame
  | .releaseSurface, bench => bench.releaseSurface
  | .createTransform spec, bench => bench.createTransform spec
  | .awaitImage, bench => bench.awaitImage
  | .drawImage, bench => bench.drawImage
  | .releaseTransform, bench => bench.releaseTransform

end Bench

end Recode.Simulation
