import Recode.Container.Demuxer
import Recode.Container.Muxer
import Recode.Container.Path
import Recode.Device.Codec
import Recode.Picture.Transform
import Recode.Progress.Reporter

/-!
What a compression asks of the world around it, and how it goes on with the answers.

Every interaction is a `Call` with a `Reply` of its type. A `World` answers calls from a state of
its own, in whatever way it likes, so a statement about all worlds is a statement about all possible
containers, codecs and listeners. `Work` is a computation that makes calls.
-/

namespace Recode.Session
open Recode.Media Recode.Container Recode.Device Recode.Picture Recode.Progress

/-- Containers: opening and creating them, and what is asked of the demuxer opened last and of the
muxer created last. -/
inductive StorageCall where
  | openSource (path : Path)
  | createMovie (path : Path) (settings : MovieSettings)
  | trackCount
  | trackFormat (index : Nat)
  | select (index : Nat)
  | unselect (index : Nat)
  | seek (time : Int) (mode : SeekMode)
  | currentTrack
  | currentTime
  | currentFlags
  | read (room : Nat)
  | advance
  | releaseDemuxer
  | addTrack (format : Format) (isAudio : Bool)
  | write (track : Nat) (buffer : Bytes) (info : SampleInfo) (isAudio : Bool)
  | finalize
  deriving DecidableEq, Repr

@[reducible] def StorageCall.Reply : StorageCall → Type
  | .openSource _ | .createMovie _ _ | .select _ | .unselect _ | .seek _ _ | .finalize =>
      Except Error Unit
  | .trackCount => Nat
  | .trackFormat _ => Except Error Format
  | .currentTrack => Option Nat
  | .currentTime => Option Int
  | .currentFlags => Flags
  | .read _ => Except Error (Option Bytes)
  | .advance => Bool
  | .releaseDemuxer => Unit
  | .addTrack _ _ => Except Error Nat
  | .write _ _ _ _ => Except Error Bool

inductive Side where
  | decoder
  | encoder
  deriving DecidableEq, Repr, Inhabited

def Side.name : Side → String
  | .decoder => "decoder"
  | .encoder => "encoder"

/-- Codecs, the encoder's input surface, and the transform between the codecs. A buffer is lent out
with its content and queued back with what has become of it. -/
inductive DeviceCall where
  | codecs
  | createEncoder (name : String)
  | createDecoder (mime : String)
  | configure (side : Side) (format : Format)
  | start (side : Side)
  | stop (side : Side)
  | release (side : Side)
  | dequeueInput (side : Side) (timeout : Int)
  | inputBuffer (side : Side) (slot : Nat)
  | queueInput (side : Side) (slot : Nat) (content : Bytes) (info : SampleInfo)
  | dequeueOutput (side : Side) (timeout : Int)
  | releaseOutput (side : Side) (index : Nat) (render : Bool)
  | encodedBuffer (index : Nat)
  | signalEnd
  | createSurface
  | presentAt (nanoseconds : Int)
  | swap (frame : Frame)
  | releaseSurface
  | createTransform (spec : TransformSpec)
  | awaitImage
  | drawImage
  | releaseTransform
  deriving DecidableEq, Repr

@[reducible] def DeviceCall.Reply : DeviceCall → Type
  | .codecs => List CodecInfo
  | .createEncoder _ | .createDecoder _ | .configure _ _ | .start _ | .stop _
  | .queueInput _ _ _ _ | .releaseOutput _ _ _ | .signalEnd | .createSurface | .swap _
  | .createTransform _ | .awaitImage => Except Error Unit
  | .release _ | .presentAt _ | .releaseSurface | .releaseTransform => Unit
  | .dequeueInput _ _ => Except Error (Option Nat)
  | .inputBuffer _ _ | .encodedBuffer _ => Except Error Bytes
  | .dequeueOutput _ _ => Except Error OutputStatus
  | .drawImage => Except Error Frame

/-- What a collaborator that breaks down leaves behind. -/
inductive Panic where
  | saying (text : String)
  | wordless
  deriving DecidableEq, Repr, Inhabited

/-- Whoever ordered the compression: the listener to its events, the holder of its cancellation
token, and the files on disk. -/
inductive ClientCall where
  | deliver (event : Event)
  | isCancelled
  | openFile (path : Path)
  | removeFile (path : Path)
  deriving DecidableEq, Repr

@[reducible] def ClientCall.Reply : ClientCall → Type
  | .deliver _ => Except Panic Unit
  | .isCancelled => Bool
  /- A failure is told in the words of the operating system. -/
  | .openFile _ => Except String Unit
  | .removeFile _ => Bool

inductive Call where
  | storage (call : StorageCall)
  | device (call : DeviceCall)
  | client (call : ClientCall)
  deriving DecidableEq, Repr

@[reducible] def Call.Reply : Call → Type
  | .storage call => call.Reply
  | .device call => call.Reply
  | .client call => call.Reply

structure World (σ : Type) where
  answer : (call : Call) → σ → call.Reply × σ
  /-- How many rounds one loop may take before it counts as stalled. -/
  patience : Nat

abbrev Exchange : Type := (call : Call) × call.Reply

def World.recorded {σ : Type} (world : World σ) : World (List Exchange × σ) where
  answer call state :=
    let (reply, next) := world.answer call state.2
    (reply, (⟨call, reply⟩ :: state.1, next))
  patience := world.patience

/-- Why a computation ends without its result. -/
inductive Stop where
  | failed (error : Error)
  | panicked (panic : Panic)
  | stalled
  deriving DecidableEq, Repr, Inhabited

/-- What changes while a computation goes on: the reporter, whether a terminal event has been handed
to the listener, and the world outside. -/
structure Desk (σ : Type) where
  reporter : Option Reporter := none
  announced : Bool := false
  outside : σ

abbrev Work (σ : Type) := ReaderT (World σ) (ExceptT Stop (StateM (Desk σ)))

namespace Work
variable {σ α : Type}

def run (work : Work σ α) (world : World σ) (desk : Desk σ) : Except Stop α × Desk σ :=
  ReaderT.run work world |>.run.run desk

def ask (call : Call) : Work σ call.Reply := fun world desk =>
  let (reply, outside) := world.answer call desk.outside
  (.ok reply, { desk with outside })

def storage (call : StorageCall) : Work σ call.Reply := ask (.storage call)
def device (call : DeviceCall) : Work σ call.Reply := ask (.device call)
def client (call : ClientCall) : Work σ call.Reply := ask (.client call)

def fail (error : Error) : Work σ α := throw (.failed error)

def settle : Except Error α → Work σ α
  | .ok value => pure value
  | .error error => fail error

/-- The result or the error of a computation; panics and stalls pass. -/
def outcome (work : Work σ α) : Work σ (Except Error α) := fun world desk =>
  match work.run world desk with
  | (.ok value, desk) => (.ok (.ok value), desk)
  | (.error (.failed error), desk) => (.ok (.error error), desk)
  | (.error stop, desk) => (.error stop, desk)

def ensuring (cleanup : Work σ Unit) (work : Work σ α) : Work σ α := fun world desk =>
  let (result, desk) := work.run world desk
  let (_, desk) := cleanup.run world desk
  (result, desk)

/-- Runs `cleanup` after `work` only if it did not reach its result. -/
def undoing (cleanup : Work σ Unit) (work : Work σ α) : Work σ α := fun world desk =>
  match work.run world desk with
  | (.ok value, desk) => (.ok value, desk)
  | (.error stop, desk) =>
      let (_, desk) := cleanup.run world desk
      (.error stop, desk)

def patience : Work σ Nat := fun world desk => (.ok world.patience, desk)

def deliver (event : Event) : Work σ Unit := do
  modify fun desk => { desk with announced := desk.announced || event.isTerminal }
  match ← client (.deliver event) with
  | .ok () => pure ()
  | .error panic => throw (.panicked panic)

/-- Passes a request to the reporter and delivers what comes of it; without a reporter nothing is
told. -/
def tell (request : Request) : Work σ Unit := do
  match (← get).reporter with
  | some reporter =>
      let (events, reporter) := reporter.serve request
      modify fun desk => { desk with reporter := some reporter }
      events.forM deliver
  | none => pure ()

def checkCancelled : Work σ Unit := do
  if ← client .isCancelled then fail .cancelled

@[simp] theorem run_pure (value : α) (world : World σ) (desk : Desk σ) :
    (pure value : Work σ α).run world desk = (.ok value, desk) := rfl

@[simp] theorem run_fail (error : Error) (world : World σ) (desk : Desk σ) :
    (fail error : Work σ α).run world desk = (.error (.failed error), desk) := rfl

@[simp] theorem run_ask (call : Call) (world : World σ) (desk : Desk σ) :
    (ask call).run world desk =
      (.ok (world.answer call desk.outside).1,
        { desk with outside := (world.answer call desk.outside).2 }) := rfl

theorem run_bind {β : Type} (first : Work σ α) (next : α → Work σ β) (world : World σ)
    (desk : Desk σ) :
    (first >>= next).run world desk =
      match first.run world desk with
      | (.ok value, left) => (next value).run world left
      | (.error stop, left) => (.error stop, left) := by
  show (ReaderT.run (first >>= next) world |>.run.run desk) = _
  simp only [ReaderT.run_bind, ExceptT.run_bind, StateT.run_bind]
  rcases found : first.run world desk with ⟨result, left⟩
  have same : (ReaderT.run first world).run.run desk = (result, left) := found
  cases result with
  | ok value => simp only [bind, same]; rfl
  | error stop => simp only [bind, same]; rfl

theorem ite_bind {β : Type} (condition : Prop) [Decidable condition] (first second : Work σ α)
    (next : α → Work σ β) :
    (if condition then first >>= next else second >>= next) =
      (if condition then first else second) >>= next := by
  split <;> rfl

theorem ite_settle (condition : Prop) [Decidable condition] (asked : Work σ (Except Error Unit))
    (next : Unit → Work σ α) :
    (if condition then asked >>= fun answer => settle answer >>= next else next ()) =
      (if condition then asked >>= settle else pure ()) >>= next := by
  split
  · exact (bind_assoc asked settle next).symm
  · rfl

@[simp] theorem run_settle_ok (value : α) (world : World σ) (desk : Desk σ) :
    (settle (.ok value) : Work σ α).run world desk = (.ok value, desk) := rfl

@[simp] theorem run_settle_error (error : Error) (world : World σ) (desk : Desk σ) :
    (settle (.error error) : Work σ α).run world desk = (.error (.failed error), desk) := rfl

@[simp] theorem run_patience (world : World σ) (desk : Desk σ) :
    (patience : Work σ Nat).run world desk = (.ok world.patience, desk) := rfl

theorem run_outcome (work : Work σ α) (world : World σ) (desk : Desk σ) :
    (outcome work).run world desk =
      match work.run world desk with
      | (.ok value, left) => (.ok (.ok value), left)
      | (.error (.failed error), left) => (.ok (.error error), left)
      | (.error stop, left) => (.error stop, left) := rfl

theorem run_ensuring (cleanup : Work σ Unit) (work : Work σ α) (world : World σ) (desk : Desk σ) :
    (ensuring cleanup work).run world desk =
      ((work.run world desk).1, (cleanup.run world (work.run world desk).2).2) := rfl

theorem run_undoing (cleanup : Work σ Unit) (work : Work σ α) (world : World σ) (desk : Desk σ) :
    (undoing cleanup work).run world desk =
      match work.run world desk with
      | (.ok value, left) => (.ok value, left)
      | (.error stop, left) => (.error stop, (cleanup.run world left).2) := rfl

end Work

end Recode.Session
