import Recode.Container.Library
import Recode.Session.World

/-!
The storage side of a session, simulated: a library of containers whose demuxers and muxers can be
told to fail at a certain call. A call that fails in this way does not reach the container.
-/

namespace Recode.Simulation
open Recode.Media Recode.Container Recode.Session

/-- What happens at one call, and which call that is, counted from zero. -/
abbrev Cue (α : Type) := Option (Nat × α)

def Cue.on? {α : Type} (cue : Cue α) (count : Nat) : Option α :=
  match cue with
  | some (place, value) => if place = count then some value else none
  | none => none

structure DemuxerScript where
  selectError : Option Error := none
  unselectError : Option Error := none
  seekError : Option Error := none
  formatError : Option Error := none
  readError : Cue Error := none
  /-- The read that finds the end of the stream. -/
  readNone : Cue Unit := none
  deriving DecidableEq, Repr, Inhabited

structure MuxerScript where
  addError : Cue Error := none
  writeError : Cue Error := none
  /-- The write that stores nothing. -/
  writeFalse : Cue Unit := none
  finalizeError : Option Error := none
  deriving DecidableEq, Repr, Inhabited

structure StorageScript where
  /-- Counts the demuxers opened before. -/
  openError : Cue Error := none
  createError : Option Error := none
  demuxer : DemuxerScript := {}
  muxer : MuxerScript := {}
  deriving DecidableEq, Repr, Inhabited

structure Storage where
  library : Library
  script : StorageScript := {}
  /-- Reads from the demuxer opened last. -/
  reads : Nat := 0
  /-- Tracks asked of the muxer created last. -/
  adds : Nat := 0
  /-- Writes to the muxer created last. -/
  writes : Nat := 0
  deriving DecidableEq, Repr, Inhabited

namespace Storage
variable {α : Type}

def missing : Except Error α := .error (ContainerError.other "no container is open")

def onDemuxer (storage : Storage) (absent : α) (act : Demuxer → α × Demuxer) : α × Storage :=
  let (answer, library) := storage.library.onDemuxer absent act
  (answer, { storage with library })

def onMuxer (storage : Storage) (absent : α) (act : Muxer → α × Muxer) : α × Storage :=
  let (answer, library) := storage.library.onMuxer absent act
  (answer, { storage with library })

def view (storage : Storage) (absent : α) (look : Demuxer → α) : α × Storage :=
  storage.onDemuxer absent fun demuxer => (look demuxer, demuxer)

def barring (storage : Storage) (error? : Option Error) (act : Except Error α × Storage) :
    Except Error α × Storage :=
  match error? with
  | some error => (.error error, storage)
  | none => act

def openSource (storage : Storage) (path : Path) : Except Error Unit × Storage :=
  storage.barring (storage.script.openError.on? storage.library.opened) <|
    match storage.library.openSource path with
    | (.ok (), library) => (.ok (), { storage with library, reads := 0 })
    | (.error error, library) => (.error error, { storage with library })

def createMovie (storage : Storage) (path : Path) (settings : MovieSettings) :
    Except Error Unit × Storage :=
  storage.barring storage.script.createError
    (.ok (), { storage with
      library := storage.library.createMovie path settings, adds := 0, writes := 0 })

def read (storage : Storage) (room : Nat) : Except Error (Option Bytes) × Storage :=
  let count := storage.reads
  let storage := { storage with reads := count + 1 }
  storage.barring (storage.script.demuxer.readError.on? count) <|
    match storage.script.demuxer.readNone.on? count with
    | some () => (.ok none, storage)
    | none => storage.view missing (·.read room)

def addTrack (storage : Storage) (format : Format) (isAudio : Bool) :
    Except Error Nat × Storage :=
  let count := storage.adds
  let storage := { storage with adds := count + 1 }
  storage.barring (storage.script.muxer.addError.on? count) <|
    storage.onMuxer missing (·.addTrack format isAudio)

def write (storage : Storage) (track : Nat) (buffer : Bytes) (info : SampleInfo)
    (isAudio : Bool) : Except Error Bool × Storage :=
  let count := storage.writes
  let storage := { storage with writes := count + 1 }
  storage.barring (storage.script.muxer.writeError.on? count) <|
    match storage.script.muxer.writeFalse.on? count with
    | some () => (.ok false, storage)
    | none => storage.onMuxer missing (·.write track buffer info isAudio)

def answer : (call : StorageCall) → Storage → call.Reply × Storage
  | .openSource path, storage => storage.openSource path
  | .createMovie path settings, storage => storage.createMovie path settings
  | .trackCount, storage => storage.view 0 (·.trackCount)
  | .trackFormat index, storage =>
      storage.barring storage.script.demuxer.formatError
        (storage.view missing (·.trackFormat index))
  | .select index, storage =>
      storage.barring storage.script.demuxer.selectError
        (storage.onDemuxer missing (·.select index))
  | .unselect index, storage =>
      storage.barring storage.script.demuxer.unselectError
        (storage.onDemuxer missing (·.unselect index))
  | .seek time mode, storage =>
      storage.barring storage.script.demuxer.seekError
        (storage.onDemuxer missing fun demuxer => (.ok (), demuxer.seek time mode))
  | .currentTrack, storage => storage.view none (·.currentTrack?)
  | .currentTime, storage => storage.view none (·.currentTime?)
  | .currentFlags, storage => storage.view .none (·.currentFlags)
  | .read room, storage => storage.read room
  | .advance, storage => storage.onDemuxer false (·.advance)
  | .releaseDemuxer, storage => storage.onDemuxer () fun demuxer => ((), demuxer.release)
  | .addTrack format isAudio, storage => storage.addTrack format isAudio
  | .write track buffer info isAudio, storage => storage.write track buffer info isAudio
  | .finalize, storage =>
      storage.barring storage.script.muxer.finalizeError (storage.onMuxer missing (·.finalize))

end Storage

end Recode.Simulation
