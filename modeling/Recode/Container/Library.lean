import Recode.Container.Path
import Recode.Container.Demuxer
import Recode.Container.Muxer

/-!
Containers by path: the sources that can be opened, every demuxer opened on one, and every muxer
created. The newest come first, so a later registration or movie hides an earlier one of its path.
-/

namespace Recode.Container

structure Library where
  sources : List (Path × Source) := []
  leaks : Bool := false
  faults : MuxerFaults := {}
  demuxers : List Demuxer := []
  muxers : List (Path × Muxer) := []
  deriving DecidableEq, Repr, Inhabited

namespace Library

def insert (library : Library) (path : Path) (source : Source) : Library :=
  { library with sources := (path, source) :: library.sources }

def source? (library : Library) (path : Path) : Option Source :=
  (library.sources.find? (·.1.same path)).map (·.2)

def openSource (library : Library) (path : Path) : Except Error Unit × Library :=
  match library.source? path with
  | some source =>
      (.ok (), { library with demuxers := { source, leaks := library.leaks } :: library.demuxers })
  | none => (.error (.unreadableSource s!"no source at {path}"), library)

def createMovie (library : Library) (path : Path) (settings : MovieSettings) : Library :=
  { library with muxers := (path, Muxer.new settings library.faults) :: library.muxers }

/-- The movie last begun under the path. -/
def movie? (library : Library) (path : Path) : Option Movie :=
  (library.muxers.find? (·.1.same path)).map (·.2.movie)

def opened (library : Library) : Nat := library.demuxers.length

def released (library : Library) : Nat := library.demuxers.countP (·.released)

def onDemuxer {α : Type} (library : Library) (absent : α) (act : Demuxer → α × Demuxer) :
    α × Library :=
  match library.demuxers with
  | newest :: older =>
      let (answer, next) := act newest
      (answer, { library with demuxers := next :: older })
  | [] => (absent, library)

def onMuxer {α : Type} (library : Library) (absent : α) (act : Muxer → α × Muxer) : α × Library :=
  match library.muxers with
  | (path, newest) :: older =>
      let (answer, next) := act newest
      (answer, { library with muxers := (path, next) :: older })
  | [] => (absent, library)

/-- Where the container with the given number stands; they are numbered from the oldest. -/
def place (count number : Nat) : Nat := count - 1 - number

def onDemuxerAt {α : Type} (library : Library) (number : Nat) (absent : α)
    (act : Demuxer → α × Demuxer) : α × Library :=
  let place := place library.opened number
  match library.demuxers[place]? with
  | some demuxer =>
      let (answer, next) := act demuxer
      (answer, { library with demuxers := library.demuxers.set place next })
  | none => (absent, library)

def onMuxerAt {α : Type} (library : Library) (number : Nat) (absent : α)
    (act : Muxer → α × Muxer) : α × Library :=
  let place := place library.muxers.length number
  match library.muxers[place]? with
  | some (path, muxer) =>
      let (answer, next) := act muxer
      (answer, { library with muxers := library.muxers.set place (path, next) })
  | none => (absent, library)

end Library

end Recode.Container
