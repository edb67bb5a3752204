import Recode.Container.Source

/-!
Reading a source through a cursor. At most one track is selected at a time, and only its samples
are met, unless the demuxer leaks the samples of the other tracks between them.

An operation that can fail answers the failure beside the demuxer, which it then leaves as it was.
-/

namespace Recode.Container
open Recode.Media

/-- How a seek chooses among the samples at which decoding can start. -/
inductive SeekMode where
  | previousSync
  | nextSync
  | closestSync
  deriving DecidableEq, Repr, Inhabited

structure Demuxer where
  source : Source
  leaks : Bool := false
  selected : Option Nat := none
  cursor : Nat := 0
  released : Bool := false
  deriving DecidableEq, Repr, Inhabited

namespace Demuxer

def trackCount (demuxer : Demuxer) : Nat := demuxer.source.tracks.length

def trackFormat (demuxer : Demuxer) (index : Nat) : Except Error Format :=
  match demuxer.source.tracks[index]? with
  | some format => .ok format
  | none => .error (ContainerError.trackNotFound index)

def findTrack? (demuxer : Demuxer) (isAudio : Bool) : Option Nat :=
  demuxer.source.tracks.findIdx? (·.isKind isAudio)

def isVisible (demuxer : Demuxer) (sample : Sample) : Bool :=
  match demuxer.selected with
  | some track => demuxer.leaks || sample.track == track
  | none => false

def skipHidden (demuxer : Demuxer) : Demuxer :=
  let hidden := (demuxer.source.samples.drop demuxer.cursor).takeWhile (!demuxer.isVisible ·)
  { demuxer with cursor := demuxer.cursor + hidden.length }

def current? (demuxer : Demuxer) : Option Sample :=
  if demuxer.released then none
  else demuxer.source.samples[demuxer.cursor]?.filter demuxer.isVisible

def currentTrack? (demuxer : Demuxer) : Option Nat := demuxer.current?.map (·.track)
def currentTime? (demuxer : Demuxer) : Option Int := demuxer.current?.map (·.time)
def currentFlags (demuxer : Demuxer) : Flags := (demuxer.current?.map (·.flags)).getD Flags.none

def select (demuxer : Demuxer) (index : Nat) : Except Error Unit × Demuxer :=
  if index < demuxer.trackCount then
    match demuxer.selected with
    | some active =>
        if active = index then (.ok (), demuxer.skipHidden)
        else (.error (ContainerError.trackAlreadySelected active index), demuxer)
    | none => (.ok (), { demuxer with selected := some index }.skipHidden)
  else (.error (ContainerError.trackNotFound index), demuxer)

def unselect (demuxer : Demuxer) (index : Nat) : Except Error Unit × Demuxer :=
  if index < demuxer.trackCount then
    (.ok (), if demuxer.selected = some index then { demuxer with selected := none } else demuxer)
  else (.error (ContainerError.trackNotFound index), demuxer)

/-- The places at which decoding of the track can start: its key frames, or all of its samples if it
has none. -/
def syncPoints (source : Source) (track : Nat) : List (Sample × Nat) :=
  let own := source.samples.zipIdx.filter (·.1.track = track)
  if own.any (·.1.flags.isKeyFrame) then own.filter (·.1.flags.isKeyFrame) else own

/-- The first of the points that are nearest to `time`. -/
def nearest? (time : Int) : List (Sample × Nat) → Option (Sample × Nat)
  | [] => none
  | point :: rest =>
      match nearest? time rest with
      | some later =>
          if (later.1.time - time).natAbs < (point.1.time - time).natAbs then some later
          else some point
      | none => some point

def syncPoint? (points : List (Sample × Nat)) (time : Int) : SeekMode → Option (Sample × Nat)
  | .previousSync => (points.reverse.find? (·.1.time ≤ time)).or points.head?
  | .nextSync => points.find? (time ≤ ·.1.time)
  | .closestSync => nearest? time points

/-- Where no sync point answers the call, the cursor goes to the end; without a selected track it
goes back to the start. -/
def seek (demuxer : Demuxer) (time : Int) (mode : SeekMode) : Demuxer :=
  match demuxer.selected with
  | none => { demuxer with cursor := 0 }
  | some track =>
      let cursor :=
        match syncPoint? (syncPoints demuxer.source track) time mode with
        | some (_, place) => place
        | none => demuxer.source.samples.length
      { demuxer with cursor }.skipHidden

/-- The current sample's bytes, provided that they fit into `room`; nothing at the end. -/
def read (demuxer : Demuxer) (room : Nat) : Except Error (Option Bytes) :=
  if demuxer.released then .error (ContainerError.other "demuxer already released") else
    match demuxer.current? with
    | none => .ok none
    | some sample =>
        if sample.data.size ≤ room then .ok (some sample.data)
        else .error (ContainerError.bufferTooSmall sample.data.size room)

/-- Answers whether there is a current sample after the step. -/
def advance (demuxer : Demuxer) : Bool × Demuxer :=
  if demuxer.current?.isNone then (false, demuxer) else
    let next := { demuxer with cursor := demuxer.cursor + 1 }.skipHidden
    (next.current?.isSome, next)

/-- Ends reading and drops the selection. Only the first release does anything, so a selection made
after it stays. -/
def release (demuxer : Demuxer) : Demuxer :=
  if demuxer.released then demuxer else { demuxer with released := true, selected := none }

def drain (demuxer : Demuxer) : Nat → List Sample × Demuxer
  | 0 => ([], demuxer)
  | rounds + 1 =>
      match demuxer.current? with
      | none => ([], demuxer)
      | some sample =>
          let (more, next) := demuxer.advance
          if more then
            let (rest, last) := next.drain rounds
            (sample :: rest, last)
          else ([sample], next)

/-- No source has more samples to meet than it holds. -/
def drainAll (demuxer : Demuxer) : List Sample × Demuxer :=
  demuxer.drain (demuxer.source.samples.length + 1)

end Demuxer

end Recode.Container
