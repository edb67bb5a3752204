import Recode.Error
import Recode.Media.Format

/-!
Writing a destination movie. A muxer only ever adds: tracks behind its tracks, samples behind a
track's samples. Once it is finalized it accepts nothing more.
-/

namespace Recode.Container
open Recode.Media

structure MovieSettings where
  rotation : Rotation
  width : Nat
  height : Nat
  deriving DecidableEq, Repr, Inhabited

structure MuxedSample where
  time : Int
  flags : Flags
  data : Bytes
  deriving DecidableEq, Repr, Inhabited

structure MuxedTrack where
  format : Format
  isAudio : Bool
  samples : List MuxedSample
  deriving DecidableEq, Repr, Inhabited

structure Movie where
  settings : MovieSettings
  tracks : List MuxedTrack := []
  finalized : Bool := false
  finalizeCalls : Nat := 0
  deriving DecidableEq, Repr, Inhabited

namespace Movie

def trackOf? (movie : Movie) (isAudio : Bool) : Option MuxedTrack :=
  movie.tracks.find? (·.isAudio = isAudio)

def indexOf? (movie : Movie) (isAudio : Bool) : Option Nat :=
  movie.tracks.findIdx? (·.isAudio = isAudio)

def sampleCount (movie : Movie) : Nat := (movie.tracks.flatMap (·.samples)).length

end Movie

structure MuxerFaults where
  failWriteAfter : Option Nat := none
  failFinalize : Bool := false
  deriving DecidableEq, Repr, Inhabited

structure Muxer where
  movie : Movie
  faults : MuxerFaults := {}
  written : Nat := 0
  deriving DecidableEq, Repr, Inhabited

namespace Muxer

def new (settings : MovieSettings) (faults : MuxerFaults) : Muxer :=
  { movie := { settings }, faults }

def addTrack (muxer : Muxer) (format : Format) (isAudio : Bool) : Except Error Nat × Muxer :=
  if muxer.movie.finalized then (.error MuxerError.alreadyFinalized, muxer) else
    let tracks := muxer.movie.tracks ++ [⟨format, isAudio, []⟩]
    (.ok muxer.movie.tracks.length, { muxer with movie := { muxer.movie with tracks } })

/-- The sample that a write would store, or why it cannot be accepted; `none` stands for a sample
without bytes, which is passed over. -/
def admit? (muxer : Muxer) (track : Nat) (buffer : Bytes) (info : SampleInfo) (isAudio : Bool) :
    Except Error (Option MuxedSample) :=
  if muxer.movie.finalized then .error MuxerError.alreadyFinalized else
    match muxer.movie.tracks[track]? with
    | none => .error (MuxerError.unknownTrack track)
    | some kept =>
        if kept.isAudio ≠ isAudio then .error (MuxerError.kindMismatch track)
        else if info.size = 0 then .ok none
        else
          match muxer.faults.failWriteAfter with
          | some limit =>
              if limit ≤ muxer.written then
                .error (MuxerError.write s!"injected failure after {limit} samples")
              else cut
          | none => cut
where
  cut : Except Error (Option MuxedSample) :=
    match info.slice? buffer with
    | some data => .ok (some ⟨info.time, info.flags, data⟩)
    | none => .error (MuxerError.write
        s!"sample range {info.offset}..{info.stop} exceeds buffer of {buffer.size} bytes")

/-- Answers whether a sample was stored. -/
def write (muxer : Muxer) (track : Nat) (buffer : Bytes) (info : SampleInfo) (isAudio : Bool) :
    Except Error Bool × Muxer :=
  match muxer.admit? track buffer info isAudio with
  | .error error => (.error error, muxer)
  | .ok none => (.ok false, muxer)
  | .ok (some sample) =>
      let tracks := muxer.movie.tracks.modify track
        (fun kept => { kept with samples := kept.samples ++ [sample] })
      (.ok true, { muxer with movie := { muxer.movie with tracks }, written := muxer.written + 1 })

/-- Every call is counted, also one that fails. -/
def finalize (muxer : Muxer) : Except Error Unit × Muxer :=
  let movie := { muxer.movie with finalizeCalls := muxer.movie.finalizeCalls + 1 }
  if movie.finalized then (.error MuxerError.alreadyFinalized, { muxer with movie })
  else if muxer.faults.failFinalize then
    (.error (MuxerError.finalize "injected failure"), { muxer with movie })
  else (.ok (), { muxer with movie := { movie with finalized := true } })

end Muxer

end Recode.Container
