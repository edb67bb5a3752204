import Recode.Error
import Recode.Media.Format

/-!
A source movie: the formats of its tracks, and the samples of all tracks interleaved in the order of
their times, as a container file stores them.
-/

namespace Recode.Container
open Recode.Media

structure Sample where
  track : Nat
  time : Int
  flags : Flags
  data : Bytes
  deriving DecidableEq, Repr, Inhabited

structure Source where
  tracks : List Format := []
  samples : List Sample := []
  deriving DecidableEq, Repr, Inhabited

namespace Source

def addTrack (source : Source) (format : Format) : Source :=
  { source with tracks := source.tracks ++ [format] }

/-- A sample goes behind all samples that are not later, so samples of one time keep the order in
which they came. -/
def place (sample : Sample) (samples : List Sample) : List Sample :=
  samples.takeWhile (·.time ≤ sample.time) ++
    sample :: samples.dropWhile (·.time ≤ sample.time)

/-- Where `holds` ends in values that begin with all of which it holds, searched for by halves: `size`
places from `base` on are left. -/
def findBoundary {α : Type} (holds : α → Bool) (values : List α) (base size : Nat) : Nat :=
  if size ≤ 1 then
    if values[base]?.any holds then base + 1 else base
  else
    let half := size / 2
    let next := if values[base + half]?.any holds then base + half else base
    findBoundary holds values next (size - half)
termination_by size

/-- `place` as it is carried out: the place is searched for by halves. -/
def placeBySearch (sample : Sample) (samples : List Sample) : List Sample :=
  samples.insertIdx (findBoundary (·.time ≤ sample.time) samples 0 samples.length) sample

/-- A format always promises room for the longest sample of its track. -/
def widen (format : Format) (size : Nat) : Format :=
  { format with maxInputSize := some (max (format.maxInputSize.getD 0) size) }

def addSample (source : Source) (sample : Sample) : Except Error Source :=
  if sample.track < source.tracks.length then
    .ok ⟨source.tracks.modify sample.track (widen · sample.data.size), place sample source.samples⟩
  else .error (ContainerError.trackNotFound sample.track)

def trackSamples (source : Source) (track : Nat) : List Sample :=
  source.samples.filter (·.track = track)

def addSamples (source : Source) : List Sample → Source × List Error
  | [] => (source, [])
  | sample :: rest =>
      match source.addSample sample with
      | .ok fuller => fuller.addSamples rest
      | .error error =>
          let (last, errors) := source.addSamples rest
          (last, error :: errors)

theorem place_perm (sample : Sample) (samples : List Sample) :
    (place sample samples).Perm (sample :: samples) := by
  have whole := List.takeWhile_append_dropWhile (p := (·.time ≤ sample.time)) (l := samples)
  calc place sample samples
      _ |>.Perm (sample :: (samples.takeWhile (·.time ≤ sample.time)
          ++ samples.dropWhile (·.time ≤ sample.time))) := List.perm_middle
      _ |>.Perm (sample :: samples) := by rw [whole]

end Source

end Recode.Container
