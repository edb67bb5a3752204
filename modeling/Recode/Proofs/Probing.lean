import Recode.Job.Probe
import Recode.Proofs.Stage

/-!
Looking into a source on a simulated rig. A look finds the first track of a kind and what its format
says, and changes nothing but that a demuxer is left behind, which is released.
-/

namespace Recode.Container

def Library.reading (library : Library) (source : Source) (released : Bool) : Library :=
  { library with demuxers := { source, leaks := library.leaks, released } :: library.demuxers }

theorem find?_range_eq_findIdx? {α : Type} (values : List α) (property : α → Bool) :
    (List.range values.length).find? (fun index => values[index]?.any property) =
      values.findIdx? property := by
  cases found : values.findIdx? property with
  | none =>
    rw [List.findIdx?_eq_none_iff] at found
    rw [List.find?_range_eq_none]
    intro index inside
    simp [inside, found]
  | some index =>
    obtain ⟨inside, holds, before⟩ := List.findIdx?_eq_some_iff_getElem.mp found
    rw [List.find?_range_eq_some]
    refine ⟨by simp [inside, holds], List.mem_range.mpr inside, fun earlier less => ?_⟩
    simp [Nat.lt_trans less inside, before earlier less]

end Recode.Container

namespace Recode.Simulation
open Recode.Media Recode.Container Recode.Device Recode.Progress Recode.Session Recode.Job
open Recode.Session.Work

/-- The first video track of the source, its format, and what its format says. -/
structure Describes (source : Source) (video : Nat) (format : Format) (metadata : Metadata) :
    Prop where
  first : source.tracks.findIdx? (·.isKind false) = some video
  known : source.tracks[video]? = some format
  width : format.width = some metadata.width
  height : format.height = some metadata.height
  rotation : format.rotation.getD .deg0 = metadata.rotation
  duration : format.duration = some metadata.duration

structure Presents {σ : Type} (world : World σ) (desk : Desk σ) (demuxer : Demuxer) : Prop where
  count : (Work.storage .trackCount).run world desk = (.ok demuxer.trackCount, desk)
  format : ∀ index, (Work.storage (.trackFormat index)).run world desk =
    (.ok (demuxer.trackFormat index), desk)

namespace Presents
variable {σ : Type} {world : World σ} {desk : Desk σ} {demuxer : Demuxer}

theorem firstTrackOf (presents : Presents world desk demuxer) (isAudio : Bool) (indices : List Nat) :
    (firstTrackOf isAudio indices).run world desk =
      (.ok (indices.find? fun index => demuxer.source.tracks[index]?.any (·.isKind isAudio)),
        desk) := by
  induction indices with
  | nil => rfl
  | cons index rest ih =>
    unfold Job.firstTrackOf
    rw [run_after (presents.format index), Demuxer.trackFormat, List.find?_cons]
    cases known : demuxer.source.tracks[index]? with
    | none => exact ih
    | some format =>
      dsimp only [Option.any_some]
      cases kind : format.isKind isAudio with
      | true => rfl
      | false => exact ih

theorem findTrack (presents : Presents world desk demuxer) (isAudio : Bool) :
    (findTrack isAudio).run world desk = (.ok (demuxer.findTrack? isAudio), desk) := by
  unfold Job.findTrack
  rw [run_after presents.count, presents.firstTrackOf, Demuxer.trackCount, find?_range_eq_findIdx?]
  rfl

theorem videoTrack (presents : Presents world desk demuxer) {index : Nat}
    (first : demuxer.findTrack? false = some index) (path : Path) :
    (videoTrack path).run world desk = (.ok index, desk) := by
  unfold Job.videoTrack
  rw [run_after (presents.findTrack false), first]
  rfl

theorem metadataOf (presents : Presents world desk demuxer) {video : Nat} {format : Format}
    {metadata : Metadata} (describes : Describes demuxer.source video format metadata)
    (path : Path) : (metadataOf path).run world desk = (.ok metadata, desk) := by
  have granted : demuxer.trackFormat video = .ok format := by
    unfold Demuxer.trackFormat
    rw [describes.known]
  unfold Job.metadataOf
  rw [run_after (presents.videoTrack describes.first path), run_after (presents.format video), granted,
    run_after (run_settle_ok _ _ _), describes.width, describes.height]
  dsimp only
  rw [describes.rotation, describes.duration]
  rfl

end Presents

section
variable {patience : Nat} {library : Library} {audience : Audience} {bench : Bench} {disk : Disk}
  {source : Source} {path : Path} {video : Nat} {format : Format} {metadata : Metadata}

theorem presents_reading : Presents (Rig.world Bench.answer patience)
    (audience.desk { library := library.reading source false } bench disk)
    { source, leaks := library.leaks } :=
  ⟨rfl, fun _ => rfl⟩

theorem presents_onBench (backdrop : Backdrop) (stage : Stage) (bench : Bench) :
    Presents backdrop.world (onBench (backdrop.desk stage) bench) stage.demuxer :=
  ⟨rfl, fun _ => rfl⟩

theorem run_openSource (found : library.source? path = some source) :
    (Work.storage (.openSource path)).run (Rig.world Bench.answer patience)
        (audience.desk { library } bench disk) =
      (.ok (.ok ()), audience.desk { library := library.reading source false } bench disk) := by
  have answered : ({ library } : Storage).openSource path =
      (.ok (), { library := library.reading source false }) := by
    unfold Storage.openSource Library.openSource
    rw [found]
    rfl
  have ran : (Work.storage (.openSource path)).run (Rig.world Bench.answer patience)
      (audience.desk { library } bench disk) =
    (.ok (({ library } : Storage).openSource path).1,
      audience.desk (({ library } : Storage).openSource path).2 bench disk) := rfl
  rwa [answered] at ran

/-- A look into the source leaves a demuxer behind that is released. -/
theorem run_probeContainer (found : library.source? path = some source)
    (describes : Describes source video format metadata) :
    (probeContainer path).run (Rig.world Bench.answer patience)
        (audience.desk { library } bench disk) =
      (.ok metadata, audience.desk { library := library.reading source true } bench disk) := by
  unfold probeContainer
  rw [run_after (run_openSource found), run_after (run_settle_ok _ _ _),
    run_after (run_outcome_ok (presents_reading.metadataOf describes path))]
  rfl

end

end Recode.Simulation
