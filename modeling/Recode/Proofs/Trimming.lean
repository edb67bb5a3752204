import Recode.Proofs.Seeking
import Recode.Proofs.SimulatedTranscode

/-!
What a window leaves of a track whose samples come at ever later times. Wherever the seek lands, a
transcode keeps the pictures between the window's start and its end, and a copy of key frames all
samples from the last that is not later than its start. Bringing a window within the duration of the
source changes nothing about that.
-/

namespace Recode.Session.Window
open Recode.Container

def Spans (window : Window) (time : Int) : Prop :=
  window.start ≤ time ∧ ∀ stop, window.stop? = some stop → time < stop

theorem hasEnded_eq_false_iff {window : Window} {time : Int} :
    window.hasEnded time = false ↔ ∀ stop, window.stop? = some stop → time < stop := by
  unfold hasEnded
  cases window.stop? <;> simp

theorem spans_iff {window : Window} {time : Int} :
    window.Spans time ↔ window.start ≤ time ∧ window.hasEnded time = false := by
  rw [hasEnded_eq_false_iff]
  rfl

instance (window : Window) : DecidablePred window.Spans := fun _ =>
  decidable_of_iff _ spans_iff.symm

variable {window : Window}

theorem open_earlier (earlier later : Int) (before : earlier < later)
    (going : (!window.hasEnded later) = true) : (!window.hasEnded earlier) = true := by
  rw [Bool.not_eq_true', hasEnded_eq_false_iff] at going ⊢
  intro stop ends
  have inside := going stop ends
  omega

theorem kept_eq_filter {times : List Int} (rising : times.Pairwise (· < ·)) :
    window.kept times = times.filter window.admits := by
  unfold kept
  rw [takeWhile_eq_filter rising open_earlier, List.filter_filter]
  rfl

/-- Nothing before the sync point that is sought is admitted. -/
theorem admits_of_sought {time : Int} (nonneg : 0 ≤ time) (early : time < window.seekTarget) :
    window.admits time = false := by
  unfold seekTarget at early
  have before : window.isBeforeStart time = true := by
    unfold isBeforeStart
    simp only [Bool.and_eq_true, decide_eq_true_eq]
    omega
  simp [admits, before]

theorem admits_clamped {duration time : Int} (nonneg : 0 ≤ time) (inside : time < duration) :
    (window.clamped duration).admits time = decide (window.Spans time) := by
  have positive : ¬duration ≤ 0 := by omega
  have before : (!(window.clamped duration).isBeforeStart time) = decide (window.start ≤ time) := by
    simp only [clamped, if_neg positive, isBeforeStart]
    rw [← Bool.decide_and, ← decide_not, decide_eq_decide]
    omega
  have ended : (window.clamped duration).hasEnded time = window.hasEnded time := by
    unfold clamped hasEnded
    rw [if_neg positive]
    cases window.stop? with
    | none => rfl
    | some stop =>
      simp only [Option.map_some]
      rw [decide_eq_decide]
      omega
  rw [admits, before, ended, decide_eq_decide.mpr spans_iff, Bool.decide_and]
  cases window.hasEnded time <;> simp

theorem start_clamped_nonneg {duration : Int} (positive : 0 < duration) :
    0 ≤ (window.clamped duration).start := by
  unfold clamped
  rw [if_neg (by omega)]
  exact Int.le_max_left 0 _

theorem seekTarget_of_nonneg (nonneg : 0 ≤ window.start) : window.seekTarget = window.start :=
  Int.max_eq_left nonneg

end Recode.Session.Window

namespace Recode.Simulation
open Recode.Container Recode.Session

variable {source : Source}

/-- A transcode keeps the pictures that its window admits, wherever their sync points are. -/
theorem keptTimes_eq {plan : TranscodePlan} (rises : source.Rises plan.track.index)
    (sync : source.StartsInSync plan.track.index)
    (nonneg : ∀ sample ∈ source.trackSamples plan.track.index, 0 ≤ sample.time) :
    keptTimes plan source =
      ((source.trackSamples plan.track.index).map (·.time)).filter plan.window.admits := by
  obtain ⟨passed, parted, early⟩ := Demuxer.landing_passes rises sync plan.window.seekTarget
  unfold Source.Rises at rises
  rw [parted] at rises nonneg
  have rising := List.pairwise_map.mpr (List.pairwise_append.mp rises).2.1
  -- What the seek passes over lies before the window, so it may as well be filtered.
  have none_kept : (passed.map (·.time)).filter plan.window.admits = [] := by
    rw [List.filter_eq_nil_iff]
    intro time member
    obtain ⟨sample, before, rfl⟩ := List.mem_map.mp member
    have refused := Window.admits_of_sought (nonneg sample (List.mem_append_left _ before))
      (early sample before)
    simp [refused]
  unfold keptTimes
  rw [Window.kept_eq_filter rising, parted, List.map_append, List.filter_append, none_kept,
    List.nil_append]

/-- A copy of key frames takes what lies between the last that is not later than its start, or else
the first of all, and its end. -/
theorem copiedSamples_eq {track : Nat} {window : Window} {start : Sample}
    (rises : source.Rises track)
    (keys : ∀ sample ∈ source.trackSamples track, sample.flags.isKeyFrame = true)
    (whole : ∀ sample ∈ source.trackSamples track, sample.data.size ≠ 0)
    (found : previous? (source.trackSamples track) window.seekTarget = some start) :
    copiedSamples source track window =
      (source.trackSamples track).filter
        fun sample => (⟨start.time, window.stop?⟩ : Window).Spans sample.time := by
  have rising : ((source.trackSamples track).filter (start.time ≤ ·.time)).Pairwise
      (·.time < ·.time) := List.Pairwise.filter _ rises
  -- The copy stops at the first sample past the end, and all later ones are past it too.
  unfold copiedSamples
  dsimp only
  rw [Demuxer.landing_of_keys rises keys found,
    takeWhile_eq_filter rising fun first second => Window.open_earlier first.time second.time,
    List.filter_filter, List.filter_filter]
  refine List.filter_congr fun sample member => ?_
  have full := whole sample member
  have ended : (⟨start.time, window.stop?⟩ : Window).hasEnded sample.time =
      window.hasEnded sample.time := rfl
  rw [Bool.eq_iff_iff]
  simp [full, Window.spans_iff, ended, and_comm]

end Recode.Simulation
