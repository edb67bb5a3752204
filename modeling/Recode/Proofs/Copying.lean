import Recode.Proofs.Containers
import Recode.Proofs.Stage
import Recode.Session.Copy

/-!
Copies on a simulated rig. Round by round the samples of the track go from the source to the movie,
from where a seek has landed up to the first past the end of the window; only samples without bytes
are left out. Samples of other tracks, where the demuxer leaks them, change nothing.
-/

namespace Recode.Container

def Sample.muxed (sample : Sample) : MuxedSample := ⟨sample.time, sample.flags, sample.data⟩

end Recode.Container

namespace Recode.Session.CopyPlan
open Recode.Media Recode.Container

/-- The samples that a copy takes of those that lie ahead. -/
def chosen (plan : CopyPlan) (ahead : List Sample) : List Sample :=
  ((ahead.filter (·.track = plan.track.index)).takeWhile (!plan.window.hasEnded ·.time)).filter
    (·.data.size ≠ 0)

variable (plan : CopyPlan) {sample : Sample} (later : List Sample)

theorem chosen_cons_of_foreign (foreign : sample.track ≠ plan.track.index) :
    plan.chosen (sample :: later) = plan.chosen later := by
  simp [chosen, foreign]

theorem chosen_cons_of_ended (own : sample.track = plan.track.index)
    (ended : plan.window.hasEnded sample.time = true) : plan.chosen (sample :: later) = [] := by
  simp [chosen, own, ended]

theorem chosen_cons_of_own (own : sample.track = plan.track.index)
    (going : plan.window.hasEnded sample.time = false) :
    plan.chosen (sample :: later) =
      [sample].filter (·.data.size ≠ 0) ++ plan.chosen later := by
  simp only [chosen, own, decide_true, List.filter_cons_of_pos, going, Bool.not_false,
    List.takeWhile_cons_of_pos]
  rw [← List.filter_append]
  rfl

end Recode.Session.CopyPlan

namespace Recode.Simulation
open Recode.Media Recode.Container Recode.Device Recode.Progress Recode.Session
open Recode.Session.Work

/- Storage answers alike, whatever is on the bench. -/
namespace Backdrop
variable (backdrop : Backdrop) (stage : Stage) (bench : Bench)

theorem run_select_onBench (index : Nat) :
    (Work.storage (.select index)).run backdrop.world (onBench (backdrop.desk stage) bench) =
      (.ok (stage.demuxer.select index).1, onBench (backdrop.desk { stage with
        demuxer := (stage.demuxer.select index).2 }) bench) := rfl

theorem run_unselect_onBench (index : Nat) :
    (Work.storage (.unselect index)).run backdrop.world (onBench (backdrop.desk stage) bench) =
      (.ok (stage.demuxer.unselect index).1, onBench (backdrop.desk { stage with
        demuxer := (stage.demuxer.unselect index).2 }) bench) := rfl

theorem run_seek_onBench (time : Int) (mode : SeekMode) :
    (Work.storage (.seek time mode)).run backdrop.world (onBench (backdrop.desk stage) bench) =
      (.ok (.ok ()), onBench (backdrop.desk { stage with
        demuxer := stage.demuxer.seek time mode }) bench) := rfl

theorem run_currentTrack_onBench :
    (Work.storage .currentTrack).run backdrop.world (onBench (backdrop.desk stage) bench) =
      (.ok stage.demuxer.currentTrack?, onBench (backdrop.desk stage) bench) := rfl

theorem run_currentTime_onBench :
    (Work.storage .currentTime).run backdrop.world (onBench (backdrop.desk stage) bench) =
      (.ok stage.demuxer.currentTime?, onBench (backdrop.desk stage) bench) := rfl

theorem run_currentFlags_onBench :
    (Work.storage .currentFlags).run backdrop.world (onBench (backdrop.desk stage) bench) =
      (.ok stage.demuxer.currentFlags, onBench (backdrop.desk stage) bench) := rfl

theorem run_read_onBench (room : Nat) :
    (Work.storage (.read room)).run backdrop.world (onBench (backdrop.desk stage) bench) =
      (.ok (stage.demuxer.read room), onBench (backdrop.desk { stage with
        reads := stage.reads + 1 }) bench) := rfl

theorem run_advance_onBench :
    (Work.storage .advance).run backdrop.world (onBench (backdrop.desk stage) bench) =
      (.ok stage.demuxer.advance.1, onBench (backdrop.desk { stage with
        demuxer := stage.demuxer.advance.2 }) bench) := rfl

theorem run_addTrack_onBench (format : Format) (isAudio : Bool) :
    (Work.storage (.addTrack format isAudio)).run backdrop.world
        (onBench (backdrop.desk stage) bench) =
      (.ok (stage.muxer.addTrack format isAudio).1, onBench (backdrop.desk { stage with
        muxer := (stage.muxer.addTrack format isAudio).2, adds := stage.adds + 1 }) bench) := rfl

theorem run_write_onBench {track : Nat} {buffer : Bytes} {info : SampleInfo} {isAudio : Bool}
    {answer : Except Error Bool} {next : Muxer}
    (found : stage.muxer.write track buffer info isAudio = (answer, next)) :
    (Work.storage (.write track buffer info isAudio)).run backdrop.world
        (onBench (backdrop.desk stage) bench) =
      (.ok answer, onBench (backdrop.desk { stage with
        muxer := next, writes := stage.writes + 1 }) bench) := by
  have ran : (Work.storage (.write track buffer info isAudio)).run backdrop.world
      (onBench (backdrop.desk stage) bench) = (.ok (stage.muxer.write track buffer info isAudio).1,
        onBench (backdrop.desk { stage with
          muxer := (stage.muxer.write track buffer info isAudio).2
          writes := stage.writes + 1 }) bench) := rfl
  rwa [found] at ran

theorem run_checkCancelled_onBench :
    checkCancelled.run backdrop.world (onBench (backdrop.desk stage) bench) =
      (.ok (), onBench (backdrop.desk stage) bench) := rfl

end Backdrop

/-- A copy is under way: behind the tracks that were there before, the movie has a track with the
samples that were copied, and these are counted. -/
structure Copying (plan : CopyPlan) (source : Source) (faults : MuxerFaults)
    (before : List MuxedTrack) (copied : List Sample) (outcome : CopyOutcome) (stage : Stage) :
    Prop where
  reads : stage.demuxer.Reads plan.track.index
  reading : stage.demuxer.source = source
  room : ∀ sample ∈ stage.demuxer.upcoming, sample.track = plan.track.index →
    sample.data.size ≤ plan.room
  accepts : stage.muxer.Accepts
  faults : stage.muxer.faults = faults
  tracks : stage.muxer.movie.tracks =
    before ++ [⟨plan.track.format, plan.track.isAudio, copied.map Sample.muxed⟩]
  destination : plan.destination = before.length
  outcome : outcome = ⟨before.length, copied.head?.map (·.time), copied.length⟩

namespace Copying
variable {plan : CopyPlan} {source : Source} {faults : MuxerFaults} {before : List MuxedTrack}
  {copied : List Sample} {outcome : CopyOutcome} {copying : CopyStanding} {stage : Stage}
  {backdrop : Backdrop} {bench : Bench} {sample : Sample} {later : List Sample}

/-- The desk shows a copy that has taken some more samples, and has to take those that lie ahead. -/
def Goes (plan : CopyPlan) (source : Source) (faults : MuxerFaults) (before : List MuxedTrack)
    (whole : List Sample) (backdrop : Backdrop) (bench : Bench) (length : Nat)
    (outcome : CopyOutcome) (more : Bool) (desk : Desk (Rig Bench)) : Prop :=
  ∃ stage copied, desk = onBench (backdrop.desk stage) bench ∧
    Copying plan source faults before copied outcome stage ∧
    if more then
      whole = copied ++ plan.chosen stage.demuxer.upcoming ∧
        stage.demuxer.upcoming.length < length
    else whole = copied

theorem advance (held : Copying plan source faults before copied outcome stage)
    (ahead : stage.demuxer.upcoming = sample :: later) :
    Copying plan source faults before copied outcome
      { stage with demuxer := stage.demuxer.advance.2 } where
  reads := held.reads.advance
  reading := stage.demuxer.source_advance.trans held.reading
  room other member own := by
    have member : other ∈ later := held.reads.upcoming_advance ahead ▸ member
    exact held.room other (ahead ▸ List.mem_cons_of_mem _ member) own
  accepts := held.accepts
  faults := held.faults
  tracks := held.tracks
  destination := held.destination
  outcome := held.outcome

theorem goes_advance (held : Copying plan source faults before copied outcome stage)
    (ahead : stage.demuxer.upcoming = sample :: later) {whole : List Sample}
    (rest : whole = copied ++ plan.chosen later) :
    Goes plan source faults before whole backdrop bench (later.length + 1) outcome
      stage.demuxer.advance.1
      (onBench (backdrop.desk { stage with demuxer := stage.demuxer.advance.2 }) bench) := by
  have left := held.reads.upcoming_advance ahead
  refine ⟨_, copied, rfl, held.advance ahead, ?_⟩
  rw [held.reads.advance_more, left]
  cases later with
  | nil =>
    rw [rest]
    exact List.append_nil copied
  | cons next others => exact ⟨left ▸ rest, by simp⟩

/-- Neither a counter of the rig nor its listener is of account. -/
theorem moved {after : Stage} (held : Copying plan source faults before copied outcome stage)
    (demuxer : after.demuxer = stage.demuxer) (muxer : after.muxer = stage.muxer) :
    Copying plan source faults before copied outcome after :=
  ⟨demuxer ▸ held.reads, demuxer ▸ held.reading, demuxer ▸ held.room, muxer ▸ held.accepts,
    muxer ▸ held.faults, muxer ▸ held.tracks, held.destination, held.outcome⟩

theorem stored (held : Copying plan source faults before copied outcome stage)
    (sample : Sample) (writes : Nat) :
    Copying plan source faults before (copied ++ [sample])
      { outcome with
        firstTime := outcome.firstTime.or (some sample.time), written := outcome.written + 1 }
      { stage with
        muxer := { stage.muxer with
          movie := { stage.muxer.movie with
            tracks := stage.muxer.movie.tracks.modify plan.destination fun kept =>
              { kept with samples := kept.samples ++ [sample.muxed] } }
          written := stage.muxer.written + 1 }
        writes } where
  reads := held.reads
  reading := held.reading
  room := held.room
  accepts := { held.accepts with }
  faults := held.faults
  tracks := by
    dsimp only
    rw [held.tracks, held.destination, List.modify_eq_take_cons_drop (by simp)]
    simp
  destination := held.destination
  outcome := by
    rw [held.outcome, List.length_append]
    cases copied <;> rfl

theorem store_reaches (held : Copying plan source faults before copied copying.toCopyOutcome stage)
    (ahead : stage.demuxer.upcoming = sample :: later) :
    (plan.store (copying.holding sample.data) sample.data.size sample.time).Reaches backdrop.world
      (onBench (backdrop.desk stage) bench) fun next left =>
        ∃ after, left = onBench (backdrop.desk after) bench ∧
          after.demuxer = stage.demuxer ∧
          Copying plan source faults before (copied ++ [sample].filter (·.data.size ≠ 0))
            next.toCopyOutcome after := by
  have flags := held.reads.currentFlags_cons ahead
  have found : stage.muxer.movie.tracks[plan.destination]? =
      some ⟨plan.track.format, plan.track.isAudio, copied.map Sample.muxed⟩ := by
    rw [held.tracks, held.destination]
    exact List.getElem?_concat_length
  unfold CopyPlan.store
  refine reaches_after (backdrop.run_currentFlags_onBench stage bench) ?_
  rw [flags]
  dsimp only
  by_cases empty : sample.data.size = 0
  · have nothing : SampleInfo.size ⟨sample.data.size, 0, sample.time, sample.flags⟩ = 0 := empty
    have passed := held.accepts.write_empty found rfl (copying.holding sample.data).buffer nothing
    refine reaches_after (backdrop.run_write_onBench stage bench passed) (reaches_settle rfl ?_)
    have none_taken : [sample].filter (·.data.size ≠ 0) = [] := by simpa using empty
    rw [none_taken, List.append_nil]
    exact reaches_pure ⟨_, rfl, rfl, held.moved rfl rfl⟩
  · have whole : SampleInfo.slice? ⟨sample.data.size, 0, sample.time, sample.flags⟩
        (copying.holding sample.data).buffer = some sample.data :=
      SampleInfo.slice?_overlay _ _ _ _
    have written := held.accepts.write found rfl (Nat.pos_of_ne_zero empty) whole
    refine reaches_after (backdrop.run_write_onBench stage bench written) (reaches_settle rfl ?_)
    have taken : [sample].filter (·.data.size ≠ 0) = [sample] := by simpa using empty
    rw [taken, if_pos rfl]
    have stored := held.stored sample (stage.writes + 1)
    by_cases reporting : plan.reporting = true
    · rw [if_pos reporting]
      obtain ⟨audience, told⟩ := backdrop.run_tell_onBench _ bench (.report sample.time)
      exact reaches_after told (reaches_pure ⟨_, rfl, rfl, stored.moved rfl rfl⟩)
    · rw [if_neg reporting]
      exact reaches_pure ⟨_, rfl, rfl, stored⟩

theorem round_reaches (held : Copying plan source faults before copied copying.toCopyOutcome stage) :
    (plan.round copying).Reaches backdrop.world (onBench (backdrop.desk stage) bench)
      fun answer left => Goes plan source faults before
        (copied ++ plan.chosen stage.demuxer.upcoming) backdrop bench
        stage.demuxer.upcoming.length answer.1.toCopyOutcome answer.2 left := by
  unfold CopyPlan.round
  refine reaches_after (backdrop.run_checkCancelled_onBench stage bench) ?_
  refine reaches_after (backdrop.run_currentTrack_onBench stage bench) ?_
  cases ahead : stage.demuxer.upcoming with
  | nil =>
    rw [held.reads.currentTrack?_nil ahead]
    exact reaches_pure ⟨stage, copied, rfl, held, List.append_nil copied⟩
  | cons sample later =>
    rw [held.reads.currentTrack?_cons ahead]
    dsimp only
    by_cases own : sample.track = plan.track.index
    · rw [if_neg (not_not_intro own)]
      have fits := held.room sample (ahead ▸ List.mem_cons_self) own
      refine reaches_after (backdrop.run_read_onBench stage bench plan.room) ?_
      refine reaches_settle (held.reads.read_cons ahead fits) ?_
      refine reaches_after (backdrop.run_currentTime_onBench _ bench) ?_
      rw [held.reads.currentTime?_cons ahead, Option.getD_some]
      cases ended : plan.window.hasEnded sample.time with
      | true =>
        rw [plan.chosen_cons_of_ended later own ended, List.append_nil]
        exact reaches_pure ⟨_, copied, rfl, held.moved rfl rfl, rfl⟩
      | false =>
        rw [plan.chosen_cons_of_own later own ended, ← List.append_assoc]
        have read : Copying plan source faults before copied copying.toCopyOutcome
            { stage with reads := stage.reads + 1 } := held.moved rfl rfl
        refine reaches_bind ((read.store_reaches ahead).imp fun next left stored => ?_)
        obtain ⟨after, rfl, same, stored⟩ := stored
        refine reaches_after (backdrop.run_advance_onBench after bench) (reaches_pure ?_)
        exact stored.goes_advance (same ▸ ahead) rfl
    · rw [if_pos own, plan.chosen_cons_of_foreign later own]
      refine reaches_after (backdrop.run_advance_onBench stage bench) (reaches_pure ?_)
      exact held.goes_advance ahead rfl

theorem rounds_reaches (limit : Nat)
    (held : Copying plan source faults before copied copying.toCopyOutcome stage)
    (enough : stage.demuxer.upcoming.length < limit) :
    (plan.rounds limit copying).Reaches backdrop.world (onBench (backdrop.desk stage) bench)
      fun last left => ∃ after, left = onBench (backdrop.desk after) bench ∧
        Copying plan source faults before (copied ++ plan.chosen stage.demuxer.upcoming)
          last.toCopyOutcome after := by
  induction limit generalizing copied copying stage with
  | zero => omega
  | succ limit ih =>
    unfold CopyPlan.rounds
    refine reaches_bind (held.round_reaches.imp fun answer left goes => ?_)
    obtain ⟨next, more⟩ := answer
    obtain ⟨after, taken, rfl, further, rest⟩ := goes
    cases more with
    | false =>
      rw [if_neg Bool.false_ne_true] at rest
      rw [rest]
      exact reaches_pure ⟨after, rfl, further⟩
    | true =>
      rw [if_pos rfl] at rest
      rw [rest.1]
      exact ih further (by omega)

end Copying

/-- The samples of a source that a copy of one of its tracks takes. -/
def copiedSamples (source : Source) (track : Nat) (window : Window) : List Sample :=
  let landing := Demuxer.landing source track window.seekTarget .previousSync
  (((source.samples.drop landing).filter (·.track = track)).takeWhile
    (!window.hasEnded ·.time)).filter (·.data.size ≠ 0)

/-- Containers between two uses: of the source no track is selected, and the movie can go on. -/
structure Resting (source : Source) (faults : MuxerFaults) (stage : Stage) : Prop where
  reading : stage.demuxer.source = source
  unselected : stage.demuxer.selected = none
  unreleased : stage.demuxer.released = false
  accepts : stage.muxer.Accepts
  faults : stage.muxer.faults = faults

section
variable {source : Source} {faults : MuxerFaults} {stage : Stage} {index : Nat}

theorem Resting.select (resting : Resting source faults stage) (inside : index < source.tracks.length) :
    (stage.demuxer.select index).1 = .ok () ∧ (stage.demuxer.select index).2.Reads index ∧
      (stage.demuxer.select index).2.source = source := by
  have known : index < stage.demuxer.trackCount := by rwa [Demuxer.trackCount, resting.reading]
  obtain ⟨granted, reads, still⟩ :=
    Demuxer.reads_select known resting.unselected resting.unreleased
  exact ⟨granted, reads, still.trans resting.reading⟩

theorem Resting.of_unselect (reads : stage.demuxer.Reads index)
    (reading : stage.demuxer.source = source) (inside : index < source.tracks.length)
    (accepts : stage.muxer.Accepts) (told : stage.muxer.faults = faults) :
    Resting source faults { stage with demuxer := (stage.demuxer.unselect index).2 } := by
  have answered : stage.demuxer.unselect index = (.ok (), { stage.demuxer with selected := none }) :=
    reads.unselect (by rwa [Demuxer.trackCount, reading])
  rw [answered]
  exact ⟨reading, rfl, reads.unreleased, accepts, told⟩

end

theorem Copying.run_reaches {plan : CopyPlan} {source : Source} {faults : MuxerFaults}
    {before : List MuxedTrack} {stage : Stage} {backdrop : Backdrop}
    (held : Copying plan source faults before [] { destination := plan.destination } stage)
    (fits : ∀ sample ∈ source.samples, sample.track = plan.track.index →
      sample.data.size ≤ plan.room)
    (enough : source.samples.length < backdrop.patience) (bench : Bench) :
    plan.run.Reaches backdrop.world (onBench (backdrop.desk stage) bench) fun last left =>
      ∃ after, left = onBench (backdrop.desk after) bench ∧
        Copying plan source faults before (copiedSamples source plan.track.index plan.window) last
          after := by
  let sought : Stage :=
    { stage with demuxer := stage.demuxer.seek plan.window.seekTarget .previousSync }
  have reading : sought.demuxer.source = source :=
    (Demuxer.source_seek _ _ _).trans held.reading
  have begun : Copying plan source faults before [] { destination := plan.destination } sought := {
    held with
    reads := held.reads.seek _ _
    reading
    room := fun sample member own => fits sample (reading ▸ Demuxer.mem_of_upcoming member) own }
  have whole : plan.chosen sought.demuxer.upcoming =
      copiedSamples source plan.track.index plan.window := by
    have ahead := held.reads.own_seek plan.window.seekTarget .previousSync
    rw [held.reading] at ahead
    unfold CopyPlan.chosen copiedSamples
    rw [ahead]
  have few : sought.demuxer.upcoming.length < backdrop.patience := by
    have some_seen := sought.demuxer.length_upcoming_le
    rw [reading] at some_seen
    omega
  unfold CopyPlan.run
  refine reaches_after (backdrop.run_seek_onBench stage bench _ _) (reaches_settle rfl ?_)
  refine reaches_patience (reaches_bind ?_)
  refine (@rounds_reaches _ _ _ _ _ plan.start _ _ _ _ begun few).imp fun last left ends => ?_
  rw [whole] at ends
  exact reaches_pure ends

/-- A copy adds one track to the movie, and in it all that it is to take. -/
theorem copyTrack_reaches {source : Source} {faults : MuxerFaults} {stage : Stage}
    (resting : Resting source faults stage) (hasRoom : source.HasRoom) {track : Track}
    (known : source.tracks[track.index]? = some track.format) {room : Nat}
    (sized : track.format.maxInputSize = some room) {backdrop : Backdrop}
    (enough : source.samples.length < backdrop.patience) (bench : Bench) (window : Window)
    (reporting : Bool) :
    (copyTrack track window reporting).Reaches backdrop.world
      (onBench (backdrop.desk stage) bench) fun outcome left =>
        let copied := copiedSamples source track.index window
        outcome = ⟨stage.muxer.movie.tracks.length, copied.head?.map (·.time), copied.length⟩ ∧
        ∃ after, left = onBench (backdrop.desk after) bench ∧ Resting source faults after ∧
          after.muxer.movie.tracks = stage.muxer.movie.tracks ++
            [⟨track.format, track.isAudio, copied.map Sample.muxed⟩] := by
  let before := stage.muxer.movie.tracks
  let plan : CopyPlan := ⟨track, before.length, window, room, reporting⟩
  have added := resting.accepts.addTrack track.format track.isAudio
  have inside : track.index < source.tracks.length := (List.getElem?_eq_some_iff.mp known).1
  have fits (sample : Sample) (member : sample ∈ source.samples) (own : sample.track = track.index) :
      sample.data.size ≤ room := hasRoom.fits known sized member own
  obtain ⟨granted, reads, reading⟩ := resting.select inside
  let opened : Stage := { stage with
    muxer := { stage.muxer with movie := { stage.muxer.movie with
      tracks := before ++ [⟨track.format, track.isAudio, []⟩] } }
    demuxer := (stage.demuxer.select track.index).2
    adds := stage.adds + 1 }
  have begun : Copying plan source faults before [] { destination := plan.destination } opened :=
    ⟨reads, reading, fun sample member => fits sample (reading ▸ Demuxer.mem_of_upcoming member),
      { resting.accepts with }, resting.faults, rfl, rfl, rfl⟩
  unfold copyTrack
  refine reaches_after (backdrop.run_addTrack_onBench stage bench _ _) ?_
  rw [added]
  refine reaches_settle rfl ?_
  rw [sized]
  refine reaches_after (backdrop.run_select_onBench _ bench _) (reaches_settle granted ?_)
  refine reaches_bind (reaches_outcome ((begun.run_reaches fits enough bench).imp ?_))
  intro last left ends
  obtain ⟨after, rfl, held⟩ := ends
  exact reaches_after (backdrop.run_unselect_onBench after bench track.index)
    ⟨last, _, run_settle_ok _ _ _, held.outcome, _, rfl,
      .of_unselect held.reads held.reading inside held.accepts held.faults, held.tracks⟩

end Recode.Simulation
