import Recode.Proofs.LeakingRig

/-!
A copy from a demuxer that leaks. The copy passes over every foreign sample, at the cost of a round,
and otherwise does what it does where nothing leaks.
-/

namespace Recode.Session
open Recode.Media Recode.Container Recode.Progress
open Recode.Session.Work

namespace CopyPlan
variable {σ : Type}

/-- What a round does before it steps on: how the copy stands after it, and whether it steps on. -/
def take (plan : CopyPlan) (copying : CopyStanding) : Work σ (CopyStanding × Bool) := do
  checkCancelled
  match ← storage .currentTrack with
  | none => return (copying, false)
  | some index =>
      if index ≠ plan.track.index then return (copying, true)
      match ← settle (← storage (.read plan.room)) with
      | none => return (copying, false)
      | some data =>
          let copying := copying.holding data
          let time := (← storage .currentTime).getD 0
          if plan.window.hasEnded time then return (copying, false)
          return (← plan.store copying data.size time, true)

def stepOn (plan : CopyPlan) (limit : Nat) (taken : CopyStanding × Bool) : Work σ CopyStanding := do
  if taken.2 then
    if ← storage .advance then plan.rounds limit taken.1 else return taken.1
  else return taken.1

theorem rounds_succ {plan : CopyPlan} {limit : Nat} {copying : CopyStanding} :
    (plan.rounds (limit + 1) copying : Work σ CopyStanding) =
      plan.take copying >>= plan.stepOn limit := by
  simp only [rounds, round, take, bind_assoc]
  refine congrArg (checkCancelled >>= ·) (funext fun _ => congrArg (_ >>= ·) (funext fun current => ?_))
  cases current with
  | none => rfl
  | some index =>
    dsimp only
    split
    next foreign => rfl
    next own =>
      simp only [bind_assoc]
      refine congrArg (_ >>= ·) (funext fun answer => congrArg (_ >>= ·) (funext fun found => ?_))
      cases found with
      | none => rfl
      | some data =>
        simp only [bind_assoc]
        refine congrArg (_ >>= ·) (funext fun time => ?_)
        split
        next ended => rfl
        next inside => simp only [bind_assoc]; rfl

theorem take_uses {plan : CopyPlan} {copying : CopyStanding} :
    (plan.take copying : Work σ (CopyStanding × Bool)).Uses Call.LooksAtMost := by
  have checks : Call.LooksAtMost (.client .isCancelled) := .inl trivial
  have writes (buffer : Bytes) (info : SampleInfo) : Call.LooksAtMost
      (.storage (.write plan.destination buffer info plan.track.isAudio)) := .inl trivial
  have tells (event : Event) : Call.LooksAtMost (.client (.deliver event)) := .inl trivial
  refine .bind (.check checks) fun _ => .bind (.call trivial trivial) fun current => ?_
  cases current with
  | none => exact .pure _
  | some index =>
    dsimp only
    split
    next foreign => exact .pure _
    next own =>
      refine .granted (.call trivial trivial) fun found => ?_
      cases found with
      | none => exact .pure _
      | some data =>
        refine .bind (.call trivial trivial) fun time => ?_
        split
        next ended => exact .pure _
        next inside => exact .bind (store_uses trivial writes tells) fun _ => .pure _

end CopyPlan

end Recode.Session

namespace Recode.Simulation
open Recode.Media Recode.Container Recode.Device Recode.Picture Recode.Progress Recode.Session
open Recode.Session.Work

structure Rig.Stands (rig : Rig Bench) (demuxer : Demuxer) : Prop where
  newest : rig.storage.library.demuxers.head? = some demuxer
  wanted : rig.client.cancelled = false

section
variable {patience track : Nat} {desk : Desk (Rig Bench)} {demuxer : Demuxer}
  (stands : desk.outside.Stands demuxer)
include stands

theorem Rig.Stands.run_checkCancelled :
    checkCancelled.run (Rig.world Bench.answer patience) desk = (.ok (), desk) := by
  have looked : (Rig.world Bench.answer patience).answer (.client .isCancelled) desk.outside =
      (false, desk.outside) := congrArg (·, desk.outside) stands.wanted
  unfold checkCancelled
  show (ask (.client .isCancelled) >>= _).run _ _ = _
  rw [run_bind, run_ask, looked]
  rfl

theorem Rig.Stands.run_currentTrack :
    (Work.storage .currentTrack).run (Rig.world Bench.answer patience) desk =
      (.ok demuxer.currentTrack?, desk) := by
  have looked : Storage.answer .currentTrack desk.outside.storage =
      (demuxer.currentTrack?, desk.outside.storage) :=
    Prod.ext (view_newest stands.newest none (·.currentTrack?)) (snd_view _ _ _)
  show (ask (.storage .currentTrack)).run _ _ = _
  rw [run_ask]
  dsimp only [Rig.world]
  rw [looked]

end

theorem Rig.Stands.advance {patience : Nat} {rig : Rig Bench} {demuxer : Demuxer}
    (stands : rig.Stands demuxer) :
    let answer := (Rig.world Bench.answer patience).answer (.storage .advance) rig
    answer.1 = demuxer.advance.1 ∧ answer.2.Stands demuxer.advance.2 := by
  obtain ⟨same, newest⟩ := Storage.onDemuxer_newest stands.newest false (·.advance)
  exact ⟨same, newest, stands.wanted⟩

section
variable {patience limit : Nat} {plan : CopyPlan} {desk : Desk (Rig Bench)} {demuxer : Demuxer}
  {copying : CopyStanding} (stands : desk.outside.Stands demuxer)
  (reads : demuxer.Reads plan.track.index)
include stands reads

theorem run_take_nil (atEnd : demuxer.upcoming = []) :
    (plan.take copying).run (Rig.world Bench.answer patience) desk = (.ok (copying, false), desk) := by
  unfold CopyPlan.take
  rw [run_after stands.run_checkCancelled, run_after stands.run_currentTrack,
    reads.currentTrack?_nil atEnd]
  rfl

theorem run_take_foreign {sample : Sample} {later : List Sample}
    (ahead : demuxer.upcoming = sample :: later) (foreign : sample.track ≠ plan.track.index) :
    (plan.take copying).run (Rig.world Bench.answer patience) desk = (.ok (copying, true), desk) := by
  unfold CopyPlan.take
  rw [run_after stands.run_checkCancelled, run_after stands.run_currentTrack,
    reads.currentTrack?_cons ahead]
  dsimp only
  rw [if_pos foreign]
  rfl

theorem run_rounds_nil (atEnd : demuxer.upcoming = []) (lasts : 0 < limit) :
    (plan.rounds limit copying).run (Rig.world Bench.answer patience) desk = (.ok copying, desk) := by
  obtain ⟨limit, rfl⟩ := Nat.exists_eq_succ_of_ne_zero (Nat.ne_of_gt lasts)
  rw [CopyPlan.rounds_succ, run_after (run_take_nil stands reads atEnd)]
  rfl

/-- After a step it makes no difference whether the rounds end at once or with another look. -/
theorem run_stepOn (lasts : 0 < limit) :
    (plan.stepOn limit (copying, true)).run (Rig.world Bench.answer patience) desk =
      (Work.storage .advance >>= fun _ => plan.rounds limit copying).run
        (Rig.world Bench.answer patience) desk := by
  obtain ⟨answered, after⟩ := @Rig.Stands.advance patience desk.outside demuxer stands
  have more := answered.trans reads.advance_more
  unfold CopyPlan.stepOn
  rw [if_pos rfl]
  show (ask (.storage .advance) >>= _).run _ _ = (ask (.storage .advance) >>= _).run _ _
  rw [run_bind, run_bind, run_ask]
  dsimp only at more ⊢
  rw [more]
  cases atEnd : demuxer.advance.2.upcoming with
  | nil =>
    exact (@run_rounds_nil _ _ _ { desk with outside := _ } _ _ after reads.advance atEnd lasts).symm
  | cons sample later => rfl

end

theorem Rig.Beside.stands {leaky tight : Demuxer} {count : Nat} {ahead behind : Rig Bench}
    (beside : ahead.Beside (NewestAre leaky tight) count behind) :
    ahead.Stands leaky ∧ behind.Stands tight := by
  obtain ⟨⟨⟨demuxers, same, first, second⟩, -, -⟩, -, client, willing⟩ := beside
  refine ⟨⟨first, willing.cancelled⟩, ?_, ?_⟩
  · rw [same]
    exact second
  · rw [client]
    exact willing.cancelled

section
variable {source : Source} {plan : CopyPlan} {leaky tight : Demuxer} {count patience : Nat}
  {ahead behind : Desk (Rig Bench)}

theorem unpaired_abreast {faces : List Demuxer → List Demuxer → Prop}
    (held : Abreast (Rig.Beside faces count) ahead behind) :
    Abreast (Rig.Apart count) ahead behind :=
  held.imp fun _ _ beside => beside.imp fun _ _ _ => trivial

theorem newest_abreast {paired : Demuxer → Demuxer → Prop} (pair : paired leaky tight)
    (held : Abreast (Rig.Beside (NewestAre leaky tight) count) ahead behind) :
    Abreast (Rig.Beside (OfNewest paired) count) ahead behind :=
  held.imp fun _ _ beside => beside.imp fun _ _ newest => ⟨leaky, tight, newest, pair⟩

/-- The leaking side may need more rounds than the other, but has as many as it needs. -/
theorem rounds_agrees (limit more : Nat) (copying : CopyStanding)
    (held : Abreast (Rig.Beside (NewestAre leaky tight) count) ahead behind)
    (twins : Demuxer.TwinsReading source plan.track.index leaky tight)
    (enough : leaky.upcoming.length < limit) :
    (plan.rounds limit copying).Agrees (plan.rounds (limit + more) copying)
      (Rig.world Bench.answer patience) (Rig.Twinned source (some plan.track.index) count)
      (Rig.Twinned source (some plan.track.index) count) ahead behind := by
  induction limit generalizing more copying leaky tight ahead behind with
  | zero => omega
  | succ limit ih =>
    obtain ⟨leakyStands, tightStands⟩ := held.outside.stands
    have upcoming := twins.upcoming
    cases comes : leaky.upcoming with
    | nil =>
      rw [comes] at upcoming
      unfold Agrees
      rw [run_rounds_nil leakyStands twins.leakyReads comes (by omega),
        run_rounds_nil tightStands twins.tightReads upcoming (by omega)]
      exact ⟨rfl, newest_abreast twins.toTwins held⟩
    | cons sample later =>
      have fewer : leaky.advance.2.upcoming.length < limit := by
        rw [twins.leakyReads.upcoming_advance comes]
        rw [comes, List.length_cons] at enough
        omega
      have lasts : 0 < limit := by omega
      by_cases own : sample.track = plan.track.index
      · -- Both take the sample and step on.
        have level := twins.level fun first seen => by
          rw [comes] at seen
          cases seen
          exact own
        rw [Nat.add_right_comm, CopyPlan.rounds_succ, CopyPlan.rounds_succ]
        refine agrees_bind (((interrupts_looking level).uses_shadows CopyPlan.take_uses).agrees held)
          (fun _ _ beside => beside.imp fun _ _ newest => ⟨leaky, tight, newest, twins.toTwins⟩) ?_
        intro ⟨copying, goesOn⟩ left right _ held
        cases goesOn with
        | false => exact agrees_pure (newest_abreast twins.toTwins held)
        | true =>
          obtain ⟨leakyStands, tightStands⟩ := held.outside.stands
          unfold Agrees
          rw [run_stepOn leakyStands twins.leakyReads lasts,
            run_stepOn tightStands twins.tightReads (by omega)]
          exact ih more copying
            ⟨held.reporter, held.announced,
              { held.outside with storage := held.outside.storage.advance }⟩ level.advance fewer
      · -- The leaking side alone passes over the sample.
        have passes : (plan.rounds (limit + 1) copying).run (Rig.world Bench.answer patience) ahead =
            (Work.storage .advance >>= fun _ => plan.rounds limit copying).run
              (Rig.world Bench.answer patience) ahead := by
          rw [CopyPlan.rounds_succ, run_after (run_take_foreign leakyStands twins.leakyReads comes own),
            run_stepOn leakyStands twins.leakyReads lasts]
        unfold Agrees
        rw [passes, Nat.add_assoc, Nat.add_comm 1]
        exact ih (more + 1) copying
          ⟨held.reporter, held.announced,
            { held.outside with storage := held.outside.storage.pass }⟩ (twins.pass comes own) fewer

theorem exists_newest {paired : Demuxer → Demuxer → Prop}
    (held : Abreast (Rig.Beside (OfNewest paired) count) ahead behind) :
    ∃ leaky tight, paired leaky tight ∧
      Abreast (Rig.Beside (NewestAre leaky tight) count) ahead behind := by
  obtain ⟨reporter, announced, beside⟩ := held
  obtain ⟨⟨demuxers, same, leaky, tight, newest, pair⟩, script, few⟩ := beside.storage
  exact ⟨leaky, tight, pair, reporter, announced,
    { beside with storage := ⟨⟨demuxers, same, newest⟩, script, few⟩ }⟩

theorem selected_agrees {α : Type} {index : Nat} {work : Work (Rig Bench) α}
    (works : ∀ leaky tight ahead behind, Demuxer.Twins source (some index) leaky tight →
      Abreast (Rig.Beside (NewestAre leaky tight) count) ahead behind →
      work.Agrees work (Rig.world Bench.answer patience) (Rig.Twinned source (some index) count)
        (Rig.Twinned source (some index) count) ahead behind)
    (held : Abreast (Rig.Twinned source none count) ahead behind) :
    let selecting : Work (Rig Bench) α := Work.storage (.select index) >>= fun answer =>
      settle answer >>= fun _ => outcome work >>= fun result =>
        Work.storage (.unselect index) >>= fun _ => settle result
    selecting.Agrees selecting (Rig.world Bench.answer patience) (Rig.Twinned source none count)
      (Rig.Apart count) ahead behind := by
  obtain ⟨leaky, tight, twins, held⟩ := exists_newest held
  obtain ⟨same, selected⟩ := twins.select index
  obtain ⟨answered, alike⟩ := held.outside.storage.select index same
  refine agrees_ask held (held.outside.stored alike) fun left right held => ?_
  have answer : ((Rig.world Bench.answer patience).answer (.storage (.select index))
      ahead.outside).1 = (leaky.select index).1 := answered
  refine agrees_settle (unpaired_abreast held) fun _ granted => ?_
  rw [← answer, granted] at selected
  obtain ⟨known, twins⟩ := selected
  -- The track stays selected, however the work ends.
  refine agrees_bind (agrees_outcome (works _ _ _ _ twins held))
    (fun _ _ beside => beside.imp fun _ _ _ => trivial) fun result left right _ held => ?_
  obtain ⟨leaky, tight, twins, held⟩ := exists_newest held
  obtain ⟨same, unselected⟩ := twins.unselect known
  refine agrees_ask held (held.outside.stored (held.outside.storage.unselect index same))
    fun left right held => ?_
  cases result with
  | error error => exact agrees_stop (unpaired_abreast held)
  | ok value => exact agrees_pure (newest_abreast unselected held)

theorem copyTrack_agrees {track : Track} {window : Window} {reporting : Bool}
    (few : source.samples.length < patience)
    (held : Abreast (Rig.Twinned source none count) ahead behind) :
    (copyTrack track window reporting).Agrees (copyTrack track window reporting)
      (Rig.world Bench.answer patience) (Rig.Twinned source none count) (Rig.Apart count) ahead
      behind := by
  refine agrees_ask held (held.outside.spared trivial) fun left right held =>
    agrees_settle (unpaired_abreast held) fun destination _ => ?_
  cases track.format.maxInputSize with
  | none => exact agrees_stop (unpaired_abreast held)
  | some room =>
    refine selected_agrees (fun leaky tight ahead behind twins held => ?_) held
    refine agrees_ask held (held.outside.stored (held.outside.storage.seek window.seekTarget
      .previousSync)) fun left right held => agrees_settle ?_ fun _ _ => ?_
    · exact newest_abreast (twins.seek window.seekTarget .previousSync).toTwins held
    · have level := twins.seek window.seekTarget .previousSync
      have coming := (leaky.seek window.seekTarget .previousSync).length_upcoming_le
      rw [level.leakySource] at coming
      let plan : CopyPlan := ⟨track, destination, window, room, reporting⟩
      have rounds := @rounds_agrees source plan _ _ count patience left right patience 0 plan.start
        held level.toTwinsReading (by omega)
      show (plan.rounds patience plan.start >>= _).Agrees (plan.rounds patience plan.start >>= _)
        _ _ _ _ _
      exact agrees_bind rounds (fun _ _ => id) fun copied left right _ held => agrees_pure held

end

end Recode.Simulation
