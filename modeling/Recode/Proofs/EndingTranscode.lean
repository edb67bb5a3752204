import Recode.Proofs.EndOfStream
import Recode.Proofs.Histories
import Recode.Proofs.LivelyRun
import Recode.Proofs.MirroredSessions
import Recode.Proofs.SimulatedTranscode

/-!
A transcode ends. Each round of its session leaves less to do: fewer samples in the demuxer, fewer
polls that have still to fail, less in the codecs, or a poll fewer until the next cycle. So a session
that is given as many rounds as there is to do does not stall, and more of them would change nothing.
-/

namespace Recode.Session
open Recode.Media Recode.Container Recode.Progress
open Recode.Session.Work

namespace Work
variable {σ α β : Type} {world other : World σ}

/-- Unless it stalls, the work comes to what `more` comes to in the other world. -/
def Suffices (work more : Work σ α) (world other : World σ) : Prop :=
  ∀ desk, (work.run world desk).1 ≠ .error .stalled → more.run other desk = work.run world desk

theorem Mirrors.suffices {work : Work σ α} (mirrors : work.Mirrors id world other work) :
    work.Suffices work world other := fun desk _ => mirrors desk

theorem suffices_bind {first begun : Work σ α} {next onward : α → Work σ β}
    (begins : first.Suffices begun world other)
    (goesOn : ∀ value, (next value).Suffices (onward value) world other) :
    (first >>= next).Suffices (begun >>= onward) world other := by
  intro desk settled
  rw [run_bind] at settled
  have met := begins desk
  rw [run_bind, run_bind]
  rcases ran : first.run world desk with ⟨stop | value, left⟩ <;> rw [ran] at settled met
  · have lasting : stop ≠ .stalled := fun same => settled (congrArg Except.error same)
    rw [met fun same => lasting (Except.error.inj same)]
  · rw [met nofun]
    exact goesOn value left settled

theorem suffices_patience {next onward : Nat → Work σ β}
    (goesOn : (next world.patience).Suffices (onward other.patience) world other) :
    (patience >>= next).Suffices (patience >>= onward) world other := goesOn

theorem suffices_outcome {work more : Work σ α} (enough : work.Suffices more world other) :
    (outcome work).Suffices (outcome more) world other := by
  intro desk settled
  rw [run_outcome] at settled
  have worked := enough desk
  rw [run_outcome, run_outcome]
  rcases ran : work.run world desk with ⟨(error | panic | _) | value, left⟩ <;>
    rw [ran] at settled worked
  · rw [worked nofun]
  · rw [worked nofun]
  · exact absurd rfl settled
  · rw [worked nofun]

theorem suffices_ensuring {work more : Work σ α} {cleanup : Work σ Unit}
    (cleans : cleanup.Mirrors id world other cleanup) (enough : work.Suffices more world other) :
    (ensuring cleanup work).Suffices (ensuring cleanup more) world other := by
  intro desk settled
  rw [run_ensuring] at settled
  have cleaned : cleanup.run other (work.run world desk).2 = _ := cleans (work.run world desk).2
  rw [run_ensuring, run_ensuring, enough desk settled, cleaned]
  rfl

theorem records_result {work : Work (History × σ) α} {plain : Work σ α}
    (mirrors : work.Mirrors Prod.snd world.recorded world plain) (desk : Desk σ) :
    (work.records world desk).1 = (plain.run world desk).1 :=
  (congrArg Prod.fst (mirrors { desk with outside := ([], desk.outside) })).symm

theorem records_suffices {work more : Work (History × σ) α}
    (enough : work.Suffices more world.recorded other.recorded) {desk : Desk σ}
    (settled : (work.records world desk).1 ≠ .error .stalled) :
    more.records other desk = work.records world desk := by
  have same := enough { desk with outside := ([], desk.outside) } settled
  unfold records
  rw [same]

end Work

namespace TranscodePlan
variable {σ : Type} {world other : World σ} (mirrors : world.Mirrors id other)
  (patient : world.patience ≤ other.patience) (plan : TranscodePlan)
include mirrors

theorem drive_suffices {fewer more : Nat} (ordered : fewer ≤ more) (session : Standing) :
    (plan.drive fewer session).Suffices (plan.drive more session) world other := by
  intro desk settled
  have further := run_drive_add (rfl : (plan.drive fewer session).run world desk = (_, _)) settled
    (more - fewer)
  rw [Nat.add_sub_cancel' ordered] at further
  calc (plan.drive more session).run other desk
      _ = (plan.drive more session).run world desk := drive_mirrors mirrors plan more session desk
      _ = (plan.drive fewer session).run world desk := further

include patient

theorem runSelected_suffices :
    (plan.runSelected : Work σ TranscodeOutcome).Suffices plan.runSelected world other := by
  have granted {call : Call} {α β : Type} {read : call.Reply → Except Error α} {next : α → Work σ β}
      (goesOn : ∀ value, (next value).Suffices (next value) world other) :
      (ask call >>= fun reply => settle (read reply) >>= next).Suffices
        (ask call >>= fun reply => settle (read reply) >>= next) world other :=
    suffices_bind (mirrors_ask mirrors call).suffices fun _ =>
      suffices_bind (mirrors_settle _).suffices goesOn
  refine granted fun _ => granted fun input => ?_
  refine suffices_bind (openCodecs_mirrors mirrors plan input).suffices fun _ =>
    suffices_ensuring (closeCodecs_mirrors mirrors plan) (suffices_patience ?_)
  exact suffices_bind (drive_suffices mirrors plan patient {}) fun last =>
    (finish_mirrors mirrors plan last).suffices

/-- A transcode that does not stall comes to the same in a world that is more patient. -/
theorem transcode_suffices :
    (transcode plan : Work σ TranscodeOutcome).Suffices (transcode plan) world other := by
  refine suffices_bind (mirrors_ask mirrors _).suffices fun _ =>
    suffices_bind (mirrors_settle _).suffices fun _ => ?_
  exact suffices_bind (suffices_outcome (runSelected_suffices mirrors patient plan)) fun result =>
    (mirrors_bind (mirrors_ask mirrors _) fun _ => mirrors_settle result).suffices

end TranscodePlan

end Recode.Session

namespace Recode.Simulation
open Recode.Media Recode.Container Recode.Device Recode.Picture Recode.Progress Recode.Session
open Recode.Session.Work

def roundsFor (demuxer : Demuxer) (faults : CodecFaults) : Nat :=
  9 * demuxer.source.samples.length + 16 +
    3 * (2 * faults.decoderTryAgain + faults.encoderOutputTryAgain + faults.encoderInputTryAgain)

def transcodeWithin (rig : Rig Bench) (reporter : Option Reporter) (plan : TranscodePlan)
    (rounds : Nat) : Except Stop TranscodeOutcome × History :=
  (transcode plan).records (Rig.world Bench.answer rounds) { reporter, outside := rig }

/-- A transcode from an open demuxer ends after a number of rounds that is known beforehand, be it with
an error or after the encoder has put out the end of its stream. This is what the trial of it comes to,
and more rounds would change nothing. So it is whatever the demuxer holds, leaks and has selected,
whatever the codecs are told to get wrong, however the containers fail, and whenever the client cancels
or breaks down; for each round that does not break the session off lessens what is left to do. -/
theorem transcode_ends {rig : Rig Bench} {demuxer : Demuxer}
    (opened : rig.storage.library.demuxers.head? = some demuxer)
    (unreleased : demuxer.released = false) (plan : TranscodePlan) (reporter : Option Reporter) :
    let ran := transcodeWithin rig reporter plan
    let rounds := roundsFor demuxer rig.device.catalog.faults
    (ran rounds).1 ≠ .error .stalled ∧
      (∀ outcome, (ran rounds).1 = .ok outcome → 0 < (ran rounds).2.countP Exchange.endsOutput) ∧
      (∀ more ≥ rounds, ran more = ran rounds) ∧
      (Trial.transcode rig reporter plan).result = (ran rounds).1 ∧
      ∀ patience session stage desk, Lively plan.track.index session stage →
        desk.outside.Shows stage → session.encoder.isDone = false →
        (plan.step session).Lasts (Rig.world Bench.answer patience) desk fun next left =>
          ∃ after, left.outside.Shows after ∧ Lively plan.track.index next after ∧
            effort next after < effort session stage := by
  intro ran rounds
  let desk : Desk (Rig Bench) := { reporter, outside := rig }
  have result (patience : Nat) : (ran patience).1 =
      ((transcode plan).run (Rig.world Bench.answer patience) desk).1 :=
    records_result (transcode_mirrors (World.recorded_mirrors _) rfl plan) desk
  have settled : (ran rounds).1 ≠ .error .stalled := by
    rw [result]
    refine @transcode_ne_stalled rounds plan desk rig.device.catalog.faults demuxer opened rfl
      unreleased ?_
    unfold rounds roundsFor
    omega
  have further (more : Nat) (enough : more ≥ rounds) : ran more = ran rounds := by
    have mirrors : (Rig.world Bench.answer rounds).recorded.Mirrors id
        (Rig.world Bench.answer more).recorded := fun _ _ => rfl
    exact records_suffices (TranscodePlan.transcode_suffices mirrors enough plan) settled
  refine ⟨settled, fun outcome succeeded => ?_, further, ?_, fun _ _ _ _ => step_lessens⟩
  · have ends := (TranscodePlan.upholds_ends plan).transcode.records (Rig.world Bench.answer rounds)
      desk
    rcases recorded : (transcode plan).records (Rig.world Bench.answer rounds) desk with
      ⟨stop | value, history⟩
    · exact nomatch (congrArg Prod.fst recorded).symm.trans succeeded
    · simp only [recorded] at ends
      have same : (ran rounds).2 = history := congrArg Prod.snd recorded
      rw [same]
      exact ends.2
  · have counted := samples_le_of_opened opened
    have enough : rig.patienceFor rig.device.catalog.faults ≥ rounds := by
      unfold rounds roundsFor Rig.patienceFor
      omega
    calc (Trial.transcode rig reporter plan).result
        _ = (ran (rig.patienceFor rig.device.catalog.faults)).1 := (result _).symm
        _ = (ran rounds).1 := congrArg Prod.fst (further _ enough)

/-- With a decoder that stutters and has to be asked again, and an encoder that fails at last. -/
theorem transcode_ends_brief :
    let codec := CodecInfo.encoder "OMX.qcom.video.encoder.avc" videoAvc [.surface]
    let faults : CodecFaults := { stutter := true, decoderTryAgain := 2, failEncoderAfter := some 2 }
    (Trial.transcode (.forSession { leaks := true } briefSource ⟨.deg0, 4, 4⟩ [codec] faults {}) none
      (briefPlan codec (.surface (.ofCodecName codec.name) 4 4))).result ≠ .error .stalled := by
  intro codec faults
  obtain ⟨settled, -, -, same, -⟩ := transcode_ends
    (opened_forSession { leaks := true } briefSource ⟨.deg0, 4, 4⟩ [codec] faults {}) rfl
    (briefPlan codec (.surface (.ofCodecName codec.name) 4 4)) none
  rw [same]
  exact settled

end Recode.Simulation
