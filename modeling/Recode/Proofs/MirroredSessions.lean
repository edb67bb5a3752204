import Recode.Proofs.Mirroring
import Recode.Session.Copy
import Recode.Session.Transcode

/-!
Sessions in two worlds of which one is a view of the other. Part by part, a copy and a transcode go
the same way in both.
-/

namespace Recode.Session
open Recode.Media Recode.Container Recode.Picture Recode.Progress
open Recode.Session.Work

section
variable {τ σ : Type} {view : τ → σ} {world : World τ} {other : World σ}
  (mirrors : world.Mirrors view other)
include mirrors

namespace CopyPlan
variable (plan : CopyPlan)

theorem store_mirrors (copying : CopyStanding) (size : Nat) (time : Int) :
    (plan.store copying size time).Mirrors view world other (plan.store copying size time) := by
  refine mirrors_bind (mirrors_ask mirrors _) fun flags => mirrors_granted mirrors fun stored =>
    mirrors_ite ?_ (mirrors_pure _)
  exact mirrors_ite (mirrors_bind (mirrors_tell mirrors _) fun _ => mirrors_pure _) (mirrors_pure _)

theorem round_mirrors (copying : CopyStanding) :
    (plan.round copying).Mirrors view world other (plan.round copying) := by
  refine mirrors_bind (mirrors_checkCancelled mirrors) fun _ =>
    mirrors_bind (mirrors_ask mirrors _) fun current => ?_
  cases current with
  | none => exact mirrors_pure _
  | some index =>
    apply mirrors_ite
    · exact mirrors_bind (mirrors_ask mirrors _) fun _ => mirrors_pure _
    · refine mirrors_granted mirrors fun found => ?_
      cases found with
      | none => exact mirrors_pure _
      | some data =>
        refine mirrors_bind (mirrors_ask mirrors _) fun time => mirrors_ite (mirrors_pure _) ?_
        exact mirrors_bind (store_mirrors mirrors plan _ _ _) fun _ =>
          mirrors_bind (mirrors_ask mirrors _) fun _ => mirrors_pure _

theorem rounds_mirrors (limit : Nat) (copying : CopyStanding) :
    (plan.rounds limit copying).Mirrors view world other (plan.rounds limit copying) := by
  induction limit generalizing copying with
  | zero => exact mirrors_stop .stalled
  | succ limit ih =>
    exact mirrors_bind (round_mirrors mirrors plan copying) fun _ =>
      mirrors_ite (ih _) (mirrors_pure _)

theorem run_mirrors (alike : other.patience = world.patience) :
    (plan.run : Work τ CopyOutcome).Mirrors view world other plan.run :=
  mirrors_granted mirrors fun _ => mirrors_bind (mirrors_patience alike) fun _ =>
    mirrors_bind (rounds_mirrors mirrors plan _ _) fun _ => mirrors_pure _

end CopyPlan

theorem copyTrack_mirrors (alike : other.patience = world.patience) (track : Track) (window : Window)
    (reporting : Bool) :
    (copyTrack track window reporting : Work τ CopyOutcome).Mirrors view world other
      (copyTrack track window reporting) := by
  refine mirrors_granted mirrors fun destination => ?_
  cases track.format.maxInputSize with
  | none => exact mirrors_stop _
  | some room =>
    refine mirrors_granted mirrors fun _ => ?_
    exact mirrors_bind (mirrors_outcome (CopyPlan.run_mirrors mirrors _ alike)) fun result =>
      mirrors_bind (mirrors_ask mirrors _) fun _ => mirrors_settle result

namespace TranscodePlan
variable (plan : TranscodePlan)

theorem dequeueInput_mirrors (side : Side) :
    (plan.dequeueInput side).Mirrors view world other (plan.dequeueInput side) :=
  mirrors_bind (mirrors_ask mirrors _) fun _ => mirrors_settle _

theorem dequeueOutput_mirrors (side : Side) :
    (plan.dequeueOutput side).Mirrors view world other (plan.dequeueOutput side) :=
  mirrors_bind (mirrors_ask mirrors _) fun _ => mirrors_settle _

theorem endFeeding_mirrors (session : Standing) (slot : Nat) (content : Bytes) :
    (endFeeding session slot content).Mirrors view world other (endFeeding session slot content) :=
  mirrors_granted mirrors fun _ => mirrors_pure _

theorem feed_mirrors (session : Standing) :
    (plan.feed session).Mirrors view world other (plan.feed session) := by
  refine mirrors_bind (mirrors_ask mirrors _) fun current => ?_
  cases current with
  | none =>
    refine mirrors_bind (dequeueInput_mirrors mirrors plan _) fun lent => ?_
    cases lent with
    | none => exact mirrors_pure _
    | some slot => exact endFeeding_mirrors mirrors session slot _
  | some index =>
    apply mirrors_ite
    · exact mirrors_bind (mirrors_ask mirrors _) fun _ => mirrors_pure _
    · refine mirrors_bind (dequeueInput_mirrors mirrors plan _) fun lent => ?_
      cases lent with
      | none => exact mirrors_pure _
      | some slot =>
        refine mirrors_granted mirrors fun buffer => mirrors_granted mirrors fun found => ?_
        cases found with
        | none => exact endFeeding_mirrors mirrors session slot _
        | some data =>
          refine mirrors_bind (mirrors_ask mirrors _) fun time => mirrors_granted mirrors fun _ => ?_
          exact mirrors_bind (mirrors_ask mirrors _) fun _ =>
            mirrors_bind (mirrors_tell mirrors _) fun _ => mirrors_pure _

theorem signalEnd_mirrors (session : Standing) :
    (plan.signalEnd session).Mirrors view world other (plan.signalEnd session) := by
  apply mirrors_ite
  · exact mirrors_granted mirrors fun _ => mirrors_pure _
  · refine mirrors_bind (dequeueInput_mirrors mirrors plan _) fun lent => ?_
    cases lent with
    | none => exact mirrors_pure _
    | some slot => exact mirrors_granted mirrors fun _ => mirrors_pure _

theorem register_mirrors (session : Standing) (format : Format) :
    (register session format).Mirrors view world other (register session format) := by
  unfold register
  cases session.destination with
  | some track => exact mirrors_pure _
  | none => exact mirrors_granted mirrors fun _ => mirrors_pure _

theorem storeEncoded_mirrors (session : Standing) (index : Nat) (info : SampleInfo) :
    (plan.storeEncoded session index info).Mirrors view world other
      (plan.storeEncoded session index info) := by
  refine mirrors_granted mirrors fun buffer => mirrors_ite (mirrors_ite (mirrors_pure _) ?_) ?_
  · cases info.slice? buffer with
    | none => exact mirrors_stop _
    | some configuration => exact register_mirrors mirrors session _
  · cases session.destination with
    | none => exact mirrors_stop _
    | some track =>
      exact mirrors_granted mirrors fun stored => mirrors_ite (mirrors_pure _) (mirrors_pure _)

theorem drainEncoder_mirrors (session : Standing) :
    (plan.drainEncoder session).Mirrors view world other (plan.drainEncoder session) := by
  simp only [drainEncoder, ite_bind]
  refine mirrors_bind (dequeueOutput_mirrors mirrors plan _) fun status => ?_
  cases status with
  | tryAgainLater => exact mirrors_pure _
  | buffersChanged => exact mirrors_pure _
  | formatChanged format =>
    exact mirrors_bind (register_mirrors mirrors session format) fun _ => mirrors_pure _
  | buffer index info =>
    refine mirrors_bind (mirrors_ite (storeEncoded_mirrors mirrors plan session index info)
      (mirrors_pure _)) fun next => ?_
    exact mirrors_granted mirrors fun _ => mirrors_pure _

theorem submit_mirrors (time : Int) :
    (plan.submit time).Mirrors view world other (plan.submit time) := by
  apply mirrors_ite
  · refine mirrors_granted mirrors fun frame => mirrors_bind (mirrors_ask mirrors _) fun _ => ?_
    exact mirrors_granted mirrors fun _ => mirrors_pure _
  · refine mirrors_bind (dequeueInput_mirrors mirrors plan _) fun lent => ?_
    cases lent with
    | none => exact mirrors_pure _
    | some slot =>
      refine mirrors_granted mirrors fun frame => mirrors_granted mirrors fun buffer => ?_
      refine mirrors_bind (mirrors_settle _) fun converted => ?_
      exact mirrors_granted mirrors fun _ => mirrors_pure _

theorem renderFrame_mirrors (session : Standing) (time : Int) :
    (plan.renderFrame session time).Mirrors view world other (plan.renderFrame session time) := by
  refine mirrors_bind (mirrors_ask mirrors _) fun delivered => ?_
  cases delivered with
  | error refused => exact mirrors_pure _
  | ok arrived =>
    exact mirrors_bind (submit_mirrors mirrors plan time) fun taken =>
      mirrors_ite (mirrors_pure _) (mirrors_pure _)

theorem handleDecoded_mirrors (session : Standing) (index : Nat) (info : SampleInfo) :
    (plan.handleDecoded session index info).Mirrors view world other
      (plan.handleDecoded session index info) := by
  simp only [handleDecoded, ite_bind]
  refine mirrors_granted mirrors fun _ =>
    mirrors_bind (mirrors_ite (renderFrame_mirrors mirrors plan _ _) (mirrors_pure _)) fun next => ?_
  exact mirrors_ite (signalEnd_mirrors mirrors plan _) (mirrors_pure _)

theorem drainDecoder_mirrors (session : Standing) :
    (plan.drainDecoder session).Mirrors view world other (plan.drainDecoder session) := by
  refine mirrors_bind (dequeueOutput_mirrors mirrors plan _) fun status => ?_
  cases status with
  | tryAgainLater => exact mirrors_pure _
  | buffersChanged => exact mirrors_pure _
  | formatChanged format => exact mirrors_pure _
  | buffer index info =>
    exact mirrors_bind (handleDecoded_mirrors mirrors plan session index info) fun _ =>
      mirrors_pure _

theorem beginCycle_mirrors (session : Standing) :
    (plan.beginCycle session).Mirrors view world other (plan.beginCycle session) := by
  simp only [beginCycle, ite_bind]
  refine mirrors_bind (mirrors_checkCancelled mirrors) fun _ =>
    mirrors_bind (mirrors_ite (feed_mirrors mirrors plan session) (mirrors_pure _)) fun next => ?_
  exact mirrors_bind (mirrors_ite (signalEnd_mirrors mirrors plan next) (mirrors_pure _)) fun _ =>
    mirrors_pure _

theorem drive_mirrors (limit : Nat) (session : Standing) :
    (plan.drive limit session).Mirrors view world other (plan.drive limit session) := by
  induction limit generalizing session with
  | zero => exact mirrors_stop .stalled
  | succ limit ih =>
    unfold drive
    cases nextStep session.decoder.state session.encoder.state with
    | finish => exact mirrors_pure _
    | idle => exact mirrors_bind (beginCycle_mirrors mirrors plan session) ih
    | drainEncoder => exact mirrors_bind (drainEncoder_mirrors mirrors plan session) ih
    | drainDecoder => exact mirrors_bind (drainDecoder_mirrors mirrors plan session) ih

theorem shutDown_mirrors (side : Side) :
    (shutDown side).Mirrors view world other (shutDown side) :=
  mirrors_bind (mirrors_ask mirrors _) fun _ => mirrors_ask mirrors _

theorem releaseSurface_mirrors :
    (plan.releaseSurface).Mirrors view world other plan.releaseSurface :=
  mirrors_ite (mirrors_ask mirrors _) (mirrors_pure ())

theorem openCodecs_mirrors (input : Format) :
    (plan.openCodecs input).Mirrors view world other (plan.openCodecs input) := by
  simp only [openCodecs, ite_settle]
  refine mirrors_granted mirrors fun _ => mirrors_undoing (shutDown_mirrors mirrors _) ?_
  refine mirrors_granted mirrors fun _ => mirrors_bind (mirrors_ite
    (mirrors_bind (mirrors_ask mirrors _) fun _ => mirrors_settle _) (mirrors_pure ())) fun _ => ?_
  refine mirrors_undoing (releaseSurface_mirrors mirrors plan) ?_
  refine mirrors_granted mirrors fun _ => mirrors_granted mirrors fun _ => ?_
  refine mirrors_undoing (mirrors_ask mirrors _) (mirrors_granted mirrors fun _ => ?_)
  refine mirrors_undoing (shutDown_mirrors mirrors _) (mirrors_granted mirrors fun _ => ?_)
  exact mirrors_bind (mirrors_ask mirrors _) fun _ => mirrors_settle _

theorem closeCodecs_mirrors :
    (plan.closeCodecs).Mirrors view world other plan.closeCodecs :=
  mirrors_bind (mirrors_ask mirrors _) fun _ =>
    mirrors_bind (releaseSurface_mirrors mirrors plan) fun _ =>
      mirrors_bind (shutDown_mirrors mirrors _) fun _ => shutDown_mirrors mirrors _

theorem finish_mirrors (session : Standing) :
    (plan.finish session).Mirrors view world other (plan.finish session) :=
  mirrors_bind (register_mirrors mirrors session _) fun _ => mirrors_pure _

theorem runSelected_mirrors (alike : other.patience = world.patience) :
    (plan.runSelected : Work τ TranscodeOutcome).Mirrors view world other plan.runSelected := by
  refine mirrors_granted mirrors fun _ => mirrors_granted mirrors fun input =>
    mirrors_bind (openCodecs_mirrors mirrors plan input) fun _ =>
      mirrors_ensuring (closeCodecs_mirrors mirrors plan) ?_
  exact mirrors_bind (mirrors_patience alike) fun limit =>
    mirrors_bind (drive_mirrors mirrors plan limit {}) fun last => finish_mirrors mirrors plan last

end TranscodePlan

theorem transcode_mirrors (alike : other.patience = world.patience) (plan : TranscodePlan) :
    (transcode plan : Work τ TranscodeOutcome).Mirrors view world other (transcode plan) :=
  mirrors_granted mirrors fun _ =>
    mirrors_bind (mirrors_outcome (plan.runSelected_mirrors mirrors alike)) fun result =>
      mirrors_bind (mirrors_ask mirrors _) fun _ => mirrors_settle result

end

end Recode.Session
