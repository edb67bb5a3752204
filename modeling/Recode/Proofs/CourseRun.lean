import Recode.Proofs.CourseDecoded
import Recode.Proofs.CourseEncoded

/-!
A session that is on its course comes to its end. Every step leaves less to do, so the steps that it
is given are enough, and when the encoder is done all that was to be drawn is written.
-/

namespace Recode.Simulation
open Recode.Media Recode.Container Recode.Device Recode.Picture Recode.Progress Recode.Session
open Recode.Session.Work

theorem Surface.frames_release (surface : Surface) (log : Log) :
    (surface.release log).2.encoderFrames = log.encoderFrames := by
  unfold Surface.release
  split <;> rfl

theorem Decoder.frames_release (decoder : Decoder) (log : Log) :
    (decoder.release log).2.encoderFrames = log.encoderFrames := by
  unfold Decoder.release
  split <;> rfl

theorem Encoder.frames_release (encoder : Encoder) (log : Log) :
    (encoder.release log).2.encoderFrames = log.encoderFrames := by
  unfold Encoder.release
  split <;> rfl

namespace Course
variable {course : Course} {backdrop : Backdrop} {handled waiting muxed : List Int}
  {session : Standing} {stage : Stage}

def Ends (course : Course) (backdrop : Backdrop) (session : Standing) (desk : Desk (Rig Bench)) :
    Prop :=
  ∃ stage handled waiting muxed, desk = backdrop.desk stage ∧
    course.Follows handled waiting muxed session stage ∧ session.encoder.isDone = true

/-- With more steps than there is left to do, the session comes to its end. -/
theorem drive_ends (limit : Nat) (follows : course.Follows handled waiting muxed session stage)
    (enough : effort session stage < limit) :
    (course.plan.drive limit session).Reaches backdrop.world (backdrop.desk stage)
      (course.Ends backdrop) := by
  induction limit generalizing handled waiting muxed session stage with
  | zero => omega
  | succ limit ih =>
    have onward (next : Standing) (left : Desk (Rig Bench))
        (proceeds : course.Proceeds backdrop (effort session stage) next left) :
        (course.plan.drive limit next).Reaches backdrop.world left (course.Ends backdrop) := by
      obtain ⟨after, handled, waiting, muxed, rfl, follows, less⟩ := proceeds
      exact ih follows (by omega)
    unfold TranscodePlan.drive
    cases turn : nextStep session.decoder.state session.encoder.state with
    | finish =>
      have isDone : session.encoder.isDone = true := by
        simp [Machine.isDone, nextStep_eq_finish.mp turn]
      exact reaches_pure ⟨stage, handled, waiting, muxed, rfl, follows, isDone⟩
    | idle => exact reaches_bind ((beginCycle_proceeds follows turn).imp onward)
    | drainEncoder =>
      have polled := nextStep_eq_drainEncoder.mp turn
      exact reaches_bind ((drainEncoder_proceeds follows polled).imp onward)
    | drainDecoder =>
      have polled := (nextStep_eq_drainDecoder.mp turn).1
      exact reaches_bind ((drainDecoder_proceeds follows polled).imp onward)

/-- The encoder's frames are of these times, and the movie has one track with samples of the same.
Both containers can be used further. -/
structure Complete (course : Course) (times : List Int) (stage : Stage) : Prop where
  frames : stage.log.encoderFrames = times
  movie : ∃ track, stage.muxer.movie.tracks = [track] ∧ track.isAudio = false ∧
    track.samples.map (·.time) = times
  reads : stage.demuxer.Reads course.plan.track.index
  reading : stage.demuxer.source = course.source
  accepts : stage.muxer.Accepts
  faults : stage.muxer.faults = course.faults

def Leaves (course : Course) (backdrop : Backdrop) (times : List Int) (desk : Desk (Rig Bench)) :
    Prop :=
  ∃ stage, desk = backdrop.desk stage ∧ course.Complete times stage

def result (course : Course) : TranscodeOutcome :=
  let frames := course.whole.drop course.lost
  ⟨0, frames.head?, frames.length, min course.lost course.whole.length, frames.length⟩

theorem Follows.atEnd (follows : course.Follows handled waiting muxed session stage)
    (isDone : session.encoder.isDone = true) :
    course.whole = handled ∧ stage.log.encoderFrames = course.whole.drop course.lost ∧
      muxed = course.whole.drop course.lost := by
  have outflow := follows.outflow
  have told := outflow.told
  rw [outflow.ended isDone] at told
  have decoded : session.decoder.isDone = true := by
    cases running : session.decoder.isDone with
    | true => rfl
    | false => simp [running] at told
  have whole := follows.inflow.drained decoded
  have frames : stage.log.encoderFrames = course.whole.drop course.lost :=
    whole ▸ follows.drawn.frames
  exact ⟨whole, frames, (outflow.finished isDone).trans frames⟩

theorem finish_completes (follows : course.Follows handled waiting muxed session stage)
    (isDone : session.encoder.isDone = true) :
    (course.plan.finish session).Reaches backdrop.world (backdrop.desk stage)
      fun outcome left => outcome = course.result ∧
        course.Leaves backdrop (course.whole.drop course.lost) left := by
  obtain ⟨whole, frames, all⟩ := follows.atEnd isDone
  have drawn := follows.drawn
  have answer : (⟨0, session.firstTime, session.rendered, session.dropped, session.written⟩ :
      TranscodeOutcome) = course.result := by
    unfold result
    rw [drawn.firstTime, drawn.rendered, drawn.dropped, follows.outflow.written, frames, all, whole]
  unfold TranscodePlan.finish
  cases sent : stage.encoder.configSent with
  | false =>
    obtain ⟨unknown, empty, nothing⟩ := follows.outflow.movie.unopened sent
    have ready := follows.ready
    refine reaches_after (run_register backdrop stage ready.accepts unknown empty _)
      (reaches_pure ⟨answer, _, rfl, frames, ⟨_, rfl, rfl, ?_⟩, ready.reads, ready.reading,
        { ready.accepts with }, ready.faults⟩)
    rw [← all, nothing]
    rfl
  | true =>
    obtain ⟨known, track, only, isVideo, times⟩ := follows.outflow.movie.opened sent
    have registered : (TranscodePlan.register session course.plan.plainFormat).run backdrop.world
        (backdrop.desk stage) = (.ok session, backdrop.desk stage) := by
      unfold TranscodePlan.register
      rw [known]
      rfl
    have ready := follows.ready
    refine reaches_after registered (reaches_pure ⟨?_, stage, rfl, frames, ⟨track, only, isVideo, ?_⟩,
      ready.reads, ready.reading, ready.accepts, ready.faults⟩)
    · rw [known]
      exact answer
    · rw [times, all]

section
variable {times : List Int} (complete : course.Complete times stage)
include complete

theorem shutDown_leaves (side : Side) :
    (TranscodePlan.shutDown side).Reaches backdrop.world (backdrop.desk stage)
      fun _ => course.Leaves backdrop times := by
  unfold TranscodePlan.shutDown
  cases side with
  | decoder =>
    refine reaches_after (backdrop.run_stop_decoder stage) ⟨_, _, backdrop.run_release_decoder _, ?_⟩
    exact ⟨_, rfl, { complete with frames := (Decoder.frames_release _ _).trans complete.frames }⟩
  | encoder =>
    refine reaches_after (backdrop.run_stop_encoder stage) ⟨_, _, backdrop.run_release_encoder _, ?_⟩
    exact ⟨_, rfl, { complete with frames := (Encoder.frames_release _ _).trans complete.frames }⟩

theorem releaseSurface_leaves (plan : TranscodePlan) :
    plan.releaseSurface.Reaches backdrop.world (backdrop.desk stage)
      fun _ => course.Leaves backdrop times := by
  unfold TranscodePlan.releaseSurface
  split
  next onSurface =>
    cases drawn : stage.surface with
    | none => exact ⟨_, _, backdrop.run_releaseSurface_none stage drawn, stage, rfl, complete⟩
    | some surface =>
      exact ⟨_, _, backdrop.run_releaseSurface stage drawn, _, rfl,
        { complete with frames := (surface.frames_release stage.log).trans complete.frames }⟩
  next raw => exact reaches_pure ⟨stage, rfl, complete⟩

theorem closeCodecs_leaves (plan : TranscodePlan) :
    plan.closeCodecs.Reaches backdrop.world (backdrop.desk stage)
      fun _ => course.Leaves backdrop times := by
  have unseen : course.Complete times { stage with transform := stage.transform.release } :=
    { complete with }
  unfold TranscodePlan.closeCodecs
  apply reaches_after (backdrop.run_releaseTransform stage)
  refine reaches_bind ((releaseSurface_leaves unseen plan).imp fun _ left leaves => ?_)
  obtain ⟨_, rfl, complete⟩ := leaves
  refine reaches_bind ((shutDown_leaves complete .decoder).imp fun _ left leaves => ?_)
  obtain ⟨_, rfl, complete⟩ := leaves
  exact shutDown_leaves complete .encoder

end

/-- The session is driven and finished, and the codecs are closed behind it. -/
theorem driven_leaves (follows : course.Follows handled waiting muxed session stage)
    (enough : effort session stage < backdrop.patience) :
    (ensuring course.plan.closeCodecs do
      course.plan.finish (← course.plan.drive (← patience) session)).Reaches backdrop.world
      (backdrop.desk stage) fun outcome left => outcome = course.result ∧
        course.Leaves backdrop (course.whole.drop course.lost) left := by
  refine reaches_ensuring (reaches_patience (reaches_bind ?_))
  apply (drive_ends backdrop.patience follows enough).imp
  intro last left ends
  obtain ⟨after, handled, waiting, muxed, rfl, follows, isDone⟩ := ends
  apply (finish_completes follows isDone).imp
  intro outcome left finished
  obtain ⟨same, after, rfl, complete⟩ := finished
  exact (closeCodecs_leaves complete course.plan).imp fun _ left leaves => ⟨same, leaves⟩

end Course

end Recode.Simulation
