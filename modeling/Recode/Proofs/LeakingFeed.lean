import Recode.Proofs.LeakingCopy

/-!
Feeding the decoder from a demuxer that leaks. Where the demuxers stand level, both feed the same, and
what else a cycle does, or a codec that is polled, does not come to the demuxers at all.
-/

namespace Recode.Session
open Recode.Media Recode.Container Recode.Device Recode.Progress
open Recode.Session.Work

namespace Call

theorem IsHandling.sparesDemuxers {call : Call} (handles : call.IsHandling) : call.SparesDemuxers := by
  unfold IsHandling at handles
  split at handles <;> first | exact handles.elim | trivial

theorem IsDownstream.sparesDemuxers {call : Call} (downstream : call.IsDownstream) :
    call.SparesDemuxers := by
  unfold IsDownstream at downstream
  split at downstream <;> first | exact downstream.elim | trivial

theorem IsCodecSetting.sparesDemuxers {call : Call} (setting : call.IsCodecSetting) :
    call.SparesDemuxers := by
  unfold IsCodecSetting at setting
  split at setting
  · trivial
  · exact setting.elim

end Call

namespace TranscodePlan
variable {σ : Type} {plan : TranscodePlan} {session : Standing}

/-- What is fed before the demuxer steps on. The answer tells whether it steps on, and the time of what
was fed. -/
def supply (plan : TranscodePlan) (session : Standing) :
    Work σ (Standing × Option (Option Int)) := do
  match ← storage .currentTrack with
  | none =>
      match ← plan.dequeueInput .decoder with
      | none => return (session, none)
      | some slot => return (← endFeeding session slot #[], none)
  | some index =>
      if index ≠ plan.track.index then return (session, some none)
      match ← plan.dequeueInput .decoder with
      | none => return (session, none)
      | some slot =>
          let buffer ← settle (← device (.inputBuffer .decoder slot))
          match ← settle (← storage (.read buffer.size)) with
          | none => return (← endFeeding session slot buffer, none)
          | some data =>
              let time := (← storage .currentTime).getD 0
              settle (← device (.queueInput .decoder slot (overlay data buffer)
                ⟨data.size, 0, time, .none⟩))
              return (session, some (some time))

def passOn (supplied : Standing × Option (Option Int)) : Work σ Standing := do
  match supplied.2 with
  | none => return supplied.1
  | some none =>
      let _ ← storage .advance
      return supplied.1
  | some (some time) =>
      let _ ← storage .advance
      tell (.report time)
      return supplied.1

theorem feed_eq : (plan.feed session : Work σ Standing) = plan.supply session >>= passOn := by
  simp only [feed, supply, bind_assoc]
  refine congrArg (_ >>= ·) (funext fun current => ?_)
  cases current with
  | none =>
    simp only [bind_assoc]
    refine congrArg (_ >>= ·) (funext fun lent => ?_)
    cases lent with
    | none => rfl
    | some slot => simp only [bind_assoc, pure_bind, passOn, bind_pure]
  | some index =>
    dsimp only
    split
    next foreign => rfl
    next own =>
      simp only [bind_assoc]
      refine congrArg (_ >>= ·) (funext fun lent => ?_)
      cases lent with
      | none => rfl
      | some slot =>
        simp only [bind_assoc]
        refine congrArg (_ >>= ·) (funext fun answer => congrArg (_ >>= ·) (funext fun buffer =>
          congrArg (_ >>= ·) (funext fun answer => congrArg (_ >>= ·) (funext fun found => ?_))))
        cases found with
        | none => simp only [bind_assoc, pure_bind, passOn, bind_pure]
        | some data =>
          simp only [bind_assoc]
          rfl

theorem supply_uses :
    (plan.supply session : Work σ (Standing × Option (Option Int))).Uses Call.LooksAtMost := by
  have asks {call : DeviceCall} : Call.LooksAtMost (.device call) := .inl trivial
  have ends {slot : Nat} {content : Bytes} :
      (endFeeding session slot content : Work σ Standing).Uses Call.LooksAtMost :=
    .granted (.call asks trivial) fun _ => .pure _
  refine .bind (.call trivial trivial) fun current => ?_
  cases current with
  | none =>
    refine .bind (dequeueInput_uses asks) fun lent => ?_
    cases lent with
    | none => exact .pure _
    | some slot => exact .bind ends fun _ => .pure _
  | some index =>
    dsimp only
    split
    next foreign => exact .pure _
    next own =>
      refine .bind (dequeueInput_uses asks) fun lent => ?_
      cases lent with
      | none => exact .pure _
      | some slot =>
        refine .granted (.call asks trivial) fun buffer => ?_
        refine .granted (.call trivial trivial) fun found => ?_
        cases found with
        | none => exact .bind ends fun _ => .pure _
        | some data =>
          refine .bind (.call trivial trivial) fun time => ?_
          exact .granted (.call asks trivial) fun _ => .pure _

theorem drainDecoder_spares :
    (plan.drainDecoder session : Work σ Standing).Uses Call.SparesDemuxers :=
  drainDecoder_uses_of trivial fun _ => Call.IsHandling.sparesDemuxers

end TranscodePlan

end Recode.Session

namespace Recode.Simulation
open Recode.Media Recode.Container Recode.Device Recode.Picture Recode.Progress Recode.Session
open Recode.Session.Work

section
variable {source : Source} {plan : TranscodePlan} {session : Standing} {leaky tight : Demuxer}
  {count patience track : Nat} {ahead behind : Desk (Rig Bench)}

theorem sparing_agrees {α : Type} {faces : List Demuxer → List Demuxer → Prop}
    {work : Work (Rig Bench) α} (uses : work.Uses Call.SparesDemuxers)
    (held : Abreast (Rig.Beside faces count) ahead behind) :
    work.Agrees work (Rig.world Bench.answer patience) (Rig.Beside faces count)
      (Rig.Beside faces count) ahead behind :=
  (interrupts_sparing.uses_shadows uses).agrees held

/-- Where the demuxers stand level, both are fed the same. -/
theorem feed_agrees (level : Demuxer.TwinsLevel source track leaky tight)
    (held : Abreast (Rig.Beside (NewestAre leaky tight) count) ahead behind) :
    (plan.feed session).Agrees (plan.feed session) (Rig.world Bench.answer patience)
      (Rig.Reading source track count) (Rig.Reading source track count) ahead behind := by
  have standing := level.toTwinsReading
  rw [TranscodePlan.feed_eq]
  refine agrees_bind (((interrupts_looking level).uses_shadows TranscodePlan.supply_uses).agrees held)
    (fun _ _ beside => beside.imp fun _ _ newest => ⟨leaky, tight, newest, standing⟩) ?_
  intro ⟨next, supplied⟩ left right _ held
  have stepped : Abreast (Rig.Reading source track count)
      { left with outside :=
        ((Rig.world Bench.answer patience).answer (.storage .advance) left.outside).2 }
      { right with outside :=
        ((Rig.world Bench.answer patience).answer (.storage .advance) right.outside).2 } :=
    newest_abreast level.advance ⟨held.reporter, held.announced,
      { held.outside with storage := held.outside.storage.advance }⟩
  rcases supplied with _ | _ | time
  · exact agrees_pure (newest_abreast standing held)
  · exact ⟨rfl, stepped⟩
  · have reports : (Work.tell (.report time) >>= fun _ => pure next : Work (Rig Bench) Standing).Uses
        Call.SparesDemuxers := .bind (.report (fun _ => trivial) time) fun _ => .pure next
    have told := @sparing_agrees count patience _ _ _ _ _ reports stepped
    exact told

theorem beginCycle_agrees (twins : Demuxer.TwinsReading source track leaky tight)
    (level : session.feeding = true → Demuxer.TwinsLevel source track leaky tight)
    (held : Abreast (Rig.Beside (NewestAre leaky tight) count) ahead behind) :
    (plan.beginCycle session).Agrees (plan.beginCycle session) (Rig.world Bench.answer patience)
      (Rig.Reading source track count) (Rig.Reading source track count) ahead behind := by
  have reading {left right : Desk (Rig Bench)}
      (held : Abreast (Rig.Beside (NewestAre leaky tight) count) left right) :
      Abreast (Rig.Reading source track count) left right :=
    newest_abreast twins held
  simp only [TranscodePlan.beginCycle, ite_bind]
  refine agrees_bind (sparing_agrees (.check trivial) held)
    (fun _ _ beside => beside.imp fun _ _ newest => ⟨leaky, tight, newest, twins⟩) ?_
  intro _ left right _ held
  have ends {next : Standing} : (plan.signalEnd next : Work (Rig Bench) Standing).Uses
      Call.SparesDemuxers :=
    TranscodePlan.signalEnd_uses.weaken fun _ ends => ends.isHandling.sparesDemuxers
  have rests (next : Standing) : ((if next.endPending then plan.signalEnd next else pure next) >>=
      fun told : Standing => (pure { told with
        decoder := told.decoder.rearm, encoder := told.encoder.rearm } : Work (Rig Bench) Standing)).Uses
        Call.SparesDemuxers :=
    .bind (.ite (fun pending => ends) fun told => .pure next) fun told => .pure _
  refine Agrees.bind ?_ fun next left right _ held =>
    sparing_agrees (rests next) held
  split
  next feeding => exact feed_agrees (level feeding) held
  next ended => exact agrees_pure (reading held)

end

end Recode.Simulation
