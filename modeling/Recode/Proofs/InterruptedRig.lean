import Recode.Proofs.Disturbances
import Recode.Proofs.Interruption
import Recode.Proofs.MovieGrowth

/-!
A simulated world that interrupts a compression, beside the same world that does not. Up to the
interruption they answer alike; there the one refuses, and from then on it holds a part of what the
other holds.
-/

namespace Recode.Session
open Recode.Media Recode.Container Recode.Device

def Call.Refused : (call : Call) → call.Reply → Prop
  | .device (.dequeueOutput _ _), answer =>
      ∃ error : Error, answer = .error error ∧ error.isTransient = false
  | .storage (.write _ _ _ _), answer => ∃ error, answer = .error error
  | .client .isCancelled, answer => answer = true
  | _, _ => False

end Recode.Session

namespace Recode.Simulation
open Recode.Media Recode.Container Recode.Device Recode.Progress Recode.Session

inductive Interruption where
  | decoder
  | encoder
  | writing
  | cancelling
  deriving DecidableEq, Repr, Inhabited

namespace Interruption

/-- Sets when the interruption comes: after so many outputs, writes or events, or never. -/
def set (interruption : Interruption) (after : Option Nat) (rig : Rig Bench) : Rig Bench :=
  match interruption with
  | .decoder =>
      { rig with device := rig.device.refault ({ · with failDecoderAfter := after }) }
  | .encoder =>
      { rig with device := rig.device.refault ({ · with failEncoderAfter := after }) }
  | .writing => { rig with storage := rig.storage.failingAfter after }
  | .cancelling => { rig with client := rig.client.cancelling after }

/-- The one kind of call that the interruption comes to. -/
def Strikes : Interruption → Call → Prop
  | .decoder, .device (.dequeueOutput .decoder _) | .encoder, .device (.dequeueOutput .encoder _)
  | .writing, .storage (.write _ _ _ _) | .cancelling, .client .isCancelled => True
  | _, _ => False

theorem unseen_answer_device {change : CodecFaults → CodecFaults} {call : DeviceCall}
    (unseen : Unseen (Bench.refault change) (Bench.answer call)) (patience : Nat) :
    Unseen (fun rig : Rig Bench => { rig with device := rig.device.refault change })
      ((Rig.world Bench.answer patience).answer (.device call)) := by
  intro rig
  dsimp only [Rig.world]
  rw [unseen]

theorem unseen_answer {interruption : Interruption} (after : Option Nat) {call : Call}
    (missed : ¬interruption.Strikes call) (patience : Nat) :
    Unseen (interruption.set after) ((Rig.world Bench.answer patience).answer call) := by
  cases interruption with
  | decoder =>
    have untimely := untimely_failDecoderAfter after
    cases call with
    | storage call => exact fun _ => rfl
    | client call => exact fun _ => rfl
    | device call =>
      refine unseen_answer_device ?_ patience
      by_cases polls : ∃ timeout, call = .dequeueOutput .encoder timeout
      · obtain ⟨timeout, rfl⟩ := polls
        exact fun _ => Bench.pollEncoder_refault fun _ _ =>
          Encoder.dequeueOutput_refault untimely rfl
      · refine Bench.unseen_answer untimely fun side timeout same => ?_
        subst same
        cases side with
        | decoder => exact missed trivial
        | encoder => exact polls ⟨timeout, rfl⟩
  | encoder =>
    have untimely := untimely_failEncoderAfter after
    cases call with
    | storage call => exact fun _ => rfl
    | client call => exact fun _ => rfl
    | device call =>
      refine unseen_answer_device ?_ patience
      by_cases polls : ∃ timeout, call = .dequeueOutput .decoder timeout
      · obtain ⟨timeout, rfl⟩ := polls
        exact fun _ => Bench.pollDecoder_refault fun _ _ =>
          Decoder.dequeueOutput_refault untimely rfl
      · refine Bench.unseen_answer untimely fun side timeout same => ?_
        subst same
        cases side with
        | decoder => exact polls ⟨timeout, rfl⟩
        | encoder => exact missed trivial
  | writing =>
    cases call with
    | device call => exact fun _ => rfl
    | client call => exact fun _ => rfl
    | storage call =>
      intro rig
      have unseen : Unseen (Storage.failingAfter after) (Storage.answer call) :=
        Storage.unseen_answer fun track buffer info isAudio same => missed (same ▸ trivial)
      dsimp only [Rig.world, set]
      rw [unseen]
  | cancelling =>
    cases call with
    | storage call => exact fun _ => rfl
    | device call => exact fun _ => rfl
    | client call =>
      intro rig
      have unseen : Unseen (Client.cancelling after) (Client.answer call) :=
        Client.unseen_answer fun same => missed (same ▸ trivial)
      dsimp only [Rig.world, set]
      rw [unseen]

/-- A world in which the interruption never comes answers nothing that would make it come. Had it
been to come, the call would have been refused, or it would not show. -/
theorem answer_interrupted {interruption : Interruption} {rig : Rig Bench}
    (never : interruption.set none rig = rig) (after : Nat) (call : Call) (patience : Nat) :
    let answer := (Rig.world Bench.answer patience).answer call
    let met := interruption.set (some after) rig
    interruption.set none (answer rig).2 = (answer rig).2 ∧
      (call.Refused (answer met).1 ∧
          (answer met).2.storage.library.muxers = met.storage.library.muxers ∧
          (answer met).2.client.events = met.client.events ∨
        answer met = ((answer rig).1, interruption.set (some after) (answer rig).2)) := by
  intro answer met
  by_cases strikes : interruption.Strikes call
  · unfold Strikes at strikes
    split at strikes
    next timeout =>
      obtain ⟨kept, struck⟩ := Bench.pollDecoder_failing (congrArg Rig.device never) after
      refine ⟨congrArg (fun device => { rig with device }) kept, struck.imp (fun refused => ?_) ?_⟩
      · exact ⟨⟨_, congrArg Prod.fst refused, rfl⟩, rfl, rfl⟩
      · exact fun unseen =>
          congrArg (fun polled => (polled.1, { rig with device := polled.2 })) unseen
    next timeout =>
      obtain ⟨kept, struck⟩ := Bench.pollEncoder_failing (congrArg Rig.device never) after
      refine ⟨congrArg (fun device => { rig with device }) kept, struck.imp (fun refused => ?_) ?_⟩
      · exact ⟨⟨_, congrArg Prod.fst refused, rfl⟩, rfl, rfl⟩
      · exact fun unseen =>
          congrArg (fun polled => (polled.1, { rig with device := polled.2 })) unseen
    next track buffer info isAudio =>
      obtain ⟨kept, struck⟩ :=
        Storage.write_failing (congrArg Rig.storage never) after track buffer info isAudio
      refine ⟨congrArg (fun storage => { rig with storage }) kept, struck.imp (fun refused => ?_) ?_⟩
      · exact ⟨refused.1, refused.2, rfl⟩
      · exact fun unseen =>
          congrArg (fun written => (written.1, { rig with storage := written.2 })) unseen
    next =>
      refine ⟨never, ?_⟩
      have wanted : rig.client.cancelled = false := (congrArg (·.client.cancelled) never).symm
      by_cases due : after ≤ rig.client.events.length
      · exact .inl ⟨decide_eq_true due, rfl, rfl⟩
      · have unseen : met.client.cancelled = rig.client.cancelled :=
          (decide_eq_false due).trans wanted.symm
        exact .inr (congrArg (·, met) unseen)
    next missed => exact strikes.elim
  · have unseen := unseen_answer none strikes patience rig
    rw [never] at unseen
    exact ⟨(congrArg Prod.snd unseen).symm, .inr (unseen_answer (some after) strikes patience rig)⟩

/-- Two worlds of which only the second comes to the interruption, so far alike. -/
def InStep (interruption : Interruption) (after : Nat) (ahead behind : Rig Bench) : Prop :=
  interruption.set none ahead = ahead ∧ behind = interruption.set (some after) ahead

theorem set_idem (interruption : Interruption) (first second : Option Nat) (rig : Rig Bench) :
    interruption.set second (interruption.set first rig) = interruption.set second rig := by
  cases interruption with
  | decoder | encoder =>
    obtain ⟨storage, ⟨catalog, decoder, encoder, surface, transform⟩, client⟩ := rig
    cases decoder <;> cases encoder <;> rfl
  | cancelling => rfl
  | writing =>
    simp only [set, Storage.failingAfter, Library.failingAfter, Muxer.failingAfter, List.map_map,
      Function.comp_def]

theorem set_events (interruption : Interruption) (after : Option Nat) (rig : Rig Bench) :
    (interruption.set after rig).client.events = rig.client.events := by
  cases interruption <;> rfl

theorem set_movie? (interruption : Interruption) (after : Option Nat) (rig : Rig Bench)
    (path : Path) :
    (interruption.set after rig).storage.library.movie? path =
      rig.storage.library.movie? path := by
  cases interruption with
  | decoder => rfl
  | encoder => rfl
  | cancelling => rfl
  | writing =>
    dsimp only [set, Storage.failingAfter, Library.failingAfter, Library.movie?]
    rw [List.find?_map, Option.map_map]
    rfl

theorem set_precedes (interruption : Interruption) (after : Option Nat) (rig : Rig Bench) :
    (interruption.set after rig).Precedes rig := by
  refine ⟨?_, interruption.set_events after rig ▸ List.prefix_refl _⟩
  cases interruption with
  | decoder => exact .of_muxers_eq rfl
  | encoder => exact .of_muxers_eq rfl
  | cancelling => exact .of_muxers_eq rfl
  | writing =>
    exact List.forall₂_map_left_iff.mpr (List.forall₂_same.mpr fun _ _ => ⟨rfl, .refl _⟩)

section
variable {interruption : Interruption} {after patience : Nat}

theorem inStep_set (rig : Rig Bench) :
    interruption.InStep after (interruption.set none rig) (interruption.set (some after) rig) :=
  ⟨interruption.set_idem none none rig, (interruption.set_idem none (some after) rig).symm⟩

/-- Worlds in step answer alike, or the second refuses and falls behind. -/
theorem InStep.answered {ahead behind : Rig Bench} (inStep : interruption.InStep after ahead behind)
    (call : Call) :
    let answer := (Rig.world Bench.answer patience).answer call
    call.Refused (answer behind).1 ∧ (answer behind).2.Precedes ahead ∨
      (answer behind).1 = (answer ahead).1 ∧
        interruption.InStep after (answer ahead).2 (answer behind).2 := by
  intro answer
  obtain ⟨never, rfl⟩ := inStep
  obtain ⟨kept, ⟨refused, muxers, events⟩ | unseen⟩ :=
    answer_interrupted never after call patience
  · have same : (answer (interruption.set (some after) ahead)).2.Precedes
        (interruption.set (some after) ahead) := .of_eq muxers events
    exact .inl ⟨refused, same.trans (interruption.set_precedes (some after) ahead)⟩
  · obtain ⟨same, stays⟩ := Prod.ext_iff.mp unseen
    exact .inr ⟨same, kept, stays⟩

theorem InStep.steady {ahead behind : Rig Bench} (inStep : interruption.InStep after ahead behind)
    {call : Call} (steady : call.IsSteady) :
    let answer := (Rig.world Bench.answer patience).answer call
    (answer behind).1 = (answer ahead).1 ∧
      interruption.InStep after (answer ahead).2 (answer behind).2 := by
  rcases inStep.answered call with ⟨refused, -⟩ | alike
  · unfold Call.Refused at refused
    split at refused
    next => exact steady.elim
    next => exact steady.elim
    next => exact steady.elim
    next => exact refused.elim
  · exact alike

theorem shadows_refusal {α : Type} {call : Call} {next : call.Reply → Work (Rig Bench) α}
    (stays : call.StaysWithMovie)
    (fails : ∀ reply, call.Refused reply → ∃ error, next reply = Work.fail error)
    (goesOn : ∀ reply, ∃ answer, next reply = Work.settle answer) :
    (Work.ask call >>= next).Shadows (Rig.world Bench.answer patience)
      (Rig.world Bench.answer patience) (interruption.InStep after)
      fun ahead behind => behind.Precedes ahead := by
  refine Work.shadows_refused (fun ahead behind inStep => ?_) (fun reply => ?_) fun reply => ?_
  · refine (inStep.answered call).imp (fun ⟨refused, precedes⟩ => ⟨fails _ refused, ?_⟩) id
    exact precedes.trans (ahead.precedes_answer stays)
  · obtain ⟨answer, same⟩ := goesOn reply
    exact same ▸ Work.shadows_settle answer
  · obtain ⟨answer, same⟩ := goesOn reply
    exact same ▸ fun _ => Work.keeps_settle answer

theorem interrupts_steady :
    Work.Interrupts Call.IsSteady (Rig.world Bench.answer patience)
      (Rig.world Bench.answer patience) (interruption.InStep after) fun _ _ => False where
  patience := rfl
  steady _ _ _ _ steady inStep := inStep.steady steady
  poll _ _ allowed := allowed.elim
  write _ _ _ _ allowed := allowed.elim
  check allowed := allowed.elim
  ahead _ _ _ _ never := never
  closing _ _ _ _ _ never := never

/-- Short of a new movie, a world that was interrupted falls behind and stays behind. -/
theorem interrupts_movie :
    Work.Interrupts Call.StaysWithMovie (Rig.world Bench.answer patience)
      (Rig.world Bench.answer patience) (interruption.InStep after)
      fun ahead behind => behind.Precedes ahead where
  patience := rfl
  steady _ _ _ _ steady inStep := inStep.steady steady
  poll side timeout _ := by
    refine shadows_refusal trivial (fun reply ⟨error, refused, lasting⟩ => ⟨error, ?_⟩) fun reply =>
      ⟨_, rfl⟩
    rw [refused, retried, lasting]
    rfl
  write track buffer info isAudio _ := by
    refine shadows_refusal trivial (fun reply ⟨error, refused⟩ => ⟨error, ?_⟩) fun reply => ⟨_, rfl⟩
    rw [refused]
    rfl
  check _ := by
    refine shadows_refusal trivial (fun reply refused => ⟨.cancelled, if_pos refused⟩) fun reply => ?_
    cases reply with
    | false => exact ⟨.ok (), rfl⟩
    | true => exact ⟨.error .cancelled, rfl⟩
  ahead call ahead behind stays precedes := precedes.trans (ahead.precedes_answer stays)
  closing call ahead behind _ closing precedes := (behind.answer_precedes closing).trans precedes

end

end Interruption

end Recode.Simulation
