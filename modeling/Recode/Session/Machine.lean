/-!
Where the two codecs stand in the eyes of the session that drives them, and whose turn it is. The
encoder is always served first, so its output never backs up.
-/

namespace Recode.Session

inductive CodecState where
  /-- The output is drained, and the codec waits for more input. -/
  | needsInput
  /-- There may be output. -/
  | hasOutput
  /-- The input has ended, and output is still to come. -/
  | draining
  /-- The output has ended. -/
  | done
  deriving DecidableEq, Repr, Inhabited

structure Machine where
  state : CodecState := .needsInput
  inputEnded : Bool := false
  deriving DecidableEq, Repr, Inhabited

namespace Machine

def isDone (machine : Machine) : Bool := machine.state == .done

def endInput (machine : Machine) : Machine :=
  ⟨if machine.state = .needsInput then .draining else machine.state, true⟩

/-- The output is worth a poll again. -/
def rearm (machine : Machine) : Machine :=
  if machine.isDone then machine else { machine with state := .hasOutput }

def onTryAgain (machine : Machine) : Machine :=
  if machine.isDone then machine
  else { machine with state := if machine.inputEnded then .draining else .needsInput }

/-- A poll found a buffer or a change. -/
def onOutput (machine : Machine) : Machine := machine.rearm

def onEndOfStream (_ : Machine) : Machine := ⟨.done, true⟩

/-! Only the last buffer makes a codec done, and nothing undoes it. -/

@[simp] theorem isDone_endInput (machine : Machine) :
    machine.endInput.isDone = machine.isDone := by
  rcases machine with ⟨_ | _ | _ | _, _⟩ <;> rfl

@[simp] theorem isDone_rearm (machine : Machine) : machine.rearm.isDone = machine.isDone := by
  rcases machine with ⟨_ | _ | _ | _, _⟩ <;> rfl

@[simp] theorem isDone_onOutput (machine : Machine) : machine.onOutput.isDone = machine.isDone :=
  machine.isDone_rearm

@[simp] theorem isDone_onTryAgain (machine : Machine) :
    machine.onTryAgain.isDone = machine.isDone := by
  rcases machine with ⟨_ | _ | _ | _, _ | _⟩ <;> rfl

@[simp] theorem isDone_onEndOfStream (machine : Machine) : machine.onEndOfStream.isDone = true := rfl

@[simp] theorem inputEnded_endInput (machine : Machine) : machine.endInput.inputEnded = true := rfl

@[simp] theorem inputEnded_rearm (machine : Machine) :
    machine.rearm.inputEnded = machine.inputEnded := by
  unfold rearm
  split <;> rfl

@[simp] theorem inputEnded_onOutput (machine : Machine) :
    machine.onOutput.inputEnded = machine.inputEnded :=
  machine.inputEnded_rearm

@[simp] theorem inputEnded_onTryAgain (machine : Machine) :
    machine.onTryAgain.inputEnded = machine.inputEnded := by
  unfold onTryAgain
  split <;> rfl

theorem isDone_of_hasOutput {machine : Machine} (turn : machine.state = .hasOutput) :
    machine.isDone = false := by
  unfold isDone
  rw [turn]
  rfl

theorem state_rearm {machine : Machine} (running : machine.isDone = false) :
    machine.rearm.state = .hasOutput := by
  unfold rearm
  rw [if_neg (by simp [running])]

theorem state_onTryAgain {machine : Machine} (running : machine.isDone = false) :
    machine.onTryAgain.state ≠ .hasOutput := by
  unfold onTryAgain
  rw [if_neg (by simp [running])]
  dsimp only
  split <;> decide

end Machine

inductive Step where
  | finish
  | drainEncoder
  | drainDecoder
  | idle
  deriving DecidableEq, Repr, Inhabited

def nextStep (decoder encoder : CodecState) : Step :=
  match decoder, encoder with
  | _, .done => .finish
  | _, .hasOutput => .drainEncoder
  | .hasOutput, _ => .drainDecoder
  | _, _ => .idle

theorem nextStep_eq_finish {decoder encoder : CodecState} :
    nextStep decoder encoder = .finish ↔ encoder = .done := by
  cases decoder <;> cases encoder <;> decide

theorem nextStep_eq_drainEncoder {decoder encoder : CodecState} :
    nextStep decoder encoder = .drainEncoder ↔ encoder = .hasOutput := by
  cases decoder <;> cases encoder <;> decide

theorem nextStep_eq_drainDecoder {decoder encoder : CodecState} :
    nextStep decoder encoder = .drainDecoder ↔
      decoder = .hasOutput ∧ encoder ≠ .done ∧ encoder ≠ .hasOutput := by
  cases decoder <;> cases encoder <;> decide

theorem nextStep_eq_idle {decoder encoder : CodecState} :
    nextStep decoder encoder = .idle ↔
      decoder ≠ .hasOutput ∧ encoder ≠ .done ∧ encoder ≠ .hasOutput := by
  cases decoder <;> cases encoder <;> decide

/-- A coarse view of both machines. -/
inductive Phase where
  | feeding
  | decodeDrain
  | eosDecoder
  | encodeDrain
  | eosEncoder
  deriving DecidableEq, Repr, Inhabited

def Phase.of (decoder encoder : Machine) : Phase :=
  if encoder.isDone then .eosEncoder
  else if encoder.inputEnded then .encodeDrain
  else if decoder.isDone then .eosDecoder
  else if decoder.inputEnded then .decodeDrain
  else .feeding

end Recode.Session
