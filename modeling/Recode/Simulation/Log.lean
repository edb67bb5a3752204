import Recode.Media.Format

/-! What simulated codecs are told to get wrong, and what they keep account of. -/

namespace Recode.Simulation
open Recode.Media

structure CodecFaults where
  /-- Outputs of the decoder after which it fails. -/
  failDecoderAfter : Option Nat := none
  /-- Outputs of the encoder after which it fails. -/
  failEncoderAfter : Option Nat := none
  failEncoderCreation : Bool := false
  /-- The encoder announces its format instead of putting out a configuration buffer. -/
  formatChangeFirst : Bool := false
  /-- Every second poll of the decoder finds nothing. -/
  stutter : Bool := false
  /-- How often the decoder's polls, of either kind, ask to be tried again. -/
  decoderTryAgain : Nat := 0
  encoderOutputTryAgain : Nat := 0
  encoderInputTryAgain : Nat := 0
  deriving DecidableEq, Repr, Inhabited

structure Log where
  decodersCreated : Nat := 0
  decodersReleased : Nat := 0
  encodersCreated : Nat := 0
  encodersReleased : Nat := 0
  surfacesReleased : Nat := 0
  decoderInputs : Nat := 0
  /-- The times of the frames submitted to an encoder. -/
  encoderFrames : List Int := []
  lastSurfaceFrame : Option (Nat × Nat) := none
  rawInputSizes : List Nat := []
  encoderEndOfStream : Bool := false
  encoderFormat : Option Format := none
  decoderFormat : Option Format := none
  deriving DecidableEq, Repr, Inhabited

end Recode.Simulation
