import Recode.Simulation.Bench
import Recode.Simulation.Client
import Recode.Simulation.Storage

/-! A whole simulated world around a compression, put together from its three sides. -/

namespace Recode.Simulation
open Recode.Session

structure Rig (δ : Type) where
  storage : Storage
  device : δ
  client : Client
  deriving DecidableEq, Repr, Inhabited

namespace Rig
variable {δ : Type}

def world (device : (call : DeviceCall) → δ → call.Reply × δ) (patience : Nat) :
    World (Rig δ) where
  answer
    | .storage call, rig =>
        let (reply, storage) := rig.storage.answer call
        (reply, { rig with storage })
    | .device call, rig =>
        let (reply, next) := device call rig.device
        (reply, { rig with device := next })
    | .client call, rig =>
        let (reply, client) := rig.client.answer call
        (reply, { rig with client })
  patience := patience

/-- Samples in all registered sources and opened demuxers. -/
def sampleCount (rig : Rig δ) : Nat :=
  let library := rig.storage.library
  (library.sources.flatMap (·.2.samples)).length
    + (library.demuxers.flatMap (·.source.samples)).length

/-- Rounds enough for every sample to be fed, decoded and encoded, and for every poll that has to be
repeated. -/
def patienceFor (rig : Rig δ) (faults : CodecFaults) : Nat :=
  16 * (rig.sampleCount + 4) + 4 * (2 * faults.decoderTryAgain + faults.encoderOutputTryAgain
    + faults.encoderInputTryAgain)

end Rig

end Recode.Simulation
