import Recode.Media.Sample

/-!
An encoder's configuration buffer holds two parameter sets, each behind a start code. It is cut at
the last start code that does not stand at its very beginning.
-/

namespace Recode.Session
open Recode.Media

def startCode : Bytes := #[0, 0, 0, 1]

def startsAt (buffer : Bytes) (offset : Nat) : Bool :=
  buffer.extract offset (offset + startCode.size) == startCode

/-- The last place behind the beginning, and not behind `limit`, at which a start code stands. -/
def lastStart? (buffer : Bytes) : Nat → Option Nat
  | 0 => none
  | limit + 1 => if startsAt buffer (limit + 1) then some (limit + 1) else lastStart? buffer limit

def splitParameterSets (buffer : Bytes) : Option (Bytes × Bytes) :=
  (lastStart? buffer buffer.size).map fun offset =>
    (buffer.extract 0 offset, buffer.extract offset buffer.size)

/-- The same cut as it is searched for: from the end backwards, for the last byte of a start code with
its zeros before it. The search stops where a start code would be at the very beginning. -/
def cutBackwards (buffer : Bytes) : (count : Nat) → count ≤ buffer.size → Option (Bytes × Bytes)
  | 0, _ => none
  | place + 1, within =>
      if place ≤ 3 then none
      else if buffer[place] = 1 ∧ buffer[place - 1] = 0 ∧ buffer[place - 2] = 0 ∧
          buffer[place - 3] = 0 then
        some (buffer.extract 0 (place - 3), buffer.extract (place - 3) buffer.size)
      else cutBackwards buffer place (Nat.le_of_succ_le within)

end Recode.Session
