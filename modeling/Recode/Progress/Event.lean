/-!
What a job tells its listener: how much of the source it has been through, and in the end how it
came out.
-/

namespace Recode.Progress

/-- Times are microseconds of source material. -/
structure Mark where
  processed : Int
  total : Int
  deriving DecidableEq, Repr, Inhabited

namespace Mark

/-- Whole percent, rounded down and kept within 64 bits; an unknown total counts as nothing done. -/
def percentage (mark : Mark) : Int :=
  if mark.total = 0 then 0 else (mark.processed * 100 / mark.total).bmod UInt64.size

def isComplete (mark : Mark) : Bool := mark.processed ≥ mark.total

end Mark

inductive Outcome where
  | completed
  | emptyResult
  deriving DecidableEq, Repr, Inhabited

inductive Event where
  | progress (mark : Mark)
  | completed (outcome : Outcome)
  | failed (text : String)
  deriving DecidableEq, Repr, Inhabited

namespace Event

def isTerminal : Event → Bool
  | .progress _ => false
  | .completed _ | .failed _ => true

def mark? : Event → Option Mark
  | .progress mark => some mark
  | _ => none

end Event

def marks (events : List Event) : List Mark := events.filterMap Event.mark?

def terminal? (events : List Event) : Option Event := events.find? Event.isTerminal

def terminalCount (events : List Event) : Nat := events.countP Event.isTerminal

end Recode.Progress
