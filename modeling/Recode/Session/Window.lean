/-!
The part of a source that is kept: the presentation times from a start, up to but without an end.
-/

namespace Recode.Session

/-- A start that is not positive keeps everything from the beginning; without an end the window runs
to the end of the source. -/
structure Window where
  start : Int := 0
  stop? : Option Int := none
  deriving DecidableEq, Repr, Inhabited

namespace Window

/-- Both ends within the source; a duration that is not positive is unknown and changes nothing. -/
def clamped (window : Window) (duration : Int) : Window :=
  if duration ≤ 0 then window else
    let within (time : Int) : Int := max 0 (min duration time)
    ⟨within window.start, window.stop?.map within⟩

def seekTarget (window : Window) : Int := max window.start 0

def isBeforeStart (window : Window) (time : Int) : Bool :=
  decide (0 < window.start) && decide (time < window.start)

def hasEnded (window : Window) (time : Int) : Bool :=
  match window.stop? with
  | some stop => decide (stop ≤ time)
  | none => false

def isEmpty (window : Window) : Bool :=
  match window.stop? with
  | some stop => decide (stop ≤ window.start)
  | none => false

def admits (window : Window) (time : Int) : Bool :=
  !window.isBeforeStart time && !window.hasEnded time

end Window

end Recode.Session
