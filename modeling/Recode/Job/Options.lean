import Recode.Error
import Recode.Session.Window

/-! What a user asks of one compression; what is left open follows from the source. -/

namespace Recode.Job
open Recode.Session

structure Options where
  width : Option Nat := none
  height : Option Nat := none
  bitrate : Option Nat := none
  start : Option Int := none
  stop : Option Int := none
  deriving DecidableEq, Repr, Inhabited

namespace Options

def window (options : Options) : Window := ⟨options.start.getD 0, options.stop⟩

def validate (options : Options) : Except Error Unit := do
  if options.width = some 0 then throw (.invalidParameter "width must be positive")
  if options.height = some 0 then throw (.invalidParameter "height must be positive")
  if options.bitrate = some 0 then throw (.invalidParameter "bitrate must be positive")
  positive "start" options.start
  positive "end" options.stop
where
  positive (name : String) (time : Option Int) : Except Error Unit :=
    match time with
    | some time =>
        if time < 0 then .error (.invalidParameter s!"{name} {time}us is negative") else .ok ()
    | none => .ok ()

end Options

end Recode.Job
