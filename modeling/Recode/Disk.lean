import Recode.Container.Path
import Recode.Media.Sample

/-!
The working directory of a job: empty, or holding the one thing that was put there. Of any other
path the first name that has to be looked up decides, since nothing of that name is there.
-/

namespace Recode
open Recode.Container Recode.Media

inductive Entry where
  | directory
  | file (content : Bytes)
  deriving DecidableEq, Repr, Inhabited

inductive Refusal where
  | notFound
  | nameTooLong
  | zeroInPath
  deriving DecidableEq, Repr, Inhabited

def Refusal.message : Refusal → String
  | .notFound => "No such file or directory (os error 2)"
  | .nameTooLong => "File name too long (os error 36)"
  | .zeroInPath => "file name contained an unexpected NUL byte"

structure Disk where
  /-- What was put there, and the path under which it was. -/
  kept : Option (Path × Entry) := none
  deriving DecidableEq, Repr, Inhabited

namespace Disk

def nameLimit : Nat := 255

def pathLimit : Nat := 4095

/-- Steps that stay or go up need no name to be looked up, and lead to a directory. -/
def isLookedUp (step : String) : Bool := decide (step ∉ ["", ".", ".."])

def lookElsewhere (path : Path) : Except Refusal Entry :=
  if path.any (· == '\x00') then .error .zeroInPath
  else if path.isEmpty then .error .notFound
  else if pathLimit < path.utf8ByteSize then .error .nameTooLong
  else
    match (path.splitOn "/").find? isLookedUp with
    | some name => .error (if nameLimit < name.utf8ByteSize then .nameTooLong else .notFound)
    | none => .ok .directory

def look (disk : Disk) (path : Path) : Except Refusal Entry :=
  match disk.kept with
  | some (place, entry) => if place.same path then .ok entry else lookElsewhere path
  | none => lookElsewhere path

/-- Only files can be removed. -/
def remove (disk : Disk) (path : Path) : Bool × Disk :=
  match disk.look path with
  | .ok (.file _) => (true, {})
  | .ok .directory | .error _ => (false, disk)

end Disk

end Recode
