/-!
When two written paths name the same place. Empty steps and steps that stay where they are do not
count, except that a path may say at its start that it is relative to the current place.
-/

namespace Recode.Container

abbrev Path := String

namespace Path

/-- The steps of a path; an absolute path begins with an empty step. -/
def steps (path : Path) : List String :=
  match (path.splitOn "/").filter (· ≠ "") with
  | first :: rest =>
      let onward := rest.filter (· ≠ ".")
      if path.startsWith "/" then "" :: (first :: rest).filter (· ≠ ".") else first :: onward
  | [] => if path.startsWith "/" then [""] else []

def same (left right : Path) : Bool := left.steps == right.steps

end Path

end Recode.Container
