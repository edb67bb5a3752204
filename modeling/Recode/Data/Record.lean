import Recode.Data.Value

/-!
Reading records out of values. A record is written as a table under the names of its fields, or as a
list of its fields in their order; what a table holds beyond the fields is passed over.
-/

namespace Recode.Data

/-- How a data format treats a list that is longer than the record it is read as. -/
inductive Surplus where
  | ignored
  | refused
  deriving DecidableEq, Repr, Inhabited

namespace Value

/-- The fields of a record as far as they are given. A moment stands for a table without any. -/
def fields (surplus : Surplus) (names : List String) : Value → Option (List (Option Value))
  | .table entries => some (names.map (entries.lookup ·))
  | .list items =>
      if surplus = .refused ∧ names.length < items.length then none
      else some ((List.range names.length).map (items[·]?))
  | .moment => some (names.map fun _ => none)
  | _ => none

def intWithin (low high : Int) : Value → Option Int
  | .int value => if low ≤ value ∧ value ≤ high then some value else none
  | _ => none

def word32 (value : Value) : Option Nat := (intWithin 0 (UInt32.size - 1) value).map Int.toNat
def signed32 : Value → Option Int := intWithin Int32.minValue.toInt Int32.maxValue.toInt
def signed64 : Value → Option Int := intWithin Int64.minValue.toInt Int64.maxValue.toInt

def flag : Value → Option Bool
  | .bool value => some value
  | _ => none

def string : Value → Option String
  | .text value => some value
  | _ => none

def orDefault {α : Type} (default : α) (read : Value → Option α) : Option Value → Option α
  | none => some default
  | some value => read value

/-- The name of a case and what is written with it; a case without content is written as its
name. -/
def tagged : Value → Option (String × Value)
  | .text name => some (name, .null)
  | .table [(name, content)] => some (name, content)
  | _ => none

end Value

end Recode.Data
