/-! Values as data formats write them, with the distinctions that a reader of settings makes. -/

namespace Recode.Data

inductive Value where
  | null
  | bool (value : Bool)
  | int (value : Int)
  /-- A number that is not written as an integer; nothing is ever read from it. -/
  | decimal
  | text (value : String)
  /-- A date, a time of day or both. -/
  | moment
  | list (items : List Value)
  | table (entries : List (String × Value))
  deriving Repr, Inhabited

end Recode.Data
