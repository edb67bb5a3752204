import Recode.Data.Value

/-!
Tables while a document is read. A table can be filled once: under its own header, or by dotted
names from one place. Until then it may be there only because something lies inside it.
-/

namespace Recode.Toml
open Recode.Data (Value)

/-- How a table came to be there. -/
structure Origin where
  /-- Only because something lies inside it. -/
  implied : Bool := false
  /-- Through dotted names. -/
  dotted : Bool := false
  deriving DecidableEq, Repr, Inhabited

inductive Node where
  | value (value : Value)
  | table (origin : Origin) (entries : List (String × Node))
  /-- An array of tables, of which only the last can still be filled. -/
  | tables (earlier : List Value) (last : List (String × Node))
  deriving Inhabited

abbrev Entries := List (String × Node)

mutual

def Node.toValue : Node → Value
  | .value value => value
  | .table _ entries => .table (entryValues entries)
  | .tables earlier last => .list (earlier ++ [.table (entryValues last)])

def entryValues : List (String × Node) → List (String × Value)
  | [] => []
  | (key, node) :: rest => (key, node.toValue) :: entryValues rest

end

namespace Entries

def put (entries : Entries) (key : String) (node : Node) : Entries :=
  entries.filter (·.1 ≠ key) ++ [(key, node)]

/-- Acts on the table at the path, making the tables on the way. Dotted names do not enter a table
that has a header of its own, and nothing enters a value. -/
def within (dotted : Bool) (act : Origin → Entries → Option Entries) :
    List String → Origin → Entries → Option Entries
  | [], origin, entries => act origin entries
  | key :: path, _, entries =>
      match entries.lookup key with
      | none => do
          let origin : Origin := ⟨true, dotted⟩
          return entries.put key (.table origin (← within dotted act path origin []))
      | some (.table origin inner) =>
          if dotted && !origin.implied then none
          else return entries.put key (.table origin (← within dotted act path origin inner))
      | some (.tables earlier last) =>
          return entries.put key (.tables earlier (← within dotted act path {} last))
      | some (.value _) => none

/-- Adds a value under a dotted name. The table it goes to is either the current one itself or one
that dotted names have made. -/
def assign (entries : Entries) (path : List String) (key : String) (value : Value) :
    Option Entries :=
  within true (fun origin entries =>
    if origin.dotted == path.isEmpty || (entries.lookup key).isSome then none
    else some (entries.put key (.value value))) path {} entries

def openTable (entries : Entries) (path : List String) (key : String) : Option Entries :=
  within false (fun _ entries =>
    match entries.lookup key with
    | none => some (entries.put key (.table {} []))
    | some (.table origin inner) =>
        if origin.implied && !origin.dotted then some (entries.put key (.table {} inner)) else none
    | some _ => none) path {} entries

def openElement (entries : Entries) (path : List String) (key : String) : Option Entries :=
  within false (fun _ entries =>
    match entries.lookup key with
    | none => some (entries.put key (.tables [] []))
    | some (.tables earlier last) =>
        some (entries.put key (.tables (earlier ++ [.table (entryValues last)]) []))
    | some _ => none) path {} entries

end Entries

end Recode.Toml
