import Recode.Toml.Number
import Recode.Toml.Table

/-!
TOML documents, version 1.0. A document is read as the table of everything in it, or not at all.
-/

namespace Recode.Toml
open Scan
open Recode.Data (Value)

/-- Values may not lie deeper inside one another, and names may not have more parts. -/
def depthLimit : Nat := 80

/-- The parts of a name before its last, and the last. -/
def dottedKey : Scan (List String × String) := do
  let parts ← key
  match parts.getLast? with
  | some last => if parts.length < depthLimit then return (parts.dropLast, last) else failure
  | none => failure

/-- Items between brackets, with as much filler around them as is liked. A comma may also follow the
last item. -/
def array (item : Scan Value) : Scan Value := do
  char '['
  let items ← optional <| separated (char ',') (do
    filler
    let value ← item
    filler
    return value)
  if items.isSome then
    let _ ← optional (char ',')
  filler
  char ']'
  return .list (items.getD [])

def inlineTable (item : Scan Value) : Scan Value := do
  char '{'
  blanks
  let pairs ← optional <| separated (do blanks; char ','; blanks) (do
    let name ← dottedKey
    blanks
    char '='
    blanks
    return (name, ← item))
  blanks
  char '}'
  let entries ← ((pairs.getD []).foldlM (fun (entries : Entries) ((path, key), value) =>
    entries.assign path key value) []).elim failure pure
  return .table (entryValues entries)

def boolean : Scan Value :=
  (do literal "true"; return .bool true) <|> (do literal "false"; return .bool false)

def scalar : Scan Value := do
  match ← peek? with
  | some '"' | some '\'' => return .text (← text)
  | _ => boolean <|> number

/-- A value with at most `depth` others around its innermost one. -/
def value : Nat → Scan Value
  | 0 => scalar
  | depth + 1 => do
      match ← peek? with
      | some '[' => array (value depth)
      | some '{' => inlineTable (value depth)
      | _ => scalar

structure Reading where
  entries : Entries := []
  header : List String := []
  deriving Inhabited

inductive Line where
  | table (path : List String) (key : String)
  | element (path : List String) (key : String)
  | pair (path : List String) (key : String) (value : Value)
  | blank

def line : Scan Line := do
  blanks
  match ← get with
  | '[' :: '[' :: rest => do
      set rest
      let (path, key) ← (do blanks; let name ← dottedKey; blanks; return name)
      literal "]]"
      return .element path key
  | '[' :: rest => do
      set rest
      let (path, key) ← (do blanks; let name ← dottedKey; blanks; return name)
      char ']'
      return .table path key
  | rest =>
      if rest.isEmpty || rest.head?.any (fun char => char = '#' || char = '\n' || char = '\r') then
        return .blank
      let (path, key) ← dottedKey
      blanks
      char '='
      blanks
      return .pair path key (← value (depthLimit - 1))

def Reading.add (reading : Reading) : Line → Option Reading
  | .table path key => do
      return ⟨← reading.entries.openTable path key, path ++ [key]⟩
  | .element path key => do
      return ⟨← reading.entries.openElement path key, path ++ [key]⟩
  | .pair path key value => do
      let entries ← Entries.within false (fun _ table => table.assign path key value)
        reading.header {} reading.entries
      return { reading with entries }
  | .blank => some reading

def lines (reading : Reading) : Nat → List Char → Option Reading
  | 0, _ => none
  | limit + 1, rest => do
      let (line, rest) ← StateT.run line rest
      let reading ← reading.add line
      let ((), rest) ← StateT.run lineEnd rest
      if rest.isEmpty then some reading else lines reading limit rest

/-- A mark of the byte order may stand before the text. -/
def document? (text : String) : Option Value := do
  let chars :=
    match text.toList with
    | '\uFEFF' :: rest => rest
    | chars => chars
  let reading ← lines {} (chars.length + 1) chars
  return .table (entryValues reading.entries)

end Recode.Toml
