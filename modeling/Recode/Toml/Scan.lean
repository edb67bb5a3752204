/-!
Scanning TOML text: a scan takes characters off the front of the text, or fails. A scan that fails
has taken nothing, so another may be tried in its place.
-/

namespace Recode.Toml

abbrev Scan := StateT (List Char) Option

namespace Scan
variable {α : Type}

def peek? : Scan (Option Char) := return (← get).head?

def next : Scan Char := do
  match ← get with
  | char :: rest =>
      set rest
      return char
  | [] => failure

def satisfying (test : Char → Bool) : Scan Char := do
  let char ← next
  if test char then return char else failure

def char (expected : Char) : Scan Unit := do
  let _ ← satisfying (· = expected)

def literal (expected : String) : Scan Unit := expected.toList.forM char

def span (test : Char → Bool) : Scan (List Char) := do
  let (taken, rest) := (← get).span test
  set rest
  return taken

def span1 (test : Char → Bool) : Scan (List Char) := do
  match ← span test with
  | [] => failure
  | taken => return taken

/-- Repeats the scan until it fails, at most as often as there are characters. -/
def many (scan : Scan α) : Scan (List α) := do
  atMost (← get).length
where
  atMost : Nat → Scan (List α)
    | 0 => return []
    | limit + 1 => do
        match ← optional scan with
        | some first => return first :: (← atMost limit)
        | none => return []

/-- A scan and then any number of further ones, each behind a separator. -/
def separated (separator : Scan Unit) (scan : Scan α) : Scan (List α) := do
  let first ← scan
  return first :: (← many (do separator; scan))

def isBlank (char : Char) : Bool := char = ' ' || char = '\t'

def blanks : Scan Unit := do
  let _ ← span isBlank

def newline : Scan Unit := char '\n' <|> literal "\r\n"

def atEnd : Scan Unit := do
  if (← get).isEmpty then return () else failure

/-- Characters that may stand in comments and strings: no control characters except tabs. -/
def isPrintable (char : Char) : Bool :=
  char = '\t' || (0x20 ≤ char.toNat && char.toNat ≠ 0x7F)

def comment : Scan Unit := do
  char '#'
  let _ ← span isPrintable

def filler : Scan Unit := do
  let _ ← many ((do let _ ← span1 isBlank) <|> newline <|> comment)

def lineEnd : Scan Unit := do
  blanks
  let _ ← optional comment
  newline <|> atEnd

end Scan

end Recode.Toml
