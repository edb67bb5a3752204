import Recode.Text.CaseTable

/-!
Lowercase text. Most characters are mapped on their own; a capital sigma at the end of a word takes
its final form, and the capital dotted I becomes two characters.
-/

namespace Recode.Text

def within (ranges : List (Nat × Nat)) (char : Char) : Bool :=
  ranges.any fun (first, last) => first ≤ char.toNat && char.toNat ≤ last

def isCased (char : Char) : Bool := within casedRanges char
def isCaseIgnorable (char : Char) : Bool := within caseIgnorableRanges char

def CaseRun.contains (run : CaseRun) (code : Nat) : Bool :=
  run.first ≤ code && code ≤ run.last && (code - run.first) % run.step == 0

/-- The lowercase form where it is a single character; a character without one stands for itself. -/
def lowerChar (char : Char) : Char :=
  match lowercaseRuns.find? (·.contains char.toNat) with
  | some run => Char.ofNat (char.toNat + run.shift).toNat
  | none => char

/-- Whether the first character that counts is a letter with case. -/
def meetsCased (chars : List Char) : Bool :=
  match chars.dropWhile isCaseIgnorable with
  | char :: _ => isCased char
  | [] => false

/-- Lowercases `rest`, which follows `before` (held in reverse). -/
def lowerAfter (before : List Char) : List Char → List Char
  | [] => []
  | char :: rest =>
      let lowered :=
        if char = 'Σ' then [if meetsCased before && !meetsCased rest then 'ς' else 'σ']
        else if char = 'İ' then ['i', '\u0307']
        else [lowerChar char]
      lowered ++ lowerAfter (char :: before) rest

def lowercase (text : String) : String := String.ofList (lowerAfter [] text.toList)

/-- Only the twenty-six letters of ASCII lose their case. -/
def sameIgnoringCase (left right : String) : Bool := left.toLower == right.toLower

end Recode.Text
