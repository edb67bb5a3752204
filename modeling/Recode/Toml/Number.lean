import Recode.Data.Value
import Recode.Toml.Text

/-!
Numbers, dates and times. Single underscores may stand between digits, and integers have to fit into
64 bits.
-/

namespace Recode.Toml
open Scan
open Recode.Data (Value)

def digitRun (isDigit : Char → Bool) : Scan (List Char) := do
  let groups ← separated (char '_') (span1 isDigit)
  return groups.flatten

def sign : Scan Bool := (do char '-'; return true) <|> (do char '+'; return false) <|> pure false

/-- A decimal integer has no leading zeros. -/
def decimalDigits : Scan (List Char) := do
  let digits ← digitRun Char.isDigit
  match digits with
  | '0' :: _ :: _ => failure
  | digits => return digits

def valueOf (base : Nat) (digits : List Char) : Nat :=
  digits.foldl (fun value digit => base * value + (hexDigit? digit).getD 0) 0

def bounded (value : Int) : Scan Value :=
  if Int64.minValue.toInt ≤ value ∧ value ≤ Int64.maxValue.toInt then return .int value
  else failure

def hexadecimal : Scan Value := do
  literal "0x"
  bounded (valueOf 16 (← digitRun fun char => (hexDigit? char).isSome))

def octal : Scan Value := do
  literal "0o"
  bounded (valueOf 8 (← digitRun fun char => '0' ≤ char && char ≤ '7'))

def binary : Scan Value := do
  literal "0b"
  bounded (valueOf 2 (← digitRun fun char => char = '0' || char = '1'))

def integer : Scan Value := do
  let negative ← sign
  let value := valueOf 10 (← decimalDigits)
  bounded (if negative then -value else value)

/-- The exponent of a number, which may have leading zeros. -/
def exponent : Scan Int := do
  let _ ← satisfying fun char => char = 'e' || char = 'E'
  let negative ← sign
  let value : Int := valueOf 10 (← digitRun Char.isDigit)
  return if negative then -value else value

/-- Whether `digits * 10 ^ scale` is too large for a double-precision number: at or above the middle
between the largest such number and the next power of two. -/
def overflows (digits : Nat) (scale : Int) : Bool :=
  let length := (Nat.toDigits 10 digits).length
  let order := length + scale
  if digits = 0 ∨ order < 308 then false
  else if 310 < order then true
  else
    let limit := 1 <<< 1024 - 1 <<< 970
    if 0 ≤ scale then limit ≤ digits * Nat.pow 10 scale.toNat
    else limit * Nat.pow 10 (-scale).toNat ≤ digits

def fractional : Scan Value := do
  let negative ← sign
  let whole ← decimalDigits
  let (fraction, scale) ←
    (do return ([], ← exponent)) <|> (do
      char '.'
      let fraction ← digitRun Char.isDigit
      return (fraction, (← optional exponent).getD 0))
  let scale := scale - fraction.length
  if !negative && overflows (valueOf 10 (whole ++ fraction)) scale then failure
  else return .decimal

def special : Scan Value := do
  let _ ← sign
  literal "inf" <|> literal "nan"
  return .decimal

/-- Exactly `count` digits, whose value lies in the range. -/
def fixedDigits (count low high : Nat) : Scan Nat := do
  let digits ← (List.replicate count ()).mapM fun _ => satisfying Char.isDigit
  let value := valueOf 10 digits
  if low ≤ value ∧ value ≤ high then return value else failure

def isLeapYear (year : Nat) : Bool := year % 4 = 0 && (year % 100 ≠ 0 || year % 400 = 0)

def daysIn (year month : Nat) : Nat :=
  if month = 2 then (if isLeapYear year then 29 else 28)
  else if month = 4 ∨ month = 6 ∨ month = 9 ∨ month = 11 then 30
  else 31

def date : Scan Unit := do
  let year ← fixedDigits 4 0 9999
  char '-'
  let month ← fixedDigits 2 1 12
  char '-'
  let _ ← fixedDigits 2 1 (daysIn year month)

/-- A time of day; the last second of a day may be one too many. -/
def clock : Scan Unit := do
  let _ ← fixedDigits 2 0 23
  char ':'
  let _ ← fixedDigits 2 0 59
  char ':'
  let _ ← fixedDigits 2 0 60
  let _ ← optional (do char '.'; let _ ← span1 Char.isDigit)

def zone : Scan Unit := do
  (char 'Z' <|> char 'z') <|> (do
    char '+' <|> char '-'
    let _ ← fixedDigits 2 0 23
    char ':'
    let _ ← fixedDigits 2 0 59)

def dateTime : Scan Unit := do
  date
  let _ ← optional (do
    let _ ← satisfying fun char => char = 'T' || char = 't' || char = ' '
    clock
    let _ ← optional zone)

def moment : Scan Value := do
  dateTime <|> clock
  return .moment

def number : Scan Value :=
  moment <|> fractional <|> special <|> hexadecimal <|> octal <|> binary <|> integer

end Recode.Toml
