import Recode.Toml.Scan

/-!
Strings, in their four forms: with or without escapes, and on one line or on several. On several
lines a line end right behind the opening is left out, and every other reads as a line feed.
-/

namespace Recode.Toml
open Scan

def hexDigit? (char : Char) : Option Nat :=
  if '0' ≤ char ∧ char ≤ '9' then some (char.toNat - '0'.toNat)
  else if 'a' ≤ char ∧ char ≤ 'f' then some (char.toNat - 'a'.toNat + 10)
  else if 'A' ≤ char ∧ char ≤ 'F' then some (char.toNat - 'A'.toNat + 10)
  else none

/-- The character with the code written in the digits; surrogates are no characters. -/
def codeChar? (digits : List Char) : Option Char := do
  let code ← digits.foldlM (fun code digit => (16 * code + ·) <$> hexDigit? digit) 0
  if Nat.isValidChar code then some (Char.ofNat code) else none

def escapes : List (Char × Char) :=
  [('b', '\x08'), ('t', '\t'), ('n', '\n'), ('f', '\x0C'), ('r', '\r'), ('"', '"'), ('\\', '\\')]

def escape : Scan Char := do
  match ← next with
  | 'u' => ofCode 4
  | 'U' => ofCode 8
  | char => ((escapes.lookup char).elim failure pure : Scan Char)
where
  ofCode (count : Nat) : Scan Char := do
    let digits ← (List.replicate count ()).mapM fun _ => next
    ((codeChar? digits).elim failure pure : Scan Char)

def basicText : Scan String := do
  char '"'
  let chars ← many (satisfying (fun char => isPrintable char && char ≠ '"' && char ≠ '\\')
    <|> (do char '\\'; escape))
  char '"'
  return String.ofList chars

def literalText : Scan String := do
  char '\''
  let chars ← span fun char => isPrintable char && char ≠ '\''
  char '\''
  return String.ofList chars

/-- One or two quotes that are not part of three; at the very end of the text up to two stand before
the closing three. -/
def innerQuote (quote : Char) : Scan (List Char) := do
  let (quotes, rest) := (← get).span (· = quote)
  if quotes.isEmpty || (3 ≤ quotes.length) then failure
  else
    set rest
    return quotes

def closing (quote : Char) : Scan (List Char) := do
  let three := String.ofList (List.replicate 3 quote)
  let before ← (do literal (String.ofList [quote, quote]); literal three; return [quote, quote])
    <|> (do char quote; literal three; return [quote])
    <|> (do literal three; return [])
  return before

def lineJoin : Scan Unit := do
  char '\\'
  blanks
  newline
  let _ ← many ((do let _ ← span1 isBlank) <|> newline)

def longText (quote : Char) (piece : Scan (List Char)) : Scan String := do
  literal (String.ofList (List.replicate 3 quote))
  let _ ← optional newline
  let pieces ← many (piece <|> (do newline; return ['\n']) <|> innerQuote quote)
  return String.ofList (pieces.flatten ++ (← closing quote))

def longBasicText : Scan String :=
  longText '"' <|
    span1 (fun char => isPrintable char && char ≠ '"' && char ≠ '\\')
      <|> (do lineJoin; return [])
      <|> (do char '\\'; return [← escape])

def longLiteralText : Scan String :=
  longText '\'' (span1 fun char => isPrintable char && char ≠ '\'')

/-- A string of any form; three quotes always open one of several lines. -/
def text : Scan String := do
  match ← get with
  | '"' :: '"' :: '"' :: _ => longBasicText
  | '\'' :: '\'' :: '\'' :: _ => longLiteralText
  | '"' :: _ => basicText
  | _ => literalText

def bareKey : Scan String := do
  return String.ofList (← span1 fun char => char.isAlphanum || char = '_' || char = '-')

def key : Scan (List String) :=
  separated (do blanks; char '.'; blanks) (bareKey <|> basicText <|> literalText)

end Recode.Toml
