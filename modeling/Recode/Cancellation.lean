import Recode.Error

/-!
Cancellation tokens. A copy of a token stands for the same request to stop: cancelling one cancels
all of them.
-/

namespace Recode

/-- Every token names one of the requests, and a request once made is never taken back. -/
structure Cancellation where
  requests : Array Bool
  tokens : Array Nat
  deriving DecidableEq, Repr, Inhabited

namespace Cancellation

def single : Cancellation := ⟨#[false], #[0]⟩

def issue (all : Cancellation) : Cancellation :=
  ⟨all.requests.push false, all.tokens.push all.requests.size⟩

def copy (all : Cancellation) (token : Nat) : Cancellation :=
  { all with tokens := all.tokens.push (all.tokens.getD token all.requests.size) }

def isCancelled (all : Cancellation) (token : Nat) : Bool :=
  match all.tokens[token]? with
  | some request => all.requests.getD request false
  | none => false

def cancel (all : Cancellation) (token : Nat) : Cancellation :=
  match all.tokens[token]? with
  | some request => { all with requests := all.requests.setIfInBounds request true }
  | none => all

def check (all : Cancellation) (token : Nat) : Except Error Unit :=
  if all.isCancelled token then .error .cancelled else .ok ()

def states (all : Cancellation) : List Bool :=
  (List.range all.tokens.size).map all.isCancelled

end Cancellation

end Recode
