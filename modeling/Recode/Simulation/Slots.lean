import Recode.Error
import Recode.Media.Sample

/-!
The input buffers of a codec. A slot is either free or lent out, and what was written to it stays in it
until something else is written over it.
-/

namespace Recode.Simulation
open Recode.Media

structure Slots where
  count : Nat := 0
  capacity : Nat := 0
  contents : Vector (Vector UInt8 capacity) count := .replicate count (.replicate capacity 0)
  /-- The free slots, the next to be lent out first. -/
  free : List Nat := []
  deriving DecidableEq, Repr, Inhabited

namespace Slots

def new (count capacity : Nat) : Slots := { count, capacity, free := List.range count }

def lend (slots : Slots) : Option Nat × Slots :=
  match slots.free with
  | slot :: free => (some slot, { slots with free })
  | [] => (none, slots)

def isLent (slots : Slots) (slot : Nat) : Bool := slot < slots.count && !slots.free.contains slot

def content (slots : Slots) (slot : Nat) : Bytes :=
  (slots.contents[slot]?.getD (.replicate slots.capacity 0)).toArray

def buffer (slots : Slots) (slot : Nat) : Except Error Bytes :=
  if slots.isLent slot then .ok (slots.content slot)
  else .error (CodecError.invalidInputBuffer slot)

/-- Writes to the start of a slot, as far as the slot reaches. -/
def write (slots : Slots) (slot : Nat) (written : Bytes) : Slots :=
  { slots with contents := slots.contents.mapIdx fun index held =>
      if index = slot then held.mapIdx fun place byte => written.getD place byte else held }

/-- Takes a slot back with what was written to it meanwhile. -/
def giveBack (slots : Slots) (slot : Nat) (written : Bytes) (size : Nat) :
    Except Error Unit × Slots :=
  if slots.isLent slot ∧ size ≤ slots.capacity then
    (.ok (), { slots.write slot written with free := slot :: slots.free })
  else (.error (CodecError.invalidInputBuffer slot), slots)

@[simp] theorem size_content (slots : Slots) (slot : Nat) :
    (slots.content slot).size = slots.capacity := Vector.size_toArray _

end Slots

end Recode.Simulation
