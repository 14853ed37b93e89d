import Mathlib.Tactic

/-! # Bounded lists

What a ring buffer is for: a list of at most `capacity` items that can be
closed, emptied and resized. With `keepLast` copies of the last item are handed
out instead of the item itself.
-/
namespace DecoderSDK.Ring

structure Bounded (α : Type*) where
  items : List α
  capacity : ℕ
  keepLast : Bool
  aborted : Bool
  /-- Storage for the items exists. -/
  allocated : Bool

namespace Bounded
variable {α : Type*}

def push (b : Bounded α) (x : α) : Bool × Bounded α :=
  if b.items.length < b.capacity ∧ b.aborted = false ∧ b.allocated = true then
    (true, { b with items := b.items ++ [x] })
  else (false, b)

/-- How many items a pop leaves behind. -/
def kept (b : Bounded α) : ℕ := if b.keepLast then 1 else 0

def pop (b : Bounded α) (copy : α → α) : Option α × Bounded α :=
  if b.aborted then (none, b)
  else if b.kept < b.items.length then (b.items.head?, { b with items := b.items.tail })
  else if b.keepLast = true ∧ b.items.length = 1 then (b.items.head?.map copy, b)
  else (none, b)

def clear (b : Bounded α) : Bounded α := { b with items := [] }

def allocate (b : Bounded α) : Bounded α :=
  { b with items := [], allocated := decide (0 < b.capacity) }

def free (b : Bounded α) : Bounded α := { b with items := [], allocated := false }

/-- The oldest items that fit stay; a new capacity comes with new storage. -/
def resize (b : Bounded α) (capacity : ℤ) : Bool × Bounded α :=
  if capacity ≤ 0 then (false, b)
  else (true, { b with items := b.items.take capacity.toNat
                       capacity := capacity.toNat
                       allocated := b.allocated || decide (capacity ≠ b.capacity) })

end Bounded

end DecoderSDK.Ring
