import Mathlib.Tactic

/-! # Buffers with checked reads

A buffer is handed over as a pointer and a length. Every read and every
subrange goes through a bounds check; `none` stands for an access outside
the buffer or for a loop that did not finish, so a computed value certifies
both that all accesses were legal and that the computation ended.
-/
namespace DecoderSDK.Bytes

variable {α : Type*}

/-- One element of the buffer. -/
def readAt (data : List α) (i : ℕ) : Option α := data[i]?

/-- The half-open range `[first, last)` of the buffer. -/
def range (data : List α) (first last : ℕ) : Option (List α) :=
  if first ≤ last ∧ last ≤ data.length then some ((data.drop first).take (last - first)) else none

/-- Short-circuit conjunction: the second operand is only evaluated when the first holds. -/
def both (x y : Option Bool) : Option Bool := x.bind fun b => if b then y else some false

/-- Short-circuit disjunction. -/
def either (x y : Option Bool) : Option Bool := x.bind fun b => if b then some true else y

@[simp] theorem both_some (a : Bool) (y : Option Bool) :
    both (some a) y = if a then y else some false := rfl

@[simp] theorem either_some (a : Bool) (y : Option Bool) :
    either (some a) y = if a then some true else y := rfl

/-- A legal conjunction computes the conjunction of the two propositions. -/
theorem both_decide {p q : Prop} [Decidable p] [Decidable q] {y : Option Bool}
    (hy : p → y = some (decide q)) : both (some (decide p)) y = some (decide (p ∧ q)) := by
  by_cases hp : p
  · simp [hp, hy hp]
  · simp [hp]

theorem either_decide {p q : Prop} [Decidable p] [Decidable q] {y : Option Bool}
    (hy : ¬p → y = some (decide q)) : either (some (decide p)) y = some (decide (p ∨ q)) := by
  by_cases hp : p
  · simp [hp]
  · simp [hp, hy hp]

theorem range_eq_of_append {pre mid post : List α} {first last : ℕ}
    (hf : first = pre.length) (hl : last = pre.length + mid.length) :
    range (pre ++ (mid ++ post)) first last = some mid := by
  subst hf hl
  have h : pre.length ≤ pre.length + mid.length ∧
      pre.length + mid.length ≤ (pre ++ (mid ++ post)).length := by
    simp only [List.length_append]
    omega
  rw [range, if_pos h, List.drop_left, Nat.add_sub_cancel_left, List.take_left]

section Tests
variable [DecidableEq α]

/-- Read one element and compare it. -/
def test (data : List α) (i : ℕ) (x : α) : Option Bool := (readAt data i).map fun y => decide (y = x)

theorem test_eq {data : List α} {i : ℕ} (x : α) (h : i < data.length) :
    test data i x = some (decide (data[i]? = some x)) := by
  simp [test, readAt, h]

end Tests

end DecoderSDK.Bytes
