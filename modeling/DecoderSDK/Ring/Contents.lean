import Mathlib.Tactic

/-! # Contents of a ring

The slots of a ring are a list; `contents` walks `size` slots from `head`,
wrapping at the end. Publishing the slot behind the last one appends its
value, and leaving the first one drops it. Writing to a slot outside the
walk changes nothing.
-/
namespace DecoderSDK.Ring

variable {α : Type*}

/-- The first `size` values from `head` on. -/
def contents (slots : List α) (head size : ℕ) : List α :=
  (List.range size).filterMap fun i => slots[(head + i) % slots.length]?

@[simp] theorem contents_zero (slots : List α) (head : ℕ) : contents slots head 0 = [] := rfl

theorem index_inj {n head i j : ℕ} (hi : i < n) (hj : j < n) :
    (head + i) % n = (head + j) % n ↔ i = j := by
  constructor
  · intro h
    exact Nat.ModEq.eq_of_lt_of_lt (Nat.ModEq.add_left_cancel' head h) hi hj
  · intro h
    rw [h]

theorem contents_length {slots : List α} (hne : slots ≠ []) (head size : ℕ) :
    (contents slots head size).length = size := by
  have hpos : 0 < slots.length := List.length_pos_iff.mpr hne
  induction size with
  | zero => rfl
  | succ size ih =>
    have hlt : (head + size) % slots.length < slots.length := Nat.mod_lt _ hpos
    simp only [contents] at ih ⊢
    rw [List.range_succ, List.filterMap_append, List.length_append, ih]
    simp [hlt]

/-- Publishing one more slot appends its value. -/
theorem contents_succ {slots : List α} {head size : ℕ} {x : α}
    (hx : slots[(head + size) % slots.length]? = some x) :
    contents slots head (size + 1) = contents slots head size ++ [x] := by
  simp [contents, List.range_succ, hx]

/-- Leaving the first slot drops its value. -/
theorem contents_head {slots : List α} {head size : ℕ} {x : α}
    (hx : slots[head % slots.length]? = some x) :
    contents slots head (size + 1) = x :: contents slots ((head + 1) % slots.length) size := by
  rw [contents, List.range_succ_eq_map, List.filterMap_cons, Nat.add_zero, hx]
  simp only [contents, List.filterMap_map, List.cons.injEq, true_and]
  apply List.filterMap_congr
  intro i _
  simp only [Function.comp_apply, Nat.succ_eq_add_one, Nat.mod_add_mod]
  congr 2
  omega

/-- A write to the slot behind the published ones is not visible. -/
theorem contents_set_next {slots : List α} {head size : ℕ} (x : α) (hsize : size < slots.length) :
    contents (slots.set ((head + size) % slots.length) x) head size = contents slots head size := by
  simp only [contents, List.length_set]
  apply List.filterMap_congr
  intro i hi
  have hne : (head + size) % slots.length ≠ (head + i) % slots.length := by
    rw [Ne, index_inj hsize ((List.mem_range.mp hi).trans hsize)]
    exact (List.mem_range.mp hi).ne'
  rw [List.getElem?_set_ne hne]

/-- A write to the slot just left is not visible. -/
theorem contents_set_prev {slots : List α} {head size : ℕ} (x : α) (hsize : size < slots.length) :
    contents (slots.set (head % slots.length) x) ((head + 1) % slots.length) size =
      contents slots ((head + 1) % slots.length) size := by
  simp only [contents, List.length_set]
  apply List.filterMap_congr
  intro i hi
  have hi' : i + 1 < slots.length := by
    have := List.mem_range.mp hi
    omega
  have hne : head % slots.length ≠ ((head + 1) % slots.length + i) % slots.length := by
    rw [Nat.mod_add_mod, Nat.add_right_comm, Nat.add_assoc, ← Nat.add_zero head, Nat.add_assoc,
      Nat.zero_add, Ne, index_inj (by omega) hi']
    omega
  rw [List.getElem?_set_ne hne]

end DecoderSDK.Ring
