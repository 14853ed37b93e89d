import Mathlib.Tactic

/-! # Numbering a selection

A list is traversed twice: one loop collects the elements that satisfy a
predicate, with their positions, the other builds a table that numbers them. The
table at a position holds the place of that element in the selection.
-/
namespace DecoderSDK.Numbered

variable {α : Type*} {p : α → Bool}

/-- The elements that satisfy the predicate, with their positions counted from `i`. -/
def selected (p : α → Bool) (i : ℕ) (xs : List α) : List (α × ℕ) :=
  (xs.zipIdx i).filter fun e => p e.1

/-- An entry for every element: consecutive numbers from `n` for those that satisfy the
predicate. -/
def numbers (p : α → Bool) : ℕ → List α → List (Option ℕ)
  | _, [] => []
  | n, x :: xs => if p x then some n :: numbers p (n + 1) xs else none :: numbers p n xs

theorem selected_cons (i : ℕ) (x : α) (xs : List α) :
    selected p i (x :: xs) =
      if p x then (x, i) :: selected p (i + 1) xs else selected p (i + 1) xs := by
  rw [selected, List.zipIdx_cons, List.filter_cons]
  rfl

theorem selected_map_fst (i : ℕ) (xs : List α) :
    (selected p i xs).map Prod.fst = xs.filter p := by
  conv_rhs => rw [← List.zipIdx_map_fst i xs, List.filter_map]
  rfl

theorem le_of_mem_selected {i j : ℕ} {x : α} {xs : List α} (h : (x, j) ∈ selected p i xs) :
    i ≤ j :=
  List.le_snd_of_mem_zipIdx (List.mem_of_mem_filter h)

@[simp] theorem numbers_length (n : ℕ) (xs : List α) : (numbers p n xs).length = xs.length := by
  induction xs generalizing n with
  | nil => rfl
  | cons x xs ih =>
    rw [numbers]
    split_ifs
    · rw [List.length_cons, ih, List.length_cons]
    · rw [List.length_cons, ih, List.length_cons]

theorem numbers_eq_none_iff (n : ℕ) {xs : List α} {j : ℕ} {x : α} (hx : xs[j]? = some x) :
    (numbers p n xs)[j]? = some none ↔ p x = false := by
  induction xs generalizing n j with
  | nil => cases hx
  | cons head xs ih =>
    cases j with
    | zero =>
      rw [List.getElem?_cons_zero, Option.some.injEq] at hx
      subst hx
      cases hp : p head <;> simp [numbers, hp]
    | succ j =>
      rw [List.getElem?_cons_succ] at hx
      cases hp : p head with
      | true => simpa [numbers, hp] using ih (n + 1) hx
      | false => simpa [numbers, hp] using ih n hx

theorem le_of_numbers {n m j : ℕ} {xs : List α} (h : (numbers p n xs)[j]? = some (some m)) :
    n ≤ m := by
  induction xs generalizing n j with
  | nil => cases h
  | cons head xs ih =>
    rw [numbers] at h
    cases hp : p head with
    | true =>
      rw [if_pos hp] at h
      cases j with
      | zero =>
        rw [List.getElem?_cons_zero, Option.some.injEq, Option.some.injEq] at h
        exact h.le
      | succ j => exact (Nat.le_succ n).trans (ih h)
    | false =>
      rw [hp, if_neg Bool.false_ne_true] at h
      cases j with
      | zero => cases h
      | succ j => exact ih h

/-- The table at a position holds a number exactly when the element of that position stands at
that place of the selection. The two loops count from `n` and from `i`. -/
theorem numbers_add_iff (n i : ℕ) (xs : List α) (j k : ℕ) :
    (numbers p n xs)[j]? = some (some (n + k)) ↔
      ∃ x, (selected p i xs)[k]? = some (x, i + j) := by
  induction xs generalizing n i j k with
  | nil => simp [numbers, selected]
  | cons head xs ih =>
    -- the rest of the selection holds later positions, the rest of the table greater numbers
    have hlater (m : ℕ) : ¬ ∃ x, (selected p (i + 1) xs)[m]? = some (x, i) := by
      rintro ⟨x, hx⟩
      exact Nat.not_succ_le_self i (le_of_mem_selected (List.mem_of_getElem? hx))
    have hgreater (m : ℕ) : (numbers p (n + 1) xs)[m]? ≠ some (some n) := fun h =>
      Nat.not_succ_le_self n (le_of_numbers h)
    rw [numbers, selected_cons]
    cases hp : p head with
    | true =>
      rw [if_pos rfl, if_pos rfl]
      cases j with
      | zero =>
        cases k with
        | zero => simp
        | succ k => simp [hlater]
      | succ j =>
        cases k with
        | zero => simp [hgreater]
        | succ k =>
          have hnext := ih (n + 1) (i + 1) j k
          rwa [Nat.add_right_comm n, Nat.add_right_comm i, Nat.add_assoc n,
            Nat.add_assoc i] at hnext
    | false =>
      rw [if_neg Bool.false_ne_true, if_neg Bool.false_ne_true]
      cases j with
      | zero => simp [hlater]
      | succ j =>
        have hnext := ih n (i + 1) j k
        rwa [Nat.add_right_comm i, Nat.add_assoc i] at hnext

theorem numbers_eq_some {xs : List α} {i k : ℕ} :
    (numbers p 0 xs)[i]? = some (some k) ↔ ∃ x, (selected p 0 xs)[k]? = some (x, i) := by
  have h := numbers_add_iff (p := p) 0 0 xs i k
  rwa [Nat.zero_add, Nat.zero_add] at h

/-- Two positions have the same number only if they are the same. -/
theorem numbers_injective {xs : List α} {i j k : ℕ} (hi : (numbers p 0 xs)[i]? = some (some k))
    (hj : (numbers p 0 xs)[j]? = some (some k)) : i = j := by
  rcases numbers_eq_some.mp hi with ⟨x, hx⟩
  rcases numbers_eq_some.mp hj with ⟨y, hy⟩
  rw [hx, Option.some.injEq, Prod.mk.injEq] at hy
  exact hy.2

/-- The numbers are those of the places of the selection. -/
theorem exists_numbers_iff {xs : List α} {k : ℕ} :
    (∃ i : ℕ, (numbers p 0 xs)[i]? = some (some k)) ↔ k < (selected p 0 xs).length := by
  constructor
  · rintro ⟨i, hi⟩
    rcases numbers_eq_some.mp hi with ⟨x, hx⟩
    exact (List.getElem?_eq_some_iff.mp hx).1
  · intro hk
    refine ⟨((selected p 0 xs)[k]).2, numbers_eq_some.mpr ⟨((selected p 0 xs)[k]).1, ?_⟩⟩
    exact List.getElem?_eq_getElem hk

/-- An element that satisfies the predicate has a number, and stands at that place. -/
theorem exists_number {xs : List α} {i : ℕ} {x : α} (hx : xs[i]? = some x) (hp : p x = true) :
    ∃ k, (numbers p 0 xs)[i]? = some (some k) ∧ (selected p 0 xs)[k]? = some (x, i) := by
  have hmem : (x, i) ∈ selected p 0 xs :=
    List.mem_filter.mpr ⟨List.mk_mem_zipIdx_iff_getElem?.mpr hx, hp⟩
  rcases List.mem_iff_getElem?.mp hmem with ⟨k, hk⟩
  exact ⟨k, numbers_eq_some.mpr ⟨x, hk⟩, hk⟩

end DecoderSDK.Numbered
