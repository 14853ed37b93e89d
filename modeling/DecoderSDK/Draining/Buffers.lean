import Mathlib.Tactic

/-! # Buffers drained in whole units

A buffer takes in an amount at a time and is drained in whole units of one
size. What is drained at a time is limited by a demand, by a cap and by what
the buffer holds. A fold bounds the content over all its steps, or shows that
no bound exists.
-/
namespace DecoderSDK.Draining

section Fold
variable {σ α K : Type*} {step : σ → α → σ} {f : σ → K} {Inv : σ → Prop}

/-- What no step raises above a constant stays below it, or below the start. -/
theorem foldl_le_max [LinearOrder K] (Inv : σ → Prop) {P : α → Prop} {c : K}
    (hstep : ∀ s a, Inv s → P a → Inv (step s a) ∧ f (step s a) ≤ max (f s) c) {s : σ}
    (hs : Inv s) {as : List α} (has : ∀ a ∈ as, P a) : f (as.foldl step s) ≤ max (f s) c := by
  induction as generalizing s with
  | nil => exact le_max_left _ _
  | cons a as ih =>
    have hfirst := hstep s a hs (has a List.mem_cons_self)
    have hrest := ih hfirst.1 fun b hb => has b (List.mem_cons_of_mem a hb)
    rw [List.foldl_cons]
    calc f (as.foldl step (step s a)) ≤ max (f (step s a)) c := hrest
      _ ≤ max (f s) c := max_le hfirst.2 (le_max_right _ _)

variable [Field K] [LinearOrder K] [IsStrictOrderedRing K]

theorem le_foldl_replicate {a : α} {g : K}
    (hstep : ∀ s, Inv s → Inv (step s a) ∧ f s + g ≤ f (step s a)) {s : σ} (hs : Inv s) (k : ℕ) :
    f s + k * g ≤ f ((List.replicate k a).foldl step s) := by
  induction k generalizing s with
  | zero => simp
  | succ k ih =>
    have hfirst := hstep s hs
    have hrest := ih hfirst.1
    rw [List.replicate_succ, List.foldl_cons]
    push_cast
    linarith

/-- What every repetition of a step raises by a fixed amount has no bound. -/
theorem exists_foldl_gt [Archimedean K] (Inv : σ → Prop) {a : α} {g : K} (hg : 0 < g)
    (hstep : ∀ s, Inv s → Inv (step s a) ∧ f s + g ≤ f (step s a)) {s : σ} (hs : Inv s) (c : K) :
    ∃ k, c < f ((List.replicate k a).foldl step s) := by
  rcases Archimedean.arch (c - f s + 1) hg with ⟨k, hk⟩
  rw [nsmul_eq_mul] at hk
  have hle := le_foldl_replicate hstep hs k
  exact ⟨k, by linarith⟩

end Fold

section Units
variable {K : Type*} [Field K] [LinearOrder K] [IsStrictOrderedRing K] [FloorRing K]
  {unit x y : K} {drained : ℤ}

/-- The units drained from a content `x`, for a demand that suffices for `y`. -/
def drain (unit x y : K) (cap : ℤ) : ℤ := min (min ⌈y / unit⌉ cap) ⌊x / unit⌋

/-- No more is drained than there is. -/
theorem rest_nonneg (hunit : 0 < unit) (h : drained ≤ ⌊x / unit⌋) : 0 ≤ x - drained * unit := by
  have hle : (drained : K) ≤ x / unit := Int.le_floor.mp h
  rw [le_div_iff₀ hunit] at hle
  linarith

theorem rest_floor_lt (hunit : 0 < unit) : x - ⌊x / unit⌋ * unit < unit := by
  have hlt := Int.lt_floor_add_one (x / unit)
  rw [div_lt_iff₀ hunit] at hlt
  linarith

theorem rest_ceil_le (hunit : 0 < unit) : x - ⌈y / unit⌉ * unit ≤ x - y := by
  have hle := Int.le_ceil (y / unit)
  rw [div_le_iff₀ hunit] at hle
  linarith

/-- What stays behind is less than a unit, or it was not demanded, or the cap has kept it. -/
theorem rest_drain_le (hunit : 0 < unit) (x y : K) (cap : ℤ) :
    x - drain unit x y cap * unit ≤ max (max (x - y) (x - cap * unit)) unit := by
  unfold drain
  rcases min_choice (min ⌈y / unit⌉ cap) ⌊x / unit⌋ with h | h
  · rw [h]
    apply le_max_of_le_left
    rcases min_choice ⌈y / unit⌉ cap with h' | h'
    · rw [h']
      exact le_max_of_le_left (rest_ceil_le hunit)
    · rw [h']
      exact le_max_right _ _
  · rw [h]
    exact le_max_of_le_right (rest_floor_lt hunit).le

/-- The cap keeps all but its own units back. -/
theorem le_rest_drain (hunit : 0 < unit) (x y : K) (cap : ℤ) :
    x - cap * unit ≤ x - drain unit x y cap * unit := by
  have hle : drain unit x y cap ≤ cap := (min_le_left _ _).trans (min_le_right _ _)
  have hcast : (drain unit x y cap : K) ≤ cap := by exact_mod_cast hle
  have := mul_le_mul_of_nonneg_right hcast hunit.le
  linarith

end Units

end DecoderSDK.Draining
