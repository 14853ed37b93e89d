import Mathlib.Tactic

/-! # Lines over time

A quantity that is set once and then changes at a constant rate. Its rate is
what every pair of readings shows, and setting it again to its own reading
does not move it.
-/
namespace DecoderSDK.Timeline

/-- A quantity with a value at one time and the rate at which it changes. -/
structure Line (K : Type*) where
  value : K
  start : K
  rate : K

namespace Line
variable {K : Type*} [Field K]

def read (l : Line K) (t : K) : K := l.value + l.rate * (t - l.start)

theorem read_sub (l : Line K) (t₁ t₂ : K) : l.read t₂ - l.read t₁ = l.rate * (t₂ - t₁) := by
  unfold read
  ring

variable [LinearOrder K] [IsStrictOrderedRing K]

/-- A line shows a rate from some time on exactly when it has it. -/
theorem rate_eq_iff (l : Line K) (t₀ rate : K) :
    (∀ t₁ t₂, t₀ ≤ t₁ → t₁ ≤ t₂ → l.read t₂ - l.read t₁ = rate * (t₂ - t₁)) ↔ l.rate = rate := by
  constructor
  · intro h
    have hunit := h t₀ (t₀ + 1) le_rfl (by linarith)
    rw [read_sub, add_sub_cancel_left, mul_one, mul_one] at hunit
    exact hunit
  · rintro rfl t₁ t₂ _ _
    exact l.read_sub t₁ t₂

/-- A line whose rate is not negative never goes back. -/
theorem read_le_read (l : Line K) (hrate : 0 ≤ l.rate) {t₁ t₂ : K} (h : t₁ ≤ t₂) :
    l.read t₁ ≤ l.read t₂ := by
  have hmul : 0 ≤ l.rate * (t₂ - t₁) := mul_nonneg hrate (sub_nonneg.mpr h)
  rw [← read_sub] at hmul
  exact sub_nonneg.mp hmul

end Line

end DecoderSDK.Timeline
