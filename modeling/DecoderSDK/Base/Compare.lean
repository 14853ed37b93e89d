import DecoderSDK.Base.Double

/-! # Comparisons up to a tolerance

Positions, time stamps and speeds are compared with a fixed tolerance.
Positions and time stamps are rationals here; the speed that is set is a double.
-/
namespace DecoderSDK

def epsilon : ℚ := 1 / 10 ^ 12

def equal (a b : ℚ) : Bool := |a - b| < epsilon

def greater (a b : ℚ) : Bool := b < a && epsilon < a - b

def greaterAndEqual (a b : ℚ) : Bool := greater a b || equal a b

/-- Seconds to whole milliseconds, as the cast to an integer truncates. -/
def toMs (position : ℚ) : ℤ := Int.tdiv (position * 1000).num (position * 1000).den

/-- A position that passes the sign test gives a millisecond value that is not negative. -/
theorem toMs_nonneg {position : ℚ} (h : greaterAndEqual position 0 = true) : 0 ≤ toMs position := by
  have hlow : -epsilon < position := by
    simp only [greaterAndEqual, greater, equal, Bool.or_eq_true, Bool.and_eq_true,
      decide_eq_true_eq, sub_zero] at h
    rcases h with h | h
    · have : (0 : ℚ) < epsilon := by norm_num [epsilon]
      linarith [h.1]
    · exact (abs_lt.mp h).1
  unfold toMs
  have hden : (0 : ℤ) < (position * 1000).den := by exact_mod_cast (position * 1000).den_pos
  have hnum : -((position * 1000).den : ℤ) < (position * 1000).num := by
    have hq : (-1 : ℚ) < position * 1000 := by
      have : epsilon * 1000 < 1 := by norm_num [epsilon]
      linarith
    rw [← Rat.num_div_den (position * 1000), lt_div_iff₀ (by exact_mod_cast hden)] at hq
    have : ((-((position * 1000).den : ℤ) : ℤ) : ℚ) < ((position * 1000).num : ℤ) := by
      push_cast
      linarith
    exact_mod_cast this
  rcases le_or_gt 0 (position * 1000).num with hpos | hneg
  · exact Int.tdiv_nonneg hpos hden.le
  · have : Int.tdiv (position * 1000).num (position * 1000).den = 0 := by
      rw [← neg_neg (position * 1000).num, Int.neg_tdiv, Int.tdiv_eq_zero_of_lt (by omega) (by omega),
        neg_zero]
    rw [this]

namespace Double

def epsilon : Float := 1e-12

def equal (a b : Float) : Bool := (a - b).abs < epsilon

def greater (a b : Float) : Bool := b < a && epsilon < a - b

end Double

end DecoderSDK
