import Mathlib.Tactic

/-! # Time bases

A time stamp counts ticks of a time base, a positive fraction of a second, in a
signed word of 64 bits. Rebasing a stamp to a first one and cutting it off at
zero takes from it the smaller of the two, unless their distance overflows.
-/
namespace DecoderSDK.Timeline

/-- The length of one tick, `num / den` seconds. -/
structure TimeBase where
  num : ℕ
  den : ℕ
  num_pos : 0 < num
  den_pos : 0 < den
  deriving DecidableEq

namespace TimeBase

/-- A number of ticks to the second, at least one. -/
def perSecond (n : ℕ) : TimeBase := ⟨1, max 1 n, Nat.one_pos, by omega⟩

def seconds (tb : TimeBase) (ticks : ℤ) : ℚ := ticks * (tb.num / tb.den)

theorem seconds_sub (tb : TimeBase) (t₁ t₂ : ℤ) :
    tb.seconds (t₁ - t₂) = tb.seconds t₁ - tb.seconds t₂ := by
  unfold seconds
  push_cast
  ring

/-- Ticks of one time base counted in another, to the nearest and half away from zero. -/
def nearest (ticks : ℤ) (src dst : TimeBase) : ℤ :=
  let num := src.num * dst.den
  let den := dst.num * src.den
  ticks.sign * ((ticks.natAbs * num + den / 2) / den : ℕ)

theorem nearest_self (ticks : ℤ) (tb : TimeBase) : nearest ticks tb tb = ticks := by
  have hpos : 0 < tb.num * tb.den := Nat.mul_pos tb.num_pos tb.den_pos
  have hhalf : tb.num * tb.den / 2 < tb.num * tb.den := Nat.div_lt_self hpos (by decide)
  have hdiv : (ticks.natAbs * (tb.num * tb.den) + tb.num * tb.den / 2) / (tb.num * tb.den)
      = ticks.natAbs := by
    rw [Nat.mul_comm ticks.natAbs, Nat.mul_add_div hpos, Nat.div_eq_of_lt hhalf, Nat.add_zero]
  rw [nearest, hdiv]
  exact Int.sign_mul_natAbs ticks

end TimeBase

/-- A stamp counted from a first one, and never below zero. -/
def rebase (first t : Int64) : Int64 := if t - first < 0 then 0 else t - first

theorem toInt_rebase (first t : Int64) :
    (rebase first t).toInt = max 0 ((t.toInt - first.toInt).bmod (2 ^ 64)) := by
  have hzero : (0 : Int64).toInt = 0 := rfl
  unfold rebase
  split
  · next hlt =>
    rw [Int64.lt_iff_toInt_lt, Int64.toInt_sub, hzero] at hlt
    rw [hzero]
    omega
  · next hlt =>
    rw [Int64.lt_iff_toInt_lt, Int64.toInt_sub, hzero] at hlt
    rw [Int64.toInt_sub]
    omega

@[simp] theorem rebase_self (first : Int64) : rebase first first = 0 := by
  simp [rebase]

/-- What rebasing takes from a stamp: the first stamp, or what there is of it. A distance of `2 ^ 63`
and more overflows. -/
def base (first t : ℤ) : ℤ :=
  if first ≤ t then if t - first < 2 ^ 63 then first else t
  else if -2 ^ 63 ≤ t - first then t else first - 2 ^ 64

theorem sub_rebase (first t : Int64) :
    t.toInt - (rebase first t).toInt = base first.toInt t.toInt := by
  have hfirst := And.intro first.le_toInt first.toInt_lt
  have ht := And.intro t.le_toInt t.toInt_lt
  rw [toInt_rebase, base]
  by_cases hle : first.toInt ≤ t.toInt
  · by_cases hnear : t.toInt - first.toInt < 2 ^ 63
    · rw [Int.bmod_eq_of_le (by omega) (by omega), if_pos hle, if_pos hnear]
      omega
    · have hwrap : (t.toInt - first.toInt).bmod (2 ^ 64) = t.toInt - first.toInt - 2 ^ 64 := by
        rw [← Int.sub_bmod_right, Int.bmod_eq_of_le (by omega) (by omega)]
        rfl
      rw [hwrap, if_pos hle, if_neg hnear]
      omega
  · by_cases hnear : -2 ^ 63 ≤ t.toInt - first.toInt
    · rw [Int.bmod_eq_of_le (by omega) (by omega), if_neg hle, if_pos hnear]
      omega
    · have hwrap : (t.toInt - first.toInt).bmod (2 ^ 64) = t.toInt - first.toInt + 2 ^ 64 := by
        rw [← Int.add_bmod_right, Int.bmod_eq_of_le (by omega) (by omega)]
        rfl
      rw [hwrap, if_neg hle, if_neg hnear]
      omega

/-- Two stamps on time bases of their own keep their distance under rebasing exactly when what
rebasing takes from them is the same time. -/
theorem rebase_distance_iff (tb₁ tb₂ : TimeBase) (first₁ first₂ t₁ t₂ : Int64) :
    tb₁.seconds (rebase first₁ t₁).toInt - tb₂.seconds (rebase first₂ t₂).toInt
        = tb₁.seconds t₁.toInt - tb₂.seconds t₂.toInt ↔
      tb₁.seconds (base first₁.toInt t₁.toInt) = tb₂.seconds (base first₂.toInt t₂.toInt) := by
  rw [← sub_rebase first₁ t₁, ← sub_rebase first₂ t₂, TimeBase.seconds_sub, TimeBase.seconds_sub]
  constructor
  · intro h
    linarith
  · intro h
    linarith

end DecoderSDK.Timeline
