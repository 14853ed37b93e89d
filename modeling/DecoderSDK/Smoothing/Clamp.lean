import Mathlib.Tactic

/-! # Clamps and limited steps

A value is clamped to a range, and a quantity follows a target by steps: the
distance to the target is limited, and a part of it is covered. A step never
passes the target, and it grows with the target, the part and the limit.
-/
namespace DecoderSDK.Smoothing

section Clamp
variable {K : Type*} [LinearOrder K] {lo hi : K}

/-- The value, or the end of the range that it lies beyond. -/
def clamp (v lo hi : K) : K := if v < lo then lo else if hi < v then hi else v

theorem clamp_eq_max_min (h : lo ≤ hi) (v : K) : clamp v lo hi = max lo (min v hi) := by
  unfold clamp
  split_ifs with hlo hhi
  · rw [max_eq_left ((min_le_left v hi).trans hlo.le)]
  · rw [min_eq_right hhi.le, max_eq_right h]
  · rw [min_eq_left (not_lt.mp hhi), max_eq_right (not_lt.mp hlo)]

theorem clamp_mem (h : lo ≤ hi) (v : K) : clamp v lo hi ∈ Set.Icc lo hi := by
  rw [clamp_eq_max_min h]
  exact ⟨le_max_left _ _, max_le h (min_le_right _ _)⟩

theorem clamp_of_mem {v : K} (hv : v ∈ Set.Icc lo hi) : clamp v lo hi = v := by
  rw [clamp, if_neg (not_lt.mpr hv.1), if_neg (not_lt.mpr hv.2)]

theorem clamp_mono (h : lo ≤ hi) : Monotone fun v => clamp v lo hi := by
  intro v w hvw
  simp only [clamp_eq_max_min h]
  exact max_le_max_left lo (min_le_min_right hi hvw)

end Clamp

section Step
variable {K : Type*} [Field K] [LinearOrder K] [IsStrictOrderedRing K]

/-- A larger value is clamped at most as much higher as it is larger. -/
theorem clamp_add_le {lo hi : K} (h : lo ≤ hi) (v : K) {d : K} (hd : 0 ≤ d) :
    clamp (v + d) lo hi ≤ clamp v lo hi + d := by
  rw [clamp_eq_max_min h, clamp_eq_max_min h, max_add]
  apply max_le_max
  · linarith
  · rw [min_add]
    exact min_le_min_left _ (by linarith)

theorem clamp_abs_le {c : K} (hc : 0 ≤ c) (v : K) : |clamp v (-c) c| ≤ c :=
  abs_le.mpr (clamp_mem (by linarith) v)

/-- The step from `prev` towards `target`: of the distance, at most `limit`, the part `gain`. -/
def approach (gain limit prev target : K) : K := prev + gain * clamp (target - prev) (-limit) limit

variable {gain gain' limit limit' prev : K}

theorem approach_mono (hgain : 0 ≤ gain) (hlimit : 0 ≤ limit) :
    Monotone (approach gain limit prev) := by
  intro x y hxy
  have hclamp := clamp_mono (by linarith : -limit ≤ limit) (sub_le_sub_right hxy prev)
  have hmul := mul_le_mul_of_nonneg_left hclamp hgain
  simp only [approach]
  linarith

theorem clamp_nonpos {v : K} (hlimit : 0 ≤ limit) (hv : v ≤ 0) : clamp v (-limit) limit ≤ 0 := by
  rw [clamp_eq_max_min (by linarith)]
  exact max_le (by linarith) ((min_le_left _ _).trans hv)

theorem clamp_nonneg {v : K} (hlimit : 0 ≤ limit) (hv : 0 ≤ v) : 0 ≤ clamp v (-limit) limit := by
  rw [clamp_eq_max_min (by linarith)]
  exact (le_min hv hlimit).trans (le_max_right _ _)

/-- A step with more gain and more room goes further down to a lower target. -/
theorem approach_anti_of_le {target : K} (hgain : 0 ≤ gain) (hgains : gain ≤ gain')
    (hlimit : 0 ≤ limit) (hlimits : limit ≤ limit') (htarget : target ≤ prev) :
    approach gain' limit' prev target ≤ approach gain limit prev target := by
  have hneg := clamp_nonpos hlimit (by linarith : target - prev ≤ 0)
  have hclamp : clamp (target - prev) (-limit') limit' ≤ clamp (target - prev) (-limit) limit := by
    rw [clamp_eq_max_min (by linarith), clamp_eq_max_min (by linarith),
      min_eq_left (by linarith), min_eq_left (by linarith)]
    exact max_le_max_right _ (by linarith)
  have hmul := mul_le_mul_of_nonneg_left hclamp (hgain.trans hgains)
  have hmul' := mul_le_mul_of_nonpos_right hgains hneg
  simp only [approach]
  linarith

/-- It goes further up to a higher target. -/
theorem approach_mono_of_ge {target : K} (hgain : 0 ≤ gain) (hgains : gain ≤ gain')
    (hlimit : 0 ≤ limit) (hlimits : limit ≤ limit') (htarget : prev ≤ target) :
    approach gain limit prev target ≤ approach gain' limit' prev target := by
  have hpos := clamp_nonneg hlimit (by linarith : 0 ≤ target - prev)
  have hclamp : clamp (target - prev) (-limit) limit ≤ clamp (target - prev) (-limit') limit' := by
    rw [clamp_eq_max_min (by linarith), clamp_eq_max_min (by linarith),
      max_eq_right ((by linarith : -limit ≤ 0).trans (le_min (by linarith) hlimit)),
      max_eq_right ((by linarith : -limit' ≤ 0).trans (le_min (by linarith) (by linarith)))]
    exact min_le_min_left _ hlimits
  have hmul := mul_le_mul_of_nonneg_left hclamp (hgain.trans hgains)
  have hmul' := mul_le_mul_of_nonneg_right hgains hpos
  simp only [approach]
  linarith

/-- A step does not pass its target. -/
theorem approach_mem_uIcc (hgain : 0 ≤ gain) (hgain1 : gain ≤ 1) (hlimit : 0 ≤ limit) (target : K) :
    approach gain limit prev target ∈ Set.uIcc prev target := by
  rcases le_total prev target with hle | hle
  · have hpos := clamp_nonneg hlimit (by linarith : 0 ≤ target - prev)
    have hself : clamp (target - prev) (-limit) limit ≤ target - prev := by
      rw [clamp_eq_max_min (by linarith)]
      exact max_le (by linarith) (min_le_left _ _)
    have hmul := mul_nonneg hgain hpos
    have hpart := mul_le_of_le_one_left hpos hgain1
    rw [Set.uIcc_of_le hle]
    constructor <;> simp only [approach] <;> linarith
  · have hneg := clamp_nonpos hlimit (by linarith : target - prev ≤ 0)
    have hself : target - prev ≤ clamp (target - prev) (-limit) limit := by
      rw [clamp_eq_max_min (by linarith), min_eq_left (by linarith)]
      exact le_max_right _ _
    have hmul := mul_nonpos_of_nonneg_of_nonpos hgain hneg
    have hpart := mul_le_mul_of_nonpos_right hgain1 hneg
    rw [Set.uIcc_of_ge hle]
    constructor <;> simp only [approach] <;> linarith

/-- What lies between a start and a target is no further from the target, and not beyond it. -/
theorem distance_of_mem_uIcc {start next target : K} (h : next ∈ Set.uIcc start target) :
    |target - next| ≤ |target - start| ∧ 0 ≤ (target - start) * (target - next) := by
  rcases Set.mem_uIcc.mp h with ⟨h₁, h₂⟩ | ⟨h₁, h₂⟩
  · rw [abs_of_nonneg (by linarith), abs_of_nonneg (by linarith)]
    exact ⟨by linarith, mul_nonneg (by linarith) (by linarith)⟩
  · rw [abs_of_nonpos (by linarith), abs_of_nonpos (by linarith)]
    exact ⟨by linarith, mul_nonneg_of_nonpos_of_nonpos (by linarith) (by linarith)⟩

end Step

end DecoderSDK.Smoothing
