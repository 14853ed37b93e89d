import DecoderSDK.Sync.Drift

/-! # Later frames and their delays

The delay of a frame is a function of the new drift alone, and the new drift
grows with the time stamp. The threshold grows with the drift, too, but too
slowly for a larger drift to fall back below it.
-/
namespace DecoderSDK.Sync
open Smoothing

variable {alpha speed : ℚ}

/-- A later frame never gets a smaller drift, also where the sign of its distance changes. -/
theorem smoothEMA_mono (halpha : 0 ≤ alpha) (hspeed : 0 < speed) (prev : ℚ) :
    Monotone fun current => smoothEMA alpha prev current speed (1 / 10) := by
  intro x y hxy
  have hfactor : 0 < min speed 4 := lt_min hspeed (by norm_num)
  have hadjusted : 0 ≤ min (alpha * min speed 4) (9 / 10) :=
    le_min (mul_nonneg halpha hfactor.le) (by norm_num)
  have hgains : min (alpha * min speed 4) (9 / 10) ≤ min (min (alpha * min speed 4) (9 / 10) * 2) 1 :=
    le_min (by linarith) ((min_le_right _ _).trans (by norm_num))
  have hlimit : 0 ≤ 1 / 10 * min speed 4 := by positivity
  have hlimits : 1 / 10 * min speed 4 ≤ 1 / 10 * min speed 4 * 2 := by linarith
  simp only [smoothEMA_eq]
  apply clamp_mono (neg_driftBound_le hspeed)
  -- the gain and the limit change with the sign of the distance only
  by_cases hx : (prev > 0 ∧ x < 0) ∨ (prev < 0 ∧ x > 0) <;>
    by_cases hy : (prev > 0 ∧ y < 0) ∨ (prev < 0 ∧ y > 0)
  · simp only [gain, stepLimit, if_pos hx, if_pos hy]
    exact approach_mono (hadjusted.trans hgains) (hlimit.trans hlimits) hxy
  · have hprev : prev > 0 := by
      rcases hx with hx | hx
      · exact hx.1
      · exact absurd (Or.inr ⟨hx.1, hx.2.trans_le hxy⟩) hy
    have hneg : x < 0 := hx.elim And.right fun h => absurd hprev h.1.le.not_gt
    simp only [gain, stepLimit, if_pos hx, if_neg hy]
    calc _ ≤ approach (min (alpha * min speed 4) (9 / 10)) (1 / 10 * min speed 4) prev x :=
          approach_anti_of_le hadjusted hgains hlimit hlimits (hneg.trans hprev).le
      _ ≤ _ := approach_mono hadjusted hlimit hxy
  · have hprev : prev < 0 := by
      rcases hy with hy | hy
      · exact absurd (Or.inl ⟨hy.1, hxy.trans_lt hy.2⟩) hx
      · exact hy.1
    have hpos : y > 0 := hy.elim (fun h => absurd hprev h.1.le.not_gt) And.right
    simp only [gain, stepLimit, if_neg hx, if_pos hy]
    calc _ ≤ approach (min (alpha * min speed 4) (9 / 10)) (1 / 10 * min speed 4) prev y :=
          approach_mono hadjusted hlimit hxy
      _ ≤ _ := approach_mono_of_ge hadjusted hgains hlimit hlimits (hprev.trans hpos).le
  · simp only [gain, stepLimit, if_neg hx, if_neg hy]
    exact approach_mono hadjusted hlimit hxy

namespace StreamSyncManager

theorem computeAdaptiveThreshold_eq (s : StreamSyncManager) :
    s.computeAdaptiveThreshold =
      clamp (s.syncThreshold + |s.smoothedAudioDrift| / 4 + |s.smoothedVideoDrift| / 4)
        kMinSyncThreshold kMaxSyncThreshold := by
  simp only [computeAdaptiveThreshold]
  congr 1
  ring

/-- The threshold as a function of the size of the drift. -/
def thresholdAt (s : StreamSyncManager) (speed size : ℚ) : ℚ :=
  (if s.adaptiveSync then clamp (s.syncThreshold + |s.smoothedAudioDrift| / 4 + size / 4)
      kMinSyncThreshold kMaxSyncThreshold
    else s.syncThreshold) / speed

theorem threshold_eq (s : StreamSyncManager) (speed : ℚ) :
    s.threshold speed = s.thresholdAt speed |s.smoothedVideoDrift| := by
  rw [threshold, thresholdAt, computeAdaptiveThreshold_eq]

theorem thresholdAt_nonneg {s : StreamSyncManager} (hsync : 0 ≤ s.syncThreshold)
    (hspeed : 0 < speed) (size : ℚ) : 0 ≤ s.thresholdAt speed size := by
  have hclamp := (clamp_mem (by norm_num [kMinSyncThreshold, kMaxSyncThreshold] :
    kMinSyncThreshold ≤ kMaxSyncThreshold)
    (s.syncThreshold + |s.smoothedAudioDrift| / 4 + size / 4)).1
  have hmin : (0 : ℚ) ≤ kMinSyncThreshold := by norm_num [kMinSyncThreshold]
  apply div_nonneg _ hspeed.le
  split_ifs
  · exact hmin.trans hclamp
  · exact hsync

/-- A drift above the threshold stays above it when it grows: below a quarter of the normal speed
the bound of the drift keeps it under the threshold, from there on the drift grows faster. -/
theorem exceeds_mono {s : StreamSyncManager} (hsync : 0 ≤ s.syncThreshold) (hspeed : 0 < speed)
    {size size' : ℚ} (hsize : 0 ≤ size) (hle : size ≤ size') (hbound : size' ≤ driftBound speed)
    (h : s.thresholdAt speed size < size) : s.thresholdAt speed size' < size' := by
  have hrange : kMinSyncThreshold ≤ kMaxSyncThreshold := by
    norm_num [kMinSyncThreshold, kMaxSyncThreshold]
  rw [thresholdAt, div_lt_iff₀ hspeed] at h ⊢
  cases hadaptive : s.adaptiveSync with
  | false =>
    simp only [hadaptive, Bool.false_eq_true, if_false] at h ⊢
    exact h.trans_le (mul_le_mul_of_nonneg_right hle hspeed.le)
  | true =>
    simp only [hadaptive, if_true] at h ⊢
    generalize hc : s.syncThreshold + |s.smoothedAudioDrift| / 4 = c at h ⊢
    have hcpos : 0 ≤ c := by
      rw [← hc]
      have := abs_nonneg s.smoothedAudioDrift
      linarith
    have hstep := clamp_add_le hrange (c + size / 4) (by linarith : 0 ≤ (size' - size) / 4)
    rw [show c + size / 4 + (size' - size) / 4 = c + size' / 4 by ring] at hstep
    have hquarter : 1 / 4 ≤ speed := by
      by_contra hslow
      rw [not_le] at hslow
      have hfactor : driftBound speed ≤ 2 / 10 * speed := by
        unfold driftBound
        have := min_le_left speed 4
        linarith
      have hquarters : size * speed ≤ size * (1 / 4) := mul_le_mul_of_nonneg_left hslow.le hsize
      have hsmall : size * speed ≤ 2 / 10 * speed * (1 / 4) :=
        mul_le_mul (by linarith) hslow.le hspeed.le (by linarith)
      have hlow : size * speed ≤ min (c + size / 4) kMaxSyncThreshold := by
        apply le_min
        · linarith
        · norm_num [kMaxSyncThreshold]
          linarith
      rw [clamp_eq_max_min hrange] at h
      exact absurd h (not_lt.mpr (hlow.trans (le_max_right _ _)))
    have hgrow := mul_nonneg (sub_nonneg.mpr hle) (sub_nonneg.mpr hquarter)
    linarith [hgrow, sub_mul size' size speed]

/-- The manager after the new drift was stored. -/
def withDrift (s : StreamSyncManager) (d : ℚ) : StreamSyncManager := { s with smoothedVideoDrift := d }

theorem threshold_withDrift (s : StreamSyncManager) (speed d : ℚ) :
    (s.withDrift d).threshold speed = s.thresholdAt speed |d| := threshold_eq _ speed

theorem shouldDropFrame_withDrift (s : StreamSyncManager) (frameDuration d : ℚ) :
    (s.withDrift d).shouldDropFrame frameDuration = true ↔
      d < -(s.syncThreshold / (s.clock .video).speed) * 3 ∧
        frameDuration < 33 / 1000 / (s.clock .video).speed := by
  rw [shouldDropFrame, Bool.and_eq_true, decide_eq_true_eq, decide_eq_true_eq]
  rfl

theorem delayAt_withDrift (s : StreamSyncManager) (baseDelay speed d : ℚ) :
    (s.withDrift d).delayAt baseDelay speed =
      if s.thresholdAt speed |d| < |d| then
        if d > 0 then baseDelay + d * 1000 / speed
        else max 0 (baseDelay + d * 1000 * min 1 (1 / 2 * speed))
      else baseDelay := by
  rw [delayAt, threshold_withDrift]
  rfl

/-- The delay in terms of the new drift. -/
theorem computeVideoDelay_fst (s : StreamSyncManager)
    (framePts frameDuration baseDelay speed now : ℚ) {d : ℚ}
    (hd : smoothEMA s.alpha s.smoothedVideoDrift (framePts - s.getMasterClock now) speed (1 / 10) = d) :
    (s.computeVideoDelay framePts frameDuration baseDelay speed now).1 =
      if d < -s.thresholdAt speed |d| ∧ (s.withDrift d).shouldDropFrame frameDuration = true then -1
      else max 0 ((s.withDrift d).delayAt baseDelay speed) := by
  rw [computeVideoDelay, hd, ← threshold_withDrift]
  exact apply_ite Prod.fst _ _ _

/-- When a frame is dropped, a frame with a smaller drift is dropped, too. -/
theorem drop_anti {s : StreamSyncManager} (hsync : 0 ≤ s.syncThreshold) (hspeed : 0 < speed)
    {frameDuration d₁ d₂ : ℚ} (hle : d₁ ≤ d₂) (hbound : |d₁| ≤ driftBound speed)
    (h : d₂ < -s.thresholdAt speed |d₂| ∧ (s.withDrift d₂).shouldDropFrame frameDuration = true) :
    d₁ < -s.thresholdAt speed |d₁| ∧ (s.withDrift d₁).shouldDropFrame frameDuration = true := by
  obtain ⟨hlag, hdrop⟩ := h
  have hneg : d₂ < 0 := by
    have := thresholdAt_nonneg hsync hspeed |d₂|
    linarith
  have hd₁ : |d₁| = -d₁ := abs_of_neg (hle.trans_lt hneg)
  have hd₂ : |d₂| = -d₂ := abs_of_neg hneg
  constructor
  · have hexceeds := exceeds_mono hsync hspeed (abs_nonneg d₂) (by linarith) hbound (by linarith)
    linarith
  · rw [shouldDropFrame_withDrift] at hdrop ⊢
    exact ⟨hle.trans_lt hdrop.1, hdrop.2⟩

/-- What a drift above the threshold adds to the delay has its sign and grows with it. -/
theorem delayAt_mono {s : StreamSyncManager} (hsync : 0 ≤ s.syncThreshold) (hspeed : 0 < speed)
    (baseDelay : ℚ) {d₁ d₂ : ℚ} (hle : d₁ ≤ d₂) (hbound₁ : |d₁| ≤ driftBound speed)
    (hbound₂ : |d₂| ≤ driftBound speed) :
    max 0 ((s.withDrift d₁).delayAt baseDelay speed) ≤
      max 0 ((s.withDrift d₂).delayAt baseDelay speed) := by
  have hfactor : 0 ≤ min 1 (1 / 2 * speed) := le_min zero_le_one (by positivity)
  have hahead {d : ℚ} (hd : 0 < d) : baseDelay ≤ baseDelay + d * 1000 / speed := by
    have : 0 < d * 1000 / speed := by positivity
    linarith
  have hbehind {d : ℚ} (hd : d ≤ 0) :
      max 0 (baseDelay + d * 1000 * min 1 (1 / 2 * speed)) ≤ max 0 baseDelay := by
    have := mul_nonpos_of_nonpos_of_nonneg (by linarith : d * 1000 ≤ 0) hfactor
    exact max_le_max_left 0 (by linarith)
  have hsame (x : ℚ) : max 0 (max 0 x) = max 0 x := max_eq_right (le_max_left _ _)
  rw [delayAt_withDrift, delayAt_withDrift]
  by_cases hexceeds₁ : s.thresholdAt speed |d₁| < |d₁| <;>
    by_cases hexceeds₂ : s.thresholdAt speed |d₂| < |d₂|
  · rw [if_pos hexceeds₁, if_pos hexceeds₂]
    by_cases hpos₁ : d₁ > 0
    · rw [if_pos hpos₁, if_pos (hpos₁.trans_le hle)]
      apply max_le_max_left
      have := div_le_div_of_nonneg_right (by linarith : d₁ * 1000 ≤ d₂ * 1000) hspeed.le
      linarith
    · rw [if_neg hpos₁, hsame]
      split_ifs with hpos₂
      · exact (hbehind (not_lt.mp hpos₁)).trans (max_le_max_left 0 (hahead hpos₂))
      · rw [hsame]
        apply max_le_max_left
        have := mul_le_mul_of_nonneg_right (by linarith : d₁ * 1000 ≤ d₂ * 1000) hfactor
        linarith
  · rw [if_pos hexceeds₁, if_neg hexceeds₂]
    have hpos₁ : ¬d₁ > 0 := by
      intro hpos
      rw [abs_of_pos hpos] at hexceeds₁
      rw [abs_of_pos (hpos.trans_le hle)] at hexceeds₂ hbound₂
      exact hexceeds₂ (exceeds_mono hsync hspeed hpos.le hle hbound₂ hexceeds₁)
    rw [if_neg hpos₁, hsame]
    exact hbehind (not_lt.mp hpos₁)
  · rw [if_neg hexceeds₁, if_pos hexceeds₂]
    have hpos₂ : d₂ > 0 := by
      by_contra hneg
      rw [not_lt] at hneg
      rw [abs_of_nonpos hneg] at hexceeds₂
      rw [abs_of_nonpos (hle.trans hneg)] at hexceeds₁ hbound₁
      exact hexceeds₁ (exceeds_mono hsync hspeed (by linarith) (by linarith) hbound₁ hexceeds₂)
    rw [if_pos hpos₂]
    exact max_le_max_left 0 (hahead hpos₂)
  · rw [if_neg hexceeds₁, if_neg hexceeds₂]

/-- From the same state and at the same time, a later frame never gets a shorter delay, and is
not dropped when an earlier one would be kept. -/
theorem computeVideoDelay_mono (s : StreamSyncManager)
    (framePts₁ framePts₂ frameDuration baseDelay speed now : ℚ) (halpha : 0 ≤ s.alpha)
    (hsync : 0 ≤ s.syncThreshold) (hspeed : 0 < speed) (hle : framePts₁ ≤ framePts₂) :
    (s.computeVideoDelay framePts₁ frameDuration baseDelay speed now).1 ≤
      (s.computeVideoDelay framePts₂ frameDuration baseDelay speed now).1 := by
  have hdrift := smoothEMA_mono halpha hspeed s.smoothedVideoDrift
    (sub_le_sub_right hle (s.getMasterClock now))
  have hbound (framePts : ℚ) : |smoothEMA s.alpha s.smoothedVideoDrift
      (framePts - s.getMasterClock now) speed (1 / 10)| ≤ driftBound speed :=
    abs_smoothEMA_le hspeed _ _
  rw [computeVideoDelay_fst s framePts₁ frameDuration baseDelay speed now rfl,
    computeVideoDelay_fst s framePts₂ frameDuration baseDelay speed now rfl]
  split_ifs with hdrop₁ hdrop₂ hdrop₂
  · exact le_rfl
  · exact (by norm_num : (-1 : ℚ) ≤ 0).trans (le_max_left _ _)
  · exact absurd (drop_anti hsync hspeed hdrift (hbound framePts₁) hdrop₂) hdrop₁
  · exact delayAt_mono hsync hspeed baseDelay hdrift (hbound framePts₁) (hbound framePts₂)

theorem computeVideoDelay_mono_normal :
    ((new .audio (10 / 1000) (1 / 10) 0).computeVideoDelay 1 (40 / 1000) 40 1 0).1 ≤
      ((new .audio (10 / 1000) (1 / 10) 0).computeVideoDelay 2 (40 / 1000) 40 1 0).1 :=
  computeVideoDelay_mono _ 1 2 (40 / 1000) 40 1 0 (by norm_num [new]) (by norm_num [new]) one_pos
    one_le_two

end StreamSyncManager

end DecoderSDK.Sync
