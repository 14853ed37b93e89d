import Mathlib
import DecoderSDK.Smoothing.Clamp
import DecoderSDK.Sync.Clock
import DecoderSDK.Interleaving.Runs

/-! # The smoothed drift of the video

For every frame the stream synchronisation moves its drift towards the
distance of the frame to the master clock, by a limited step with a gain that
depends on the speed and is doubled when the sign changes. Times and speeds
are rationals.
-/
namespace DecoderSDK.Sync
open Smoothing Interleaving

def kMinSyncThreshold : ℚ := 5 / 1000

def kMaxSyncThreshold : ℚ := 50 / 1000

/-- The bound of the drift at a speed. -/
def driftBound (speed : ℚ) : ℚ := 2 / 10 * min speed 4

def smoothEMA (alpha prev current speed maxChange : ℚ) : ℚ :=
  let speedFactor := min speed 4
  let adjustedMaxChange := maxChange * speedFactor
  let adjustedAlpha := min (alpha * speedFactor) (9 / 10)
  let directionChange := (prev > 0 ∧ current < 0) ∨ (prev < 0 ∧ current > 0)
  let effectiveMaxChange := if directionChange then adjustedMaxChange * 2 else adjustedMaxChange
  let change := clamp (current - prev) (-effectiveMaxChange) effectiveMaxChange
  let effectiveAlpha := if directionChange then min (adjustedAlpha * 2) 1 else adjustedAlpha
  let newValue := prev + effectiveAlpha * change
  clamp newValue (-(2 / 10) * speedFactor) (2 / 10 * speedFactor)

inductive MasterClock where
  | audio
  | video
  | external
  deriving DecidableEq

structure StreamSyncManager where
  master : MasterClock
  clock : MasterClock → Clock
  syncThreshold : ℚ
  alpha : ℚ
  adaptiveSync : Bool
  smoothedVideoDrift : ℚ
  smoothedAudioDrift : ℚ
  droppedFrames : ℤ
  duplicatedFrames : ℤ
  avgVideoDelay : ℚ

namespace StreamSyncManager

/-- A manager whose clocks were initialised at a time. -/
def new (master : MasterClock) (syncThreshold jitterAlpha now : ℚ) : StreamSyncManager where
  master := master
  clock := fun _ => Clock.new.init 0 now
  syncThreshold := syncThreshold
  alpha := jitterAlpha
  adaptiveSync := true
  smoothedVideoDrift := 0
  smoothedAudioDrift := 0
  droppedFrames := 0
  duplicatedFrames := 0
  avgVideoDelay := 0

def getMasterClock (s : StreamSyncManager) (now : ℚ) : ℚ := (s.clock s.master).getClock now

def setMaster (s : StreamSyncManager) (master : MasterClock) : StreamSyncManager :=
  { s with master := master }

def setAVSyncThreshold (s : StreamSyncManager) (threshold : ℚ) : StreamSyncManager :=
  { s with syncThreshold := clamp threshold kMinSyncThreshold kMaxSyncThreshold }

def setAdaptiveSync (s : StreamSyncManager) (enable : Bool) : StreamSyncManager :=
  { s with adaptiveSync := enable }

def setSpeed (s : StreamSyncManager) (speed now : ℚ) : StreamSyncManager :=
  { s with clock := fun name => (s.clock name).setClockSpeed speed now }

/-- `updateAudioClock`, `updateVideoClock` and `updateExternalClock`. -/
def updateClock (s : StreamSyncManager) (name : MasterClock) (pts : ℚ) (serial : ℤ) (now : ℚ) :
    StreamSyncManager :=
  { s with clock := Function.update s.clock name ((s.clock name).setClock pts serial now) }

def resetClocks (s : StreamSyncManager) (now : ℚ) : StreamSyncManager :=
  { s with clock := fun name => (s.clock name).reset now
           smoothedVideoDrift := 0
           smoothedAudioDrift := 0
           droppedFrames := 0
           duplicatedFrames := 0 }

def computeAdaptiveThreshold (s : StreamSyncManager) : ℚ :=
  let videoDrift := |s.smoothedVideoDrift|
  let audioDrift := |s.smoothedAudioDrift|
  let avgDrift := (videoDrift + audioDrift) / 2
  let adaptiveThreshold := s.syncThreshold + avgDrift * (1 / 2)
  clamp adaptiveThreshold kMinSyncThreshold kMaxSyncThreshold

def shouldDropFrame (s : StreamSyncManager) (frameDuration : ℚ) : Bool :=
  let speed := (s.clock .video).speed
  let threshold := s.syncThreshold / speed
  s.smoothedVideoDrift < -threshold * 3 && frameDuration < 33 / 1000 / speed

def shouldDuplicateFrame (s : StreamSyncManager) (frameDuration : ℚ) : Bool :=
  let speed := (s.clock .video).speed
  let threshold := s.syncThreshold / speed
  threshold * 3 < s.smoothedVideoDrift && 20 / 1000 / speed < frameDuration

/-- The threshold that belongs to the stored drift. -/
def threshold (s : StreamSyncManager) (speed : ℚ) : ℚ :=
  (if s.adaptiveSync then s.computeAdaptiveThreshold else s.syncThreshold) / speed

/-- The delay before negative values are cut off; the drift is stored already. -/
def delayAt (s : StreamSyncManager) (baseDelay speed : ℚ) : ℚ :=
  let newDrift := s.smoothedVideoDrift
  if s.threshold speed < |newDrift| then
    if newDrift > 0 then baseDelay + newDrift * 1000 / speed
    else max 0 (baseDelay + newDrift * 1000 * min 1 (1 / 2 * speed))
  else baseDelay

/-- The new drift is stored before anything is decided. The counters are `int` values. -/
def computeVideoDelay (s : StreamSyncManager) (framePts frameDuration baseDelay speed now : ℚ) :
    ℚ × StreamSyncManager :=
  let diff := framePts - s.getMasterClock now
  let newDrift := smoothEMA s.alpha s.smoothedVideoDrift diff speed (1 / 10)
  let s := { s with smoothedVideoDrift := newDrift }
  let threshold := s.threshold speed
  if newDrift < -threshold ∧ s.shouldDropFrame frameDuration = true then
    (-1, { s with droppedFrames := (s.droppedFrames + 1).bmod (2 ^ 32) })
  else
    let delay := s.delayAt baseDelay speed
    let s := if threshold < |newDrift| ∧ threshold < newDrift ∧
        s.shouldDuplicateFrame frameDuration = true then
        { s with duplicatedFrames := (s.duplicatedFrames + 1).bmod (2 ^ 32) }
      else s
    (max 0 delay, { s with avgVideoDelay := s.avgVideoDelay * (95 / 100) + delay * (5 / 100) })

end StreamSyncManager

section Smoothing

/-- The gain and the limit of a step. -/
def gain (alpha prev current speed : ℚ) : ℚ :=
  if (prev > 0 ∧ current < 0) ∨ (prev < 0 ∧ current > 0) then
    min (min (alpha * min speed 4) (9 / 10) * 2) 1
  else min (alpha * min speed 4) (9 / 10)

def stepLimit (prev current speed : ℚ) : ℚ :=
  if (prev > 0 ∧ current < 0) ∨ (prev < 0 ∧ current > 0) then 1 / 10 * min speed 4 * 2
  else 1 / 10 * min speed 4

theorem smoothEMA_eq (alpha prev current speed : ℚ) :
    smoothEMA alpha prev current speed (1 / 10) =
      clamp (approach (gain alpha prev current speed) (stepLimit prev current speed) prev current)
        (-driftBound speed) (driftBound speed) := by
  rw [driftBound, ← neg_mul]
  rfl

variable {alpha speed : ℚ}

theorem driftBound_nonneg (hspeed : 0 < speed) : 0 ≤ driftBound speed := by
  have hfactor : 0 < min speed 4 := lt_min hspeed (by norm_num)
  unfold driftBound
  positivity

theorem neg_driftBound_le (hspeed : 0 < speed) : -driftBound speed ≤ driftBound speed := by
  have := driftBound_nonneg hspeed
  linarith

theorem gain_nonneg (halpha : 0 ≤ alpha) (hspeed : 0 < speed) (prev current : ℚ) :
    0 ≤ gain alpha prev current speed := by
  have hfactor : 0 < min speed 4 := lt_min hspeed (by norm_num)
  have hadjusted : 0 ≤ min (alpha * min speed 4) (9 / 10) :=
    le_min (mul_nonneg halpha hfactor.le) (by norm_num)
  unfold gain
  split_ifs
  · exact le_min (by linarith) zero_le_one
  · exact hadjusted

/-- Neither cap lets a step pass its target. -/
theorem gain_le_one (prev current : ℚ) : gain alpha prev current speed ≤ 1 := by
  unfold gain
  split_ifs
  · exact min_le_right _ _
  · exact (min_le_right _ _).trans (by norm_num)

theorem stepLimit_nonneg (hspeed : 0 < speed) (prev current : ℚ) :
    0 ≤ stepLimit prev current speed := by
  have hfactor : 0 < min speed 4 := lt_min hspeed (by norm_num)
  unfold stepLimit
  split_ifs <;> positivity

theorem abs_smoothEMA_le (hspeed : 0 < speed) (prev current : ℚ) :
    |smoothEMA alpha prev current speed (1 / 10)| ≤ driftBound speed := by
  rw [smoothEMA_eq]
  exact clamp_abs_le (driftBound_nonneg hspeed) _

theorem smoothEMA_mem_uIcc (halpha : 0 ≤ alpha) (hspeed : 0 < speed) {prev : ℚ}
    (hprev : |prev| ≤ driftBound speed) (current : ℚ) :
    smoothEMA alpha prev current speed (1 / 10) ∈
      Set.uIcc prev (clamp current (-driftBound speed) (driftBound speed)) := by
  have hstep : approach (gain alpha prev current speed) (stepLimit prev current speed)
      prev current ∈ Set.uIcc prev current :=
    approach_mem_uIcc (gain_nonneg halpha hspeed prev current) (gain_le_one prev current)
      (stepLimit_nonneg hspeed prev current) current
  have hclamp := (clamp_mono (neg_driftBound_le hspeed)).mapsTo_uIcc hstep
  have hfixed : clamp prev (-driftBound speed) (driftBound speed) = prev :=
    clamp_of_mem (abs_le.mp hprev)
  rw [hfixed] at hclamp
  rw [smoothEMA_eq]
  exact hclamp

end Smoothing

/-- The calls of a manager. -/
inductive Call where
  | computeVideoDelay (framePts frameDuration baseDelay : ℚ)
  | updateClock (name : MasterClock) (pts : ℚ) (serial : ℤ)
  | setMaster (master : MasterClock)
  | setAVSyncThreshold (threshold : ℚ)
  | setAdaptiveSync (enable : Bool)
  | setSpeed (speed : ℚ)
  | resetClocks

namespace StreamSyncManager

/-- One call at a system time; the frames are all shown at the same speed. -/
def call (speed : ℚ) (s : StreamSyncManager) (a : ℚ × Call) : Option StreamSyncManager :=
  some (match a.2 with
    | .computeVideoDelay framePts frameDuration baseDelay =>
      (s.computeVideoDelay framePts frameDuration baseDelay speed a.1).2
    | .updateClock name pts serial => s.updateClock name pts serial a.1
    | .setMaster master => s.setMaster master
    | .setAVSyncThreshold threshold => s.setAVSyncThreshold threshold
    | .setAdaptiveSync enable => s.setAdaptiveSync enable
    | .setSpeed speed => s.setSpeed speed a.1
    | .resetClocks => s.resetClocks a.1)

theorem computeVideoDelay_alpha (s : StreamSyncManager)
    (framePts frameDuration baseDelay speed now : ℚ) :
    (s.computeVideoDelay framePts frameDuration baseDelay speed now).2.alpha = s.alpha := by
  simp only [computeVideoDelay]
  split_ifs <;> rfl

theorem computeVideoDelay_drift (s : StreamSyncManager)
    (framePts frameDuration baseDelay speed now : ℚ) :
    (s.computeVideoDelay framePts frameDuration baseDelay speed now).2.smoothedVideoDrift =
      smoothEMA s.alpha s.smoothedVideoDrift (framePts - s.getMasterClock now) speed (1 / 10) := by
  simp only [computeVideoDelay]
  split_ifs <;> rfl

/-- The gain is not negative and the drift is within its bound. -/
def Bounded (speed : ℚ) (s : StreamSyncManager) : Prop :=
  0 ≤ s.alpha ∧ |s.smoothedVideoDrift| ≤ driftBound speed

theorem Bounded.call {speed : ℚ} (hspeed : 0 < speed) {s t : StreamSyncManager} {a : ℚ × Call}
    (hs : Bounded speed s) (h : s.call speed a = some t) : Bounded speed t := by
  obtain ⟨now, c⟩ := a
  rw [StreamSyncManager.call, Option.some.injEq] at h
  subst h
  cases c with
  | computeVideoDelay framePts frameDuration baseDelay =>
    constructor
    · rw [computeVideoDelay_alpha]
      exact hs.1
    · rw [computeVideoDelay_drift]
      exact abs_smoothEMA_le hspeed _ _
  | resetClocks =>
    refine ⟨hs.1, ?_⟩
    simp only [resetClocks, abs_zero]
    exact driftBound_nonneg hspeed
  | updateClock name pts serial => exact hs
  | setMaster master => exact hs
  | setAVSyncThreshold threshold => exact hs
  | setAdaptiveSync enable => exact hs
  | setSpeed speed => exact hs

/-- The frame is at the distance `diff` from the master clock, and nothing is reset. -/
def Steady (diff : ℚ) (s : StreamSyncManager) (a : ℚ × Call) (_ : StreamSyncManager) : Prop :=
  match a.2 with
  | .computeVideoDelay framePts _ _ => framePts - s.getMasterClock a.1 = diff
  | .resetClocks => False
  | _ => True

/-- One call moves the drift towards the clamped difference or leaves it. -/
theorem Steady.drift_mem {speed diff : ℚ} (hspeed : 0 < speed) {s t : StreamSyncManager}
    {a : ℚ × Call} (hs : Bounded speed s) (hsteady : Steady diff s a t)
    (h : s.call speed a = some t) :
    t.smoothedVideoDrift ∈ Set.uIcc s.smoothedVideoDrift
      (clamp diff (-driftBound speed) (driftBound speed)) := by
  obtain ⟨now, c⟩ := a
  rw [StreamSyncManager.call, Option.some.injEq] at h
  subst h
  cases c with
  | computeVideoDelay framePts frameDuration baseDelay =>
    have hdiff : framePts - s.getMasterClock now = diff := hsteady
    rw [computeVideoDelay_drift, hdiff]
    exact smoothEMA_mem_uIcc hs.1 hspeed hs.2 diff
  | resetClocks => exact hsteady.elim
  | updateClock name pts serial => exact Set.left_mem_uIcc
  | setMaster master => exact Set.left_mem_uIcc
  | setAVSyncThreshold threshold => exact Set.left_mem_uIcc
  | setAdaptiveSync enable => exact Set.left_mem_uIcc
  | setSpeed speed => exact Set.left_mem_uIcc

theorem steady_run_mem {speed diff : ℚ} (hspeed : 0 < speed) {s t : StreamSyncManager}
    {calls : List (ℚ × Call)} (hs : Bounded speed s)
    (hsteady : Each (call speed) (Steady diff) s calls) (hrun : run (call speed) s calls = some t) :
    t.smoothedVideoDrift ∈ Set.uIcc s.smoothedVideoDrift
      (clamp diff (-driftBound speed) (driftBound speed)) := by
  let between (u : StreamSyncManager) : Prop := Bounded speed u ∧
    u.smoothedVideoDrift ∈ Set.uIcc s.smoothedVideoDrift
      (clamp diff (-driftBound speed) (driftBound speed))
  have hstep (u : StreamSyncManager) (a : ℚ × Call) (v : StreamSyncManager) (hu : between u)
      (hsteady : Steady diff u a v) (h : u.call speed a = some v) : between v :=
    ⟨hu.1.call hspeed h, Set.uIcc_subset_uIcc_right hu.2 (hsteady.drift_mem hspeed hu.1 h)⟩
  exact (Each.run_invariant hstep ⟨hs, Set.left_mem_uIcc⟩ hsteady hrun).2

/-- Smoothing does not pass the clamped difference. So the drift stays within its bound over any
calls, and while the difference stays the same, its distance to the clamped difference never
grows and never changes its sign. -/
theorem smoothing_bounded (speed : ℚ) (hspeed : 0 < speed) :
    (∀ alpha prev current, 0 ≤ alpha → |prev| ≤ driftBound speed →
      smoothEMA alpha prev current speed (1 / 10) ∈
        Set.uIcc prev (clamp current (-driftBound speed) (driftBound speed))) ∧
    (∀ s calls t, Bounded speed s → run (call speed) s calls = some t →
      |t.smoothedVideoDrift| ≤ driftBound speed) ∧
    ∀ diff s calls t, Bounded speed s → Each (call speed) (Steady diff) s calls →
      run (call speed) s calls = some t →
        |clamp diff (-driftBound speed) (driftBound speed) - t.smoothedVideoDrift| ≤
          |clamp diff (-driftBound speed) (driftBound speed) - s.smoothedVideoDrift| ∧
        0 ≤ (clamp diff (-driftBound speed) (driftBound speed) - s.smoothedVideoDrift) *
          (clamp diff (-driftBound speed) (driftBound speed) - t.smoothedVideoDrift) := by
  refine ⟨?_, ?_, ?_⟩
  · intro alpha prev current halpha hprev
    exact smoothEMA_mem_uIcc halpha hspeed hprev current
  · intro s calls t hs hrun
    exact (run_invariant (fun u a v hu h => hu.call hspeed h) hs hrun).2
  · intro diff s calls t hs hsteady hrun
    exact distance_of_mem_uIcc (steady_run_mem hspeed hs hsteady hrun)

theorem smoothing_bounded_normal :
    smoothEMA (1 / 10) 0 1 1 (1 / 10) ∈ Set.uIcc 0 (clamp 1 (-driftBound 1) (driftBound 1)) :=
  (smoothing_bounded 1 one_pos).1 (1 / 10) 0 1 (by norm_num)
    (by rw [abs_zero]; exact driftBound_nonneg one_pos)

end StreamSyncManager

end DecoderSDK.Sync
