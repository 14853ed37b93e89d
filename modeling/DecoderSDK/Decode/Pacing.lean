import DecoderSDK.Sync.VideoDelay

/-! # The pace of the frames

With frame rate control a decode thread holds every frame back until its
time. The time of a frame is the time of the one before it and the frame's
own interval; it does not depend on when the frame was ready, on how long it
was held, or on whether it was dropped. Times are nanoseconds, and casts to
whole milliseconds and microseconds truncate.
-/
namespace DecoderSDK.Pacing

/-- A cast to an integer. -/
def truncate (q : ℚ) : ℤ := Int.tdiv q.num q.den

def microsecond : ℤ := 1000

def millisecond : ℤ := 1000000

/-- A frame that comes out of the codec, with what the synchronisation makes of a delay in
milliseconds: another delay, or nothing if the frame is dropped. -/
structure Arrival where
  currentTime : ℤ
  duration : ℚ
  speed : ℚ
  adjust : ℚ → Option ℚ

namespace Arrival

def currentSpeed (a : Arrival) : ℚ := if a.speed ≤ 0 then 1 else a.speed

/-- The time to the next frame, in whole microseconds. -/
def interval (a : Arrival) : ℤ := truncate (a.duration * 1000 / a.currentSpeed * 1000) * microsecond

/-- The delay until a time, in milliseconds. -/
def baseDelay (a : Arrival) (nextFrameTime : ℤ) : ℚ :=
  (Int.tdiv (nextFrameTime - a.currentTime) microsecond : ℤ) / 1000

def sleepUntil (a : Arrival) (delay : ℚ) : ℤ :=
  if greater delay 0 then a.currentTime + truncate delay * millisecond else a.currentTime

end Arrival

/-- The delay of a frame and the new `lastFrameTime`. The test for a time that is not a number is
left out: `calculatePts` never gives one. -/
def calculateFrameDisplayTime (lastFrameTime : Option ℤ) (a : Arrival) : ℚ × ℤ :=
  match lastFrameTime with
  | none => (0, a.currentTime)
  | some last =>
    let nextFrameTime := last + a.interval
    (a.baseDelay nextFrameTime, nextFrameTime)

/-- When frames are due and when they are let go, from one reset of `lastFrameTime` to the next. -/
def release (lastFrameTime : Option ℤ) : List Arrival → List (ℤ × Option ℤ)
  | [] => []
  | a :: as =>
    let r := calculateFrameDisplayTime lastFrameTime a
    (r.2, (a.adjust r.1).map a.sleepUntil) :: release (some r.2) as

/-- When a frame is due that comes after some others. -/
def due (first : Arrival) (rest : List Arrival) (n : ℕ) : ℤ :=
  first.currentTime + ((rest.take n).map Arrival.interval).sum

theorem release_some (last : ℤ) (as : List Arrival) (n : ℕ) :
    (release (some last) as)[n]? = as[n]?.map fun a =>
      (last + ((as.take (n + 1)).map Arrival.interval).sum,
        (a.adjust (a.baseDelay (last + ((as.take (n + 1)).map Arrival.interval).sum))).map
          a.sleepUntil) := by
  induction as generalizing last n with
  | nil => rfl
  | cons a as ih =>
    cases n with
    | zero => simp [release, calculateFrameDisplayTime]
    | succ n =>
      rw [release, List.getElem?_cons_succ, ih, List.getElem?_cons_succ, List.take_succ_cons,
        List.map_cons, List.sum_cons, ← add_assoc]
      rfl

/-- Every frame is due a fixed time after the first, whenever it was ready. -/
theorem release_getElem? (first : Arrival) (rest : List Arrival) (n : ℕ) :
    (release none (first :: rest))[n]? = (first :: rest)[n]?.map fun a =>
      (due first rest n, (a.adjust (a.baseDelay (due first rest n))).map a.sleepUntil) := by
  cases n with
  | zero =>
    have hzero : first.baseDelay first.currentTime = 0 := by
      rw [Arrival.baseDelay, sub_self, Int.zero_tdiv, Int.cast_zero, zero_div]
    simp [release, calculateFrameDisplayTime, due, hzero]
  | succ n =>
    rw [release, List.getElem?_cons_succ, release_some, List.getElem?_cons_succ]
    rfl

/-- Truncation is off by less than one. -/
theorem abs_truncate_sub (q : ℚ) : |(truncate q : ℚ) - q| < 1 := by
  have hden : (0 : ℤ) < q.den := by exact_mod_cast q.den_pos
  have hden' : (0 : ℚ) < (q.den : ℚ) := by exact_mod_cast q.den_pos
  have hq : q * q.den = q.num := Rat.mul_den_eq_num q
  have hdiv : (truncate q : ℚ) * q.den = q.num - (Int.tmod q.num q.den : ℤ) := by
    have := Int.tdiv_mul_self q.num q.den
    rw [truncate]
    exact_mod_cast this
  have hmod : |((Int.tmod q.num q.den : ℤ) : ℚ)| < q.den := by
    rw [abs_lt]
    constructor
    · have := Int.lt_tmod_of_pos q.num hden
      exact_mod_cast this
    · have := Int.tmod_lt_of_pos q.num hden
      exact_mod_cast this
  have hmul : |(truncate q : ℚ) - q| * q.den < 1 * q.den := by
    rw [one_mul, ← abs_of_pos hden', ← abs_mul, abs_of_pos hden', sub_mul, hdiv, hq, sub_sub_cancel_left,
      abs_neg]
    exact hmod
  exact lt_of_mul_lt_mul_right hmul hden'.le

/-- What is not negative is cut down. -/
theorem truncate_le {q : ℚ} (hq : 0 ≤ q) : (truncate q : ℚ) ≤ q := by
  have hden : (0 : ℤ) < q.den := by exact_mod_cast q.den_pos
  have hden' : (0 : ℚ) < (q.den : ℚ) := by exact_mod_cast q.den_pos
  have hle := Int.mul_tdiv_self_le (k := q.den) (Rat.num_nonneg.mpr hq)
  have hle' : (q.den : ℚ) * truncate q ≤ q.num := by
    rw [truncate]
    exact_mod_cast hle
  rw [← Rat.mul_den_eq_num q, mul_comm] at hle'
  exact le_of_mul_le_mul_right hle' hden'

namespace Arrival

/-- A delay is slept for in whole milliseconds. -/
theorem sleepUntil_le (a : Arrival) {delay : ℚ} (hdelay : 0 ≤ delay) :
    a.currentTime ≤ a.sleepUntil delay ∧
      (a.sleepUntil delay : ℚ) ≤ a.currentTime + delay * millisecond := by
  have hms : (0 : ℚ) < (millisecond : ℚ) := by norm_num [millisecond]
  rw [sleepUntil]
  split_ifs with hgreater
  · have htrunc : 0 ≤ truncate delay := Int.tdiv_nonneg (Rat.num_nonneg.mpr hdelay) (by positivity)
    have hle := mul_le_mul_of_nonneg_right (truncate_le hdelay) hms.le
    constructor
    · have := Int.mul_nonneg htrunc (by decide : (0 : ℤ) ≤ millisecond)
      omega
    · push_cast
      linarith
  · exact ⟨le_rfl, by nlinarith⟩

/-- The delay until a time that has not come, up to a microsecond. -/
theorem baseDelay_bounds (a : Arrival) {next : ℤ} (hnext : a.currentTime ≤ next) :
    ∃ us : ℤ, a.baseDelay next = us / 1000 ∧ 0 ≤ us ∧ microsecond * us ≤ next - a.currentTime ∧
      next - a.currentTime < microsecond * us + microsecond :=
  ⟨_, rfl, Int.tdiv_nonneg (by omega) (by decide), Int.mul_tdiv_self_le (by omega),
    Int.lt_mul_tdiv_self_add (by decide)⟩

theorem baseDelay_nonpos (a : Arrival) {next : ℤ} (hnext : next ≤ a.currentTime) :
    a.baseDelay next ≤ 0 := by
  have hneg : Int.tdiv (next - a.currentTime) microsecond ≤ 0 := by
    have := Int.tdiv_nonneg (a := a.currentTime - next) (b := microsecond) (by omega) (by decide)
    rw [← neg_sub, Int.neg_tdiv]
    omega
  rw [baseDelay]
  have : ((Int.tdiv (next - a.currentTime) microsecond : ℤ) : ℚ) ≤ 0 := by exact_mod_cast hneg
  linarith

/-- A frame that is ready in time is let go in the millisecond before it is due, and one that is
late at once. -/
theorem sleepUntil_baseDelay (a : Arrival) (next : ℤ) :
    if a.currentTime ≤ next then
      next - millisecond < a.sleepUntil (a.baseDelay next) ∧ a.sleepUntil (a.baseDelay next) ≤ next
    else a.sleepUntil (a.baseDelay next) = a.currentTime := by
  split_ifs with hnext
  · rcases a.baseDelay_bounds hnext with ⟨us, hus, hnonneg, hle, hlt⟩
    simp only [microsecond] at hle hlt
    have hcast : (0 : ℚ) ≤ us := by exact_mod_cast hnonneg
    rw [hus, sleepUntil]
    split_ifs with hgreater
    · have hmillis : 1000 * truncate ((us : ℚ) / 1000) ≤ us := by
        have h := truncate_le (by positivity : (0 : ℚ) ≤ (us : ℚ) / 1000)
        have h' : (1000 : ℚ) * truncate ((us : ℚ) / 1000) ≤ us := by linarith
        exact_mod_cast h'
      have hnear : us < 1000 * truncate ((us : ℚ) / 1000) + 1000 := by
        have h := (abs_lt.mp (abs_truncate_sub ((us : ℚ) / 1000))).1
        have h' : (us : ℚ) < 1000 * truncate ((us : ℚ) / 1000) + 1000 := by linarith
        exact_mod_cast h'
      simp only [millisecond]
      omega
    · -- nothing to sleep for: less than a microsecond is left
      have hzero : us < 1 := by
        simp only [greater, sub_zero, Bool.and_eq_true, decide_eq_true_eq, not_and, not_lt] at hgreater
        by_contra hone
        have hone' : (1 : ℚ) ≤ us := by exact_mod_cast not_lt.mp hone
        have := hgreater (by positivity)
        simp only [epsilon] at this
        linarith
      simp only [millisecond]
      omega
  · have hdelay := a.baseDelay_nonpos (not_le.mp hnext).le
    rw [sleepUntil, if_neg]
    simp only [greater, Bool.and_eq_true, decide_eq_true_eq, not_and]
    intro hpos
    linarith

/-- The time to the next frame without rounding, in nanoseconds. -/
def exactInterval (a : Arrival) : ℚ := a.duration / a.currentSpeed * 1000000000

theorem abs_interval_sub (a : Arrival) : |(a.interval : ℚ) - a.exactInterval| ≤ microsecond := by
  have h := (abs_truncate_sub (a.duration * 1000 / a.currentSpeed * 1000)).le
  have heq : (a.interval : ℚ) - a.exactInterval =
      ((truncate (a.duration * 1000 / a.currentSpeed * 1000) : ℚ) -
        a.duration * 1000 / a.currentSpeed * 1000) * 1000 := by
    rw [interval, exactInterval, microsecond]
    push_cast
    ring
  rw [heq, abs_mul, abs_of_pos (by norm_num : (0 : ℚ) < 1000), microsecond]
  push_cast
  linarith

end Arrival

/-- The intervals of some frames add up to their durations, up to a microsecond each. -/
theorem abs_sum_interval_sub (as : List Arrival) :
    |(((as.map Arrival.interval).sum : ℤ) : ℚ) - (as.map Arrival.exactInterval).sum| ≤
      as.length * microsecond := by
  induction as with
  | nil => simp
  | cons a as ih =>
    rw [List.map_cons, List.sum_cons, List.map_cons, List.sum_cons, List.length_cons, Int.cast_add,
      Nat.cast_succ]
    calc |((a.interval : ℚ) + ((as.map Arrival.interval).sum : ℤ)) -
          (a.exactInterval + (as.map Arrival.exactInterval).sum)|
        = |((a.interval : ℚ) - a.exactInterval) +
            ((((as.map Arrival.interval).sum : ℤ) : ℚ) - (as.map Arrival.exactInterval).sum)| := by
          congr 1
          ring
      _ ≤ |(a.interval : ℚ) - a.exactInterval| +
            |(((as.map Arrival.interval).sum : ℤ) : ℚ) - (as.map Arrival.exactInterval).sum| :=
          abs_add_le _ _
      _ ≤ microsecond + as.length * microsecond := add_le_add a.abs_interval_sub ih
      _ = (as.length + 1) * microsecond := by ring

theorem due_sub (first : Arrival) (rest : List Arrival) {m n : ℕ} (hmn : m ≤ n) :
    due first rest n - due first rest m =
      (((rest.take n).drop m).map Arrival.interval).sum := by
  have hsplit : rest.take n = rest.take m ++ (rest.take n).drop m := by
    have h := List.take_append_drop m (rest.take n)
    rwa [List.take_take, min_eq_left hmn, eq_comm] at h
  rw [due, due, hsplit, List.map_append, List.sum_append, ← hsplit]
  ring

/-- An audio frame, whose delay is taken as it is. -/
def audioFrame (currentTime : ℤ) (duration speed : ℚ) : Arrival := ⟨currentTime, duration, speed, some⟩

/-- A frame that nothing is done to but to hold it back, as an audio frame is. -/
def Plain (a : Arrival) : Prop := a.adjust = some

/-- From one reset to the next every frame is let go in the millisecond before its time, or at once
when it comes too late; and however the decoding jitters, the time between two frames that are in
time is that of the frames in between at their speeds, up to a millisecond and a microsecond for
each of them. -/
theorem frames_keep_time (first : Arrival) (rest : List Arrival)
    (hplain : ∀ a ∈ first :: rest, Plain a) :
    (∀ n a, (first :: rest)[n]? = some a → ∃ r,
      (release none (first :: rest))[n]? = some (due first rest n, some r) ∧
      if a.currentTime ≤ due first rest n then
        due first rest n - millisecond < r ∧ r ≤ due first rest n
      else r = a.currentTime) ∧
    ∀ m n a b r r', m ≤ n → (first :: rest)[m]? = some a → (first :: rest)[n]? = some b →
      a.currentTime ≤ due first rest m → b.currentTime ≤ due first rest n →
      (release none (first :: rest))[m]? = some (due first rest m, some r) →
      (release none (first :: rest))[n]? = some (due first rest n, some r') →
      |((r' - r : ℤ) : ℚ) - (((rest.take n).drop m).map Arrival.exactInterval).sum| <
        millisecond + (n - m : ℕ) * microsecond := by
  have hheld : ∀ n a, (first :: rest)[n]? = some a → ∃ r,
      (release none (first :: rest))[n]? = some (due first rest n, some r) ∧
      if a.currentTime ≤ due first rest n then
        due first rest n - millisecond < r ∧ r ≤ due first rest n
      else r = a.currentTime := by
    intro n a ha
    refine ⟨a.sleepUntil (a.baseDelay (due first rest n)), ?_, a.sleepUntil_baseDelay _⟩
    have hadjust : a.adjust = some := hplain a (List.mem_of_getElem? ha)
    rw [release_getElem?, ha, Option.map_some, hadjust, Option.map_some]
  refine ⟨hheld, ?_⟩
  intro m n a b r r' hmn ha hb hatime hbtime hr hr'
  rcases hheld m a ha with ⟨ra, hra, hain⟩
  rcases hheld n b hb with ⟨rb, hrb, hbin⟩
  rw [hra, Option.some.injEq, Prod.mk.injEq, Option.some.injEq] at hr
  rw [hrb, Option.some.injEq, Prod.mk.injEq, Option.some.injEq] at hr'
  rw [← hr.2, ← hr'.2]
  rw [if_pos hatime] at hain
  rw [if_pos hbtime] at hbin
  have hdue := due_sub first rest hmn
  have hsum := abs_sum_interval_sub ((rest.take n).drop m)
  have hlen : (((rest.take n).drop m).length : ℚ) ≤ (n - m : ℕ) := by
    rw [List.length_drop, List.length_take]
    exact_mod_cast Nat.sub_le_sub_right (min_le_left _ _) m
  have hmicro : (0 : ℚ) ≤ (microsecond : ℚ) := by norm_num [microsecond]
  have hlength := mul_le_mul_of_nonneg_right hlen hmicro
  rw [← hdue] at hsum
  have hnear : |((rb - ra : ℤ) : ℚ) - ((due first rest n - due first rest m : ℤ) : ℚ)| <
      (millisecond : ℚ) := by
    have : |rb - ra - (due first rest n - due first rest m)| < millisecond := by
      rw [abs_lt]
      constructor <;> omega
    exact_mod_cast this
  calc |((rb - ra : ℤ) : ℚ) - (((rest.take n).drop m).map Arrival.exactInterval).sum|
      ≤ |((rb - ra : ℤ) : ℚ) - ((due first rest n - due first rest m : ℤ) : ℚ)| +
          |((due first rest n - due first rest m : ℤ) : ℚ) -
            (((rest.take n).drop m).map Arrival.exactInterval).sum| := abs_sub_le _ _ _
    _ < millisecond + (n - m : ℕ) * microsecond := by linarith

/-- Three audio frames of 40 ms, the second decoded late. -/
def threeFrames : List Arrival :=
  [audioFrame 50000000 (1 / 25) 1, audioFrame 60000000 (1 / 25) 1]

theorem threeFrames_keep_time :
    ∃ r, (release none (audioFrame 0 (1 / 25) 1 :: threeFrames))[2]? =
      some (due (audioFrame 0 (1 / 25) 1) threeFrames 2, some r) ∧
      if (audioFrame 60000000 (1 / 25) 1).currentTime ≤ due (audioFrame 0 (1 / 25) 1) threeFrames 2 then
        due (audioFrame 0 (1 / 25) 1) threeFrames 2 - millisecond < r ∧
          r ≤ due (audioFrame 0 (1 / 25) 1) threeFrames 2
      else r = (audioFrame 60000000 (1 / 25) 1).currentTime :=
  (frames_keep_time (audioFrame 0 (1 / 25) 1) threeFrames
    (by simp [threeFrames, Plain, audioFrame])).1 2 (audioFrame 60000000 (1 / 25) 1) rfl

example : release none (audioFrame 0 (1 / 25) 1 :: threeFrames) =
    [(0, some 0), (40000000, some 50000000), (80000000, some 80000000)] := by decide +kernel

/-- A decoded picture with the synchronisation as it is when the picture is paced. -/
structure VideoFrame where
  sync : Sync.StreamSyncManager
  now : ℚ
  pts : ℚ
  currentTime : ℤ
  duration : ℚ
  speed : ℚ

/-- A negative delay drops the frame. -/
def VideoFrame.arrival (f : VideoFrame) : Arrival where
  currentTime := f.currentTime
  duration := f.duration
  speed := f.speed
  adjust baseDelay :=
    let syncDelay := (f.sync.computeVideoDelay f.pts f.duration baseDelay f.speed f.now).1
    if syncDelay < 0 then none else some syncDelay

/-- The most that the synchronisation adds to a delay, in milliseconds. -/
def maxCorrection : ℚ := 200

theorem VideoFrame.adjust_le (f : VideoFrame) (hspeed : 0 < f.speed) {baseDelay delay : ℚ}
    (h : f.arrival.adjust baseDelay = some delay) :
    0 ≤ delay ∧ delay ≤ max 0 baseDelay + maxCorrection := by
  simp only [arrival, Option.ite_none_left_eq_some, Option.some.injEq, not_lt] at h
  rcases h with ⟨hnonneg, heq⟩
  refine ⟨heq ▸ hnonneg, ?_⟩
  rw [Sync.StreamSyncManager.computeVideoDelay_fst f.sync f.pts f.duration baseDelay f.speed f.now rfl]
    at heq hnonneg
  split_ifs at heq hnonneg
  · norm_num at hnonneg
  · rw [← heq, Sync.StreamSyncManager.delayAt_withDrift]
    generalize hd : Sync.smoothEMA f.sync.alpha f.sync.smoothedVideoDrift
      (f.pts - f.sync.getMasterClock f.now) f.speed (1 / 10) = d
    have hbound : |d| ≤ Sync.driftBound f.speed := by
      rw [← hd]
      exact Sync.abs_smoothEMA_le hspeed _ _
    have hmax : baseDelay ≤ max 0 baseDelay := le_max_right _ _
    have hzero : 0 ≤ max 0 baseDelay := le_max_left _ _
    have hpos : (0 : ℚ) < maxCorrection := by norm_num [maxCorrection]
    apply max_le (by linarith)
    split_ifs with hexceeds hahead
    · have hd' : d ≤ 2 / 10 * f.speed := by
        have hmin : Sync.driftBound f.speed ≤ 2 / 10 * f.speed :=
          mul_le_mul_of_nonneg_left (min_le_left _ _) (by norm_num)
        exact (le_abs_self d).trans (hbound.trans hmin)
      have hquot : d * 1000 / f.speed ≤ maxCorrection := by
        rw [div_le_iff₀ hspeed, maxCorrection]
        linarith
      linarith
    · have hfactor : 0 ≤ min 1 (1 / 2 * f.speed) := le_min zero_le_one (by positivity)
      have hneg := mul_nonpos_of_nonpos_of_nonneg (by linarith : d * 1000 ≤ 0) hfactor
      apply max_le (by linarith)
      linarith
    · linarith

/-- The delay until a time is at most what is left of it. -/
theorem Arrival.baseDelay_le (a : Arrival) (next : ℤ) :
    max 0 (a.baseDelay next) * millisecond ≤ (max a.currentTime next - a.currentTime : ℤ) := by
  rcases le_total a.currentTime next with hnext | hnext
  · rcases a.baseDelay_bounds hnext with ⟨us, hus, hnonneg, hle, -⟩
    have hcast : (microsecond : ℚ) * us ≤ (next - a.currentTime : ℤ) := by exact_mod_cast hle
    have hus' : (0 : ℚ) ≤ us := by exact_mod_cast hnonneg
    rw [max_eq_right hnext, hus, max_eq_right (by positivity)]
    simp only [microsecond, millisecond] at hcast ⊢
    push_cast at hcast ⊢
    linarith
  · rw [max_eq_left hnext, max_eq_left (a.baseDelay_nonpos hnext), sub_self, Int.cast_zero, zero_mul]

/-- From one reset to the next the times of the pictures are set by the first picture and their
intervals, whatever is dropped and however the synchronisation corrects; and a picture that is
kept is let go at most a fifth of a second after its time, or after it was ready. -/
theorem pictures_keep_up (first : VideoFrame) (rest : List VideoFrame)
    (hspeed : ∀ f ∈ first :: rest, 0 < f.speed) (n : ℕ) (f : VideoFrame)
    (hf : (first :: rest)[n]? = some f) :
    ∃ released, (release none (first.arrival :: rest.map VideoFrame.arrival))[n]? =
        some (due first.arrival (rest.map VideoFrame.arrival) n, released) ∧
      ∀ r ∈ released, f.currentTime ≤ r ∧
        (r : ℚ) ≤ (max f.currentTime (due first.arrival (rest.map VideoFrame.arrival) n) : ℤ) +
          maxCorrection * millisecond := by
  have ha : (first.arrival :: rest.map VideoFrame.arrival)[n]? = some f.arrival := by
    rw [← List.map_cons, List.getElem?_map, hf, Option.map_some]
  refine ⟨_, by rw [release_getElem?, ha, Option.map_some], ?_⟩
  intro r hr
  rw [Option.mem_def, Option.map_eq_some_iff] at hr
  rcases hr with ⟨delay, hdelay, rfl⟩
  rcases f.adjust_le (hspeed f (List.mem_of_getElem? hf)) hdelay with ⟨hnonneg, hle⟩
  rcases f.arrival.sleepUntil_le hnonneg with ⟨hcur, hsleep⟩
  refine ⟨hcur, hsleep.trans ?_⟩
  have hbase := f.arrival.baseDelay_le (due first.arrival (rest.map VideoFrame.arrival) n)
  have hms : (0 : ℚ) ≤ (millisecond : ℚ) := by norm_num [millisecond]
  have hmul := mul_le_mul_of_nonneg_right hle hms
  have hcast : ((max f.currentTime (due first.arrival (rest.map VideoFrame.arrival) n) -
      f.currentTime : ℤ) : ℚ) = (max f.currentTime
        (due first.arrival (rest.map VideoFrame.arrival) n) : ℤ) - f.currentTime := Int.cast_sub _ _
  rw [show f.arrival.currentTime = f.currentTime from rfl] at hbase ⊢
  rw [hcast] at hbase
  linarith

/-- A picture of a player that has been set up. -/
def onePicture : VideoFrame := ⟨.new .audio (10 / 1000) (1 / 10) 0, 0, 1, 0, 1 / 25, 1⟩

theorem onePicture_keeps_up :
    ∃ released, (release none (onePicture.arrival :: [onePicture].map VideoFrame.arrival))[1]? =
        some (due onePicture.arrival ([onePicture].map VideoFrame.arrival) 1, released) ∧
      ∀ r ∈ released, onePicture.currentTime ≤ r ∧
        (r : ℚ) ≤ (max onePicture.currentTime
          (due onePicture.arrival ([onePicture].map VideoFrame.arrival) 1) : ℤ) +
          maxCorrection * millisecond :=
  pictures_keep_up onePicture [onePicture] (by simp [onePicture]) 1 onePicture rfl

end DecoderSDK.Pacing
