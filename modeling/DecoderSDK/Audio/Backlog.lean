import DecoderSDK.Audio.Resampler
import DecoderSDK.Draining.Buffers

/-! # The backlog of the resampler

`resampleFrame` asks the resampler for as many samples as its delay and the
frame are worth at the output rate, but for no more than four times the
samples of the frame. The resampler conserves samples and emits what is asked
for as far as it can. Doubles are exact here, as for the output rate.
-/
namespace DecoderSDK.Audio
open Draining

/-- `swr_get_delay`, which rounds to a whole number. -/
structure Swresample where
  getDelay : ℚ → ℤ
  getDelay_near : ∀ delay, |(getDelay delay : ℚ) - delay| ≤ 1

/-- The delay to the nearest whole number. -/
def Swresample.rounding : Swresample where
  getDelay := round
  getDelay_near delay := by
    rw [abs_sub_comm]
    exact (abs_sub_round delay).trans (by norm_num)

/-- A resampling context at work; its backlog counts samples of the input. -/
@[ext] structure Swr where
  inSampleRate : ℕ
  outSampleRate : ℕ
  backlog : ℚ
  nonneg : 0 ≤ backlog

namespace Swr

/-- What one output sample takes of the input. -/
def unit (c : Swr) : ℚ := c.inSampleRate / c.outSampleRate

def available (c : Swr) (nbSamples : ℕ) : ℤ := ⌊(c.backlog + nbSamples) / c.unit⌋

theorem convert_nonneg (c : Swr) (outCount : ℤ) (nbSamples : ℕ) :
    0 ≤ c.backlog + nbSamples - (min outCount (c.available nbSamples) : ℤ) * c.unit := by
  have hinput : 0 ≤ c.backlog + nbSamples := add_nonneg c.nonneg (Nat.cast_nonneg nbSamples)
  have hunit : 0 ≤ c.unit := div_nonneg (Nat.cast_nonneg _) (Nat.cast_nonneg _)
  rcases hunit.eq_or_lt with hzero | hpos
  · rw [← hzero]
    simpa using hinput
  · exact rest_nonneg hpos (min_le_right _ _)

/-- `swr_convert` gives a number of samples and keeps the rest. -/
def convert (c : Swr) (outCount : ℤ) (nbSamples : ℕ) : ℤ × Swr :=
  (min outCount (c.available nbSamples),
    { c with
      backlog := c.backlog + nbSamples - (min outCount (c.available nbSamples) : ℤ) * c.unit
      nonneg := c.convert_nonneg outCount nbSamples })

end Swr

/-- An allocated audio frame. An absent stamp is `AV_NOPTS_VALUE`; the number of channels goes
with the layout. -/
structure AudioFrame where
  nbSamples : ℕ
  sampleRate : ℕ
  channelLayout : ℕ
  channels : ℕ
  format : ℕ
  hasData : Bool
  avPts : Option ℤ
  pktDts : Option ℤ
  timeBase : ℚ
  durationByFps : ℚ

namespace AudioFrame

def blank : AudioFrame := ⟨0, 0, 0, 0, 0, false, none, none, 0, 0⟩

/-- `av_frame_unref`; the duration is not part of the `AVFrame`. -/
def unref (f : AudioFrame) : AudioFrame := { blank with durationByFps := f.durationByFps }

/-- Format, layout and rate of the output for a frame. -/
def configure (f frame : AudioFrame) (outputSampleRate : ℕ) : AudioFrame :=
  { f with
    format := frame.format
    channelLayout := frame.channelLayout
    channels := frame.channels
    sampleRate := outputSampleRate }

end AudioFrame

/-- The part of the audio decoder that resamples; `speed` counts thousandths. -/
structure Resampling where
  speed : ℕ
  needResample : Bool
  swrCtx : Option Swr
  resampleFrame : Option AudioFrame

namespace Resampling

def needReconfig (s : Resampling) (frame : AudioFrame) (outputSampleRate : ℕ) : Bool :=
  match s.resampleFrame with
  | none => true
  | some f => decide (f.sampleRate ≠ outputSampleRate) || decide (f.channels ≠ frame.channels) ||
      decide (f.format ≠ frame.format)

/-- The kept frame, with other parameters where they do not fit. -/
def configured (s : Resampling) (frame : AudioFrame) (outputSampleRate : ℕ) : AudioFrame :=
  let f := s.resampleFrame.getD .blank
  if s.needReconfig frame outputSampleRate then f.configure frame outputSampleRate else f

/-- Four times the samples of the frame; the product is an `int`. -/
def maxSamples (frame : AudioFrame) : ℤ := ((frame.nbSamples : ℤ) * 4).bmod (2 ^ 32)

/-- The delay in samples of the given rate, as the decoder uses it. -/
def delay (swr : Swresample) (c : Swr) (sampleRate : ℕ) : ℤ :=
  let delay := swr.getDelay (c.backlog * sampleRate / c.inSampleRate)
  if delay < 0 then 0 else delay

/-- The number of samples that the resampler is asked for. -/
def outSamples (swr : Swresample) (c : Swr) (frame : AudioFrame) (outputSampleRate : ℕ) : ℤ :=
  let outSamples := ⌈((delay swr c frame.sampleRate + frame.nbSamples : ℤ) : ℚ) *
    outputSampleRate / frame.sampleRate⌉
  if outSamples > maxSamples frame then maxSamples frame else outSamples

def needRealloc (f : AudioFrame) (needReconfig : Bool) (outSamples : ℤ) : Bool :=
  needReconfig || decide (f.nbSamples < outSamples) || !f.hasData

/-- The frame that is returned and kept. -/
def finish (f frame : AudioFrame) (nbSamples : ℤ) (outputSampleRate : ℕ) : AudioFrame :=
  { f with
    nbSamples := nbSamples.toNat
    avPts := frame.avPts
    pktDts := frame.pktDts
    timeBase := frame.timeBase
    durationByFps := if frame.durationByFps > 0 then
        frame.durationByFps * outputSampleRate / frame.sampleRate
      else f.durationByFps }

/-- The error code, the frame and what follows. `getBuffer` is the answer of
`av_frame_get_buffer`; -22 is `AVERROR(EINVAL)`. -/
def resample (swr : Swresample) (s : Resampling) (frame : Option AudioFrame) (getBuffer : ℤ) :
    ℤ × Option AudioFrame × Resampling :=
  match s.needResample, s.swrCtx, frame with
  | true, some c, some frame =>
    let outputSampleRate := frame.sampleRate * s.speed / 1000
    let needReconfig := s.needReconfig frame outputSampleRate
    let f := s.configured frame outputSampleRate
    let outSamples := outSamples swr c frame outputSampleRate
    if outSamples ≤ 0 then (-22, none, { s with resampleFrame := some f })
    else
      let needRealloc := needRealloc f needReconfig outSamples
      let f := if needRealloc then
          { f.unref.configure frame outputSampleRate with
            nbSamples := outSamples.toNat
            hasData := decide (0 ≤ getBuffer) }
        else f
      if needRealloc = true ∧ getBuffer < 0 then
        (getBuffer, none, { s with resampleFrame := some f })
      else
        let converted := c.convert outSamples frame.nbSamples
        let f := finish f frame converted.1 outputSampleRate
        (if needRealloc then getBuffer else 0, some f,
          { s with swrCtx := some converted.2, resampleFrame := some f })
  | _, _, _ => (0, frame, s)

/-- The resampler of a decoder, with a backlog and a kept frame from before. -/
def begin (s : AudioDecoder) (backlog : ℚ) (h : 0 ≤ backlog) (resampleFrame : Option AudioFrame) :
    Resampling where
  speed := s.speed
  needResample := s.needResample
  swrCtx := s.swrCtx.map fun c => ⟨c.codec.sampleRate, c.outSampleRate, backlog, h⟩
  resampleFrame := resampleFrame

def backlog (s : Resampling) : ℚ := s.swrCtx.elim 0 Swr.backlog

/-- A frame is fed to the resampler, with the answer of `av_frame_get_buffer`. -/
def feed (swr : Swresample) (s : Resampling) (fed : AudioFrame × ℤ) : Resampling :=
  (s.resample swr (some fed.1) fed.2).2.2

/-- A frame of the codec with at least one sample and at most `N`, as far as an `int` goes. -/
structure Feeds (codec : Codec) (N : ℕ) (fed : AudioFrame × ℤ) : Prop where
  sampleRate : fed.1.sampleRate = codec.sampleRate
  pos : 1 ≤ fed.1.nbSamples
  le : fed.1.nbSamples ≤ N
  lt : fed.1.nbSamples < 2 ^ 31

/-- The backlog of the decoder's resampler stays below a bound that depends on the backlog at
the beginning, whatever is fed. -/
def BacklogBounded (swr : Swresample) (s : AudioDecoder) (codec : Codec) (N : ℕ)
    (bound : ℚ → ℚ) : Prop :=
  ∀ b hb resampleFrame, ∀ frames : List (AudioFrame × ℤ), (∀ fed ∈ frames, Feeds codec N fed) →
    (frames.foldl (feed swr) (begin s b hb resampleFrame)).backlog ≤ bound b

/-- The condition: the output has at most four times the rate of the input, and no frame has so
many samples that four times as many wrap around to a few. -/
def Sustained (codec : Codec) (speed N : ℕ) : Prop :=
  N = 0 ∨ outSampleRate codec speed = 0 ∨
    outSampleRate codec speed ≤ 4 * codec.sampleRate ∧ N ≤ 2 ^ 30

/-- The resampler is the one for the codec and the speed. -/
structure SetUp (codec : Codec) (speed : ℕ) (c : Swr) (s : Resampling) : Prop where
  speed_eq : s.speed = speed
  needResample : s.needResample = true
  swrCtx : s.swrCtx = some c
  inRate : c.inSampleRate = codec.sampleRate
  outRate : c.outSampleRate = outSampleRate codec speed

/-- What is asked for a frame of the codec. -/
def demand (swr : Swresample) (c : Swr) (frame : AudioFrame) : ℤ :=
  outSamples swr c frame c.outSampleRate

/-- The cap is four times the samples, or there is none to speak of. -/
theorem maxSamples_cases {frame : AudioFrame} (h : frame.nbSamples ≤ 2 ^ 30) :
    maxSamples frame = 4 * frame.nbSamples ∨ maxSamples frame ≤ 0 := by
  unfold maxSamples
  rw [Int.bmod_def]
  split <;> omega

theorem pos_of_outSampleRate {codec : Codec} {speed : ℕ} (h : 0 < outSampleRate codec speed) :
    0 < codec.sampleRate ∧ 0 < speed := by
  unfold outSampleRate at h
  constructor
  · by_contra hzero
    simp [Nat.eq_zero_of_not_pos hzero] at h
  · by_contra hzero
    simp [Nat.eq_zero_of_not_pos hzero] at h

/-- For real sample rates the output has at most four times the rate up to the speed 4. -/
theorem outSampleRate_le_iff {codec : Codec} (h : 1000 ≤ codec.sampleRate) (speed : ℕ) :
    outSampleRate codec speed ≤ 4 * codec.sampleRate ↔ speed ≤ 4000 := by
  unfold outSampleRate
  rw [Nat.div_le_iff_le_mul_add_pred (by norm_num)]
  constructor
  · intro hle
    by_contra hgt
    have := Nat.mul_le_mul_left codec.sampleRate (not_le.mp hgt)
    omega
  · intro hle
    have := Nat.mul_le_mul_left codec.sampleRate hle
    omega

/-- Even at the lowest speeds an output sample takes fewer than 2000 samples of the input. -/
theorem sampleRate_lt {codec : Codec} {speed : ℕ} (h : 0 < outSampleRate codec speed) :
    codec.sampleRate < 2000 * outSampleRate codec speed := by
  have hspeed := (pos_of_outSampleRate h).2
  have hlt : codec.sampleRate * speed < (outSampleRate codec speed + 1) * 1000 := by
    have := Nat.div_add_mod (codec.sampleRate * speed) 1000
    have := Nat.mod_lt (codec.sampleRate * speed) (by omega : 1000 > 0)
    unfold outSampleRate
    omega
  have hle : codec.sampleRate * 1 ≤ codec.sampleRate * speed :=
    Nat.mul_le_mul_left _ hspeed
  omega

section SetUp
variable {codec : Codec} {speed : ℕ} {c : Swr} {s : Resampling}

theorem SetUp.backlog (h : SetUp codec speed c s) : s.backlog = c.backlog := by
  rw [Resampling.backlog, h.swrCtx, Option.elim_some]

/-- The frame gets to the resampler when there is something to ask for and a buffer for it. -/
theorem SetUp.feed_cases (h : SetUp codec speed c s) (swr : Swresample) (fed : AudioFrame × ℤ)
    (hrate : fed.1.sampleRate = codec.sampleRate) :
    (demand swr c fed.1 ≤ 0 ∨ fed.2 < 0) ∧ SetUp codec speed c (feed swr s fed) ∨
      0 < demand swr c fed.1 ∧
        SetUp codec speed (c.convert (demand swr c fed.1) fed.1.nbSamples).2 (feed swr s fed) := by
  have hout : fed.1.sampleRate * s.speed / 1000 = c.outSampleRate := by
    rw [hrate, h.speed_eq, h.outRate, Audio.outSampleRate]
  have hdemand : outSamples swr c fed.1 c.outSampleRate = demand swr c fed.1 := rfl
  unfold feed resample
  simp only [h.needResample, h.swrCtx, hout, hdemand]
  by_cases hnone : demand swr c fed.1 ≤ 0
  · refine .inl ⟨.inl hnone, ?_⟩
    rw [if_pos hnone]
    exact ⟨h.speed_eq, rfl, rfl, h.inRate, h.outRate⟩
  · rw [if_neg hnone]
    split
    · rename_i hbuffer
      exact .inl ⟨.inr hbuffer.2, h.speed_eq, rfl, rfl, h.inRate, h.outRate⟩
    · exact .inr ⟨not_le.mp hnone, h.speed_eq, rfl, rfl, h.inRate, h.outRate⟩

/-- The demand suffices for the delay and the frame, or the cap limits it. -/
theorem outSamples_eq (swr : Swresample) (c : Swr) (frame : AudioFrame) (outputSampleRate : ℕ) :
    outSamples swr c frame outputSampleRate =
      min ⌈((delay swr c frame.sampleRate + frame.nbSamples : ℤ) : ℚ) * outputSampleRate /
        frame.sampleRate⌉ (maxSamples frame) := by
  dsimp only [outSamples]
  split_ifs with hcap
  · rw [min_eq_right hcap.le]
  · rw [min_eq_left (not_lt.mp hcap)]

theorem delay_nonneg (swr : Swresample) (c : Swr) (sampleRate : ℕ) :
    0 ≤ delay swr c sampleRate := by
  dsimp only [delay]
  split_ifs with hneg
  · exact le_rfl
  · exact not_lt.mp hneg

theorem backlog_le_delay (swr : Swresample) (hpos : 0 < c.inSampleRate) :
    c.backlog - 1 ≤ delay swr c c.inSampleRate := by
  have hcast : (c.inSampleRate : ℚ) ≠ 0 := by exact_mod_cast hpos.ne'
  have hnear := (abs_le.mp (swr.getDelay_near c.backlog)).1
  dsimp only [delay]
  rw [mul_div_cancel_right₀ _ hcast]
  split_ifs with hneg
  · have : (swr.getDelay c.backlog : ℚ) < 0 := by exact_mod_cast hneg
    push_cast
    linarith
  · linarith

/-- What a fed frame leaves in the resampler. -/
theorem SetUp.convert_backlog (h : SetUp codec speed c s) (swr : Swresample) {frame : AudioFrame}
    (hrate : frame.sampleRate = codec.sampleRate) :
    (c.convert (demand swr c frame) frame.nbSamples).2.backlog =
      c.backlog + frame.nbSamples - drain c.unit (c.backlog + frame.nbSamples)
        ((delay swr c c.inSampleRate + frame.nbSamples : ℤ) : ℚ) (maxSamples frame) * c.unit := by
  have hrate' : frame.sampleRate = c.inSampleRate := by rw [hrate, h.inRate]
  have hunit (y : ℚ) : y * c.outSampleRate / c.inSampleRate = y / c.unit := by
    rw [Swr.unit, div_div_eq_mul_div]
  have hdemand : demand swr c frame = min
      ⌈((delay swr c c.inSampleRate + frame.nbSamples : ℤ) : ℚ) / c.unit⌉ (maxSamples frame) := by
    rw [demand, outSamples_eq, hrate', hunit]
  rw [hdemand]
  rfl

theorem SetUp.unit_pos (h : SetUp codec speed c s) (hout : 0 < outSampleRate codec speed) :
    0 < c.unit := by
  unfold Swr.unit
  rw [h.inRate, h.outRate]
  exact div_pos (by exact_mod_cast (pos_of_outSampleRate hout).1) (by exact_mod_cast hout)

theorem SetUp.unit_le (h : SetUp codec speed c s) (hout : 0 < outSampleRate codec speed) :
    c.unit ≤ 2000 := by
  unfold Swr.unit
  rw [h.inRate, h.outRate, div_le_iff₀ (by exact_mod_cast hout)]
  exact_mod_cast (sampleRate_lt hout).le

/-- Without an output rate nothing is asked for. -/
theorem SetUp.out_pos_of_demand (h : SetUp codec speed c s) {swr : Swresample}
    {frame : AudioFrame} (hdemand : 0 < demand swr c frame) : 0 < outSampleRate codec speed := by
  by_contra hzero
  rw [not_lt, Nat.le_zero, ← h.outRate] at hzero
  rw [demand, outSamples_eq, hzero] at hdemand
  simp at hdemand

theorem demand_le (swr : Swresample) (c : Swr) (frame : AudioFrame) :
    demand swr c frame ≤ maxSamples frame := by
  rw [demand, outSamples_eq]
  exact min_le_right _ _

/-- One frame raises the backlog only up to the constant. -/
theorem SetUp.feed_le (h : SetUp codec speed c s) (swr : Swresample) {N : ℕ}
    (hsustained : Sustained codec speed N) {fed : AudioFrame × ℤ} (hfed : Feeds codec N fed) :
    (∃ c', SetUp codec speed c' (feed swr s fed)) ∧
      (feed swr s fed).backlog ≤ max s.backlog 2000 := by
  rcases h.feed_cases swr fed hfed.sampleRate with ⟨-, hsame⟩ | ⟨hdemand, hnext⟩
  · refine ⟨⟨c, hsame⟩, ?_⟩
    rw [hsame.backlog, h.backlog]
    exact le_max_left _ _
  · refine ⟨⟨_, hnext⟩, ?_⟩
    have hout := h.out_pos_of_demand hdemand
    have hcap : maxSamples fed.1 = 4 * fed.1.nbSamples ∧
        outSampleRate codec speed ≤ 4 * codec.sampleRate := by
      rcases hsustained with hzero | hzero | ⟨hratio, hN⟩
      · have := hfed.pos
        have := hfed.le
        omega
      · omega
      · rcases maxSamples_cases (hfed.le.trans hN) with hcap | hcap
        · exact ⟨hcap, hratio⟩
        · have := demand_le swr c fed.1
          omega
    have hunit := h.unit_pos hout
    have hquarter : 1 ≤ 4 * c.unit := by
      unfold Swr.unit
      rw [h.inRate, h.outRate, ← mul_div_assoc, one_le_div (by exact_mod_cast hout)]
      exact_mod_cast hcap.2
    have hrest := rest_drain_le hunit (c.backlog + fed.1.nbSamples)
      ((delay swr c c.inSampleRate + fed.1.nbSamples : ℤ) : ℚ) (maxSamples fed.1)
    rw [hnext.backlog, h.backlog, h.convert_backlog swr hfed.sampleRate]
    apply hrest.trans
    apply max_le
    · apply max_le
      · have hinput : 0 < c.inSampleRate := by
          rw [h.inRate]
          exact (pos_of_outSampleRate hout).1
        have hdelay := backlog_le_delay swr hinput
        apply le_max_of_le_right
        push_cast
        linarith
      · have hfour : (maxSamples fed.1 : ℚ) = 4 * fed.1.nbSamples := by exact_mod_cast hcap.1
        have hsamples : (0 : ℚ) ≤ fed.1.nbSamples := Nat.cast_nonneg _
        have htaken := mul_le_mul_of_nonneg_left hquarter hsamples
        apply le_max_of_le_left
        rw [hfour]
        linarith
    · exact le_max_of_le_right (h.unit_le hout)

/-- A frame whose cap is too low for its samples raises the backlog. -/
theorem SetUp.le_feed (h : SetUp codec speed c s) (swr : Swresample)
    (hout : 0 < outSampleRate codec speed) {frame : AudioFrame}
    (hrate : frame.sampleRate = codec.sampleRate) (hpos : 1 ≤ frame.nbSamples)
    (hcap : maxSamples frame = 4) :
    (∃ c', SetUp codec speed c' (feed swr s (frame, 0))) ∧
      s.backlog + (frame.nbSamples - 4 * (codec.sampleRate / outSampleRate codec speed)) ≤
        (feed swr s (frame, 0)).backlog := by
  have hunit := h.unit_pos hout
  have hdemand : 0 < demand swr c frame := by
    rw [demand, outSamples_eq, hrate, h.outRate]
    apply lt_min
    · have hsum : 0 < delay swr c codec.sampleRate + frame.nbSamples := by
        have := delay_nonneg swr c codec.sampleRate
        omega
      have hinput := (pos_of_outSampleRate hout).1
      apply Int.ceil_pos.mpr
      apply div_pos
      · exact mul_pos (by exact_mod_cast hsum) (by exact_mod_cast hout)
      · exact_mod_cast hinput
    · omega
  rcases h.feed_cases swr (frame, 0) hrate with ⟨hnone, -⟩ | ⟨-, hnext⟩
  · simp only at hnone
    omega
  · refine ⟨⟨_, hnext⟩, ?_⟩
    have hrest := le_rest_drain hunit (c.backlog + frame.nbSamples)
      ((delay swr c c.inSampleRate + frame.nbSamples : ℤ) : ℚ) (maxSamples frame)
    rw [hnext.backlog, h.backlog, h.convert_backlog swr hrate]
    refine le_trans ?_ hrest
    rw [hcap, Swr.unit, h.inRate, h.outRate]
    push_cast
    linarith

end SetUp

/-- A frame of the codec with some samples. -/
def frameOf (codec : Codec) (nbSamples : ℕ) : AudioFrame :=
  { AudioFrame.blank with
    nbSamples := nbSamples
    sampleRate := codec.sampleRate
    channelLayout := codec.channelLayout
    format := codec.sampleFmt
    hasData := true }

theorem maxSamples_frameOf (codec : Codec) (n : ℕ) :
    maxSamples (frameOf codec n) = ((n : ℤ) * 4).bmod (2 ^ 32) := rfl

/-- Where the condition fails, some frame raises the backlog each time it is fed. -/
theorem exists_raising {codec : Codec} {speed N : ℕ} (h : ¬ Sustained codec speed N) :
    0 < outSampleRate codec speed ∧ ∃ n : ℕ, 1 ≤ n ∧ n ≤ N ∧ n < 2 ^ 31 ∧
      maxSamples (frameOf codec n) = 4 ∧
      0 < (n : ℚ) - 4 * (codec.sampleRate / outSampleRate codec speed) := by
  rw [Sustained, not_or, not_or, not_and_or, not_le, not_le] at h
  rcases h with ⟨hN, hout, hfails⟩
  have hpos : 0 < outSampleRate codec speed := Nat.pos_of_ne_zero hout
  have hcast : (0 : ℚ) < outSampleRate codec speed := by exact_mod_cast hpos
  refine ⟨hpos, ?_⟩
  rcases hfails with hratio | hlarge
  · refine ⟨1, le_rfl, Nat.pos_of_ne_zero hN, by norm_num,
      (maxSamples_frameOf codec 1).trans (by decide), ?_⟩
    rw [sub_pos, ← mul_div_assoc, div_lt_iff₀ hcast, Nat.cast_one, one_mul]
    exact_mod_cast hratio
  · refine ⟨2 ^ 30 + 1, by norm_num, hlarge, by norm_num,
      (maxSamples_frameOf codec _).trans (by decide), ?_⟩
    rw [sub_pos, ← mul_div_assoc, div_lt_iff₀ hcast]
    have hlt := sampleRate_lt hpos
    have hle : 4 * codec.sampleRate < (2 ^ 30 + 1) * outSampleRate codec speed := by omega
    exact_mod_cast hle

/-- A decoder that resamples begins with the resampler for its codec and its speed. -/
theorem begin_setUp {s : AudioDecoder} {codec : Codec}
    (hused : (s.initResampleContext codec).needResample = true) (b : ℚ) (hb : 0 ≤ b)
    (resampleFrame : Option AudioFrame) :
    ∃ c, SetUp codec s.speed c (begin (s.initResampleContext codec) b hb resampleFrame) ∧
      (begin (s.initResampleContext codec) b hb resampleFrame).backlog = b := by
  unfold AudioDecoder.initResampleContext at hused ⊢
  cases hunit : Audio.unit s.speed with
  | true => simp [hunit] at hused
  | false => exact ⟨⟨codec.sampleRate, outSampleRate codec s.speed, b, hb⟩,
      ⟨rfl, rfl, rfl, rfl, rfl⟩, rfl⟩

theorem bounded_of_sustained {swr : Swresample} {s : AudioDecoder} {codec : Codec} {N : ℕ}
    (hused : (s.initResampleContext codec).needResample = true)
    (h : Sustained codec s.speed N) :
    BacklogBounded swr (s.initResampleContext codec) codec N fun b => max b 2000 := by
  intro b hb resampleFrame frames hframes
  rcases begin_setUp hused b hb resampleFrame with ⟨c, hc, hbegin⟩
  have hstep (s' : Resampling) (fed : AudioFrame × ℤ) (hs' : ∃ c', SetUp codec s.speed c' s')
      (hfed : Feeds codec N fed) : (∃ c', SetUp codec s.speed c' (feed swr s' fed)) ∧
        (feed swr s' fed).backlog ≤ max s'.backlog 2000 := by
    rcases hs' with ⟨c', hc'⟩
    exact hc'.feed_le swr h hfed
  have hle := foldl_le_max _ hstep ⟨c, hc⟩ hframes
  rwa [hbegin] at hle

theorem not_bounded_of_not_sustained {swr : Swresample} {s : AudioDecoder} {codec : Codec} {N : ℕ}
    (hused : (s.initResampleContext codec).needResample = true)
    (h : ¬ Sustained codec s.speed N) (bound : ℚ → ℚ) :
    ¬ BacklogBounded swr (s.initResampleContext codec) codec N bound := by
  intro hbounded
  rcases exists_raising h with ⟨hout, n, hpos, hN, hlt, hcap, hgrowth⟩
  rcases begin_setUp hused 0 le_rfl none with ⟨c, hc, -⟩
  have hstep (s' : Resampling) (hs' : ∃ c', SetUp codec s.speed c' s') :
      (∃ c', SetUp codec s.speed c' (feed swr s' (frameOf codec n, 0))) ∧
        s'.backlog + (n - 4 * (codec.sampleRate / outSampleRate codec s.speed)) ≤
          (feed swr s' (frameOf codec n, 0)).backlog := by
    rcases hs' with ⟨c', hc'⟩
    exact hc'.le_feed swr hout rfl hpos hcap
  rcases exists_foldl_gt _ hgrowth hstep ⟨c, hc⟩ (bound 0) with ⟨k, hk⟩
  refine absurd (hbounded 0 le_rfl none (List.replicate k (frameOf codec n, 0)) ?_) (not_le.mpr hk)
  intro fed hfed
  rw [(List.mem_replicate.mp hfed).2]
  exact ⟨rfl, hpos, hN, hlt⟩

/-- The backlog stays below a constant that depends on its beginning alone exactly when the
condition holds, and there is one constant for all codecs, speeds and sizes that meet it. -/
theorem backlogBounded_iff (swr : Swresample) (s : AudioDecoder) (codec : Codec) (N : ℕ)
    (hused : (s.initResampleContext codec).needResample = true) :
    ((∃ bound, BacklogBounded swr (s.initResampleContext codec) codec N bound) ↔
        Sustained codec s.speed N) ∧
      (BacklogBounded swr (s.initResampleContext codec) codec N (fun b => max b 2000) ↔
        Sustained codec s.speed N) := by
  refine ⟨⟨?_, ?_⟩, ?_, bounded_of_sustained hused⟩
  · rintro ⟨bound, hbounded⟩
    by_contra h
    exact not_bounded_of_not_sustained hused h bound hbounded
  · intro h
    exact ⟨_, bounded_of_sustained hused h⟩
  · intro hbounded
    by_contra h
    exact not_bounded_of_not_sustained hused h _ hbounded

/-- Two channels at 48 kHz. -/
def stereo : Codec := ⟨48000, 3, 8⟩

theorem backlogBounded_oneAndHalf :
    ((∃ bound, BacklogBounded .rounding
          ((AudioDecoder.new.setSpeed (3 / 2)).initResampleContext stereo) stereo 1024 bound) ↔
        Sustained stereo (AudioDecoder.new.setSpeed (3 / 2)).speed 1024) ∧
      (BacklogBounded .rounding
          ((AudioDecoder.new.setSpeed (3 / 2)).initResampleContext stereo) stereo 1024
          (fun b => max b 2000) ↔
        Sustained stereo (AudioDecoder.new.setSpeed (3 / 2)).speed 1024) := by
  apply backlogBounded_iff
  rw [AudioDecoder.setSpeed_oneAndHalf]
  rfl

/-- At eight times the speed each frame leaves at least half of its samples behind. -/
theorem backlogBounded_fails : ¬ ∃ bound, BacklogBounded .rounding
    ((AudioDecoder.new.setSpeed 8).initResampleContext stereo) stereo 1024 bound := by
  rintro ⟨bound, hbounded⟩
  have hstored : Playback.Decoder.storedSpeed 8 = 8000 := by decide +kernel
  rw [AudioDecoder.new.setSpeed_of_accepts (by decide +kernel), hstored] at hbounded
  apply not_bounded_of_not_sustained _ _ bound hbounded
  · rfl
  · rintro (hN | hout | ⟨hratio, -⟩)
    · omega
    · revert hout
      decide
    · exact absurd ((outSampleRate_le_iff (by decide) 8000).mp hratio) (by norm_num)

end Resampling

end DecoderSDK.Audio
