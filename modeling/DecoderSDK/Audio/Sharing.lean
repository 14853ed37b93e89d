import DecoderSDK.Audio.Backlog
import DecoderSDK.Reuse.KeptBuffer

/-! # Resampled frames share the kept frame's buffer

`resampleFrame` returns a copy of the frame that it keeps. The copy refers to
the same samples, and the next resampled frame is written over them unless a
new buffer is taken for it. Speeds and contexts may change in between. The
resampler is FFmpeg's: its delay, the number of samples that it gives and its
failures are inputs of a call, and so are a refused buffer and a failed copy.
The truncated product of a sample rate and a speed is one of doubles, a
parameter.
-/
namespace DecoderSDK.Audio
open Reuse

/-- What `av_frame_get_buffer` is asked for. -/
structure Room where
  channels : ℕ
  format : ℕ
  samples : ℤ
  deriving DecidableEq

/-- The answers to the resampling of one frame: those of `swr_get_delay`, `av_frame_get_buffer` and
`swr_convert`, the context that is left, whether a conversion that fails has written anything, and
whether the frame can be copied. -/
structure SwrAnswers where
  delay : ℤ
  getBuffer : ℤ
  convert : ℤ
  swrCtx : Swr
  spoils : Bool
  copies : Bool

/-- What becomes of the kept buffer: the frame does not get to the resampler, there is no new
buffer, or the samples go into a new one or into the one that is there. -/
inductive Use where
  | passed
  | refused
  | renewed (outSamples : ℤ)
  | reused (outSamples : ℤ)

namespace SwrAnswers

/-- Something is written into the buffer. -/
def writes (a : SwrAnswers) : Bool := decide (0 ≤ a.convert) || a.spoils

/-- A frame is handed out. -/
def returns (a : SwrAnswers) : Bool := decide (0 ≤ a.convert) && a.copies

/-- The conversion into the kept buffer. -/
def fill (a : SwrAnswers) (k : Kept Room) : Kept Room :=
  if a.returns then k.write else if a.writes then k.spoil else k

end SwrAnswers

namespace Resampling

/-- The number of samples to ask for when the resampler tells the delay. -/
def outSamplesFor (delay : ℤ) (frame : AudioFrame) (outputSampleRate : ℕ) : ℤ :=
  let delay := if delay < 0 then 0 else delay
  let outSamples := ⌈((delay + frame.nbSamples : ℤ) : ℚ) * outputSampleRate / frame.sampleRate⌉
  if outSamples > maxSamples frame then maxSamples frame else outSamples

/-- The kept frame with a new buffer, if there is one. -/
def reallocated (f frame : AudioFrame) (outputSampleRate : ℕ) (outSamples getBuffer : ℤ) :
    AudioFrame :=
  { f.unref.configure frame outputSampleRate with
    nbSamples := outSamples.toNat
    hasData := decide (0 ≤ getBuffer) }

section Frames
variable (outputRate : ℕ → ℕ → ℕ)

/-- `resampleFrame` with all that it is answered: the error code, the frame and what follows. -/
def resampleWith (s : Resampling) (frame : AudioFrame) (a : SwrAnswers) :
    ℤ × Option AudioFrame × Resampling :=
  match s.needResample, s.swrCtx with
  | true, some _ =>
    let outputSampleRate := outputRate frame.sampleRate s.speed
    let needReconfig := s.needReconfig frame outputSampleRate
    let f := s.configured frame outputSampleRate
    let outSamples := outSamplesFor a.delay frame outputSampleRate
    if outSamples ≤ 0 then (-22, none, { s with resampleFrame := some f })
    else
      let needRealloc := needRealloc f needReconfig outSamples
      let f :=
        if needRealloc then reallocated f frame outputSampleRate outSamples a.getBuffer else f
      if needRealloc = true ∧ a.getBuffer < 0 then
        (a.getBuffer, none, { s with resampleFrame := some f })
      else if a.convert < 0 then
        (a.convert, none, { s with swrCtx := some a.swrCtx, resampleFrame := some f })
      else
        let f := finish f frame a.convert outputSampleRate
        (if needRealloc then a.getBuffer else 0, if a.copies then some f else none,
          { s with swrCtx := some a.swrCtx, resampleFrame := some f })
  | _, _ => (0, if a.copies then some frame else none, s)

/-- The number of samples that the resampler is asked for, if it gets the frame. -/
def asked (s : Resampling) (frame : AudioFrame) (delay : ℤ) : Option ℤ :=
  match s.needResample, s.swrCtx with
  | true, some _ =>
    let n := outSamplesFor delay frame (outputRate frame.sampleRate s.speed)
    if n ≤ 0 then none else some n
  | _, _ => none

/-- A new buffer is taken for the frame. -/
def renews (s : Resampling) (frame : AudioFrame) (n : ℤ) : Bool :=
  let outputSampleRate := outputRate frame.sampleRate s.speed
  needRealloc (s.configured frame outputSampleRate) (s.needReconfig frame outputSampleRate) n

def use (s : Resampling) (frame : AudioFrame) (a : SwrAnswers) : Use :=
  match s.asked outputRate frame a.delay with
  | none => .passed
  | some n =>
    if s.renews outputRate frame n then if a.getBuffer < 0 then .refused else .renewed n
    else .reused n

end Frames

end Resampling

/-- The context is set up anew or closed, or a frame is fed. -/
inductive ResampleOp where
  | setUp (speed : ℕ) (needResample : Bool) (swrCtx : Option Swr)
  | feed (frame : AudioFrame) (a : SwrAnswers)

/-- The resampler with the buffers of the frames it has returned. -/
structure Sharing where
  resampling : Resampling
  buffers : Kept Room

namespace Sharing

/-- A new decoder has no resampler and no frame. -/
def new (speed : ℕ) : Sharing := ⟨⟨speed, false, none, none⟩, .empty⟩

section Runs
variable (outputRate : ℕ → ℕ → ℕ)

/-- What becomes of the kept buffer when an operation is done. -/
def use (s : Sharing) : ResampleOp → Use
  | .setUp .. => .passed
  | .feed frame a => s.resampling.use outputRate frame a

/-- What happens to the buffers when a frame is fed. -/
def feedBuffers (s : Sharing) (frame : AudioFrame) (a : SwrAnswers) : Kept Room :=
  match s.resampling.use outputRate frame a with
  | .passed => s.buffers
  | .refused => s.buffers.drop
  | .renewed n => a.fill (s.buffers.renew ⟨frame.channels, frame.format, n⟩)
  | .reused _ => a.fill s.buffers

def step (s : Sharing) : ResampleOp → Sharing
  | .setUp speed needResample swrCtx =>
    { s with resampling := ⟨speed, needResample, swrCtx, s.resampling.resampleFrame⟩ }
  | .feed frame a =>
    ⟨(s.resampling.resampleWith outputRate frame a).2.2, s.feedBuffers outputRate frame a⟩

def run (s : Sharing) (ops : List ResampleOp) : Sharing := ops.foldl (step outputRate) s

/-- The operation writes into the buffer that is kept now. -/
def writesOver (s : Sharing) : ResampleOp → Bool
  | .setUp .. => false
  | .feed frame a => match s.resampling.use outputRate frame a with
    | .reused _ => a.writes
    | _ => false

/-- The buffer that is kept now is written over before another one is taken. -/
def overwrites (s : Sharing) : List ResampleOp → Bool
  | [] => false
  | op :: ops => match s.use outputRate op with
    | .renewed _ => false
    | _ => s.writesOver outputRate op || overwrites (s.step outputRate op) ops

/-- The resampler gives no more than it is asked for, and a frame that is worth no sample does not
change the format of a kept frame with data. -/
def Proper (s : Resampling) : ResampleOp → Prop
  | .setUp .. => True
  | .feed frame a => match s.asked outputRate frame a.delay with
    | some n => a.convert ≤ n
    | none => s.needResample = true → s.swrCtx.isSome → ∀ f, s.resampleFrame = some f →
        f.hasData = true → f.channels = frame.channels ∧ f.format = frame.format

/-- All operations of the list are proper. -/
def AllProper (s : Sharing) : List ResampleOp → Prop
  | [] => True
  | op :: ops => Proper outputRate s.resampling op ∧ AllProper (s.step outputRate op) ops

end Runs

end Sharing

namespace Resampling
variable {outputRate : ℕ → ℕ → ℕ} {s : Resampling} {frame : AudioFrame} {a : SwrAnswers} {n : ℤ}

@[simp] theorem configured_nbSamples (f : AudioFrame) (rate : ℕ) :
    (s.configured f rate).nbSamples = (s.resampleFrame.getD .blank).nbSamples := by
  unfold configured
  split_ifs <;> rfl

@[simp] theorem configured_hasData (f : AudioFrame) (rate : ℕ) :
    (s.configured f rate).hasData = (s.resampleFrame.getD .blank).hasData := by
  unfold configured
  split_ifs <;> rfl

/-- The kept frame has the parameters of the frame, whether they were set just now or before. -/
theorem configured_fits (f : AudioFrame) (rate : ℕ) :
    (s.configured f rate).channels = f.channels ∧ (s.configured f rate).format = f.format := by
  unfold configured
  by_cases hreconfig : s.needReconfig f rate = true
  · rw [if_pos hreconfig]
    exact ⟨rfl, rfl⟩
  · rw [if_neg hreconfig]
    unfold needReconfig at hreconfig
    cases hkept : s.resampleFrame with
    | none => simp [hkept] at hreconfig
    | some kept =>
      rw [hkept] at hreconfig
      simp only [Bool.or_eq_true, decide_eq_true_eq, not_or, not_not] at hreconfig
      exact ⟨hreconfig.1.2, hreconfig.2⟩

/-- The kept buffer is used again for a frame that fits the kept one and is worth no more. -/
theorem renews_eq_false_iff : s.renews outputRate frame n = false ↔ ∃ f, s.resampleFrame = some f ∧
    f.sampleRate = outputRate frame.sampleRate s.speed ∧ f.channels = frame.channels ∧
    f.format = frame.format ∧ n ≤ f.nbSamples ∧ f.hasData = true := by
  unfold renews needRealloc
  dsimp only
  rw [configured_nbSamples, configured_hasData]
  unfold needReconfig
  cases s.resampleFrame with
  | none => simp
  | some f =>
    simp only [Bool.or_eq_false_iff, decide_eq_false_iff_not, not_not, not_lt,
      Bool.not_eq_false', Option.getD_some, Option.some.injEq]
    constructor
    · rintro ⟨⟨⟨⟨hrate, hchannels⟩, hformat⟩, hle⟩, hdata⟩
      exact ⟨f, rfl, hrate, hchannels, hformat, hle, hdata⟩
    · rintro ⟨f, rfl, hrate, hchannels, hformat, hle, hdata⟩
      exact ⟨⟨⟨⟨hrate, hchannels⟩, hformat⟩, hle⟩, hdata⟩

/-- The frame that is kept after a conversion, and the one that is returned. -/
structure Resampled (outputRate : ℕ → ℕ → ℕ) (s : Resampling) (frame : AudioFrame) (a : SwrAnswers)
    (f : AudioFrame) : Prop where
  kept : (s.resampleWith outputRate frame a).2.2.resampleFrame = some f
  returned : 0 ≤ a.convert →
    (s.resampleWith outputRate frame a).2.1 = if a.copies then some f else none
  hasData : f.hasData = true
  channels : f.channels = frame.channels
  format : f.format = frame.format
  samples : 0 ≤ a.convert → (f.nbSamples : ℤ) = a.convert

/-- What a frame can do: it does not get to the resampler and changes parameters at most, there is
no buffer for it, or it is converted into a new buffer or into the one that is there. -/
inductive Fed (outputRate : ℕ → ℕ → ℕ) (s : Resampling) (frame : AudioFrame) (a : SwrAnswers) : Prop
  where
  | passed (huse : s.use outputRate frame a = .passed)
      (hasked : s.asked outputRate frame a.delay = none)
      (hkept : (s.resampleWith outputRate frame a).2.2.resampleFrame = s.resampleFrame ∨
        s.needResample = true ∧ s.swrCtx.isSome ∧
          (s.resampleWith outputRate frame a).2.2.resampleFrame =
            some (s.configured frame (outputRate frame.sampleRate s.speed)))
  | refused (huse : s.use outputRate frame a = .refused) (f : AudioFrame)
      (hkept : (s.resampleWith outputRate frame a).2.2.resampleFrame = some f)
      (hdata : f.hasData = false)
  | renewed (n : ℤ) (huse : s.use outputRate frame a = .renewed n)
      (hasked : s.asked outputRate frame a.delay = some n) (f : AudioFrame)
      (hf : Resampled outputRate s frame a f) (hfailed : a.convert < 0 → (f.nbSamples : ℤ) = n)
  | reused (n : ℤ) (huse : s.use outputRate frame a = .reused n)
      (hasked : s.asked outputRate frame a.delay = some n)
      (hrenews : s.renews outputRate frame n = false) (f : AudioFrame)
      (hf : Resampled outputRate s frame a f) (hfailed : a.convert < 0 → s.resampleFrame = some f)

theorem asked_some (h : s.asked outputRate frame a.delay = some n) : 0 < n ∧
    s.needResample = true ∧ (∃ c, s.swrCtx = some c) ∧
    outSamplesFor a.delay frame (outputRate frame.sampleRate s.speed) = n := by
  unfold asked at h
  cases hneed : s.needResample with
  | false => simp [hneed] at h
  | true =>
    cases hctx : s.swrCtx with
    | none => simp [hneed, hctx] at h
    | some c =>
      rw [hneed, hctx] at h
      dsimp only at h
      split_ifs at h with hnone
      have hn := Option.some.inj h
      exact ⟨hn ▸ not_le.mp hnone, rfl, ⟨c, rfl⟩, hn⟩

/-- The kept frame as it goes to the resampler. -/
def target (outputRate : ℕ → ℕ → ℕ) (s : Resampling) (frame : AudioFrame) (n getBuffer : ℤ) :
    AudioFrame :=
  let outputSampleRate := outputRate frame.sampleRate s.speed
  let f := s.configured frame outputSampleRate
  if s.renews outputRate frame n then reallocated f frame outputSampleRate n getBuffer else f

theorem resampleWith_of_asked (h : s.asked outputRate frame a.delay = some n) :
    s.resampleWith outputRate frame a =
      let f := target outputRate s frame n a.getBuffer
      if s.renews outputRate frame n = true ∧ a.getBuffer < 0 then
        (a.getBuffer, none, { s with resampleFrame := some f })
      else if a.convert < 0 then
        (a.convert, none, { s with swrCtx := some a.swrCtx, resampleFrame := some f })
      else
        let f := finish f frame a.convert (outputRate frame.sampleRate s.speed)
        (if s.renews outputRate frame n then a.getBuffer else 0, if a.copies then some f else none,
          { s with swrCtx := some a.swrCtx, resampleFrame := some f }) := by
  rcases asked_some h with ⟨hpos, hneed, ⟨c, hctx⟩, hn⟩
  unfold resampleWith
  rw [hneed, hctx]
  dsimp only
  rw [hn, if_neg (not_le.mpr hpos)]
  rfl

theorem resampleWith_of_not_asked (h : s.asked outputRate frame a.delay = none) :
    (s.resampleWith outputRate frame a).2.2.resampleFrame = s.resampleFrame ∨
      s.needResample = true ∧ s.swrCtx.isSome ∧
        (s.resampleWith outputRate frame a).2.2.resampleFrame =
          some (s.configured frame (outputRate frame.sampleRate s.speed)) := by
  unfold asked at h
  unfold resampleWith
  cases hneed : s.needResample with
  | false => exact .inl rfl
  | true =>
    cases hctx : s.swrCtx with
    | none => exact .inl rfl
    | some c =>
      rw [hneed, hctx] at h
      dsimp only at h ⊢
      split_ifs at h with hnone
      rw [if_pos hnone]
      exact .inr ⟨rfl, rfl, rfl⟩

/-- A conversion with a buffer gives the frame that is kept. -/
theorem resampled (h : s.asked outputRate frame a.delay = some n)
    (hbuffer : ¬(s.renews outputRate frame n = true ∧ a.getBuffer < 0)) :
    ∃ f, Resampled outputRate s frame a f ∧
      (a.convert < 0 → f = target outputRate s frame n a.getBuffer) := by
  have heq := resampleWith_of_asked h
  dsimp only at heq
  rw [if_neg hbuffer] at heq
  have htarget : (target outputRate s frame n a.getBuffer).hasData = true ∧
      (target outputRate s frame n a.getBuffer).channels = frame.channels ∧
      (target outputRate s frame n a.getBuffer).format = frame.format := by
    unfold target
    cases hrenews : s.renews outputRate frame n with
    | true => exact ⟨decide_eq_true (not_lt.mp fun hneg => hbuffer ⟨hrenews, hneg⟩), rfl, rfl⟩
    | false =>
      rcases renews_eq_false_iff.mp hrenews with ⟨f, hf, -, -, -, -, hdata⟩
      have hfits := s.configured_fits frame (outputRate frame.sampleRate s.speed)
      exact ⟨by simpa [hf] using hdata, hfits.1, hfits.2⟩
  by_cases hneg : a.convert < 0
  · rw [if_pos hneg] at heq
    refine ⟨_, ⟨by rw [heq], ?_, htarget.1, htarget.2.1, htarget.2.2, ?_⟩, fun _ => rfl⟩
    · intro hpos
      omega
    · intro hpos
      omega
  · rw [if_neg hneg] at heq
    refine ⟨finish (target outputRate s frame n a.getBuffer) frame a.convert
      (outputRate frame.sampleRate s.speed), ⟨by rw [heq], fun _ => by rw [heq], htarget.1,
      htarget.2.1, htarget.2.2, ?_⟩, ?_⟩
    · intro hpos
      exact Int.toNat_of_nonneg hpos
    · intro hlt
      exact absurd hlt hneg

theorem fed (outputRate : ℕ → ℕ → ℕ) (s : Resampling) (frame : AudioFrame) (a : SwrAnswers) :
    Fed outputRate s frame a := by
  cases hasked : s.asked outputRate frame a.delay with
  | none => exact .passed (by rw [use, hasked]) hasked (resampleWith_of_not_asked hasked)
  | some n =>
    have huse : s.use outputRate frame a = if s.renews outputRate frame n then
        if a.getBuffer < 0 then .refused else .renewed n else .reused n := by
      rw [use, hasked]
    cases hrenews : s.renews outputRate frame n with
    | true =>
      by_cases hneg : a.getBuffer < 0
      · refine .refused (by simp [huse, hrenews, hneg])
          (target outputRate s frame n a.getBuffer) ?_ ?_
        · rw [resampleWith_of_asked hasked]
          simp [hrenews, hneg]
        · rw [target, hrenews, if_pos rfl]
          exact decide_eq_false (not_le.mpr hneg)
      · rcases resampled hasked (fun h => hneg h.2) with ⟨f, hf, hfailed⟩
        refine .renewed n (by simp [huse, hrenews, hneg]) hasked f hf ?_
        intro hconvert
        rw [hfailed hconvert, target, hrenews, if_pos rfl]
        exact Int.toNat_of_nonneg (asked_some hasked).1.le
    | false =>
      rcases resampled hasked (fun h => by rw [hrenews] at h; exact absurd h.1 Bool.false_ne_true)
        with ⟨f, hf, hfailed⟩
      refine .reused n (by simp [huse, hrenews]) hasked hrenews f hf ?_
      intro hconvert
      rw [hfailed hconvert, target, hrenews, if_neg Bool.false_ne_true]
      rcases renews_eq_false_iff.mp hrenews with ⟨kept, hkept, hrate, hchannels, hformat, -, -⟩
      have hsame : s.needReconfig frame (outputRate frame.sampleRate s.speed) = false := by
        simp [needReconfig, hkept, hrate, hchannels, hformat]
      rw [hkept, configured, hsame, if_neg Bool.false_ne_true, hkept, Option.getD_some]

/-- Exact products of a sample rate and a speed. -/
def exactRate (sampleRate speed : ℕ) : ℕ := sampleRate * speed / 1000

/-- The answers of a resampler that conserves samples, when all copies are granted. -/
def conserving (swr : Swresample) (c : Swr) (frame : AudioFrame) (outputSampleRate : ℕ)
    (getBuffer : ℤ) : SwrAnswers :=
  let converted := c.convert (outSamples swr c frame outputSampleRate) frame.nbSamples
  ⟨swr.getDelay (c.backlog * frame.sampleRate / c.inSampleRate), getBuffer, converted.1,
    converted.2, false, true⟩

theorem convert_count_nonneg (c : Swr) {outCount : ℤ} (h : 0 < outCount) (nbSamples : ℕ) :
    0 ≤ (c.convert outCount nbSamples).1 := by
  apply le_min h.le
  apply Int.floor_nonneg.mpr
  apply div_nonneg (add_nonneg c.nonneg (Nat.cast_nonneg nbSamples))
  exact div_nonneg (Nat.cast_nonneg _) (Nat.cast_nonneg _)

/-- The resampler that conserves samples is one way to answer. -/
theorem resample_eq_resampleWith (swr : Swresample) {c : Swr} (hctx : s.swrCtx = some c)
    (frame : AudioFrame) (getBuffer : ℤ) : s.resample swr (some frame) getBuffer =
      s.resampleWith exactRate frame
        (conserving swr c frame (exactRate frame.sampleRate s.speed) getBuffer) := by
  unfold resample resampleWith
  cases hneed : s.needResample with
  | false => simp [conserving]
  | true =>
    rw [hctx]
    have hdelay : outSamplesFor (swr.getDelay (c.backlog * frame.sampleRate / c.inSampleRate)) frame
        (exactRate frame.sampleRate s.speed) =
        outSamples swr c frame (exactRate frame.sampleRate s.speed) := rfl
    dsimp only [conserving]
    rw [hdelay]
    unfold exactRate
    by_cases hnone : outSamples swr c frame (frame.sampleRate * s.speed / 1000) ≤ 0
    · simp only [if_pos hnone]
    · have hcount := convert_count_nonneg c (not_le.mp hnone) frame.nbSamples
      simp only [if_neg hnone, if_neg (not_lt.mpr hcount), if_pos]
      rfl

end Resampling

namespace SwrAnswers
variable {a : SwrAnswers} {k : Kept Room}

/-- What a conversion does to the kept buffer. -/
theorem fill_cases (a : SwrAnswers) (k : Kept Room) :
    a.returns = true ∧ a.writes = true ∧ a.fill k = k.write ∨
      a.returns = false ∧ a.writes = true ∧ a.fill k = k.spoil ∨
      a.returns = false ∧ a.writes = false ∧ a.fill k = k := by
  unfold fill
  cases hreturns : a.returns with
  | true =>
    have hwrites : a.writes = true := by
      unfold returns at hreturns
      unfold writes
      rw [Bool.and_eq_true] at hreturns
      rw [hreturns.1, Bool.true_or]
    exact .inl ⟨rfl, hwrites, rfl⟩
  | false =>
    cases hwrites : a.writes with
    | true => exact .inr (.inl ⟨rfl, rfl, rfl⟩)
    | false => exact .inr (.inr ⟨rfl, rfl, rfl⟩)

@[simp] theorem fill_current : (a.fill k).current = k.current := by
  rcases a.fill_cases k with ⟨-, -, h⟩ | ⟨-, -, h⟩ | ⟨-, -, h⟩ <;> rw [h] <;> simp

@[simp] theorem fill_taken : (a.fill k).taken = k.taken := by
  rcases a.fill_cases k with ⟨-, -, h⟩ | ⟨-, -, h⟩ | ⟨-, -, h⟩ <;> rw [h] <;> simp

theorem fill_sound (h : k.Sound) : (a.fill k).Sound := by
  rcases a.fill_cases k with ⟨-, -, hfill⟩ | ⟨-, -, hfill⟩ | ⟨-, -, hfill⟩ <;> rw [hfill]
  · exact h.write
  · exact h.spoil
  · exact h

theorem fill_handed {i d : ℕ} (hi : k.handed[i]? = some d) : (a.fill k).handed[i]? = some d := by
  rcases a.fill_cases k with ⟨-, -, h⟩ | ⟨-, -, h⟩ | ⟨-, -, h⟩ <;> rw [h]
  · exact Kept.handed_write hi
  · simpa using hi
  · exact hi

/-- A result in another buffer does not notice a conversion. -/
theorem intact_fill_of_ne {i d : ℕ} (hi : k.handed[i]? = some d) (hd : k.current ≠ some d) :
    (a.fill k).Intact i ↔ k.Intact i := by
  rcases a.fill_cases k with ⟨-, -, h⟩ | ⟨-, -, h⟩ | ⟨-, -, h⟩ <;> rw [h]
  · exact Kept.intact_write_of_ne hi hd
  · exact Kept.intact_spoil_of_ne hi hd

/-- A conversion that writes ends the result in the kept buffer. -/
theorem intact_fill_iff {i d : ℕ} (hi : k.handed[i]? = some d) (hd : k.current = some d) :
    (a.fill k).Intact i ↔ k.Intact i ∧ a.writes = false := by
  rcases a.fill_cases k with ⟨-, hwrites, h⟩ | ⟨-, hwrites, h⟩ | ⟨-, hwrites, h⟩ <;>
    rw [h, hwrites]
  · simp [Kept.not_intact_write hi hd]
  · simp [Kept.not_intact_spoil hi hd]
  · simp

end SwrAnswers

namespace Sharing
variable {outputRate : ℕ → ℕ → ℕ} {s : Sharing}

/-- A kept frame with data keeps its buffer. -/
structure Good (s : Sharing) : Prop where
  sound : s.buffers.Sound
  kept : ∀ f, s.resampling.resampleFrame = some f → f.hasData = true →
    s.buffers.current.isSome

theorem new_good (speed : ℕ) : (new speed).Good where
  sound := Kept.empty_sound
  kept _ h := nomatch h

/-- The buffer that is used again is there. -/
theorem Good.current (h : s.Good) {frame : AudioFrame} {n : ℤ}
    (hrenews : s.resampling.renews outputRate frame n = false) :
    ∃ c, s.buffers.current = some c := by
  rcases Resampling.renews_eq_false_iff.mp hrenews with ⟨f, hf, -, -, -, -, hdata⟩
  exact Option.isSome_iff_exists.mp (h.kept f hf hdata)

/-- The buffers after a frame. -/
theorem step_buffers (outputRate : ℕ → ℕ → ℕ) (s : Sharing) (frame : AudioFrame)
    (a : SwrAnswers) :
    (s.step outputRate (.feed frame a)).buffers =
      match s.resampling.use outputRate frame a with
      | .passed => s.buffers
      | .refused => s.buffers.drop
      | .renewed n => a.fill (s.buffers.renew ⟨frame.channels, frame.format, n⟩)
      | .reused _ => a.fill s.buffers := rfl

theorem Good.step (h : s.Good) (outputRate : ℕ → ℕ → ℕ) (op : ResampleOp) :
    (s.step outputRate op).Good := by
  cases op with
  | setUp speed needResample swrCtx => exact ⟨h.sound, h.kept⟩
  | feed frame a =>
    have hbuffers := step_buffers outputRate s frame a
    cases Resampling.fed outputRate s.resampling frame a with
    | passed huse hasked hkept =>
      rw [huse] at hbuffers
      refine ⟨hbuffers ▸ h.sound, ?_⟩
      intro f hf hdata
      rw [hbuffers]
      rcases hkept with hsame | ⟨-, -, hconfigured⟩
      · exact h.kept f (hsame.symm.trans hf) hdata
      · have heq := Option.some.inj (hconfigured.symm.trans hf)
        rw [← heq, Resampling.configured_hasData] at hdata
        cases hkept : s.resampling.resampleFrame with
        | none => simp [hkept, AudioFrame.blank] at hdata
        | some kept =>
          rw [hkept] at hdata
          exact h.kept kept hkept hdata
    | refused huse f' hkept hnone =>
      rw [huse] at hbuffers
      refine ⟨hbuffers ▸ h.sound.drop, ?_⟩
      intro f hf hdata
      rw [Option.some.inj (hf.symm.trans hkept), hnone] at hdata
      contradiction
    | renewed n huse _ _ _ _ =>
      rw [huse] at hbuffers
      refine ⟨hbuffers ▸ SwrAnswers.fill_sound (h.sound.renew _), ?_⟩
      intro f _ _
      rw [hbuffers, SwrAnswers.fill_current]
      rfl
    | reused n huse _ hrenews _ _ _ =>
      rcases h.current hrenews with ⟨c, hc⟩
      rw [huse] at hbuffers
      refine ⟨hbuffers ▸ SwrAnswers.fill_sound h.sound, ?_⟩
      intro f _ _
      rw [hbuffers, SwrAnswers.fill_current, hc]
      rfl

theorem run_cons (op : ResampleOp) (ops : List ResampleOp) :
    s.run outputRate (op :: ops) = (s.step outputRate op).run outputRate ops := rfl

theorem Good.run (h : s.Good) (ops : List ResampleOp) : (s.run outputRate ops).Good := by
  induction ops generalizing s with
  | nil => exact h
  | cons op ops ih => exact ih (h.step outputRate op)

/-- While no buffer is kept, none is written over. -/
theorem Good.not_overwrites (h : s.Good) (hnone : s.buffers.current = none)
    (ops : List ResampleOp) : s.overwrites outputRate ops = false := by
  induction ops generalizing s with
  | nil => rfl
  | cons op ops ih =>
    cases op with
    | setUp speed needResample swrCtx => exact ih (h.step outputRate (.setUp ..)) hnone
    | feed frame a =>
      have hnext := h.step outputRate (.feed frame a)
      have hbuffers := step_buffers outputRate s frame a
      rw [overwrites, use, writesOver]
      cases Resampling.fed outputRate s.resampling frame a with
      | passed huse hasked hkept =>
        rw [huse] at hbuffers ⊢
        exact ih hnext (hbuffers ▸ hnone)
      | refused huse f hkept hdata =>
        rw [huse] at hbuffers ⊢
        exact ih hnext (by rw [hbuffers]; rfl)
      | renewed n huse _ _ _ _ => rw [huse]
      | reused n huse _ hrenews _ _ _ =>
        rcases h.current hrenews with ⟨c, hc⟩
        rw [hnone] at hc
        cases hc

/-- A result stands until its buffer, if it is the kept one, is written over. -/
theorem Good.run_intact (h : s.Good) {i d : ℕ} (hi : s.buffers.handed[i]? = some d)
    (ops : List ResampleOp) : (s.run outputRate ops).buffers.Intact i ↔
      s.buffers.Intact i ∧ (s.buffers.current = some d → s.overwrites outputRate ops = false) := by
  induction ops generalizing s with
  | nil => exact (and_iff_left fun _ => rfl).symm
  | cons op ops ih =>
    rw [run_cons]
    cases op with
    | setUp speed needResample swrCtx => exact ih (h.step outputRate (.setUp ..)) hi
    | feed frame a =>
      have hnext := h.step outputRate (.feed frame a)
      have hbuffers := step_buffers outputRate s frame a
      rw [overwrites, use, writesOver]
      cases Resampling.fed outputRate s.resampling frame a with
      | passed huse hasked hkept =>
        rw [huse] at hbuffers ⊢
        rw [ih hnext (hbuffers ▸ hi), hbuffers, Bool.false_or]
      | refused huse f hkept hdata =>
        rw [huse] at hbuffers ⊢
        have hgone : (s.step outputRate (.feed frame a)).buffers.current = none := by
          rw [hbuffers]
          rfl
        rw [ih hnext (by rw [hbuffers]; exact hi), hnext.not_overwrites hgone, hbuffers]
        simp [Kept.Intact, Kept.drop]
      | renewed n huse _ _ _ _ =>
        rw [huse] at hbuffers ⊢
        have hne := h.sound.renew_current_ne ⟨frame.channels, frame.format, n⟩ hi
        rw [ih hnext (by rw [hbuffers]; exact SwrAnswers.fill_handed hi), hbuffers,
          SwrAnswers.fill_current, SwrAnswers.intact_fill_of_ne (k := s.buffers.renew _) hi hne]
        exact and_congr_right fun _ => ⟨fun _ _ => rfl, fun _ heq => absurd heq hne⟩
      | reused n huse _ hrenews _ _ _ =>
        rw [huse] at hbuffers ⊢
        rw [ih hnext (by rw [hbuffers]; exact SwrAnswers.fill_handed hi), hbuffers,
          SwrAnswers.fill_current]
        by_cases hd : s.buffers.current = some d
        · rw [SwrAnswers.intact_fill_iff hi hd]
          simp [hd, and_assoc]
        · rw [SwrAnswers.intact_fill_of_ne hi hd]
          simp [hd]

/-- The frame is converted and handed out. -/
def yields (outputRate : ℕ → ℕ → ℕ) (s : Sharing) (frame : AudioFrame) (a : SwrAnswers) : Bool :=
  match s.resampling.use outputRate frame a with
  | .renewed _ => a.returns
  | .reused _ => a.returns
  | _ => false

/-- A frame that is handed out is the kept one, in the kept buffer. -/
theorem Good.returned (h : s.Good) {frame : AudioFrame} {a : SwrAnswers}
    (hyields : yields outputRate s frame a = true) :
    (s.resampling.resampleWith outputRate frame a).2.1 =
        (s.step outputRate (.feed frame a)).resampling.resampleFrame ∧
      (s.step outputRate (.feed frame a)).buffers.Intact s.buffers.handed.length ∧
      ∃ c, (s.step outputRate (.feed frame a)).buffers.current = some c ∧
        (s.step outputRate (.feed frame a)).buffers.handed[s.buffers.handed.length]? = some c := by
  have hbuffers := step_buffers outputRate s frame a
  have hwrite : ∀ (k : Kept Room) (c : ℕ), k.current = some c → a.returns = true →
      (a.fill k).Intact k.handed.length ∧ (a.fill k).current = some c ∧
        (a.fill k).handed[k.handed.length]? = some c := by
    intro k c hc hreturns
    rw [SwrAnswers.fill_current, SwrAnswers.fill, if_pos hreturns]
    refine ⟨Kept.intact_write hc, hc, ?_⟩
    rw [Kept.write_of_current hc]
    simp
  have hsame : ∀ f, Resampling.Resampled outputRate s.resampling frame a f → a.returns = true →
      (s.resampling.resampleWith outputRate frame a).2.1 =
        (s.step outputRate (.feed frame a)).resampling.resampleFrame := by
    intro f hf hreturns
    rw [SwrAnswers.returns, Bool.and_eq_true, decide_eq_true_eq] at hreturns
    rw [hf.returned hreturns.1, if_pos hreturns.2]
    exact hf.kept.symm
  rw [yields] at hyields
  cases Resampling.fed outputRate s.resampling frame a with
  | passed huse _ _ =>
    rw [huse] at hyields
    cases hyields
  | refused huse _ _ _ =>
    rw [huse] at hyields
    cases hyields
  | renewed n huse _ f hf _ =>
    rw [huse] at hyields hbuffers
    rw [hbuffers]
    rcases hwrite (s.buffers.renew ⟨frame.channels, frame.format, n⟩) _ rfl hyields with
      ⟨hintact, hcurrent, hhanded⟩
    exact ⟨hsame f hf hyields, hintact, _, hcurrent, hhanded⟩
  | reused n huse _ hrenews f hf _ =>
    rcases h.current hrenews with ⟨c, hc⟩
    rw [huse] at hyields hbuffers
    rw [hbuffers]
    rcases hwrite s.buffers c hc hyields with ⟨hintact, hcurrent, hhanded⟩
    exact ⟨hsame f hf hyields, hintact, c, hcurrent, hhanded⟩

/-- In every run a resampled frame is kept as well as returned, and it keeps its samples until the
buffer is written over before another one is taken. -/
theorem frame_overwritten_iff (outputRate : ℕ → ℕ → ℕ) (speed : ℕ) (ops : List ResampleOp)
    (frame : AudioFrame) (a : SwrAnswers) (s s' : Sharing)
    (hs : (new speed).run outputRate ops = s) (hs' : s.step outputRate (.feed frame a) = s')
    (hyields : yields outputRate s frame a = true) :
    (s.resampling.resampleWith outputRate frame a).2.1 = s'.resampling.resampleFrame ∧
      ∀ ops', (s'.run outputRate ops').buffers.Intact s.buffers.handed.length ↔
        s'.overwrites outputRate ops' = false := by
  have hgood : s.Good := hs ▸ (new_good speed).run ops
  rcases hgood.returned hyields with ⟨hreturned, hintact, c, hcurrent, hhanded⟩
  subst hs'
  refine ⟨hreturned, ?_⟩
  intro ops'
  rw [(hgood.step outputRate _).run_intact hhanded ops', hcurrent]
  simp [hintact]

/-- Frames of two channels at 48 kHz. -/
def pcm (nbSamples : ℕ) : AudioFrame :=
  { AudioFrame.blank with
    nbSamples := nbSamples
    sampleRate := 48000
    channelLayout := 3
    channels := 2
    format := 8
    hasData := true }

/-- A context at twice the speed. -/
def doubling : Swr := ⟨48000, 96000, 16, by norm_num⟩

/-- Some samples stay in the resampler. -/
def answers (delay convert : ℤ) : SwrAnswers := ⟨delay, 0, convert, doubling, false, true⟩

/-- At twice the speed a frame is resampled after a longer one. -/
def shorterRun : List ResampleOp :=
  [.setUp 2000 true (some doubling), .feed (pcm 2048) (answers 0 4064)]

/-- The shorter frame is written over the longer one. -/
theorem shorter_overwrites :
    ¬ (((new 1000).run Resampling.exactRate shorterRun).run Resampling.exactRate
      [.feed (pcm 1024) (answers 16 2048)]).buffers.Intact 0 := by
  intro hintact
  have hfirst := (frame_overwritten_iff Resampling.exactRate 1000 [.setUp 2000 true (some doubling)]
    (pcm 2048) (answers 0 4064) _ _ rfl rfl (by decide +kernel)).2
    [.feed (pcm 1024) (answers 16 2048)]
  exact absurd (hfirst.mp hintact) (by decide +kernel)

/-- The kept buffer was taken for the format of the kept frame and for its samples. -/
def Fits (s : Sharing) : Prop :=
  ∀ f, s.resampling.resampleFrame = some f → f.hasData = true → ∃ c room,
    s.buffers.current = some c ∧ s.buffers.taken c = some room ∧ room.channels = f.channels ∧
      room.format = f.format ∧ f.nbSamples ≤ room.samples

theorem new_fits (speed : ℕ) : (new speed).Fits := fun _ h => nomatch h

/-- The conversion of a frame, into a new buffer or the one that is there. -/
def converts (outputRate : ℕ → ℕ → ℕ) (s : Sharing) (frame : AudioFrame) (a : SwrAnswers) :
    Option ℤ :=
  match s.resampling.use outputRate frame a with
  | .renewed n => some n
  | .reused n => some n
  | _ => none

/-- The samples are written into a buffer that was taken for them. -/
theorem Fits.written (h : s.Fits) {frame : AudioFrame} {a : SwrAnswers} {n : ℤ}
    (hconverts : converts outputRate s frame a = some n) : ∃ c room,
      (s.step outputRate (.feed frame a)).buffers.current = some c ∧
      (s.step outputRate (.feed frame a)).buffers.taken c = some room ∧
      room.channels = frame.channels ∧ room.format = frame.format ∧ n ≤ room.samples := by
  have hbuffers := step_buffers outputRate s frame a
  rw [converts] at hconverts
  cases Resampling.fed outputRate s.resampling frame a with
  | passed huse _ _ =>
    rw [huse] at hconverts
    cases hconverts
  | refused huse _ _ _ =>
    rw [huse] at hconverts
    cases hconverts
  | renewed m huse _ _ _ _ =>
    rw [huse] at hconverts hbuffers
    rw [hbuffers, SwrAnswers.fill_current, SwrAnswers.fill_taken, ← Option.some.inj hconverts]
    exact ⟨_, _, rfl, Function.update_self .., rfl, rfl, le_rfl⟩
  | reused m huse _ hrenews _ _ _ =>
    rw [huse] at hconverts hbuffers
    rw [Option.some.inj hconverts] at hrenews
    rcases Resampling.renews_eq_false_iff.mp hrenews with
      ⟨f, hf, -, hchannels, hformat, hle, hdata⟩
    rcases h f hf hdata with ⟨c, room, hc, hroom, hchannels', hformat', hle'⟩
    rw [hbuffers, SwrAnswers.fill_current, SwrAnswers.fill_taken]
    exact ⟨c, room, hc, hroom, hchannels'.trans hchannels, hformat'.trans hformat, hle.trans hle'⟩

/-- The frame that a conversion leaves fits the buffer. -/
theorem Fits.converted (h : s.Fits) {frame : AudioFrame} {a : SwrAnswers} {n : ℤ}
    (hconverts : converts outputRate s frame a = some n) {f : AudioFrame}
    (hf : Resampling.Resampled outputRate s.resampling frame a f) (hle : (f.nbSamples : ℤ) ≤ n) :
    (s.step outputRate (.feed frame a)).Fits := by
  intro f' hf' _
  rcases h.written hconverts with ⟨c, room, hc, hroom, hchannels, hformat, hle'⟩
  rw [Option.some.inj (hf'.symm.trans hf.kept)]
  exact ⟨c, room, hc, hroom, hchannels.trans hf.channels.symm, hformat.trans hf.format.symm,
    hle.trans hle'⟩

theorem Fits.step (h : s.Fits) {op : ResampleOp} (hproper : Proper outputRate s.resampling op) :
    (s.step outputRate op).Fits := by
  cases op with
  | setUp speed needResample swrCtx => exact h
  | feed frame a =>
    have hbuffers := step_buffers outputRate s frame a
    cases Resampling.fed outputRate s.resampling frame a with
    | passed huse hasked hkept =>
      intro f hf hdata
      rw [huse] at hbuffers
      rw [hbuffers]
      rcases hkept with hsame | ⟨hneed, hctx, hconfigured⟩
      · exact h f (hsame.symm.trans hf) hdata
      · have heq := Option.some.inj (hconfigured.symm.trans hf)
        rw [← heq, Resampling.configured_hasData] at hdata
        cases hkept : s.resampling.resampleFrame with
        | none => simp [hkept, AudioFrame.blank] at hdata
        | some kept =>
          rw [hkept, Option.getD_some] at hdata
          have hfits := Resampling.configured_fits (s := s.resampling) frame
            (outputRate frame.sampleRate s.resampling.speed)
          rw [Proper, hasked] at hproper
          have hsame := hproper hneed hctx kept hkept hdata
          rcases h kept hkept hdata with ⟨c, room, hc, hroom, hchannels, hformat, hle⟩
          refine ⟨c, room, hc, hroom, ?_, ?_, ?_⟩
          · rw [← heq, hfits.1, hchannels, hsame.1]
          · rw [← heq, hfits.2, hformat, hsame.2]
          · rw [← heq, Resampling.configured_nbSamples, hkept]
            exact hle
    | refused huse f' hkept hnone =>
      intro f hf hdata
      rw [Option.some.inj (hf.symm.trans hkept), hnone] at hdata
      contradiction
    | renewed n huse hasked f hf hfailed =>
      rw [Proper, hasked] at hproper
      refine h.converted (by rw [converts, huse]) hf ?_
      by_cases hneg : a.convert < 0
      · exact (hfailed hneg).le
      · rw [hf.samples (not_lt.mp hneg)]
        exact hproper
    | reused n huse hasked hrenews f hf hfailed =>
      rw [Proper, hasked] at hproper
      by_cases hneg : a.convert < 0
      · intro f' hf' hdata
        rw [huse] at hbuffers
        rw [hbuffers, SwrAnswers.fill_current, SwrAnswers.fill_taken]
        have hsame := Option.some.inj (hf'.symm.trans hf.kept)
        exact h f' (hsame ▸ hfailed hneg) hdata
      · refine h.converted (by rw [converts, huse]) hf ?_
        rw [hf.samples (not_lt.mp hneg)]
        exact hproper

theorem Fits.run (h : s.Fits) {ops : List ResampleOp} (hproper : s.AllProper outputRate ops) :
    (s.run outputRate ops).Fits := by
  induction ops generalizing s with
  | nil => exact h
  | cons op ops ih => exact ih (h.step hproper.1) hproper.2

/-- In every run in which the resampler gives no more than it is asked for and no frame worth
nothing changes the format of the kept frame, the resampler writes into a buffer that was taken for
the channels and the format of the frame and for at least as many samples as it is asked for. -/
theorem conversions_fit (outputRate : ℕ → ℕ → ℕ) (speed : ℕ) (ops : List ResampleOp)
    (frame : AudioFrame) (a : SwrAnswers) (n : ℤ) (s s' : Sharing)
    (hs : (new speed).run outputRate ops = s) (hs' : s.step outputRate (.feed frame a) = s')
    (hproper : (new speed).AllProper outputRate ops)
    (hconverts : converts outputRate s frame a = some n) :
    ∃ c room, s'.buffers.current = some c ∧ s'.buffers.taken c = some room ∧
      room.channels = frame.channels ∧ room.format = frame.format ∧ n ≤ room.samples := by
  have hfits : s.Fits := hs ▸ (new_fits speed).run hproper
  rw [← hs']
  exact hfits.written hconverts

theorem shorterRun_proper : (new 1000).AllProper Resampling.exactRate shorterRun := by
  have hasked : Resampling.asked Resampling.exactRate ⟨2000, true, some doubling, none⟩ (pcm 2048)
      (answers 0 4064).delay = some 4096 := by decide +kernel
  have hproper : Proper Resampling.exactRate ⟨2000, true, some doubling, none⟩
      (.feed (pcm 2048) (answers 0 4064)) := by
    rw [Proper, hasked]
    exact show (4064 : ℤ) ≤ 4096 by decide
  exact ⟨trivial, hproper, trivial⟩

/-- The shorter frame fits the buffer of the longer one. -/
theorem shorter_fits :
    ∃ c room, ((new 1000).run Resampling.exactRate
        (shorterRun ++ [.feed (pcm 1024) (answers 16 2048)])).buffers.current = some c ∧
      ((new 1000).run Resampling.exactRate
        (shorterRun ++ [.feed (pcm 1024) (answers 16 2048)])).buffers.taken c = some room ∧
      room.channels = 2 ∧ room.format = 8 ∧ 2080 ≤ room.samples :=
  conversions_fit Resampling.exactRate 1000 shorterRun (pcm 1024) (answers 16 2048) 2080 _ _ rfl rfl
    shorterRun_proper (by decide +kernel)

end Sharing

end DecoderSDK.Audio
