import DecoderSDK.Base.Compare
import DecoderSDK.Timeline.Lines

/-! # The clocks of the stream synchronisation

A clock stores the value it was set to, its distance to the system time then,
and that time. System times, values and speeds are rationals, and a call
happens at one system time. A running clock is a line over the system time;
its rate is not its speed but what the speed lacks to one.
-/
namespace DecoderSDK
open Timeline

structure Clock where
  pts : ℚ
  ptsDrift : ℚ
  lastUpdated : ℚ
  speed : ℚ
  serial : ℤ
  paused : Bool
  calibrationCounter : ℤ

namespace Clock

def maxDrift : ℚ := 10

def calibrationInterval : ℤ := 100

/-- A new clock. -/
def new : Clock where
  pts := 0
  ptsDrift := 0
  lastUpdated := 0
  speed := 1
  serial := 0
  paused := false
  calibrationCounter := 0

def getClock (c : Clock) (now : ℚ) : ℚ :=
  if c.paused then c.pts
  else
    let elapsed := (now - c.lastUpdated) * c.speed
    c.ptsDrift + now - elapsed

def setClock (c : Clock) (pts : ℚ) (serial : ℤ) (now : ℚ) : Clock :=
  { c with pts := pts, ptsDrift := pts - now, lastUpdated := now, serial := serial }

def init (c : Clock) (queueSerial : ℤ) (now : ℚ) : Clock :=
  { c with speed := 1
           paused := false
           serial := queueSerial
           calibrationCounter := 0 }.setClock 0 queueSerial now

def reset (c : Clock) (now : ℚ) : Clock := c.init 0 now

/-- The test of `setClockSpeed` lets the speed pass. -/
def acceptsSpeed (c : Clock) (speed : ℚ) : Bool := greater speed 0 && !equal c.speed speed

/-- The speed is stored before the clock is read. -/
def setClockSpeed (c : Clock) (speed now : ℚ) : Clock :=
  if !c.acceptsSpeed speed then c
  else
    let c := { c with speed := speed }
    c.setClock (c.getClock now) c.serial now

/-- The counter is an `int` that wraps around. -/
def calibrate (c : Clock) (now : ℚ) : Clock :=
  let counter := c.calibrationCounter
  let c := { c with calibrationCounter := (counter + 1).bmod (2 ^ 32) }
  if counter.tmod calibrationInterval ≠ 0 then c
  else if maxDrift < |c.ptsDrift| then c.setClock (c.getClock now) c.serial now
  else c

def setPaused (c : Clock) (paused : Bool) (now : ℚ) : Clock :=
  if c.paused = paused then c
  else
    let c := if paused then { c with pts := c.getClock now } else c.setClock c.pts c.serial now
    { c with paused := paused }

/-- The calls that are to leave the reading alone. -/
inductive Control where
  | setClockSpeed (speed : ℚ)
  | setPaused (paused : Bool)
  | calibrate

inductive Call where
  | init (queueSerial : ℤ)
  | reset
  | setClock (pts : ℚ) (serial : ℤ)
  | control (op : Control)

def control (c : Clock) (now : ℚ) : Control → Clock
  | .setClockSpeed speed => c.setClockSpeed speed now
  | .setPaused paused => c.setPaused paused now
  | .calibrate => c.calibrate now

def call (c : Clock) (now : ℚ) : Call → Clock
  | .init queueSerial => c.init queueSerial now
  | .reset => c.reset now
  | .setClock pts serial => c.setClock pts serial now
  | .control op => c.control now op

/-- The clock after calls with the system times they were made at. -/
def after (calls : List (ℚ × Call)) : Clock := calls.foldl (fun c p => c.call p.1 p.2) new

/-- What an unpaused clock shows over the system time. -/
def line (c : Clock) : Line ℚ := ⟨c.ptsDrift + c.lastUpdated, c.lastUpdated, 1 - c.speed⟩

theorem getClock_eq_read {c : Clock} (h : c.paused = false) (now : ℚ) :
    c.getClock now = c.line.read now := by
  simp only [getClock, h, Bool.false_eq_true, if_false, line, Line.read]
  ring

theorem getClock_paused {c : Clock} (h : c.paused = true) (now : ℚ) : c.getClock now = c.pts := by
  simp [getClock, h]

/-- A clock that is set reads what it was set to, paused or not. -/
@[simp] theorem getClock_setClock (c : Clock) (pts : ℚ) (serial : ℤ) (now : ℚ) :
    (c.setClock pts serial now).getClock now = pts := by
  simp [getClock, setClock]

/-- The clock runs at its speed from a time on, never runs backwards, and reads what it is set
to. -/
structure RunsAtSpeed (c : Clock) (t₀ : ℚ) : Prop where
  runs : c.paused = false → ∀ t₁ t₂, t₀ ≤ t₁ → t₁ ≤ t₂ →
    c.getClock t₂ - c.getClock t₁ = c.speed * (t₂ - t₁)
  forwards : c.paused = false → 0 < c.speed → ∀ t₁ t₂, t₀ ≤ t₁ → t₁ ≤ t₂ →
    c.getClock t₁ ≤ c.getClock t₂
  set : ∀ pts serial, (c.setClock pts serial t₀).getClock t₀ = pts

/-- An unpaused clock gains one minus its speed in every second, so it runs at its speed when
that is one half and at no other speed. -/
theorem runs_at_speed_iff (calls : List (ℚ × Call)) (t₀ : ℚ) :
    RunsAtSpeed (after calls) t₀ ↔ (after calls).paused = true ∨ (after calls).speed = 1 / 2 := by
  generalize after calls = c
  cases hpaused : c.paused with
  | true =>
    simp only [true_or, iff_true]
    exact ⟨by simp [hpaused], by simp [hpaused],
      fun pts serial => getClock_setClock c pts serial t₀⟩
  | false =>
    simp only [Bool.false_eq_true, false_or]
    have hrate : c.line.rate = c.speed ↔ c.speed = 1 / 2 := by
      simp only [line]
      constructor <;> intro h <;> linarith
    rw [← hrate, ← c.line.rate_eq_iff t₀ c.speed]
    constructor
    · intro h t₁ t₂ h₁ h₂
      have hruns := h.runs hpaused t₁ t₂ h₁ h₂
      simpa only [getClock_eq_read hpaused] using hruns
    · intro h
      have hspeed : c.line.rate = c.speed := (c.line.rate_eq_iff t₀ c.speed).mp h
      refine ⟨fun _ t₁ t₂ h₁ h₂ => ?_, fun _ hpos t₁ t₂ _ h₂ => ?_,
        fun pts serial => getClock_setClock c pts serial t₀⟩
      · simpa only [getClock_eq_read hpaused] using h t₁ t₂ h₁ h₂
      · rw [getClock_eq_read hpaused, getClock_eq_read hpaused]
        exact c.line.read_le_read (by rw [hspeed]; exact hpos.le) h₂

/-- A clock that was initialised runs at speed one and stands still. -/
theorem runs_at_speed_fails : ¬RunsAtSpeed (after [(0, .init 0)]) 0 := by
  intro h
  have hruns := h.runs rfl 0 1 (by norm_num) (by norm_num)
  norm_num [after, call, init, setClock, getClock] at hruns

/-- The call happens at a time and leaves what the clock reads then. -/
def Continuous (c : Clock) (t : ℚ) (op : Control) : Prop :=
  (c.control t op).getClock t = c.getClock t

/-- The call neither pauses nor resumes. -/
def Control.adjusts : Control → Bool
  | .setPaused _ => false
  | _ => true

/-- The clock after controls with the system times they were made at. -/
def controlled (c : Clock) (ops : List (ℚ × Control)) : Clock :=
  ops.foldl (fun c p => c.control p.1 p.2) c

/-- A pause, however long and whatever is adjusted meanwhile, leaves the reading at the resume
equal to the reading at the pause. -/
def PauseKeepsReading (c : Clock) (t : ℚ) : Prop :=
  ∀ ops : List (ℚ × Control), (∀ p ∈ ops, p.2.adjusts = true) → ∀ t',
    (((c.setPaused true t).controlled ops).setPaused false t').getClock t' = c.getClock t

/-- The speed of a clock that runs is changed some time after its last update. -/
def Control.jumps (c : Clock) (t : ℚ) : Control → Bool
  | .setClockSpeed speed => !c.paused && c.acceptsSpeed speed && c.lastUpdated ≠ t
  | _ => false

/-- Pausing keeps the reading in `pts`. -/
theorem setPaused_true (c : Clock) (t : ℚ) :
    (c.setPaused true t).paused = true ∧ (c.setPaused true t).pts = c.getClock t := by
  cases hpaused : c.paused with
  | true => simp [setPaused, hpaused, getClock_paused hpaused]
  | false => simp [setPaused, hpaused]

theorem getClock_setPaused_false (c : Clock) (t : ℚ) :
    (c.setPaused false t).getClock t = c.getClock t := by
  cases hpaused : c.paused with
  | true =>
    rw [getClock_paused hpaused]
    simp [setPaused, hpaused, getClock, setClock]
  | false => simp [setPaused, hpaused]

theorem getClock_calibrate (c : Clock) (t : ℚ) : (c.calibrate t).getClock t = c.getClock t := by
  unfold calibrate
  simp only
  split_ifs
  · rfl
  · rw [getClock_setClock]
    rfl
  · rfl

/-- A paused clock is adjusted without a trace. -/
theorem control_paused {c : Clock} (hpaused : c.paused = true) (t : ℚ) (op : Control)
    (hop : op.adjusts = true) :
    (c.control t op).paused = true ∧ (c.control t op).pts = c.pts := by
  cases op with
  | setClockSpeed speed =>
    simp only [control, setClockSpeed]
    split_ifs
    · exact ⟨hpaused, rfl⟩
    · simp [setClock, getClock, hpaused]
  | calibrate =>
    simp only [control, calibrate]
    split_ifs
    · exact ⟨hpaused, rfl⟩
    · simp [setClock, getClock, hpaused]
    · exact ⟨hpaused, rfl⟩
  | setPaused paused => simp [Control.adjusts] at hop

theorem controlled_paused {c : Clock} (hpaused : c.paused = true) (ops : List (ℚ × Control))
    (hops : ∀ p ∈ ops, p.2.adjusts = true) :
    (c.controlled ops).paused = true ∧ (c.controlled ops).pts = c.pts := by
  induction ops generalizing c with
  | nil => exact ⟨hpaused, rfl⟩
  | cons p ops ih =>
    obtain ⟨hpaused', hpts⟩ := control_paused hpaused p.1 p.2 (hops p List.mem_cons_self)
    have hrest := ih hpaused' fun q hq => hops q (List.mem_cons_of_mem p hq)
    rw [hpts] at hrest
    exact hrest

theorem pauseKeepsReading (c : Clock) (t : ℚ) : PauseKeepsReading c t := by
  intro ops hops t'
  obtain ⟨hpaused, hpts⟩ := setPaused_true c t
  obtain ⟨hpaused', hpts'⟩ := controlled_paused hpaused ops hops
  rw [getClock_setPaused_false, getClock_paused hpaused', hpts', hpts]

/-- The new speed counts for the time since the last update, too. -/
theorem getClock_setClockSpeed {c : Clock} (hpaused : c.paused = false) {speed : ℚ}
    (haccepts : c.acceptsSpeed speed = true) (t : ℚ) :
    (c.setClockSpeed speed t).getClock t =
      c.getClock t - (t - c.lastUpdated) * (speed - c.speed) := by
  simp only [setClockSpeed, haccepts, Bool.not_true, Bool.false_eq_true, if_false,
    getClock_setClock]
  simp only [getClock, hpaused, Bool.false_eq_true, if_false]
  ring

theorem ne_of_acceptsSpeed {c : Clock} {speed : ℚ} (h : c.acceptsSpeed speed = true) :
    speed ≠ c.speed := by
  rintro rfl
  simp [acceptsSpeed, equal, epsilon] at h

/-- Pausing, resuming and calibrating never move the clock, nor does a pause as a whole. A new
speed moves it, unless the clock is paused, has the speed already or was updated at that time. -/
theorem control_continuous_iff (calls : List (ℚ × Call)) (t : ℚ) (op : Control) :
    Continuous (after calls) t op ∧ PauseKeepsReading (after calls) t ↔
      op.jumps (after calls) t = false := by
  generalize after calls = c
  simp only [pauseKeepsReading, and_true, Continuous, control]
  cases op with
  | setPaused paused =>
    cases paused with
    | true =>
      obtain ⟨hpaused, hpts⟩ := setPaused_true c t
      simp [getClock_paused hpaused, hpts, Control.jumps]
    | false => simp [getClock_setPaused_false, Control.jumps]
  | calibrate => simp [getClock_calibrate, Control.jumps]
  | setClockSpeed speed =>
    cases hpaused : c.paused with
    | true =>
      have hcontrol := control_paused hpaused t (.setClockSpeed speed) rfl
      rw [control] at hcontrol
      simp [getClock_paused hcontrol.1, hcontrol.2, getClock_paused hpaused, Control.jumps, hpaused]
    | false =>
      cases haccepts : c.acceptsSpeed speed with
      | false => simp [setClockSpeed, haccepts, Control.jumps]
      | true =>
        have hne : speed - c.speed ≠ 0 := sub_ne_zero.mpr (ne_of_acceptsSpeed haccepts)
        rw [getClock_setClockSpeed hpaused haccepts, sub_eq_self, mul_eq_zero, or_iff_left hne,
          sub_eq_zero]
        simp only [Control.jumps, hpaused, haccepts, Bool.not_false, Bool.true_and, ne_eq,
          decide_not, Bool.not_eq_false', decide_eq_true_eq]
        exact eq_comm

/-- A clock that has run for a second at speed one is set to speed two. -/
theorem control_continuous_fails :
    ¬Continuous (after [(0, .init 0)]) 1 (.setClockSpeed 2) := by
  intro h
  norm_num [Continuous, after, call, control, init, setClock, setClockSpeed, acceptsSpeed, greater,
    equal, epsilon, getClock] at h

end Clock

end DecoderSDK
