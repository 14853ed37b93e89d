import DecoderSDK.Lifecycle.Opening

/-! # A recording and its input

The recorder of a demuxer keeps a pointer to the format context that it was
started with. Closing the demuxer stops the recording before the context is
freed; opening another media frees the context as well, and does not ask.
-/
namespace DecoderSDK.Lifecycle
open Interleaving
open PreBuffer (Config)

/-- How far the recorder gets when it is started: the container does not take the input, the
output cannot be set up, the streams cannot be mapped, or the recording runs. -/
inductive Setup where
  | refused
  | noOutput
  | noMapping
  | ready
  deriving DecidableEq

inductive Request where
  | open (url : String) (config : Config) (callback : Bool) (probe : Probe)
  | pause
  | resume
  | seek (position : ℚ)
  | startRecording (setup : Setup)
  | stopRecording
  | close
  | work (w : Work)

/-- The call of the demuxer that a request makes. -/
def Request.call : Request → Call
  | .open url config callback probe => .open url config callback probe
  | .pause => .pause
  | .resume => .resume
  | .seek position => .seek position
  | .startRecording setup => .startRecording (decide (setup = .ready))
  | .stopRecording => .stopRecording
  | .close => .close
  | .work w => .work w

/-- A demuxer with the input of its recorder. -/
structure Recorded where
  demuxer : Demuxer
  inputFormatCtx : Option ℕ

namespace Recorded

def new : Recorded := ⟨.new, none⟩

/-- The recorder keeps the input before it sets up the output, and forgets it in `cleanup`. -/
def setUp (r : Recorded) : Setup → Option ℕ
  | .refused => r.inputFormatCtx
  | .noOutput => r.demuxer.formatContext
  | .noMapping => none
  | .ready => r.demuxer.formatContext

/-- The input of the recorder after a request. -/
def nextInput (r : Recorded) : Request → Option ℕ
  | .startRecording setup =>
    if !r.demuxer.isRealTime || r.demuxer.formatContext.isNone || r.demuxer.isRecording then
      r.inputFormatCtx
    else r.setUp setup
  | .stopRecording => if r.demuxer.isRecording then none else r.inputFormatCtx
  | .close => if r.demuxer.isRecording then none else r.inputFormatCtx
  | _ => r.inputFormatCtx

def step (r : Recorded) (q : Request) : Option Recorded :=
  (r.demuxer.step q.call).map fun d => ⟨d, r.nextInput q⟩

/-- What is recorded is the media that is open. -/
def Bound (r : Recorded) : Prop :=
  r.demuxer.isRecording = true →
    r.inputFormatCtx = r.demuxer.formatContext ∧ r.demuxer.isOpened = true

/-- No media is opened while a recording runs. -/
def Apart (r : Recorded) : Request → Prop
  | .open _ _ _ _ => r.demuxer.isRecording = false
  | _ => True

end Recorded

namespace Demuxer

@[simp] theorem closeInternal_isRecording (d : Demuxer) :
    d.closeInternal.isRecording = d.isRecording := by
  have hstop : d.stop.isRecording = d.isRecording := by
    unfold stop
    split <;> rfl
  rw [← hstop]
  simp only [closeInternal]
  split <;> rfl

@[simp] theorem close_isRecording (d : Demuxer) : d.close.isRecording = false := by
  unfold close stopRecording
  cases h : d.isRecording <;> simp [h]

/-- Opening a media does not touch the recorder. -/
@[simp] theorem openInternal_isRecording (d : Demuxer) (url : String) (config : Config)
    (callback : Bool) (probe : Probe) :
    (d.openInternal url config callback probe).2.isRecording = d.isRecording := by
  have hprobed : (d.probed url).isRecording = d.isRecording := by
    have hreleased : d.released.isRecording = d.isRecording := by
      unfold released
      split <;> simp
    rw [← hreleased]
    unfold probed openInput triggerEvent
    split <;> rfl
  rw [← hprobed]
  cases hfound : probe.found with
  | false =>
    rw [openInternal_of_not_found d url config callback hfound]
    rfl
  | true =>
    rw [openInternal_of_found d url config callback hfound]
    split
    · rfl
    · unfold triggerEvent start establish setPreBufferConfig
      split <;> split <;> rfl

@[simp] theorem pause_isRecording (d : Demuxer) : d.pause.2.isRecording = d.isRecording := by
  unfold pause
  split <;> rfl

@[simp] theorem resume_isRecording (d : Demuxer) : d.resume.2.isRecording = d.isRecording := by
  unfold resume
  split
  · rfl
  · split
    · rfl
    · split <;> rfl

@[simp] theorem seek_isRecording (d : Demuxer) (position : ℚ) :
    (d.seek position).2.isRecording = d.isRecording := by
  unfold seek
  split <;> rfl

theorem work_isRecording {d d' : Demuxer} {w : Work} (h : d.work w = some d') :
    d'.isRecording = d.isRecording := by
  cases w <;> rw [work, Option.ite_none_right_eq_some, Option.some.injEq] at h <;> rw [← h.2]

/-- A stream is real-time while it is open. -/
theorem Coherent.isOpened_of_isRealTime {d : Demuxer} (h : d.Coherent)
    (hrealTime : d.isRealTime = true) : d.isOpened = true := by
  rcases h with hreleased | hrunning
  · rw [hreleased.isRealTime] at hrealTime
    cases hrealTime
  · exact hrunning.isOpened

end Demuxer

namespace Recorded

structure Invariant (r : Recorded) : Prop where
  coherent : r.demuxer.Coherent
  allocated : r.demuxer.Allocated
  bound : r.Bound

theorem invariant_new : Invariant new where
  coherent := .inl Demuxer.new_released
  allocated := by
    intro n hn
    cases hn
  bound := by
    intro hrecording
    cases hrecording

theorem step_allocated {d d' : Demuxer} {c : Call} (h : d.Allocated)
    (hstep : d.step c = some d') : d'.Allocated := by
  rcases Demuxer.step_cases hstep with
    ⟨url, config, callback, probe, -, rfl⟩ | ⟨-, rfl⟩ | ⟨-, hkeeps⟩
  · exact Demuxer.openInternal_allocated h url config callback probe
  · exact Demuxer.close_allocated h
  · exact h.of_keeps hkeeps

/-- A call that leaves the session and the recorder alone. -/
theorem Bound.of_keeps {r : Recorded} {d : Demuxer} (h : r.Bound)
    (hkeeps : Demuxer.Keeps r.demuxer d) (hrecording : d.isRecording = r.demuxer.isRecording) :
    Bound ⟨d, r.inputFormatCtx⟩ := by
  intro hd
  rcases h (hrecording ▸ hd) with ⟨hinput, hopened⟩
  exact ⟨hinput.trans hkeeps.formatContext.symm, hkeeps.isOpened.trans hopened⟩

/-- The recorder is started on the context of the open media. -/
theorem Invariant.startRecording {r : Recorded} (h : Invariant r) (setup : Setup) :
    Bound ⟨(r.demuxer.startRecording (decide (setup = .ready))).2,
      r.nextInput (.startRecording setup)⟩ := by
  rw [nextInput, Demuxer.startRecording]
  by_cases hguard : !r.demuxer.isRealTime || r.demuxer.formatContext.isNone ||
      r.demuxer.isRecording
  · rw [if_pos hguard, if_pos (by simp [hguard])]
    exact h.bound
  · rw [if_neg hguard]
    simp only [Bool.or_eq_true, Bool.not_eq_true', not_or, Bool.not_eq_false] at hguard
    have hidle : r.demuxer.isRecording = false := by simpa using hguard.2
    by_cases hready : setup = .ready
    · rw [if_neg (by simp [hguard, hready])]
      intro _
      exact ⟨by rw [hready]; rfl, h.coherent.isOpened_of_isRealTime hguard.1.1⟩
    · rw [if_pos (by simp [hready])]
      intro hrecording
      rw [hidle] at hrecording
      cases hrecording

/-- With the media that is recorded replaced, the recorder is left behind. -/
theorem Invariant.open_bound_iff {r : Recorded} (h : Invariant r) (url : String) (config : Config)
    (callback : Bool) (probe : Probe) :
    Bound ⟨(r.demuxer.openInternal url config callback probe).2, r.inputFormatCtx⟩ ↔
      r.demuxer.isRecording = false := by
  constructor
  · intro hbound
    by_contra hrecording
    rw [Bool.not_eq_false] at hrecording
    rcases h.bound hrecording with ⟨hinput, hopened⟩
    have hrunning := h.coherent.running hopened
    rcases Option.isSome_iff_exists.mp hrunning.formatContext with ⟨n, hn⟩
    have hsame := (hbound (by simp [hrecording])).1
    simp only at hsame
    rw [hinput, hn] at hsame
    have hnew := Demuxer.openInternal_formatContext_of_running hrunning
      (Option.mem_def.mpr hsame.symm)
    have hold := h.allocated n (Option.mem_def.mpr hn)
    omega
  · intro hrecording hopen
    simp only [Demuxer.openInternal_isRecording, hrecording] at hopen
    cases hopen

theorem Invariant.bound_iff {r r' : Recorded} {q : Request} (h : Invariant r)
    (hstep : r.step q = some r') : r'.Bound ↔ r.Apart q := by
  rw [step, Option.map_eq_some_iff] at hstep
  rcases hstep with ⟨d, hd, rfl⟩
  cases q with
  | «open» url config callback probe =>
    rw [Request.call, Demuxer.step, Option.some.injEq] at hd
    subst hd
    exact h.open_bound_iff url config callback probe
  | pause =>
    rw [Request.call, Demuxer.step, Option.some.injEq] at hd
    subst hd
    exact iff_of_true (h.bound.of_keeps (Demuxer.pause_keeps _) (by simp)) trivial
  | resume =>
    rw [Request.call, Demuxer.step, Option.some.injEq] at hd
    subst hd
    exact iff_of_true (h.bound.of_keeps (Demuxer.resume_keeps _) (by simp)) trivial
  | seek position =>
    rw [Request.call, Demuxer.step, Option.some.injEq] at hd
    subst hd
    exact iff_of_true (h.bound.of_keeps (Demuxer.seek_keeps _ position) (by simp)) trivial
  | startRecording setup =>
    rw [Request.call, Demuxer.step, Option.some.injEq] at hd
    subst hd
    exact iff_of_true (h.startRecording setup) trivial
  | stopRecording =>
    rw [Request.call, Demuxer.step, Option.some.injEq] at hd
    subst hd
    apply iff_of_true _ trivial
    intro hrecording
    cases hidle : r.demuxer.isRecording with
    | true => simp [Demuxer.stopRecording, hidle] at hrecording
    | false => simp [Demuxer.stopRecording, hidle] at hrecording
  | close =>
    rw [Request.call, Demuxer.step, Option.some.injEq] at hd
    subst hd
    apply iff_of_true _ trivial
    intro hrecording
    simp at hrecording
  | work w =>
    exact iff_of_true (h.bound.of_keeps (Demuxer.work_keeps hd) (Demuxer.work_isRecording hd))
      trivial

/-- A recording stays with its input throughout a run exactly when no media is opened while
one is recorded. -/
theorem each_bound_iff (requests : List Request) :
    Each step (fun _ _ r' => r'.Bound) new requests ↔
      Each step (fun r q _ => r.Apart q) new requests := by
  apply each_iff _ _ requests invariant_new
  · intro r q r' hr hstep
    exact hr.bound_iff hstep
  · intro r q r' hr hapart hstep
    have hbound := (hr.bound_iff hstep).mpr hapart
    rw [step, Option.map_eq_some_iff] at hstep
    rcases hstep with ⟨d, hd, rfl⟩
    exact ⟨Demuxer.step_coherent hd hr.coherent, step_allocated hr.allocated hd, hbound⟩

/-- Opening another stream leaves the recorder with the closed context of the first. -/
theorem not_each_bound_reopened :
    ¬Each step (fun _ _ r' => r'.Bound) new
      [.open "rtsp://a" Demuxer.decodeAll false (Demuxer.videoProbe 0), .startRecording .ready,
        .open "rtsp://b" Demuxer.decodeAll false (Demuxer.videoProbe 0)] := by
  intro h
  have hinput := (h.2.2.1 (by decide)).1
  revert hinput
  decide

end Recorded

end DecoderSDK.Lifecycle
