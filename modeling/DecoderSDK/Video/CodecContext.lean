import DecoderSDK.Interleaving.Runs

/-! # The codec context of the video decoder

The calls of a decoder and its decode thread read the codec context for their
events without a test that there is one, a call after it has done its work: the
thread goes on in between. The thread replaces a hardware context by a software
one when the hardware cannot decode: it frees the old context, allocates another
and opens it, and may fail at each of these.
-/
namespace DecoderSDK.Video
open Interleaving

/-- A codec context; `hwDevice` says that its `hw_device_ctx` is set. -/
structure CodecContext where
  hwDevice : Bool
  deriving DecidableEq

/-- Where the decode thread stands: in its loop, or in `reinitializeWithSoftwareDecoder` before
or after the new context is allocated. -/
inductive ThreadPc where
  | decoding
  | reallocating
  | reopening
  deriving DecidableEq

structure VideoDecoder where
  enableHardwareFallback : Bool
  codecCtx : Option CodecContext
  isOpened : Bool
  isStarted : Bool
  isPaused : Bool
  thread : Option ThreadPc
  readFirstFrame : Bool
  /-- How often the call under way has still to read the context, for its event. -/
  eventReads : ℕ
  /-- A codec context was read where there is none. -/
  nullRead : Bool
  deriving DecidableEq

/-- How far the opening of a codec gets: there is no format context, no stream or no codec, no
context is allocated, its parameters are not taken or it is not opened, or the codec is open. -/
inductive OpenResult where
  | noCodec
  | noContext
  | failed (hwDevice : Bool)
  | opened (hwDevice : Bool)

/-- The answers of FFmpeg to the fallback before the new context is opened. -/
inductive Reallocation where
  | noFormatContext
  | noStream
  | noCodec
  | noContext
  | allocated
  deriving DecidableEq

/-- What follows the allocation. -/
inductive Reopening where
  | parametersFail
  | openFails
  | opened
  deriving DecidableEq

namespace VideoDecoder

def new (enableHardwareFallback : Bool) : VideoDecoder :=
  ⟨enableHardwareFallback, none, false, false, false, none, false, 0, false⟩

/-- The codec context is read. -/
def dereference (s : VideoDecoder) : VideoDecoder :=
  { s with nullRead := s.nullRead || s.codecCtx.isNone }

/-- The decode thread has ended when `stop` goes on, and nothing comes between its reads. -/
def stopInternal (s : VideoDecoder) : Option VideoDecoder :=
  if !s.isStarted then some s
  else if s.thread.isSome then none
  else some { s with isPaused := false, isStarted := false }.dereference

def closeInternal (s : VideoDecoder) : Option VideoDecoder :=
  s.stopInternal.map fun s =>
    if !s.isOpened then s else { s with codecCtx := none, isOpened := false }

def openInternal (s : VideoDecoder) (result : OpenResult) : Option VideoDecoder :=
  (if s.isOpened then s.closeInternal else some s).map fun s =>
    match result with
    | .noCodec => s
    | .noContext => { s with codecCtx := none }
    | .failed hwDevice => { s with codecCtx := some ⟨hwDevice⟩ }
    | .opened hwDevice => { s with codecCtx := some ⟨hwDevice⟩, isOpened := true }

/-- The event of a call reads the name of the codec and the hardware device. -/
def raiseEvent (s : VideoDecoder) : VideoDecoder := { s with eventReads := 2 }

def startInternal (s : VideoDecoder) (packetQueue : Bool) : VideoDecoder :=
  if s.isStarted || !packetQueue then s
  else
    { s with
      thread := some .decoding, readFirstFrame := false, isStarted := true }.raiseEvent

def pauseInternal (s : VideoDecoder) : VideoDecoder :=
  if !s.isOpened || !s.isStarted || s.isPaused then s
  else { s with isPaused := true }.raiseEvent

def resumeInternal (s : VideoDecoder) : VideoDecoder :=
  if !s.isOpened || !s.isStarted || !s.isPaused then s
  else { s with isPaused := false }.raiseEvent

/-- The call under way reads the context. -/
def readForEvent (s : VideoDecoder) : Option VideoDecoder :=
  if s.eventReads = 0 then none
  else some { s with eventReads := s.eventReads - 1 }.dereference

/-- Invalid data is answered with a fallback, once the error has lasted long enough. -/
def shouldFallbackToSoftware (s : VideoDecoder) : Bool :=
  !s.readFirstFrame && s.enableHardwareFallback && s.codecCtx.any CodecContext.hwDevice

inductive Action where
  | open (result : OpenResult)
  | start (packetQueue : Bool)
  | pause
  | resume
  | stop
  | close
  | readForEvent
  /-- The first frame, an error and the end of the errors, with their events. -/
  | handleFirstFrame
  | handleDecodeError
  | handleDecodeRecovery
  /-- The thread goes on after a pause. -/
  | goOn
  | fallback
  | reallocate (result : Reallocation)
  | reopen (result : Reopening)
  | leave

/-- A step of the decode thread. A fallback that fails ends the loop. -/
def threadStep (s : VideoDecoder) : Action → ThreadPc → Option VideoDecoder
  | .handleFirstFrame, .decoding => some { s with readFirstFrame := true }.dereference
  | .handleDecodeError, .decoding => some s.dereference
  | .handleDecodeRecovery, .decoding => some s.dereference
  | .goOn, .decoding => some { s with readFirstFrame := false }
  | .fallback, .decoding =>
    if s.shouldFallbackToSoftware then
      some { s with codecCtx := none, thread := some .reallocating }
    else none
  | .reallocate .allocated, .reallocating =>
    some { s with codecCtx := some ⟨false⟩, thread := some .reopening }
  | .reallocate _, .reallocating => some { s with thread := none }
  | .reopen .opened, .reopening => some { s with thread := some .decoding }
  | .reopen _, .reopening => some { s with codecCtx := none, thread := none }
  | .leave, .decoding => some { s with thread := none }
  | _, _ => none

/-- A call waits for the mutex that the call under way holds. -/
def guarded (s : VideoDecoder) (next : Option VideoDecoder) : Option VideoDecoder :=
  if s.eventReads = 0 then next else none

def step (s : VideoDecoder) : Action → Option VideoDecoder
  | .open result => s.guarded (s.openInternal result)
  | .start packetQueue => s.guarded (some (s.startInternal packetQueue))
  | .pause => s.guarded (some s.pauseInternal)
  | .resume => s.guarded (some s.resumeInternal)
  | .stop => s.guarded s.stopInternal
  | .close => s.guarded s.closeInternal
  | .readForEvent => s.readForEvent
  | action => s.thread.bind (s.threadStep action)

/-- The condition: only an open decoder is started, every fallback succeeds, and no call reads for
its event between the old context and the new one. -/
def Proper (s : VideoDecoder) : Action → Prop
  | .start packetQueue => packetQueue = true → s.isStarted = false → s.isOpened = true
  | .readForEvent => s.thread ≠ some .reallocating
  | .reallocate result => result = .allocated
  | .reopen result => result = .opened
  | _ => True

/-- An open decoder has its context, but for the moments of a fallback. -/
structure Invariant (s : VideoDecoder) : Prop where
  context : s.isOpened = true → s.thread ≠ some .reallocating → s.codecCtx.isSome = true
  running : s.thread.isSome = true → s.isStarted = true
  started : s.isStarted = true → s.isOpened = true
  /-- Calls that leave a decoder stopped have no event to raise later. -/
  events : s.isStarted = false → s.eventReads = 0
  nullRead : s.nullRead = false

theorem invariant_new (enableHardwareFallback : Bool) :
    Invariant (new enableHardwareFallback) where
  context := by
    intro h
    cases h
  running := by
    intro h
    cases h
  started := by
    intro h
    cases h
  events := fun _ => rfl
  nullRead := rfl

namespace Invariant

variable {s s' : VideoDecoder}

/-- Where there is a context, it may be read. -/
theorem dereference (h : Invariant s) (hcontext : s.codecCtx.isSome = true) :
    Invariant s.dereference where
  context := h.context
  running := h.running
  started := h.started
  events := h.events
  nullRead := by
    rw [VideoDecoder.dereference, h.nullRead, Bool.false_or]
    simpa using hcontext

theorem context_of_running (h : Invariant s) (hstarted : s.isStarted = true)
    (hthread : s.thread ≠ some .reallocating) : s.codecCtx.isSome = true :=
  h.context (h.started hstarted) hthread

/-- A decoder that is not started has no thread. -/
theorem thread_of_stopped (h : Invariant s) (hstarted : s.isStarted = false) :
    s.thread = none := by
  by_contra hthread
  have hrunning := h.running (Option.isSome_iff_ne_none.mpr hthread)
  rw [hstarted] at hrunning
  cases hrunning

theorem stopInternal (h : Invariant s) (hfree : s.eventReads = 0)
    (hstop : s.stopInternal = some s') :
    Invariant s' ∧ s'.isStarted = false ∧ s'.eventReads = 0 := by
  unfold VideoDecoder.stopInternal at hstop
  cases hstarted : s.isStarted with
  | false =>
    rw [hstarted] at hstop
    rw [← Option.some.inj hstop]
    exact ⟨h, hstarted, hfree⟩
  | true =>
    simp only [hstarted, Bool.not_true, Bool.false_eq_true, if_false, Option.ite_none_left_eq_some,
      Option.some.injEq, Bool.not_eq_true, Option.isSome_eq_false_iff, Option.isNone_iff_eq_none]
      at hstop
    rcases hstop with ⟨hthread, rfl⟩
    have hnot : s.thread ≠ some .reallocating := by simp [hthread]
    have hstopped : Invariant { s with isPaused := false, isStarted := false } := by
      refine ⟨h.context, ?_, ?_, fun _ => hfree, h.nullRead⟩
      · intro hsome
        simp only [hthread] at hsome
        cases hsome
      · intro hfalse
        cases hfalse
    exact ⟨hstopped.dereference (h.context_of_running hstarted hnot), rfl, hfree⟩

theorem closeInternal (h : Invariant s) (hfree : s.eventReads = 0)
    (hclose : s.closeInternal = some s') : Invariant s' ∧ s'.isStarted = false := by
  rw [VideoDecoder.closeInternal, Option.map_eq_some_iff] at hclose
  rcases hclose with ⟨t, ht, rfl⟩
  rcases h.stopInternal hfree ht with ⟨hinvariant, hstarted, hreads⟩
  split
  · exact ⟨hinvariant, hstarted⟩
  · refine ⟨⟨?_, hinvariant.running, ?_, fun _ => hreads, hinvariant.nullRead⟩, hstarted⟩
    · intro hfalse
      cases hfalse
    · intro htrue
      rw [hstarted] at htrue
      cases htrue

theorem openInternal (h : Invariant s) (hfree : s.eventReads = 0) {result : OpenResult}
    (hopen : s.openInternal result = some s') : Invariant s' := by
  rw [VideoDecoder.openInternal, Option.map_eq_some_iff] at hopen
  rcases hopen with ⟨t, ht, rfl⟩
  have hclosed : Invariant t ∧ t.isStarted = false ∧ t.isOpened = false := by
    cases hopened : s.isOpened with
    | true =>
      rw [hopened, if_pos rfl] at ht
      rcases h.closeInternal hfree ht with ⟨hinvariant, hstarted⟩
      refine ⟨hinvariant, hstarted, ?_⟩
      rw [VideoDecoder.closeInternal, Option.map_eq_some_iff] at ht
      rcases ht with ⟨u, -, rfl⟩
      split
      · next hnot => simpa using hnot
      · rfl
    | false =>
      rw [hopened, if_neg Bool.false_ne_true, Option.some.injEq] at ht
      subst ht
      refine ⟨h, ?_, hopened⟩
      by_contra hstarted
      rw [h.started (by simpa using hstarted)] at hopened
      cases hopened
  rcases hclosed with ⟨hinvariant, hstarted, hopened⟩
  have hidle : ∀ {p : Prop}, t.isStarted = true → p := by
    intro p htrue
    rw [hstarted] at htrue
    cases htrue
  cases result with
  | noCodec => exact hinvariant
  | noContext =>
    refine ⟨?_, hinvariant.running, hinvariant.started, hinvariant.events, hinvariant.nullRead⟩
    intro htrue
    simp only [hopened] at htrue
    cases htrue
  | failed hwDevice =>
    exact ⟨fun _ _ => rfl, hinvariant.running, hinvariant.started, hinvariant.events,
      hinvariant.nullRead⟩
  | opened hwDevice =>
    exact ⟨fun _ _ => rfl, hinvariant.running, fun htrue => hidle htrue, hinvariant.events,
      hinvariant.nullRead⟩

theorem startInternal (h : Invariant s) {packetQueue : Bool}
    (hproper : packetQueue = true → s.isStarted = false → s.isOpened = true) :
    Invariant (s.startInternal packetQueue) := by
  unfold VideoDecoder.startInternal
  split
  · exact h
  · next hguard =>
    simp only [Bool.or_eq_true, Bool.not_eq_true', not_or, Bool.not_eq_true,
      Bool.not_eq_false] at hguard
    have hopened := hproper hguard.2 hguard.1
    have hcontext : s.codecCtx.isSome = true :=
      h.context hopened (by simp [h.thread_of_stopped hguard.1])
    refine ⟨fun _ _ => hcontext, fun _ => rfl, fun _ => hopened, ?_, h.nullRead⟩
    intro hfalse
    cases hfalse

/-- A call that leaves a started decoder raises its event. -/
theorem setPaused (h : Invariant s) (hstarted : s.isStarted = true) (isPaused : Bool) :
    Invariant { s with isPaused := isPaused }.raiseEvent := by
  refine ⟨h.context, h.running, h.started, ?_, h.nullRead⟩
  intro hfalse
  simp only [raiseEvent, hstarted] at hfalse
  cases hfalse

theorem pauseInternal (h : Invariant s) : Invariant s.pauseInternal := by
  unfold VideoDecoder.pauseInternal
  split
  · exact h
  · next hguard =>
    simp only [Bool.or_eq_true, Bool.not_eq_true', not_or, Bool.not_eq_true,
      Bool.not_eq_false] at hguard
    exact h.setPaused hguard.1.2 true

theorem resumeInternal (h : Invariant s) : Invariant s.resumeInternal := by
  unfold VideoDecoder.resumeInternal
  split
  · exact h
  · next hguard =>
    simp only [Bool.or_eq_true, Bool.not_eq_true', not_or, Bool.not_eq_false] at hguard
    exact h.setPaused hguard.1.2 false

/-- A call reads the context outside of a fallback. -/
theorem readForEvent (h : Invariant s) (hthread : s.thread ≠ some .reallocating)
    (hread : s.readForEvent = some s') : Invariant s' := by
  rw [VideoDecoder.readForEvent, Option.ite_none_left_eq_some] at hread
  rw [Option.some.injEq] at hread
  rcases hread with ⟨hreads, rfl⟩
  have hstarted : s.isStarted = true := by
    by_contra hfalse
    exact hreads (h.events (by simpa using hfalse))
  have hread : Invariant { s with eventReads := s.eventReads - 1 } := by
    refine ⟨h.context, h.running, h.started, ?_, h.nullRead⟩
    intro hfalse
    simp only [hstarted] at hfalse
    cases hfalse
  exact hread.dereference (h.context_of_running hstarted hthread)

theorem threadStep (h : Invariant s) {a : Action} {pc : ThreadPc} (hpc : s.thread = some pc)
    (hproper : s.Proper a) (hstep : s.threadStep a pc = some s') : Invariant s' := by
  have hstarted : s.isStarted = true := h.running (by rw [hpc]; rfl)
  have hcontext : pc ≠ .reallocating → s.codecCtx.isSome = true := by
    intro hne
    apply h.context_of_running hstarted
    rw [hpc]
    simpa using hne
  cases a with
  | handleFirstFrame =>
    cases pc with
    | decoding =>
      rw [VideoDecoder.threadStep, Option.some.injEq] at hstep
      subst hstep
      have hread : Invariant { s with readFirstFrame := true } :=
        ⟨h.context, h.running, h.started, h.events, h.nullRead⟩
      exact hread.dereference (hcontext (by simp))
    | _ => cases hstep
  | handleDecodeError =>
    cases pc with
    | decoding =>
      rw [VideoDecoder.threadStep, Option.some.injEq] at hstep
      subst hstep
      exact h.dereference (hcontext (by simp))
    | _ => cases hstep
  | handleDecodeRecovery =>
    cases pc with
    | decoding =>
      rw [VideoDecoder.threadStep, Option.some.injEq] at hstep
      subst hstep
      exact h.dereference (hcontext (by simp))
    | _ => cases hstep
  | goOn =>
    cases pc with
    | decoding =>
      rw [VideoDecoder.threadStep, Option.some.injEq] at hstep
      subst hstep
      exact ⟨h.context, h.running, h.started, h.events, h.nullRead⟩
    | _ => cases hstep
  | fallback =>
    cases pc with
    | decoding =>
      rw [VideoDecoder.threadStep, Option.ite_none_right_eq_some] at hstep
      rw [Option.some.injEq] at hstep
      rcases hstep with ⟨-, rfl⟩
      exact ⟨fun _ hne => absurd rfl hne, fun _ => hstarted, h.started, h.events, h.nullRead⟩
    | _ => cases hstep
  | reallocate result =>
    have hallocated : result = .allocated := hproper
    subst hallocated
    cases pc with
    | reallocating =>
      rw [VideoDecoder.threadStep, Option.some.injEq] at hstep
      subst hstep
      exact ⟨fun _ _ => rfl, fun _ => hstarted, h.started, h.events, h.nullRead⟩
    | _ => cases hstep
  | reopen result =>
    have hopened : result = .opened := hproper
    subst hopened
    cases pc with
    | reopening =>
      rw [VideoDecoder.threadStep, Option.some.injEq] at hstep
      subst hstep
      exact ⟨fun _ _ => hcontext (by simp), fun _ => hstarted, h.started, h.events, h.nullRead⟩
    | _ => cases hstep
  | leave =>
    cases pc with
    | decoding =>
      rw [VideoDecoder.threadStep, Option.some.injEq] at hstep
      subst hstep
      exact ⟨fun _ _ => hcontext (by simp), fun hsome => (by cases hsome), h.started, h.events,
        h.nullRead⟩
    | _ => cases hstep
  | _ => cases hstep

end Invariant

theorem step_invariant {s s' : VideoDecoder} {a : Action} (h : Invariant s) (hproper : s.Proper a)
    (hstep : s.step a = some s') : Invariant s' := by
  have hthread : ∀ {a : Action}, s.Proper a → s.thread.bind (s.threadStep a) = some s' →
      Invariant s' := by
    intro a hproper hbind
    rcases Option.bind_eq_some_iff.mp hbind with ⟨pc, hpc, hmove⟩
    exact h.threadStep hpc hproper hmove
  have hcall : ∀ {next : Option VideoDecoder}, s.guarded next = some s' →
      s.eventReads = 0 ∧ next = some s' := by
    intro next hguarded
    exact Option.ite_none_right_eq_some.mp hguarded
  cases a with
  | «open» result => exact h.openInternal (hcall hstep).1 (hcall hstep).2
  | start packetQueue =>
    rw [← Option.some.inj (hcall hstep).2]
    exact h.startInternal hproper
  | pause =>
    rw [← Option.some.inj (hcall hstep).2]
    exact h.pauseInternal
  | resume =>
    rw [← Option.some.inj (hcall hstep).2]
    exact h.resumeInternal
  | stop => exact (h.stopInternal (hcall hstep).1 (hcall hstep).2).1
  | close => exact (h.closeInternal (hcall hstep).1 (hcall hstep).2).1
  | readForEvent => exact h.readForEvent hproper hstep
  | handleFirstFrame => exact hthread hproper hstep
  | handleDecodeError => exact hthread hproper hstep
  | handleDecodeRecovery => exact hthread hproper hstep
  | goOn => exact hthread hproper hstep
  | fallback => exact hthread hproper hstep
  | reallocate result => exact hthread hproper hstep
  | reopen result => exact hthread hproper hstep
  | leave => exact hthread hproper hstep

/-- In every run that meets the condition, the codec context is there whenever it is read. -/
theorem each_context_read {enableHardwareFallback : Bool} {actions : List Action}
    (h : Each step (fun s a _ => s.Proper a) (new enableHardwareFallback) actions) :
    Each step (fun _ _ s' => s'.nullRead = false) (new enableHardwareFallback) actions := by
  apply Each.of_invariant _ (invariant_new enableHardwareFallback) h
  intro s a s' hs hproper hstep
  have hinvariant := step_invariant hs hproper hstep
  exact ⟨hinvariant, hinvariant.nullRead⟩

/-- A decoder that falls back to software. -/
def fallbackRun : List Action :=
  [.open (.opened true), .start true, .readForEvent, .readForEvent, .fallback]

theorem each_context_read_fallback :
    Each step (fun _ _ s' => s'.nullRead = false) (new true)
      (fallbackRun ++ [.pause, .reallocate .allocated, .readForEvent, .reopen .opened,
        .readForEvent, .handleFirstFrame, .leave, .close]) := by
  apply each_context_read
  simp [Each, fallbackRun, step, guarded, Proper, new, openInternal, startInternal, threadStep,
    shouldFallbackToSoftware, dereference, raiseEvent, VideoDecoder.readForEvent, pauseInternal,
    closeInternal, stopInternal]

/-- A fallback that finds no software decoder leaves the decoder started and without a context,
and stopping it reads one. -/
theorem not_each_context_read :
    ¬Each step (fun _ _ s' => s'.nullRead = false) (new true)
      (fallbackRun ++ [.reallocate .noCodec, .stop]) := by
  decide

end VideoDecoder

end DecoderSDK.Video
