import DecoderSDK.Playback.Controller

/-! # The resampler of the audio decoder

The decode loop keeps the speed that it has last seen, and sets the resampler
up again when the speed differs from it. The loop begins with the speed of
that moment, while the resampler is the one that the loops before have left.
A step of the loop is one access to the speed; `setSpeed` may come between
any two of them.
-/
namespace DecoderSDK.Audio
open Interleaving

structure Codec where
  sampleRate : ℕ
  channelLayout : ℕ
  sampleFmt : ℕ
  deriving DecidableEq

/-- A resampler between the layout, format and rate of a codec and another rate. -/
structure SwrContext where
  codec : Codec
  outSampleRate : ℕ
  deriving DecidableEq

/-- Where the decode loop stands: at its beginning, before a frame, with the update of the
resampler ahead, with the speed still to be kept, and behind the update. -/
inductive LoopPc where
  | entering
  | receiving
  | initialising
  | storing
  | evaluated
  deriving DecidableEq

/-- `speed` and `lastSpeed` count thousandths. -/
structure AudioDecoder where
  speed : ℕ
  codecCtx : Option Codec
  isOpened : Bool
  isStarted : Bool
  needResample : Bool
  swrCtx : Option SwrContext
  thread : Option LoopPc
  lastSpeed : ℕ
  deriving DecidableEq

/-- How far the opening of a codec gets: none is found, no context is allocated, the context
cannot be opened, or the codec is open. -/
inductive OpenResult where
  | noCodec
  | noContext
  | failed (codec : Codec)
  | opened (codec : Codec)

/-- The speed is so close to 1 that nothing is resampled. -/
def unit (speed : ℕ) : Bool := decide (990 < speed) && decide (speed < 1010)

def outSampleRate (codec : Codec) (speed : ℕ) : ℕ := codec.sampleRate * speed / 1000

namespace AudioDecoder

def new : AudioDecoder := ⟨1000, none, false, false, false, none, none, 1000⟩

def setSpeed (s : AudioDecoder) (speed : Float) : AudioDecoder :=
  if !Playback.Decoder.acceptsSpeed speed then s
  else { s with speed := Playback.Decoder.storedSpeed speed }

/-- The decode loop has ended when `stop` goes on. -/
def stopInternal (s : AudioDecoder) : Option AudioDecoder :=
  if !s.isStarted then some s
  else if s.thread.isSome then none
  else some { s with isStarted := false }

def closeInternal (s : AudioDecoder) : Option AudioDecoder :=
  s.stopInternal.map fun s =>
    if !s.isOpened then s else { s with codecCtx := none, isOpened := false }

def openInternal (s : AudioDecoder) (result : OpenResult) : Option AudioDecoder :=
  (if s.isOpened then s.closeInternal else some s).map fun s =>
    match result with
    | .noCodec => s
    | .noContext => { s with codecCtx := none }
    | .failed codec => { s with codecCtx := some codec }
    | .opened codec => { s with codecCtx := some codec, isOpened := true }

/-- The name of the codec is read after the thread has been started. -/
def startInternal (s : AudioDecoder) (packetQueue : Bool) : Option AudioDecoder :=
  if s.isStarted || !packetQueue then some s
  else match s.codecCtx with
    | none => none
    | some _ => some { s with isStarted := true, thread := some .entering }

/-- `swr_init` succeeds. -/
def initResampleContext (s : AudioDecoder) (codec : Codec) : AudioDecoder :=
  if unit s.speed then { s with needResample := false, swrCtx := none }
  else { s with needResample := true, swrCtx := some ⟨codec, outSampleRate codec s.speed⟩ }

def needResampleUpdate (s : AudioDecoder) : Bool := decide (s.speed ≠ s.lastSpeed)

inductive Action where
  | setSpeed (speed : Float)
  | open (result : OpenResult)
  | start (packetQueue : Bool)
  | stop
  | close
  | enter
  | evaluate
  | initialise
  | store
  | next
  | leave

/-- A step of the decode loop, with the codec that its frames come from. -/
def loopStep (s : AudioDecoder) (codec : Codec) : Action → LoopPc → Option AudioDecoder
  | .enter, .entering => some { s with lastSpeed := s.speed, thread := some .receiving }
  | .evaluate, .receiving =>
    some { s with thread := some (if s.needResampleUpdate then .initialising else .evaluated) }
  | .initialise, .initialising =>
    some { s.initResampleContext codec with thread := some .storing }
  | .store, .storing => some { s with lastSpeed := s.speed, thread := some .evaluated }
  | .next, .evaluated => some { s with thread := some .receiving }
  | .leave, .receiving => some { s with thread := none }
  | .leave, .evaluated => some { s with thread := none }
  | _, _ => none

def step (s : AudioDecoder) : Action → Option AudioDecoder
  | .setSpeed speed => some (s.setSpeed speed)
  | .open result => s.openInternal result
  | .start packetQueue => s.startInternal packetQueue
  | .stop => s.stopInternal
  | .close => s.closeInternal
  | action => s.codecCtx.bind fun codec => s.thread.bind (s.loopStep codec action)

/-- The resampler is the one for a speed and the codec: there is one exactly where the speed
is not 1, and it was set up for both. -/
def FitsAt (s : AudioDecoder) (speed : ℕ) : Prop :=
  ∃ codec, s.codecCtx = some codec ∧ s.needResample = !unit speed ∧
    (s.needResample = true → s.swrCtx = some ⟨codec, outSampleRate codec speed⟩)

def Fits (s : AudioDecoder) : Prop := s.FitsAt s.speed

/-- How the next frame is resampled. -/
def resampling (s : AudioDecoder) : Bool × Option SwrContext :=
  (s.needResample, if s.needResample then s.swrCtx else none)

/-- The step was the last one of an evaluation. -/
def Evaluates (a : Action) (s : AudioDecoder) : Prop :=
  match a with
  | .evaluate => s.thread = some .evaluated
  | .store => True
  | _ => False

/-- The condition: a loop begins with a resampler that fits, only an open decoder is started,
and the speed does not change between the update and the note of the speed. -/
def Proper (s : AudioDecoder) (a : Action) (s' : AudioDecoder) : Prop :=
  match a with
  | .enter => s.Fits
  | .start packetQueue => packetQueue = true → s.isStarted = false → s.isOpened = true
  | .setSpeed _ => s.thread = some .storing →
      s'.speed = s.speed ∨ (unit s.speed = true ∧ unit s'.speed = true)
  | _ => True

/-- What the resampler fits at each point of the loop. -/
def ThreadOk (s : AudioDecoder) : Option LoopPc → Prop
  | none => True
  | some .entering => True
  | some .storing => s.FitsAt s.speed
  | some _ => s.FitsAt s.lastSpeed

structure Invariant (s : AudioDecoder) : Prop where
  thread : s.ThreadOk s.thread
  running : s.thread.isSome = true → s.isStarted = true
  started : s.isStarted = true → s.isOpened = true

theorem invariant_new : Invariant new where
  thread := trivial
  running := by
    intro h
    cases h
  started := by
    intro h
    cases h

/-- Close to 1, every speed has the same setting. -/
theorem FitsAt.of_unit {s : AudioDecoder} {speed speed' : ℕ} (h : s.FitsAt speed)
    (hunit : unit speed = true) (hunit' : unit speed' = true) : s.FitsAt speed' := by
  rcases h with ⟨codec, hcodec, hneed, -⟩
  rw [hunit, Bool.not_true] at hneed
  refine ⟨codec, hcodec, by rw [hneed, hunit']; rfl, ?_⟩
  intro htrue
  rw [hneed] at htrue
  cases htrue

theorem initResampleContext_fits {s : AudioDecoder} {codec : Codec}
    (hcodec : s.codecCtx = some codec) :
    (s.initResampleContext codec).FitsAt s.speed := by
  unfold initResampleContext
  cases hunit : unit s.speed with
  | true =>
    refine ⟨codec, hcodec, by rw [hunit]; rfl, ?_⟩
    intro h
    cases h
  | false =>
    exact ⟨codec, hcodec, by rw [hunit]; rfl, fun _ => rfl⟩

/-- A resampler that fits is determined by the speed and the codec. -/
theorem FitsAt.resampling_eq {s t : AudioDecoder} {speed : ℕ} (hs : s.FitsAt speed)
    (ht : t.FitsAt speed) (hcodec : s.codecCtx = t.codecCtx) : s.resampling = t.resampling := by
  rcases hs with ⟨codec, hsc, hsn, hswr⟩
  rcases ht with ⟨codec', htc, htn, htwr⟩
  rw [hsc, htc, Option.some.injEq] at hcodec
  subst hcodec
  unfold resampling
  rw [htn.trans hsn.symm]
  cases hneed : s.needResample with
  | false => rfl
  | true => rw [hswr hneed, htwr (htn.trans (hsn.symm.trans hneed))]

theorem setSpeed_eq (s : AudioDecoder) (speed : Float) :
    s.setSpeed speed = { s with speed := (s.setSpeed speed).speed } := by
  unfold setSpeed
  split <;> rfl

namespace Invariant

variable {s s' : AudioDecoder}

/-- Stopping waits for the loop. -/
theorem stopInternal (h : Invariant s) (hstop : s.stopInternal = some s') :
    Invariant s' ∧ s'.isStarted = false ∧ s'.thread = none := by
  unfold AudioDecoder.stopInternal at hstop
  cases hstarted : s.isStarted with
  | false =>
    rw [hstarted] at hstop
    rw [← Option.some.inj hstop]
    refine ⟨h, hstarted, ?_⟩
    cases hthread : s.thread with
    | none => rfl
    | some pc =>
      have hrunning := h.running (by rw [hthread]; rfl)
      rw [hstarted] at hrunning
      cases hrunning
  | true =>
    simp only [hstarted, Bool.not_true, Bool.false_eq_true, if_false, Option.ite_none_left_eq_some,
      Option.some.injEq, Bool.not_eq_true, Option.isSome_eq_false_iff, Option.isNone_iff_eq_none]
      at hstop
    rcases hstop with ⟨hthread, rfl⟩
    refine ⟨⟨?_, ?_, ?_⟩, rfl, hthread⟩
    · simp only [hthread]
      trivial
    · intro hsome
      simp only [hthread] at hsome
      cases hsome
    · intro hfalse
      cases hfalse

/-- A decoder that stands still may change its codec. -/
theorem of_stopped (hstarted : s.isStarted = false) (hthread : s.thread = none) : Invariant s where
  thread := by
    rw [hthread]
    trivial
  running := by
    intro h
    rw [hthread] at h
    cases h
  started := by
    intro h
    rw [hstarted] at h
    cases h

theorem closeInternal (h : Invariant s) (hclose : s.closeInternal = some s') :
    s'.isStarted = false ∧ s'.thread = none := by
  rw [AudioDecoder.closeInternal, Option.map_eq_some_iff] at hclose
  rcases hclose with ⟨t, ht, rfl⟩
  rcases h.stopInternal ht with ⟨-, hstarted, hthread⟩
  split <;> exact ⟨hstarted, hthread⟩

theorem openInternal (h : Invariant s) {result : OpenResult}
    (hopen : s.openInternal result = some s') : Invariant s' := by
  rw [AudioDecoder.openInternal, Option.map_eq_some_iff] at hopen
  rcases hopen with ⟨t, ht, rfl⟩
  have hstopped : t.isStarted = false ∧ t.thread = none := by
    cases hopened : s.isOpened with
    | true =>
      rw [hopened, if_pos rfl] at ht
      exact h.closeInternal ht
    | false =>
      rw [hopened, if_neg Bool.false_ne_true, Option.some.injEq] at ht
      subst ht
      have hnot : s.isStarted = false := by
        by_contra hstarted
        rw [h.started (by simpa using hstarted)] at hopened
        cases hopened
      refine ⟨hnot, ?_⟩
      by_contra hthread
      have hrunning := h.running (Option.isSome_iff_ne_none.mpr hthread)
      rw [hnot] at hrunning
      cases hrunning
  cases result <;> exact of_stopped hstopped.1 hstopped.2

theorem startInternal (h : Invariant s) {packetQueue : Bool}
    (hproper : packetQueue = true → s.isStarted = false → s.isOpened = true)
    (hstart : s.startInternal packetQueue = some s') : Invariant s' := by
  unfold AudioDecoder.startInternal at hstart
  split at hstart
  · rw [← Option.some.inj hstart]
    exact h
  · next hguard =>
    simp only [Bool.or_eq_true, Bool.not_eq_true', not_or, Bool.not_eq_true,
      Bool.not_eq_false] at hguard
    split at hstart
    · cases hstart
    · rw [← Option.some.inj hstart]
      exact ⟨trivial, fun _ => rfl, fun _ => hproper hguard.2 hguard.1⟩

theorem setSpeed (h : Invariant s) (speed : Float)
    (hproper : s.thread = some .storing → (s.setSpeed speed).speed = s.speed ∨
      (unit s.speed = true ∧ unit (s.setSpeed speed).speed = true)) :
    Invariant (s.setSpeed speed) := by
  have hthread := h.thread
  rw [setSpeed_eq] at hproper ⊢
  generalize (s.setSpeed speed).speed = k at hproper ⊢
  refine ⟨?_, h.running, h.started⟩
  cases hpc : s.thread with
  | none => trivial
  | some pc =>
    rw [hpc] at hthread
    cases pc with
    | storing =>
      rcases hproper hpc with hsame | ⟨hunit, hunit'⟩
      · subst hsame
        exact hthread
      · exact FitsAt.of_unit (s := s) hthread hunit hunit'
    | entering => trivial
    | receiving => exact hthread
    | initialising => exact hthread
    | evaluated => exact hthread

/-- The evaluation ends here when the speed is still the one that was stored. -/
theorem evaluate (h : Invariant s) {codec : Codec} (hpc : s.thread = some .receiving)
    (hstep : s.loopStep codec .evaluate .receiving = some s') :
    Invariant s' ∧ (Evaluates .evaluate s' → s'.Fits) := by
  have hthread := h.thread
  have hrunning : s.isStarted = true := h.running (by rw [hpc]; rfl)
  rw [hpc] at hthread
  rw [AudioDecoder.loopStep, Option.some.injEq] at hstep
  subst hstep
  by_cases hsame : s.speed = s.lastSpeed
  · have hno : s.needResampleUpdate = false := by simp [needResampleUpdate, hsame]
    refine ⟨⟨?_, fun _ => hrunning, h.started⟩, ?_⟩
    · simp only [hno]
      exact hthread
    · intro _
      have hfits : s.FitsAt s.lastSpeed := hthread
      rw [← hsame] at hfits
      exact hfits
  · have hyes : s.needResampleUpdate = true := by simp [needResampleUpdate, hsame]
    refine ⟨⟨?_, fun _ => hrunning, h.started⟩, ?_⟩
    · simp only [hyes]
      exact hthread
    · intro hevaluated
      simp only [Evaluates, hyes, if_true, Option.some.injEq, reduceCtorEq] at hevaluated

/-- A resampler that was just initialised fits the speed. -/
theorem initialise (h : Invariant s) {codec : Codec} (hcodec : s.codecCtx = some codec)
    (hpc : s.thread = some .initialising)
    (hstep : s.loopStep codec .initialise .initialising = some s') :
    Invariant s' ∧ (Evaluates .initialise s' → s'.Fits) := by
  have hrunning : s.isStarted = true := h.running (by rw [hpc]; rfl)
  rw [AudioDecoder.loopStep, Option.some.injEq] at hstep
  subst hstep
  have hfits := initResampleContext_fits hcodec
  have hkept : (s.initResampleContext codec).speed = s.speed ∧
      (s.initResampleContext codec).isStarted = s.isStarted ∧
      (s.initResampleContext codec).isOpened = s.isOpened := by
    unfold initResampleContext
    split <;> exact ⟨rfl, rfl, rfl⟩
  refine ⟨⟨?_, fun _ => hkept.2.1.trans hrunning,
    fun _ => hkept.2.2.trans (h.started hrunning)⟩, fun hfalse => by cases hfalse⟩
  rw [← hkept.1] at hfits
  exact hfits

/-- A step of the loop, and what the end of an evaluation finds. -/
theorem loopStep (h : Invariant s) {codec : Codec} (hcodec : s.codecCtx = some codec) {a : Action}
    {pc : LoopPc} (hpc : s.thread = some pc) (hproper : s.Proper a s')
    (hstep : s.loopStep codec a pc = some s') :
    Invariant s' ∧ (Evaluates a s' → s'.Fits) := by
  have hthread := h.thread
  have hrunning : s.isStarted = true := h.running (by rw [hpc]; rfl)
  rw [hpc] at hthread
  cases a with
  | enter =>
    cases pc with
    | entering =>
      rw [AudioDecoder.loopStep, Option.some.injEq] at hstep
      subst hstep
      exact ⟨⟨hproper, fun _ => hrunning, h.started⟩, fun hfalse => by cases hfalse⟩
    | _ => cases hstep
  | evaluate =>
    cases pc with
    | receiving => exact h.evaluate hpc hstep
    | _ => cases hstep
  | initialise =>
    cases pc with
    | initialising => exact h.initialise hcodec hpc hstep
    | _ => cases hstep
  | store =>
    cases pc with
    | storing =>
      rw [AudioDecoder.loopStep, Option.some.injEq] at hstep
      subst hstep
      exact ⟨⟨hthread, fun _ => hrunning, h.started⟩, fun _ => hthread⟩
    | _ => cases hstep
  | next =>
    cases pc with
    | evaluated =>
      rw [AudioDecoder.loopStep, Option.some.injEq] at hstep
      subst hstep
      exact ⟨⟨hthread, fun _ => hrunning, h.started⟩, fun hfalse => by cases hfalse⟩
    | _ => cases hstep
  | leave =>
    cases pc with
    | receiving =>
      rw [AudioDecoder.loopStep, Option.some.injEq] at hstep
      subst hstep
      exact ⟨⟨trivial, fun hsome => (by cases hsome), h.started⟩, fun hfalse => by cases hfalse⟩
    | evaluated =>
      rw [AudioDecoder.loopStep, Option.some.injEq] at hstep
      subst hstep
      exact ⟨⟨trivial, fun hsome => (by cases hsome), h.started⟩, fun hfalse => by cases hfalse⟩
    | _ => cases hstep
  | _ => cases hstep

end Invariant

theorem step_fits {s s' : AudioDecoder} {a : Action} (h : Invariant s) (hproper : s.Proper a s')
    (hstep : s.step a = some s') : Invariant s' ∧ (Evaluates a s' → s'.Fits) := by
  have hloop : ∀ {a : Action}, s.Proper a s' →
      (s.codecCtx.bind fun codec => s.thread.bind (s.loopStep codec a)) = some s' →
      Invariant s' ∧ (Evaluates a s' → s'.Fits) := by
    intro a hproper hbind
    rcases Option.bind_eq_some_iff.mp hbind with ⟨codec, hcodec, hrest⟩
    rcases Option.bind_eq_some_iff.mp hrest with ⟨pc, hpc, hmove⟩
    exact h.loopStep hcodec hpc hproper hmove
  cases a with
  | setSpeed speed =>
    rw [← Option.some.inj hstep] at hproper ⊢
    exact ⟨h.setSpeed speed hproper, fun hfalse => by cases hfalse⟩
  | «open» result => exact ⟨h.openInternal hstep, fun hfalse => by cases hfalse⟩
  | start packetQueue => exact ⟨h.startInternal hproper hstep, fun hfalse => by cases hfalse⟩
  | stop => exact ⟨(h.stopInternal hstep).1, fun hfalse => by cases hfalse⟩
  | close =>
    rcases h.closeInternal hstep with ⟨hstarted, hthread⟩
    exact ⟨.of_stopped hstarted hthread, fun hfalse => by cases hfalse⟩
  | enter => exact hloop hproper hstep
  | evaluate => exact hloop hproper hstep
  | initialise => exact hloop hproper hstep
  | store => exact hloop hproper hstep
  | next => exact hloop hproper hstep
  | leave => exact hloop hproper hstep

/-- A history ends with an evaluation, in the given state. -/
def EndsWith (actions : List Action) (s : AudioDecoder) : Prop :=
  ∃ before a t, actions = before ++ [a] ∧ run step new before = some t ∧ t.step a = some s ∧
    Evaluates a s

/-- Along histories that meet the condition, every evaluation finds the resampler for the
current speed and codec; two of them with the same speed and codec resample alike. -/
theorem resampler_follows_speed {actions actions' : List Action}
    (h : Each step Proper new actions) (h' : Each step Proper new actions') :
    Each step (fun _ a s => Evaluates a s → s.Fits) new actions ∧
      ∀ s t, EndsWith actions s → EndsWith actions' t → s.speed = t.speed →
        s.codecCtx = t.codecCtx → s.resampling = t.resampling := by
  have hfits : ∀ {actions : List Action}, Each step Proper new actions →
      Each step (fun _ a s => Evaluates a s → s.Fits) new actions := by
    intro actions hproper
    apply Each.of_invariant _ invariant_new hproper
    intro s a s' hs hG hstep
    exact step_fits hs hG hstep
  have hend : ∀ {actions : List Action} {s : AudioDecoder}, Each step Proper new actions →
      EndsWith actions s → s.Fits := by
    rintro actions s hproper ⟨before, a, t, rfl, hrun, hstep, hevaluates⟩
    have hlast := (hfits hproper).of_append hrun
    rw [each_cons hstep] at hlast
    exact hlast.1 hevaluates
  refine ⟨hfits h, ?_⟩
  intro s t hs ht hspeed hcodec
  have hs' : s.FitsAt s.speed := hend h hs
  have ht' : t.FitsAt t.speed := hend h' ht
  rw [← hspeed] at ht'
  exact hs'.resampling_eq ht' hcodec

/-- The start of playback. -/
def played (speed : Float) : List Action :=
  [.open (.opened ⟨48000, 3, 8⟩), .setSpeed speed, .start true, .enter, .evaluate]

theorem setSpeed_of_accepts (s : AudioDecoder) {speed : Float}
    (h : Playback.Decoder.acceptsSpeed speed = true) :
    s.setSpeed speed = { s with speed := Playback.Decoder.storedSpeed speed } := by
  rw [setSpeed, h]
  rfl

theorem setSpeed_one (s : AudioDecoder) : s.setSpeed 1 = { s with speed := 1000 } := by
  have hstored : Playback.Decoder.storedSpeed 1 = 1000 := by decide +kernel
  rw [s.setSpeed_of_accepts (by decide +kernel), hstored]

theorem setSpeed_oneAndHalf (s : AudioDecoder) :
    s.setSpeed (3 / 2) = { s with speed := 1500 } := by
  have hstored : Playback.Decoder.storedSpeed (3 / 2) = 1500 := by decide +kernel
  rw [s.setSpeed_of_accepts (by decide +kernel), hstored]

theorem resampler_follows_change :
    Each step (fun _ a s => Evaluates a s → s.Fits) new
        (played 1 ++ [.next, .setSpeed (3 / 2), .evaluate, .initialise, .store]) ∧
      ∀ s t, EndsWith (played 1 ++ [.next, .setSpeed (3 / 2), .evaluate, .initialise, .store]) s →
        EndsWith (played 1) t → s.speed = t.speed → s.codecCtx = t.codecCtx →
        s.resampling = t.resampling := by
  have hproper : Each step Proper new
      (played 1 ++ [.next, .setSpeed (3 / 2), .evaluate, .initialise, .store]) := by
    simp [Each, played, step, setSpeed_one, setSpeed_oneAndHalf, Proper, Fits, FitsAt, unit, new,
      openInternal, startInternal, loopStep, needResampleUpdate, initResampleContext]
  have hplayed : Each step Proper new (played 1) := by
    simp [Each, played, step, setSpeed_one, Proper, Fits, FitsAt, unit, new,
      openInternal, startInternal, loopStep, needResampleUpdate]
  exact resampler_follows_speed hproper hplayed

/-- A decoder that is started at one and a half times the speed does not resample. -/
theorem resampler_fails_at_start :
    ¬Each step (fun _ a s => Evaluates a s → s.Fits) new (played (3 / 2)) := by
  simp [Each, played, step, setSpeed_oneAndHalf, Fits, FitsAt, unit, new, Evaluates,
    openInternal, startInternal, loopStep, needResampleUpdate]

end AudioDecoder

end DecoderSDK.Audio
