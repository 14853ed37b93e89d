import DecoderSDK.Lifecycle.Demuxer

/-! # Opening a media

Opening sets everything up or leaves the demuxer closed, except where going
back to the start of the input fails. A session starts like the first one of
a new demuxer, except that a pause and a queued seek outlive the close.
-/
namespace DecoderSDK.Lifecycle
open Interleaving
open PreBuffer (Config toUInt32)

namespace Demuxer

/-- The closed state. -/
structure Closed (d : Demuxer) : Prop where
  formatContext : d.formatContext = none
  isOpened : d.isOpened = false
  isStarted : d.isStarted = false
  streamIndex : ∀ m, d.streamIndex m = -1
  packetQueue : ∀ m, d.packetQueue m = none
  thread : d.thread = false

/-- Everything but the format context is as in a demuxer that is not open. -/
structure Released (d : Demuxer) : Prop where
  isOpened : d.isOpened = false
  isStarted : d.isStarted = false
  thread : d.thread = false
  url : d.url = ""
  isRealTime : d.isRealTime = false
  streamIndex : d.streamIndex = fun _ => -1
  packetQueue : d.packetQueue = fun _ => none
  preBufferEnabled : d.preBufferEnabled = false
  preBufferReady : d.preBufferReady = false

/-- The media is open and its thread runs. -/
structure Running (d : Demuxer) : Prop where
  isOpened : d.isOpened = true
  isStarted : d.isStarted = true
  thread : d.thread = true
  formatContext : d.formatContext.isSome = true

/-- What holds between any two calls. -/
def Coherent (d : Demuxer) : Prop := d.Released ∨ d.Running

theorem Coherent.running {d : Demuxer} (h : d.Coherent) (hopened : d.isOpened = true) :
    d.Running := by
  rcases h with hreleased | hrunning
  · rw [hreleased.isOpened] at hopened
    cases hopened
  · exact hrunning

theorem new_released : new.Released := by
  constructor <;> rfl

theorem Released.closed {d : Demuxer} (h : d.Released) (hcontext : d.formatContext = none) :
    d.Closed where
  formatContext := hcontext
  isOpened := h.isOpened
  isStarted := h.isStarted
  streamIndex m := by rw [h.streamIndex]
  packetQueue m := by rw [h.packetQueue]
  thread := h.thread

/-- Closing releases a media that is open and leaves a demuxer that is not open alone. -/
theorem closeInternal_of_released {d : Demuxer} (h : d.Released) : d.closeInternal = d := by
  simp [closeInternal, stop, h.isStarted, h.isOpened]

theorem closeInternal_of_running {d : Demuxer} (h : d.Running) :
    d.closeInternal.Released ∧ d.closeInternal.formatContext = none := by
  constructor
  · constructor <;>
      simp [closeInternal, stop, h.isStarted, h.isOpened, triggerEvent, clearPreBufferCallback]
  · simp [closeInternal, stop, h.isStarted, h.isOpened, triggerEvent, clearPreBufferCallback]

theorem closeInternal_released {d : Demuxer} (h : d.Coherent) : d.closeInternal.Released := by
  rcases h with hreleased | hrunning
  · rwa [closeInternal_of_released hreleased]
  · exact (closeInternal_of_running hrunning).1

/-- Opening first closes what is open. -/
def released (d : Demuxer) : Demuxer := if d.isOpened then d.closeInternal else d

theorem released_released {d : Demuxer} (h : d.Coherent) : d.released.Released := by
  unfold released
  split
  · exact closeInternal_released h
  · rcases h with hreleased | hrunning
    · exact hreleased
    · exact absurd hrunning.isOpened (by assumption)

/-- The demuxer when `avformat_open_input` has a context to work on. -/
def probed (d : Demuxer) (url : String) : Demuxer :=
  (d.released.triggerEvent .opening url none).openInput

/-- The demuxer after an open that did not find any streams. -/
def rejected (d : Demuxer) (url : String) : Demuxer :=
  { (d.probed url).triggerEvent .openFailed url none with formatContext := none }

section
variable (d : Demuxer) (url : String) (config : Config) (callback : Bool) {probe : Probe}

theorem openInternal_of_not_found (h : probe.found = false) :
    d.openInternal url config callback probe = (false, d.rejected url) := by
  unfold openInternal
  by_cases hopen : probe.openInput = 0
  · have hstreams : probe.findStreamInfo < 0 := by
      simpa [Probe.found, hopen] using h
    rw [if_neg (not_not.mpr hopen), if_pos hstreams]
    rfl
  · rw [if_pos hopen]
    rfl

theorem openInternal_of_found (h : probe.found = true) :
    d.openInternal url config callback probe =
      if probe.rewindFails then (false, d.probed url)
      else (true, ((d.probed url).establish url config callback probe).start.triggerEvent .opened
        url probe.totalTime) := by
  simp only [Probe.found, Bool.and_eq_true, decide_eq_true_eq] at h
  unfold openInternal
  rw [if_neg (not_not.mpr h.1), if_neg (not_lt.mpr h.2)]
  rfl

/-- All of the opened state. -/
structure Established (d : Demuxer) (url : String) (config : Config) (callback : Bool)
    (probe : Probe) : Prop where
  running : d.Running
  requestInterruption : d.requestInterruption = false
  url_eq : d.url = url
  isRealTime : d.isRealTime = isRealtime url
  streamIndex : d.streamIndex = probe.bestStream
  packetQueue : d.packetQueue = fun m =>
    if 0 ≤ probe.bestStream m ∧ config.decodeMediaType m = true then
      some (PacketQueue.new 1000).start
    else none
  preBufferEnabled : d.preBufferEnabled = (config.preBufferConfig.enablePreBuffer &&
    (decide (0 < toUInt32 config.preBufferConfig.videoPreBufferFrames) ||
      decide (0 < toUInt32 config.preBufferConfig.audioPreBufferPackets)))
  preBufferReady : d.preBufferReady = false
  preBufferConfig : config.preBufferConfig.enablePreBuffer = true →
    d.preBufferFrames .video = toUInt32 config.preBufferConfig.videoPreBufferFrames ∧
      d.preBufferFrames .audio = toUInt32 config.preBufferConfig.audioPreBufferPackets ∧
      d.requireBothStreams = config.preBufferConfig.requireBothStreams ∧
      d.preBufferReadyCallback = callback

theorem openInput_formatContext (d : Demuxer) : d.openInput.formatContext.isSome = true := by
  unfold openInput
  split
  · simp [*]
  · rfl

theorem probed_released (h : d.Coherent) : (d.probed url).Released := by
  have hreleased := released_released h
  unfold probed openInput
  split
  · exact ⟨hreleased.1, hreleased.2, hreleased.3, hreleased.4, hreleased.5, hreleased.6,
      hreleased.7, hreleased.8, hreleased.9⟩
  · exact ⟨hreleased.1, hreleased.2, hreleased.3, hreleased.4, hreleased.5, hreleased.6,
      hreleased.7, hreleased.8, hreleased.9⟩

theorem rejected_released (h : d.Coherent) : (d.rejected url).Released := by
  have hprobed := probed_released d url h
  exact ⟨hprobed.1, hprobed.2, hprobed.3, hprobed.4, hprobed.5, hprobed.6, hprobed.7, hprobed.8,
    hprobed.9⟩

theorem established_of_released {d : Demuxer} (probe : Probe) (h : d.Released)
    (hcontext : d.formatContext.isSome = true) :
    ((d.establish url config callback probe).start.triggerEvent .opened url
      probe.totalTime).Established url config callback probe := by
  have hqueue : ∀ m, d.packetQueue m = none := fun m => by rw [h.packetQueue]
  unfold establish
  cases henable : config.preBufferConfig.enablePreBuffer with
  | false =>
    constructor
    · constructor <;> simp [start, triggerEvent, h.isStarted, hcontext]
    all_goals simp [start, triggerEvent, h.isStarted, h.preBufferEnabled, h.preBufferReady, hqueue,
      henable]
  | true =>
    constructor
    · constructor <;> simp [start, triggerEvent, h.isStarted, hcontext, setPreBufferConfig]
    all_goals simp [start, triggerEvent, h.isStarted, hqueue, henable, setPreBufferConfig]

theorem openInternal_fst (probe : Probe) :
    (d.openInternal url config callback probe).1 = (probe.found && !probe.rewindFails) := by
  cases hfound : probe.found with
  | false => rw [openInternal_of_not_found d url config callback hfound, Bool.false_and]
  | true =>
    rw [openInternal_of_found d url config callback hfound]
    cases probe.rewindFails with
    | false => rfl
    | true => rfl

/-- Opening that succeeds takes the streams that were found. -/
theorem openInternal_streamIndex
    (hopen : (d.openInternal url config callback probe).1 = true) :
    (d.openInternal url config callback probe).2.streamIndex = probe.bestStream := by
  rw [openInternal_fst, Bool.and_eq_true, Bool.not_eq_true'] at hopen
  rw [openInternal_of_found d url config callback hopen.1, hopen.2, if_neg Bool.false_ne_true]
  unfold triggerEvent start establish
  split <;> split <;> rfl

/-- Opening that succeeds leaves the opened state. -/
theorem openInternal_established (h : d.Coherent)
    (hopen : (d.openInternal url config callback probe).1 = true) :
    (d.openInternal url config callback probe).2.Established url config callback probe := by
  rw [openInternal_fst, Bool.and_eq_true, Bool.not_eq_true'] at hopen
  rw [openInternal_of_found d url config callback hopen.1, hopen.2, if_neg Bool.false_ne_true]
  exact established_of_released url config callback probe (probed_released d url h)
    (openInput_formatContext _)

/-- Opening that fails leaves everything released but, possibly, the format context. -/
theorem openInternal_released (h : d.Coherent)
    (hopen : (d.openInternal url config callback probe).1 = false) :
    (d.openInternal url config callback probe).2.Released := by
  rw [openInternal_fst] at hopen
  cases hfound : probe.found with
  | false =>
    rw [openInternal_of_not_found d url config callback hfound]
    exact rejected_released d url h
  | true =>
    have hrewind : probe.rewindFails = true := by simpa [hfound] using hopen
    rw [openInternal_of_found d url config callback hfound, if_pos hrewind]
    exact probed_released d url h

theorem openInternal_isOpened (h : d.Coherent) :
    (d.openInternal url config callback probe).2.isOpened =
      (d.openInternal url config callback probe).1 := by
  cases hopen : (d.openInternal url config callback probe).1 with
  | false => exact (openInternal_released d url config callback h hopen).isOpened
  | true => exact (openInternal_established d url config callback h hopen).running.isOpened

/-- A media that is open afterwards was found, rewound, and is the one asked for. -/
theorem openInternal_opened (h : d.Coherent)
    (hopened : (d.openInternal url config callback probe).2.isOpened = true) :
    probe.found = true ∧ probe.rewindFails = false ∧
      (d.openInternal url config callback probe).2.url = url := by
  rw [openInternal_isOpened d url config callback h] at hopened
  have hurl := (openInternal_established d url config callback h hopened).url_eq
  rw [openInternal_fst, Bool.and_eq_true, Bool.not_eq_true'] at hopened
  exact ⟨hopened.1, hopened.2, hurl⟩

theorem openInternal_coherent (h : d.Coherent) (probe : Probe) :
    (d.openInternal url config callback probe).2.Coherent := by
  cases hopen : (d.openInternal url config callback probe).1 with
  | false => exact .inl (openInternal_released d url config callback h hopen)
  | true => exact .inr (openInternal_established d url config callback h hopen).running

end

theorem Coherent.of_keeps {d d' : Demuxer} (h : d.Coherent) (hkeeps : Keeps d d') :
    d'.Coherent := by
  rcases h with hreleased | hrunning
  · left
    constructor
    · rw [hkeeps.isOpened, hreleased.isOpened]
    · rw [hkeeps.isStarted, hreleased.isStarted]
    · rw [hkeeps.thread, hreleased.thread]
    · rw [hkeeps.url, hreleased.url]
    · rw [hkeeps.isRealTime, hreleased.isRealTime]
    · rw [hkeeps.streamIndex, hreleased.streamIndex]
    · ext1 m
      rw [← Option.not_isSome_iff_eq_none, hkeeps.packetQueue m, hreleased.packetQueue]
      simp
    · rw [hkeeps.preBufferEnabled, hreleased.preBufferEnabled]
    · rw [hkeeps.preBufferReady (by simp [hreleased.thread]), hreleased.preBufferReady]
  · right
    constructor
    · rw [hkeeps.isOpened, hrunning.isOpened]
    · rw [hkeeps.isStarted, hrunning.isStarted]
    · rw [hkeeps.thread, hrunning.thread]
    · rw [hkeeps.formatContext, hrunning.formatContext]

theorem close_released {d : Demuxer} (h : d.Coherent) : d.close.Released := by
  unfold close
  apply closeInternal_released
  split
  · exact h.of_keeps (stopRecording_keeps d)
  · exact h

theorem step_coherent {d d' : Demuxer} {c : Call} (hstep : d.step c = some d')
    (h : d.Coherent) : d'.Coherent := by
  rcases step_cases hstep with ⟨url, config, callback, probe, -, rfl⟩ | ⟨-, rfl⟩ | ⟨-, hkeeps⟩
  · exact openInternal_coherent d url config callback h probe
  · exact .inl (close_released h)
  · exact h.of_keeps hkeeps

theorem history_coherent {d : Demuxer} {history : List Call}
    (hrun : run step new history = some d) : d.Coherent :=
  run_invariant (fun _ _ _ h hstep => step_coherent hstep h) (.inl new_released) hrun

/-- The format context is one of those that were allocated. -/
def Allocated (d : Demuxer) : Prop := ∀ n ∈ d.formatContext, n < d.contexts

theorem closeInternal_contexts (d : Demuxer) : d.closeInternal.contexts = d.contexts := by
  have hstop : d.stop.contexts = d.contexts := by
    unfold stop
    split <;> rfl
  rw [← hstop]
  simp only [closeInternal]
  split <;> rfl

theorem released_contexts (d : Demuxer) : d.released.contexts = d.contexts := by
  unfold released
  split
  · exact closeInternal_contexts d
  · rfl

/-- Closing keeps the context or frees it. -/
theorem closeInternal_formatContext {d : Demuxer} {n : ℕ}
    (hn : n ∈ d.closeInternal.formatContext) : n ∈ d.formatContext := by
  have hstop : d.stop.formatContext = d.formatContext := by
    unfold stop
    split <;> rfl
  rw [← hstop]
  simp only [closeInternal] at hn
  split at hn
  · exact hn
  · cases hn

theorem closeInternal_allocated {d : Demuxer} (h : d.Allocated) : d.closeInternal.Allocated := by
  intro n hn
  rw [closeInternal_contexts]
  exact h n (closeInternal_formatContext hn)

theorem Allocated.of_keeps {d d' : Demuxer} (h : d.Allocated) (hkeeps : Keeps d d') :
    d'.Allocated := by
  intro n hn
  rw [hkeeps.formatContext] at hn
  rw [hkeeps.contexts]
  exact h n hn

theorem close_allocated {d : Demuxer} (h : d.Allocated) : d.close.Allocated := by
  unfold close
  apply closeInternal_allocated
  split
  · exact h.of_keeps (stopRecording_keeps d)
  · exact h

theorem released_allocated {d : Demuxer} (h : d.Allocated) : d.released.Allocated := by
  unfold released
  split
  · exact closeInternal_allocated h
  · exact h

theorem openInput_allocated {d : Demuxer} (h : d.Allocated) : d.openInput.Allocated := by
  unfold openInput
  split
  · exact h
  · intro n hn
    rw [Option.mem_def, Option.some.injEq] at hn
    exact hn ▸ Nat.lt_succ_self _

/-- Opening ends with the context that it probed the media with, or without one. -/
theorem openInternal_formatContext {d : Demuxer} {url : String} {config : Config}
    {callback : Bool} {probe : Probe} {n : ℕ}
    (hn : n ∈ (d.openInternal url config callback probe).2.formatContext) :
    n ∈ (d.probed url).formatContext := by
  cases hfound : probe.found with
  | false =>
    rw [openInternal_of_not_found d url config callback hfound] at hn
    cases hn
  | true =>
    rw [openInternal_of_found d url config callback hfound] at hn
    split at hn
    · exact hn
    · unfold triggerEvent start establish setPreBufferConfig at hn
      split at hn <;> split at hn <;> exact hn

theorem openInternal_contexts (d : Demuxer) (url : String) (config : Config) (callback : Bool)
    (probe : Probe) :
    (d.openInternal url config callback probe).2.contexts = (d.probed url).contexts := by
  cases hfound : probe.found with
  | false =>
    rw [openInternal_of_not_found d url config callback hfound]
    rfl
  | true =>
    rw [openInternal_of_found d url config callback hfound]
    split
    · rfl
    · unfold triggerEvent start establish setPreBufferConfig
      split <;> split <;> rfl

theorem openInternal_allocated {d : Demuxer} (h : d.Allocated) (url : String) (config : Config)
    (callback : Bool) (probe : Probe) :
    (d.openInternal url config callback probe).2.Allocated := by
  have hprobed : (d.probed url).Allocated := openInput_allocated (released_allocated h)
  intro n hn
  rw [openInternal_contexts]
  exact hprobed n (openInternal_formatContext hn)

/-- Opening another media does not leave the demuxer with the context of the one before. -/
theorem openInternal_formatContext_of_running {d : Demuxer} (h : d.Running) {url : String}
    {config : Config} {callback : Bool} {probe : Probe} {n : ℕ}
    (hn : n ∈ (d.openInternal url config callback probe).2.formatContext) : n = d.contexts := by
  have hreleased : d.released = d.closeInternal := if_pos h.isOpened
  have hnone : (d.released.triggerEvent .opening url none).formatContext = none := by
    rw [hreleased]
    exact (closeInternal_of_running h).2
  have hprobed := openInternal_formatContext hn
  rw [probed, openInput, hnone, Option.mem_def, Option.some.injEq] at hprobed
  rw [← hprobed]
  exact released_contexts d

/-- Opening is all or nothing: a failure leaves the closed state, a success the opened one. -/
def AllOrNothing (d : Demuxer) (url : String) (config : Config) (callback : Bool)
    (probe : Probe) : Prop :=
  ((d.openInternal url config callback probe).1 = false →
      (d.openInternal url config callback probe).2.Closed) ∧
    ((d.openInternal url config callback probe).1 = true →
      (d.openInternal url config callback probe).2.Established url config callback probe)

/-- After every history, opening is all or nothing exactly unless the streams are found and
going back to the start of the input fails. -/
theorem allOrNothing_iff {d : Demuxer} {history : List Call}
    (hrun : run step new history = some d) (url : String) (config : Config) (callback : Bool)
    (probe : Probe) :
    d.AllOrNothing url config callback probe ↔
      ¬(probe.found = true ∧ probe.rewindFails = true) := by
  have hcoherent := history_coherent hrun
  constructor
  · rintro ⟨hfail, -⟩ ⟨hfound, hrewind⟩
    rw [openInternal_of_found d url config callback hfound, if_pos hrewind] at hfail
    have hcontext : (d.probed url).formatContext.isSome = true := openInput_formatContext _
    rw [(hfail rfl).formatContext] at hcontext
    cases hcontext
  · intro hnot
    constructor
    · intro hopen
      apply (openInternal_released d url config callback hcoherent hopen).closed
      have hfound : probe.found = false := by
        rw [openInternal_fst] at hopen
        cases hfound : probe.found with
        | false => rfl
        | true => exact absurd ⟨hfound, by simpa [hfound] using hopen⟩ hnot
      rw [openInternal_of_not_found d url config callback hfound]
      rfl
    · exact openInternal_established d url config callback hcoherent

/-- A media with a video stream; `avio_seek` answers as given. -/
def videoProbe (avioSeek : ℤ) : Probe :=
  ⟨0, 0, true, avioSeek, fun m => if m = .video then 0 else -1, some 10000000⟩

/-- Decode everything, without pre-buffering. -/
def decodeAll : Config := ⟨fun _ => true, false, 0, 0, false, false⟩

theorem allOrNothing_reopened :
    (new.openInternal "a.mp4" decodeAll false (videoProbe 0)).2.AllOrNothing "b.mp4" decodeAll
      false (videoProbe 0) := by
  have hrun : run step new [.open "a.mp4" decodeAll false (videoProbe 0)] =
      some (new.openInternal "a.mp4" decodeAll false (videoProbe 0)).2 := rfl
  exact (allOrNothing_iff hrun "b.mp4" decodeAll false (videoProbe 0)).mpr (by decide)

/-- A failed `avio_seek` leaves its context behind, and the next open works on it. -/
theorem allOrNothing_fails :
    let failed := new.openInternal "a.mp4" decodeAll false (videoProbe (-1))
    failed.1 = false ∧ failed.2.formatContext = some 0 ∧ failed.2.contexts = 1 ∧
      (failed.2.openInternal "b.mp4" decodeAll false (videoProbe 0)).2.formatContext = some 0 ∧
      ¬new.AllOrNothing "a.mp4" decodeAll false (videoProbe (-1)) := by
  refine ⟨rfl, rfl, rfl, rfl, ?_⟩
  intro h
  exact absurd (h.1 rfl).formatContext (by decide)

/-- The playback state that a session starts with. -/
structure Playback where
  isOpened : Bool
  isStarted : Bool
  isPaused : Bool
  seekMsPos : ℤ
  streamIndex : MediaType → ℤ
  packetQueue : MediaType → Option PacketQueue
  preBufferEnabled : Bool
  preBufferReady : Bool

def playback (d : Demuxer) : Playback :=
  ⟨d.isOpened, d.isStarted, d.isPaused, d.seekMsPos, d.streamIndex, d.packetQueue,
    d.preBufferEnabled, d.preBufferReady⟩

/-- What a pause and a seek leave for the demux thread. -/
def requests (d : Demuxer) : Bool × ℤ := (d.isPaused, d.seekMsPos)

@[simp] theorem triggerEvent_requests (d : Demuxer) (type : StreamEventType) (url : String)
    (totalTime : Option ℤ) : (d.triggerEvent type url totalTime).requests = d.requests := rfl

@[simp] theorem stop_requests (d : Demuxer) : d.stop.requests = d.requests := by
  unfold stop
  split <;> rfl

@[simp] theorem start_requests (d : Demuxer) : d.start.requests = d.requests := by
  unfold start
  split <;> rfl

@[simp] theorem closeInternal_requests (d : Demuxer) :
    d.closeInternal.requests = d.requests := by
  rw [← stop_requests d]
  simp only [closeInternal]
  split <;> rfl

@[simp] theorem close_requests (d : Demuxer) : d.close.requests = d.requests := by
  unfold close
  split
  · rw [closeInternal_requests]
    unfold stopRecording
    split <;> rfl
  · exact closeInternal_requests d

@[simp] theorem probed_requests (d : Demuxer) (url : String) :
    (d.probed url).requests = d.requests := by
  have hreleased : d.released.requests = d.requests := by
    unfold released
    split <;> simp
  rw [← hreleased]
  unfold probed openInput
  split <;> rfl

@[simp] theorem establish_requests (d : Demuxer) (url : String) (config : Config)
    (callback : Bool) (probe : Probe) :
    (d.establish url config callback probe).requests = d.requests := by
  unfold establish
  split <;> rfl

/-- Opening touches neither of them. -/
theorem openInternal_requests (d : Demuxer) (url : String) (config : Config) (callback : Bool)
    (probe : Probe) : (d.openInternal url config callback probe).2.requests = d.requests := by
  cases hfound : probe.found with
  | false =>
    rw [openInternal_of_not_found d url config callback hfound]
    exact probed_requests d url
  | true =>
    rw [openInternal_of_found d url config callback hfound]
    split <;> simp

/-- The start of a session, which depends on what was opened and the requests left over. -/
def sessionStart (config : Config) (probe : Probe) (requests : Bool × ℤ) : Playback :=
  if probe.found && !probe.rewindFails then
    { isOpened := true
      isStarted := true
      isPaused := requests.1
      seekMsPos := requests.2
      streamIndex := probe.bestStream
      packetQueue := fun m =>
        if 0 ≤ probe.bestStream m ∧ config.decodeMediaType m = true then
          some (PacketQueue.new 1000).start
        else none
      preBufferEnabled := config.preBufferConfig.enablePreBuffer &&
        (decide (0 < toUInt32 config.preBufferConfig.videoPreBufferFrames) ||
          decide (0 < toUInt32 config.preBufferConfig.audioPreBufferPackets))
      preBufferReady := false }
  else ⟨false, false, requests.1, requests.2, fun _ => -1, fun _ => none, false, false⟩

theorem playback_of_released {d : Demuxer} (h : d.Released) :
    d.playback = ⟨false, false, d.requests.1, d.requests.2, fun _ => -1, fun _ => none, false,
      false⟩ := by
  rw [playback, h.isOpened, h.isStarted, h.streamIndex, h.packetQueue, h.preBufferEnabled,
    h.preBufferReady]
  rfl

theorem openInternal_playback {d : Demuxer} (h : d.Coherent) (url : String) (config : Config)
    (callback : Bool) (probe : Probe) :
    (d.openInternal url config callback probe).2.playback =
      sessionStart config probe d.requests := by
  rw [← openInternal_requests d url config callback probe, sessionStart,
    ← openInternal_fst d url config callback probe]
  cases hopen : (d.openInternal url config callback probe).1 with
  | false =>
    rw [if_neg Bool.false_ne_true]
    exact playback_of_released (openInternal_released d url config callback h hopen)
  | true =>
    have he := openInternal_established d url config callback h hopen
    rw [if_pos rfl, playback, he.running.isOpened, he.running.isStarted, he.streamIndex,
      he.packetQueue, he.preBufferEnabled, he.preBufferReady]
    rfl

/-- After every history that ends in a close, the next session starts like the first one of a
new demuxer exactly when the closed one left neither a pause nor a queued seek. -/
theorem isolated_iff {d : Demuxer} {history : List Call}
    (hrun : run step new history = some d) (url : String) (config : Config) (callback : Bool)
    (probe : Probe) :
    (d.close.openInternal url config callback probe).2.playback =
        (new.openInternal url config callback probe).2.playback ↔
      d.isPaused = false ∧ d.seekMsPos = -1 := by
  have hclose : d.close.Coherent := .inl (close_released (history_coherent hrun))
  rw [openInternal_playback hclose, openInternal_playback (.inl new_released), close_requests]
  unfold sessionStart
  split
  · simp [requests, new]
  · simp [requests, new]

/-- A pause that was resumed has no effect on the next session. -/
theorem isolated_after_resume :
    let d := (new.openInternal "a.mp4" decodeAll false (videoProbe 0)).2.pause.2.resume.2
    (d.close.openInternal "b.mp4" decodeAll false (videoProbe 0)).2.playback =
      (new.openInternal "b.mp4" decodeAll false (videoProbe 0)).2.playback := by
  have hrun : run step new [.open "a.mp4" decodeAll false (videoProbe 0), .pause, .resume] =
      some (new.openInternal "a.mp4" decodeAll false (videoProbe 0)).2.pause.2.resume.2 := rfl
  exact (isolated_iff hrun "b.mp4" decodeAll false (videoProbe 0)).mpr ⟨rfl, rfl⟩

/-- A pause outlives the close: the next session starts paused. -/
theorem isolated_fails :
    ∃ d, run step new [.open "a.mp4" decodeAll false (videoProbe 0), .pause] = some d ∧
      (d.close.openInternal "b.mp4" decodeAll false (videoProbe 0)).2.isPaused = true ∧
      (d.close.openInternal "b.mp4" decodeAll false (videoProbe 0)).2.playback ≠
        (new.openInternal "b.mp4" decodeAll false (videoProbe 0)).2.playback := by
  refine ⟨_, rfl, rfl, ?_⟩
  intro h
  exact absurd (congrArg Playback.isPaused h) (by decide)

end Demuxer

end DecoderSDK.Lifecycle
