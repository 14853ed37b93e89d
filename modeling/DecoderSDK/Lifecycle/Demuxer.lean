import DecoderSDK.Base.Compare
import DecoderSDK.Interleaving.Runs
import DecoderSDK.PreBuffer.Status

/-! # The life of a demuxer

A demuxer opens a media, runs a demux thread on it, and closes it again;
opening another one closes the first. What FFmpeg answers while a media is
opened is an input of the call. The demux thread works between the calls: it
takes seek requests, fills and flushes the queues and completes the
pre-buffering. Closing waits for the thread, so what the thread still does
then comes before the call here.
-/
namespace DecoderSDK.Lifecycle
open PreBuffer (Config toUInt32)

def realtimePrefixes : List String :=
  ["rtsp://", "rtmp://", "udp://", "tcp://", "srt://", "mms://"]

/-- The url names a stream and not a file. -/
def isRealtime (url : String) : Bool :=
  let u := url.toList.map Char.toLower
  realtimePrefixes.any (fun p => p.toList.isPrefixOf u) ||
    (["http://", "https://"].any (fun p => p.toList.isPrefixOf u) &&
      [".m3u8", "/live/", "stream"].any (fun part => decide (part.toList <:+: u)))

inductive StreamEventType where
  | opening
  | openFailed
  | opened
  | close
  deriving DecidableEq, Repr

def StreamEventType.description : StreamEventType → String
  | .opening => "Stream Opening"
  | .openFailed => "Stream Open Failed"
  | .opened => "Stream Opened"
  | .close => "Stream Close"

structure StreamEventArgs where
  filePath : String
  source : String
  description : String
  totalTime : Option ℤ
  deriving DecidableEq

/-- What FFmpeg answers while one media is opened: the results of `avformat_open_input`,
`avformat_find_stream_info`, `avio_seek` and `av_find_best_stream`, whether the input is
seekable, and its duration in microseconds. -/
structure Probe where
  openInput : ℤ
  findStreamInfo : ℤ
  seekable : Bool
  avioSeek : ℤ
  bestStream : MediaType → ℤ
  duration : Option ℤ

namespace Probe

/-- The input is there and its streams are found. -/
def found (probe : Probe) : Bool :=
  decide (probe.openInput = 0) && decide (0 ≤ probe.findStreamInfo)

/-- Going back to the start of the input fails. -/
def rewindFails (probe : Probe) : Bool := probe.seekable && decide (probe.avioSeek < 0)

/-- The duration in whole seconds, as an `int`. -/
def totalTime (probe : Probe) : Option ℤ :=
  probe.duration.map fun duration => (duration.tdiv 1000000).bmod (2 ^ 32)

end Probe

/-- The demuxer between two calls. A format context is known by the number it was allocated
with; `contexts` counts the allocated ones. -/
structure Demuxer where
  isOpened : Bool
  isStarted : Bool
  url : String
  isRealTime : Bool
  formatContext : Option ℕ
  contexts : ℕ
  packetQueue : MediaType → Option PacketQueue
  streamIndex : MediaType → ℤ
  thread : Bool
  requestInterruption : Bool
  isPaused : Bool
  seekMsPos : ℤ
  isRecording : Bool
  preBufferFrames : MediaType → ℕ
  requireBothStreams : Bool
  preBufferEnabled : Bool
  preBufferReady : Bool
  preBufferReadyCallback : Bool
  events : List (StreamEventType × StreamEventArgs)

namespace Demuxer

/-- A newly constructed demuxer. -/
def new : Demuxer where
  isOpened := false
  isStarted := false
  url := ""
  isRealTime := false
  formatContext := none
  contexts := 0
  packetQueue := fun _ => none
  streamIndex := fun _ => -1
  thread := false
  requestInterruption := false
  isPaused := false
  seekMsPos := -1
  isRecording := false
  preBufferFrames := fun _ => 0
  requireBothStreams := false
  preBufferEnabled := false
  preBufferReady := false
  preBufferReadyCallback := false
  events := []

def triggerEvent (d : Demuxer) (type : StreamEventType) (url : String) (totalTime : Option ℤ) :
    Demuxer :=
  { d with events := d.events ++ [(type, ⟨url, "Demuxer", type.description, totalTime⟩)] }

def start (d : Demuxer) : Demuxer :=
  if d.isStarted then d
  else
    { d with
      packetQueue := fun m => (d.packetQueue m).map PacketQueue.start
      requestInterruption := false
      thread := true
      isStarted := true }

def stop (d : Demuxer) : Demuxer :=
  if !d.isStarted then d
  else
    { d with
      packetQueue := fun m => (d.packetQueue m).map PacketQueue.abort
      requestInterruption := true
      thread := false
      isStarted := false }

def clearPreBufferCallback (d : Demuxer) : Demuxer :=
  { d with preBufferReadyCallback := false, preBufferEnabled := false, preBufferReady := false }

def setPreBufferConfig (d : Demuxer) (videoFrames audioPackets : ℕ) (requireBoth : Bool)
    (callback : Bool) : Demuxer :=
  { d with
    preBufferFrames := fun m => match m with
      | .video => videoFrames
      | .audio => audioPackets
    requireBothStreams := requireBoth
    preBufferEnabled := 0 < videoFrames || 0 < audioPackets
    preBufferReady := false
    preBufferReadyCallback := callback }

/-- The url is cleared before the event is built from it. -/
def closeInternal (d : Demuxer) : Demuxer :=
  let d := d.stop
  if !d.isOpened then d
  else
    let d := { d with formatContext := none, packetQueue := fun _ => none }
    let d := d.clearPreBufferCallback
    let d := { d with
      streamIndex := fun _ => -1, url := "", isRealTime := false, isOpened := false }
    d.triggerEvent .close d.url none

/-- `avformat_open_input` takes a context that is there, and allocates one otherwise. -/
def openInput (d : Demuxer) : Demuxer :=
  match d.formatContext with
  | some _ => d
  | none => { d with formatContext := some d.contexts, contexts := d.contexts + 1 }

/-- The state that a successful open sets. -/
def establish (d : Demuxer) (url : String) (config : Config) (callback : Bool) (probe : Probe) :
    Demuxer :=
  let d := { d with
    streamIndex := probe.bestStream
    packetQueue := fun m =>
      if 0 ≤ probe.bestStream m ∧ config.decodeMediaType m = true then some (.new 1000)
      else d.packetQueue m
    url := url
    isRealTime := isRealtime url
    isOpened := true }
  if config.preBufferConfig.enablePreBuffer then
    d.setPreBufferConfig (toUInt32 config.preBufferConfig.videoPreBufferFrames)
      (toUInt32 config.preBufferConfig.audioPreBufferPackets)
      config.preBufferConfig.requireBothStreams callback
  else d

/-- Opening fails in three places. A failed `avformat_open_input` frees its context, a failed
search for streams closes the input, and a failed `avio_seek` only returns. -/
def openInternal (d : Demuxer) (url : String) (config : Config) (callback : Bool)
    (probe : Probe) : Bool × Demuxer :=
  let d := if d.isOpened then d.closeInternal else d
  let d := d.triggerEvent .opening url none
  let d := d.openInput
  if probe.openInput ≠ 0 then
    (false, { d with formatContext := none }.triggerEvent .openFailed url none)
  else if probe.findStreamInfo < 0 then
    (false, { d.triggerEvent .openFailed url none with formatContext := none })
  else if probe.rewindFails then (false, d)
  else
    let d := (d.establish url config callback probe).start
    (true, d.triggerEvent .opened url probe.totalTime)

def pause (d : Demuxer) : Bool × Demuxer :=
  if !d.isOpened || !d.isStarted then (false, d) else (true, { d with isPaused := true })

/-- A real-time stream starts again with empty queues. -/
def resume (d : Demuxer) : Bool × Demuxer :=
  if !d.isOpened || !d.isStarted then (false, d)
  else if !d.isPaused then (true, d)
  else
    let d := if d.isRealTime then
        { d with packetQueue := fun m => (d.packetQueue m).map PacketQueue.flush }
      else d
    (true, { d with isPaused := false })

def seek (d : Demuxer) (position : ℚ) : Bool × Demuxer :=
  if d.formatContext.isNone || d.isRealTime || !greaterAndEqual position 0 then (false, d)
  else (true, { d with seekMsPos := toMs position })

/-- `accepted` is the recorder's answer: the output could be set up. -/
def startRecording (d : Demuxer) (accepted : Bool) : Bool × Demuxer :=
  if !d.isRealTime || d.formatContext.isNone || d.isRecording || !accepted then (false, d)
  else (true, { d with isRecording := true })

def stopRecording (d : Demuxer) : Bool × Demuxer :=
  if !d.isRecording then (false, d) else (true, { d with isRecording := false })

def close (d : Demuxer) : Demuxer :=
  let d := if d.isRecording then d.stopRecording.2 else d
  d.closeInternal

end Demuxer

/-- What the demux thread does between the calls. -/
inductive Work where
  | takeSeek
  | loopSeek
  | changeQueue (media : MediaType) (queue : PacketQueue)
  | preBufferReady

inductive Call where
  | open (url : String) (config : Config) (callback : Bool) (probe : Probe)
  | pause
  | resume
  | seek (position : ℚ)
  | startRecording (accepted : Bool)
  | stopRecording
  | close
  | work (w : Work)

namespace Demuxer

/-- A file thread takes a request that is not negative, a real-time thread drops a positive one.
`loopSeek` is the request that the thread of a looping file makes itself. -/
def work (d : Demuxer) : Work → Option Demuxer
  | .takeSeek =>
    if d.thread && (if d.isRealTime then 0 < d.seekMsPos else 0 ≤ d.seekMsPos) then
      some { d with seekMsPos := -1 }
    else none
  | .loopSeek =>
    if d.thread && !d.isRealTime then some { d with seekMsPos := 0 } else none
  | .changeQueue m q =>
    if d.thread && (d.packetQueue m).isSome then
      some { d with packetQueue := Function.update d.packetQueue m (some q) }
    else none
  | .preBufferReady =>
    if d.thread && d.preBufferEnabled then some { d with preBufferReady := true } else none

def step (d : Demuxer) : Call → Option Demuxer
  | .open url config callback probe => some (d.openInternal url config callback probe).2
  | .pause => some d.pause.2
  | .resume => some d.resume.2
  | .seek position => some (d.seek position).2
  | .startRecording accepted => some (d.startRecording accepted).2
  | .stopRecording => some d.stopRecording.2
  | .close => some d.close
  | .work w => d.work w

/-- What every call but `open` and `close` leaves as it is. -/
structure Keeps (d d' : Demuxer) : Prop where
  isOpened : d'.isOpened = d.isOpened
  isStarted : d'.isStarted = d.isStarted
  thread : d'.thread = d.thread
  url : d'.url = d.url
  isRealTime : d'.isRealTime = d.isRealTime
  formatContext : d'.formatContext = d.formatContext
  contexts : d'.contexts = d.contexts
  streamIndex : d'.streamIndex = d.streamIndex
  packetQueue : ∀ m, (d'.packetQueue m).isSome = (d.packetQueue m).isSome
  preBufferEnabled : d'.preBufferEnabled = d.preBufferEnabled
  preBufferReady : d.thread = false → d'.preBufferReady = d.preBufferReady
  events : d'.events = d.events

theorem Keeps.refl (d : Demuxer) : Keeps d d := by
  constructor <;> simp

theorem pause_keeps (d : Demuxer) : Keeps d d.pause.2 := by
  unfold pause
  split
  · exact Keeps.refl d
  · constructor <;> simp

theorem resume_keeps (d : Demuxer) : Keeps d d.resume.2 := by
  unfold resume
  split
  · exact Keeps.refl d
  · split
    · exact Keeps.refl d
    · split
      · constructor <;> simp
      · constructor <;> simp

theorem seek_keeps (d : Demuxer) (position : ℚ) : Keeps d (d.seek position).2 := by
  unfold seek
  split
  · exact Keeps.refl d
  · constructor <;> simp

theorem startRecording_keeps (d : Demuxer) (accepted : Bool) :
    Keeps d (d.startRecording accepted).2 := by
  unfold startRecording
  split
  · exact Keeps.refl d
  · constructor <;> simp

theorem stopRecording_keeps (d : Demuxer) : Keeps d d.stopRecording.2 := by
  unfold stopRecording
  split
  · exact Keeps.refl d
  · constructor <;> simp

theorem work_keeps {d d' : Demuxer} {w : Work} (h : d.work w = some d') : Keeps d d' := by
  cases w with
  | takeSeek =>
    rw [work, Option.ite_none_right_eq_some, Option.some.injEq] at h
    rw [← h.2]
    constructor <;> simp
  | loopSeek =>
    rw [work, Option.ite_none_right_eq_some, Option.some.injEq] at h
    rw [← h.2]
    constructor <;> simp
  | changeQueue m q =>
    rw [work, Option.ite_none_right_eq_some, Option.some.injEq, Bool.and_eq_true] at h
    rw [← h.2]
    constructor <;> simp
    intro m'
    by_cases hm : m' = m
    · subst hm
      simp [h.1.2]
    · simp [hm]
  | preBufferReady =>
    rw [work, Option.ite_none_right_eq_some, Option.some.injEq, Bool.and_eq_true] at h
    rw [← h.2]
    constructor <;> simp [h.1.1]

/-- A call opens, closes, or leaves the session alone. -/
theorem step_cases {d d' : Demuxer} {c : Call} (h : d.step c = some d') :
    (∃ url config callback probe, c = .open url config callback probe ∧
        d' = (d.openInternal url config callback probe).2) ∨
      (c = .close ∧ d' = d.close) ∨
      ((∀ url config callback probe, c ≠ .open url config callback probe) ∧ c ≠ .close) ∧
        Keeps d d' := by
  cases c with
  | «open» url config callback probe =>
    exact .inl ⟨url, config, callback, probe, rfl, (Option.some.inj h).symm⟩
  | close => exact .inr (.inl ⟨rfl, (Option.some.inj h).symm⟩)
  | pause =>
    rw [← Option.some.inj h]
    exact .inr (.inr ⟨by simp, pause_keeps d⟩)
  | resume =>
    rw [← Option.some.inj h]
    exact .inr (.inr ⟨by simp, resume_keeps d⟩)
  | seek position =>
    rw [← Option.some.inj h]
    exact .inr (.inr ⟨by simp, seek_keeps d position⟩)
  | startRecording accepted =>
    rw [← Option.some.inj h]
    exact .inr (.inr ⟨by simp, startRecording_keeps d accepted⟩)
  | stopRecording =>
    rw [← Option.some.inj h]
    exact .inr (.inr ⟨by simp, stopRecording_keeps d⟩)
  | work w => exact .inr (.inr ⟨by simp, work_keeps h⟩)

end Demuxer

end DecoderSDK.Lifecycle
