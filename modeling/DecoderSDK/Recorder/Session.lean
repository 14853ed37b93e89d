import DecoderSDK.Queues.PacketQueue
import DecoderSDK.Recorder.Synchrony

/-! # A recording session

The demux thread pushes packets into two queues, the recording thread takes
them out and writes them, and `stopRecording` ends the session. The recording
thread stops on a flag and not on empty queues, and what it leaves behind is
flushed. The muxer accepts every packet that it is given.
-/
namespace DecoderSDK.Recorder
open Interleaving

/-- A packet queue as the recorder sees it: the stamps, without the running totals. -/
structure StampedQueue where
  queue : List Stamped
  aborted : Bool
  maxPacketCount : ℕ

namespace StampedQueue

/-- A queue that `startRecording` has started. -/
def started : StampedQueue := ⟨[], false, 1000⟩

/-- Without a timeout a full queue refuses at once. -/
def push (q : StampedQueue) (pkt : Stamped) : Bool × StampedQueue :=
  if q.aborted = false ∧ q.queue.length < q.maxPacketCount then
    (true, { q with queue := q.queue ++ [pkt] })
  else (false, q)

def pop (q : StampedQueue) : Option Stamped × StampedQueue :=
  match q.queue with
  | [] => (none, q)
  | pkt :: rest => (some pkt, { q with queue := rest })

def abort (q : StampedQueue) : StampedQueue := { q with aborted := true }

def flush (q : StampedQueue) : StampedQueue := { q with queue := [] }

/-- The two queues hold as many packets, in the same mode. -/
structure Mirrors (q : StampedQueue) (p : PacketQueue) : Prop where
  length : q.queue.length = p.queue.length
  aborted : q.aborted = p.aborted
  maxPacketCount : q.maxPacketCount = p.maxPacketCount

/-- A packet is refused here exactly when the packet queue refuses it. -/
theorem Mirrors.push {q : StampedQueue} {p : PacketQueue} (h : q.Mirrors p) (pkt : Stamped)
    (packet : Packet) :
    (q.push pkt).1 = (p.push packet).1 ∧ (q.push pkt).2.Mirrors (p.push packet).2 := by
  unfold StampedQueue.push PacketQueue.push PacketQueue.canPush
  rw [h.aborted, h.length, h.maxPacketCount]
  cases haborted : p.aborted with
  | true => simpa using h
  | false =>
    by_cases hroom : p.queue.length < p.maxPacketCount
    · refine ⟨by simp [hroom], ?_, ?_, ?_⟩
      · simp [hroom, h.length]
      · simp [hroom]
      · simp [hroom]
    · simpa [hroom] using h

/-- A packet is taken here exactly when the packet queue gives one. -/
theorem Mirrors.pop {q : StampedQueue} {p : PacketQueue} (h : q.Mirrors p) :
    q.pop.1.isSome = p.pop.1.isSome ∧ q.pop.2.Mirrors p.pop.2 := by
  have hlength := h.length
  unfold StampedQueue.pop
  rcases p.pop_cases with ⟨hqueue, hpop⟩ | ⟨packet, rest, hqueue, hpop⟩
  · cases hq : q.queue with
    | nil => simpa [hpop] using h
    | cons pkt stamps => simp [hq, hqueue] at hlength
  · cases hq : q.queue with
    | nil => simp [hq, hqueue] at hlength
    | cons pkt stamps =>
      rw [hpop]
      refine ⟨rfl, ?_, ?_, ?_⟩
      · simpa [hq, hqueue] using hlength
      · simp [h.aborted]
      · simp [h.maxPacketCount]

end StampedQueue

/-- Where the recording thread stands in `recordingLoop`. -/
inductive LoopAt where
  | starting
  | testing
  | taking (mediaType : MediaType)
  | ended
  deriving DecidableEq

/-- Where the caller stands in `stopRecording`. -/
inductive StopAt where
  | idle
  | refused
  | flagged
  | videoAborted
  | joining
  | joined
  | cleaned
  | returned
  deriving DecidableEq

namespace StopAt

/-- Both queues are aborted. -/
def isClosed : StopAt → Bool
  | .joining | .joined | .cleaned | .returned => true
  | _ => false

/-- The recording thread is joined. -/
def isJoined : StopAt → Bool
  | .joined | .cleaned | .returned => true
  | _ => false

/-- The queues are flushed. -/
def isFlushed : StopAt → Bool
  | .cleaned | .returned => true
  | _ => false

end StopAt

/-- One session, from the moment the recording thread is created. -/
structure Recording where
  isRecording : Bool
  shouldStop : Bool
  queue : MediaType → StampedQueue
  recorder : RealTimeStreamRecorder
  /-- The packet that `writePacket` is about to push. -/
  writing : Option (MediaType × Stamped)
  loopAt : LoopAt
  stopAt : StopAt
  /-- The packets for which `writePacket` returned true. -/
  accepted : MediaType → List Stamped
  /-- The packets that the recording loop popped. -/
  taken : MediaType → List Stamped

/-- One step of a thread. The result of `av_packet_alloc` and that of `av_packet_ref` come from
FFmpeg; a media type is `none` when it is neither video nor audio. -/
inductive SessionStep where
  | writePacket (mediaType : Option MediaType) (pkt : Stamped)
  | push
  | begin (allocated : Bool)
  | test
  | take (alloc : Bool) (ref : ℤ)
  | stopRecording

/-- The input has a video stream. -/
def Layout.hasVideo (layout : Layout) : Bool :=
  layout.inputs.any fun stream => decide (stream.codecType = some .video)

namespace Recording

def start (outputPath : String) : Recording where
  isRecording := true
  shouldStop := false
  queue _ := .started
  recorder := .start outputPath
  writing := none
  loopAt := .starting
  stopAt := .idle
  accepted _ := []
  taken _ := []

/-- The first part of `writePacket`, which reads the flag and chooses the queue. -/
def writePacket (r : Recording) (mediaType : Option MediaType) (pkt : Stamped) : Recording :=
  if r.isRecording then { r with writing := mediaType.map fun m => (m, pkt) } else r

/-- The second part of `writePacket`. -/
def push (r : Recording) (mediaType : MediaType) (pkt : Stamped) : Recording :=
  let pushed := (r.queue mediaType).push pkt
  { r with
    queue := Function.update r.queue mediaType pushed.2
    writing := none
    accepted := if pushed.1 then
        Function.update r.accepted mediaType (r.accepted mediaType ++ [pkt])
      else r.accepted }

/-- Audio is taken only when there is a key frame. -/
def next (recorder : RealTimeStreamRecorder) : MediaType → LoopAt
  | .video => if recorder.hasKeyFrame then .taking .audio else .testing
  | .audio => .testing

/-- The recording loop waits for a packet and processes it. -/
def take (muxer : Muxer) (layout : Layout) (r : Recording) (mediaType : MediaType)
    (answers : Answers) : Recording :=
  match (r.queue mediaType).pop with
  | (none, _) => { r with loopAt := next r.recorder mediaType }
  | (some pkt, rest) =>
    let recorder := (r.recorder.processPacket muxer layout mediaType pkt answers).2
    { r with
      queue := Function.update r.queue mediaType rest
      recorder := recorder
      loopAt := next recorder mediaType
      taken := Function.update r.taken mediaType (r.taken mediaType ++ [pkt]) }

def abort (r : Recording) (mediaType : MediaType) : Recording :=
  { r with queue := Function.update r.queue mediaType (r.queue mediaType).abort }

/-- What `cleanup` does to the queues and the saved timestamps. -/
def cleanup (r : Recording) : Recording :=
  { r with
    queue := fun m => (r.queue m).flush
    recorder := { r.recorder with
      outputPath := ""
      firstPts := fun _ => none
      firstDts := fun _ => none } }

/-- The statements of `stopRecording` in turn; the join waits for the recording thread. -/
def stopRecording (r : Recording) : Option Recording :=
  match r.stopAt with
  | .idle =>
    if r.isRecording then some { r with shouldStop := true, stopAt := .flagged }
    else some { r with stopAt := .refused }
  | .flagged => some { r.abort .video with stopAt := .videoAborted }
  | .videoAborted => some { r.abort .audio with stopAt := .joining }
  | .joining => if r.loopAt = .ended then some { r with stopAt := .joined } else none
  | .joined => some { r.cleanup with stopAt := .cleaned }
  | .cleaned => some { r with isRecording := false, stopAt := .returned }
  | .refused | .returned => none

def step (muxer : Muxer) (layout : Layout) (r : Recording) : SessionStep → Option Recording
  | .writePacket mediaType pkt =>
    if r.writing.isNone then some (r.writePacket mediaType pkt) else none
  | .push => r.writing.map fun w => r.push w.1 w.2
  | .begin allocated =>
    if r.loopAt = .starting then
      some { r with loopAt := if allocated then .testing else .ended }
    else none
  | .test =>
    if r.loopAt = .testing then
      some { r with loopAt := if r.shouldStop then .ended else .taking .video }
    else none
  | .take alloc ref =>
    match r.loopAt with
    | .taking mediaType => some (r.take muxer layout mediaType ⟨alloc, ref, 0⟩)
    | _ => none
  | .stopRecording => r.stopRecording

end Recording

end DecoderSDK.Recorder
