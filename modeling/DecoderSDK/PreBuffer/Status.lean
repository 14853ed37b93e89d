import DecoderSDK.Queues.PacketQueue

/-! # Pre-buffering in the demux thread

The demux thread looks at the packet queues after every packet it hands on,
and calls back once when they hold enough. What `av_read_frame` will answer is
a list that the thread works off. The callback is the controller's
`onPreBufferReady`, run by the demux thread without any lock: it releases the
decoders one after the other.
-/
namespace DecoderSDK.PreBuffer

structure PreBufferConfig where
  enablePreBuffer : Bool
  videoPreBufferFrames : ℤ
  audioPreBufferPackets : ℤ
  requireBothStreams : Bool
  autoStartAfterPreBuffer : Bool

structure Config where
  decodeMediaType : MediaType → Bool
  preBufferConfig : PreBufferConfig

/-- The thresholds are given as `int` and stored as `uint32_t`. -/
def toUInt32 (n : ℤ) : ℕ := (n % 2 ^ 32).toNat

/-- What a call of `av_read_frame` comes to. `other` is a packet that is not queued: of another
stream, or read while a real-time stream is paused. At the end of the file, `isEof` says that
the loop has queued the end packets before; `again` is every failure after which the loop goes
on, and `failed` the one that ends it. -/
inductive Read where
  | packet (media : MediaType) (packet : AVPacket)
  | other
  | eof (isEof : Bool)
  | again
  | failed

/-- What `avformat_open_input` finds. -/
structure Media where
  isRealTime : Bool
  hasStream : MediaType → Bool
  coming : List Read

/-- Where the demux thread stands; `idle` is no thread. -/
inductive Pc where
  | idle
  | head
  | push (media : MediaType) (packet : Packet)
  | check
  | endPush (media : MediaType)
  | callback
  | release (media : MediaType)
  deriving DecidableEq

/-- The callback is being executed. -/
def Pc.calling : Pc → Bool
  | .callback => true
  | .release _ => true
  | _ => false

structure Demuxer where
  isOpened : Bool
  isRealTime : Bool
  hasStream : MediaType → Bool
  queue : MediaType → Option PacketQueue
  /-- `preBufferVideoFrames_` and `preBufferAudioPackets_`. -/
  preBufferFrames : MediaType → ℕ
  requireBothStreams : Bool
  preBufferEnabled : Bool
  preBufferReady : Bool
  requestInterruption : Bool
  coming : List Read
  pc : Pc

namespace Demuxer

/-- A demuxer that was never opened. -/
def new : Demuxer where
  isOpened := false
  isRealTime := false
  hasStream := fun _ => false
  queue := fun _ => none
  preBufferFrames := fun _ => 0
  requireBothStreams := false
  preBufferEnabled := false
  preBufferReady := false
  requestInterruption := false
  coming := []
  pc := .idle

def goto (dm : Demuxer) (pc : Pc) : Demuxer := { dm with pc := pc }

def setPreBufferConfig (dm : Demuxer) (videoFrames audioPackets : ℕ) (requireBoth : Bool) : Demuxer :=
  { dm with preBufferFrames := fun m => match m with
              | .video => videoFrames
              | .audio => audioPackets
            requireBothStreams := requireBoth
            preBufferEnabled := 0 < videoFrames || 0 < audioPackets
            preBufferReady := false }

def clearPreBufferCallback (dm : Demuxer) : Demuxer :=
  { dm with preBufferEnabled := false, preBufferReady := false }

/-- The streams are found, the queues created and started, and the thread begins. -/
def openInternal (dm : Demuxer) (config : Config) (media : Media) : Demuxer :=
  let dm := { dm with
    isOpened := true
    isRealTime := media.isRealTime
    hasStream := media.hasStream
    queue := fun m =>
      if media.hasStream m && config.decodeMediaType m then some (PacketQueue.new 1000).start else none
    coming := media.coming
    requestInterruption := false
    pc := .head }
  if config.preBufferConfig.enablePreBuffer then
    dm.setPreBufferConfig (toUInt32 config.preBufferConfig.videoPreBufferFrames)
      (toUInt32 config.preBufferConfig.audioPreBufferPackets)
      config.preBufferConfig.requireBothStreams
  else dm

/-- The first part of `stop`: the queues are aborted and the thread is asked to end. -/
def stop (dm : Demuxer) : Demuxer :=
  if dm.isOpened then
    { dm with queue := fun m => (dm.queue m).map PacketQueue.abort, requestInterruption := true }
  else dm

/-- The rest of `closeInternal`, after the thread was joined. -/
def closeInternal (dm : Demuxer) : Demuxer :=
  if dm.isOpened then
    { dm.clearPreBufferCallback with
        isOpened := false
        isRealTime := false
        hasStream := fun _ => false
        queue := fun _ => none }
  else dm

def setQueue (dm : Demuxer) (m : MediaType) (q : PacketQueue) : Demuxer :=
  { dm with queue := Function.update dm.queue m (some q) }

/-- The queue of the stream holds as many packets as were asked for. -/
def mediaReady (dm : Demuxer) (m : MediaType) : Bool :=
  dm.hasStream m && 0 < dm.preBufferFrames m &&
    (dm.queue m).any fun q => dm.preBufferFrames m ≤ q.queue.length

def isReady (dm : Demuxer) : Bool :=
  if dm.requireBothStreams then dm.mediaReady .video && dm.mediaReady .audio
  else dm.mediaReady .video || dm.mediaReady .audio

def checkPreBufferStatus (dm : Demuxer) : Demuxer :=
  if !dm.preBufferEnabled || dm.preBufferReady then dm.goto .head
  else if dm.isReady then { dm with preBufferReady := true, pc := .callback }
  else dm.goto .head

/-- One media type after the other, video first. -/
def afterMedia (media : MediaType) (pc : MediaType → Pc) : Pc :=
  match media with
  | .video => pc .audio
  | .audio => .head

/-- The thread handles the answer of `av_read_frame`. -/
def handle (dm : Demuxer) : Read → Demuxer
  | .packet m packet =>
    dm.goto (match dm.queue m with
      | some q => .push m ⟨some packet.ref, q.serial⟩
      | none => .check)
  | .other => dm.goto .check
  | .eof isEof => dm.goto (if isEof then .head else .endPush .video)
  | .again => dm.goto .head
  | .failed => dm.goto .idle

/-- One step of the demux thread, and the decoder that the step releases. A `push` waits for
room, an end packet is dropped when there is none. -/
def move (dm : Demuxer) (autoStart : Bool) : Option (Demuxer × Option MediaType) :=
  match dm.pc with
  | .idle => none
  | .head =>
    if dm.requestInterruption then some (dm.goto .idle, none)
    else match dm.coming with
      | [] => none
      | read :: coming => some ({ dm with coming := coming }.handle read, none)
  | .push m packet =>
    (dm.queue m).bind fun q =>
      if q.canPush then some ((dm.setQueue m (q.push packet).2).goto .check, none) else none
  | .check => some (dm.checkPreBufferStatus, none)
  | .endPush m =>
    some (((dm.queue m).elim dm fun q => dm.setQueue m (q.push ⟨some (.ref .blank), q.serial⟩).2).goto
      (afterMedia m .endPush), none)
  | .callback => some (dm.goto (if autoStart then .release .video else .head), none)
  | .release m => some (dm.goto (afterMedia m .release), some m)

/-- Everything a step of the demux thread can do to the pre-buffer. -/
inductive Change (dm : Demuxer) (autoStart : Bool) : Demuxer → Option MediaType → Prop where
  | other {dm' : Demuxer} (hpc : dm.pc.calling = false)
      (enabled : dm'.preBufferEnabled = dm.preBufferEnabled)
      (ready : dm'.preBufferReady = dm.preBufferReady)
      (queue : ∀ m, (dm'.queue m).isSome = (dm.queue m).isSome) : Change dm autoStart dm' none
  | fired (hpc : dm.pc = .check) (henabled : dm.preBufferEnabled = true)
      (hready : dm.preBufferReady = false) (h : dm.isReady = true) :
      Change dm autoStart { dm with preBufferReady := true, pc := .callback } none
  | called (hpc : dm.pc = .callback) :
      Change dm autoStart (dm.goto (if autoStart then .release .video else .head)) none
  | released (m : MediaType) (hpc : dm.pc = .release m) :
      Change dm autoStart (dm.goto (afterMedia m .release)) (some m)

theorem setQueue_isSome {dm : Demuxer} {m : MediaType} (h : (dm.queue m).isSome = true)
    (q : PacketQueue) (m' : MediaType) :
    ((dm.setQueue m q).queue m').isSome = (dm.queue m').isSome := by
  by_cases hm : m' = m
  · subst hm
    simp [setQueue, h]
  · simp [setQueue, hm]

theorem move_change {dm dm' : Demuxer} {autoStart : Bool} {effect : Option MediaType}
    (h : dm.move autoStart = some (dm', effect)) : Change dm autoStart dm' effect := by
  unfold move at h
  cases hpc : dm.pc with
  | idle => simp [hpc] at h
  | head =>
    simp only [hpc] at h
    split_ifs at h with hinterrupt
    · simp only [Option.some.injEq, Prod.mk.injEq] at h
      rcases h with ⟨rfl, rfl⟩
      exact .other (by rw [hpc]; rfl) rfl rfl fun _ => rfl
    · cases hcoming : dm.coming with
      | nil => simp [hcoming] at h
      | cons read coming =>
        simp only [hcoming, Option.some.injEq, Prod.mk.injEq] at h
        rcases h with ⟨rfl, rfl⟩
        cases read <;> exact .other (by rw [hpc]; rfl) rfl rfl fun _ => rfl
  | push m packet =>
    simp only [hpc, Option.bind_eq_some_iff, Option.ite_none_right_eq_some, Option.some.injEq,
      Prod.mk.injEq] at h
    rcases h with ⟨q, hq, _, rfl, rfl⟩
    exact .other (by rw [hpc]; rfl) rfl rfl (setQueue_isSome (by simp [hq]) _)
  | check =>
    simp only [hpc, Option.some.injEq, Prod.mk.injEq] at h
    rcases h with ⟨rfl, rfl⟩
    unfold checkPreBufferStatus
    split_ifs with hskip hready
    · exact .other (by rw [hpc]; rfl) rfl rfl fun _ => rfl
    · simp only [Bool.or_eq_true, Bool.not_eq_true', not_or, Bool.not_eq_false,
        Bool.not_eq_true] at hskip
      exact .fired hpc hskip.1 hskip.2 hready
    · exact .other (by rw [hpc]; rfl) rfl rfl fun _ => rfl
  | endPush m =>
    simp only [hpc, Option.some.injEq, Prod.mk.injEq] at h
    rcases h with ⟨rfl, rfl⟩
    cases hq : dm.queue m with
    | none => exact .other (by rw [hpc]; rfl) rfl rfl fun _ => rfl
    | some q => exact .other (by rw [hpc]; rfl) rfl rfl (setQueue_isSome (by simp [hq]) _)
  | callback =>
    simp only [hpc, Option.some.injEq, Prod.mk.injEq] at h
    rcases h with ⟨rfl, rfl⟩
    exact .called hpc
  | release m =>
    simp only [hpc, Option.some.injEq, Prod.mk.injEq] at h
    rcases h with ⟨rfl, rfl⟩
    exact .released m hpc

end Demuxer

end DecoderSDK.PreBuffer
