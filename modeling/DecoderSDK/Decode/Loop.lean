import DecoderSDK.Base.Compare
import DecoderSDK.Bitstream.Sps
import DecoderSDK.Queues.FrameQueue
import DecoderSDK.Queues.PacketQueue
import DecoderSDK.Interleaving.Runs

/-! # The decode loops

One record holds a decoder, its packet queue and its frame queue. The decode
thread is a program counter with the values its locals hold; every step
touches at most one shared object. What the codec, the converters and the
clock answer is part of the action. Video and audio share the loop and
differ where the media type is tested.

The codec is known by the packets handed to it since it was created or
flushed, and a decoded picture by the packets it can depend on.
-/
namespace DecoderSDK
open Bitstream

inductive CodecId where
  | h264
  | h265
  | other
  deriving DecidableEq

inductive HWAccelType where
  | d3d11va
  | dxva2
  | other
  deriving DecidableEq

inductive AvError where
  | eagain
  | eof
  | invalidData
  | other
  deriving DecidableEq

inductive DecodeEvent where
  | decodeFirstFrame
  | decodeError
  | decodeRecovery
  deriving DecidableEq

structure Codec where
  sent : List Packet
  hwDevice : Bool
  codecId : CodecId
  deriving DecidableEq

structure Picture where
  sources : List Packet
  deriving DecidableEq

/-- A decoded frame on its way to the frame queue. -/
structure Decoded where
  picture : Picture
  pts : ℚ
  duration : ℚ
  deriving DecidableEq

/-- Where the decode thread stands, with the packet, frame or slot it holds. -/
inductive Pc where
  | idle
  | start
  | startFlush
  | head
  | preBuffer
  | pause
  | paused
  | resumed
  | check
  | flushCodec
  | reread
  | endSeeking
  | pop
  | popFailed
  | staleTest (packet : Packet)
  | keyGate (packet : Packet)
  | send (packet : Packet)
  | receive
  | resample (frame : Decoded)
  | seekingTest (frame : Decoded)
  | seekPosTest (frame : Decoded)
  | arrived (frame : Decoded)
  | convert (frame : Decoded)
  | getWritable (frame : Decoded)
  | fill (slot : ℕ) (frame : Decoded)
  | pace (slot : ℕ) (frame : Decoded)
  | commit (slot : ℕ) (frame : Decoded)
  | done
  deriving DecidableEq

/-- The answers a step may depend on. -/
inductive Choice where
  | go
  | sent (result : Except AvError Unit) (now : ℕ) (reopened : Bool)
  | received (result : Except AvError (ℚ × ℚ))
  | converted (result : Except AvError Unit)
  | paced (drop : Bool)

structure Decoder where
  media : MediaType
  packetQueue : PacketQueue
  frameQueue : FrameQueue Picture
  codecCtx : Option Codec
  hwAccel : Option HWAccelType
  needFixSPSProfile : Bool
  enableHardwareFallback : Bool
  enableParseUserSEIData : Bool
  isRealTime : Bool
  isPaused : Bool
  waitingForPreBuffer : Bool
  requestInterruption : Bool
  demuxerSeeking : Bool
  seekPosMs : ℤ
  pc : Pc
  serial : ℕ
  hasKeyFrame : Bool
  readFirstFrame : Bool
  occuredError : Bool
  errorStartTime : Option ℕ
  codecId : CodecId
  seiDataList : List UserSEIData
  events : List DecodeEvent
  /-- The queue's serial when the last packet was popped. -/
  poppedAt : ℕ
  /-- The frames this decoder has stamped and committed. -/
  committed : List (Frame Picture)
  deriving DecidableEq

namespace Decoder

/-- A decoder object before its thread is started. -/
def new (media : MediaType) (packetQueue : PacketQueue) (maxSize : ℕ)
    (isRealTime enableHardwareFallback enableParseUserSEIData : Bool) : Decoder where
  media := media
  packetQueue := packetQueue
  frameQueue := .new maxSize false false
  codecCtx := none
  hwAccel := none
  needFixSPSProfile := false
  enableHardwareFallback := enableHardwareFallback
  enableParseUserSEIData := enableParseUserSEIData
  isRealTime := isRealTime
  isPaused := false
  waitingForPreBuffer := false
  requestInterruption := false
  demuxerSeeking := false
  seekPosMs := -1
  pc := .idle
  serial := 0
  hasKeyFrame := false
  readFirstFrame := false
  occuredError := false
  errorStartTime := none
  codecId := .other
  seiDataList := []
  events := []
  poppedAt := 0
  committed := []

/-- A successful `openInternal`: a new codec context and the slots of the frame queue. -/
def openInternal (d : Decoder) (codecId : CodecId) (hwAccel : Option HWAccelType)
    (needFixSPSProfile : Bool) : Decoder :=
  { d with codecCtx := some ⟨[], hwAccel.isSome, codecId⟩
           hwAccel := hwAccel
           needFixSPSProfile := needFixSPSProfile
           frameQueue := d.frameQueue.init }

def startInternal (d : Decoder) : Decoder :=
  { d with frameQueue := (d.frameQueue.setSerial d.packetQueue.serial).setAbortStatus
             d.packetQueue.aborted
           seekPosMs := 0
           requestInterruption := false
           pc := .start }

def goto (d : Decoder) (pc : Pc) : Decoder := { d with pc := pc }

def flushBuffers (d : Decoder) : Decoder :=
  { d with codecCtx := d.codecCtx.map fun codec => { codec with sent := [] } }

/-- Flush the codec and report, unless the code only says that the stream ended or has no data. -/
def handleDecodeError (d : Decoder) (error : AvError) : Bool × Decoder :=
  if error = .eof ∨ error = .eagain then (false, d)
  else (true, { d.flushBuffers with events := d.events ++ [.decodeError] })

def reportFirstFrame (d : Decoder) : Decoder :=
  if d.readFirstFrame then d
  else { d with readFirstFrame := true
                errorStartTime := if d.media = .video then none else d.errorStartTime
                events := d.events ++ [.decodeFirstFrame] }

def reportRecovery (d : Decoder) : Decoder :=
  if d.occuredError then
    { d with occuredError := false, events := d.events ++ [.decodeRecovery] }
  else d

def shouldFallbackToSoftware (d : Decoder) (error : AvError) : Bool :=
  d.enableHardwareFallback && d.codecCtx.any Codec.hwDevice && error = .invalidData

/-- The old context is freed first; a failure to open the new one leaves none. -/
def reinitializeWithSoftwareDecoder (d : Decoder) (reopened : Bool) : Decoder :=
  { d with codecCtx := if reopened then some ⟨[], false, d.codecId⟩ else none
           hwAccel := none
           needFixSPSProfile := false }

def kDefaultFallbackToleranceTime : ℕ := 2000

def parseSei (d : Decoder) (packet : Packet) : List UserSEIData :=
  if d.media = .video ∧ d.enableParseUserSEIData = true ∧ (d.codecId = .h264 ∨ d.codecId = .h265) then
    (parseSEIFromPacket packet (d.codecId = .h265)).getD []
  else []

/-- The packet as it is handed to the codec, after the repair of its profile. -/
def repaired (d : Decoder) (packet : Packet) : Packet :=
  if d.media = .video ∧ d.codecId = .h264 ∧
      (d.hwAccel = some .d3d11va ∨ d.hwAccel = some .dxva2) ∧ d.needFixSPSProfile = true ∧
      packet.key = true then
    { packet with packet := packet.packet.map fun pkt =>
        if isAnnexBFormat (pkt.data.getD []) = some true then
          (fixAnnexBSPSProfileInPacket pkt).elim pkt Prod.snd
        else pkt }
  else packet

/-- The packet counts as sent whatever the codec answers. -/
def sendPacket (d : Decoder) (packet : Packet) : Decoder :=
  { d with seiDataList := d.parseSei packet
           codecCtx := d.codecCtx.map fun codec =>
             { codec with sent := codec.sent ++ [d.repaired packet] } }

def sendFailed (d : Decoder) (error : AvError) (now : ℕ) (reopened : Bool) : Decoder :=
  match d.media with
  | .audio => d.goto .head
  | .video =>
    if d.readFirstFrame || !d.shouldFallbackToSoftware error then d.goto .head
    else
      let errorStartTime := d.errorStartTime.getD now
      let d := { d with errorStartTime := some errorStartTime }
      if now - errorStartTime < kDefaultFallbackToleranceTime then d.goto .head
      else if reopened then
        { d.reinitializeWithSoftwareDecoder true with
            hasKeyFrame := false, errorStartTime := none, pc := .head }
      else (d.reinitializeWithSoftwareDecoder false).goto .done

/-- The packets the codec has been handed since it was created or flushed. -/
def sent (d : Decoder) : List Packet := d.codecCtx.elim [] Codec.sent

def calculatePts (time : ℚ) : ℚ := if greaterAndEqual time 0 then time else 0

/-- The frame as it is stamped in its slot. -/
def stamped (d : Decoder) (frame : Decoded) : Frame Picture :=
  ⟨.data frame.picture, d.serial, frame.duration, frame.pts, some d.media,
    if d.media = .video then d.seiDataList else []⟩

/-- One step of the decode thread. -/
def loop (d : Decoder) (c : Choice) : Option Decoder :=
  match d.pc with
  | .idle => none
  | .start =>
    some { d with serial := d.packetQueue.serial
                  hasKeyFrame := false
                  readFirstFrame := false
                  occuredError := false
                  errorStartTime := none
                  codecId := d.codecCtx.elim .other Codec.codecId
                  pc := .startFlush }
  | .startFlush =>
    some { d with packetQueue := if d.isRealTime then d.packetQueue.flush else d.packetQueue
                  pc := .head }
  | .head => some (d.goto (if d.requestInterruption then .done else .preBuffer))
  | .preBuffer => some (d.goto (if d.waitingForPreBuffer then .head else .pause))
  | .pause => some (d.goto (if d.isPaused then .paused else .check))
  | .paused =>
    if d.media = .audio ∧ d.isPaused = true ∧ d.requestInterruption = false then none
    else some (d.goto (if d.requestInterruption then .done else .resumed))
  | .resumed =>
    some { d with readFirstFrame := if d.media = .video ∧ d.isPaused = false then false
                    else d.readFirstFrame
                  pc := .head }
  | .check => some (d.goto (if d.serial ≠ d.packetQueue.serial then .flushCodec else .pop))
  | .flushCodec => some (d.flushBuffers.goto .reread)
  | .reread =>
    some { d with serial := d.packetQueue.serial
                  frameQueue := d.frameQueue.setSerial d.packetQueue.serial
                  pc := .endSeeking }
  | .endSeeking => some { d with hasKeyFrame := false, demuxerSeeking := false, pc := .pop }
  | .pop =>
    match d.packetQueue.pop.1 with
    | none => some (d.goto .popFailed)
    | some packet =>
      some { d with packetQueue := d.packetQueue.pop.2
                    poppedAt := d.packetQueue.serial
                    pc := .staleTest packet }
  | .popFailed => some (d.goto (if d.packetQueue.aborted then .done else .head))
  | .staleTest packet =>
    some (d.goto (if packet.serial ≠ d.serial then .head else
      match d.media with
      | .video => .keyGate packet
      | .audio => .send packet))
  | .keyGate packet =>
    if d.hasKeyFrame = false ∧ packet.key = false then some (d.goto .head)
    else some { d with hasKeyFrame := true, pc := .send packet }
  | .send packet =>
    match c with
    | .sent result now reopened => match result with
      | .ok _ => some ((d.sendPacket packet).goto .receive)
      | .error .eagain => some ((d.sendPacket packet).goto .receive)
      | .error .eof => some ((d.sendPacket packet).goto .receive)
      | .error error => some ((d.sendPacket packet).sendFailed error now reopened)
    | _ => none
  | .receive =>
    match c with
    | .received (.ok (time, duration)) =>
      let frame : Decoded := ⟨⟨d.sent⟩, calculatePts time, duration⟩
      some (d.goto (match d.media with
        | .video => .seekingTest frame
        | .audio => .resample frame))
    | .received (.error .eagain) => some (d.goto .head)
    | .received (.error error) =>
      some { (d.handleDecodeError error).2 with
               occuredError := (d.handleDecodeError error).1 || d.occuredError
               pc := .head }
    | _ => none
  | .resample frame =>
    match c with
    | .converted (.ok _) => some (d.goto (.seekingTest frame))
    | .converted (.error error) => some ((d.handleDecodeError error).2.goto .receive)
    | _ => none
  | .seekingTest frame =>
    some (d.goto (if d.demuxerSeeking then .receive else .seekPosTest frame))
  | .seekPosTest frame =>
    some (d.goto (if greater (d.seekPosMs / 1000) 0 then
        if greaterAndEqual frame.pts (d.seekPosMs / 1000) then .arrived frame else .receive
      else .convert frame))
  | .arrived frame => some { d with seekPosMs := -1, pc := .convert frame }
  | .convert frame =>
    match d.media, c with
    | .video, .converted (.ok _) =>
      some (d.reportFirstFrame.reportRecovery.goto (.getWritable frame))
    | .video, .converted (.error _) =>
      some ((d.reportFirstFrame.reportRecovery.handleDecodeError .other).2.goto .receive)
    | .audio, .converted _ =>
      some (d.reportFirstFrame.reportRecovery.goto (.getWritable frame))
    | _, _ => none
  | .getWritable frame =>
    if !d.frameQueue.hasSpace then none
    else match d.frameQueue.getWritableFrame.1 with
      | none => some (d.goto .head)
      | some slot =>
        some { d with frameQueue := d.frameQueue.getWritableFrame.2, pc := .fill slot frame }
  | .fill slot frame =>
    some { d with frameQueue := d.frameQueue.write slot (d.stamped frame), pc := .pace slot frame }
  | .pace slot frame =>
    match d.media, c with
    | .video, .paced true => some (d.goto .receive)
    | _, .paced _ => some (d.goto (.commit slot frame))
    | _, _ => none
  | .commit _ frame =>
    some { d with frameQueue := d.frameQueue.commitFrame
                  committed := d.committed ++ [d.stamped frame]
                  pc := .receive }
  | .done => none

/-- What the other threads do to a decoder and its queues. -/
inductive Action where
  | start (codecId : CodecId) (hwAccel : Option HWAccelType) (needFixSPSProfile : Bool)
  | loop (c : Choice)
  | push (packet : Packet)
  | flush
  | queueStart
  | queueAbort
  | popFrame
  | clearFrames
  | setAbortStatus (abort : Bool)
  | setDemuxerSeeking
  | setSeekPosMs (ms : ℤ)
  | setPaused (paused : Bool)
  | setWaitingForPreBuffer (waiting : Bool)
  | interrupt

/-- The decode thread itself moves. -/
def Action.isLoop : Action → Bool
  | .loop _ => true
  | _ => false

def step (d : Decoder) : Action → Option Decoder
  | .start codecId hwAccel needFix =>
    if d.pc = .idle then some (d.openInternal codecId hwAccel needFix).startInternal else none
  | .loop c => d.loop c
  | .push packet => some { d with packetQueue := (d.packetQueue.push packet).2 }
  | .flush => some { d with packetQueue := d.packetQueue.flush }
  | .queueStart => some { d with packetQueue := d.packetQueue.start }
  | .queueAbort => some { d with packetQueue := d.packetQueue.abort }
  -- the queue that is left does not depend on the reference for a copy
  | .popFrame => some { d with frameQueue := (d.frameQueue.pop true).2 }
  | .clearFrames => some { d with frameQueue := d.frameQueue.clear }
  | .setAbortStatus abort => some { d with frameQueue := d.frameQueue.setAbortStatus abort }
  | .setDemuxerSeeking => some { d with demuxerSeeking := true }
  | .setSeekPosMs ms => some { d with seekPosMs := ms }
  | .setPaused paused => some { d with isPaused := paused }
  | .setWaitingForPreBuffer waiting => some { d with waitingForPreBuffer := waiting }
  | .interrupt => some { d with requestInterruption := true }

end Decoder

end DecoderSDK
