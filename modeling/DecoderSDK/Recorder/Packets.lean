import DecoderSDK.Base.Packet
import DecoderSDK.Timeline.TimeBases

/-! # The real-time stream recorder

The recording thread takes packets from a video and an audio queue. It waits
for a video key frame, rebases the timestamps of each media type to those of
the first packet of that type, converts them to the time base of the output
stream and hands the packet to the muxer. The muxer and the allocator are
FFmpeg's: their answers are inputs of a turn.
-/
namespace DecoderSDK.Recorder
open Timeline

/-- What the recorder asks FFmpeg to compute: `av_rescale_q`, which keeps a stamp when the time
bases are equal, and the text of an error code. -/
structure Muxer where
  rescale : Int64 → TimeBase → TimeBase → Int64
  rescale_self : ∀ ticks tb, rescale ticks tb tb = ticks
  avErr2Str : ℤ → String

/-- The muxer whose rescaling rounds to the nearest. -/
def Muxer.rounding : Muxer where
  rescale ticks src dst := Int64.ofInt (TimeBase.nearest ticks.toInt src dst)
  rescale_self ticks tb := by
    rw [TimeBase.nearest_self, Int64.ofInt_toInt]
  avErr2Str _ := "Error"

/-- A stream of the input; its codec type is `none` when it is neither video nor audio. -/
structure InStream where
  codecType : Option MediaType
  timeBase : TimeBase

/-- A packet as the recorder sees it; an absent stamp is `AV_NOPTS_VALUE`. -/
structure Stamped where
  streamIndex : ℕ
  key : Bool
  pts : Option Int64
  dts : Option Int64
  duration : Int64
  deriving DecidableEq

/-- Video and audio streams get consecutive output indices, the others `-1`. -/
def createStreamMapping (outputStreamIndex : ℕ) : List InStream → List ℤ
  | [] => []
  | stream :: streams =>
    if stream.codecType.isSome then
      (outputStreamIndex : ℤ) :: createStreamMapping (outputStreamIndex + 1) streams
    else -1 :: createStreamMapping outputStreamIndex streams

/-- The streams of one recording session. `initOutputContext` creates an output stream for
each video and audio stream of the input. -/
structure Layout where
  inputs : List InStream
  outputs : List TimeBase
  outputs_length : outputs.length = inputs.countP (·.codecType.isSome)

namespace Layout

def streamMapping (layout : Layout) : List ℤ := createStreamMapping 0 layout.inputs

def streamCount (layout : Layout) : ℕ := layout.inputs.length

/-- The way of a packet: its input time base, output stream and output time base. -/
structure Route where
  inTimeBase : TimeBase
  outStreamIndex : ℕ
  outTimeBase : TimeBase

def route (layout : Layout) (pkt : Stamped) : Option Route := do
  let outStreamIndex ← layout.streamMapping[pkt.streamIndex]?
  if outStreamIndex < 0 then none
  else do
    let inStream ← layout.inputs[pkt.streamIndex]?
    let outTimeBase ← layout.outputs[outStreamIndex.toNat]?
    some ⟨inStream.timeBase, outStreamIndex.toNat, outTimeBase⟩

/-- The packet belongs to an input stream of the media type. -/
def Carries (layout : Layout) (mediaType : MediaType) (pkt : Stamped) : Prop :=
  ∃ stream, layout.inputs[pkt.streamIndex]? = some stream ∧ stream.codecType = some mediaType

theorem streamMapping_getElem {streams : List InStream} {i : ℕ} {stream : InStream} (n : ℕ)
    (hstream : streams[i]? = some stream) (hkept : stream.codecType.isSome = true) :
    ∃ k < streams.countP (·.codecType.isSome),
      (createStreamMapping n streams)[i]? = some ((n + k : ℕ) : ℤ) := by
  induction streams generalizing n i with
  | nil => simp at hstream
  | cons head streams ih =>
    cases i with
    | zero =>
      rw [List.getElem?_cons_zero, Option.some.injEq] at hstream
      subst hstream
      refine ⟨0, ?_, ?_⟩
      · simp [hkept]
      · simp [createStreamMapping, hkept]
    | succ i =>
      rw [List.getElem?_cons_succ] at hstream
      by_cases hhead : head.codecType.isSome
      · rcases ih (n + 1) hstream with ⟨k, hk, hget⟩
        refine ⟨k + 1, ?_, ?_⟩
        · simp only [List.countP_cons, hhead, if_true]
          omega
        · rw [createStreamMapping, if_pos hhead, List.getElem?_cons_succ, hget]
          congr 2
          omega
      · rcases ih n hstream with ⟨k, hk, hget⟩
        refine ⟨k, ?_, ?_⟩
        · simpa [List.countP_cons, hhead] using hk
        · rw [createStreamMapping, if_neg hhead, List.getElem?_cons_succ, hget]

/-- Every packet of a video or audio stream has an output stream. -/
theorem route_of_carries (layout : Layout) {mediaType : MediaType} {pkt : Stamped}
    (h : layout.Carries mediaType pkt) : ∃ route, layout.route pkt = some route := by
  rcases h with ⟨stream, hstream, htype⟩
  rcases streamMapping_getElem 0 hstream (by rw [htype]; rfl) with ⟨k, hk, hget⟩
  rw [← layout.outputs_length] at hk
  refine ⟨⟨stream.timeBase, k, layout.outputs[k]⟩, ?_⟩
  simp [route, streamMapping, hget, hstream, hk]

theorem lt_streamCount_of_carries (layout : Layout) {mediaType : MediaType} {pkt : Stamped}
    (h : layout.Carries mediaType pkt) : pkt.streamIndex < layout.streamCount := by
  rcases h with ⟨stream, hstream, -⟩
  exact (List.getElem?_eq_some_iff.mp hstream).1

end Layout

/-- What FFmpeg answers while one packet is processed: whether `av_packet_alloc` succeeds, and
the results of `av_packet_ref` and `av_interleaved_write_frame`. -/
structure Answers where
  alloc : Bool
  ref : ℤ
  write : ℤ

/-- The packet is copied, so that it reaches the muxer. -/
def Answers.copies (answers : Answers) : Bool := answers.alloc && decide (0 ≤ answers.ref)

/-- A packet handed to `av_interleaved_write_frame`, with the packet it was made from and the
rebased presentation stamp before it is rounded to the output time base. -/
structure Handed where
  mediaType : MediaType
  input : Stamped
  timeBase : TimeBase
  relativePts : Option Int64
  output : Stamped

structure RecordingEventArgs where
  outputPath : String
  format : String
  source : String
  description : String
  errorCode : ℤ
  errorMessage : String

/-- The recorder during one session. -/
structure RealTimeStreamRecorder where
  outputPath : String
  hasKeyFrame : Bool
  firstPts : MediaType → Option Int64
  firstDts : MediaType → Option Int64
  handed : List Handed
  errors : List RecordingEventArgs

namespace RealTimeStreamRecorder

def start (outputPath : String) : RealTimeStreamRecorder :=
  ⟨outputPath, false, fun _ => none, fun _ => none, [], []⟩

def saveFirst (s : RealTimeStreamRecorder) (mediaType : MediaType) (pkt : Stamped) :
    RealTimeStreamRecorder :=
  if (s.firstPts mediaType).isNone then
    let firstPts := pkt.pts.getD 0
    let firstDts := pkt.dts.getD firstPts
    { s with
      firstPts := Function.update s.firstPts mediaType (some firstPts)
      firstDts := Function.update s.firstDts mediaType (some firstDts) }
  else s

/-- The timestamps relative to the first packet, then in the output time base, then with the
decoding stamp not above the presentation stamp. -/
def convert (muxer : Muxer) (route : Layout.Route) (firstPts firstDts : Int64) (pkt : Stamped) :
    Stamped :=
  let rescale := fun ticks => muxer.rescale ticks route.inTimeBase route.outTimeBase
  let pts := (pkt.pts.map (rebase firstPts)).map rescale
  let dts := (pkt.dts.map (rebase firstDts)).map rescale
  { pkt with
    streamIndex := route.outStreamIndex
    pts := pts
    dts := match dts, pts with
      | some dts, some pts => some (if dts > pts then pts else dts)
      | dts, _ => dts
    duration := if pkt.duration > 0 then rescale pkt.duration else pkt.duration }

def handOver (muxer : Muxer) (route : Layout.Route) (s : RealTimeStreamRecorder)
    (mediaType : MediaType) (pkt : Stamped) : RealTimeStreamRecorder :=
  let firstPts := (s.firstPts mediaType).getD 0
  let firstDts := (s.firstDts mediaType).getD 0
  { s with handed := s.handed ++ [
    { mediaType := mediaType
      input := pkt
      timeBase := route.inTimeBase
      relativePts := pkt.pts.map (rebase firstPts)
      output := convert muxer route firstPts firstDts pkt }] }

def reportError (muxer : Muxer) (s : RealTimeStreamRecorder) (ret : ℤ) :
    RealTimeStreamRecorder :=
  { s with errors := s.errors ++ [
    ⟨s.outputPath, "mp4", "RealTimeStreamRecorder", "Recording Error", ret, muxer.avErr2Str ret⟩] }

variable (muxer : Muxer) (layout : Layout)

def processPacket (s : RealTimeStreamRecorder) (mediaType : MediaType) (pkt : Stamped)
    (answers : Answers) : Bool × RealTimeStreamRecorder :=
  if layout.streamCount ≤ pkt.streamIndex then (false, s)
  else if mediaType = .video ∧ s.hasKeyFrame = false ∧ pkt.key = false then (false, s)
  else
    let s := if mediaType = .video then { s with hasKeyFrame := true } else s
    match layout.route pkt with
    | none => (false, s)
    | some route =>
      let s := s.saveFirst mediaType pkt
      if answers.copies = false then (false, s)
      else
        let s := s.handOver muxer route mediaType pkt
        if answers.write < 0 then (false, s.reportError muxer answers.write) else (true, s)

/-- The packet passes the key-frame gate. -/
def passes (s : RealTimeStreamRecorder) (mediaType : MediaType) (pkt : Stamped) : Bool :=
  decide (pkt.streamIndex < layout.streamCount) &&
    (decide (mediaType = .audio) || s.hasKeyFrame || pkt.key)

/-- The packet gets as far as the timestamps. -/
def takes (s : RealTimeStreamRecorder) (mediaType : MediaType) (pkt : Stamped) : Bool :=
  s.passes layout mediaType pkt && (layout.route pkt).isSome

@[simp] theorem saveFirst_handed (s : RealTimeStreamRecorder) (mediaType : MediaType)
    (pkt : Stamped) : (s.saveFirst mediaType pkt).handed = s.handed := by
  unfold saveFirst
  split <;> rfl

theorem passes_eq_false_iff (s : RealTimeStreamRecorder) (mediaType : MediaType)
    (pkt : Stamped) : s.passes layout mediaType pkt = false ↔ layout.streamCount ≤ pkt.streamIndex ∨
      mediaType = .video ∧ s.hasKeyFrame = false ∧ pkt.key = false := by
  cases mediaType with
  | video => cases hkey : s.hasKeyFrame <;> cases hpkt : pkt.key <;> simp [passes, hkey, hpkt]
  | audio => simp [passes]

theorem takes_cases (s : RealTimeStreamRecorder) (mediaType : MediaType) (pkt : Stamped) :
    (∃ route, s.passes layout mediaType pkt = true ∧ layout.route pkt = some route) ∨
      s.takes layout mediaType pkt = false := by
  unfold takes
  cases hpass : s.passes layout mediaType pkt with
  | false => exact .inr rfl
  | true =>
    cases hroute : layout.route pkt with
    | none => exact .inr rfl
    | some route => exact .inl ⟨route, rfl, rfl⟩

/-- A packet that is not taken leaves everything but the key-frame flag as it is. -/
theorem processPacket_of_not_takes {s : RealTimeStreamRecorder} {mediaType : MediaType}
    {pkt : Stamped} (h : s.takes layout mediaType pkt = false) (answers : Answers) :
    (s.processPacket muxer layout mediaType pkt answers).2 =
      { s with hasKeyFrame := s.hasKeyFrame ||
        (decide (mediaType = .video) && s.passes layout mediaType pkt) } := by
  cases hpass : s.passes layout mediaType pkt with
  | false =>
    rcases (passes_eq_false_iff layout s mediaType pkt).mp hpass with hindex | hkey
    · simp [processPacket, hindex]
    · have hsame : s = { s with hasKeyFrame := false } := by
        rw [← hkey.2.1]
      by_cases hindex : layout.streamCount ≤ pkt.streamIndex
      · simp [processPacket, hindex]
      · simpa [processPacket, hindex, hkey] using hsame
  | true =>
    have hroute : layout.route pkt = none := by
      simpa [takes, hpass] using h
    have hnot := (passes_eq_false_iff layout s mediaType pkt).not.mp (by simp [hpass])
    rw [not_or] at hnot
    rw [processPacket, if_neg hnot.1, if_neg hnot.2]
    cases mediaType with
    | video => simp [hroute]
    | audio => simp [hroute]

/-- A packet that is taken has its media type's first timestamps saved. -/
theorem processPacket_of_takes {s : RealTimeStreamRecorder} {mediaType : MediaType} {pkt : Stamped}
    {route : Layout.Route} (hpass : s.passes layout mediaType pkt = true)
    (hroute : layout.route pkt = some route) (answers : Answers) :
    let saved := s.saveFirst mediaType pkt
    let next := (s.processPacket muxer layout mediaType pkt answers).2
    next.firstPts = saved.firstPts ∧ next.firstDts = saved.firstDts ∧
      next.hasKeyFrame = (s.hasKeyFrame || decide (mediaType = .video)) ∧
      next.handed = if answers.copies then (saved.handOver muxer route mediaType pkt).handed
        else s.handed := by
  have hnot := (passes_eq_false_iff layout s mediaType pkt).not.mp (by simp [hpass])
  rw [not_or] at hnot
  rw [processPacket, if_neg hnot.1, if_neg hnot.2]
  simp only [hroute]
  cases mediaType with
  | video =>
    by_cases hfirst : (s.firstPts .video).isNone <;> cases hcopy : answers.copies <;>
      by_cases hwrite : answers.write < 0 <;>
      simp [saveFirst, handOver, reportError, hfirst, hwrite]
  | audio =>
    by_cases hfirst : (s.firstPts .audio).isNone <;> cases hcopy : answers.copies <;>
      by_cases hwrite : answers.write < 0 <;>
      simp [saveFirst, handOver, reportError, hfirst, hwrite]

end RealTimeStreamRecorder

end DecoderSDK.Recorder
