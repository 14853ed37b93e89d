import DecoderSDK.Bytes.Checked
import DecoderSDK.Numbered.Selection
import DecoderSDK.Recorder.Starting

/-! # The stream map of a recording

`initOutputContext` and `createStreamMapping` go through the input streams one
after the other, each with a test of its own for video and audio. What the first
one creates is the selection that the second one numbers, so that a packet goes
to the copy of its own stream.
-/
namespace DecoderSDK.Recorder.Mapping
open Bytes Timeline Numbered Interleaving

inductive AVMediaType where
  | unknown
  | video
  | audio
  | data
  | subtitle
  | attachment
  deriving DecidableEq

def AVMediaType.toMediaType : AVMediaType → Option MediaType
  | .video => some .video
  | .audio => some .audio
  | _ => none

/-- The parameters of a codec. The recorder reads the type and the name that belongs to the codec
id, and resets the tag; the rest is copied with them. -/
structure AVCodecParameters (π : Type*) where
  codecType : AVMediaType
  codecName : String
  codecTag : ℕ
  rest : π
  deriving DecidableEq

structure AVStream (π : Type*) where
  codecpar : AVCodecParameters π
  timeBase : TimeBase

/-- A stream of the output, with the index of the input stream it was created for; without
parameters after a failed copy. -/
structure OutStream (π : Type*) where
  codecpar : Option (AVCodecParameters π)
  copiedFrom : ℕ
  deriving DecidableEq

variable {π : Type*}

/-- The output stream for the input stream with index `i`. -/
def copyOf (inStream : AVStream π) (i : ℕ) : OutStream π :=
  ⟨some { inStream.codecpar with codecTag := 0 }, i⟩

/-- The loop that copies the video and audio streams, from the stream with index `i`. -/
def copyStreams (answers : Starting.Answers) (i : ℕ) :
    List (AVStream π) → List (OutStream π) → Bool × List (OutStream π)
  | [], out => (true, out)
  | inStream :: rest, out =>
    if inStream.codecpar.codecType ≠ .video ∧ inStream.codecpar.codecType ≠ .audio then
      copyStreams answers (i + 1) rest out
    else if answers.newStream i = false then (false, out)
    else if answers.parametersCopy i < 0 then (false, out ++ [⟨none, i⟩])
    else copyStreams answers (i + 1) rest (out ++ [copyOf inStream i])

/-- The result, and the streams of the output context if there is one. -/
def initOutputContext (streams : List (AVStream π)) (answers : Starting.Answers) :
    Bool × Option (List (OutStream π)) :=
  if answers.hasContext = false then (false, none)
  else if answers.allocOutput < 0 then (false, some [])
  else
    let copied := copyStreams answers 0 streams []
    if copied.1 = false then (false, some copied.2)
    else if answers.noFile = false ∧ answers.avioOpen < 0 then (false, some copied.2)
    else if answers.writeHeader < 0 then (false, some copied.2)
    else (true, some copied.2)

/-- The loop that fills the table. -/
def mappingFrom (outputStreamIndex : ℕ) : List (AVStream π) → List ℤ
  | [] => []
  | inStream :: rest =>
    if inStream.codecpar.codecType = .video ∨ inStream.codecpar.codecType = .audio then
      (outputStreamIndex : ℤ) :: mappingFrom (outputStreamIndex + 1) rest
    else -1 :: mappingFrom outputStreamIndex rest

/-- The result, `streamCount_` and `streamMapping_`. -/
def createStreamMapping (streams : List (AVStream π)) (answers : Starting.Answers) :
    Bool × ℕ × Option (List ℤ) :=
  if answers.mallocArray then (true, streams.length, some (mappingFrom 0 streams))
  else (false, streams.length, none)

/-- The fields that `processPacket` reads. The time bases of the output streams are those that the
muxer has chosen. -/
structure Contexts (π : Type*) where
  outputFormatCtx : Option (List (OutStream π))
  inputFormatCtx : Option (List (AVStream π))
  streamMapping : Option (List ℤ)
  streamCount : ℕ
  outTimeBase : ℕ → TimeBase

/-- A call of `processPacket`; the packet may be empty. -/
structure Call where
  mediaType : MediaType
  pkt : Option Stamped
  answers : Answers

/-- `processPacket` with every access to the table and to the streams checked. -/
def processPacket (muxer : Muxer) (c : Contexts π) (s : RealTimeStreamRecorder) (call : Call) :
    Option (Bool × RealTimeStreamRecorder) :=
  match c.outputFormatCtx, c.inputFormatCtx, c.streamMapping, call.pkt with
  | some outStreams, some inStreams, some streamMapping, some pkt =>
    if c.streamCount ≤ pkt.streamIndex then some (false, s)
    else if call.mediaType = .video ∧ s.hasKeyFrame = false ∧ pkt.key = false then
      some (false, s)
    else
      let s := if call.mediaType = .video then { s with hasKeyFrame := true } else s
      (readAt streamMapping pkt.streamIndex).bind fun outStreamIndex =>
        if outStreamIndex < 0 then some (false, s)
        else
          (readAt inStreams pkt.streamIndex).bind fun inStream =>
            (readAt outStreams outStreamIndex.toNat).bind fun _ =>
              let route : Layout.Route :=
                ⟨inStream.timeBase, outStreamIndex.toNat, c.outTimeBase outStreamIndex.toNat⟩
              let s := s.saveFirst call.mediaType pkt
              if call.answers.copies = false then some (false, s)
              else
                let s := s.handOver muxer route call.mediaType pkt
                if call.answers.write < 0 then some (false, s.reportError muxer call.answers.write)
                else some (true, s)
  | _, _, _, _ => some (false, s)

/-- What a call leaves. -/
def turn (muxer : Muxer) (c : Contexts π) (s : RealTimeStreamRecorder) (call : Call) :
    Option RealTimeStreamRecorder :=
  (processPacket muxer c s call).map Prod.snd

/-- The stream is a video or an audio stream. -/
def isRecorded (stream : AVStream π) : Bool :=
  decide (stream.codecpar.codecType = .video ∨ stream.codecpar.codecType = .audio)

/-- The output streams are the video and audio streams in order, and the table leads from these to
their copies: every entry but `-1` is the index of one output stream, and every output stream has
one entry. -/
structure Matches (streams : List (AVStream π)) (outputs : List (OutStream π))
    (mapping : List ℤ) : Prop where
  outputs_eq : outputs = (streams.zipIdx.filter fun e => isRecorded e.1).map fun e => copyOf e.1 e.2
  length : mapping.length = streams.length
  unmapped : ∀ (i : ℕ) (stream : AVStream π), streams[i]? = some stream →
    (mapping[i]? = some (-1) ↔
      stream.codecpar.codecType ≠ .video ∧ stream.codecpar.codecType ≠ .audio)
  mapped : ∀ (i : ℕ) (stream : AVStream π), streams[i]? = some stream →
    stream.codecpar.codecType = .video ∨ stream.codecpar.codecType = .audio →
      ∃ k : ℕ, mapping[i]? = some (k : ℤ) ∧ outputs[k]? = some (copyOf stream i)
  injective : ∀ (i j k : ℕ),
    mapping[i]? = some (k : ℤ) → mapping[j]? = some (k : ℤ) → i = j
  onto : ∀ k : ℕ, (∃ i : ℕ, mapping[i]? = some (k : ℤ)) ↔ k < outputs.length

/-- The packet went to the copy of its own stream. -/
def Routed (streams : List (AVStream π)) (outputs : List (OutStream π)) (h : Handed) : Prop :=
  ∃ stream, streams[h.input.streamIndex]? = some stream ∧
    outputs[h.output.streamIndex]? = some (copyOf stream h.input.streamIndex)

section Loops

theorem isRecorded_eq_false_iff (stream : AVStream π) : isRecorded stream = false ↔
    stream.codecpar.codecType ≠ .video ∧ stream.codecpar.codecType ≠ .audio := by
  rw [isRecorded, decide_eq_false_iff_not, not_or]

/-- The first loop collects the selection. -/
theorem copyStreams_eq {answers : Starting.Answers} (streams : List (AVStream π)) (i : ℕ)
    (out : List (OutStream π)) (h : (copyStreams answers i streams out).1 = true) :
    (copyStreams answers i streams out).2 =
      out ++ (selected isRecorded i streams).map fun e => copyOf e.1 e.2 := by
  induction streams generalizing i out with
  | nil => exact (List.append_nil out).symm
  | cons inStream rest ih =>
    rw [copyStreams] at h ⊢
    simp only [← isRecorded_eq_false_iff] at h ⊢
    rw [selected_cons]
    by_cases hskip : isRecorded inStream = false
    · have hnot : ¬ isRecorded inStream = true := by simp [hskip]
      rw [if_pos hskip] at h ⊢
      rw [if_neg hnot]
      exact ih (i + 1) out h
    · rw [if_neg hskip] at h ⊢
      rw [Bool.not_eq_false] at hskip
      split_ifs at h ⊢
      have hrest := ih (i + 1) (out ++ [copyOf inStream i]) h
      rw [hrest, List.map_cons, List.append_assoc]
      rfl

/-- An entry of the table. -/
def entry : Option ℕ → ℤ
  | some k => k
  | none => -1

/-- The second loop numbers the selection. -/
theorem mappingFrom_eq (outputStreamIndex : ℕ) (streams : List (AVStream π)) :
    mappingFrom outputStreamIndex streams =
      (numbers isRecorded outputStreamIndex streams).map entry := by
  induction streams generalizing outputStreamIndex with
  | nil => rfl
  | cons inStream rest ih =>
    rw [mappingFrom, numbers]
    by_cases hrecorded :
        inStream.codecpar.codecType = .video ∨ inStream.codecpar.codecType = .audio
    · have htrue : isRecorded inStream = true := decide_eq_true hrecorded
      rw [if_pos hrecorded, if_pos htrue, ih, List.map_cons]
      rfl
    · have hfalse : ¬ isRecorded inStream = true := by simpa [isRecorded] using hrecorded
      rw [if_neg hrecorded, if_neg hfalse, ih, List.map_cons]
      rfl

theorem entry_injective : Function.Injective entry := by
  intro a b h
  cases a <;> cases b <;> simp only [entry] at h
  · rfl
  · omega
  · omega
  · rw [Int.ofNat_inj.mp h]

theorem mappingFrom_getElem? (streams : List (AVStream π)) (i : ℕ) (n : Option ℕ) :
    (mappingFrom 0 streams)[i]? = some (entry n) ↔
      (numbers isRecorded 0 streams)[i]? = some n := by
  rw [mappingFrom_eq, List.getElem?_map, ← Option.map_some]
  exact (Option.map_injective entry_injective).eq_iff

/-- The copies of the video and audio streams, in order. -/
def recorded (streams : List (AVStream π)) : List (OutStream π) :=
  (selected isRecorded 0 streams).map fun e => copyOf e.1 e.2

theorem matches_recorded (streams : List (AVStream π)) :
    Matches streams (recorded streams) (mappingFrom 0 streams) where
  outputs_eq := rfl
  length := by rw [mappingFrom_eq, List.length_map, numbers_length]
  unmapped i stream hstream := by
    rw [← isRecorded_eq_false_iff, ← numbers_eq_none_iff 0 hstream]
    exact mappingFrom_getElem? streams i none
  mapped i stream hstream htype := by
    have hrecorded : isRecorded stream = true := decide_eq_true htype
    obtain ⟨k, hnumber, hplace⟩ := exists_number hstream hrecorded
    refine ⟨k, (mappingFrom_getElem? streams i (some k)).mpr hnumber, ?_⟩
    rw [recorded, List.getElem?_map, hplace]
    rfl
  injective i j k hi hj :=
    numbers_injective ((mappingFrom_getElem? streams i (some k)).mp hi)
      ((mappingFrom_getElem? streams j (some k)).mp hj)
  onto k := by
    rw [recorded, List.length_map, ← exists_numbers_iff]
    exact exists_congr fun i => mappingFrom_getElem? streams i (some k)

theorem initOutputContext_eq {streams : List (AVStream π)} {answers : Starting.Answers}
    (h : (initOutputContext streams answers).1 = true) :
    initOutputContext streams answers = (true, some (recorded streams)) := by
  dsimp only [initOutputContext] at h ⊢
  split_ifs at h ⊢ with hcontext halloc hcopied hfile hheader
  rw [Bool.not_eq_false] at hcopied
  rw [copyStreams_eq streams 0 [] hcopied]
  rfl

theorem createStreamMapping_eq {streams : List (AVStream π)} {answers : Starting.Answers}
    (h : (createStreamMapping streams answers).1 = true) :
    createStreamMapping streams answers =
      (true, streams.length, some (mappingFrom 0 streams)) := by
  unfold createStreamMapping at h ⊢
  split_ifs at h ⊢
  rfl

end Loops

section Layouts
variable (streams : List (AVStream π)) (outTimeBase : ℕ → TimeBase)

def AVStream.toInStream (stream : AVStream π) : InStream :=
  ⟨stream.codecpar.codecType.toMediaType, stream.timeBase⟩

theorem AVStream.codecType_isSome (stream : AVStream π) :
    stream.toInStream.codecType.isSome = isRecorded stream := by
  unfold toInStream isRecorded
  cases stream.codecpar.codecType <;> rfl

theorem createStreamMapping_toInStream (n : ℕ) :
    Recorder.createStreamMapping n (streams.map (·.toInStream)) = mappingFrom n streams := by
  induction streams generalizing n with
  | nil => rfl
  | cons inStream rest ih =>
    rw [List.map_cons, Recorder.createStreamMapping, mappingFrom, AVStream.codecType_isSome]
    simp only [isRecorded, decide_eq_true_eq, ih]

/-- The streams as a session sees them. -/
def layout : Layout where
  inputs := streams.map (·.toInStream)
  outputs := (List.range (recorded streams).length).map outTimeBase
  outputs_length := by
    have hselected : (selected isRecorded 0 streams).length = streams.countP isRecorded := by
      rw [List.countP_eq_length_filter, ← selected_map_fst 0, List.length_map]
    rw [List.length_map, List.length_range, recorded, List.length_map, hselected, List.countP_map]
    apply List.countP_congr
    intro stream _
    rw [Function.comp_apply, AVStream.codecType_isSome]

/-- The fields after `initOutputContext` and `createStreamMapping`. -/
def contexts : Contexts π :=
  ⟨some (recorded streams), some streams, some (mappingFrom 0 streams), streams.length,
    outTimeBase⟩

/-- An entry of the table is `-1` where a session has no route, and otherwise the index of the copy
that the route leads to. -/
theorem route_cases {pkt : Stamped} (hindex : pkt.streamIndex < streams.length) :
    ((mappingFrom 0 streams)[pkt.streamIndex]? = some (-1) ∧
      (layout streams outTimeBase).route pkt = none) ∨
    ∃ stream, ∃ k : ℕ, streams[pkt.streamIndex]? = some stream ∧
      (mappingFrom 0 streams)[pkt.streamIndex]? = some (k : ℤ) ∧
      (recorded streams)[k]? = some (copyOf stream pkt.streamIndex) ∧
      (layout streams outTimeBase).route pkt = some ⟨stream.timeBase, k, outTimeBase k⟩ := by
  have hmatches := matches_recorded streams
  have hstream := List.getElem?_eq_getElem hindex
  have hmapping : (layout streams outTimeBase).streamMapping = mappingFrom 0 streams :=
    createStreamMapping_toInStream streams 0
  cases hrecorded : isRecorded streams[pkt.streamIndex] with
  | false =>
    have hentry := (hmatches.unmapped _ _ hstream).mpr
      ((isRecorded_eq_false_iff _).mp hrecorded)
    refine .inl ⟨hentry, ?_⟩
    simp [Layout.route, hmapping, hentry]
  | true =>
    obtain ⟨k, hentry, hcopy⟩ := hmatches.mapped _ _ hstream (of_decide_eq_true hrecorded)
    have hk : k < (recorded streams).length := (List.getElem?_eq_some_iff.mp hcopy).1
    have hinput : (layout streams outTimeBase).inputs[pkt.streamIndex]? =
        some streams[pkt.streamIndex].toInStream := by
      rw [layout, List.getElem?_map, hstream, Option.map_some]
    have houtput : (layout streams outTimeBase).outputs[k]? = some (outTimeBase k) := by
      rw [layout, List.getElem?_map, List.getElem?_range hk, Option.map_some]
    refine .inr ⟨_, k, hstream, hentry, hcopy, ?_⟩
    simp [Layout.route, hmapping, hentry, hinput, houtput, AVStream.toInStream]

theorem lt_of_route {pkt : Stamped} {route : Layout.Route}
    (h : (layout streams outTimeBase).route pkt = some route) :
    pkt.streamIndex < streams.length := by
  obtain ⟨entry, hentry, -⟩ := Option.bind_eq_some_iff.mp h
  have hlt := (List.getElem?_eq_some_iff.mp hentry).1
  rwa [Layout.streamMapping, layout, createStreamMapping_toInStream,
    (matches_recorded streams).length] at hlt

/-- No access is outside the table or the streams, and a session does the same. -/
theorem processPacket_eq (muxer : Muxer) (s : RealTimeStreamRecorder) (mediaType : MediaType)
    (pkt : Stamped) (answers : Answers) :
    processPacket muxer (contexts streams outTimeBase) s ⟨mediaType, some pkt, answers⟩ =
      some (s.processPacket muxer (layout streams outTimeBase) mediaType pkt answers) := by
  have hcount : (layout streams outTimeBase).streamCount = streams.length := List.length_map _
  dsimp only [processPacket, contexts, RealTimeStreamRecorder.processPacket]
  rw [hcount]
  by_cases hindex : streams.length ≤ pkt.streamIndex
  · rw [if_pos hindex, if_pos hindex]
  · rw [if_neg hindex, if_neg hindex]
    by_cases hkey : mediaType = .video ∧ s.hasKeyFrame = false ∧ pkt.key = false
    · rw [if_pos hkey, if_pos hkey]
    · rw [if_neg hkey, if_neg hkey]
      rcases route_cases streams outTimeBase (not_le.mp hindex) with
        ⟨hentry, hroute⟩ | ⟨stream, k, hstream, hentry, hcopy, hroute⟩
      · rw [readAt, hentry, hroute, Option.bind_some, if_pos (by decide)]
      · have hpos : ¬ (k : ℤ) < 0 := by omega
        rw [readAt, hentry, hroute, Option.bind_some, if_neg hpos, readAt, hstream,
          Option.bind_some, readAt, Int.toNat_natCast, hcopy, Option.bind_some]
        split_ifs <;> rfl

end Layouts

section Setups
variable (streams : List (AVStream π)) (answers : Starting.Answers)

def AVStream.toCoded (stream : AVStream π) : CodedStream :=
  ⟨stream.toInStream, stream.codecpar.codecName⟩

def OutStream.codecName (out : OutStream π) : Option String := out.codecpar.map (·.codecName)

theorem copyStreams_toCoded (i : ℕ) (out : List (OutStream π)) :
    Starting.Setup.copyStreams answers i (streams.map (·.toCoded)) (out.map (·.codecName)) =
      ((copyStreams answers i streams out).1,
        (copyStreams answers i streams out).2.map (·.codecName)) := by
  induction streams generalizing i out with
  | nil => rfl
  | cons inStream rest ih =>
    have hskip : inStream.toCoded.codecType.isNone = true ↔
        inStream.codecpar.codecType ≠ .video ∧ inStream.codecpar.codecType ≠ .audio := by
      rw [← isRecorded_eq_false_iff, ← AVStream.codecType_isSome]
      exact Option.isSome_eq_false_iff.symm
    rw [List.map_cons, Starting.Setup.copyStreams, copyStreams]
    simp only [hskip]
    split_ifs with hother hnew hcopy
    · exact ih (i + 1) out
    · rfl
    · rw [List.map_append]
      rfl
    · have hrest := ih (i + 1) (out ++ [copyOf inStream i])
      rw [List.map_append] at hrest
      exact hrest

/-- The results of the two functions, the output streams and the table are those of the recorder
between its calls. -/
theorem initOutputContext_toCoded (s : Starting.Setup) (outputPath : String) :
    let opened := s.initOutputContext outputPath ⟨streams.map (·.toCoded)⟩ answers
    opened.1 = (initOutputContext streams answers).1 ∧
      opened.2.outputFormatCtx.map (·.streams) =
        (initOutputContext streams answers).2.map fun out => out.map (·.codecName) := by
  have hcopied := copyStreams_toCoded streams answers 0 []
  rw [List.map_nil] at hcopied
  dsimp only [Starting.Setup.initOutputContext, initOutputContext]
  rw [hcopied]
  split_ifs <;> exact ⟨rfl, rfl⟩

theorem createStreamMapping_toCoded (s : Starting.Setup) :
    let mapped := s.createStreamMapping ⟨streams.map (·.toCoded)⟩ answers
    (mapped.1, mapped.2.streamCount, mapped.2.streamMapping) =
        createStreamMapping streams answers ∧
      mapped.2.outputFormatCtx = s.outputFormatCtx := by
  have hmapping : Recorder.createStreamMapping 0
      ((streams.map (·.toCoded)).map (·.toInStream)) = mappingFrom 0 streams := by
    rw [List.map_map]
    exact createStreamMapping_toInStream streams 0
  dsimp only [Starting.Setup.createStreamMapping, createStreamMapping]
  rw [hmapping, List.length_map]
  split_ifs <;> exact ⟨rfl, rfl⟩

/-- A successful start has gone through both functions with the same input. -/
theorem startRecording_true {s : Starting.RealTimeStreamRecorder} {request : Starting.Request}
    {input : InputFormatContext} (hinput : request.inputFormatCtx = some input)
    (h : (s.startRecording request).1 = true) :
    ∃ setup : Starting.Setup,
      let opened := setup.initOutputContext request.outputPath input request.answers
      let mapped := opened.2.createStreamMapping input request.answers
      opened.1 = true ∧ mapped.1 = true ∧ (s.startRecording request).2.setup = mapped.2 := by
  unfold Starting.RealTimeStreamRecorder.startRecording at h ⊢
  simp only [hinput] at h ⊢
  by_cases hbusy : s.isRecording = true
  · rw [if_pos hbusy] at h
    cases h
  by_cases hformat : detectContainerFormat request.outputPath = .UNKNOWN
  · rw [if_neg hbusy, if_pos hformat] at h
    cases h
  rw [if_neg hbusy, if_neg hformat] at h ⊢
  cases hvalid : validateFormatCompatibility (detectContainerFormat request.outputPath)
      (some input) with
  | error message =>
    simp only [hvalid] at h
    cases h
  | ok _ =>
    simp only [hvalid] at h ⊢
    split_ifs at h ⊢ with hopened hmapped
    rw [Bool.not_eq_false] at hopened hmapped
    exact ⟨_, hopened, hmapped, rfl⟩

end Setups

/-- What a call hands over has the index of its route. -/
theorem handed_cases (muxer : Muxer) (layout : Layout) (s : RealTimeStreamRecorder)
    (mediaType : MediaType) (pkt : Stamped) (answers : Answers) :
    let next := (s.processPacket muxer layout mediaType pkt answers).2
    next.handed = s.handed ∨ ∃ route h, layout.route pkt = some route ∧
      next.handed = s.handed ++ [h] ∧ h.input = pkt ∧
        h.output.streamIndex = route.outStreamIndex := by
  intro next
  rcases s.takes_cases layout mediaType pkt with ⟨route, hpass, hroute⟩ | hnot
  · obtain ⟨-, -, -, hhanded⟩ :=
      RealTimeStreamRecorder.processPacket_of_takes muxer layout hpass hroute answers
    cases hcopies : answers.copies with
    | false =>
      rw [hcopies, if_neg Bool.false_ne_true] at hhanded
      exact .inl hhanded
    | true =>
      rw [hcopies, if_pos rfl, RealTimeStreamRecorder.handOver,
        RealTimeStreamRecorder.saveFirst_handed] at hhanded
      exact .inr ⟨route, _, hroute, hhanded, rfl, rfl⟩
  · left
    have hnext := RealTimeStreamRecorder.processPacket_of_not_takes muxer layout hnot answers
    have hsame := congrArg RealTimeStreamRecorder.handed hnext
    exact hsame

/-- A call reads inside the table and the streams, and sends its packet to the copy of the
packet's own stream. -/
theorem turn_routed (muxer : Muxer) (streams : List (AVStream π)) (outTimeBase : ℕ → TimeBase)
    (s : RealTimeStreamRecorder) (call : Call) :
    ∃ s', turn muxer (contexts streams outTimeBase) s call = some s' ∧
      ∀ h ∈ s'.handed, h ∈ s.handed ∨ Routed streams (recorded streams) h := by
  obtain ⟨mediaType, pkt, answers⟩ := call
  cases pkt with
  | none => exact ⟨s, rfl, fun h hmem => .inl hmem⟩
  | some pkt =>
    rw [turn, processPacket_eq]
    refine ⟨_, rfl, ?_⟩
    intro h hmem
    rcases handed_cases muxer (layout streams outTimeBase) s mediaType pkt answers with
      hsame | ⟨route, new, hroute, hnew, hinput, hindex⟩
    · rw [hsame] at hmem
      exact .inl hmem
    · rw [hnew, List.mem_append, List.mem_singleton] at hmem
      rcases hmem with hold | rfl
      · exact .inl hold
      · right
        rcases route_cases streams outTimeBase (lt_of_route streams outTimeBase hroute) with
          ⟨-, hnone⟩ | ⟨stream, k, hstream, -, hcopy, hsome⟩
        · rw [hnone] at hroute
          cases hroute
        · rw [hsome, Option.some.injEq] at hroute
          refine ⟨stream, ?_, ?_⟩
          · rw [hinput]
            exact hstream
          · rw [hinput, hindex, ← hroute]
            exact hcopy

theorem run_routed (muxer : Muxer) (streams : List (AVStream π)) (outTimeBase : ℕ → TimeBase)
    (s : RealTimeStreamRecorder) (calls : List Call) :
    ∃ s', run (turn muxer (contexts streams outTimeBase)) s calls = some s' ∧
      ∀ h ∈ s'.handed, h ∈ s.handed ∨ Routed streams (recorded streams) h := by
  induction calls generalizing s with
  | nil => exact ⟨s, rfl, fun h hmem => .inl hmem⟩
  | cons call calls ih =>
    obtain ⟨t, hturn, hstep⟩ := turn_routed muxer streams outTimeBase s call
    obtain ⟨s', hrun, hrest⟩ := ih t
    refine ⟨s', ?_, ?_⟩
    · rw [run, hturn, Option.bind_some]
      exact hrun
    · intro h hmem
      rcases hrest h hmem with hearlier | hrouted
      · exact hstep h hearlier
      · exact .inr hrouted

/-- After a successful start the output streams are the video and audio streams in order, the table
leads to them and nowhere else, and every packet goes to the copy of its own stream. -/
theorem streamMapping_matches {streams : List (AVStream π)} {answers : Starting.Answers}
    {outputs : List (OutStream π)} {streamCount : ℕ} {mapping : List ℤ}
    (hinit : initOutputContext streams answers = (true, some outputs))
    (hmap : createStreamMapping streams answers = (true, streamCount, some mapping)) :
    Matches streams outputs mapping ∧
    ∀ (muxer : Muxer) (outTimeBase : ℕ → TimeBase) (s : RealTimeStreamRecorder)
      (calls : List Call),
      ∃ s',
        run (turn muxer ⟨some outputs, some streams, some mapping, streamCount, outTimeBase⟩)
          s calls = some s' ∧
        ∀ h ∈ s'.handed, h ∈ s.handed ∨ Routed streams outputs h := by
  rw [initOutputContext_eq (congrArg Prod.fst hinit)] at hinit
  rw [createStreamMapping_eq (congrArg Prod.fst hmap)] at hmap
  cases hinit
  cases hmap
  refine ⟨matches_recorded streams, ?_⟩
  intro muxer outTimeBase s calls
  exact run_routed muxer streams outTimeBase s calls

/-- In a recorder that has started, the table leads to the output streams in the same way. -/
theorem startRecording_matches {s : Starting.RealTimeStreamRecorder} {request : Starting.Request}
    {streams : List (AVStream π)}
    (hinput : request.inputFormatCtx = some ⟨streams.map (·.toCoded)⟩)
    (h : (s.startRecording request).1 = true) :
    ∃ outputs mapping, Matches streams outputs mapping ∧
      (s.startRecording request).2.setup.streamMapping = some mapping ∧
      (s.startRecording request).2.setup.outputFormatCtx.map (·.streams) =
        some (outputs.map (·.codecName)) := by
  obtain ⟨setup, hopened, hmapped, hsetup⟩ := startRecording_true hinput h
  obtain ⟨hresult, houtputs⟩ :=
    initOutputContext_toCoded streams request.answers setup request.outputPath
  obtain ⟨htable, hkept⟩ := createStreamMapping_toCoded streams request.answers
    (setup.initOutputContext request.outputPath ⟨streams.map (·.toCoded)⟩ request.answers).2
  rw [initOutputContext_eq (hresult.symm.trans hopened)] at houtputs
  rw [createStreamMapping_eq ((congrArg Prod.fst htable).symm.trans hmapped), Prod.mk.injEq,
    Prod.mk.injEq] at htable
  rw [hsetup]
  refine ⟨recorded streams, mappingFrom 0 streams, matches_recorded streams, htable.2.2, ?_⟩
  rw [hkept]
  exact houtputs

/-- A subtitle, an audio, a data and a video stream. -/
def mixed : List (AVStream Unit) :=
  [⟨⟨.subtitle, "subrip", 7, ()⟩, .perSecond 25⟩, ⟨⟨.audio, "aac", 8, ()⟩, .perSecond 48000⟩,
    ⟨⟨.data, "klv", 9, ()⟩, .perSecond 25⟩, ⟨⟨.video, "h264", 10, ()⟩, .perSecond 90000⟩]

def accepting : Starting.Answers := ⟨0, true, false, fun _ => true, fun _ => 0, 0, 0, true⟩

theorem streamMapping_matches_mixed :
    Matches mixed [⟨some ⟨.audio, "aac", 0, ()⟩, 1⟩, ⟨some ⟨.video, "h264", 0, ()⟩, 3⟩]
      [-1, 0, -1, 1] := by
  have hinit : initOutputContext mixed accepting =
      (true, some [⟨some ⟨.audio, "aac", 0, ()⟩, 1⟩, ⟨some ⟨.video, "h264", 0, ()⟩, 3⟩]) := by
    decide
  have hmap : createStreamMapping mixed accepting = (true, 4, some [-1, 0, -1, 1]) := by decide
  exact (streamMapping_matches hinit hmap).1

end DecoderSDK.Recorder.Mapping
