import DecoderSDK.Recorder.Formats
import DecoderSDK.Recorder.Session

/-! # Starting a recording

`startRecording` fills the recorder's fields one after the other: the format,
the input, the output, the path and the stream map. Of its failing exits only
the last one calls `cleanup`. What FFmpeg answers is part of the request.
-/
namespace DecoderSDK.Recorder.Starting
open Interleaving

/-- An output as `initOutputContext` leaves it; a stream without codec parameters has no codec
name. -/
structure OutputFormatContext where
  formatName : String
  url : String
  streams : List (Option String)
  opened : Bool
  header : Bool

/-- The answers of FFmpeg. `avformat_alloc_output_context2` returns a code and perhaps a context,
and the flag `AVFMT_NOFILE` belongs to the output format; streams are numbered as in the
input. -/
structure Answers where
  allocOutput : ℤ
  hasContext : Bool
  noFile : Bool
  newStream : ℕ → Bool
  parametersCopy : ℕ → ℤ
  avioOpen : ℤ
  writeHeader : ℤ
  mallocArray : Bool

structure Request where
  outputPath : String
  inputFormatCtx : Option InputFormatContext
  answers : Answers

/-- The fields that describe a recording, with the values they have in a new recorder. -/
@[ext] structure Setup where
  outputFormatCtx : Option OutputFormatContext := none
  inputFormatCtx : Option InputFormatContext := none
  outputPath : String := ""
  streamMapping : Option (List ℤ) := none
  streamCount : ℕ := 0
  firstPts : MediaType → Option Int64 := fun _ => none
  firstDts : MediaType → Option Int64 := fun _ => none
  currentFormat : ContainerFormat := .UNKNOWN

namespace Setup

/-- The loop that copies the video and audio streams, from the stream with index `i`. -/
def copyStreams (answers : Answers) (i : ℕ) :
    List CodedStream → List (Option String) → Bool × List (Option String)
  | [], out => (true, out)
  | stream :: rest, out =>
    if stream.codecType.isNone then copyStreams answers (i + 1) rest out
    else if answers.newStream i = false then (false, out)
    else if answers.parametersCopy i < 0 then (false, out ++ [none])
    else copyStreams answers (i + 1) rest (out ++ [some stream.codecName])

def initOutputContext (s : Setup) (outputPath : String) (input : InputFormatContext)
    (answers : Answers) : Bool × Setup :=
  let info := s.currentFormat.info
  let context : OutputFormatContext := ⟨info.formatName, outputPath, [], false, false⟩
  if answers.hasContext = false then (false, { s with outputFormatCtx := none })
  else if answers.allocOutput < 0 then (false, { s with outputFormatCtx := some context })
  else
    let copied := copyStreams answers 0 input.streams []
    let context := { context with streams := copied.2 }
    if copied.1 = false then (false, { s with outputFormatCtx := some context })
    else if answers.noFile = false ∧ answers.avioOpen < 0 then
      (false, { s with outputFormatCtx := some context })
    else
      let context := { context with opened := !answers.noFile }
      if answers.writeHeader < 0 then (false, { s with outputFormatCtx := some context })
      else (true, { s with
        outputFormatCtx := some { context with header := true }
        outputPath := outputPath })

def createStreamMapping (s : Setup) (input : InputFormatContext) (answers : Answers) :
    Bool × Setup :=
  if answers.mallocArray then
    (true, { s with
      streamCount := input.streams.length
      streamMapping := some (Recorder.createStreamMapping 0 (input.streams.map (·.toInStream))) })
  else (false, { s with streamCount := input.streams.length, streamMapping := none })

/-- The timestamps as a session has them. -/
def session (s : Setup) : Recorder.RealTimeStreamRecorder :=
  { Recorder.RealTimeStreamRecorder.start s.outputPath with
    firstPts := s.firstPts
    firstDts := s.firstDts }

def saveFirst (s : Setup) (mediaType : MediaType) (pkt : Stamped) : Setup :=
  let saved := s.session.saveFirst mediaType pkt
  { s with firstPts := saved.firstPts, firstDts := saved.firstDts }

end Setup

/-- All calls of `initOutputContext` succeed for this input. -/
structure Answers.Open (answers : Answers) (input : InputFormatContext) : Prop where
  hasContext : answers.hasContext = true
  allocOutput : 0 ≤ answers.allocOutput
  streams : ∀ i stream, input.streams[i]? = some stream → stream.codecType.isSome = true →
    answers.newStream i = true ∧ 0 ≤ answers.parametersCopy i
  file : answers.noFile = true ∨ 0 ≤ answers.avioOpen
  header : 0 ≤ answers.writeHeader

/-- An input with a known format fits that format, and its output opens. -/
def Request.Completes (request : Request) : Prop :=
  ∀ input, request.inputFormatCtx = some input →
    detectContainerFormat request.outputPath ≠ .UNKNOWN →
      input.Fits (detectContainerFormat request.outputPath) ∧ request.answers.Open input

theorem Request.completes_iff {request : Request} {input : InputFormatContext}
    (hinput : request.inputFormatCtx = some input)
    (hformat : detectContainerFormat request.outputPath ≠ .UNKNOWN) :
    request.Completes ↔
      input.Fits (detectContainerFormat request.outputPath) ∧ request.answers.Open input := by
  constructor
  · intro h
    exact h input hinput hformat
  · intro h input' hinput' _
    rw [hinput, Option.some.injEq] at hinput'
    rwa [← hinput']

namespace Setup

theorem copyStreams_iff (answers : Answers) (i : ℕ) (streams : List CodedStream)
    (out : List (Option String)) :
    (copyStreams answers i streams out).1 = true ↔
      ∀ k stream, streams[k]? = some stream → stream.codecType.isSome = true →
        answers.newStream (i + k) = true ∧ 0 ≤ answers.parametersCopy (i + k) := by
  induction streams generalizing i out with
  | nil => simp [copyStreams]
  | cons head rest ih =>
    have hsplit (P : ℕ → CodedStream → Prop) :
        (∀ k stream, (head :: rest)[k]? = some stream → P k stream) ↔
          P 0 head ∧ ∀ k stream, rest[k]? = some stream → P (k + 1) stream := by
      constructor
      · intro h
        exact ⟨h 0 head rfl, fun k stream hk => h (k + 1) stream hk⟩
      · rintro ⟨hhead, hrest⟩ k stream hk
        cases k with
        | zero =>
          rw [List.getElem?_cons_zero, Option.some.injEq] at hk
          rwa [← hk]
        | succ k => exact hrest k stream hk
    rw [hsplit]
    simp only [Nat.add_zero, ← Nat.add_assoc, Nat.add_right_comm i _ 1]
    unfold copyStreams
    cases htype : head.codecType with
    | none => simp [ih]
    | some m =>
      cases hnew : answers.newStream i with
      | false => simp
      | true =>
        by_cases hcopy : answers.parametersCopy i < 0
        · simp [hcopy, not_le.mpr hcopy]
        · simp [hcopy, not_lt.mp hcopy, ih]

theorem initOutputContext_iff (s : Setup) (outputPath : String) (input : InputFormatContext)
    (answers : Answers) :
    (s.initOutputContext outputPath input answers).1 = true ↔ answers.Open input := by
  have hcopied := copyStreams_iff answers 0 input.streams []
  simp only [Nat.zero_add] at hcopied
  constructor
  · intro h
    dsimp only [initOutputContext] at h
    split_ifs at h with hcontext halloc hstreams hfile hheader
    rw [Bool.not_eq_false] at hcontext hstreams
    refine ⟨hcontext, not_lt.mp halloc, hcopied.mp hstreams, ?_, not_lt.mp hheader⟩
    cases hno : answers.noFile with
    | true => exact .inl rfl
    | false => exact .inr (not_lt.mp fun hlt => hfile ⟨hno, hlt⟩)
  · intro h
    have hfile : ¬ (answers.noFile = false ∧ answers.avioOpen < 0) := by
      rintro ⟨hno, hlt⟩
      rcases h.file with hyes | hle
      · simp [hno] at hyes
      · omega
    simp [initOutputContext, h.hasContext, not_lt.mpr h.allocOutput, hcopied.mpr h.streams, hfile,
      not_lt.mpr h.header]

/-- The format and the first timestamps stay; the path is set by a success. -/
theorem initOutputContext_kept (s : Setup) (outputPath : String) (input : InputFormatContext)
    (answers : Answers) :
    let opened := s.initOutputContext outputPath input answers
    opened.2.currentFormat = s.currentFormat ∧ opened.2.firstPts = s.firstPts ∧
      opened.2.firstDts = s.firstDts ∧ (opened.1 = true → opened.2.outputPath = outputPath) := by
  dsimp only [initOutputContext]
  split_ifs <;> simp

theorem createStreamMapping_kept (s : Setup) (input : InputFormatContext) (answers : Answers) :
    let mapped := s.createStreamMapping input answers
    mapped.2.outputPath = s.outputPath ∧ mapped.2.firstPts = s.firstPts ∧
      mapped.2.firstDts = s.firstDts := by
  dsimp only [createStreamMapping]
  split_ifs <;> exact ⟨rfl, rfl, rfl⟩

end Setup

/-- A packet queue with its serial, the counter that `start` and `flush` raise. -/
structure Queue extends StampedQueue where
  serial : ℕ

namespace Queue

def start (q : Queue) : Queue := ⟨{ q.toStampedQueue with aborted := false }, q.serial + 1⟩

def abort (q : Queue) : Queue := { q with toStampedQueue := q.toStampedQueue.abort }

def flush (q : Queue) : Queue := ⟨q.toStampedQueue.flush, q.serial + 1⟩

end Queue

/-- The recorder between its calls. The recording thread exists while `isRecording` is set. -/
structure RealTimeStreamRecorder where
  isRecording : Bool
  shouldStop : Bool
  queue : MediaType → Queue
  setup : Setup
  /-- The flag of the recording loop. -/
  hasKeyFrame : Bool
  /-- The callers of `writePacket` that have found the recorder recording. -/
  writers : ℕ
  events : List RecordingEventArgs

namespace RealTimeStreamRecorder

def new : RealTimeStreamRecorder where
  isRecording := false
  shouldStop := false
  queue _ := ⟨⟨[], false, 1000⟩, 0⟩
  setup := {}
  hasKeyFrame := false
  writers := 0
  events := []

/-- Trailer, file and context of the output are released with it. -/
def cleanup (s : RealTimeStreamRecorder) : RealTimeStreamRecorder :=
  { s with setup := {}, queue := fun m => (s.queue m).flush }

/-- The end of `startRecording`: the queues and the thread start. -/
def launch (s : RealTimeStreamRecorder) : RealTimeStreamRecorder :=
  { s with
    queue := fun m => (s.queue m).start
    shouldStop := false
    isRecording := true
    hasKeyFrame := false
    events := s.events ++ [⟨s.setup.outputPath, s.setup.currentFormat.info.extension,
      "RealTimeStreamRecorder", "Recording Started", 0, ""⟩] }

def startRecording (s : RealTimeStreamRecorder) (request : Request) :
    Bool × RealTimeStreamRecorder :=
  if s.isRecording then (false, s)
  else match request.inputFormatCtx with
    | none => (false, s)
    | some input =>
      let setup := { s.setup with currentFormat := detectContainerFormat request.outputPath }
      if setup.currentFormat = .UNKNOWN then (false, { s with setup := setup })
      else match validateFormatCompatibility setup.currentFormat (some input) with
        | .error _ => (false, { s with setup := setup })
        | .ok () =>
          let setup := { setup with inputFormatCtx := some input }
          let opened := setup.initOutputContext request.outputPath input request.answers
          if opened.1 = false then (false, { s with setup := opened.2 })
          else
            let mapped := opened.2.createStreamMapping input request.answers
            if mapped.1 = false then (false, { s with setup := mapped.2 }.cleanup)
            else (true, { s with setup := mapped.2 }.launch)

/-- The queues are aborted and the thread is joined before `cleanup`, which empties the path that
the event carries. -/
def stopRecording (s : RealTimeStreamRecorder) : Bool × RealTimeStreamRecorder :=
  if s.isRecording = false then (false, s)
  else
    let s := { s with shouldStop := true, queue := fun m => (s.queue m).abort }.cleanup
    (true, { s with
      isRecording := false
      events := s.events ++ [⟨s.setup.outputPath, "mp4", "RealTimeStreamRecorder",
        "Recording Stopped", 0, ""⟩] })

/-- `processPacket` as far as it changes the recorder; the packet is then written. -/
def processPacket (s : RealTimeStreamRecorder) (mediaType : MediaType) (pkt : Stamped) :
    RealTimeStreamRecorder :=
  match s.setup.outputFormatCtx, s.setup.inputFormatCtx, s.setup.streamMapping with
  | some _, some _, some streamMapping =>
    if s.setup.streamCount ≤ pkt.streamIndex then s
    else if mediaType = .video ∧ s.hasKeyFrame = false ∧ pkt.key = false then s
    else
      let s := if mediaType = .video then { s with hasKeyFrame := true } else s
      if streamMapping.getD pkt.streamIndex (-1) < 0 then s
      else { s with setup := s.setup.saveFirst mediaType pkt }
  | _, _, _ => s

def push (s : RealTimeStreamRecorder) (m : MediaType) (pkt : Stamped) : RealTimeStreamRecorder :=
  { s with
    writers := s.writers - 1
    queue := Function.update s.queue m
      { s.queue m with toStampedQueue := ((s.queue m).push pkt).2 } }

def take (s : RealTimeStreamRecorder) (m : MediaType) : RealTimeStreamRecorder :=
  match (s.queue m).pop with
  | (none, _) => s
  | (some pkt, rest) =>
    { s with queue := Function.update s.queue m { s.queue m with toStampedQueue := rest } }
      |>.processPacket m pkt

/-- A call, or a step of a thread: a caller of `writePacket` reads the flag and later pushes, and
the recording loop takes a packet. -/
inductive Action where
  | startRecording (request : Request)
  | stopRecording
  | writePacket
  | push (mediaType : MediaType) (pkt : Stamped)
  | take (mediaType : MediaType)

def step (s : RealTimeStreamRecorder) : Action → Option RealTimeStreamRecorder
  | .startRecording request => some (s.startRecording request).2
  | .stopRecording => some s.stopRecording.2
  | .writePacket => some (if s.isRecording then { s with writers := s.writers + 1 } else s)
  | .push m pkt => if 0 < s.writers then some (s.push m pkt) else none
  | .take m =>
    if s.isRecording ∧ (m = .audio → s.hasKeyFrame = true) then some (s.take m) else none

/-- The ways out of `startRecording` for an idle recorder, with what they leave. -/
inductive Exit where
  | rejected
  | abandoned (setup : Setup)
  | cleaned
  | launched (setup : Setup)

namespace Exit

def leave (s : RealTimeStreamRecorder) : Exit → Bool × RealTimeStreamRecorder
  | rejected => (false, s)
  | abandoned setup => (false, { s with setup := setup })
  | cleaned => (false, s.cleanup)
  | launched setup => (true, { s with setup := setup }.launch)

/-- Only a request that does not complete is abandoned, and then the format is set. A recording
begins with the path of the request and without timestamps. -/
def AnswersTo (request : Request) : Exit → Prop
  | abandoned setup => ¬ request.Completes ∧ setup.currentFormat ≠ .UNKNOWN
  | launched setup => request.Completes ∧ setup.outputPath = request.outputPath ∧
      setup.firstPts = (fun _ => none) ∧ setup.firstDts = fun _ => none
  | _ => request.Completes

end Exit

/-- The exit is taken from every recorder that is idle. -/
def Exit.TakenFor (exit : Exit) (request : Request) : Prop :=
  ∀ s : RealTimeStreamRecorder, s.isRecording = false → s.setup = {} →
    s.startRecording request = exit.leave s

/-- The exits behind the validation. -/
theorem exists_exit_of_valid {request : Request} {input : InputFormatContext}
    (hinput : request.inputFormatCtx = some input)
    (hformat : detectContainerFormat request.outputPath ≠ .UNKNOWN)
    (hvalid : validateFormatCompatibility (detectContainerFormat request.outputPath)
      (some input) = .ok ()) :
    ∃ exit : Exit, exit.AnswersTo request ∧ exit.TakenFor request := by
  have hfits := (validateFormatCompatibility_iff hformat input).mp hvalid
  have hcompletes := request.completes_iff hinput hformat
  let setup : Setup :=
    { currentFormat := detectContainerFormat request.outputPath, inputFormatCtx := some input }
  have hopen := setup.initOutputContext_iff request.outputPath input request.answers
  have hkept := setup.initOutputContext_kept request.outputPath input request.answers
  cases hopened : setup.initOutputContext request.outputPath input request.answers with
  | mk opened after =>
    rw [hopened] at hopen hkept
    cases opened with
    | false =>
      refine ⟨.abandoned after, ⟨?_, ?_⟩, ?_⟩
      · intro h
        simpa using hopen.mpr (hcompletes.mp h).2
      · rw [hkept.1]
        exact hformat
      · intro s hidle hsetup
        simp [startRecording, hidle, hinput, hformat, hsetup, hvalid, setup, hopened, Exit.leave]
    | true =>
      have hdone : request.Completes := hcompletes.mpr ⟨hfits, hopen.mp rfl⟩
      have hkept' := after.createStreamMapping_kept input request.answers
      cases hmapped : after.createStreamMapping input request.answers with
      | mk mapped final =>
        rw [hmapped] at hkept'
        cases mapped with
        | false =>
          refine ⟨.cleaned, hdone, ?_⟩
          intro s hidle hsetup
          simp [startRecording, hidle, hinput, hformat, hsetup, hvalid, setup, hopened, hmapped,
            Exit.leave, cleanup]
        | true =>
          have hpath : final.outputPath = request.outputPath := hkept'.1.trans (hkept.2.2.2 rfl)
          have hpts : final.firstPts = fun _ => none := hkept'.2.1.trans hkept.2.1
          have hdts : final.firstDts = fun _ => none := hkept'.2.2.trans hkept.2.2.1
          refine ⟨.launched final, ⟨hdone, hpath, hpts, hdts⟩, ?_⟩
          intro s hidle hsetup
          simp [startRecording, hidle, hinput, hformat, hsetup, hvalid, setup, hopened, hmapped,
            Exit.leave]

/-- The way out depends on the request alone. -/
theorem exists_exit (request : Request) :
    ∃ exit : Exit, exit.AnswersTo request ∧ exit.TakenFor request := by
  cases hinput : request.inputFormatCtx with
  | none =>
    refine ⟨.rejected, ?_, ?_⟩
    · intro input h
      simp [hinput] at h
    · intro s hidle _
      simp [startRecording, hidle, hinput, Exit.leave]
  | some input =>
    by_cases hformat : detectContainerFormat request.outputPath = .UNKNOWN
    · refine ⟨.rejected, fun _ _ h => absurd hformat h, ?_⟩
      intro s hidle hsetup
      have hsame : { s with isRecording := false, setup := {} } = s := by
        rw [← hidle, ← hsetup]
      simp [startRecording, hidle, hinput, hformat, hsetup, Exit.leave, hsame]
    cases hvalid : validateFormatCompatibility (detectContainerFormat request.outputPath)
      (some input) with
    | error message =>
      have hfits := validateFormatCompatibility_iff hformat input
      rw [hvalid] at hfits
      refine ⟨.abandoned { currentFormat := detectContainerFormat request.outputPath }, ?_, ?_⟩
      · refine ⟨fun h => ?_, hformat⟩
        simpa using hfits.mpr (h input hinput hformat).1
      · intro s hidle hsetup
        simp [startRecording, hidle, hinput, hformat, hsetup, hvalid, Exit.leave]
    | ok _ => exact exists_exit_of_valid hinput hformat hvalid

/-- The state without the serials of the queues. -/
def withoutSerials (s : RealTimeStreamRecorder) : RealTimeStreamRecorder :=
  { s with queue := fun m => { s.queue m with serial := 0 } }

/-- A start has the answer, the setup and the events that it has on a new recorder, and if it
succeeds the same queues. -/
def BehavesAsNew (s : RealTimeStreamRecorder) : Prop :=
  ∀ request, let here := s.startRecording request
    let there := new.startRecording request
    here.1 = there.1 ∧ here.2.setup = there.2.setup ∧ here.2.isRecording = there.2.isRecording ∧
      here.2.events = s.events ++ there.2.events ∧
      (there.1 = true → here.2.shouldStop = there.2.shouldStop ∧
        ∀ m, (here.2.queue m).toStampedQueue = (there.2.queue m).toStampedQueue)

/-- A failed start has changed nothing of an idle recorder but the serials of its queues. -/
structure StaysIdle (s s' : RealTimeStreamRecorder) : Prop where
  unchanged : s'.withoutSerials = s.withoutSerials
  setup : s'.setup = {}
  isRecording : s'.isRecording = false
  behaves : s'.BehavesAsNew

/-- If the step is a failing start of an idle recorder, the recorder stays idle. -/
def FailsIdle (s : RealTimeStreamRecorder) (a : Action) (s' : RealTimeStreamRecorder) : Prop :=
  ∀ request, a = .startRecording request → s.isRecording = false →
    (s.startRecording request).1 = false → StaysIdle s s'

/-- If the step is a start of an idle recorder, its request completes. -/
def Completing (s : RealTimeStreamRecorder) (a : Action) (_ : RealTimeStreamRecorder) : Prop :=
  ∀ request, a = .startRecording request → s.isRecording = false → request.Completes

/-- An idle recorder has no packets, and none that a late caller could still push. -/
structure Idle (s : RealTimeStreamRecorder) : Prop where
  setup : s.setup = {}
  queue : ∀ m, (s.queue m).queue = []
  closed : s.writers = 0 ∨ ∀ m, (s.queue m).aborted = true

structure Invariant (s : RealTimeStreamRecorder) : Prop where
  idle : s.isRecording = false → s.Idle
  capacity : ∀ m, (s.queue m).maxPacketCount = 1000

theorem invariant_new : new.Invariant where
  idle _ := ⟨rfl, fun _ => rfl, .inl rfl⟩
  capacity _ := rfl

/-- A queue that is started again is as good as new. -/
theorem Invariant.queue_started {s : RealTimeStreamRecorder} (h : s.Invariant)
    (hidle : s.isRecording = false) (m : MediaType) :
    (s.queue m).start.toStampedQueue = .started := by
  change StampedQueue.mk (s.queue m).queue false (s.queue m).maxPacketCount = ⟨[], false, 1000⟩
  rw [(h.idle hidle).queue m, h.capacity m]

theorem Invariant.behavesAsNew {s : RealTimeStreamRecorder} (h : s.Invariant)
    (hidle : s.isRecording = false) : s.BehavesAsNew := by
  intro request
  rcases exists_exit request with ⟨exit, -, hexit⟩
  rw [hexit s hidle (h.idle hidle).setup, hexit new rfl rfl]
  have hsetup := (h.idle hidle).setup
  cases exit with
  | rejected => simp [Exit.leave, new, hidle, hsetup]
  | abandoned setup => simp [Exit.leave, new, hidle]
  | cleaned => simp [Exit.leave, new, hidle, cleanup]
  | launched setup =>
    refine ⟨rfl, rfl, rfl, rfl, fun _ => ⟨rfl, fun m => ?_⟩⟩
    exact (h.queue_started hidle m).trans (invariant_new.queue_started rfl m).symm

/-- A successful start is the beginning of a session. -/
theorem Invariant.session_begins {s : RealTimeStreamRecorder} (h : s.Invariant)
    (hidle : s.isRecording = false) {request : Request}
    (hstart : (s.startRecording request).1 = true) :
    let s' := (s.startRecording request).2
    let r := Recording.start request.outputPath
    s'.isRecording = r.isRecording ∧ s'.shouldStop = r.shouldStop ∧
      (∀ m, (s'.queue m).toStampedQueue = r.queue m) ∧
      s'.hasKeyFrame = r.recorder.hasKeyFrame ∧ s'.setup.outputPath = r.recorder.outputPath ∧
      s'.setup.firstPts = r.recorder.firstPts ∧ s'.setup.firstDts = r.recorder.firstDts := by
  rcases exists_exit request with ⟨exit, hexit, hleave⟩
  rw [hleave s hidle (h.idle hidle).setup] at hstart ⊢
  cases exit with
  | launched setup =>
    obtain ⟨-, hpath, hpts, hdts⟩ := hexit
    refine ⟨rfl, rfl, fun m => ?_, rfl, hpath, hpts, hdts⟩
    exact h.queue_started hidle m
  | _ => simp [Exit.leave] at hstart

theorem Invariant.processPacket {s : RealTimeStreamRecorder} (h : s.Invariant)
    (hrecording : s.isRecording = true) (m : MediaType) (pkt : Stamped) :
    (s.processPacket m pkt).Invariant := by
  have hkept : (s.processPacket m pkt).isRecording = true ∧
      (s.processPacket m pkt).queue = s.queue := by
    unfold RealTimeStreamRecorder.processPacket
    split
    · split_ifs <;> exact ⟨hrecording, rfl⟩
    · exact ⟨hrecording, rfl⟩
  refine ⟨?_, ?_⟩
  · simp [hkept.1]
  · rw [hkept.2]
    exact h.capacity

theorem pop_capacity (q : StampedQueue) : q.pop.2.maxPacketCount = q.maxPacketCount := by
  unfold StampedQueue.pop
  cases q.queue <;> rfl

theorem push_capacity (q : StampedQueue) (pkt : Stamped) :
    (q.push pkt).2.maxPacketCount = q.maxPacketCount := by
  unfold StampedQueue.push
  split <;> rfl

theorem capacity_update {queue : MediaType → Queue} (h : ∀ m, (queue m).maxPacketCount = 1000)
    {m : MediaType} {q : Queue} (hq : q.maxPacketCount = 1000) :
    ∀ k, (Function.update queue m q k).maxPacketCount = 1000 := by
  intro k
  by_cases hk : k = m
  · rw [hk, Function.update_self]
    exact hq
  · rw [Function.update_of_ne hk]
    exact h k

theorem Invariant.take {s : RealTimeStreamRecorder} (h : s.Invariant)
    (hrecording : s.isRecording = true) (m : MediaType) : (s.take m).Invariant := by
  unfold RealTimeStreamRecorder.take
  have hpop := pop_capacity (s.queue m).toStampedQueue
  split
  · exact h
  · rename_i pkt rest hrest
    apply Invariant.processPacket
    · refine ⟨?_, ?_⟩
      · simp [hrecording]
      · apply capacity_update h.capacity
        rw [hrest] at hpop
        exact hpop.trans (h.capacity m)
    · exact hrecording

/-- A caller of `writePacket` that comes late finds the queue aborted. -/
theorem Invariant.push {s : RealTimeStreamRecorder} (h : s.Invariant) (hwriters : 0 < s.writers)
    (m : MediaType) (pkt : Stamped) : (s.push m pkt).Invariant where
  idle hidle := by
    have hs := h.idle hidle
    have haborted := hs.closed.resolve_left hwriters.ne'
    have hsame : (s.push m pkt).queue = s.queue := by
      ext1 k
      simp only [RealTimeStreamRecorder.push, StampedQueue.push, haborted m]
      by_cases hk : k = m
      · simp [hk]
      · simp [Function.update_of_ne hk]
    refine ⟨hs.setup, ?_, .inr ?_⟩
    · rw [hsame]
      exact hs.queue
    · rw [hsame]
      exact haborted
  capacity := capacity_update h.capacity ((push_capacity _ pkt).trans (h.capacity m))

theorem Invariant.stopRecording {s : RealTimeStreamRecorder} (h : s.Invariant) :
    s.stopRecording.2.Invariant := by
  unfold RealTimeStreamRecorder.stopRecording
  split
  · exact h
  · refine ⟨fun _ => ⟨rfl, fun _ => rfl, .inr fun _ => rfl⟩, h.capacity⟩

theorem Invariant.leave {s : RealTimeStreamRecorder} (h : s.Invariant)
    (hidle : s.isRecording = false) {request : Request} {exit : Exit}
    (hexit : exit.AnswersTo request) (hdone : request.Completes) : (exit.leave s).2.Invariant := by
  have hs := h.idle hidle
  cases exit with
  | rejected => exact h
  | abandoned setup => exact absurd hdone hexit.1
  | cleaned => exact ⟨fun _ => ⟨rfl, fun _ => rfl, hs.closed⟩, h.capacity⟩
  | launched setup =>
    refine ⟨?_, h.capacity⟩
    simp [Exit.leave, launch]

theorem step_invariant (s : RealTimeStreamRecorder) (a : Action) (s' : RealTimeStreamRecorder)
    (h : s.Invariant) (hdone : Completing s a s') (hstep : s.step a = some s') :
    s'.Invariant := by
  cases a with
  | startRecording request =>
    rw [step, Option.some.injEq] at hstep
    rw [← hstep]
    cases hrecording : s.isRecording with
    | true => simpa [RealTimeStreamRecorder.startRecording, hrecording] using h
    | false =>
      rcases exists_exit request with ⟨exit, hexit, hleave⟩
      rw [hleave s hrecording (h.idle hrecording).setup]
      exact h.leave hrecording hexit (hdone request rfl hrecording)
  | stopRecording =>
    rw [step, Option.some.injEq] at hstep
    rw [← hstep]
    exact h.stopRecording
  | writePacket =>
    rw [step, Option.some.injEq] at hstep
    rw [← hstep]
    split
    · rename_i hrecording
      refine ⟨?_, h.capacity⟩
      simp [hrecording]
    · exact h
  | push m pkt =>
    simp only [step, Option.ite_none_right_eq_some, Option.some.injEq] at hstep
    rcases hstep with ⟨hwriters, rfl⟩
    exact h.push hwriters m pkt
  | take m =>
    simp only [step, Option.ite_none_right_eq_some, Option.some.injEq] at hstep
    rcases hstep with ⟨⟨hrecording, -⟩, rfl⟩
    exact h.take hrecording m

/-- On an idle recorder a failing start leaves everything as it is exactly when it does not
fail in the middle. -/
theorem failsIdle_iff (s : RealTimeStreamRecorder) (a : Action) (s' : RealTimeStreamRecorder)
    (h : s.Invariant) (hstep : s.step a = some s') : FailsIdle s a s' ↔ Completing s a s' := by
  apply forall₃_congr
  rintro request rfl hidle
  rw [step, Option.some.injEq] at hstep
  rw [← hstep]
  rcases exists_exit request with ⟨exit, hexit, hleave⟩
  have hs := h.idle hidle
  rw [hleave s hidle hs.setup]
  constructor
  · intro hstays
    cases exit with
    | abandoned setup =>
      have hfresh := (hstays rfl).setup
      exact absurd (congrArg Setup.currentFormat hfresh) hexit.2
    | rejected => exact hexit
    | cleaned => exact hexit
    | launched setup => exact hexit.1
  · intro hdone hfailed
    have hnext := h.leave hidle hexit hdone
    cases exit with
    | rejected => exact ⟨rfl, hs.setup, hidle, h.behavesAsNew hidle⟩
    | abandoned setup => exact absurd hdone hexit.1
    | cleaned =>
      refine ⟨?_, rfl, hidle, hnext.behavesAsNew hidle⟩
      have hflushed : ∀ m, (s.queue m).toStampedQueue.flush = (s.queue m).toStampedQueue := by
        intro m
        rw [StampedQueue.flush, ← hs.queue m]
      simp [withoutSerials, Exit.leave, cleanup, Queue.flush, hflushed, hs.setup]
    | launched setup => simp [Exit.leave] at hfailed

/-- Along every run, the failing starts leave the recorder idle exactly when no start of an idle
recorder fails between the detection of its format and the stream map. -/
theorem each_failsIdle_iff (actions : List Action) :
    Each step FailsIdle new actions ↔ Each step Completing new actions :=
  each_iff failsIdle_iff step_invariant actions invariant_new

/-- An input with one stream of the codec `h264`. -/
def h264 : InputFormatContext := ⟨[⟨⟨some .video, .perSecond 25⟩, "h264"⟩]⟩

/-- FFmpeg refuses to open the output file. -/
def denied : Answers := ⟨0, true, false, fun _ => true, fun _ => 0, -13, 0, true⟩

/-- The contexts and the format stay set in the recorder. -/
theorem failsIdle_denied :
    ¬ Each step FailsIdle new [.startRecording ⟨"rec.mp4", some h264, denied⟩] := by
  intro h
  have hstays := h.1 _ rfl rfl (by decide)
  have hformat := congrArg Setup.currentFormat hstays.setup
  revert hformat
  decide

end RealTimeStreamRecorder

end DecoderSDK.Recorder.Starting
