import DecoderSDK.Session.Demuxer
import DecoderSDK.Decode.Generations

/-! # A playback session

The controller thread runs `seek` under the controller's mutex, one shared
access at a time, against the demux thread, one decode thread for each
decoder, and the consumers of the frame queues. A lane is a packet queue
together with the decoder that reads it.
-/
namespace DecoderSDK
open Interleaving

inductive SeekEvent where
  | seekStarted
  | seekSuccess
  | seekFailed
  deriving DecidableEq

namespace Control

/-- Where the controller thread stands in `seek`. -/
inductive Pc where
  | idle
  | nullTest (position : ℚ)
  | realTimeTest (position : ℚ)
  | demuxerSeek (position : ℚ)
  | compareExchange (position : ℚ)
  | store (position : ℚ)
  | resetClocks (position : ℚ)
  | clear (media : MediaType) (position : ℚ)
  | setSeeking (media : MediaType) (position : ℚ)
  | setSeekPos (media : MediaType) (position : ℚ)
  | finish (result : Bool)
  deriving DecidableEq

end Control

structure Control where
  pc : Control.Pc
  /-- The events of the last `seek`. -/
  events : List SeekEvent
  /-- What the last `seek` returned. -/
  result : Option Bool
  /-- The serials of the packet queues when the last `seek` was called. -/
  calledAt : MediaType → ℕ
  /-- The frame queues that the last `seek` has cleared. -/
  cleared : MediaType → Bool
  /-- The decoders that the last `seek` has put into seeking mode. -/
  raised : MediaType → Bool
  /-- The serials at the calls of `seek` that have returned true. -/
  returnedAt : List (MediaType → ℕ)

structure Session where
  hasDemuxer : Bool
  demuxer : Demuxer
  control : Control
  /-- The packet queue of the media type exists. -/
  hasQueue : MediaType → Bool
  /-- The decoder of the media type exists. -/
  hasDecoder : MediaType → Bool
  lane : MediaType → Decoder

namespace Session

def queue (s : Session) (m : MediaType) : Option PacketQueue :=
  if s.hasQueue m then some (s.lane m).packetQueue else none

def setControl (s : Session) (pc : Control.Pc) : Session :=
  { s with control := { s.control with pc := pc } }

/-- The call of `seek`. -/
def callSeek (s : Session) (position : ℚ) : Session :=
  { s with control :=
      { s.control with pc := .nullTest position
                       events := [.seekStarted]
                       result := none
                       calledAt := fun m => (s.lane m).packetQueue.serial
                       cleared := fun _ => false
                       raised := fun _ => false } }

/-- `seek` sends its last event and returns. -/
def returnSeek (s : Session) (event : SeekEvent) (result : Bool) : Session :=
  { s with control :=
      { s.control with pc := .idle
                       events := s.control.events ++ [event]
                       result := some result
                       returnedAt := if result then s.control.calledAt :: s.control.returnedAt
                         else s.control.returnedAt } }

/-- After the decoder of `media` comes the audio decoder, then the end of `seek`. -/
def afterDecoder (media : MediaType) (position : ℚ) : Control.Pc :=
  match media with
  | .video => .clear .audio position
  | .audio => .finish true

/-- One step of `seek`. -/
def controlMove (s : Session) : Option (Session × Effect) :=
  match s.control.pc with
  | .idle => none
  | .nullTest position =>
    some (if s.hasDemuxer then s.setControl (.realTimeTest position)
      else s.returnSeek .seekFailed false, none)
  | .realTimeTest position =>
    some (if s.demuxer.isRealTime then s.returnSeek .seekFailed false
      else s.setControl (.demuxerSeek position), none)
  | .demuxerSeek position =>
    some (s.setControl (if s.demuxer.acceptsSeek position then .compareExchange position
      else .finish false), none)
  | .compareExchange position =>
    some (if s.demuxer.seekMsPos = -1 then
        { s.setControl (.resetClocks position) with demuxer := s.demuxer.request (toMs position) }
      else s.setControl (.store position), none)
  | .store position =>
    some ({ s.setControl (.resetClocks position) with
              demuxer := s.demuxer.request (toMs position) }, none)
  | .resetClocks position => some (s.setControl (.clear .video position), none)
  | .clear media position =>
    if s.hasDecoder media then
      some ({ s with control :=
          { s.control with pc := .setSeeking media position
                           cleared := Function.update s.control.cleared media true } },
        some (media, .clearFrames))
    else some (s.setControl (afterDecoder media position), none)
  | .setSeeking media position =>
    some ({ s with control :=
        { s.control with pc := .setSeekPos media position
                         raised := Function.update s.control.raised media true } },
      some (media, .setDemuxerSeeking))
  | .setSeekPos media position =>
    some (s.setControl (afterDecoder media position), some (media, .setSeekPosMs (toMs position)))
  | .finish result => some (s.returnSeek .seekSuccess result, none)

/-- The part of a step that touches a lane. -/
def perform (s : Session) : Effect → Option Session
  | none => some s
  | some (m, a) => ((s.lane m).step a).map fun d => { s with lane := Function.update s.lane m d }

inductive Action where
  | seek (position : ℚ)
  | control
  | demux (c : Demuxer.Choice)
  | decode (media : MediaType) (c : Choice)
  | start (media : MediaType) (codecId : CodecId) (hwAccel : Option HWAccelType)
      (needFixSPSProfile : Bool)
  | popFrame (media : MediaType)
  | setAbortStatus (media : MediaType) (abort : Bool)
  | setPaused (media : MediaType) (paused : Bool)
  | setWaitingForPreBuffer (media : MediaType) (waiting : Bool)
  | interrupt (media : MediaType)
  | setDemuxerPaused (paused : Bool)
  | setLoopMode (mode : LoopMode) (maxLoops : ℤ)

/-- What an action does to the controller and the demuxer, and which lane it acts on. The
decoders are started by the controller, which holds its mutex for it. -/
def move (s : Session) : Action → Option (Session × Effect)
  | .seek position => if s.control.pc = .idle then some (s.callSeek position, none) else none
  | .control => s.controlMove
  | .demux c => (s.demuxer.move s.queue c).map fun r => ({ s with demuxer := r.1 }, r.2)
  | .decode m c => some (s, some (m, .loop c))
  | .start m codecId hwAccel needFix =>
    if s.control.pc = .idle ∧ s.hasDecoder m = true then
      some (s, some (m, .start codecId hwAccel needFix))
    else none
  | .popFrame m => some (s, some (m, .popFrame))
  | .setAbortStatus m abort => some (s, some (m, .setAbortStatus abort))
  | .setPaused m paused => some (s, some (m, .setPaused paused))
  | .setWaitingForPreBuffer m waiting => some (s, some (m, .setWaitingForPreBuffer waiting))
  | .interrupt m => some (s, some (m, .interrupt))
  | .setDemuxerPaused paused =>
    some ({ s with demuxer := { s.demuxer with isPaused := paused } }, none)
  | .setLoopMode mode maxLoops =>
    some ({ s with demuxer := s.demuxer.setLoopMode mode maxLoops }, none)

def step (s : Session) (a : Action) : Option Session :=
  (s.move a).bind fun r => r.1.perform r.2

/-- How a session begins: the streams found, the decoders selected, and what the queues and
the mailbox hold. -/
structure Setup where
  hasDemuxer : Bool
  isOpened : Bool
  isRealTime : Bool
  pending : Option ℕ
  hasStream : MediaType → Bool
  selected : MediaType → Bool
  packetQueue : MediaType → PacketQueue
  maxSize : ℕ
  enableHardwareFallback : Bool
  enableParseUserSEIData : Bool

def opened (setup : Setup) : Session where
  hasDemuxer := setup.hasDemuxer
  demuxer :=
    { isOpened := setup.isOpened
      isRealTime := setup.isRealTime
      seekMsPos := setup.pending.elim (-1) fun ms => ms
      isPaused := false
      loopMode := .none
      maxLoops := -1
      currentLoopCount := 0
      isEof := false
      pc := if setup.isOpened then .head else .stopped
      accepted := none
      performed := false }
  control := ⟨.idle, [], none, fun _ => 0, fun _ => false, fun _ => false, []⟩
  hasQueue := fun m => setup.isOpened && setup.hasStream m && setup.selected m
  hasDecoder := fun m => setup.isOpened && setup.hasStream m && setup.selected m
  lane := fun m => .new m (setup.packetQueue m) setup.maxSize setup.isRealTime
    setup.enableHardwareFallback setup.enableParseUserSEIData

/-- An opened file with a video stream that is to be decoded. -/
def videoFile : Setup where
  hasDemuxer := true
  isOpened := true
  isRealTime := false
  pending := none
  hasStream := fun m => m = .video
  selected := fun _ => true
  packetQueue := fun _ => (PacketQueue.new 8).start
  maxSize := 3
  enableHardwareFallback := false
  enableParseUserSEIData := false

/-- The decode loop of the video moves `times` steps that need no answer. -/
def decodeSteps (times : ℕ) : List Action := List.replicate times (.decode .video .go)

/-- Every step acts on at most one lane, by one action. -/
theorem step_cases {s s' : Session} {a : Action} (h : s.step a = some s') :
    ∃ t effect, s.move a = some (t, effect) ∧
      (effect = none ∧ s' = t ∨
        ∃ m b d, effect = some (m, b) ∧ (t.lane m).step b = some d ∧
          s' = { t with lane := Function.update t.lane m d }) := by
  rcases Option.bind_eq_some_iff.mp h with ⟨⟨t, effect⟩, hmove, hperform⟩
  refine ⟨t, effect, hmove, ?_⟩
  cases effect with
  | none =>
    simp only [perform, Option.some.injEq] at hperform
    exact Or.inl ⟨rfl, hperform.symm⟩
  | some effect =>
    rcases effect with ⟨m, b⟩
    rcases Option.map_eq_some_iff.mp hperform with ⟨d, hd, hs'⟩
    exact Or.inr ⟨m, b, d, rfl, hd, hs'.symm⟩

/-- The position that `Demuxer::seek` is about to place in the mailbox. -/
def requesting : Control.Pc → Option ℚ
  | .compareExchange position => some position
  | .store position => some position
  | _ => none

/-- Everything a step of `seek` can do. -/
inductive ControlStep (s : Session) : Session → Effect → Prop where
  | noDemuxer (position : ℚ) (hpc : s.control.pc = .nullTest position)
      (h : s.hasDemuxer = false) : ControlStep s (s.returnSeek .seekFailed false) none
  | demuxer (position : ℚ) (hpc : s.control.pc = .nullTest position) :
      ControlStep s (s.setControl (.realTimeTest position)) none
  | realTime (position : ℚ) (hpc : s.control.pc = .realTimeTest position)
      (h : s.demuxer.isRealTime = true) : ControlStep s (s.returnSeek .seekFailed false) none
  | file (position : ℚ) (hpc : s.control.pc = .realTimeTest position)
      (h : s.demuxer.isRealTime = false) : ControlStep s (s.setControl (.demuxerSeek position)) none
  | accepted (position : ℚ) (hpc : s.control.pc = .demuxerSeek position)
      (h : s.demuxer.acceptsSeek position = true) :
      ControlStep s (s.setControl (.compareExchange position)) none
  | rejected (position : ℚ) (hpc : s.control.pc = .demuxerSeek position)
      (h : s.demuxer.acceptsSeek position = false) : ControlStep s (s.setControl (.finish false)) none
  | contended (position : ℚ) (hpc : s.control.pc = .compareExchange position) :
      ControlStep s (s.setControl (.store position)) none
  | requested (position : ℚ) (hpc : requesting s.control.pc = some position) :
      ControlStep s { s.setControl (.resetClocks position) with
        demuxer := s.demuxer.request (toMs position) } none
  | clocksReset (position : ℚ) (hpc : s.control.pc = .resetClocks position) :
      ControlStep s (s.setControl (.clear .video position)) none
  | skipped (media : MediaType) (position : ℚ) (hpc : s.control.pc = .clear media position)
      (h : s.hasDecoder media = false) :
      ControlStep s (s.setControl (afterDecoder media position)) none
  | cleared (media : MediaType) (position : ℚ) (hpc : s.control.pc = .clear media position)
      (h : s.hasDecoder media = true) :
      ControlStep s { s with control :=
          { s.control with pc := .setSeeking media position
                           cleared := Function.update s.control.cleared media true } }
        (some (media, .clearFrames))
  | raised (media : MediaType) (position : ℚ) (hpc : s.control.pc = .setSeeking media position) :
      ControlStep s { s with control :=
          { s.control with pc := .setSeekPos media position
                           raised := Function.update s.control.raised media true } }
        (some (media, .setDemuxerSeeking))
  | positioned (media : MediaType) (position : ℚ) (hpc : s.control.pc = .setSeekPos media position) :
      ControlStep s (s.setControl (afterDecoder media position))
        (some (media, .setSeekPosMs (toMs position)))
  | returned (result : Bool) (hpc : s.control.pc = .finish result) :
      ControlStep s (s.returnSeek .seekSuccess result) none

theorem controlMove_step {s t : Session} {effect : Effect} (h : s.controlMove = some (t, effect)) :
    ControlStep s t effect := by
  unfold controlMove at h
  cases hpc : s.control.pc with
  | idle => simp [hpc] at h
  | nullTest position =>
    simp only [hpc, Option.some.injEq, Prod.mk.injEq] at h
    split_ifs at h with hdemuxer
    · rcases h with ⟨rfl, rfl⟩
      exact .demuxer position hpc
    · rcases h with ⟨rfl, rfl⟩
      exact .noDemuxer position hpc (by simpa using hdemuxer)
  | realTimeTest position =>
    simp only [hpc, Option.some.injEq, Prod.mk.injEq] at h
    split_ifs at h with hrt
    · rcases h with ⟨rfl, rfl⟩
      exact .realTime position hpc hrt
    · rcases h with ⟨rfl, rfl⟩
      exact .file position hpc (by simpa using hrt)
  | demuxerSeek position =>
    simp only [hpc, Option.some.injEq, Prod.mk.injEq] at h
    split_ifs at h with haccepts
    · rcases h with ⟨rfl, rfl⟩
      exact .accepted position hpc haccepts
    · rcases h with ⟨rfl, rfl⟩
      exact .rejected position hpc (by simpa using haccepts)
  | compareExchange position =>
    simp only [hpc, Option.some.injEq, Prod.mk.injEq] at h
    split_ifs at h
    · rcases h with ⟨rfl, rfl⟩
      exact .requested position (by rw [hpc]; rfl)
    · rcases h with ⟨rfl, rfl⟩
      exact .contended position hpc
  | store position =>
    simp only [hpc, Option.some.injEq, Prod.mk.injEq] at h
    rcases h with ⟨rfl, rfl⟩
    exact .requested position (by rw [hpc]; rfl)
  | resetClocks position =>
    simp only [hpc, Option.some.injEq, Prod.mk.injEq] at h
    rcases h with ⟨rfl, rfl⟩
    exact .clocksReset position hpc
  | clear media position =>
    simp only [hpc] at h
    split_ifs at h with hdecoder
    · simp only [Option.some.injEq, Prod.mk.injEq] at h
      rcases h with ⟨rfl, rfl⟩
      exact .cleared media position hpc hdecoder
    · simp only [Option.some.injEq, Prod.mk.injEq] at h
      rcases h with ⟨rfl, rfl⟩
      exact .skipped media position hpc (by simpa using hdecoder)
  | setSeeking media position =>
    simp only [hpc, Option.some.injEq, Prod.mk.injEq] at h
    rcases h with ⟨rfl, rfl⟩
    exact .raised media position hpc
  | setSeekPos media position =>
    simp only [hpc, Option.some.injEq, Prod.mk.injEq] at h
    rcases h with ⟨rfl, rfl⟩
    exact .positioned media position hpc
  | finish result =>
    simp only [hpc, Option.some.injEq, Prod.mk.injEq] at h
    rcases h with ⟨rfl, rfl⟩
    exact .returned result hpc

/-- Everything an action can do before it reaches a lane. -/
inductive Move (s : Session) : Action → Session → Effect → Prop where
  | seek (position : ℚ) (hidle : s.control.pc = .idle) :
      Move s (.seek position) (s.callSeek position) none
  | control {t : Session} {effect : Effect} (h : ControlStep s t effect) : Move s .control t effect
  | demux (c : Demuxer.Choice) {dm' : Demuxer} {effect : Effect}
      (h : Demuxer.Change s.demuxer s.queue c dm' effect) :
      Move s (.demux c) { s with demuxer := dm' } effect
  | decode (m : MediaType) (c : Choice) : Move s (.decode m c) s (some (m, .loop c))
  | start (m : MediaType) (codecId : CodecId) (hwAccel : Option HWAccelType) (needFix : Bool)
      (hidle : s.control.pc = .idle) (hm : s.hasDecoder m = true) :
      Move s (.start m codecId hwAccel needFix) s (some (m, .start codecId hwAccel needFix))
  | popFrame (m : MediaType) : Move s (.popFrame m) s (some (m, .popFrame))
  | setAbortStatus (m : MediaType) (abort : Bool) :
      Move s (.setAbortStatus m abort) s (some (m, .setAbortStatus abort))
  | setPaused (m : MediaType) (paused : Bool) :
      Move s (.setPaused m paused) s (some (m, .setPaused paused))
  | setWaitingForPreBuffer (m : MediaType) (waiting : Bool) :
      Move s (.setWaitingForPreBuffer m waiting) s (some (m, .setWaitingForPreBuffer waiting))
  | interrupt (m : MediaType) : Move s (.interrupt m) s (some (m, .interrupt))
  | setDemuxerPaused (paused : Bool) :
      Move s (.setDemuxerPaused paused)
        { s with demuxer := { s.demuxer with isPaused := paused } } none
  | setLoopMode (mode : LoopMode) (maxLoops : ℤ) :
      Move s (.setLoopMode mode maxLoops) { s with demuxer := s.demuxer.setLoopMode mode maxLoops }
        none

theorem move_cases {s t : Session} {a : Action} {effect : Effect}
    (h : s.move a = some (t, effect)) : Move s a t effect := by
  cases a with
  | control => exact .control (controlMove_step h)
  | demux c =>
    simp only [move, Option.map_eq_some_iff, Prod.mk.injEq] at h
    rcases h with ⟨⟨dm', effect⟩, hmove, rfl, rfl⟩
    exact .demux c (Demuxer.move_change hmove)
  | seek position =>
    simp only [move, Option.ite_none_right_eq_some, Option.some.injEq, Prod.mk.injEq] at h
    rcases h with ⟨hidle, rfl, rfl⟩
    exact .seek position hidle
  | start m codecId hwAccel needFix =>
    simp only [move, Option.ite_none_right_eq_some, Option.some.injEq, Prod.mk.injEq] at h
    rcases h with ⟨⟨hidle, hm⟩, rfl, rfl⟩
    exact .start m codecId hwAccel needFix hidle hm
  | decode | popFrame | setAbortStatus | setPaused | setWaitingForPreBuffer | interrupt
  | setDemuxerPaused | setLoopMode =>
    simp only [move, Option.some.injEq, Prod.mk.injEq] at h
    rcases h with ⟨rfl, rfl⟩
    constructor

/-- The first part of a step leaves the lanes alone. -/
theorem Move.lane {s t : Session} {a : Action} {effect : Effect} (h : Move s a t effect) :
    t.lane = s.lane ∧ t.hasDecoder = s.hasDecoder ∧ t.hasQueue = s.hasQueue := by
  cases h with
  | control h => cases h <;> exact ⟨rfl, rfl, rfl⟩
  | seek | demux | decode | start | popFrame | setAbortStatus | setPaused
  | setWaitingForPreBuffer | interrupt | setDemuxerPaused | setLoopMode => exact ⟨rfl, rfl, rfl⟩

/-- Where the actions on a lane come from: the loop's own steps from its thread, `clear` and
`setSeekPos` from `seek`, and a decoder that is started exists. -/
theorem Move.effect {s t : Session} {a : Action} {m : MediaType} {b : Decoder.Action}
    (h : Move s a t (some (m, b))) :
    (b.isLoop = true → ∃ c, a = .decode m c ∧ b = .loop c) ∧
      (b = .clearFrames → a = .control ∧ s.hasDecoder m = true ∧
        ∃ position, s.control.pc = .clear m position) ∧
      (b = .setDemuxerSeeking → a = .control ∧ ∃ position, s.control.pc = .setSeeking m position) ∧
      (∀ codecId hwAccel needFix, b = .start codecId hwAccel needFix → s.hasDecoder m = true) := by
  cases h with
  | control h =>
    cases h with
    | cleared _ position hpc hm =>
      exact ⟨by simp [Decoder.Action.isLoop], by simp [hpc, hm], by simp, by simp⟩
    | raised _ position hpc =>
      exact ⟨by simp [Decoder.Action.isLoop], by simp, by simp [hpc], by simp⟩
    | positioned _ position hpc =>
      exact ⟨by simp [Decoder.Action.isLoop], by simp, by simp, by simp⟩
  | demux c h =>
    cases h with
    | flush media loop hpc _ heffect =>
      rcases Option.map_eq_some_iff.mp heffect.symm with ⟨q, _, hb⟩
      simp only [Prod.mk.injEq] at hb
      rw [← hb.2]
      exact ⟨by simp [Decoder.Action.isLoop], by simp, by simp, by simp⟩
    | other hpc hpc' hkeeps heffect =>
      rcases heffect with heffect | ⟨m', packet, heffect⟩
      · simp at heffect
      · simp only [Option.some.injEq, Prod.mk.injEq] at heffect
        rw [heffect.2]
        exact ⟨by simp [Decoder.Action.isLoop], by simp, by simp, by simp⟩
    | poll _ _ heffect | dropSeek _ _ heffect | store _ _ _ _ heffect
    | seekFrame _ _ _ _ _ _ heffect | loopStore _ _ heffect | loopLoad _ _ heffect =>
      simp at heffect
  | decode m c => exact ⟨fun _ => ⟨c, rfl, rfl⟩, by simp, by simp, by simp⟩
  | start m codecId hwAccel needFix _ hm =>
    exact ⟨by simp [Decoder.Action.isLoop], by simp, by simp, by simp [hm]⟩
  | popFrame | setAbortStatus | setPaused | setWaitingForPreBuffer | interrupt =>
    exact ⟨by simp [Decoder.Action.isLoop], by simp, by simp, by simp⟩

/-- What a step changes in one lane. -/
def LaneStep (s s' : Session) (effect : Effect) (m : MediaType) : Prop :=
  (s'.lane m = s.lane m ∧ ∀ b, effect ≠ some (m, b)) ∨
    ∃ b, effect = some (m, b) ∧ (s.lane m).step b = some (s'.lane m)

/-- What the action on a lane preserves holds of the lane after the step. -/
theorem LaneStep.preserves {s s' : Session} {effect : Effect} {m : MediaType} {P : Decoder → Prop}
    (h : LaneStep s s' effect m) (hp : P (s.lane m))
    (hstep : ∀ b d, effect = some (m, b) → (s.lane m).step b = some d → P d) : P (s'.lane m) := by
  rcases h with ⟨hsame, _⟩ | ⟨b, heffect, hb⟩
  · rw [hsame]
    exact hp
  · exact hstep b (s'.lane m) heffect hb

theorem LaneStep.generation {s s' : Session} {effect : Effect} {m : MediaType}
    (h : LaneStep s s' effect m) (hd : (s.lane m).Generation) : (s'.lane m).Generation :=
  h.preserves hd fun _ _ _ hb => hd.step hb

/-- A step in its two parts: what it does to the demuxer and the controller, and the action on
a lane, which leaves every other lane alone. -/
theorem step_spec {s s' : Session} {a : Action} (h : s.step a = some s') :
    ∃ t effect, Move s a t effect ∧ s'.demuxer = t.demuxer ∧ s'.control = t.control ∧
      s'.hasDecoder = s.hasDecoder ∧ s'.hasQueue = s.hasQueue ∧
      ∀ m, LaneStep s s' effect m := by
  rcases step_cases h with ⟨t, effect, hmove, ⟨rfl, rfl⟩ | ⟨m, b, d, rfl, hd, rfl⟩⟩
  · have hmove := move_cases hmove
    obtain ⟨hlane, hdecoder, hqueue⟩ := hmove.lane
    exact ⟨s', none, hmove, rfl, rfl, hdecoder, hqueue, fun m => Or.inl ⟨by rw [hlane], by simp⟩⟩
  · have hmove := move_cases hmove
    obtain ⟨hlane, hdecoder, hqueue⟩ := hmove.lane
    refine ⟨t, some (m, b), hmove, rfl, rfl, hdecoder, hqueue, fun m' => ?_⟩
    rw [hlane] at hd
    by_cases hm : m' = m
    · subst hm
      exact Or.inr ⟨b, rfl, by simpa using hd⟩
    · refine Or.inl ⟨by simp [hm, hlane], fun b' hb' => ?_⟩
      simp only [Option.some.injEq, Prod.mk.injEq] at hb'
      exact hm hb'.1.symm

/-- Only a position that passed the tests of `Demuxer::seek` is placed in the mailbox. -/
def Accepting (s : Session) : Prop :=
  ∀ position, requesting s.control.pc = some position → s.demuxer.acceptsSeek position = true

theorem acceptsSeek_spec {dm : Demuxer} {position : ℚ} (h : dm.acceptsSeek position = true) :
    dm.isRealTime = false ∧ 0 ≤ toMs position := by
  simp only [Demuxer.acceptsSeek, Bool.and_eq_true, Bool.not_eq_true'] at h
  exact ⟨h.1.2, toMs_nonneg h.2⟩

/-- A step of `seek` leaves the mailbox alone or places an accepted request in it. -/
theorem ControlStep.demuxer_cases {s t : Session} {effect : Effect} (h : ControlStep s t effect) :
    (t.demuxer = s.demuxer ∧ ∀ position, requesting t.control.pc = some position →
        requesting s.control.pc = some position ∨ s.demuxer.acceptsSeek position = true) ∨
      ∃ position, requesting s.control.pc = some position ∧
        t.demuxer = s.demuxer.request (toMs position) ∧ requesting t.control.pc = none := by
  cases h with
  | accepted position hpc haccepts =>
    refine Or.inl ⟨rfl, fun position' hposition' => Or.inr ?_⟩
    simp only [setControl, requesting, Option.some.injEq] at hposition'
    rw [← hposition']
    exact haccepts
  | contended position hpc =>
    refine Or.inl ⟨rfl, fun position' hposition' => Or.inl ?_⟩
    rw [hpc]
    exact hposition'
  | requested position hpc => exact Or.inr ⟨position, hpc, rfl, rfl⟩
  | skipped media position | positioned media position =>
    left
    cases media <;> simp [setControl, afterDecoder, requesting]
  | noDemuxer | demuxer | realTime | file | rejected | clocksReset | cleared | raised | returned =>
    left
    simp [setControl, returnSeek, requesting]

theorem accepting_opened (setup : Setup) : Accepting (opened setup) := by
  simp [Accepting, opened, requesting]

theorem Accepting.move {s t : Session} {a : Action} {effect : Effect} (hs : Accepting s)
    (h : Move s a t effect) : Accepting t := by
  cases h with
  | demux c h =>
    intro position hposition
    have haccepts := hs position hposition
    simpa only [Demuxer.acceptsSeek, h.constants.1, h.constants.2] using haccepts
  | control h =>
    rcases h.demuxer_cases with ⟨hd, hc⟩ | ⟨_, _, _, hc⟩
    · intro position hposition
      rw [hd]
      rcases hc position hposition with hold | hnew
      · exact hs position hold
      · exact hnew
    · intro position hposition
      rw [hc] at hposition
      simp at hposition
  | seek position => simp [Accepting, callSeek, requesting]
  | decode | start | popFrame | setAbortStatus | setPaused | setWaitingForPreBuffer | interrupt
  | setDemuxerPaused | setLoopMode => exact hs

end Session

end DecoderSDK
