import DecoderSDK.Session.Requests
import DecoderSDK.Decode.SerialChange

/-! # Seeking mode

`seek` raises the seeking flag of each decoder after its request is already
visible to the demux thread, and a decode loop lowers the flag only when it
notices a serial change. The flag is sound as long as some serial change is
still due whenever it is up.
-/
namespace DecoderSDK.Session
open Interleaving

/-- A flush of the media's packet queue is still to come from a request. -/
def flushComing (dm : Demuxer) (m : MediaType) : Bool :=
  0 ≤ dm.seekMsPos || match dm.pc with
    | .store _ _ => true
    | .seekFrame _ _ => true
    | .flush .video _ => true
    | .flush .audio _ => m = .audio
    | _ => false

/-- No request is pending, and the demux thread is not executing one. -/
def seekIdle (dm : Demuxer) : Bool :=
  dm.seekMsPos < 0 && match dm.pc with
    | .store _ _ => false
    | .seekFrame _ _ => false
    | .flush _ _ => false
    | .loopLoad => false
    | _ => true

/-- The decode loop of the media type is still going to leave seeking mode. -/
def due (s : Session) (m : MediaType) : Bool := flushComing s.demuxer m || (s.lane m).changeAhead

/-- After every call of `seek` has returned and every request is done, a loop that has caught
up with its packet queue is not in seeking mode. -/
def SeekingEnded (s : Session) : Prop :=
  s.control.pc = .idle → seekIdle s.demuxer = true → ∀ m, s.hasDecoder m = true →
    (s.lane m).settled = true → (s.lane m).demuxerSeeking = false

/-- `setSeekPos` raises the flag before the loop has gone through the serial change. -/
def raisesInTime (s : Session) (a : Action) : Bool :=
  match a, s.control.pc with
  | .control, .setSeeking m _ => s.due m
  | _, _ => true

/-- A decode thread reads its first serial out of seeking mode, or before the flush. -/
def startsInTime (s : Session) (a : Action) : Bool :=
  match a with
  | .decode m _ =>
    (s.lane m).pc ≠ .start || !(s.lane m).demuxerSeeking || flushComing s.demuxer m
  | _ => true

/-- `av_seek_frame` fails only when every raised flag has another serial change to come. -/
def failsHarmlessly (s : Session) (a : Action) : Bool :=
  match a with
  | .demux (.sought false) => [MediaType.video, .audio].all fun m =>
    !s.hasDecoder m || !(s.lane m).demuxerSeeking || 0 ≤ s.demuxer.seekMsPos ||
      (s.lane m).changeAhead
  | _ => true

structure Seeking (s : Session) : Prop where
  accepting : Accepting s
  generation : ∀ m, (s.lane m).Generation
  hasQueue : ∀ m, s.hasDecoder m = true → s.hasQueue m = true
  due : ∀ m, s.hasDecoder m = true → (s.lane m).demuxerSeeking = true → s.due m = true
  dropSeek : s.demuxer.pc = .dropSeek → s.demuxer.isRealTime = true
  realTime : s.demuxer.isRealTime = true →
    (∀ m, (s.lane m).demuxerSeeking = false) ∧
      (s.control.pc = .idle ∨ ∃ position, s.control.pc = .nullTest position ∨
        s.control.pc = .realTimeTest position)

theorem seeking_opened (setup : Setup) : Seeking (opened setup) where
  accepting := accepting_opened setup
  generation := fun _ => Decoder.generation_new ..
  hasQueue := fun _ h => h
  due := by simp [opened, Decoder.new]
  dropSeek := by
    simp only [opened]
    split_ifs <;> simp
  realTime := fun _ => ⟨fun _ => rfl, Or.inl rfl⟩

theorem SeekingEnded.of_seeking {s : Session} (hs : Seeking s) : SeekingEnded s := by
  intro _ hidle m hm hsettled
  by_contra hflag
  have hdue := hs.due m hm (by simpa using hflag)
  rw [Decoder.settled_eq] at hsettled
  have hcoming : flushComing s.demuxer m = false := by
    simp only [seekIdle, Bool.and_eq_true, decide_eq_true_eq] at hidle
    have hneg : ¬0 ≤ s.demuxer.seekMsPos := by omega
    simp only [flushComing, hneg, decide_false, Bool.false_or]
    cases hpc : s.demuxer.pc <;> simp_all
  simp [Session.due, hcoming] at hdue
  simp [hdue] at hsettled

/-- What a step of the demux thread does to a coming flush. -/
theorem flushComing_move {dm dm' : Demuxer} {queue : MediaType → Option PacketQueue}
    {c : Demuxer.Choice} {effect : Effect} (h : Demuxer.Change dm queue c dm' effect)
    {m : MediaType} (hcoming : flushComing dm m = true) :
    flushComing dm' m = true ∨ (effect = (queue m).map fun _ => (m, .flush)) ∨
      effect = none ∧ (c = .sought false ∧ dm.seekMsPos < 0 ∨ dm.pc = .dropSeek) := by
  by_cases hpos : 0 ≤ dm.seekMsPos
  · cases h with
    | poll hpc h | flush _ _ hpc h | loopLoad hpc h | seekFrame _ _ _ hpc _ h =>
      subst h
      left
      simp [flushComing, Demuxer.goto, hpos]
    | dropSeek hpc _ heffect => exact Or.inr (Or.inr ⟨heffect, Or.inr hpc⟩)
    | store ms loop hpc h =>
      subst h
      left
      simp [flushComing]
    | loopStore hpc h =>
      subst h
      left
      simp [flushComing]
    | other hpc hpc' hkeeps =>
      left
      simp [flushComing, hkeeps.seekMsPos, hpos]
  · simp only [flushComing, hpos, decide_false, Bool.false_or] at hcoming
    cases h with
    | store ms loop hpc h =>
      subst h
      left
      simp [flushComing]
    | seekFrame ms loop ok hpc hc h heffect =>
      cases ok with
      | true =>
        subst h
        left
        simp [flushComing]
      | false => exact Or.inr (Or.inr ⟨heffect, Or.inl ⟨hc, by omega⟩⟩)
    | flush media loop hpc h heffect =>
      subst h
      cases media with
      | video =>
        cases m with
        | video => exact Or.inr (Or.inl heffect)
        | audio =>
          left
          simp [flushComing, Demuxer.goto, Demuxer.afterMedia]
      | audio =>
        cases m with
        | video => simp [hpc] at hcoming
        | audio => exact Or.inr (Or.inl heffect)
    | dropSeek hpc _ heffect => exact Or.inr (Or.inr ⟨heffect, Or.inr hpc⟩)
    | poll hpc | loopStore hpc | loopLoad hpc => simp [hpc] at hcoming
    | other hpc => cases hdpc : dm.pc <;> simp_all [Demuxer.Pc.plain]

theorem flushComing_session {s t : Session} {a : Action} {effect : Effect} (hs : Accepting s)
    (h : Move s a t effect) {m : MediaType} (hcoming : flushComing s.demuxer m = true) :
    flushComing t.demuxer m = true ∨ (effect = (s.queue m).map fun _ => (m, .flush)) ∨
      effect = none ∧ (a = .demux (.sought false) ∧ s.demuxer.seekMsPos < 0 ∨
        s.demuxer.pc = .dropSeek) := by
  cases h with
  | demux c h =>
    rcases flushComing_move h hcoming with h | h | ⟨he, ⟨rfl, hneg⟩ | h⟩
    · exact Or.inl h
    · exact Or.inr (Or.inl h)
    · exact Or.inr (Or.inr ⟨he, Or.inl ⟨rfl, hneg⟩⟩)
    · exact Or.inr (Or.inr ⟨he, Or.inr h⟩)
  | control h =>
    left
    rcases h.demuxer_cases with ⟨hd, _⟩ | ⟨position, hposition, hd, _⟩
    · rw [hd]
      exact hcoming
    · rw [hd]
      simp [flushComing, Demuxer.request, (acceptsSeek_spec (hs position hposition)).2]
  | seek | decode | start | popFrame | setAbortStatus | setPaused | setWaitingForPreBuffer
  | interrupt | setDemuxerPaused | setLoopMode => exact Or.inl hcoming

/-- The flag of a lane that a step leaves alone. -/
theorem due_of_lane_eq {s s' t : Session} {a : Action} {effect : Effect} {m : MediaType}
    (hs : Seeking s) (hm : s.hasDecoder m = true) (hfail : failsHarmlessly s a = true)
    (hmove : Move s a t effect) (hdemuxer : s'.demuxer = t.demuxer)
    (hlane : s'.lane m = s.lane m) (heffect : ∀ b, effect ≠ some (m, b))
    (hflag : (s.lane m).demuxerSeeking = true) : s'.due m = true := by
  simp only [Session.due, hdemuxer, hlane, Bool.or_eq_true]
  by_cases hahead : (s.lane m).changeAhead = true
  · exact Or.inr hahead
  · have hcoming : flushComing s.demuxer m = true := by
      simpa [Session.due, hahead] using hs.due m hm hflag
    rcases flushComing_session hs.accepting hmove hcoming with h | h | ⟨_, ⟨rfl, hneg⟩ | h⟩
    · exact Or.inl h
    · have hq : s.queue m = some (s.lane m).packetQueue := if_pos (hs.hasQueue m hm)
      rw [hq] at h
      exact absurd h (heffect _)
    · have hneg' : ¬0 ≤ s.demuxer.seekMsPos := by omega
      simp only [failsHarmlessly, List.all_cons, List.all_nil, Bool.and_true, Bool.and_eq_true,
        hneg', decide_false, Bool.or_false] at hfail
      cases m with
      | video => simp [hm, hflag, hahead] at hfail
      | audio => simp [hm, hflag, hahead] at hfail
    · have := (hs.realTime (hs.dropSeek h)).1 m
      rw [this] at hflag
      simp at hflag

/-- The flag of the lane that a step acts on. -/
theorem due_of_lane_step {s s' t : Session} {a : Action} {m : MediaType} {b : Decoder.Action}
    (hs : Seeking s) (hm : s.hasDecoder m = true) (hraise : raisesInTime s a = true)
    (hstart : startsInTime s a = true) (hmove : Move s a t (some (m, b)))
    (hdemuxer : s'.demuxer = t.demuxer) (hlane : (s.lane m).step b = some (s'.lane m))
    (hflag : (s'.lane m).demuxerSeeking = true) : s'.due m = true := by
  simp only [Session.due, hdemuxer, Bool.or_eq_true]
  obtain ⟨hloop, _, hseeking, _⟩ := hmove.effect
  have hdue : s.due m = true := by
    rcases Decoder.demuxerSeeking_step hlane hflag with hold | hb
    · exact hs.due m hm hold
    · rcases hseeking hb with ⟨rfl, position, hpc⟩
      simpa [raisesInTime, hpc] using hraise
  simp only [Session.due, Bool.or_eq_true] at hdue
  have hcoming (h : flushComing s.demuxer m = true) :
      flushComing t.demuxer m = true ∨ (s'.lane m).changeAhead = true := by
    rcases flushComing_session hs.accepting hmove h with h | h | ⟨h, _⟩
    · exact Or.inl h
    · right
      rcases Option.map_eq_some_iff.mp h.symm with ⟨q, _, hb⟩
      simp only [Prod.mk.injEq, true_and] at hb
      subst hb
      simp only [Decoder.step, Option.some.injEq] at hlane
      rw [← hlane]
      exact Decoder.changeAhead_bump (hs.generation m) rfl rfl
    · simp at h
  rcases hdue with h | h
  · exact hcoming h
  · rcases Decoder.changeAhead_step (hs.generation m) hlane h with h | h | ⟨hpc, hb⟩
    · exact Or.inr h
    · rw [h] at hflag
      simp at hflag
    · rcases hloop hb with ⟨c, rfl, rfl⟩
      apply hcoming
      have hold : (s.lane m).demuxerSeeking = true := by
        rcases Decoder.demuxerSeeking_step hlane hflag with hold | hb
        · exact hold
        · simp at hb
      simpa [startsInTime, hpc, hold] using hstart

theorem dropSeek_move {dm dm' : Demuxer} {queue : MediaType → Option PacketQueue}
    {c : Demuxer.Choice} {effect : Effect} (h : Demuxer.Change dm queue c dm' effect)
    (hpc' : dm'.pc = .dropSeek) : dm'.isRealTime = true := by
  cases h with
  | poll hpc h =>
    subst h
    simp only [Demuxer.goto] at hpc'
    split_ifs at hpc' with hrt
    exact hrt
  | seekFrame ms loop ok hpc hc h =>
    simp only [h] at hpc'
    split_ifs at hpc'
  | flush media loop hpc h =>
    cases media with
    | video => simp [h, Demuxer.goto, Demuxer.afterMedia] at hpc'
    | audio =>
      simp only [h, Demuxer.goto, Demuxer.afterMedia] at hpc'
      split_ifs at hpc'
  | loopLoad hpc h =>
    simp only [h, Demuxer.goto] at hpc'
    split_ifs at hpc'
  | dropSeek hpc h | store _ _ hpc h | loopStore hpc h => simp [h] at hpc'
  | other hpc hpc'' hkeeps => simp [hpc', Demuxer.Pc.plain] at hpc''

/-- On a real-time stream `seek` returns before it reaches the demuxer. -/
theorem realTime_control {s t : Session} {a : Action} {effect : Effect}
    (hrt : s.demuxer.isRealTime = true)
    (hs : s.control.pc = .idle ∨ ∃ position, s.control.pc = .nullTest position ∨
      s.control.pc = .realTimeTest position) (h : Move s a t effect) :
    t.control.pc = .idle ∨ ∃ position, t.control.pc = .nullTest position ∨
      t.control.pc = .realTimeTest position := by
  cases h with
  | control h =>
    cases h with
    | noDemuxer | realTime => exact Or.inl rfl
    | demuxer position => exact Or.inr ⟨position, Or.inr rfl⟩
    | file position hpc hfile => simp [hrt] at hfile
    | requested position hpc =>
      rcases hs with hs | ⟨position, hs | hs⟩ <;> simp [hs, requesting] at hpc
    | accepted _ hpc | rejected _ hpc | contended _ hpc | clocksReset _ hpc | skipped _ _ hpc
    | cleared _ _ hpc | raised _ _ hpc | positioned _ _ hpc | returned _ hpc =>
      rcases hs with hs | ⟨position, hs | hs⟩ <;> simp [hs] at hpc
  | seek position => exact Or.inr ⟨position, Or.inl rfl⟩
  | demux | decode | start | popFrame | setAbortStatus | setPaused | setWaitingForPreBuffer
  | interrupt | setDemuxerPaused | setLoopMode => exact hs

/-- What a step does to the demuxer, apart from its thread. -/
theorem Move.demuxer {s t : Session} {a : Action} {effect : Effect} (h : Move s a t effect) :
    t.demuxer.isRealTime = s.demuxer.isRealTime ∧
      (t.demuxer.pc = .dropSeek → s.demuxer.pc = .dropSeek ∨ t.demuxer.isRealTime = true) := by
  cases h with
  | demux c h => exact ⟨h.constants.2, fun hpc => Or.inr (dropSeek_move h hpc)⟩
  | control h =>
    rcases h.demuxer_cases with ⟨hd, _⟩ | ⟨position, _, hd, _⟩
    · rw [hd]
      exact ⟨rfl, Or.inl⟩
    · rw [hd]
      exact ⟨rfl, Or.inl⟩
  | seek | decode | start | popFrame | setAbortStatus | setPaused | setWaitingForPreBuffer
  | interrupt | setDemuxerPaused | setLoopMode => exact ⟨rfl, Or.inl⟩

theorem Seeking.step {s s' : Session} {a : Action} (hs : Seeking s)
    (hraise : raisesInTime s a = true) (hstart : startsInTime s a = true)
    (hfail : failsHarmlessly s a = true) (h : s.step a = some s') : Seeking s' := by
  rcases step_spec h with ⟨t, effect, hmove, hdemuxer, hcontrol, hdecoder, hqueue, hlane⟩
  obtain ⟨hconst, hdrop⟩ := hmove.demuxer
  refine ⟨?_, ?_, ?_, ?_, ?_, ?_⟩
  · unfold Accepting
    rw [hdemuxer, hcontrol]
    exact hs.accepting.move hmove
  · exact fun m => (hlane m).generation (hs.generation m)
  · rw [hdecoder, hqueue]
    exact hs.hasQueue
  · intro m hm hflag
    rw [hdecoder] at hm
    rcases hlane m with ⟨hsame, heffect⟩ | ⟨b, rfl, hstep⟩
    · rw [hsame] at hflag
      exact due_of_lane_eq hs hm hfail hmove hdemuxer hsame heffect hflag
    · exact due_of_lane_step hs hm hraise hstart hmove hdemuxer hstep hflag
  · rw [hdemuxer]
    intro hpc
    rcases hdrop hpc with hold | hrt
    · rw [hconst]
      exact hs.dropSeek hold
    · exact hrt
  · rw [hdemuxer, hcontrol, hconst]
    intro hrt
    obtain ⟨hflags, hpc⟩ := hs.realTime hrt
    refine ⟨fun m => ?_, realTime_control hrt hpc hmove⟩
    rcases hlane m with ⟨hm, _⟩ | ⟨b, rfl, hm⟩
    · rw [hm]
      exact hflags m
    · by_contra hflag
      rcases Decoder.demuxerSeeking_step hm (by simpa using hflag) with hold | hb
      · simp [hflags m] at hold
      · rcases hmove.effect.2.2.1 hb with ⟨_, position, hset⟩
        rcases hpc with hpc | ⟨position', hpc | hpc⟩ <;> simp [hpc] at hset

/-- `av_seek_frame` succeeds. -/
def seekSucceeds (a : Action) : Bool :=
  match a with
  | .demux (.sought ok) => ok
  | _ => true

theorem failsHarmlessly_of_succeeds {s : Session} {a : Action} (h : seekSucceeds a = true) :
    failsHarmlessly s a = true := by
  unfold failsHarmlessly
  split
  · simp [seekSucceeds] at h
  · rfl

/-- Seeking mode always ends when positioning succeeds, in every run in which the flag is
raised, and a decode thread started, before the serial change it waits for. -/
theorem seeking_mode_ends (setup : Setup) (actions : List Action)
    (h : Each step (fun s a _ => seekSucceeds a = true ∧ raisesInTime s a = true ∧
      startsInTime s a = true) (opened setup) actions) :
    Each step (fun _ _ s => SeekingEnded s) (opened setup) actions := by
  refine Each.of_invariant (fun s a s' hs ha hstep => ?_) (seeking_opened setup) h
  have hs' : Seeking s' :=
    Seeking.step hs ha.2.1 ha.2.2 (failsHarmlessly_of_succeeds ha.1) hstep
  exact ⟨hs', .of_seeking hs'⟩

/-- A seek whose flag is raised, and lowered after the flush. -/
theorem seeking_mode_ends_after_seek :
    let actions : List Action := List.flatten
      [[.start .video .h264 none false], decodeSteps 6, [.seek 1], List.replicate 10 .control,
        [.demux .go, .demux .go, .demux (.sought true), .demux .go, .demux .go], decodeSteps 9]
    (run step (opened videoFile) actions).map (fun s =>
        (s.control.pc, seekIdle s.demuxer, (s.lane .video).settled)) = some (.idle, true, true) ∧
      Each step (fun _ _ s => SeekingEnded s) (opened videoFile) actions :=
  ⟨by decide +kernel, seeking_mode_ends _ _ (by decide +kernel)⟩

/-- The request is served, and the loop goes through the serial change, before the controller
raises the flag. -/
theorem seeking_mode_ends_fails :
    let actions : List Action := List.flatten
      [[.start .video .h264 none false], decodeSteps 6, [.seek 1], List.replicate 4 .control,
        [.demux .go, .demux .go, .demux (.sought true), .demux .go, .demux .go], decodeSteps 9,
        List.replicate 6 .control, decodeSteps 6]
    Each step (fun _ a _ => seekSucceeds a = true) (opened videoFile) actions ∧
      ¬Each step (fun _ _ s => SeekingEnded s) (opened videoFile) actions := by
  intro actions
  refine ⟨by decide +kernel, fun h => ?_⟩
  have hvideo : Each step (fun _ _ s => s.control.pc = .idle → seekIdle s.demuxer = true →
      s.hasDecoder .video = true → (s.lane .video).settled = true →
        (s.lane .video).demuxerSeeking = false) (opened videoFile) actions :=
    h.mono fun s a s' hs hpc hidle => hs hpc hidle .video
  revert hvideo
  decide +kernel

/-- `seek` ends with exactly one event, which agrees with what it returns. -/
def SeekReported (s : Session) : Prop :=
  s.control.pc = .idle → ∀ result, s.control.result = some result →
    s.control.events = [.seekStarted, if result then .seekSuccess else .seekFailed]

/-- Once the requests are handled and every loop has gone round, no decoder drops frames. -/
def FramesDelivered (s : Session) : Prop :=
  s.control.pc = .idle → seekIdle s.demuxer = true →
    (∀ m, s.hasDecoder m = true → (s.lane m).settled = true) →
      ∀ m, s.hasDecoder m = true → (s.lane m).demuxerSeeking = false

/-- The tests of `Demuxer::seek` do not fail. -/
def seekAccepted (s : Session) (a : Action) : Bool :=
  match a, s.control.pc with
  | .control, .demuxerSeek position => s.demuxer.acceptsSeek position
  | _, _ => true

/-- The events of the running `seek`, and of the last one. -/
def Reporting (s : Session) : Prop :=
  match s.control.pc with
  | .idle => ∀ result, s.control.result = some result →
      s.control.events = [.seekStarted, if result then .seekSuccess else .seekFailed]
  | .finish result => result = true ∧ s.control.events = [.seekStarted]
  | _ => s.control.events = [.seekStarted]

theorem reporting_setControl {s : Session} {pc : Control.Pc}
    (hevents : s.control.events = [.seekStarted]) (hidle : pc ≠ .idle)
    (hfinish : ∀ result, pc = .finish result → result = true) : Reporting (s.setControl pc) := by
  unfold Reporting
  simp only [setControl]
  cases pc with
  | idle => exact absurd rfl hidle
  | finish result => exact ⟨hfinish result rfl, hevents⟩
  | _ => exact hevents

theorem Reporting.controlStep {s t : Session} {effect : Effect} (hs : Reporting s)
    (haccepted : seekAccepted s .control = true) (h : ControlStep s t effect) : Reporting t := by
  cases h with
  | noDemuxer position hpc | realTime position hpc =>
    simp only [Reporting, hpc] at hs
    simp [Reporting, returnSeek, hs]
  | returned result hpc =>
    simp only [Reporting, hpc] at hs
    simp [Reporting, returnSeek, hs.1, hs.2]
  | rejected position hpc hreject => simp [seekAccepted, hpc, hreject] at haccepted
  | requested position hpc =>
    have hevents : s.control.events = [.seekStarted] := by
      unfold Reporting at hs
      cases hspc : s.control.pc <;> simp_all [requesting]
    exact hevents
  | demuxer position hpc | file position hpc | accepted position hpc | contended position hpc
  | clocksReset position hpc =>
    simp only [Reporting, hpc] at hs
    exact reporting_setControl hs (by simp) (by simp)
  | skipped media position hpc | positioned media position hpc =>
    simp only [Reporting, hpc] at hs
    cases media with
    | video => exact reporting_setControl hs (by simp [afterDecoder]) (by simp [afterDecoder])
    | audio => exact reporting_setControl hs (by simp [afterDecoder]) (by simp [afterDecoder])
  | cleared media position hpc | raised media position hpc =>
    simp only [Reporting, hpc] at hs
    exact hs

theorem Reporting.move {s t : Session} {a : Action} {effect : Effect} (hs : Reporting s)
    (haccepted : seekAccepted s a = true) (h : Move s a t effect) : Reporting t := by
  cases h with
  | control h => exact hs.controlStep haccepted h
  | seek position => rfl
  | demux | decode | start | popFrame | setAbortStatus | setPaused | setWaitingForPreBuffer
  | interrupt | setDemuxerPaused | setLoopMode => exact hs

structure SeekingReported (s : Session) : Prop where
  seeking : Seeking s
  reporting : Reporting s

theorem SeekingReported.step {s s' : Session} {a : Action} (hs : SeekingReported s)
    (haccepted : seekAccepted s a = true) (hraise : raisesInTime s a = true)
    (hstart : startsInTime s a = true) (hfail : failsHarmlessly s a = true)
    (h : s.step a = some s') : SeekingReported s' := by
  refine ⟨hs.seeking.step hraise hstart hfail h, ?_⟩
  rcases step_spec h with ⟨t, effect, hmove, _, hcontrol, _⟩
  have ht : Reporting t := hs.reporting.move haccepted hmove
  unfold Reporting at ht ⊢
  rw [hcontrol]
  exact ht

/-- A failed seek is reported and does no harm, in every run in which the demuxer accepts the
position, the flags are raised in time, and `av_seek_frame` fails only where a later serial
change is still to come. -/
theorem failed_seek_harmless (setup : Setup) (actions : List Action)
    (h : Each step (fun s a _ => seekAccepted s a = true ∧ raisesInTime s a = true ∧
      startsInTime s a = true ∧ failsHarmlessly s a = true) (opened setup) actions) :
    Each step (fun _ _ s => SeekReported s ∧ FramesDelivered s) (opened setup) actions := by
  have hopened : SeekingReported (opened setup) :=
    ⟨seeking_opened setup, by simp [Reporting, opened]⟩
  refine Each.of_invariant (fun s a s' hs ha hstep => ?_) hopened h
  have hs' : SeekingReported s' := hs.step ha.1 ha.2.1 ha.2.2.1 ha.2.2.2 hstep
  refine ⟨hs', fun hpc result hresult => ?_, fun hpc hidle hsettled m hm => ?_⟩
  · have hreport := hs'.reporting
    simp only [Reporting, hpc] at hreport
    exact hreport result hresult
  · exact SeekingEnded.of_seeking hs'.seeking hpc hidle m hm (hsettled m hm)

/-- The first request fails while a second one is pending; the second one ends seeking mode. -/
theorem failed_seek_harmless_replaced :
    let actions : List Action := List.flatten
      [[.start .video .h264 none false], decodeSteps 6, [.seek 1], List.replicate 10 .control,
        [.demux .go, .demux .go, .seek 2], List.replicate 10 .control,
        [.demux (.sought false), .demux .go, .demux .again, .demux .go, .demux .go,
          .demux (.sought true), .demux .go, .demux .go], decodeSteps 9]
    (run step (opened videoFile) actions).map (fun s =>
        (s.control.result, seekIdle s.demuxer, (s.lane .video).settled)) =
          some (some true, true, true) ∧
      Each step (fun _ _ s => SeekReported s ∧ FramesDelivered s) (opened videoFile) actions :=
  ⟨by decide +kernel, failed_seek_harmless _ _ (by decide +kernel)⟩

/-- A negative position is reported as a success, and a failing `av_seek_frame` leaves the
decoder in seeking mode. -/
theorem failed_seek_harmless_fails :
    let negative : List Action := .seek (-1) :: List.replicate 4 .control
    let failing : List Action := List.flatten
      [[.start .video .h264 none false], decodeSteps 6, [.seek 1], List.replicate 10 .control,
        [.demux .go, .demux .go, .demux (.sought false)], decodeSteps 6]
    ¬Each step (fun _ _ s => SeekReported s ∧ FramesDelivered s) (opened videoFile) negative ∧
      ¬Each step (fun _ _ s => SeekReported s ∧ FramesDelivered s) (opened videoFile) failing := by
  intro negative failing
  constructor
  · intro h
    have hreported : Each step (fun _ _ s => s.control.pc = .idle → s.control.result = some false →
        s.control.events = [.seekStarted, .seekFailed]) (opened videoFile) negative :=
      h.mono fun s a s' hs hpc hresult => hs.1 hpc false hresult
    revert hreported
    decide +kernel
  · intro h
    have hdelivered : Each step (fun _ _ s => s.control.pc = .idle → seekIdle s.demuxer = true →
        (s.lane .video).settled = true → s.hasDecoder .audio = false ∧
          s.hasDecoder .video = true → (s.lane .video).demuxerSeeking = false)
        (opened videoFile) failing := by
      refine h.mono fun s a s' hs hpc hidle hvideo ⟨haudio, hm⟩ => hs.2 hpc hidle ?_ .video hm
      intro m hm
      cases m with
      | video => exact hvideo
      | audio => simp [haudio] at hm
    revert hdelivered
    decide +kernel

end DecoderSDK.Session
