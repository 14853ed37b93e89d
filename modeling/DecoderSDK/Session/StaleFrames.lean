import DecoderSDK.Session.Controller
import DecoderSDK.Decode.Publishing

/-! # Frames from before a seek

`seek` clears the frame queue and then raises the seeking flag, and the
decode loop tests the flag once for each frame, some way before it commits.
A frame is stale for a seek when its serial is not newer than the serial
under which the seek was called.
-/
namespace DecoderSDK.Session
open Interleaving

/-- A consumer gets no frame that is stale for a seek that has returned true. -/
def PopsNewer (s : Session) (a : Action) : Prop :=
  ∀ m, a = .popFrame m → ∀ ref f, ((s.lane m).frameQueue.pop ref).1 = some f →
    ∀ called ∈ s.control.returnedAt, called m < f.serial

/-- The queue is cleared while the loop holds no stale frame behind the seeking test, and the
slot it has reserved stays in place. -/
def clearsInTime (s : Session) (a : Action) : Bool :=
  match a, s.control.pc with
  | .control, .clear m _ => !s.hasDecoder m || !(s.lane m).pc.pastTest ||
      s.control.calledAt m < (s.lane m).serial && (s.lane m).keepsSlot
  | _, _ => true

/-- Between the clearing of the queue and the raising of the flag, the loop tests the flag
only for frames that are not stale, or finds it raised by an earlier seek. -/
def testsInTime (s : Session) (a : Action) : Bool :=
  match a with
  | .decode m _ => match (s.lane m).pc with
    | .seekingTest _ => !s.control.cleared m || s.control.raised m ||
        (s.lane m).demuxerSeeking || s.control.calledAt m < (s.lane m).serial
    | _ => true
  | _ => true

/-- The loop leaves seeking mode only after the serial change of every seek that has raised
the flag. -/
def endsInTime (s : Session) (a : Action) : Bool :=
  match a with
  | .decode m _ => (s.lane m).pc ≠ .endSeeking ||
      (!s.control.raised m || s.control.calledAt m < (s.lane m).serial) &&
        s.control.returnedAt.all fun called => called m < (s.lane m).serial
  | _ => true

/-- The decoders whose queue is cleared when `seek` has come to `pc`. -/
def clearedBy : Control.Pc → MediaType → Bool
  | .clear .audio _, m => m = .video
  | .setSeeking .video _, m => m = .video
  | .setSeekPos .video _, m => m = .video
  | .setSeeking .audio _, _ => true
  | .setSeekPos .audio _, _ => true
  | .finish result, _ => result
  | _, _ => false

/-- The decoders whose flag is raised when `seek` has come to `pc`. -/
def raisedBy : Control.Pc → MediaType → Bool
  | .clear .audio _, m => m = .video
  | .setSeekPos .video _, m => m = .video
  | .setSeeking .audio _, m => m = .video
  | .setSeekPos .audio _, _ => true
  | .finish result, _ => result
  | _, _ => false

/-- `seek` has done for each decoder what its program counter says. -/
def Progress (s : Session) : Prop :=
  ∀ m, s.hasDecoder m = true →
    (clearedBy s.control.pc m = true → s.control.cleared m = true) ∧
      (raisedBy s.control.pc m = true → s.control.raised m = true)

structure Fresh (s : Session) : Prop where
  generation : ∀ m, (s.lane m).Generation
  publishing : ∀ m, (s.lane m).Publishing
  noDecoder : ∀ m, s.hasDecoder m = false → (s.lane m).pc = .idle
  progress : Progress s
  returned : ∀ called ∈ s.control.returnedAt, ∀ m, (s.lane m).Newer (called m) ∧
    (s.hasDecoder m = true → (s.lane m).Shut (called m))
  cleared : ∀ m, s.control.cleared m = true → (s.lane m).Newer (s.control.calledAt m)
  raised : ∀ m, s.control.raised m = true → (s.lane m).Shut (s.control.calledAt m)

theorem fresh_opened (setup : Setup) : Fresh (opened setup) where
  generation := fun _ => Decoder.generation_new ..
  publishing := fun _ => Decoder.publishing_new ..
  noDecoder := fun _ _ => rfl
  progress := by simp [Progress, opened, clearedBy, raisedBy]
  returned := by simp [opened]
  cleared := by simp [opened]
  raised := by simp [opened]

/-- What a step does to the records of the calls of `seek`. -/
structure Records (s t : Session) (effect : Effect) : Prop where
  returned : ∀ called ∈ t.control.returnedAt, called ∈ s.control.returnedAt ∨
    called = s.control.calledAt ∧ s.control.pc = .finish true ∧ effect = none
  cleared : ∀ m, t.control.cleared m = true → t.control.calledAt = s.control.calledAt ∧
    (s.control.cleared m = true ∨ effect = some (m, .clearFrames))
  raised : ∀ m, t.control.raised m = true → t.control.calledAt = s.control.calledAt ∧
    (s.control.raised m = true ∨ effect = some (m, .setDemuxerSeeking))

theorem records_same {s t : Session} {effect : Effect}
    (hreturned : t.control.returnedAt = s.control.returnedAt)
    (hcalled : t.control.calledAt = s.control.calledAt)
    (hcleared : t.control.cleared = s.control.cleared)
    (hraised : t.control.raised = s.control.raised) : Records s t effect where
  returned := by
    rw [hreturned]
    exact fun called h => Or.inl h
  cleared := by
    rw [hcleared]
    exact fun m h => ⟨hcalled, Or.inl h⟩
  raised := by
    rw [hraised]
    exact fun m h => ⟨hcalled, Or.inl h⟩

theorem ControlStep.records {s t : Session} {effect : Effect} (h : ControlStep s t effect) :
    Records s t effect := by
  cases h with
  | cleared media position hpc hdecoder =>
    refine ⟨fun called h => Or.inl h, fun m hm => ⟨rfl, ?_⟩, fun m hm => ⟨rfl, Or.inl hm⟩⟩
    by_cases hmedia : m = media
    · subst hmedia
      exact Or.inr rfl
    · left
      simpa [Function.update_of_ne hmedia] using hm
  | raised media position hpc =>
    refine ⟨fun called h => Or.inl h, fun m hm => ⟨rfl, Or.inl hm⟩, fun m hm => ⟨rfl, ?_⟩⟩
    by_cases hmedia : m = media
    · subst hmedia
      exact Or.inr rfl
    · left
      simpa [Function.update_of_ne hmedia] using hm
  | returned result hpc =>
    refine ⟨fun called h => ?_, fun m hm => ⟨rfl, Or.inl hm⟩, fun m hm => ⟨rfl, Or.inl hm⟩⟩
    cases result with
    | false => exact Or.inl h
    | true =>
      rcases List.mem_cons.mp h with h | h
      · exact Or.inr ⟨h, hpc, rfl⟩
      · exact Or.inl h
  | noDemuxer | demuxer | realTime | file | accepted | rejected | contended | requested
  | clocksReset | skipped | positioned => exact records_same rfl rfl rfl rfl

theorem Move.records {s t : Session} {a : Action} {effect : Effect} (h : Move s a t effect) :
    Records s t effect := by
  cases h with
  | control h => exact h.records
  | seek position => exact ⟨fun called h => Or.inl h, by simp [callSeek], by simp [callSeek]⟩
  | demux | decode | start | popFrame | setAbortStatus | setPaused | setWaitingForPreBuffer
  | interrupt | setDemuxerPaused | setLoopMode => exact records_same rfl rfl rfl rfl

theorem Progress.controlStep {s t : Session} {effect : Effect} (hs : Progress s)
    (h : ControlStep s t effect) : Progress t := by
  cases h with
  | noDemuxer | realTime | returned => simp [Progress, returnSeek, clearedBy, raisedBy]
  | demuxer | file | accepted | rejected | contended | requested | clocksReset =>
    simp [Progress, setControl, clearedBy, raisedBy]
  | skipped media position hpc hdecoder =>
    intro m hm
    have hold := hs m hm
    cases media <;> cases m <;>
      simp_all [setControl, afterDecoder, clearedBy, raisedBy]
  | cleared media position hpc hdecoder =>
    intro m hm
    have hold := hs m hm
    cases media <;> cases m <;>
      simp_all [clearedBy, raisedBy, Function.update_of_ne]
  | raised media position hpc =>
    intro m hm
    have hold := hs m hm
    cases media <;> cases m <;>
      simp_all [clearedBy, raisedBy, Function.update_of_ne]
  | positioned media position hpc =>
    intro m hm
    have hold := hs m hm
    cases media <;> cases m <;>
      simp_all [setControl, afterDecoder, clearedBy, raisedBy]

theorem Progress.move {s t : Session} {a : Action} {effect : Effect} (hs : Progress s)
    (h : Move s a t effect) : Progress t := by
  cases h with
  | control h => exact hs.controlStep h
  | seek position => simp [Progress, callSeek, clearedBy, raisedBy]
  | demux | decode | start | popFrame | setAbortStatus | setPaused | setWaitingForPreBuffer
  | interrupt | setDemuxerPaused | setLoopMode => exact hs

/-- A lane that no step has started holds no frame. -/
theorem idle_step {d d' : Decoder} {b : Decoder.Action} (hpc : d.pc = .idle)
    (hstart : ∀ codecId hwAccel needFix, b ≠ .start codecId hwAccel needFix)
    (h : d.step b = some d') : d'.pc = .idle := by
  cases b with
  | loop c => simp [Decoder.step, Decoder.loop, hpc] at h
  | start codecId hwAccel needFix => exact absurd rfl (hstart codecId hwAccel needFix)
  | push | flush | queueStart | queueAbort | popFrame | clearFrames | setAbortStatus
  | setDemuxerSeeking | setSeekPosMs | setPaused | setWaitingForPreBuffer | interrupt =>
    simp only [Decoder.step, Option.some.injEq] at h
    subst h
    exact hpc

theorem newer_step {s s' t : Session} {a : Action} {effect : Effect} {m : MediaType} {n : ℕ}
    (hs : Fresh s) (hmove : Move s a t effect) (hlane : LaneStep s s' effect m)
    (hnewer : (s.lane m).Newer n)
    (htest : ∀ c frame, a = .decode m c → (s.lane m).pc = .seekingTest frame →
      (s.lane m).Shut n) : (s'.lane m).Newer n := by
  refine hlane.preserves (P := fun d => d.Newer n) hnewer fun b d heffect hstep => ?_
  subst heffect
  refine hnewer.step (hs.publishing m) (fun hloop frame hpc => ?_) hstep
  rcases hmove.effect.1 hloop with ⟨c, ha, _⟩
  exact htest c frame ha hpc

theorem shut_step {s s' t : Session} {a : Action} {effect : Effect} {m : MediaType} {n : ℕ}
    (hs : Fresh s) (hmove : Move s a t effect) (hlane : LaneStep s s' effect m)
    (hshut : (s.lane m).Shut n)
    (hend : ∀ c, a = .decode m c → (s.lane m).pc = .endSeeking → n < (s.lane m).serial) :
    (s'.lane m).Shut n := by
  refine hlane.preserves (P := fun d => d.Shut n) hshut fun b d heffect hstep => ?_
  subst heffect
  refine hshut.step (hs.generation m) (fun hloop hpc => ?_) hstep
  rcases hmove.effect.1 hloop with ⟨c, ha, _⟩
  exact hend c ha hpc

theorem publishing_step {s s' t : Session} {a : Action} {effect : Effect} {m : MediaType}
    (hs : Fresh s) (hclear : clearsInTime s a = true) (hmove : Move s a t effect)
    (hlane : LaneStep s s' effect m) : (s'.lane m).Publishing := by
  refine hlane.preserves (hs.publishing m) fun b d heffect hstep => ?_
  subst heffect
  refine (hs.publishing m).step (fun hb => ?_) hstep
  rcases hmove.effect.2.1 hb with ⟨rfl, hm, position, hpc⟩
  simp only [clearsInTime, hpc, hm, Bool.not_true, Bool.false_or, Bool.or_eq_true,
    Bool.not_eq_true', Bool.and_eq_true] at hclear
  rcases hclear with hpast | hkeeps
  · unfold Decoder.keepsSlot
    cases hdpc : (s.lane m).pc <;> simp_all
  · exact hkeeps.2

/-- The frames of a lane that were newer than the serial of a returned seek stay so. -/
theorem returned_step {s s' t : Session} {a : Action} {effect : Effect} (hs : Fresh s)
    (hends : endsInTime s a = true) (hmove : Move s a t effect)
    {called : MediaType → ℕ} (hcalled : called ∈ s.control.returnedAt) {m : MediaType}
    (hlane : LaneStep s s' effect m) :
    (s'.lane m).Newer (called m) ∧ (s.hasDecoder m = true → (s'.lane m).Shut (called m)) := by
  obtain ⟨hnewer, hshut⟩ := hs.returned called hcalled m
  refine ⟨newer_step hs hmove hlane hnewer fun c frame _ hpc => ?_,
    fun hm => shut_step hs hmove hlane (hshut hm) fun c ha hpc => ?_⟩
  · cases hm : s.hasDecoder m with
    | true => exact hshut hm
    | false =>
      rw [hs.noDecoder m hm] at hpc
      simp at hpc
  · subst ha
    simp only [endsInTime, hpc, ne_eq, not_true_eq_false, decide_false, Bool.false_or,
      Bool.and_eq_true, List.all_eq_true, decide_eq_true_eq] at hends
    exact hends.2 called hcalled

theorem cleared_step {s s' t : Session} {a : Action} {effect : Effect} (hs : Fresh s)
    (hclears : clearsInTime s a = true) (htests : testsInTime s a = true)
    (hmove : Move s a t effect) {m : MediaType} (hlane : LaneStep s s' effect m)
    (hcleared : s.control.cleared m = true ∨ effect = some (m, .clearFrames)) :
    (s'.lane m).Newer (s.control.calledAt m) := by
  rcases hcleared with hcleared | rfl
  · refine newer_step hs hmove hlane (hs.cleared m hcleared) fun c frame ha hpc => ?_
    subst ha
    cases hraised : s.control.raised m with
    | true => exact hs.raised m hraised
    | false => simpa [Decoder.Shut, testsInTime, hpc, hcleared, hraised] using htests
  · rcases hmove.effect.2.1 rfl with ⟨rfl, hm, position, hpc⟩
    rcases hlane with ⟨_, hne⟩ | ⟨b, hb, hstep⟩
    · exact absurd rfl (hne _)
    · simp only [Option.some.injEq, Prod.mk.injEq, true_and] at hb
      subst hb
      simp only [Decoder.step, Option.some.injEq] at hstep
      rw [← hstep]
      apply Decoder.newer_of_clear
      intro hpast
      simp only [clearsInTime, hpc, hm, hpast, Bool.not_true, Bool.false_or, Bool.and_eq_true,
        decide_eq_true_eq] at hclears
      exact hclears.1

theorem raised_step {s s' t : Session} {a : Action} {effect : Effect} (hs : Fresh s)
    (hends : endsInTime s a = true) (hmove : Move s a t effect) {m : MediaType}
    (hlane : LaneStep s s' effect m)
    (hraised : s.control.raised m = true ∨ effect = some (m, .setDemuxerSeeking)) :
    (s'.lane m).Shut (s.control.calledAt m) := by
  rcases hraised with hraised | rfl
  · refine shut_step hs hmove hlane (hs.raised m hraised) fun c ha hpc => ?_
    subst ha
    simp only [endsInTime, hpc, ne_eq, not_true_eq_false, decide_false, Bool.false_or, hraised,
      Bool.not_true, Bool.and_eq_true, decide_eq_true_eq] at hends
    exact hends.1
  · rcases hlane with ⟨_, hne⟩ | ⟨b, hb, hstep⟩
    · exact absurd rfl (hne _)
    · simp only [Option.some.injEq, Prod.mk.injEq, true_and] at hb
      subst hb
      simp only [Decoder.step, Option.some.injEq] at hstep
      rw [← hstep]
      exact Or.inl rfl

/-- When `seek` comes to its end, every lane is ready for its return. -/
theorem Fresh.finished {s : Session} (hs : Fresh s) (hpc : s.control.pc = .finish true)
    (m : MediaType) : (s.lane m).Newer (s.control.calledAt m) ∧
      (s.hasDecoder m = true → (s.lane m).Shut (s.control.calledAt m)) := by
  cases hm : s.hasDecoder m with
  | true =>
    obtain ⟨hcleared, hraised⟩ := hs.progress m hm
    rw [hpc] at hcleared hraised
    exact ⟨hs.cleared m (hcleared rfl), fun _ => hs.raised m (hraised rfl)⟩
  | false =>
    exact ⟨Decoder.newer_of_idle (hs.publishing m) (hs.noDecoder m hm) _, by simp⟩

theorem Fresh.step {s s' : Session} {a : Action} (hs : Fresh s)
    (hclears : clearsInTime s a = true) (htests : testsInTime s a = true)
    (hends : endsInTime s a = true) (h : s.step a = some s') : Fresh s' := by
  rcases step_spec h with ⟨t, effect, hmove, _, hcontrol, hdecoder, _, hlane⟩
  have hrecords := hmove.records
  refine ⟨fun m => (hlane m).generation (hs.generation m),
    fun m => publishing_step hs hclears hmove (hlane m), fun m hm => ?_, ?_,
    fun called hcalled m => ?_, fun m hm => ?_, fun m hm => ?_⟩
  · rw [hdecoder] at hm
    have hidle := hs.noDecoder m hm
    refine (hlane m).preserves (P := fun d => d.pc = .idle) hidle fun b d heffect hstep => ?_
    subst heffect
    refine idle_step hidle (fun codecId hwAccel needFix hb => ?_) hstep
    rw [hmove.effect.2.2.2 codecId hwAccel needFix hb] at hm
    simp at hm
  · have ht := hs.progress.move hmove
    unfold Progress at ht ⊢
    rw [hcontrol, hdecoder, ← hmove.lane.2.1]
    exact ht
  · rw [hcontrol] at hcalled
    rw [hdecoder]
    rcases hrecords.returned called hcalled with hcalled | ⟨rfl, hpc, rfl⟩
    · exact returned_step hs hends hmove hcalled (hlane m)
    · rcases hlane m with ⟨hsame, _⟩ | ⟨b, hb, _⟩
      · rw [hsame]
        exact hs.finished hpc m
      · simp at hb
  · rw [hcontrol] at hm ⊢
    obtain ⟨hcalled, hcleared⟩ := hrecords.cleared m hm
    rw [hcalled]
    exact cleared_step hs hclears htests hmove (hlane m) hcleared
  · rw [hcontrol] at hm ⊢
    obtain ⟨hcalled, hraised⟩ := hrecords.raised m hm
    rw [hcalled]
    exact raised_step hs hends hmove (hlane m) hraised

/-- No stale frame after a seek, in every run in which a queue is cleared with no stale frame
on its way, no stale frame is tested before the flag is raised, and the flag is not lowered by
the serial change of an earlier seek. -/
theorem popped_after_seek_newer (setup : Setup) (actions : List Action)
    (h : Each step (fun s a _ => clearsInTime s a = true ∧ testsInTime s a = true ∧
      endsInTime s a = true) (opened setup) actions) :
    Each step (fun s a _ => PopsNewer s a) (opened setup) actions := by
  refine Each.of_invariant (fun s a s' hs ha hstep => ?_) (fresh_opened setup) h
  refine ⟨Fresh.step hs ha.1 ha.2.1 ha.2.2 hstep, ?_⟩
  intro m _ ref f hf called hcalled
  obtain ⟨g, hg, hcopy⟩ := FrameQueue.mem_frames_of_pop (hs.publishing m).wellFormed hf
  have hnewer := (hs.returned called hcalled m).1.frames g hg
  rcases hcopy with rfl | rfl
  · exact hnewer
  · exact hnewer

/-- The frame decoded after the seek is the one the consumer gets. -/
theorem popped_after_seek_newer_served :
    let actions : List Action := List.flatten
      [[.start .video .h264 none false], Demuxer.readKeyFrame.map .demux, decodeSteps 9,
        [.decode .video (.sent (.ok ()) 0 false), .decode .video (.received (.ok (1, 1)))],
        [.seek 1], List.replicate 10 .control,
        [.demux .go, .demux .go, .demux (.sought true), .demux .go, .demux .go],
        Demuxer.readKeyFrame.map .demux, decodeSteps 1, [.decode .video (.received (.error .eagain))], decodeSteps 10,
        [.decode .video (.sent (.ok ()) 0 false), .decode .video (.received (.ok (1, 1)))],
        decodeSteps 3, [.decode .video (.converted (.ok ()))], decodeSteps 2,
        [.decode .video (.paced false)], decodeSteps 1]
    (run step (opened videoFile) actions).map (fun s =>
        (((s.lane .video).frameQueue.pop true).1.map Frame.serial, s.control.returnedAt.map (· .video))) =
          some (some 2, [1]) ∧
      Each step (fun s a _ => PopsNewer s a) (opened videoFile) (actions ++ [.popFrame .video]) :=
  ⟨by decide +kernel, popped_after_seek_newer _ _ (by decide +kernel)⟩

/-- A consumer pops from the frame queue of the video. -/
def popsVideo : Action → Bool
  | .popFrame .video => true
  | _ => false

/-- The loop has tested the flag and filled its slot before the seek, and commits after it. -/
theorem popped_after_seek_newer_fails :
    let actions : List Action := List.flatten
      [[.start .video .h264 none false], Demuxer.readKeyFrame.map .demux, decodeSteps 9,
        [.decode .video (.sent (.ok ()) 0 false), .decode .video (.received (.ok (1, 1)))],
        decodeSteps 2, [.decode .video (.converted (.ok ()))], decodeSteps 2,
        [.seek 1], List.replicate 10 .control,
        [.decode .video (.paced false)], decodeSteps 1, [.popFrame .video]]
    ¬Each step (fun s a _ => PopsNewer s a) (opened videoFile) actions := by
  intro actions h
  have hvideo : Each step (fun s a _ => popsVideo a = true →
      ((s.lane .video).frameQueue.pop true).1.all (fun f =>
        s.control.returnedAt.all fun called => called .video < f.serial) = true)
      (opened videoFile) actions := by
    refine h.mono fun s a s' hs ha => ?_
    simp only [Option.all_eq_true, List.all_eq_true, decide_eq_true_eq]
    cases a with
    | popFrame m =>
      cases m with
      | video => exact hs .video rfl true
      | audio => simp [popsVideo] at ha
    | _ => simp [popsVideo] at ha
  revert hvideo
  decide +kernel

end DecoderSDK.Session
