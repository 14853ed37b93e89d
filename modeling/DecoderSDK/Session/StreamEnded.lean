import DecoderSDK.Session.Controller

/-! # The end-of-stream event

`fileStreamDemuxLoop` reports `kStreamEnded` when it reads the end of the file
and finds the packet queues drained. The end of a file is a level: unless the
playback starts again, the next read finds it again, and `isEof` has been
forgotten by then.
-/
namespace DecoderSDK.Demuxer

/-- The thread handles the end of a file. -/
def Pc.ending : Pc → Bool
  | .endStamp _ => true
  | .endPush _ _ => true
  | .emptyTest _ => true
  | _ => false

/-- The end of a file is handled only after it was read. -/
theorem ending_of_move {dm dm' : Demuxer} {queue : MediaType → Option PacketQueue} {c : Choice}
    {effect : Effect} (h : dm.move queue c = some (dm', effect)) (hpc' : dm'.pc.ending = true) :
    dm.pc.ending = true ∨ dm.pc = .read ∧ c = .eof := by
  unfold move at h
  cases hpc : dm.pc with
  | endStamp media | endPush media packet | emptyTest media => exact Or.inl rfl
  | read =>
    simp only [hpc] at h
    cases c with
    | eof => exact Or.inr ⟨rfl, rfl⟩
    | packet | otherStream | again | error =>
      simp only [Option.some.injEq, Prod.mk.injEq] at h
      rw [← h.1] at hpc'
      simp [goto, Pc.ending] at hpc'
    | _ => simp at h
  | head | distribute media packet | loopLoad =>
    simp only [hpc, Option.some.injEq, Prod.mk.injEq] at h
    rw [← h.1] at hpc'
    simp only [goto] at hpc'
    split_ifs at hpc' <;> simp [Pc.ending] at hpc'
  | dropSeek | store ms loop | loopStore =>
    simp only [hpc, Option.some.injEq, Prod.mk.injEq] at h
    rw [← h.1] at hpc'
    simp [Pc.ending] at hpc'
  | flush media loop =>
    simp only [hpc, Option.some.injEq, Prod.mk.injEq] at h
    rw [← h.1] at hpc'
    cases media with
    | video => simp [goto, afterMedia, Pc.ending] at hpc'
    | audio =>
      simp only [goto, afterMedia] at hpc'
      split_ifs at hpc' <;> simp [Pc.ending] at hpc'
  | seekFrame ms loop =>
    simp only [hpc] at h
    cases c with
    | sought ok =>
      simp only [Option.some.injEq, Prod.mk.injEq] at h
      rw [← h.1] at hpc'
      simp only at hpc'
      split_ifs at hpc' <;> simp [Pc.ending] at hpc'
    | _ => simp at h
  | looped =>
    simp only [hpc] at h
    cases c with
    | rewound ok =>
      simp only [Option.some.injEq, Prod.mk.injEq] at h
      rw [← h.1] at hpc'
      simp [Pc.ending] at hpc'
    | _ => simp at h
  | readError =>
    simp only [hpc] at h
    cases c with
    | gaveUp severe =>
      simp only [Option.some.injEq, Prod.mk.injEq] at h
      rw [← h.1] at hpc'
      simp only [goto] at hpc'
      split_ifs at hpc' <;> simp [Pc.ending] at hpc'
    | _ => simp at h
  | pauseTest =>
    simp only [hpc, Option.ite_none_left_eq_some, Option.some.injEq, Prod.mk.injEq] at h
    rw [← h.2.1] at hpc'
    simp [goto, Pc.ending] at hpc'
  | stamp media packet =>
    simp only [hpc, Option.map_eq_some_iff, Prod.mk.injEq] at h
    rcases h with ⟨q, _, rfl, rfl⟩
    simp [goto, Pc.ending] at hpc'
  | push media packet =>
    simp only [hpc, Option.bind_eq_some_iff, Option.ite_none_right_eq_some, Option.some.injEq,
      Prod.mk.injEq] at h
    rcases h with ⟨q, _, _, rfl, rfl⟩
    simp [goto, Pc.ending] at hpc'
  | stopped => simp [hpc] at h

theorem pc_of_endsStream {dm : Demuxer} {queue : MediaType → Option PacketQueue}
    (h : dm.endsStream queue = true) : dm.pc = .emptyTest .audio := by
  unfold endsStream at h
  split at h
  · next hpc => exact hpc
  · simp at h

end DecoderSDK.Demuxer

namespace DecoderSDK.Session
open Interleaving

/-- Only the demux thread moves the demux thread. -/
theorem demuxer_pc_of_step {s s' : Session} {a : Action} (h : s.step a = some s') :
    (∃ c effect, a = .demux c ∧ s.demuxer.move s.queue c = some (s'.demuxer, effect)) ∨
      (∀ c, a ≠ .demux c) ∧ s'.demuxer.pc = s.demuxer.pc := by
  rcases step_cases h with ⟨t, effect, hmove, hrest⟩
  have hdemuxer : s'.demuxer = t.demuxer := by
    rcases hrest with ⟨_, rfl⟩ | ⟨_, _, _, _, _, rfl⟩ <;> rfl
  rw [hdemuxer]
  by_cases hdemux : ∃ c, a = .demux c
  · left
    obtain ⟨c, rfl⟩ := hdemux
    simp only [move, Option.map_eq_some_iff, Prod.mk.injEq] at hmove
    rcases hmove with ⟨⟨dm', effect'⟩, hmove, rfl, rfl⟩
    exact ⟨c, effect', rfl, hmove⟩
  · right
    refine ⟨fun c hc => hdemux ⟨c, hc⟩, ?_⟩
    cases move_cases hmove with
    | demux c => exact absurd ⟨c, rfl⟩ hdemux
    | control hcontrol =>
      rcases hcontrol.demuxer_cases with ⟨hd, _⟩ | ⟨position, _, hd, _⟩
      · rw [hd]
      · rw [hd]
        rfl
    | seek | decode | start | popFrame | setAbortStatus | setPaused | setWaitingForPreBuffer
    | interrupt | setDemuxerPaused | setLoopMode => rfl

/-- The step reports `kStreamEnded`. -/
def endsStream (s : Session) (a : Action) : Bool :=
  match a with
  | .demux _ => s.demuxer.endsStream s.queue
  | _ => false

/-- `readAndProcessPacket` returns 0. -/
def readsPacket (s : Session) (a : Action) : Bool :=
  match a, s.demuxer.pc with
  | .demux (.packet _ _), .read => true
  | .demux .otherStream, .read => true
  | _, _ => false

/-- `av_read_frame` reports the end of the file. -/
def readsEnd (s : Session) (a : Action) : Bool :=
  match a, s.demuxer.pc with
  | .demux .eof, .read => true
  | _, _ => false

/-- A session, and whether `kStreamEnded` was reported since the last packet was read. -/
structure Watched where
  session : Session
  ended : Bool

def Watched.step (w : Watched) (a : Action) : Option Watched :=
  (w.session.step a).map fun s =>
    ⟨s, if endsStream w.session a then true else !readsPacket w.session a && w.ended⟩

/-- The end of the file is not read again after the event before a packet is. -/
def Watched.endsAfresh (w : Watched) (a : Action) : Bool := !(readsEnd w.session a && w.ended)

/-- The stream is reported as ended only when a packet was read since the last report. -/
def Watched.reportsOnce (w : Watched) (a : Action) : Bool := !(endsStream w.session a && w.ended)

/-- Once the end is reported, the demux thread is done with it. -/
structure Watched.Reported (w : Watched) : Prop where
  done : w.ended = true → w.session.demuxer.pc.ending = false

theorem endsStream_ending {s : Session} {a : Action} (h : endsStream s a = true) :
    (∃ c, a = .demux c) ∧ s.demuxer.pc = .emptyTest .audio := by
  unfold endsStream at h
  split at h
  · next c => exact ⟨⟨c, rfl⟩, Demuxer.pc_of_endsStream h⟩
  · simp at h

/-- The report ends the handling of the end of the file. -/
theorem ending_of_endsStream {s s' : Session} {a : Action} (h : s.step a = some s')
    (hends : endsStream s a = true) : s'.demuxer.pc.ending = false := by
  obtain ⟨⟨c, rfl⟩, hpc⟩ := endsStream_ending hends
  rcases demuxer_pc_of_step h with ⟨c', effect, hc, hmove⟩ | ⟨hc, _⟩
  · simp only [endsStream, Demuxer.endsStream, hpc, Bool.not_eq_true'] at hends
    simp only [Demuxer.move, hpc, hends, Bool.false_eq_true, if_false, Option.some.injEq,
      Prod.mk.injEq] at hmove
    rw [← hmove.1]
    simp only
    split_ifs <;> rfl
  · exact absurd rfl (hc c)

theorem Watched.Reported.step {w w' : Watched} {a : Action} (hw : w.Reported)
    (ha : w.endsAfresh a = true) (h : w.step a = some w') : w'.Reported := by
  rcases Option.map_eq_some_iff.mp h with ⟨s', hs', rfl⟩
  refine ⟨fun hended => ?_⟩
  simp only at hended ⊢
  split_ifs at hended with hends
  · exact ending_of_endsStream hs' hends
  · simp only [Bool.and_eq_true] at hended
    have hdone := hw.done hended.2
    rcases demuxer_pc_of_step hs' with ⟨c, effect, rfl, hmove⟩ | ⟨_, hpc⟩
    · by_contra hending
      rcases Demuxer.ending_of_move hmove (by simpa using hending) with hold | ⟨hread, rfl⟩
      · simp [hdone] at hold
      · simp [Watched.endsAfresh, readsEnd, hread, hended.2] at ha
    · rw [hpc]
      exact hdone

/-- One end-of-stream event for each end of the stream, in every run in which the end of the
file is not read again after the event before a packet is. -/
theorem streamEnded_once (setup : Setup) (actions : List Action)
    (h : Each Watched.step (fun w a _ => w.endsAfresh a = true) ⟨opened setup, false⟩ actions) :
    Each Watched.step (fun w a _ => w.reportsOnce a = true) ⟨opened setup, false⟩ actions := by
  have hstart : Watched.Reported ⟨opened setup, false⟩ := ⟨by simp⟩
  refine Each.of_invariant (fun w a w' hw ha hstep => ?_) hstart h
  refine ⟨hw.step ha hstep, ?_⟩
  by_contra hreports
  simp only [Watched.reportsOnce, Bool.not_eq_true', Bool.not_eq_false, Bool.and_eq_true] at hreports
  have hdone := hw.done hreports.2
  rw [(endsStream_ending hreports.1).2] at hdone
  simp [Demuxer.Pc.ending] at hdone

/-- The demux thread reads the end of the file and queues an end packet, or finds the queues
drained. -/
def readEnd (times : ℕ) : List Action := (Demuxer.readEnd times).map .demux

/-- The file is played twice: the stream is reported as ended after each time. -/
theorem streamEnded_once_looped :
    let actions : List Action := List.flatten
      [[.setLoopMode .single 1, .start .video .h264 none false], readEnd 4, decodeSteps 7,
        readEnd 5, [.demux (.sought true), .demux .go, .demux .go, .demux (.rewound true)],
        List.replicate 2 (.demux .go), [.demux .otherStream], readEnd 4, decodeSteps 12, readEnd 2]
    (run Watched.step ⟨opened videoFile, false⟩ actions).map
        (fun w => (w.ended, w.session.demuxer.currentLoopCount)) = some (true, 1) ∧
      Each Watched.step (fun w a _ => w.reportsOnce a = true) ⟨opened videoFile, false⟩ actions :=
  ⟨by decide +kernel, streamEnded_once _ _ (by decide +kernel)⟩

/-- The file is not played again: its end is read once more, queued once more and taken once
more by the decoder, and reported twice without a packet in between. -/
theorem streamEnded_once_fails :
    let actions : List Action := List.flatten
      [[.start .video .h264 none false], readEnd 4, decodeSteps 7, readEnd 2, readEnd 4,
        decodeSteps 9, readEnd 2]
    (run Watched.step ⟨opened videoFile, false⟩ actions).map (·.ended) = some true ∧
      ¬Each Watched.step (fun w a _ => w.reportsOnce a = true) ⟨opened videoFile, false⟩ actions := by
  decide +kernel

end DecoderSDK.Session
