import DecoderSDK.Recorder.Session
import Mathlib.Data.List.TakeWhile

/-! # What a recording keeps

A packet that was accepted is still queued or was taken by the recording
loop. A recording is complete exactly when the loop could write every packet
that it took from the first key frame on and the queues hold nothing more to
be written when they are flushed.
-/
namespace DecoderSDK.Recorder
open Interleaving

/-- The packets from the first key frame on. -/
def fromKeyFrame (packets : List Stamped) : List Stamped := packets.dropWhile fun pkt => !pkt.key

/-- The packets of a media type that belong into the recording. -/
def recordable : MediaType → List Stamped → List Stamped
  | .video, packets => fromKeyFrame packets
  | .audio, packets => packets

theorem fromKeyFrame_eq_nil {packets : List Stamped} (h : ∀ pkt ∈ packets, pkt.key = false) :
    fromKeyFrame packets = [] := by
  rw [fromKeyFrame, List.dropWhile_eq_nil_iff]
  intro pkt hpkt
  rw [h pkt hpkt]
  rfl

theorem fromKeyFrame_ne_nil {packets : List Stamped} (h : ∃ pkt ∈ packets, pkt.key = true) :
    fromKeyFrame packets ≠ [] := by
  rcases h with ⟨pkt, hpkt, hkey⟩
  rw [fromKeyFrame, Ne, List.dropWhile_eq_nil_iff]
  intro hall
  simpa [hkey] using hall pkt hpkt

theorem fromKeyFrame_append_of_key {packets : List Stamped} (h : ∃ pkt ∈ packets, pkt.key = true)
    (rest : List Stamped) : fromKeyFrame (packets ++ rest) = fromKeyFrame packets ++ rest := by
  have hne := fromKeyFrame_ne_nil h
  rw [fromKeyFrame] at hne ⊢
  rw [List.dropWhile_append, if_neg (by simpa using hne)]
  rfl

theorem fromKeyFrame_append_of_no_key {packets : List Stamped}
    (h : ∀ pkt ∈ packets, pkt.key = false) (rest : List Stamped) :
    fromKeyFrame (packets ++ rest) = fromKeyFrame rest := by
  have hnil := fromKeyFrame_eq_nil h
  rw [fromKeyFrame] at hnil
  rw [fromKeyFrame, List.dropWhile_append, hnil]
  rfl

theorem no_key_of_not_exists {packets : List Stamped} (h : ¬ ∃ pkt ∈ packets, pkt.key = true) :
    ∀ pkt ∈ packets, pkt.key = false := by
  intro pkt hpkt
  cases hkey : pkt.key with
  | false => rfl
  | true => exact absurd ⟨pkt, hpkt, hkey⟩ h

/-- The next packet belongs into the recording: audio, or video from a key frame on. -/
def Records (mediaType : MediaType) (packets : List Stamped) (pkt : Stamped) : Prop :=
  mediaType = .audio ∨ (∃ p ∈ packets, p.key = true) ∨ pkt.key = true

theorem recordable_concat {mediaType : MediaType} {packets : List Stamped} {pkt : Stamped}
    (h : Records mediaType packets pkt) :
    recordable mediaType (packets ++ [pkt]) = recordable mediaType packets ++ [pkt] := by
  cases mediaType with
  | audio => rfl
  | video =>
    by_cases hkey : ∃ p ∈ packets, p.key = true
    · exact fromKeyFrame_append_of_key hkey [pkt]
    · have hpkt : pkt.key = true := by
        simpa [Records, hkey] using h
      have hno := no_key_of_not_exists hkey
      rw [recordable, recordable, fromKeyFrame_append_of_no_key hno, fromKeyFrame_eq_nil hno]
      simp [fromKeyFrame, hpkt]

theorem recordable_concat_of_not {mediaType : MediaType} {packets : List Stamped} {pkt : Stamped}
    (h : ¬ Records mediaType packets pkt) :
    recordable mediaType (packets ++ [pkt]) = recordable mediaType packets := by
  unfold Records at h
  rw [not_or, not_or] at h
  rcases h with ⟨haudio, hkey, hpkt⟩
  cases mediaType with
  | audio => exact absurd rfl haudio
  | video =>
    have hno := no_key_of_not_exists hkey
    rw [recordable, recordable, fromKeyFrame_append_of_no_key hno, fromKeyFrame_eq_nil hno]
    simp [fromKeyFrame, hpkt]

namespace RealTimeStreamRecorder

/-- The packets of a media type that were written, as they came in. -/
def written (s : RealTimeStreamRecorder) (mediaType : MediaType) : List Stamped :=
  (s.handed.filter fun h => decide (h.mediaType = mediaType)).map (·.input)

variable (muxer : Muxer) (layout : Layout)

theorem processPacket_hasKeyFrame (s : RealTimeStreamRecorder) (mediaType : MediaType)
    (pkt : Stamped) (answers : Answers) :
    (s.processPacket muxer layout mediaType pkt answers).2.hasKeyFrame =
      (s.hasKeyFrame || (decide (mediaType = .video) && s.passes layout mediaType pkt)) := by
  rcases s.takes_cases layout mediaType pkt with ⟨route, hpass, hroute⟩ | htakes
  · rw [(processPacket_of_takes muxer layout hpass hroute answers).2.2.1, hpass, Bool.and_true]
  · rw [processPacket_of_not_takes muxer layout htakes]

/-- A packet is written when it is taken and copied. -/
theorem processPacket_written (s : RealTimeStreamRecorder) (m mediaType : MediaType)
    (pkt : Stamped) (answers : Answers) :
    (s.processPacket muxer layout mediaType pkt answers).2.written m =
      if m = mediaType ∧ s.takes layout mediaType pkt = true ∧ answers.copies = true
        then s.written m ++ [pkt] else s.written m := by
  unfold written
  rcases s.takes_cases layout mediaType pkt with ⟨route, hpass, hroute⟩ | htakes
  · rw [(processPacket_of_takes muxer layout hpass hroute answers).2.2.2]
    cases hcopies : answers.copies with
    | false => simp
    | true =>
      by_cases hm : m = mediaType
      · simp [handOver, takes, hpass, hroute, hm]
      · simp [handOver, hm, Ne.symm hm]
  · rw [processPacket_of_not_takes muxer layout htakes]
    simp [htakes]

end RealTimeStreamRecorder

namespace StopAt

/-- Nothing is flushed before the recording thread is joined. -/
theorem isJoined_of_isFlushed {stopAt : StopAt} (h : stopAt.isFlushed = true) :
    stopAt.isJoined = true := by
  cases stopAt <;> first | rfl | cases h

theorem isClosed_of_isFlushed {stopAt : StopAt} (h : stopAt.isFlushed = true) :
    stopAt.isClosed = true := by
  cases stopAt <;> first | rfl | cases h

end StopAt

namespace Recording
open RealTimeStreamRecorder

def written (r : Recording) (mediaType : MediaType) : List Stamped := r.recorder.written mediaType

/-- What is written is what was accepted: video from the first key frame on, and audio whenever
there is no video stream or a key frame was accepted. -/
def Complete (layout : Layout) (r : Recording) : Prop :=
  r.written .video = fromKeyFrame (r.accepted .video) ∧
    ((layout.hasVideo = false ∨ ∃ pkt ∈ r.accepted .video, pkt.key = true) →
      r.written .audio = r.accepted .audio)

/-- What the recording loop took is written, as far as it belongs into the recording. -/
def UpToDate (r : Recording) : Prop := ∀ m, r.written m = recordable m (r.taken m)

/-- The queues hold nothing more that belongs into the recording. -/
def Drained (layout : Layout) (r : Recording) : Prop :=
  if r.recorder.hasKeyFrame then ∀ m, (r.queue m).queue = []
  else (∀ pkt ∈ (r.queue .video).queue, pkt.key = false) ∧
    (layout.hasVideo = false → (r.queue .audio).queue = [])

/-- The packet in front is not recorded yet, or it has an output stream and can be copied. -/
def Writable (layout : Layout) (r : Recording) (mediaType : MediaType) (answers : Answers) : Prop :=
  ∀ pkt ∈ (r.queue mediaType).queue.head?,
    (r.recorder.gate mediaType = true ∨ pkt.key = true) →
      (layout.route pkt).isSome = true ∧ answers.copies = true

/-- Every packet that comes out of a queue can be written, and nothing is flushed that should
have been. -/
def Keeps (layout : Layout) (r : Recording) (a : SessionStep) (_ : Recording) : Prop :=
  match a, r.loopAt, r.stopAt with
  | .take alloc ref, .taking mediaType, _ => r.Writable layout mediaType ⟨alloc, ref, 0⟩
  | .stopRecording, _, .joined => r.Drained layout
  | _, _, _ => True

instance Writable.decidable (layout : Layout) (r : Recording) (mediaType : MediaType)
    (answers : Answers) : Decidable (r.Writable layout mediaType answers) :=
  match h : (r.queue mediaType).queue.head? with
  | none => isTrue (by simp [Writable, h])
  | some pkt => decidable_of_iff ((r.recorder.gate mediaType = true ∨ pkt.key = true) →
      (layout.route pkt).isSome = true ∧ answers.copies = true) (by simp [Writable, h])

instance Drained.decidable (layout : Layout) (r : Recording) : Decidable (r.Drained layout) :=
  inferInstanceAs (Decidable (if r.recorder.hasKeyFrame then ∀ m, (r.queue m).queue = [] else _))

instance Keeps.decidable (layout : Layout) (r : Recording) (a : SessionStep) (r' : Recording) :
    Decidable (r.Keeps layout a r') := by
  unfold Keeps
  split <;> infer_instance

/-- Where the packets of a session are. -/
structure Consistent (r : Recording) : Prop where
  conserved : r.stopAt.isFlushed = false → ∀ m, r.accepted m = r.taken m ++ (r.queue m).queue
  written_sublist : ∀ m, (r.written m).Sublist (recordable m (r.taken m))
  keyed : r.recorder.hasKeyFrame = true → ∃ pkt ∈ r.taken .video, pkt.key = true
  waiting : r.recorder.hasKeyFrame = false → r.written .video = [] ∧ r.taken .audio = []
  audio_keyed : r.loopAt = .taking .audio → r.recorder.hasKeyFrame = true
  video_aborted : r.stopAt = .videoAborted → (r.queue .video).aborted = true
  aborted : r.stopAt.isClosed = true → ∀ m, (r.queue m).aborted = true
  ended : r.stopAt.isJoined = true → r.loopAt = .ended

theorem consistent_start (outputPath : String) : (start outputPath).Consistent := by
  constructor <;> simp [start, StopAt.isClosed, StopAt.isJoined, written,
    RealTimeStreamRecorder.written, RealTimeStreamRecorder.start, StampedQueue.started]

/-- A packet is accepted into a queue that is not aborted, at its end. -/
theorem push_cases (r : Recording) (mediaType : MediaType) (pkt : Stamped) :
    r.push mediaType pkt = { r with writing := none } ∨
      (r.queue mediaType).aborted = false ∧
        r.push mediaType pkt = { r with
          queue := Function.update r.queue mediaType
            { r.queue mediaType with queue := (r.queue mediaType).queue ++ [pkt] }
          writing := none
          accepted := Function.update r.accepted mediaType (r.accepted mediaType ++ [pkt]) } := by
  unfold push StampedQueue.push
  by_cases h : (r.queue mediaType).aborted = false ∧
      (r.queue mediaType).queue.length < (r.queue mediaType).maxPacketCount
  · rw [if_pos h]
    exact .inr ⟨h.1, rfl⟩
  · rw [if_neg h]
    exact .inl (by simp)

variable {muxer : Muxer} {layout : Layout}

/-- The recording loop takes the packet in front, if there is one. -/
theorem take_cases (r : Recording) (mediaType : MediaType) (answers : Answers) :
    (r.queue mediaType).queue = [] ∧
        r.take muxer layout mediaType answers = { r with loopAt := next r.recorder mediaType } ∨
      ∃ pkt rest, (r.queue mediaType).queue = pkt :: rest ∧
        r.take muxer layout mediaType answers = { r with
          queue := Function.update r.queue mediaType { r.queue mediaType with queue := rest }
          recorder := (r.recorder.processPacket muxer layout mediaType pkt answers).2
          loopAt := next (r.recorder.processPacket muxer layout mediaType pkt answers).2 mediaType
          taken := Function.update r.taken mediaType (r.taken mediaType ++ [pkt]) } := by
  unfold take StampedQueue.pop
  cases hqueue : (r.queue mediaType).queue with
  | nil => exact .inl ⟨rfl, rfl⟩
  | cons pkt rest => exact .inr ⟨pkt, rest, rfl, rfl⟩

/-- The loop takes a packet only where it waits for one. -/
theorem step_take {r r' : Recording} {alloc : Bool} {ref : ℤ}
    (h : step muxer layout r (.take alloc ref) = some r') :
    ∃ mediaType, r.loopAt = .taking mediaType ∧
      r' = r.take muxer layout mediaType ⟨alloc, ref, 0⟩ := by
  cases hloop : r.loopAt with
  | taking mediaType =>
    simp only [step, hloop, Option.some.injEq] at h
    exact ⟨mediaType, rfl, h.symm⟩
  | starting => simp [step, hloop] at h
  | testing => simp [step, hloop] at h
  | ended => simp [step, hloop] at h

/-- The statements of `stopRecording` with their guards. -/
inductive StopStep (r : Recording) : Recording → Prop where
  | flagged (hat : r.stopAt = .idle) :
      StopStep r { r with shouldStop := true, stopAt := .flagged }
  | refused (hat : r.stopAt = .idle) : StopStep r { r with stopAt := .refused }
  | videoAborted (hat : r.stopAt = .flagged) :
      StopStep r { r.abort .video with stopAt := .videoAborted }
  | joining (hat : r.stopAt = .videoAborted) :
      StopStep r { r.abort .audio with stopAt := .joining }
  | joined (hat : r.stopAt = .joining) (hended : r.loopAt = .ended) :
      StopStep r { r with stopAt := .joined }
  | cleaned (hat : r.stopAt = .joined) : StopStep r { r.cleanup with stopAt := .cleaned }
  | returned (hat : r.stopAt = .cleaned) :
      StopStep r { r with isRecording := false, stopAt := .returned }

theorem stopRecording_step {r r' : Recording} (h : r.stopRecording = some r') :
    StopStep r r' := by
  unfold Recording.stopRecording at h
  cases hat : r.stopAt with
  | idle =>
    rw [hat] at h
    dsimp only at h
    split_ifs at h
    · rw [← Option.some.inj h]
      exact .flagged hat
    · rw [← Option.some.inj h]
      exact .refused hat
  | flagged =>
    rw [hat] at h
    rw [← Option.some.inj h]
    exact .videoAborted hat
  | videoAborted =>
    rw [hat] at h
    rw [← Option.some.inj h]
    exact .joining hat
  | joining =>
    rw [hat] at h
    dsimp only at h
    split_ifs at h with hended
    rw [← Option.some.inj h]
    exact .joined hat hended
  | joined =>
    rw [hat] at h
    rw [← Option.some.inj h]
    exact .cleaned hat
  | cleaned =>
    rw [hat] at h
    rw [← Option.some.inj h]
    exact .returned hat
  | refused | returned =>
    rw [hat] at h
    cases h

/-- A queue that is pushed to or popped from stays aborted or open. -/
theorem aborted_update (r : Recording) (mediaType : MediaType) (packets : List Stamped)
    (m : MediaType) : (Function.update r.queue mediaType
      { r.queue mediaType with queue := packets } m).aborted = (r.queue m).aborted := by
  by_cases hm : m = mediaType
  · rw [hm, Function.update_self]
  · rw [Function.update_of_ne hm]

theorem next_eq_audio {recorder : RealTimeStreamRecorder} {mediaType : MediaType}
    (h : next recorder mediaType = .taking .audio) : recorder.hasKeyFrame = true := by
  cases mediaType with
  | audio => exact absurd h (by simp [next])
  | video =>
    by_contra hkey
    simp [next, hkey] at h

theorem Consistent.push {r : Recording} (h : r.Consistent) (mediaType : MediaType)
    (pkt : Stamped) : (r.push mediaType pkt).Consistent := by
  rcases r.push_cases mediaType pkt with heq | ⟨hopen, heq⟩
  · rw [heq]
    exact ⟨h.conserved, h.written_sublist, h.keyed, h.waiting, h.audio_keyed, h.video_aborted,
      h.aborted, h.ended⟩
  · rw [heq]
    refine ⟨?_, h.written_sublist, h.keyed, h.waiting, h.audio_keyed, ?_, ?_, h.ended⟩
    · intro hflushed m
      by_cases hm : m = mediaType
      · subst hm
        simp only [Function.update_self]
        rw [h.conserved hflushed, List.append_assoc]
      · simp only [Function.update_of_ne hm]
        exact h.conserved hflushed m
    · intro hstop
      rw [aborted_update]
      exact h.video_aborted hstop
    · intro hclosed m
      rw [aborted_update]
      exact h.aborted hclosed m

/-- The gate of a media type is open only for packets that belong into the recording. -/
theorem Consistent.records {r : Recording} (h : r.Consistent) {mediaType : MediaType}
    {pkt : Stamped} (hgate : r.recorder.gate mediaType = true ∨ pkt.key = true) :
    Records mediaType (r.taken mediaType) pkt := by
  rcases hgate with hgate | hkey
  · cases mediaType with
    | audio => exact .inl rfl
    | video => exact .inr (.inl (h.keyed (by simpa [gate] using hgate)))
  · exact .inr (.inr hkey)

/-- A packet that is taken has an output stream and passes the gate. -/
theorem takes_iff (s : RealTimeStreamRecorder) (mediaType : MediaType) (pkt : Stamped) :
    s.takes layout mediaType pkt = true ↔
      (s.gate mediaType = true ∨ pkt.key = true) ∧ (layout.route pkt).isSome = true := by
  have hindex : (layout.route pkt).isSome = true → pkt.streamIndex < layout.streamCount := by
    intro hroute
    rw [Layout.streamCount]
    by_contra hge
    rw [Layout.route, List.getElem?_eq_none (l := layout.inputs) (by omega)] at hroute
    cases hmapping : layout.streamMapping[pkt.streamIndex]? with
    | none => simp [hmapping] at hroute
    | some outStreamIndex => simp [hmapping] at hroute
  unfold takes passes gate
  constructor
  · intro h
    simp only [Bool.and_eq_true, Bool.or_eq_true] at h
    exact ⟨by simpa using h.1.2, h.2⟩
  · rintro ⟨hgate, hroute⟩
    simp only [Bool.and_eq_true, Bool.or_eq_true]
    exact ⟨⟨by simpa using hindex hroute, by simpa using hgate⟩, hroute⟩

/-- Taking a packet leaves nothing in the recording that does not belong there. -/
theorem Consistent.written_sublist_take {r : Recording} (h : r.Consistent)
    (mediaType : MediaType) (pkt : Stamped) (answers : Answers) (m : MediaType) :
    ((r.recorder.processPacket muxer layout mediaType pkt answers).2.written m).Sublist
      (recordable m (Function.update r.taken mediaType (r.taken mediaType ++ [pkt]) m)) := by
  rw [processPacket_written]
  by_cases hm : m = mediaType
  · subst hm
    rw [Function.update_self]
    by_cases htake : r.recorder.takes layout m pkt = true ∧ answers.copies = true
    · have hrecords := h.records ((takes_iff r.recorder m pkt).mp htake.1).1
      rw [if_pos ⟨rfl, htake⟩, recordable_concat hrecords]
      exact (h.written_sublist m).append (List.Sublist.refl _)
    · rw [if_neg (fun hc => htake hc.2)]
      by_cases hrecords : Records m (r.taken m) pkt
      · rw [recordable_concat hrecords]
        exact (h.written_sublist m).trans (List.sublist_append_left _ _)
      · rw [recordable_concat_of_not hrecords]
        exact h.written_sublist m
  · rw [if_neg (fun hc => hm hc.1), Function.update_of_ne hm]
    exact h.written_sublist m

/-- The flag is set only by a key frame. -/
theorem Consistent.keyed_take {r : Recording} (h : r.Consistent) {mediaType : MediaType}
    {pkt : Stamped} {answers : Answers}
    (hkey : (r.recorder.processPacket muxer layout mediaType pkt answers).2.hasKeyFrame = true) :
    ∃ p ∈ Function.update r.taken mediaType (r.taken mediaType ++ [pkt]) .video,
      p.key = true := by
  rw [processPacket_hasKeyFrame, Bool.or_eq_true] at hkey
  by_cases hold : r.recorder.hasKeyFrame = true
  · rcases h.keyed hold with ⟨p, hp, hpkey⟩
    refine ⟨p, ?_, hpkey⟩
    cases mediaType with
    | video =>
      rw [Function.update_self]
      exact List.mem_append_left _ hp
    | audio => exact hp
  · rcases hkey with hkey | hkey
    · exact absurd hkey hold
    · rw [Bool.and_eq_true, decide_eq_true_iff] at hkey
      rcases hkey with ⟨hm, hpass⟩
      subst hm
      refine ⟨pkt, by simp, ?_⟩
      rw [passes, Bool.and_eq_true] at hpass
      simpa [hold] using hpass.2

/-- Without a key frame nothing is written and no audio is taken. -/
theorem Consistent.waiting_take {r : Recording} (h : r.Consistent) {mediaType : MediaType}
    (hloop : r.loopAt = .taking mediaType) {pkt : Stamped} {answers : Answers}
    (hkey : (r.recorder.processPacket muxer layout mediaType pkt answers).2.hasKeyFrame = false) :
    (r.recorder.processPacket muxer layout mediaType pkt answers).2.written .video = [] ∧
      Function.update r.taken mediaType (r.taken mediaType ++ [pkt]) .audio = [] := by
  rw [processPacket_hasKeyFrame, Bool.or_eq_false_iff] at hkey
  rcases hkey with ⟨hold, hpass⟩
  cases mediaType with
  | audio => exact absurd (h.audio_keyed hloop) (by simp [hold])
  | video =>
    have htakes : r.recorder.takes layout .video pkt = false := by
      unfold takes
      rw [Bool.and_eq_false_iff]
      exact .inl (by simpa using hpass)
    rw [processPacket_written, if_neg (by simp [htakes])]
    exact h.waiting hold

theorem Consistent.take {r : Recording} (h : r.Consistent) {mediaType : MediaType}
    (hloop : r.loopAt = .taking mediaType) (answers : Answers) :
    (r.take muxer layout mediaType answers).Consistent := by
  have hrunning : r.stopAt.isJoined = true → False := by
    intro hjoined
    rw [h.ended hjoined] at hloop
    cases hloop
  rcases r.take_cases mediaType answers with ⟨hqueue, heq⟩ | ⟨pkt, rest, hqueue, heq⟩
  · rw [heq]
    exact ⟨h.conserved, h.written_sublist, h.keyed, h.waiting, next_eq_audio, h.video_aborted,
      h.aborted, fun hjoined => (hrunning hjoined).elim⟩
  · rw [heq]
    refine ⟨?_, h.written_sublist_take mediaType pkt answers, h.keyed_take, h.waiting_take hloop,
      next_eq_audio, ?_, ?_, fun hjoined => (hrunning hjoined).elim⟩
    · intro hflushed m
      by_cases hm : m = mediaType
      · subst hm
        simp only [Function.update_self]
        rw [h.conserved hflushed, hqueue, List.append_assoc]
        rfl
      · simp only [Function.update_of_ne hm]
        exact h.conserved hflushed m
    · intro hstop
      rw [aborted_update]
      exact h.video_aborted hstop
    · intro hclosed m
      rw [aborted_update]
      exact h.aborted hclosed m

theorem Consistent.stopStep {r r' : Recording} (h : r.Consistent) (hstep : StopStep r r') :
    r'.Consistent := by
  cases hstep with
  | flagged hat | refused hat =>
    have hconserved := h.conserved (by rw [hat]; rfl)
    exact ⟨fun _ => hconserved, h.written_sublist, h.keyed, h.waiting, h.audio_keyed,
      fun hc => by simp at hc, fun hc => by simp [StopAt.isClosed] at hc,
      fun hc => by simp [StopAt.isJoined] at hc⟩
  | videoAborted hat =>
    have hconserved := h.conserved (by rw [hat]; rfl)
    refine ⟨fun _ m => ?_, h.written_sublist, h.keyed, h.waiting, h.audio_keyed, fun _ => rfl,
      fun hc => by simp [StopAt.isClosed] at hc, fun hc => by simp [StopAt.isJoined] at hc⟩
    cases m with
    | video => exact hconserved .video
    | audio => exact hconserved .audio
  | joining hat =>
    have hconserved := h.conserved (by rw [hat]; rfl)
    refine ⟨fun _ m => ?_, h.written_sublist, h.keyed, h.waiting, h.audio_keyed,
      fun hc => by simp at hc, fun _ m => ?_, fun hc => by simp [StopAt.isJoined] at hc⟩
    · cases m with
      | video => exact hconserved .video
      | audio => exact hconserved .audio
    · cases m with
      | video => exact h.video_aborted hat
      | audio => rfl
  | joined hat hended =>
    have hconserved := h.conserved (by rw [hat]; rfl)
    have haborted := h.aborted (by rw [hat]; rfl)
    exact ⟨fun _ => hconserved, h.written_sublist, h.keyed, h.waiting, h.audio_keyed,
      fun hc => by simp at hc, fun _ => haborted, fun _ => hended⟩
  | cleaned hat | returned hat =>
    have haborted := h.aborted (by rw [hat]; rfl)
    have hended := h.ended (by rw [hat]; rfl)
    exact ⟨fun hc => by simp [StopAt.isFlushed] at hc, h.written_sublist, h.keyed, h.waiting,
      h.audio_keyed, fun hc => by simp at hc, fun _ => haborted, fun _ => hended⟩

theorem step_consistent (r : Recording) (a : SessionStep) (r' : Recording) (h : r.Consistent)
    (hstep : step muxer layout r a = some r') : r'.Consistent := by
  cases a with
  | writePacket mediaType pkt =>
    simp only [step, Option.ite_none_right_eq_some, Option.some.injEq] at hstep
    rw [← hstep.2, writePacket]
    split
    · exact ⟨h.conserved, h.written_sublist, h.keyed, h.waiting, h.audio_keyed, h.video_aborted,
        h.aborted, h.ended⟩
    · exact h
  | push =>
    simp only [step, Option.map_eq_some_iff] at hstep
    rcases hstep with ⟨w, -, rfl⟩
    exact h.push w.1 w.2
  | begin allocated =>
    simp only [step, Option.ite_none_right_eq_some, Option.some.injEq] at hstep
    rcases hstep with ⟨hloop, rfl⟩
    refine ⟨h.conserved, h.written_sublist, h.keyed, h.waiting, ?_, h.video_aborted, h.aborted, ?_⟩
    · cases allocated <;> simp
    · intro hjoined
      rw [h.ended hjoined] at hloop
      cases hloop
  | test =>
    simp only [step, Option.ite_none_right_eq_some, Option.some.injEq] at hstep
    rcases hstep with ⟨hloop, rfl⟩
    refine ⟨h.conserved, h.written_sublist, h.keyed, h.waiting, ?_, h.video_aborted, h.aborted, ?_⟩
    · cases r.shouldStop <;> simp
    · intro hjoined
      rw [h.ended hjoined] at hloop
      cases hloop
  | take alloc ref =>
    rcases step_take hstep with ⟨mediaType, hloop, rfl⟩
    exact h.take hloop _
  | stopRecording => exact h.stopStep (stopRecording_step hstep)

/-- Besides taking a packet and flushing the queues, no step touches what is recorded. -/
theorem step_cases {r r' : Recording} {a : SessionStep} (h : r.Consistent)
    (hstep : step muxer layout r a = some r') :
    (∃ alloc ref mediaType pkt, a = .take alloc ref ∧ r.loopAt = .taking mediaType ∧
      (r.queue mediaType).queue.head? = some pkt ∧ r'.stopAt = r.stopAt ∧
      r'.recorder = (r.recorder.processPacket muxer layout mediaType pkt ⟨alloc, ref, 0⟩).2 ∧
      r'.taken = Function.update r.taken mediaType (r.taken mediaType ++ [pkt])) ∨
    (a = .stopRecording ∧ r.stopAt = .joined ∧ r' = { r.cleanup with stopAt := .cleaned }) ∨
    (r.Keeps layout a r' ∧ r'.recorder = r.recorder ∧ r'.taken = r.taken ∧
      r'.stopAt.isFlushed = r.stopAt.isFlushed ∧
      (r.stopAt.isFlushed = true → r'.accepted = r.accepted)) := by
  cases a with
  | writePacket mediaType pkt =>
    simp only [step, Option.ite_none_right_eq_some, Option.some.injEq] at hstep
    rw [← hstep.2, writePacket]
    split <;> exact .inr (.inr ⟨trivial, rfl, rfl, rfl, fun _ => rfl⟩)
  | push =>
    simp only [step, Option.map_eq_some_iff] at hstep
    rcases hstep with ⟨w, -, rfl⟩
    rcases r.push_cases w.1 w.2 with heq | ⟨hopen, heq⟩
    · rw [heq]
      exact .inr (.inr ⟨trivial, rfl, rfl, rfl, fun _ => rfl⟩)
    · rw [heq]
      refine .inr (.inr ⟨trivial, rfl, rfl, rfl, ?_⟩)
      intro hflushed
      have hclosed := StopAt.isClosed_of_isFlushed hflushed
      rw [h.aborted hclosed] at hopen
      cases hopen
  | begin allocated =>
    simp only [step, Option.ite_none_right_eq_some, Option.some.injEq] at hstep
    rw [← hstep.2]
    exact .inr (.inr ⟨trivial, rfl, rfl, rfl, fun _ => rfl⟩)
  | test =>
    simp only [step, Option.ite_none_right_eq_some, Option.some.injEq] at hstep
    rw [← hstep.2]
    exact .inr (.inr ⟨trivial, rfl, rfl, rfl, fun _ => rfl⟩)
  | take alloc ref =>
    rcases step_take hstep with ⟨mediaType, hloop, rfl⟩
    rcases r.take_cases mediaType ⟨alloc, ref, 0⟩ with ⟨hqueue, heq⟩ | ⟨pkt, rest, hqueue, heq⟩
    · rw [heq]
      refine .inr (.inr ⟨?_, rfl, rfl, rfl, fun _ => rfl⟩)
      simp [Keeps, hloop, Writable, hqueue]
    · rw [heq]
      exact .inl ⟨alloc, ref, mediaType, pkt, rfl, hloop, by rw [hqueue, List.head?_cons], rfl, rfl,
        rfl⟩
  | stopRecording =>
    cases stopRecording_step hstep with
    | cleaned hat => exact .inr (.inl ⟨rfl, hat, rfl⟩)
    | flagged hat | refused hat | videoAborted hat | joining hat | joined hat _ | returned hat =>
      exact .inr (.inr ⟨by simp [Keeps, hat], rfl, rfl, by rw [hat]; rfl, fun _ => rfl⟩)

/-- A packet that belongs into the recording has passed the gate, if all before it were
written. -/
theorem UpToDate.gate {r : Recording} (h : r.Consistent) (hall : r.UpToDate)
    {mediaType : MediaType} {pkt : Stamped} (hrecords : Records mediaType (r.taken mediaType) pkt) :
    r.recorder.gate mediaType = true ∨ pkt.key = true := by
  cases mediaType with
  | audio => exact .inl (by simp [RealTimeStreamRecorder.gate])
  | video =>
    rcases hrecords with haudio | hkey | hkey
    · cases haudio
    · left
      cases hflag : r.recorder.hasKeyFrame with
      | true => simp [RealTimeStreamRecorder.gate, hflag]
      | false =>
        have hnil := hall .video
        rw [(h.waiting hflag).1] at hnil
        exact absurd hnil.symm (fromKeyFrame_ne_nil hkey)
    · exact .inr hkey

/-- What is written of a media type that a packet was taken of. -/
theorem written_take {r r' : Recording} {mediaType : MediaType} {pkt : Stamped}
    {answers : Answers}
    (hrecorder : r'.recorder = (r.recorder.processPacket muxer layout mediaType pkt answers).2)
    (m : MediaType) : r'.written m = if m = mediaType ∧
      r.recorder.takes layout mediaType pkt = true ∧ answers.copies = true
        then r.written m ++ [pkt] else r.written m := by
  rw [written, hrecorder, processPacket_written]
  rfl

/-- A packet that was taken and is in the recording as it should be was written, or does not
belong there. -/
theorem Consistent.writable_of_written {r : Recording} (h : r.Consistent) {mediaType : MediaType}
    {pkt : Stamped} {answers : Answers} (hpkt : (r.queue mediaType).queue.head? = some pkt)
    (heq : (if r.recorder.takes layout mediaType pkt = true ∧ answers.copies = true
      then r.written mediaType ++ [pkt] else r.written mediaType) =
        recordable mediaType (r.taken mediaType ++ [pkt])) :
    r.written mediaType = recordable mediaType (r.taken mediaType) ∧
      r.Writable layout mediaType answers := by
  by_cases hrecords : Records mediaType (r.taken mediaType) pkt
  · rw [recordable_concat hrecords] at heq
    by_cases htake : r.recorder.takes layout mediaType pkt = true ∧ answers.copies = true
    · rw [if_pos htake, List.append_left_inj] at heq
      refine ⟨heq, ?_⟩
      intro p hp _
      rw [hpkt, Option.mem_some_iff] at hp
      subst hp
      exact ⟨((takes_iff r.recorder mediaType pkt).mp htake.1).2, htake.2⟩
    · rw [if_neg htake] at heq
      have hlength := (h.written_sublist mediaType).length_le
      rw [heq, List.length_append, List.length_singleton] at hlength
      omega
  · rw [recordable_concat_of_not hrecords] at heq
    by_cases htake : r.recorder.takes layout mediaType pkt = true ∧ answers.copies = true
    · exact absurd (h.records ((takes_iff r.recorder mediaType pkt).mp htake.1).1) hrecords
    · rw [if_neg htake] at heq
      refine ⟨heq, ?_⟩
      intro p hp hgate
      rw [hpkt, Option.mem_some_iff] at hp
      subst hp
      exact absurd (h.records hgate) hrecords

/-- Taking a packet keeps the recording up to date exactly when it can be written. -/
theorem upToDate_take_iff {r r' : Recording} (h : r.Consistent) {mediaType : MediaType}
    {pkt : Stamped} {answers : Answers}
    (hpkt : (r.queue mediaType).queue.head? = some pkt)
    (hrecorder : r'.recorder = (r.recorder.processPacket muxer layout mediaType pkt answers).2)
    (htaken : r'.taken = Function.update r.taken mediaType (r.taken mediaType ++ [pkt])) :
    r'.UpToDate ↔ r.UpToDate ∧ r.Writable layout mediaType answers := by
  have hothers : ∀ m, m ≠ mediaType → (r'.written m = recordable m (r'.taken m) ↔
      r.written m = recordable m (r.taken m)) := by
    intro m hm
    rw [written_take hrecorder, if_neg (fun hc => hm hc.1), htaken, Function.update_of_ne hm]
  have hself : r'.written mediaType = if r.recorder.takes layout mediaType pkt = true ∧
      answers.copies = true then r.written mediaType ++ [pkt] else r.written mediaType := by
    rw [written_take hrecorder]
    simp
  have htakenSelf : r'.taken mediaType = r.taken mediaType ++ [pkt] := by
    rw [htaken, Function.update_self]
  constructor
  · intro hall
    have hlast := hall mediaType
    rw [hself, htakenSelf] at hlast
    rcases h.writable_of_written hpkt hlast with ⟨hwritten, hwritable⟩
    refine ⟨?_, hwritable⟩
    intro m
    by_cases hm : m = mediaType
    · rw [hm]
      exact hwritten
    · exact (hothers m hm).mp (hall m)
  · rintro ⟨hall, hwritable⟩ m
    by_cases hm : m = mediaType
    · rw [hm, hself, htakenSelf]
      by_cases hrecords : Records mediaType (r.taken mediaType) pkt
      · have hgate := hall.gate h hrecords
        have htake := hwritable pkt hpkt hgate
        rw [recordable_concat hrecords,
          if_pos ⟨(takes_iff r.recorder mediaType pkt).mpr ⟨hgate, htake.1⟩, htake.2⟩,
          hall mediaType]
      · rw [recordable_concat_of_not hrecords, if_neg, hall mediaType]
        rintro ⟨htake, -⟩
        exact hrecords (h.records ((takes_iff r.recorder mediaType pkt).mp htake).1)
    · exact (hothers m hm).mpr (hall m)

/-- With a key frame the recording is complete when the queues are empty. -/
theorem Consistent.complete_iff_keyed {r : Recording} (h : r.Consistent)
    (hconserved : ∀ m, r.accepted m = r.taken m ++ (r.queue m).queue)
    (hflag : r.recorder.hasKeyFrame = true) :
    r.Complete layout ↔ r.UpToDate ∧ ∀ m, (r.queue m).queue = [] := by
  have hkey := h.keyed hflag
  have hsome : ∃ pkt ∈ r.taken .video ++ (r.queue .video).queue, pkt.key = true := by
    rcases hkey with ⟨pkt, hpkt, hpkey⟩
    exact ⟨pkt, List.mem_append_left _ hpkt, hpkey⟩
  have hnil : ∀ m, r.written m = recordable m (r.taken m) ++ (r.queue m).queue →
      (r.queue m).queue = [] := by
    intro m heq
    have hlength := (h.written_sublist m).length_le
    rw [heq, List.length_append] at hlength
    exact List.eq_nil_of_length_eq_zero (by omega)
  unfold Complete UpToDate
  rw [hconserved, hconserved, fromKeyFrame_append_of_key hkey, MediaType.forall_iff,
    MediaType.forall_iff]
  constructor
  · rintro ⟨hv, ha⟩
    have ha := ha (.inr hsome)
    have hvideoNil := hnil .video hv
    have haudioNil := hnil .audio ha
    rw [hvideoNil, List.append_nil] at hv
    rw [haudioNil, List.append_nil] at ha
    exact ⟨⟨hv, ha⟩, hvideoNil, haudioNil⟩
  · rintro ⟨⟨hv, ha⟩, hvideoNil, haudioNil⟩
    simp only [hvideoNil, haudioNil, List.append_nil]
    exact ⟨hv, fun _ => ha⟩

/-- Without a key frame nothing is written, and the recording is complete when nothing should
have been. -/
theorem Consistent.complete_iff_not_keyed {r : Recording} (h : r.Consistent)
    (hconserved : ∀ m, r.accepted m = r.taken m ++ (r.queue m).queue)
    (hflag : r.recorder.hasKeyFrame = false) :
    r.Complete layout ↔ r.UpToDate ∧ (∀ pkt ∈ (r.queue .video).queue, pkt.key = false) ∧
      (layout.hasVideo = false → (r.queue .audio).queue = []) := by
  rcases h.waiting hflag with ⟨hnone, htaken⟩
  have haudioNil : r.written .audio = [] := by
    have haudio := h.written_sublist .audio
    rw [htaken] at haudio
    exact List.eq_nil_of_sublist_nil haudio
  unfold Complete UpToDate
  rw [hconserved, hconserved, MediaType.forall_iff, hnone, haudioNil, htaken, List.nil_append]
  constructor
  · rintro ⟨hv, ha⟩
    have hnot : ∀ pkt ∈ r.taken .video ++ (r.queue .video).queue, pkt.key = false := by
      apply no_key_of_not_exists
      intro hkey
      exact fromKeyFrame_ne_nil hkey hv.symm
    refine ⟨⟨?_, rfl⟩, ?_, ?_⟩
    · exact (fromKeyFrame_eq_nil fun pkt hpkt => hnot pkt (List.mem_append_left _ hpkt)).symm
    · intro pkt hpkt
      exact hnot pkt (List.mem_append_right _ hpkt)
    · intro hno
      exact (ha (.inl hno)).symm
  · rintro ⟨⟨hv, -⟩, hqueue, hno⟩
    have hnot : ∀ pkt ∈ r.taken .video ++ (r.queue .video).queue, pkt.key = false := by
      intro pkt hpkt
      rcases List.mem_append.mp hpkt with hpkt | hpkt
      · by_contra hkey
        exact fromKeyFrame_ne_nil ⟨pkt, hpkt, by simpa using hkey⟩ hv.symm
      · exact hqueue pkt hpkt
    refine ⟨(fromKeyFrame_eq_nil hnot).symm, ?_⟩
    rintro (hvideoless | ⟨pkt, hpkt, hkey⟩)
    · exact (hno hvideoless).symm
    · rw [hnot pkt hpkt] at hkey
      cases hkey

/-- A flush leaves a complete recording exactly when everything before it was written and
nothing more was due. -/
theorem complete_cleanup_iff {r : Recording} (h : r.Consistent) (hstop : r.stopAt = .joined) :
    ({ r.cleanup with stopAt := .cleaned } : Recording).Complete layout ↔
      r.UpToDate ∧ r.Drained layout := by
  have hconserved := h.conserved (by rw [hstop]; rfl)
  have hsame : ({ r.cleanup with stopAt := .cleaned } : Recording).Complete layout ↔
      r.Complete layout := Iff.rfl
  rw [hsame, Drained]
  by_cases hflag : r.recorder.hasKeyFrame = true
  · rw [if_pos hflag]
    exact h.complete_iff_keyed hconserved hflag
  · rw [if_neg hflag]
    exact h.complete_iff_not_keyed hconserved (by simpa using hflag)

/-- What is written is right so far. -/
def SoundSoFar (layout : Layout) (r : Recording) : Prop :=
  if r.stopAt.isFlushed then r.Complete layout else r.UpToDate

theorem soundSoFar_start (layout : Layout) (outputPath : String) :
    (start outputPath).SoundSoFar layout := by
  intro m
  cases m <;> rfl

theorem step_soundSoFar_iff {r r' : Recording} {a : SessionStep} (h : r.Consistent)
    (hstep : step muxer layout r a = some r') :
    r'.SoundSoFar layout ↔ r.SoundSoFar layout ∧ r.Keeps layout a r' := by
  rcases step_cases h hstep with
    ⟨alloc, ref, mediaType, pkt, rfl, hloop, hpkt, hstop, hrecorder, htaken⟩ |
    ⟨rfl, hstop, rfl⟩ | ⟨hkeeps, hrecorder, htaken, hflushed, haccepted⟩
  · have hopen : r.stopAt.isFlushed = false := by
      by_contra hflushed
      have hjoined := StopAt.isJoined_of_isFlushed (by simpa using hflushed)
      rw [h.ended hjoined] at hloop
      cases hloop
    have hkeeps : r.Keeps layout (.take alloc ref) r' ↔
        r.Writable layout mediaType ⟨alloc, ref, 0⟩ := by
      simp [Keeps, hloop]
    rw [SoundSoFar, SoundSoFar, hstop, hopen, hkeeps]
    exact upToDate_take_iff h hpkt hrecorder htaken
  · have hkeeps : r.Keeps layout .stopRecording { r.cleanup with stopAt := .cleaned } ↔
        r.Drained layout := by
      simp [Keeps, hstop]
    rw [SoundSoFar, SoundSoFar, hstop, hkeeps]
    exact complete_cleanup_iff h hstop
  · rw [and_iff_left hkeeps, SoundSoFar, SoundSoFar, hflushed]
    unfold Complete UpToDate written
    rw [hrecorder, htaken]
    cases hflushed : r.stopAt.isFlushed with
    | false => exact Iff.rfl
    | true =>
      rw [haccepted hflushed]

/-- A session that was stopped wrote what it accepted exactly when every packet that belongs
into the recording could be written and the queues held no more of them at the flush. -/
theorem returned_complete_iff {outputPath : String} {actions : List SessionStep} {r : Recording}
    (hrun : run (step muxer layout) (start outputPath) actions = some r)
    (hreturned : r.stopAt = .returned) :
    r.Complete layout ↔ Each (step muxer layout) (Keeps layout) (start outputPath) actions := by
  have hsound : r.SoundSoFar layout ↔ r.Complete layout := by
    rw [SoundSoFar, hreturned]
    exact Iff.rfl
  rw [← hsound]
  constructor
  · intro hr
    refine (Each.of_final step_consistent ?_ (consistent_start outputPath) hrun hr).2
    intro s a s' hs hstep hs'
    exact (step_soundSoFar_iff hs hstep).mp hs'
  · intro heach
    have hkeep : ∀ s a s', s.Consistent ∧ s.SoundSoFar layout → s.Keeps layout a s' →
        step muxer layout s a = some s' → s'.Consistent ∧ s'.SoundSoFar layout := by
      rintro s a s' ⟨hs, hsound⟩ hkeeps hstep
      exact ⟨step_consistent s a s' hs hstep, (step_soundSoFar_iff hs hstep).mpr ⟨hsound, hkeeps⟩⟩
    exact (Each.run_invariant hkeep ⟨consistent_start outputPath,
      soundSoFar_start layout outputPath⟩ heach hrun).2

/-- A key frame and a packet of audio are pushed. -/
def bothPushed : List SessionStep :=
  [.begin true, .writePacket (some .video) ⟨0, true, some 25, some 25, 1⟩, .push,
    .writePacket (some .audio) ⟨1, true, some 50, some 50, 1⟩, .push]

/-- The flag is set, the loop ends on it, and `stopRecording` runs to its end. -/
def stopped : List SessionStep :=
  [.stopRecording, .test, .stopRecording, .stopRecording, .stopRecording, .stopRecording,
    .stopRecording]

/-- A session that is stopped when the queues are empty. -/
theorem returned_complete_drained :
    ∃ r, run (step .rounding videoAndAudio) (start "out.mp4")
        (bothPushed ++ [.test, .take true 0, .take true 0] ++ stopped) = some r ∧
      r.stopAt = .returned ∧ r.accepted .audio = [⟨1, true, some 50, some 50, 1⟩] ∧
      r.Complete videoAndAudio := by
  have hsession : ∃ r, run (step .rounding videoAndAudio) (start "out.mp4")
        (bothPushed ++ [.test, .take true 0, .take true 0] ++ stopped) = some r ∧
      r.stopAt = .returned ∧ r.accepted .audio = [⟨1, true, some 50, some 50, 1⟩] :=
    ⟨_, rfl, rfl, rfl⟩
  rcases hsession with ⟨r, hrun, hreturned, haccepted⟩
  exact ⟨r, hrun, hreturned, haccepted, (returned_complete_iff hrun hreturned).mpr (by decide)⟩

/-- A key frame that is accepted before the stop and never written. -/
theorem returned_incomplete :
    ∃ r, run (step .rounding videoAndAudio) (start "out.mp4") (bothPushed ++ stopped) = some r ∧
      r.stopAt = .returned ∧ r.accepted .video = [⟨0, true, some 25, some 25, 1⟩] ∧
      r.written .video = [] ∧ ¬ r.Complete videoAndAudio := by
  refine ⟨_, rfl, rfl, rfl, rfl, ?_⟩
  intro hcomplete
  exact absurd hcomplete.1 (by decide)

end Recording

end DecoderSDK.Recorder
