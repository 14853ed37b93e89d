import DecoderSDK.PreBuffer.Progress

/-! # Progress and readiness of the pre-buffer

The demuxer answers a question about the pre-buffer with a rule of its own,
beside the one of the demux thread. The two differ in what a media type
without a stream or without a threshold counts for.
-/
namespace DecoderSDK.PreBuffer

/-- The fields that exist once for video frames and once for audio packets are functions of the
media type. -/
structure PreBufferProgress where
  buffered : MediaType → ℕ
  required : MediaType → ℕ
  progressPercent : MediaType → ℚ
  isReady : MediaType → Bool
  isOverallReady : Bool

namespace Demuxer

/-- The queue is there and holds as many packets as the threshold says, which may be none. -/
def holdsThreshold (dm : Demuxer) (m : MediaType) : Bool :=
  (dm.queue m).any fun q => dm.preBufferFrames m ≤ q.queue.length

def getPreBufferProgress (dm : Demuxer) : PreBufferProgress where
  buffered := dm.packetCount
  required := dm.preBufferFrames
  progressPercent := fun m => (dm.queue m).elim 0 fun q =>
    if 0 < dm.preBufferFrames m then min 1 ((q.queue.length : ℚ) / dm.preBufferFrames m) else 1
  isReady := dm.holdsThreshold
  isOverallReady :=
    if dm.requireBothStreams then dm.holdsThreshold .video && dm.holdsThreshold .audio
    else dm.holdsThreshold .video || dm.holdsThreshold .audio

theorem checkPreBufferStatus_ready {dm : Demuxer} (henabled : dm.preBufferEnabled = true)
    (hready : dm.preBufferReady = false) : dm.checkPreBufferStatus.preBufferReady = dm.isReady := by
  unfold checkPreBufferStatus
  cases h : dm.isReady with
  | false => simp [henabled, hready, goto]
  | true => simp [henabled, hready]

/-- The queue is there and holds as many packets as asked for. -/
def Full (dm : Demuxer) (m : MediaType) : Prop :=
  ∃ q ∈ dm.queue m, dm.preBufferFrames m ≤ q.queue.length

theorem holdsThreshold_iff (dm : Demuxer) (m : MediaType) :
    dm.holdsThreshold m = true ↔ dm.Full m := by
  simp only [holdsThreshold, Full, Option.any_eq_true, decide_eq_true_eq, Option.mem_def]

theorem mediaReady_iff (dm : Demuxer) (m : MediaType) :
    dm.mediaReady m = true ↔ dm.Full m ∧ dm.hasStream m = true ∧ 0 < dm.preBufferFrames m := by
  rw [← holdsThreshold_iff, mediaReady, ← holdsThreshold]
  simp only [Bool.and_eq_true, decide_eq_true_eq]
  exact and_comm

/-- When both streams are required, two full queues belong to streams that are there and have a
threshold; when one is enough, one of the full queues does. -/
def Agreeing (dm : Demuxer) : Prop :=
  if dm.requireBothStreams then
    (∃ m, ¬dm.Full m) ∨ ∀ m, dm.hasStream m = true ∧ 0 < dm.preBufferFrames m
  else (∀ m, ¬dm.Full m) ∨ ∃ m, dm.Full m ∧ dm.hasStream m = true ∧ 0 < dm.preBufferFrames m

/-- The readiness that the demux thread computes is the one in the progress, unless all that is
reported as ready rests on a media type the thread never looks at. -/
theorem ready_eq_isOverallReady_iff (dm : Demuxer) (henabled : dm.preBufferEnabled = true)
    (hready : dm.preBufferReady = false) :
    dm.checkPreBufferStatus.preBufferReady = dm.getPreBufferProgress.isOverallReady ↔
      dm.Agreeing := by
  have hexists (P : MediaType → Prop) : (∃ m, P m) ↔ P .video ∨ P .audio := by
    constructor
    · rintro ⟨m, hm⟩
      cases m with
      | video => exact Or.inl hm
      | audio => exact Or.inr hm
    · rintro (h | h)
      · exact ⟨_, h⟩
      · exact ⟨_, h⟩
  rw [checkPreBufferStatus_ready henabled hready, Bool.eq_iff_iff]
  simp only [isReady, getPreBufferProgress, Agreeing]
  cases dm.requireBothStreams with
  | true =>
    simp only [if_true, Bool.and_eq_true, mediaReady_iff, holdsThreshold_iff, hexists,
      MediaType.forall_iff]
    tauto
  | false =>
    simp only [Bool.false_eq_true, if_false, Bool.or_eq_true, mediaReady_iff, holdsThreshold_iff,
      hexists, MediaType.forall_iff]
    tauto

/-- A stopped demuxer with the thresholds, the streams and the numbers of queued packets given. -/
def buffering (frames count : MediaType → ℕ) (hasStream : MediaType → Bool)
    (requireBothStreams : Bool) : Demuxer :=
  { Demuxer.new with
    hasStream := hasStream
    queue := fun m => if hasStream m then
        some { PacketQueue.new 1000 with queue := List.replicate (count m) ⟨some .keyFrame, 1⟩ }
      else none
    preBufferFrames := frames
    requireBothStreams := requireBothStreams
    preBufferEnabled := true }

theorem ready_eq_isOverallReady_iff_both :
    (buffering (fun _ => 2) (fun _ => 2) (fun _ => true) true).checkPreBufferStatus.preBufferReady =
      (buffering (fun _ => 2) (fun _ => 2) (fun _ => true) true).getPreBufferProgress.isOverallReady :=
  (ready_eq_isOverallReady_iff _ rfl rfl).mpr (Or.inr fun _ => ⟨rfl, Nat.two_pos⟩)

/-- Both streams are required and only video has a threshold, which its queue holds: the progress
is complete, and the demux thread never reports it. -/
theorem not_ready_isOverallReady :
    ∃ dm : Demuxer, dm.preBufferEnabled = true ∧ dm.preBufferReady = false ∧
      dm.checkPreBufferStatus.preBufferReady = false ∧
      dm.getPreBufferProgress.isOverallReady = true := by
  let frames : MediaType → ℕ := fun m => if m = .video then 2 else 0
  exact ⟨buffering frames frames (fun _ => true) true, rfl, rfl, by decide, by decide⟩

end Demuxer

end DecoderSDK.PreBuffer
