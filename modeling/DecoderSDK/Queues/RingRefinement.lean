import DecoderSDK.Interleaving.Runs
import DecoderSDK.Queues.FrameQueue
import DecoderSDK.Ring.Bounded

/-! # The frame queue refines a bounded list

Seen from outside, the ring of the frame queue is a bounded list: every
operation returns what the operation on the list returns and leaves a ring
that represents the list it leaves. `push` and `pop` are called without a
timeout, so every operation is one step. Where an operation copies a frame,
`ref` tells whether FFmpeg can take the reference.
-/
namespace DecoderSDK.FrameQueue
open Interleaving

inductive Operation (π : Type*) where
  | push (f : Frame π) (ref : Bool)
  | pop (ref : Bool)
  | tryPop (ref : Bool)
  | clear
  | setMaxCount (maxCount : ℤ)
  | setKeepLast (keepLast : Bool)
  | setAbortStatus (abort : Bool)
  | init
  | uninit

/-- What an operation returns. -/
inductive Result (π : Type*) where
  | done
  | bool (ok : Bool)
  | frame (f : Option (Frame π))

variable {π : Type*}

def perform (q : FrameQueue π) : Operation π → Result π × FrameQueue π
  | .push f ref => (.bool (q.push f ref).1, (q.push f ref).2)
  | .pop ref => (.frame (q.pop ref).1, (q.pop ref).2)
  | .tryPop ref => (.frame (q.tryPop ref).1, (q.tryPop ref).2)
  | .clear => (.done, q.clear)
  | .setMaxCount maxCount => (.bool (q.setMaxCount maxCount).1, (q.setMaxCount maxCount).2)
  | .setKeepLast keepLast => (.done, q.setKeepLast keepLast)
  | .setAbortStatus abort => (.done, q.setAbortStatus abort)
  | .init => (.done, q.init)
  | .uninit => (.done, q.uninit)

/-- The same operations on a bounded list, which holds copies of what is pushed. -/
def performBounded (b : Ring.Bounded (Frame π)) :
    Operation π → Result π × Ring.Bounded (Frame π)
  | .push f ref => (.bool (b.push (f.copied ref)).1, (b.push (f.copied ref)).2)
  | .pop ref => (.frame (b.pop (Frame.copied · ref)).1, (b.pop (Frame.copied · ref)).2)
  | .tryPop ref => (.frame (b.pop (Frame.copied · ref)).1, (b.pop (Frame.copied · ref)).2)
  | .clear => (.done, b.clear)
  | .setMaxCount maxCount => (.bool (b.resize maxCount).1, (b.resize maxCount).2)
  | .setKeepLast keepLast => (.done, { b with keepLast := keepLast })
  | .setAbortStatus abort => (.done, { b with aborted := abort })
  | .init => (.done, b.allocate)
  | .uninit => (.done, b.free)

/-- The list that the ring represents. -/
def bounded (q : FrameQueue π) : Ring.Bounded (Frame π) :=
  ⟨q.frames, q.maxSize, q.keepLast, q.aborted, !q.queue.isEmpty⟩

/-- Without slots the indices are at rest, too. -/
structure Sound (q : FrameQueue π) : Prop where
  wellFormed : q.WellFormed
  unallocated : q.queue = [] → q.head = 0 ∧ q.tail = 0

/-- What the list represented by a ring depends on. -/
theorem bounded_of_frames (q : FrameQueue π) {q' : FrameQueue π} {fs : List (Frame π)}
    (hframes : q'.frames = fs) (hmaxSize : q'.maxSize = q.maxSize)
    (hkeepLast : q'.keepLast = q.keepLast) (haborted : q'.aborted = q.aborted)
    (hlength : q'.queue.length = q.queue.length) :
    q'.bounded = { q.bounded with items := fs } := by
  have hempty : q'.queue.isEmpty = q.queue.isEmpty := by
    rw [Bool.eq_iff_iff, List.isEmpty_iff_length_eq_zero, List.isEmpty_iff_length_eq_zero, hlength]
  simp only [bounded, hframes, hmaxSize, hkeepLast, haborted, hempty]

/-- The step keeps the ring sound and does what the operation does on the list. -/
structure Simulates (q : FrameQueue π) (op : Operation π) : Prop where
  sound : Sound (q.perform op).2
  result_eq : (q.perform op).1 = (performBounded q.bounded op).1
  bounded_eq : (q.perform op).2.bounded = (performBounded q.bounded op).2

theorem Simulates.of_eq {q q' : FrameQueue π} {op : Operation π} {r : Result π}
    (hq' : Sound q') (h : q.perform op = (r, q'))
    (hbounded : performBounded q.bounded op = (r, q'.bounded)) : Simulates q op := by
  refine ⟨?_, ?_, ?_⟩
  · rw [h]
    exact hq'
  · rw [h, hbounded]
  · rw [h, hbounded]

theorem sound_new (maxSize : ℕ) (keepLast autoInit : Bool) :
    Sound (new maxSize keepLast autoInit : FrameQueue π) := by
  refine ⟨wellFormed_new maxSize keepLast autoInit, fun _ => ?_⟩
  cases autoInit <;> exact ⟨rfl, rfl⟩

theorem push_eq (q : FrameQueue π) (f : Frame π) (ref : Bool) :
    q.push f ref = if q.size < q.maxSize ∧ q.aborted = false ∧ q.queue ≠ [] then
      (true, q.append (f.copied ref)) else (false, q) := by
  unfold push hasSpace pushInternal
  by_cases haborted : q.aborted = true
  · simp [haborted]
  · by_cases hspace : q.size < q.maxSize
    · by_cases hne : q.queue = []
      · simp [hne, hspace]
      · simp [haborted, hspace, hne, hspace.ne]
    · simp [haborted, hspace]

/-- `push` appends a copy when there is room, and only then. -/
theorem simulates_push {q : FrameQueue π} (hq : Sound q) (f : Frame π) (ref : Bool) :
    Simulates q (.push f ref) := by
  have hiff : (q.bounded.items.length < q.bounded.capacity ∧ q.bounded.aborted = false ∧
      q.bounded.allocated = true) ↔ q.size < q.maxSize ∧ q.aborted = false ∧ q.queue ≠ [] := by
    simp [bounded, frames_length hq.wellFormed]
  by_cases h : q.size < q.maxSize ∧ q.aborted = false ∧ q.queue ≠ []
  · have hne : (q.append (f.copied ref)).queue ≠ [] := by simpa [append] using h.2.2
    have hsound : Sound (q.append (f.copied ref)) :=
      ⟨hq.wellFormed.append h.1 h.2.2 _, fun hnil => absurd hnil hne⟩
    refine .of_eq (r := .bool true) hsound (by simp [perform, push_eq, h]) ?_
    simp only [performBounded, Ring.Bounded.push, if_pos (hiff.mpr h)]
    rw [bounded_of_frames q (frames_append hq.wellFormed h.1 h.2.2 _) rfl rfl rfl (by simp [append])]
    rfl
  · refine .of_eq (r := .bool false) hq (by simp [perform, push_eq, h]) ?_
    simp only [performBounded, Ring.Bounded.push, hiff.not.mpr h, if_false]

/-- `pop` removes the oldest frame, hands out a copy of the last one, or fails. -/
theorem bounded_pop {q : FrameQueue π} (hq : Sound q) (ref : Bool) :
    Sound (q.pop ref).2 ∧
      q.bounded.pop (Frame.copied · ref) = ((q.pop ref).1, (q.pop ref).2.bounded) := by
  have hlength := frames_length hq.wellFormed
  have hkept : q.bounded.kept < q.bounded.items.length ↔ q.canPop = true := by
    simp only [bounded, Ring.Bounded.kept, hlength, canPop]
    by_cases hkeep : q.keepLast = true <;> simp [hkeep]
  have hlast : (q.bounded.keepLast = true ∧ q.bounded.items.length = 1) ↔
      q.shouldReturnLastFrame = true := by
    simp [bounded, hlength, shouldReturnLastFrame]
  rw [pop_eq hq.wellFormed ref, Ring.Bounded.pop]
  simp only [hkept, hlast]
  by_cases haborted : q.aborted = true
  · simp [haborted, bounded, hq]
  · by_cases hpop : q.canPop = true
    · have hpos : 0 < q.size := by
        unfold canPop at hpop
        split_ifs at hpop <;> simp only [decide_eq_true_eq] at hpop <;> omega
      have hne := queue_ne_nil_of_pos hq.wellFormed hpos
      have hne' : q.popInternal.2.queue ≠ [] := by
        rw [← List.length_pos_iff, popInternal_length, List.length_pos_iff]
        exact hne
      refine ⟨?_, ?_⟩
      · simp only [haborted, hpop, if_false, if_true, Bool.false_eq_true]
        exact ⟨hq.wellFormed.popInternal hne hpos, fun hnil => absurd hnil hne'⟩
      · simp only [haborted, hpop, if_false, if_true, Bool.false_eq_true, bounded,
          (head_frames hq.wellFormed hpos).2, popInternal_maxSize, popInternal_keepLast,
          popInternal_aborted, List.isEmpty_eq_false_iff.mpr hne, List.isEmpty_eq_false_iff.mpr hne']
    · by_cases hreturn : q.shouldReturnLastFrame = true
      · simp [haborted, hpop, hreturn, bounded, hq]
      · simp [haborted, hpop, hreturn, bounded, hq]

theorem clear_length (q : FrameQueue π) : q.clear.queue.length = q.queue.length := by
  unfold clear
  split_ifs
  · rfl
  · exact foldl_modify_length _ (fun i => (q.head + i) % q.maxSize) Frame.unref q.queue

theorem simulates_clear {q : FrameQueue π} (hq : Sound q) : Simulates q .clear := by
  have hmaxSize : q.clear.maxSize = q.maxSize := by unfold clear; split_ifs <;> rfl
  have haborted : q.clear.aborted = q.aborted := by unfold clear; split_ifs <;> rfl
  refine .of_eq (r := .done) ⟨hq.wellFormed.clear, fun hnil => ?_⟩ rfl ?_
  · have hlength := clear_length q
    rw [hnil, List.length_nil, eq_comm, List.length_eq_zero_iff] at hlength
    unfold clear
    split_ifs
    · exact hq.unallocated hlength
    · exact ⟨rfl, rfl⟩
  · rw [bounded_of_frames q (frames_clear q) hmaxSize (clear_keepLast q) haborted (clear_length q)]
    rfl

theorem size_le_maxSize {q : FrameQueue π} (hq : q.WellFormed) : q.size ≤ q.maxSize := by
  by_cases hnil : q.queue = []
  · rw [size_eq_zero_of_nil hq hnil]
    exact Nat.zero_le _
  · exact hq.length_eq hnil ▸ hq.size_le

/-- The frames that `setMaxCount` saves are all of them. -/
theorem tempFrames_eq {q : FrameQueue π} (hq : q.WellFormed) :
    (List.range q.size).filterMap (fun i => q.queue[(q.head + i) % q.maxSize]?) = q.frames := by
  by_cases hnil : q.queue = []
  · rw [frames, size_eq_zero_of_nil hq hnil]
    rfl
  · rw [frames, Ring.contents, hq.length_eq hnil]

/-- A new ring holds the frames that are put back. -/
theorem bounded_restore (q : FrameQueue π) {n : ℕ} (hpos : 0 < n) {fs : List (Frame π)}
    (hfs : fs.length ≤ n) :
    Sound (fs.foldl append (q.reallocate n)) ∧
      (fs.foldl append (q.reallocate n)).bounded = ⟨fs, n, q.keepLast, q.aborted, true⟩ := by
  have hwf : (q.reallocate n).WellFormed := wellFormed_init { q with maxSize := n }
  have hslots : (q.reallocate n).queue ≠ [] := by
    simp only [reallocate, Ne, List.replicate_eq_nil_iff]
    omega
  have hfit : (q.reallocate n).size + fs.length ≤ (q.reallocate n).maxSize := by
    simpa [reallocate] using hfs
  obtain ⟨hwf', hne, hframes⟩ := foldl_append hwf hslots hfit
  obtain ⟨hmaxSize, hkeepLast, haborted⟩ := foldl_append_keeps (q.reallocate n) fs
  have hempty : (q.reallocate n).frames = [] := rfl
  refine ⟨⟨hwf', fun hnil => absurd hnil hne⟩, ?_⟩
  rw [bounded, hframes, hempty, List.nil_append, hmaxSize, hkeepLast, haborted,
    List.isEmpty_eq_false_iff.mpr hne]
  rfl

/-- `setMaxCount` keeps the oldest frames that fit. -/
theorem simulates_setMaxCount {q : FrameQueue π} (hq : Sound q) (maxCount : ℤ) :
    Simulates q (.setMaxCount maxCount) := by
  have hle : q.frames.length ≤ q.maxSize := by
    rw [frames_length hq.wellFormed]
    exact size_le_maxSize hq.wellFormed
  by_cases hpos : maxCount ≤ 0
  · refine .of_eq (r := .bool false) hq ?_ ?_
    · simp [perform, setMaxCount, hpos]
    · simp [performBounded, Ring.Bounded.resize, hpos]
  · obtain ⟨n, rfl⟩ : ∃ n : ℕ, maxCount = n := ⟨maxCount.toNat, by omega⟩
    by_cases hsame : n = q.maxSize
    · subst hsame
      refine .of_eq (r := .bool true) hq ?_ ?_
      · simp only [perform, setMaxCount, if_neg hpos, if_true]
      · simp only [performBounded, Ring.Bounded.resize, if_neg hpos, Int.toNat_natCast]
        simp [bounded, List.take_of_length_le hle]
    · have hne : (n : ℤ) ≠ q.maxSize := by exact_mod_cast hsame
      have htake : q.frames.take (min q.frames.length n) = q.frames.take n := by
        rw [List.take_eq_take_iff]
        omega
      obtain ⟨hsound, hbounded⟩ := bounded_restore q (n := n) (by omega)
        (List.length_take_le n q.frames)
      refine .of_eq (r := .bool true) hsound ?_ ?_
      · simp only [perform, setMaxCount, if_neg hpos, if_neg hne, tempFrames_eq hq.wellFormed,
          Int.toNat_natCast, htake]
      · simp only [hbounded, performBounded, Ring.Bounded.resize, if_neg hpos, Int.toNat_natCast]
        simp [bounded, hsame]

theorem simulates_init (q : FrameQueue π) : Simulates q .init := by
  refine .of_eq (r := .done) ⟨wellFormed_init q, fun _ => ⟨rfl, rfl⟩⟩ rfl ?_
  have hempty : (!(List.replicate q.maxSize (Frame.new : Frame π).ensureAllocated).isEmpty) =
      decide (0 < q.maxSize) := by
    cases q.maxSize <;> rfl
  simp only [performBounded, Ring.Bounded.allocate, bounded, init, hempty]
  rfl

theorem simulates_uninit (q : FrameQueue π) : Simulates q .uninit := by
  refine .of_eq (r := .done) ⟨?_, fun _ => ⟨rfl, rfl⟩⟩ rfl rfl
  exact ⟨fun h => absurd rfl h, le_refl 0, fun h => absurd rfl h, fun h => absurd rfl h⟩

theorem simulates {q : FrameQueue π} (hq : Sound q) (op : Operation π) : Simulates q op := by
  cases op with
  | push f ref => exact simulates_push hq f ref
  | pop ref =>
    obtain ⟨hsound, hpop⟩ := bounded_pop hq ref
    exact .of_eq hsound rfl (by rw [performBounded, hpop])
  | tryPop ref =>
    obtain ⟨hsound, hpop⟩ := bounded_pop hq ref
    exact .of_eq hsound rfl (by rw [performBounded, hpop]; rfl)
  | clear => exact simulates_clear hq
  | setMaxCount maxCount => exact simulates_setMaxCount hq maxCount
  | setKeepLast keepLast =>
    have hsound : Sound (q.setKeepLast keepLast) := ⟨{ hq.wellFormed with }, hq.unallocated⟩
    exact .of_eq (r := .done) hsound rfl rfl
  | setAbortStatus abort =>
    have hsound : Sound (q.setAbortStatus abort) := ⟨{ hq.wellFormed with }, hq.unallocated⟩
    exact .of_eq (r := .done) hsound rfl rfl
  | init => exact simulates_init q
  | uninit => exact simulates_uninit q

/-- How the fields of the ring represent its list. -/
structure Represents (q : FrameQueue π) : Prop where
  size_le : q.size ≤ q.maxSize
  length_eq : q.queue.length = 0 ∧ q.size = 0 ∨ q.queue.length = q.maxSize
  tail_eq : 0 < q.maxSize → q.tail = (q.head + q.size) % q.maxSize
  items_eq : q.bounded.items =
    (List.range q.size).filterMap fun i => q.queue[(q.head + i) % q.maxSize]?
  items_length : q.bounded.items.length = q.size

theorem Sound.represents {q : FrameQueue π} (hq : Sound q) : Represents q := by
  have hwf := hq.wellFormed
  refine ⟨size_le_maxSize hwf, ?_, fun hpos => ?_, (tempFrames_eq hwf).symm, frames_length hwf⟩
  · by_cases hnil : q.queue = []
    · exact Or.inl ⟨by rw [hnil, List.length_nil], size_eq_zero_of_nil hwf hnil⟩
    · exact Or.inr (hwf.length_eq hnil)
  · by_cases hnil : q.queue = []
    · rw [(hq.unallocated hnil).1, (hq.unallocated hnil).2, size_eq_zero_of_nil hwf hnil, Nat.zero_mod]
    · exact hwf.tail_eq hnil

/-- The step of one operation refines the step on the represented list, and a push never finds
the ring full when it writes. -/
structure Refines (q : FrameQueue π) (op : Operation π) (q' : FrameQueue π) : Prop where
  represents : Represents q'
  result_eq : (q.perform op).1 = (performBounded q.bounded op).1
  bounded_eq : q'.bounded = (performBounded q.bounded op).2
  not_evicting : ∀ f ref, op = .push f ref → (q.push f ref).1 = true → q.size ≠ q.maxSize

/-- The ring of a frame queue of any capacity refines a bounded list, whatever operations are
performed on it. -/
theorem frameQueue_refines (maxSize : ℕ) (keepLast autoInit : Bool) (ops : List (Operation π)) :
    let start : FrameQueue π := new maxSize keepLast autoInit
    Represents start ∧
      start.bounded = ⟨[], maxSize, keepLast, false, autoInit && decide (0 < maxSize)⟩ ∧
      Each (fun q op => some (q.perform op).2) Refines start ops := by
  refine ⟨(sound_new maxSize keepLast autoInit).represents, ?_, ?_⟩
  · cases autoInit <;> cases maxSize <;> rfl
  · refine Each.of_invariant (fun q op q' hq _ hstep => ?_) (sound_new maxSize keepLast autoInit)
      (each_true _ ops)
    rw [Option.some.injEq] at hstep
    subst hstep
    obtain ⟨hsound, hresult, hbounded⟩ := simulates hq op
    refine ⟨hsound, hsound.represents, hresult, hbounded, fun f ref _ hpush => ?_⟩
    rw [push_eq] at hpush
    split_ifs at hpush with hspace
    exact hspace.1.ne

end DecoderSDK.FrameQueue
