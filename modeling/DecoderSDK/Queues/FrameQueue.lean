import DecoderSDK.Base.Frame
import DecoderSDK.Ring.Contents

/-! # The frame queue

A ring of preallocated frames behind one mutex; each operation is one
atomic step. A waiting operation takes its step when its predicate holds or
its time is up, so the step functions describe what happens then. The
writable slot is handed out as an index, and `commitFrame` publishes the
slot at `tail` without looking at the index again. `push` and the last frame
of a keep-last queue copy a frame, and `ref` tells whether FFmpeg can take the
reference; the other operations move frames.
-/
namespace DecoderSDK

structure FrameQueue (π : Type*) where
  queue : List (Frame π)
  head : ℕ
  tail : ℕ
  size : ℕ
  maxSize : ℕ
  keepLast : Bool
  pendingWriteIndex : ℤ
  serial : ℕ
  aborted : Bool
  deriving DecidableEq

namespace FrameQueue
variable {π : Type*}

def uninit (q : FrameQueue π) : FrameQueue π :=
  { q with head := 0, tail := 0, size := 0, pendingWriteIndex := -1, queue := [] }

/-- `queue_` is resized to `maxSize_`, and every slot gets its `AVFrame`. -/
def allocate (q : FrameQueue π) : FrameQueue π :=
  { q with queue := (q.queue.take q.maxSize ++
      List.replicate (q.maxSize - q.queue.length) Frame.new).map Frame.ensureAllocated }

def init (q : FrameQueue π) : FrameQueue π :=
  { q.uninit with queue := List.replicate q.maxSize Frame.new.ensureAllocated }

def new (maxSize : ℕ) (keepLast autoInit : Bool) : FrameQueue π :=
  let q : FrameQueue π := ⟨[], 0, 0, 0, maxSize, keepLast, -1, 0, false⟩
  if autoInit then q.init else q

def hasSpace (q : FrameQueue π) : Bool := q.size < q.maxSize || q.aborted

def canPop (q : FrameQueue π) : Bool := if q.keepLast then 1 < q.size else 0 < q.size

def shouldReturnLastFrame (q : FrameQueue π) : Bool := q.keepLast && q.size = 1

def popInternal (q : FrameQueue π) : Option (Frame π) × FrameQueue π :=
  if q.size = 0 then (none, q)
  else (q.queue[q.head]?,
    { q with queue := q.queue.modify q.head Frame.moved
             head := (q.head + 1) % q.maxSize
             size := q.size - 1 })

/-- The copy assignment of the oldest frame. -/
def copyHead (q : FrameQueue π) (ref : Bool) : Option (Frame π) :=
  q.queue[q.head]?.map (Frame.copied · ref)

def pop (q : FrameQueue π) (ref : Bool) : Option (Frame π) × FrameQueue π :=
  if ¬(q.canPop || q.aborted) then
    if q.shouldReturnLastFrame then (q.copyHead ref, q) else (none, q)
  else if q.aborted || q.queue.isEmpty then (none, q)
  else if q.shouldReturnLastFrame then (q.copyHead ref, q)
  else q.popInternal

def getWritableFrame (q : FrameQueue π) : Option ℕ × FrameQueue π :=
  if !q.hasSpace then (none, q)
  else if q.aborted || q.maxSize ≤ q.size || q.queue.isEmpty then (none, q)
  else (some q.tail, { q with pendingWriteIndex := q.tail })

/-- The producer's assignment through the pointer it was given. -/
def write (q : FrameQueue π) (slot : ℕ) (f : Frame π) : FrameQueue π :=
  { q with queue := q.queue.set slot f }

def commitFrame (q : FrameQueue π) : FrameQueue π :=
  { q with tail := (q.tail + 1) % q.maxSize
           size := q.size + 1
           pendingWriteIndex := -1 }

def clear (q : FrameQueue π) : FrameQueue π :=
  if q.head = q.tail ∧ q.size = 0 then q
  else { q with queue := (List.range q.size).foldl
                  (fun queue i => queue.modify ((q.head + i) % q.maxSize) Frame.unref) q.queue
                head := 0
                tail := 0
                size := 0
                pendingWriteIndex := -1 }

/-- The loops that fill the ring: the frame goes to the slot at `tail`. -/
def append (q : FrameQueue π) (f : Frame π) : FrameQueue π :=
  { q with queue := q.queue.set q.tail f
           tail := (q.tail + 1) % q.maxSize
           size := q.size + 1 }

/-- The oldest frame makes room for a new one. -/
def evict (q : FrameQueue π) : FrameQueue π :=
  { q with queue := q.queue.modify q.head Frame.unref
           head := (q.head + 1) % q.maxSize
           size := q.size - 1 }

def pushInternal (q : FrameQueue π) (f : Frame π) (ref : Bool) : FrameQueue π :=
  (if q.size = q.maxSize then q.evict else q).append (f.copied ref)

def push (q : FrameQueue π) (f : Frame π) (ref : Bool) : Bool × FrameQueue π :=
  if !q.hasSpace then (false, q)
  else if q.aborted || q.queue.isEmpty then (false, q)
  else (true, q.pushInternal f ref)

def tryPop (q : FrameQueue π) (ref : Bool) : Option (Frame π) × FrameQueue π := q.pop ref

/-- An empty ring with new slots. -/
def reallocate (q : FrameQueue π) (maxCount : ℕ) : FrameQueue π :=
  { q with queue := List.replicate maxCount Frame.new.ensureAllocated
           maxSize := maxCount
           head := 0
           tail := 0
           size := 0
           pendingWriteIndex := -1 }

def setMaxCount (q : FrameQueue π) (maxCount : ℤ) : Bool × FrameQueue π :=
  if maxCount ≤ 0 then (false, q)
  else if maxCount = q.maxSize then (true, q)
  else
    let tempFrames := (List.range q.size).filterMap fun i => q.queue[(q.head + i) % q.maxSize]?
    let framesToRestore := min tempFrames.length maxCount.toNat
    (true, (tempFrames.take framesToRestore).foldl append (q.reallocate maxCount.toNat))

def setKeepLast (q : FrameQueue π) (keepLast : Bool) : FrameQueue π :=
  { q with keepLast := keepLast }

def setAbortStatus (q : FrameQueue π) (abort : Bool) : FrameQueue π := { q with aborted := abort }

def setSerial (q : FrameQueue π) (serial : ℕ) : FrameQueue π := { q with serial := serial }

/-- The published frames, oldest first. -/
def frames (q : FrameQueue π) : List (Frame π) := Ring.contents q.queue q.head q.size

/-- Once the slots exist, the indices describe a ring of at most `maxSize` frames. -/
structure WellFormed (q : FrameQueue π) : Prop where
  length_eq : q.queue ≠ [] → q.queue.length = q.maxSize
  size_le : q.size ≤ q.queue.length
  head_lt : q.queue ≠ [] → q.head < q.maxSize
  tail_eq : q.queue ≠ [] → q.tail = (q.head + q.size) % q.maxSize

theorem wellFormed_init (q : FrameQueue π) : q.init.WellFormed := by
  refine ⟨fun _ => by simp [init, uninit], by simp [init, uninit], fun h => ?_,
    fun _ => by simp [init, uninit]⟩
  simp only [init, uninit, Ne, List.replicate_eq_nil_iff] at h
  simp only [init, uninit]
  omega

theorem wellFormed_new (maxSize : ℕ) (keepLast autoInit : Bool) :
    (new maxSize keepLast autoInit : FrameQueue π).WellFormed := by
  cases autoInit with
  | true => exact wellFormed_init _
  | false => exact ⟨fun h => absurd rfl h, le_refl 0, fun h => absurd rfl h, fun h => absurd rfl h⟩

@[simp] theorem frames_new (maxSize : ℕ) (keepLast autoInit : Bool) :
    (new maxSize keepLast autoInit : FrameQueue π).frames = [] := by
  cases autoInit <;> rfl

theorem size_eq_zero_of_nil {q : FrameQueue π} (hq : q.WellFormed) (hnil : q.queue = []) :
    q.size = 0 := by
  have := hq.size_le
  simp only [hnil, List.length_nil] at this
  omega

/-- A handed-out slot is the one at `tail`, and there is room for it. -/
theorem getWritableFrame_some {q : FrameQueue π} {slot : ℕ}
    (h : q.getWritableFrame.1 = some slot) :
    slot = q.tail ∧ q.size < q.maxSize ∧ q.queue ≠ [] ∧
      q.getWritableFrame.2 = { q with pendingWriteIndex := q.tail } := by
  unfold getWritableFrame at h ⊢
  split_ifs at h ⊢ with hspace hfail
  simp only [Bool.or_eq_true, decide_eq_true_eq, not_or, not_le, List.isEmpty_iff] at hfail
  simp only [Option.some.injEq] at h
  exact ⟨h.symm, hfail.1.2, hfail.2, rfl⟩

theorem getWritableFrame_none {q : FrameQueue π} (h : q.getWritableFrame.1 = none) :
    q.getWritableFrame.2 = q := by
  unfold getWritableFrame at h ⊢
  split_ifs at h ⊢ <;> rfl

theorem WellFormed.setPending {q : FrameQueue π} (hq : q.WellFormed) (i : ℤ) :
    ({ q with pendingWriteIndex := i } : FrameQueue π).WellFormed :=
  ⟨hq.length_eq, hq.size_le, hq.head_lt, hq.tail_eq⟩

theorem WellFormed.write {q : FrameQueue π} (hq : q.WellFormed) (slot : ℕ) (f : Frame π) :
    (q.write slot f).WellFormed := by
  refine ⟨fun h => ?_, ?_, fun h => hq.head_lt ?_, fun h => hq.tail_eq ?_⟩
  · simpa [FrameQueue.write] using hq.length_eq (by simpa [FrameQueue.write] using h)
  · simpa [FrameQueue.write] using hq.size_le
  · simpa [FrameQueue.write] using h
  · simpa [FrameQueue.write] using h

theorem frames_write_tail {q : FrameQueue π} (hq : q.WellFormed) (hsize : q.size < q.maxSize)
    (hne : q.queue ≠ []) (f : Frame π) : (q.write q.tail f).frames = q.frames := by
  have hlen := hq.length_eq hne
  rw [frames, frames, write, hq.tail_eq hne, ← hlen]
  exact Ring.contents_set_next f (by omega)

theorem getElem?_write {q : FrameQueue π} (hq : q.WellFormed) (hne : q.queue ≠ [])
    (hpos : 0 < q.maxSize) (f : Frame π) : (q.write q.tail f).queue[q.tail]? = some f := by
  have hlt : q.tail < q.queue.length := by
    rw [hq.tail_eq hne, hq.length_eq hne]
    exact Nat.mod_lt _ hpos
  simp [write, hlt]

/-- With room for it, `commitFrame` appends the frame in the slot at `tail`. -/
theorem frames_commitFrame {q : FrameQueue π} (hq : q.WellFormed) (hne : q.queue ≠ [])
    {f : Frame π} (hf : q.queue[q.tail]? = some f) : q.commitFrame.frames = q.frames ++ [f] := by
  rw [hq.tail_eq hne, ← hq.length_eq hne] at hf
  exact Ring.contents_succ hf

theorem WellFormed.commitFrame {q : FrameQueue π} (hq : q.WellFormed) (hsize : q.size < q.maxSize)
    (hne : q.queue ≠ []) : q.commitFrame.WellFormed := by
  refine ⟨hq.length_eq, ?_, hq.head_lt, fun _ => ?_⟩
  · have := hq.length_eq hne
    simp only [FrameQueue.commitFrame]
    omega
  · simp only [FrameQueue.commitFrame, hq.tail_eq hne, Nat.mod_add_mod, Nat.add_assoc]

theorem frames_append {q : FrameQueue π} (hq : q.WellFormed) (hsize : q.size < q.maxSize)
    (hne : q.queue ≠ []) (f : Frame π) : (q.append f).frames = q.frames ++ [f] := by
  have hwrite := hq.write q.tail f
  have hne' : (q.write q.tail f).queue ≠ [] := by simpa [write] using hne
  have hslot := getElem?_write hq hne (by omega) f
  calc (q.append f).frames = (q.write q.tail f).commitFrame.frames := rfl
    _ = (q.write q.tail f).frames ++ [f] := frames_commitFrame hwrite hne' hslot
    _ = q.frames ++ [f] := by rw [frames_write_tail hq hsize hne]

theorem WellFormed.append {q : FrameQueue π} (hq : q.WellFormed) (hsize : q.size < q.maxSize)
    (hne : q.queue ≠ []) (f : Frame π) : (q.append f).WellFormed := by
  have hne' : (q.write q.tail f).queue ≠ [] := by simpa [FrameQueue.write] using hne
  exact ((hq.write q.tail f).commitFrame hsize hne').setPending q.pendingWriteIndex

/-- The frames that are put back into a new ring keep their order. -/
theorem foldl_append {q : FrameQueue π} (hq : q.WellFormed) (hne : q.queue ≠ [])
    {fs : List (Frame π)} (hfs : q.size + fs.length ≤ q.maxSize) :
    (fs.foldl append q).WellFormed ∧ (fs.foldl append q).queue ≠ [] ∧
      (fs.foldl append q).frames = q.frames ++ fs := by
  induction fs generalizing q with
  | nil => exact ⟨hq, hne, by simp⟩
  | cons f fs ih =>
    rw [List.length_cons] at hfs
    have hsize : q.size < q.maxSize := by omega
    have hne' : (q.append f).queue ≠ [] := by simpa [append] using hne
    have hfs' : (q.append f).size + fs.length ≤ (q.append f).maxSize := by
      simp only [append]
      omega
    obtain ⟨hwf, hslots, hframes⟩ := ih (hq.append hsize hne f) hne' hfs'
    refine ⟨hwf, hslots, ?_⟩
    rw [List.foldl_cons, hframes, frames_append hq hsize hne]
    simp

/-- What the ring changes and what it keeps when frames are put back. -/
theorem foldl_append_keeps (q : FrameQueue π) (fs : List (Frame π)) :
    (fs.foldl append q).maxSize = q.maxSize ∧ (fs.foldl append q).keepLast = q.keepLast ∧
      (fs.foldl append q).aborted = q.aborted := by
  induction fs generalizing q with
  | nil => exact ⟨rfl, rfl, rfl⟩
  | cons f fs ih => exact ih (q.append f)

theorem frames_length {q : FrameQueue π} (hq : q.WellFormed) : q.frames.length = q.size := by
  by_cases hnil : q.queue = []
  · rw [frames, size_eq_zero_of_nil hq hnil, Ring.contents_zero, List.length_nil]
  · exact Ring.contents_length hnil q.head q.size

theorem queue_ne_nil_of_pos {q : FrameQueue π} (hq : q.WellFormed) (hpos : 0 < q.size) :
    q.queue ≠ [] := by
  intro hnil
  have hzero := size_eq_zero_of_nil hq hnil
  omega

/-- The slot at `head` holds the oldest frame. -/
theorem head_frames {q : FrameQueue π} (hq : q.WellFormed) (hpos : 0 < q.size) :
    q.queue[q.head]? = q.frames.head? ∧ q.popInternal.2.frames = q.frames.tail := by
  have hne := queue_ne_nil_of_pos hq hpos
  have hlen := hq.length_eq hne
  have hhead := hq.head_lt hne
  have hle := hq.size_le
  have hget : q.queue[q.head]? = some q.queue[q.head] := List.getElem?_eq_getElem (by omega)
  have hget' : q.queue[q.head % q.queue.length]? = some q.queue[q.head] := by
    rw [Nat.mod_eq_of_lt (by omega), hget]
  obtain ⟨n, hn⟩ : ∃ n, q.size = n + 1 := ⟨q.size - 1, by omega⟩
  have hmod : q.queue.modify q.head Frame.moved =
      q.queue.set (q.head % q.queue.length) (Frame.moved q.queue[q.head]) := by
    rw [Nat.mod_eq_of_lt (by omega), List.modify_eq_set_getElem?, hget]
    rfl
  simp only [frames, popInternal, hn, Nat.succ_ne_zero, if_false, Nat.add_sub_cancel]
  rw [Ring.contents_head hget', hmod, ← hlen, Ring.contents_set_prev _ (by omega), hget]
  exact ⟨rfl, rfl⟩

/-- The three outcomes of a pop, by the state of the queue. -/
theorem pop_eq {q : FrameQueue π} (hq : q.WellFormed) (ref : Bool) :
    q.pop ref = if q.aborted then (none, q)
      else if q.canPop then (q.frames.head?, q.popInternal.2)
      else if q.shouldReturnLastFrame then (q.frames.head?.map (Frame.copied · ref), q)
      else (none, q) := by
  have hcan (h : q.canPop = true) : 0 < q.size ∧ q.shouldReturnLastFrame = false := by
    unfold canPop at h
    unfold shouldReturnLastFrame
    split_ifs at h with hkeep <;> simp only [decide_eq_true_eq] at h
    · exact ⟨by omega, by simp [hkeep]; omega⟩
    · exact ⟨h, by simp [hkeep]⟩
  have hlast (h : q.shouldReturnLastFrame = true) : q.queue[q.head]? = q.frames.head? := by
    simp only [shouldReturnLastFrame, Bool.and_eq_true, decide_eq_true_eq] at h
    exact (head_frames hq (by omega)).1
  unfold pop
  by_cases haborted : q.aborted = true
  · simp [haborted]
  · by_cases hpop : q.canPop = true
    · obtain ⟨hpos, hreturn⟩ := hcan hpop
      have hne := queue_ne_nil_of_pos hq hpos
      have hslot := (head_frames hq hpos).1
      simp only [haborted, hpop, hreturn, Bool.true_or, not_true_eq_false, if_false, Bool.false_or,
        List.isEmpty_iff, hne, Bool.false_eq_true, if_true]
      rw [← hslot, popInternal, if_neg (by omega)]
    · simp only [haborted, hpop, Bool.or_self, Bool.false_eq_true, not_false_eq_true, if_true,
        if_false]
      split_ifs with hreturn
      · rw [copyHead, hlast hreturn]
      · rfl

/-- What a pop does: nothing, a copy of the last frame, or the removal of the oldest one. -/
theorem pop_cases {q : FrameQueue π} (hq : q.WellFormed) (ref : Bool) :
    q.pop ref = (none, q) ∨
      (∃ f, q.keepLast = true ∧ q.frames = [f] ∧ q.pop ref = (some (f.copied ref), q)) ∨
      ∃ f, q.queue ≠ [] ∧ 0 < q.size ∧ q.frames = f :: q.popInternal.2.frames ∧
        q.pop ref = (some f, q.popInternal.2) := by
  have hlength := frames_length hq
  rw [pop_eq hq ref]
  split_ifs with haborted hpop hlast
  · exact Or.inl rfl
  · right; right
    have hpos : 0 < q.size := by
      unfold canPop at hpop
      split_ifs at hpop <;> simp only [decide_eq_true_eq] at hpop <;> omega
    obtain ⟨f, fs, hframes⟩ := List.exists_cons_of_length_pos (hlength ▸ hpos)
    refine ⟨f, queue_ne_nil_of_pos hq hpos, hpos, ?_, ?_⟩
    · rw [(head_frames hq hpos).2, hframes, List.tail_cons]
    · rw [hframes, List.head?_cons]
  · right; left
    simp only [shouldReturnLastFrame, Bool.and_eq_true, decide_eq_true_eq] at hlast
    obtain ⟨f, hframes⟩ := List.length_eq_one_iff.mp (hlength.trans hlast.2)
    exact ⟨f, hlast.1, hframes, by rw [hframes, List.head?_cons, Option.map_some]⟩
  · exact Or.inl rfl

/-- A popped frame, or the frame it is a copy of, was published before. -/
theorem mem_frames_of_pop {q : FrameQueue π} (hq : q.WellFormed) {ref : Bool} {f : Frame π}
    (h : (q.pop ref).1 = some f) : ∃ g ∈ q.frames, f = g ∨ f = g.copied ref := by
  rcases pop_cases hq ref with hpop | ⟨g, _, hframes, hpop⟩ | ⟨g, _, _, hframes, hpop⟩
  · simp [hpop] at h
  · rw [hpop, Option.some.injEq] at h
    exact ⟨g, by simp [hframes], Or.inr h.symm⟩
  · rw [hpop, Option.some.injEq] at h
    exact ⟨g, by simp [hframes], Or.inl h.symm⟩

theorem WellFormed.popInternal {q : FrameQueue π} (hq : q.WellFormed) (hne : q.queue ≠ [])
    (hpos : 0 < q.size) : q.popInternal.2.WellFormed := by
  have hlen := hq.length_eq hne
  have hle := hq.size_le
  rw [FrameQueue.popInternal, if_neg (by omega)]
  refine ⟨fun _ => ?_, ?_, fun _ => ?_, fun _ => ?_⟩
  · simpa using hlen
  · simp only [List.length_modify]
    omega
  · exact Nat.mod_lt _ (by omega)
  · simp only [hq.tail_eq hne, Nat.mod_add_mod]
    congr 1
    omega

@[simp] theorem popInternal_tail (q : FrameQueue π) : q.popInternal.2.tail = q.tail := by
  unfold popInternal; split_ifs <;> rfl

@[simp] theorem popInternal_maxSize (q : FrameQueue π) :
    q.popInternal.2.maxSize = q.maxSize := by
  unfold popInternal; split_ifs <;> rfl

@[simp] theorem popInternal_keepLast (q : FrameQueue π) :
    q.popInternal.2.keepLast = q.keepLast := by
  unfold popInternal; split_ifs <;> rfl

@[simp] theorem popInternal_aborted (q : FrameQueue π) :
    q.popInternal.2.aborted = q.aborted := by
  unfold popInternal; split_ifs <;> rfl

@[simp] theorem popInternal_pendingWriteIndex (q : FrameQueue π) :
    q.popInternal.2.pendingWriteIndex = q.pendingWriteIndex := by
  unfold popInternal; split_ifs <;> rfl

theorem popInternal_size (q : FrameQueue π) : q.popInternal.2.size = q.size - 1 := by
  unfold popInternal
  split_ifs with h
  · simp [h]
  · rfl

theorem popInternal_length (q : FrameQueue π) :
    q.popInternal.2.queue.length = q.queue.length := by
  unfold popInternal; split_ifs <;> simp

/-- Removing the oldest frame leaves the slot at `tail` alone unless the ring is full. -/
theorem getElem?_tail_popInternal {q : FrameQueue π} (hq : q.WellFormed) (hne : q.queue ≠ [])
    (hsize : q.size < q.maxSize) : q.popInternal.2.queue[q.tail]? = q.queue[q.tail]? := by
  unfold popInternal
  split_ifs with hzero
  · rfl
  · have hhead := hq.head_lt hne
    have hslot : q.head ≠ q.tail := by
      have h : (q.head + 0) % q.maxSize = (q.head + q.size) % q.maxSize ↔ 0 = q.size :=
        Ring.index_inj (by omega) hsize
      rw [Nat.add_zero, Nat.mod_eq_of_lt hhead, ← hq.tail_eq hne] at h
      exact h.not.mpr (Ne.symm hzero)
    exact List.getElem?_modify_ne _ _ hslot

@[simp] theorem clear_keepLast (q : FrameQueue π) : q.clear.keepLast = q.keepLast := by
  unfold clear; split_ifs <;> rfl

@[simp] theorem frames_clear (q : FrameQueue π) : q.clear.frames = [] := by
  unfold clear
  split_ifs with h
  · rw [frames, h.2, Ring.contents_zero]
  · rfl

theorem foldl_modify_length {α : Type*} (is : List ℕ) (index : ℕ → ℕ) (f : α → α) (queue : List α) :
    (is.foldl (fun queue i => queue.modify (index i) f) queue).length = queue.length := by
  induction is generalizing queue with
  | nil => rfl
  | cons i is ih => rw [List.foldl_cons, ih, List.length_modify]

theorem getElem?_foldl_modify {α : Type*} (is : List ℕ) (index : ℕ → ℕ) (f : α → α) {j : ℕ}
    (hj : ∀ i ∈ is, index i ≠ j) (queue : List α) :
    (is.foldl (fun queue i => queue.modify (index i) f) queue)[j]? = queue[j]? := by
  induction is generalizing queue with
  | nil => rfl
  | cons i is ih =>
    rw [List.foldl_cons, ih fun i hi => hj i (List.mem_cons_of_mem _ hi)]
    exact List.getElem?_modify_ne _ _ (hj i List.mem_cons_self)

/-- `clear` drops the published frames and leaves the slot at the old `tail` alone. -/
theorem getElem?_tail_clear {q : FrameQueue π} (hq : q.WellFormed) (hne : q.queue ≠ [])
    (hsize : q.size < q.maxSize) : q.clear.queue[q.tail]? = q.queue[q.tail]? := by
  unfold clear
  split_ifs
  · rfl
  · apply getElem?_foldl_modify
    intro i hi
    have hi' := List.mem_range.mp hi
    rw [hq.tail_eq hne]
    exact (Ring.index_inj (by omega) hsize).not.mpr (by omega)

theorem WellFormed.clear {q : FrameQueue π} (hq : q.WellFormed) : q.clear.WellFormed := by
  unfold FrameQueue.clear
  split_ifs with h
  · exact hq
  · have hback {queue : List (Frame π)} (hl : queue.length = q.queue.length) (hne : queue ≠ []) :
        q.queue ≠ [] := by
      rw [← List.length_pos_iff, ← hl, List.length_pos_iff]
      exact hne
    have hl := foldl_modify_length (List.range q.size) (fun i => (q.head + i) % q.maxSize)
      Frame.unref q.queue
    refine ⟨fun hne => ?_, by simp, fun hne => ?_, fun _ => by simp⟩
    · exact hl.trans (hq.length_eq (hback hl hne))
    · have := hq.head_lt (hback hl hne)
      simp only
      omega

end FrameQueue

end DecoderSDK
