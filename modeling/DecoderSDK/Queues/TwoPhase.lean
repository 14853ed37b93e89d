import DecoderSDK.Queues.FrameQueue
import DecoderSDK.Interleaving.Runs
import DecoderSDK.Log.Reader

/-! # Two-phase writes

One producer reserves a slot, fills it and commits, or gives the slot up and
reserves again, while consumers pop and another thread clears the queue.
`committed` logs the frames whose reservation was still valid when they were
committed, and `popped` what the consumers got, where a copy of the last frame
may have failed.
-/
namespace DecoderSDK.TwoPhase
open Interleaving Log

structure State (π : Type*) where
  queue : FrameQueue π
  reserved : Option ℕ
  written : Option (Frame π)
  invalidated : Bool
  committed : List (Frame π)
  popped : List (Frame π)
  deriving DecidableEq

inductive Action (π : Type*) where
  | getWritableFrame
  | write (f : Frame π)
  | commitFrame
  | pop (ref : Bool)
  | clear
  deriving DecidableEq

variable {π : Type*}

def State.start (queue : FrameQueue π) : State π := ⟨queue, none, none, false, [], []⟩

/-- A `clear` that finds the queue empty returns before it touches anything. -/
def clearsSlots (q : FrameQueue π) : Bool := !(q.head = q.tail && q.size = 0)

def step (s : State π) : Action π → Option (State π)
  | .getWritableFrame =>
    some { s with queue := s.queue.getWritableFrame.2
                  reserved := s.queue.getWritableFrame.1
                  written := none
                  invalidated := false }
  | .write f => s.reserved.map fun slot =>
    { s with queue := s.queue.write slot f, written := some f }
  | .commitFrame => match s.reserved, s.written with
    | some _, some f =>
      some { s with queue := s.queue.commitFrame
                    reserved := none
                    written := none
                    invalidated := false
                    committed := if s.invalidated then s.committed else s.committed ++ [f] }
    | _, _ => none
  | .pop ref =>
    some { s with queue := (s.queue.pop ref).2, popped := s.popped ++ (s.queue.pop ref).1.toList }
  | .clear =>
    some { s with queue := s.queue.clear
                  invalidated := s.invalidated || s.reserved.isSome && clearsSlots s.queue }

/-- What a pop hands out of a frame: the frame, or a copy of it that a keep-last queue makes. -/
def Handed (keepLast : Bool) (f g : Frame π) : Prop :=
  g = f ∨ keepLast = true ∧ ∃ ref, g = f.copied ref

/-- Pops return committed frames in commit order, and only a keep-last queue repeats one. -/
def PopsCommitted (s : State π) : Prop :=
  ∃ read, ReadInOrder s.queue.keepLast s.committed read ∧
    List.Forall₂ (Handed s.queue.keepLast) read s.popped

/-- A commit whose slot a `clear` took away publishes nothing. -/
def StaleCommitSilent (s : State π) (a : Action π) (s' : State π) : Prop :=
  a = .commitFrame → s.invalidated = true → s'.queue.frames = s.queue.frames

/-- The commit finds the reservation that `getWritableFrame` left in the queue. -/
def CommitReserved (s : State π) (a : Action π) (_ : State π) : Prop :=
  a = .commitFrame → s.queue.pendingWriteIndex ≠ -1

/-- A reservation that no `clear` took away is the slot at `tail`, with room for it. -/
structure Reserved (s : State π) (slot : ℕ) : Prop where
  pending : s.queue.pendingWriteIndex = slot
  slot_eq : slot = s.queue.tail
  room : s.queue.size < s.queue.maxSize
  slots : s.queue.queue ≠ []
  holds : ∀ f, s.written = some f → s.queue.queue[slot]? = some f

/-- The frames in the queue are what the consumers have not been handed yet. -/
def Unread (keepLast : Bool) (committed popped frames : List (Frame π)) : Prop :=
  ∃ read, Pending keepLast committed read frames ∧ List.Forall₂ (Handed keepLast) read popped

theorem forall₂_concat {α β : Type*} {R : α → β → Prop} {as : List α} {bs : List β} {a : α} {b : β}
    (h : List.Forall₂ R as bs) (hab : R a b) : List.Forall₂ R (as ++ [a]) (bs ++ [b]) :=
  List.rel_append h (.cons hab .nil)

structure Inv (s : State π) : Prop where
  wellFormed : s.queue.WellFormed
  log : Unread s.queue.keepLast s.committed s.popped s.queue.frames
  reserved : ∀ slot, s.reserved = some slot → s.invalidated = false → Reserved s slot
  stale : s.invalidated = true →
    s.queue.pendingWriteIndex = -1 ∧ s.queue.size = 0 ∧ s.queue.queue ≠ []

theorem inv_start (maxSize : ℕ) (keepLast autoInit : Bool) :
    Inv (State.start (FrameQueue.new maxSize keepLast autoInit : FrameQueue π)) where
  wellFormed := FrameQueue.wellFormed_new _ _ _
  log := by
    rw [State.start, FrameQueue.frames_new]
    exact ⟨[], pending_nil _, .nil⟩
  reserved := by simp [State.start]
  stale := by simp [State.start]

theorem inv_getWritableFrame {s : State π} (hs : Inv s) :
    Inv { s with queue := s.queue.getWritableFrame.2
                 reserved := s.queue.getWritableFrame.1
                 written := none
                 invalidated := false } := by
  cases hget : s.queue.getWritableFrame.1 with
  | none =>
    rw [FrameQueue.getWritableFrame_none hget]
    exact ⟨hs.wellFormed, hs.log, by simp, by simp⟩
  | some slot =>
    obtain ⟨rfl, hroom, hslots, hqueue⟩ := FrameQueue.getWritableFrame_some hget
    rw [hqueue]
    refine ⟨hs.wellFormed.setPending _, hs.log, ?_, by simp⟩
    rintro slot ⟨⟩ _
    exact ⟨rfl, rfl, hroom, hslots, by simp⟩

theorem inv_write {s : State π} (hs : Inv s) {slot : ℕ} (hslot : s.reserved = some slot)
    (f : Frame π) : Inv { s with queue := s.queue.write slot f, written := some f } := by
  by_cases hinv : s.invalidated = true
  · obtain ⟨hpending, hsize, hslots⟩ := hs.stale hinv
    refine ⟨hs.wellFormed.write slot f, ?_, fun _ _ h => absurd hinv (ne_of_eq_of_ne h (by simp)), ?_⟩
    · have hframes : (s.queue.write slot f).frames = s.queue.frames := by
        simp only [FrameQueue.frames, FrameQueue.write, hsize, Ring.contents_zero]
      rw [hframes]
      exact hs.log
    · intro _
      exact ⟨hpending, hsize, by simpa [FrameQueue.write] using hslots⟩
  · have hres := hs.reserved slot hslot (by simpa using hinv)
    have htail := hres.slot_eq
    subst htail
    refine ⟨hs.wellFormed.write _ f, ?_, ?_, fun h => absurd h hinv⟩
    · rw [FrameQueue.frames_write_tail hs.wellFormed hres.room hres.slots]
      exact hs.log
    · intro slot' hslot' _
      rw [hslot, Option.some.injEq] at hslot'
      subst hslot'
      refine ⟨hres.pending, rfl, hres.room, by simpa [FrameQueue.write] using hres.slots, ?_⟩
      rintro g ⟨⟩
      exact FrameQueue.getElem?_write hs.wellFormed hres.slots
        (Nat.zero_lt_of_lt hres.room) f

theorem inv_commitFrame {s : State π} (hs : Inv s) {slot : ℕ} {f : Frame π}
    (hslot : s.reserved = some slot) (hf : s.written = some f) (hinv : s.invalidated = false) :
    Inv { s with queue := s.queue.commitFrame
                 reserved := none
                 written := none
                 invalidated := false
                 committed := s.committed ++ [f] } := by
  have hres := hs.reserved slot hslot hinv
  have hholds := hres.holds f hf
  rw [hres.slot_eq] at hholds
  refine ⟨hs.wellFormed.commitFrame hres.room hres.slots, ?_, by simp, by simp⟩
  rw [FrameQueue.frames_commitFrame hs.wellFormed hres.slots hholds]
  obtain ⟨read, hread, hhanded⟩ := hs.log
  exact ⟨read, hread.append f, hhanded⟩

theorem inv_pop {s : State π} (hs : Inv s) (ref : Bool) :
    Inv { s with queue := (s.queue.pop ref).2
                 popped := s.popped ++ (s.queue.pop ref).1.toList } := by
  obtain ⟨read, hread, hhanded⟩ := hs.log
  rcases FrameQueue.pop_cases hs.wellFormed ref with hpop | ⟨f, hkeep, hframes, hpop⟩ |
    ⟨f, hslots, hpos, hframes, hpop⟩
  · rw [hpop]
    simpa using hs
  · rw [hpop]
    refine ⟨hs.wellFormed, ?_, ?_, hs.stale⟩
    · rw [hkeep, hframes] at hread
      rw [hkeep] at hhanded
      have hcopy : Handed true f (f.copied ref) := Or.inr ⟨rfl, ref, rfl⟩
      simp only [hkeep, hframes, Option.toList_some]
      exact ⟨read ++ [f], hread.look, forall₂_concat hhanded hcopy⟩
    · intro slot hslot hinv
      obtain ⟨h₁, h₂, h₃, h₄, h₅⟩ := hs.reserved slot hslot hinv
      exact ⟨h₁, h₂, h₃, h₄, h₅⟩
  · rw [hpop]
    rw [hframes] at hread
    refine ⟨hs.wellFormed.popInternal hslots hpos, ?_, ?_, ?_⟩
    · simp only [Option.toList_some, FrameQueue.popInternal_keepLast]
      exact ⟨read ++ [f], hread.take, forall₂_concat hhanded (Or.inl rfl)⟩
    · intro slot hslot hinv
      obtain ⟨h₁, h₂, h₃, h₄, h₅⟩ := hs.reserved slot hslot hinv
      refine ⟨by simpa using h₁, by simpa using h₂, ?_, ?_, ?_⟩
      · have := FrameQueue.popInternal_size s.queue
        simp only [FrameQueue.popInternal_maxSize]
        omega
      · rw [← List.length_pos_iff, FrameQueue.popInternal_length, List.length_pos_iff]
        exact h₄
      · intro g hg
        subst h₂
        rw [FrameQueue.getElem?_tail_popInternal hs.wellFormed h₄ h₃]
        exact h₅ g hg
    · intro hinv
      have := (hs.stale hinv).2.1
      omega

theorem inv_clear {s : State π} (hs : Inv s) :
    Inv { s with queue := s.queue.clear
                 invalidated :=
                   s.invalidated || s.reserved.isSome && clearsSlots s.queue } := by
  by_cases hskip : s.queue.head = s.queue.tail ∧ s.queue.size = 0
  · have hclear : s.queue.clear = s.queue := if_pos hskip
    have hslots : clearsSlots s.queue = false := by simp [clearsSlots, hskip]
    rw [hclear, hslots, Bool.and_false, Bool.or_false]
    exact hs
  · have hslots : clearsSlots s.queue = true := by
      simpa [clearsSlots, imp_iff_not_or] using hskip
    refine ⟨hs.wellFormed.clear, ?_, ?_, ?_⟩
    · simp only [FrameQueue.frames_clear, FrameQueue.clear_keepLast]
      obtain ⟨read, hread, hhanded⟩ := hs.log
      exact ⟨read, hread.skip, hhanded⟩
    · intro slot hslot hinv
      rw [hslot, hslots] at hinv
      simp at hinv
    · intro hinv
      have hne : s.queue.queue ≠ [] := by
        by_cases hold : s.invalidated = true
        · exact (hs.stale hold).2.2
        · obtain ⟨slot, hslot⟩ := Option.isSome_iff_exists.mp
            (by simpa [hold, hslots] using hinv : s.reserved.isSome = true)
          exact (hs.reserved slot hslot (by simpa using hold)).slots
      rw [FrameQueue.clear, if_neg hskip]
      refine ⟨rfl, rfl, ?_⟩
      rw [← List.length_pos_iff, FrameQueue.foldl_modify_length _
        (fun i => (s.queue.head + i) % s.queue.maxSize), List.length_pos_iff]
      exact hne

/-- A commit that the producer can make, and whether its slot is still reserved. -/
theorem commitFrame_cases {s s' : State π} (hs : Inv s) (h : step s .commitFrame = some s') :
    (∃ slot f, s.reserved = some slot ∧ s.written = some f ∧ s.invalidated = false ∧
        s.queue.pendingWriteIndex ≠ -1 ∧
        s' = { s with queue := s.queue.commitFrame
                      reserved := none
                      written := none
                      invalidated := false
                      committed := s.committed ++ [f] }) ∨
      s.invalidated = true ∧ s.queue.pendingWriteIndex = -1 ∧ s'.queue.frames ≠ s.queue.frames := by
  cases hslot : s.reserved with
  | none => simp [step, hslot] at h
  | some slot =>
    cases hf : s.written with
    | none => simp [step, hslot, hf] at h
    | some f =>
      simp only [step, hslot, hf, Option.some.injEq] at h
      cases hinv : s.invalidated with
      | false =>
        left
        have hpending := (hs.reserved slot hslot hinv).pending
        rw [hinv] at h
        exact ⟨slot, f, rfl, rfl, rfl, by omega, h.symm⟩
      | true =>
        right
        obtain ⟨hpending, hsize, hslots⟩ := hs.stale hinv
        refine ⟨rfl, hpending, fun heq => ?_⟩
        have hlen := congrArg List.length heq
        rw [← h, FrameQueue.frames, FrameQueue.frames, Ring.contents_length hslots,
          Ring.contents_length (by exact hslots)] at hlen
        simp [FrameQueue.commitFrame] at hlen

theorem inv_step (s : State π) (a : Action π) (s' : State π) (hs : Inv s)
    (ha : CommitReserved s a s') (h : step s a = some s') : Inv s' := by
  cases a with
  | getWritableFrame =>
    rw [step, Option.some.injEq] at h
    exact h ▸ inv_getWritableFrame hs
  | write f =>
    obtain ⟨slot, hslot, rfl⟩ := Option.map_eq_some_iff.mp h
    exact inv_write hs hslot f
  | commitFrame =>
    rcases commitFrame_cases hs h with ⟨slot, f, hslot, hf, hinv, _, rfl⟩ | ⟨_, hpending, _⟩
    · exact inv_commitFrame hs hslot hf hinv
    · exact absurd hpending (ha rfl)
  | pop ref =>
    rw [step, Option.some.injEq] at h
    exact h ▸ inv_pop hs ref
  | clear =>
    rw [step, Option.some.injEq] at h
    exact h ▸ inv_clear hs

/-- Two-phase writes publish what was written, for exactly the runs in which every commit
finds its reservation. -/
theorem twoPhase_publishes_iff (maxSize : ℕ) (keepLast autoInit : Bool)
    (actions : List (Action π)) :
    let start := State.start (FrameQueue.new maxSize keepLast autoInit : FrameQueue π)
    Each step (fun s a s' => PopsCommitted s' ∧ StaleCommitSilent s a s') start actions ↔
      Each step CommitReserved start actions := by
  refine each_iff (fun s a s' hs h => ?_) inv_step actions
    (inv_start maxSize keepLast autoInit)
  constructor
  · rintro ⟨_, hsilent⟩ rfl
    rcases commitFrame_cases hs h with ⟨_, _, _, _, _, hpending, _⟩ | ⟨hinv, _, hframes⟩
    · exact hpending
    · exact absurd (hsilent rfl hinv) hframes
  · intro ha
    obtain ⟨read, hread, hhanded⟩ := (inv_step s a s' hs ha h).log
    refine ⟨⟨read, hread.readInOrder, hhanded⟩, ?_⟩
    rintro rfl hinv
    rcases commitFrame_cases hs h with ⟨_, _, _, _, hvalid, _⟩ | ⟨_, hpending, _⟩
    · rw [hvalid] at hinv
      simp at hinv
    · exact absurd hpending (ha rfl)

/-- The producer holds slot 1 when the queue, holding one frame, is cleared; its commit then
publishes slot 0, which the clear has emptied. -/
theorem twoPhase_publishes_fails :
    let f : Frame ℕ := ⟨.data 1, 0, 0, 0, some .video, []⟩
    let g : Frame ℕ := ⟨.data 2, 0, 0, 0, some .video, []⟩
    let start := State.start (FrameQueue.new 3 false true : FrameQueue ℕ)
    ¬Each step (fun s a s' => PopsCommitted s' ∧ StaleCommitSilent s a s') start
      [.getWritableFrame, .write f, .commitFrame, .getWritableFrame, .write g, .clear,
        .commitFrame, .pop true] := by
  intro f g start h
  have hsilent := h.mono fun s a s' (hs : PopsCommitted s' ∧ StaleCommitSilent s a s') => hs.2
  revert hsilent
  unfold StaleCommitSilent
  decide

end DecoderSDK.TwoPhase
