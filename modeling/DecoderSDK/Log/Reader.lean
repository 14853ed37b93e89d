import Mathlib.Tactic

/-! # Readers of a log

A log only grows. A reader takes its entries in order and may skip some of
them; a reader that is allowed to look again may return the entry at its
position several times. `Pending` relates the log and what was read to the
entries still in front of the reader.
-/
namespace DecoderSDK.Log

variable {α : Type*}

/-- How the positions of two consecutive reads compare. -/
def Before (again : Bool) (i j : ℕ) : Prop := if again then i ≤ j else i < j

/-- What was read is read off the log at positions that never go back. -/
def ReadInOrder (again : Bool) (log read : List α) : Prop :=
  ∃ positions : List ℕ, positions.Pairwise (Before again) ∧
    read.map some = positions.map (log[·]?)

/-- The entries in front of the reader are a suffix of the log behind all reads. -/
def Pending (again : Bool) (log read rest : List α) : Prop :=
  ∃ k ≤ log.length, rest = log.drop k ∧
    ∃ positions : List ℕ, positions.Pairwise (Before again) ∧
      (∀ i ∈ positions, i < log.length ∧ Before again i k) ∧
      read.map some = positions.map (log[·]?)

variable {again : Bool} {log read rest : List α}

theorem Pending.readInOrder (h : Pending again log read rest) : ReadInOrder again log read := by
  obtain ⟨_, _, _, positions, hpairs, _, hread⟩ := h
  exact ⟨positions, hpairs, hread⟩

theorem pending_nil (again : Bool) : Pending again ([] : List α) [] [] :=
  ⟨0, le_refl 0, rfl, [], List.Pairwise.nil, by simp, rfl⟩

theorem Before.trans_le {i j k : ℕ} (hij : Before again i j) (hjk : j ≤ k) : Before again i k := by
  unfold Before at hij ⊢
  split_ifs at hij ⊢ <;> omega

/-- A new entry of the log is the last one in front of the reader. -/
theorem Pending.append (h : Pending again log read rest) (x : α) :
    Pending again (log ++ [x]) read (rest ++ [x]) := by
  obtain ⟨k, hk, rfl, positions, hpairs, hbefore, hread⟩ := h
  refine ⟨k, ?_, (List.drop_append_of_le_length hk).symm, positions, hpairs, ?_, ?_⟩
  · simp only [List.length_append]
    omega
  · intro i hi
    refine ⟨?_, (hbefore i hi).2⟩
    have := (hbefore i hi).1
    simp only [List.length_append]
    omega
  · rw [hread]
    apply List.map_congr_left
    intro i hi
    exact (List.getElem?_append_left (hbefore i hi).1).symm

/-- Dropping everything in front of the reader moves it to the end of the log. -/
theorem Pending.skip (h : Pending again log read rest) : Pending again log read [] := by
  obtain ⟨k, hk, _, positions, hpairs, hbefore, hread⟩ := h
  refine ⟨log.length, le_refl _, List.drop_length.symm, positions, hpairs, ?_, hread⟩
  exact fun i hi => ⟨(hbefore i hi).1, (hbefore i hi).2.trans_le hk⟩

theorem pending_snoc {k : ℕ} {x : α} {positions : List ℕ} (hrest : x :: rest = log.drop k)
    (hpairs : positions.Pairwise (Before again))
    (hbefore : ∀ i ∈ positions, i < log.length ∧ Before again i k)
    (hread : read.map some = positions.map (log[·]?)) :
    k < log.length ∧ (positions ++ [k]).Pairwise (Before again) ∧
      (read ++ [x]).map some = (positions ++ [k]).map (log[·]?) := by
  have hx : log[k]? = some x := by
    rw [← List.head?_drop, ← hrest, List.head?_cons]
  refine ⟨(List.getElem?_eq_some_iff.mp hx).1, ?_, ?_⟩
  · rw [List.pairwise_append]
    refine ⟨hpairs, List.pairwise_singleton _ _, fun i hi j hj => ?_⟩
    rw [List.mem_singleton.mp hj]
    exact (hbefore i hi).2
  · simp [hread, hx]

/-- Reading the entry at the reader's position and moving on. -/
theorem Pending.take {x : α} (h : Pending again log read (x :: rest)) :
    Pending again log (read ++ [x]) rest := by
  obtain ⟨k, _, hrest, positions, hpairs, hbefore, hread⟩ := h
  obtain ⟨hlt, hpairs', hread'⟩ := pending_snoc hrest hpairs hbefore hread
  refine ⟨k + 1, hlt, ?_, positions ++ [k], hpairs', ?_, hread'⟩
  · rw [← List.tail_drop, ← hrest, List.tail_cons]
  · intro i hi
    rcases List.mem_append.mp hi with hi | hi
    · exact ⟨(hbefore i hi).1, (hbefore i hi).2.trans_le (Nat.le_succ k)⟩
    · rw [List.mem_singleton.mp hi]
      refine ⟨hlt, ?_⟩
      unfold Before
      split_ifs <;> omega

/-- Reading the entry at the reader's position without moving on. -/
theorem Pending.look {x : α} (h : Pending true log read (x :: rest)) :
    Pending true log (read ++ [x]) (x :: rest) := by
  obtain ⟨k, hk, hrest, positions, hpairs, hbefore, hread⟩ := h
  obtain ⟨hlt, hpairs', hread'⟩ := pending_snoc hrest hpairs hbefore hread
  refine ⟨k, hk, hrest, positions ++ [k], hpairs', ?_, hread'⟩
  intro i hi
  rcases List.mem_append.mp hi with hi | hi
  · exact hbefore i hi
  · rw [List.mem_singleton.mp hi]
    exact ⟨hlt, by simp [Before]⟩

end DecoderSDK.Log
