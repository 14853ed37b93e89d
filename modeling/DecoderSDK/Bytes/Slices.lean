import DecoderSDK.Bytes.Checked

/-! # Parts cut out of a buffer

Parts of a buffer that lie in it one after the other, each read through a
bounds check. A loop that cuts them out keeps the end of its last part.
-/
namespace DecoderSDK.Bytes

variable {α : Type*}

/-- Every part is a range of the buffer, each starts where the one before has ended or later,
and none reaches beyond `last`. -/
def SlicesUpTo (data : List α) (last : ℕ) (parts : List (List α)) : Prop :=
  ∃ places : List (ℕ × ℕ),
    List.Forall₂ (fun place part => range data place.1 place.2 = some part) places parts ∧
      places.Pairwise (fun p q => p.2 ≤ q.1) ∧ ∀ place ∈ places, place.2 ≤ last

/-- The parts are contiguous, disjoint and in the order of the buffer. -/
def Slices (data : List α) (parts : List (List α)) : Prop := SlicesUpTo data data.length parts

theorem range_bounds {data part : List α} {first last : ℕ} (h : range data first last = some part) :
    first ≤ last ∧ last ≤ data.length := by
  unfold range at h
  split_ifs at h with hbounds
  exact hbounds

theorem slicesUpTo_nil (data : List α) (last : ℕ) : SlicesUpTo data last [] :=
  ⟨[], .nil, .nil, by simp⟩

theorem SlicesUpTo.mono {data : List α} {parts : List (List α)} {last last' : ℕ}
    (h : SlicesUpTo data last parts) (hle : last ≤ last') : SlicesUpTo data last' parts := by
  obtain ⟨places, hplaces, horder, hlast⟩ := h
  exact ⟨places, hplaces, horder, fun place hplace => (hlast place hplace).trans hle⟩

/-- The end of the last part is inside the buffer anyway. -/
theorem SlicesUpTo.slices {data : List α} {parts : List (List α)} {last : ℕ}
    (h : SlicesUpTo data last parts) : Slices data parts := by
  obtain ⟨places, hplaces, horder, -⟩ := h
  refine ⟨places, hplaces, horder, fun place hplace => ?_⟩
  obtain ⟨i, hi, rfl⟩ := List.mem_iff_getElem.mp hplace
  have hparts : i < parts.length := by
    rw [← hplaces.length_eq]
    exact hi
  exact (range_bounds (hplaces.get hi hparts)).2

theorem SlicesUpTo.concat {data : List α} {parts : List (List α)} {part : List α}
    {pos first last : ℕ} (h : SlicesUpTo data pos parts) (hpos : pos ≤ first)
    (hpart : range data first last = some part) : SlicesUpTo data last (parts ++ [part]) := by
  obtain ⟨places, hplaces, horder, hlast⟩ := h
  have hle := (range_bounds hpart).1
  refine ⟨places ++ [(first, last)], ?_, ?_, ?_⟩
  · apply List.rel_append hplaces
    exact .cons hpart .nil
  · rw [List.pairwise_append]
    refine ⟨horder, by simp, fun p hp q hq => ?_⟩
    rw [List.mem_singleton.mp hq]
    exact (hlast p hp).trans hpos
  · intro place hplace
    rcases List.mem_append.mp hplace with hplace | hplace
    · exact (hlast place hplace).trans (hpos.trans hle)
    · rw [List.mem_singleton.mp hplace]

theorem Slices.exists_range {data : List α} {parts : List (List α)} (h : Slices data parts)
    {part : List α} (hpart : part ∈ parts) : ∃ first last, range data first last = some part := by
  obtain ⟨places, hplaces, -, -⟩ := h
  obtain ⟨i, hi, rfl⟩ := List.mem_iff_getElem.mp hpart
  have hi' : i < places.length := by
    rw [hplaces.length_eq]
    exact hi
  exact ⟨_, _, hplaces.get hi' hi⟩

end DecoderSDK.Bytes
