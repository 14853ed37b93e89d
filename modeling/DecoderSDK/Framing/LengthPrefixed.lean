import Mathlib.Tactic

/-! # Length-prefixed units

Units are written one after the other, each behind a field of fixed width that
holds its length. Every buffer is such a sequence followed by a rest in which no
further unit is complete, and a buffer that is short enough is so in only one
way.
-/
namespace DecoderSDK.Framing

/-- A code for lengths below a limit: every word of the width is the field of one length. -/
structure LengthCode (α : Type*) where
  width : ℕ
  limit : ℕ
  field : ℕ → List α
  value : List α → ℕ
  field_length : ∀ n, (field n).length = width
  value_field : ∀ n < limit, value (field n) = n
  field_value : ∀ word, word.length = width → field (value word) = word

namespace LengthCode
variable {α : Type*} (code : LengthCode α)

/-- Every unit behind its length. -/
def frames (units : List (List α)) : List α := units.flatMap fun u => code.field u.length ++ u

/-- No further unit is complete: the field is cut off, or it asks for more than there is. -/
def Stuck (rest : List α) : Prop :=
  rest.length < code.width ∨ (rest.drop code.width).length < code.value (rest.take code.width)

/-- The buffer is made of the units and a rest without a complete unit. -/
def Splits (data : List α) (units : List (List α)) : Prop :=
  ∃ rest, data = code.frames units ++ rest ∧ code.Stuck rest

theorem frames_cons (u : List α) (units : List (List α)) (rest : List α) :
    code.frames (u :: units) ++ rest =
      code.field u.length ++ (u ++ (code.frames units ++ rest)) := by
  simp [frames]

theorem take_field (n : ℕ) (rest : List α) :
    (code.field n ++ rest).take code.width = code.field n := by
  rw [← code.field_length n, List.take_left]

theorem drop_field (n : ℕ) (rest : List α) : (code.field n ++ rest).drop code.width = rest := by
  rw [← code.field_length n, List.drop_left]

theorem length_le_of_mem {units : List (List α)} {u : List α} (hu : u ∈ units) :
    u.length ≤ (code.frames units).length := by
  induction units with
  | nil => cases hu
  | cons v units ih =>
    have hcons : code.frames (v :: units) = code.field v.length ++ (v ++ code.frames units) := by
      simpa using code.frames_cons v units []
    rw [hcons, List.length_append, List.length_append]
    rcases List.mem_cons.mp hu with rfl | hmem
    · omega
    · have hrest := ih hmem
      omega

theorem length_le_frames (hwidth : 0 < code.width) (units : List (List α)) :
    units.length ≤ (code.frames units).length := by
  induction units with
  | nil => rfl
  | cons u units ih =>
    have hcons : code.frames (u :: units) = code.field u.length ++ (u ++ code.frames units) := by
      simpa using code.frames_cons u units []
    rw [hcons, List.length_cons, List.length_append, List.length_append, code.field_length]
    omega

variable {code}

/-- What is not stuck begins with a unit. -/
theorem exists_unit {data : List α} (h : ¬ code.Stuck data) :
    ∃ u rest, data = code.field u.length ++ (u ++ rest) := by
  rw [Stuck, not_or, not_lt, not_lt] at h
  have hfield : (data.take code.width).length = code.width := by
    rw [List.length_take, min_eq_left h.1]
  have hunit : ((data.drop code.width).take (code.value (data.take code.width))).length =
      code.value (data.take code.width) := by
    rw [List.length_take, min_eq_left h.2]
  refine ⟨(data.drop code.width).take (code.value (data.take code.width)),
    (data.drop code.width).drop (code.value (data.take code.width)), ?_⟩
  rw [hunit, code.field_value _ hfield, List.take_append_drop, List.take_append_drop]

theorem not_stuck_unit {u : List α} (hu : u.length < code.limit) (rest : List α) :
    ¬ code.Stuck (code.field u.length ++ (u ++ rest)) := by
  rw [Stuck, take_field, drop_field, code.value_field _ hu, List.length_append,
    List.length_append, code.field_length]
  omega

theorem unit_injective {u v rest rest' : List α} (hu : u.length < code.limit)
    (hv : v.length < code.limit)
    (h : code.field u.length ++ (u ++ rest) = code.field v.length ++ (v ++ rest')) :
    u = v ∧ rest = rest' := by
  have hfield : code.field u.length = code.field v.length := by
    rw [← code.take_field u.length (u ++ rest), h, take_field]
  have hlength : u.length = v.length := by
    rw [← code.value_field _ hu, hfield, code.value_field _ hv]
  rw [hfield] at h
  exact List.append_inj (List.append_cancel_left h) hlength

theorem exists_splits (hwidth : 0 < code.width) (data : List α) :
    ∃ units, code.Splits data units := by
  induction hlen : data.length using Nat.strong_induction_on generalizing data with
  | _ n ih =>
    by_cases hstuck : code.Stuck data
    · exact ⟨[], data, rfl, hstuck⟩
    · rcases exists_unit hstuck with ⟨u, rest, hdata⟩
      have hshorter : rest.length < n := by
        rw [← hlen, hdata, List.length_append, List.length_append, code.field_length]
        omega
      rcases ih rest.length hshorter rest rfl with ⟨units, tail, hrest, htail⟩
      refine ⟨u :: units, tail, ?_, htail⟩
      rw [frames_cons, ← hrest]
      exact hdata

/-- Two splittings agree when every unit has a length below the limit. -/
theorem frames_injective {units units' : List (List α)} {rest rest' : List α}
    (hstuck : code.Stuck rest) (hstuck' : code.Stuck rest')
    (hfits : ∀ u ∈ units, u.length < code.limit)
    (hfits' : ∀ u ∈ units', u.length < code.limit)
    (h : code.frames units ++ rest = code.frames units' ++ rest') : units = units' := by
  induction units generalizing units' with
  | nil =>
    cases units' with
    | nil => rfl
    | cons v units' =>
      rw [frames_cons] at h
      change rest = _ at h
      rw [h] at hstuck
      exact absurd hstuck (not_stuck_unit (hfits' v List.mem_cons_self) _)
  | cons u units ih =>
    cases units' with
    | nil =>
      rw [frames_cons] at h
      change _ = rest' at h
      rw [← h] at hstuck'
      exact absurd hstuck' (not_stuck_unit (hfits u List.mem_cons_self) _)
    | cons v units' =>
      rw [frames_cons, frames_cons] at h
      rcases unit_injective (hfits u List.mem_cons_self) (hfits' v List.mem_cons_self) h with
        ⟨rfl, htail⟩
      have hunits := ih (fun w hw => hfits w (List.mem_cons_of_mem u hw))
        (fun w hw => hfits' w (List.mem_cons_of_mem u hw)) htail
      rw [hunits]

/-- A buffer that is shorter than the limit splits in only one way. -/
theorem Splits.unique {data : List α} (hdata : data.length < code.limit)
    {units units' : List (List α)} (h : code.Splits data units) (h' : code.Splits data units') :
    units = units' := by
  rcases h with ⟨rest, hunits, hstuck⟩
  rcases h' with ⟨rest', hunits', hstuck'⟩
  have hfits {us : List (List α)} {r : List α} (hsplit : data = code.frames us ++ r) :
      ∀ u ∈ us, u.length < code.limit := by
    intro u hu
    have hle : u.length ≤ (code.frames us).length := code.length_le_of_mem hu
    rw [hsplit, List.length_append] at hdata
    omega
  exact frames_injective hstuck hstuck' (hfits hunits) (hfits hunits')
    (hunits.symm.trans hunits')

end LengthCode

end DecoderSDK.Framing
