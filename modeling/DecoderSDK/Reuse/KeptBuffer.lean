import Mathlib.Tactic

/-! # Results in a kept buffer

A producer keeps a buffer. It writes the next result into the same buffer or
into a new one, and hands out a reference to it, so that a result stands only
as long as nothing else is written into its buffer. What is written need not
become a result.
-/
namespace DecoderSDK.Reuse

/-- The producer, with what every buffer was taken for, the number of the result that stands in it,
and the buffers of the results so far. -/
structure Kept (β : Type*) where
  next : ℕ
  current : Option ℕ
  taken : ℕ → Option β
  written : ℕ → Option ℕ
  handed : List ℕ

namespace Kept
variable {β : Type*}

def empty : Kept β := ⟨0, none, fun _ => none, fun _ => none, []⟩

def drop (k : Kept β) : Kept β := { k with current := none }

/-- A new buffer is kept from now on. -/
def renew (k : Kept β) (b : β) : Kept β :=
  { k with
    next := k.next + 1
    current := some k.next
    taken := Function.update k.taken k.next (some b) }

/-- The kept buffer is written, and no result stands in it any more. -/
def spoil (k : Kept β) : Kept β :=
  match k.current with
  | none => k
  | some c => { k with written := Function.update k.written c none }

/-- The next result is written into the kept buffer and handed out. -/
def write (k : Kept β) : Kept β :=
  match k.current with
  | none => k
  | some c =>
    { k with
      written := Function.update k.written c (some k.handed.length)
      handed := k.handed ++ [c] }

/-- The result stands in its buffer. -/
def Intact (k : Kept β) (i : ℕ) : Prop := ∃ c, k.handed[i]? = some c ∧ k.written c = some i

/-- The kept buffer and those of the results were taken before. -/
structure Sound (k : Kept β) : Prop where
  below : ∀ c ∈ k.handed, c < k.next
  current : ∀ c, k.current = some c → c < k.next

theorem empty_sound : (empty : Kept β).Sound where
  below _ h := absurd h List.not_mem_nil
  current _ h := nomatch h

variable {k : Kept β}

theorem Sound.drop (h : k.Sound) : k.drop.Sound where
  below := h.below
  current _ hc := nomatch hc

theorem Sound.renew (h : k.Sound) (b : β) : (k.renew b).Sound where
  below c hc := (h.below c hc).trans (Nat.lt_succ_self _)
  current _ hc := Option.some.inj hc ▸ Nat.lt_succ_self _

theorem spoil_of_current {c : ℕ} (hc : k.current = some c) :
    k.spoil = { k with written := Function.update k.written c none } := by
  unfold spoil
  rw [hc]

theorem write_of_current {c : ℕ} (hc : k.current = some c) :
    k.write = { k with
      written := Function.update k.written c (some k.handed.length)
      handed := k.handed ++ [c] } := by
  unfold write
  rw [hc]

@[simp] theorem spoil_handed : k.spoil.handed = k.handed := by
  unfold spoil
  split <;> rfl

@[simp] theorem spoil_current : k.spoil.current = k.current := by
  unfold spoil
  split <;> rfl

@[simp] theorem spoil_taken : k.spoil.taken = k.taken := by
  unfold spoil
  split <;> rfl

@[simp] theorem spoil_next : k.spoil.next = k.next := by
  unfold spoil
  split <;> rfl

@[simp] theorem write_current : k.write.current = k.current := by
  unfold write
  split <;> rfl

@[simp] theorem write_taken : k.write.taken = k.taken := by
  unfold write
  split <;> rfl

@[simp] theorem write_next : k.write.next = k.next := by
  unfold write
  split <;> rfl

theorem Sound.spoil (h : k.Sound) : k.spoil.Sound where
  below := by simpa using h.below
  current := by simpa using h.current

theorem Sound.write (h : k.Sound) : k.write.Sound where
  below := by
    cases hc : k.current with
    | none =>
      rw [Kept.write, hc]
      exact h.below
    | some c =>
      rw [write_of_current hc]
      intro d hd
      rcases List.mem_append.mp hd with hd | hd
      · exact h.below d hd
      · exact List.mem_singleton.mp hd ▸ h.current c hc
  current := by simpa using h.current

/-- The new result stands. -/
theorem intact_write {c : ℕ} (hc : k.current = some c) : k.write.Intact k.handed.length := by
  rw [write_of_current hc]
  exact ⟨c, by simp, Function.update_self ..⟩

theorem handed_write {i d : ℕ} (hi : k.handed[i]? = some d) : k.write.handed[i]? = some d := by
  unfold write
  split
  · exact hi
  · rw [List.getElem?_append_left (List.getElem?_eq_some_iff.mp hi).1, hi]

theorem intact_iff {i d : ℕ} (hi : k.handed[i]? = some d) : k.Intact i ↔ k.written d = some i := by
  constructor
  · rintro ⟨c, hc, hwritten⟩
    rwa [Option.some.inj (hi.symm.trans hc)]
  · intro hwritten
    exact ⟨d, hi, hwritten⟩

/-- What is written into another buffer leaves a result as it is. -/
theorem intact_spoil_of_ne {i d : ℕ} (hi : k.handed[i]? = some d) (hd : k.current ≠ some d) :
    k.spoil.Intact i ↔ k.Intact i := by
  rw [intact_iff (by simpa using hi), intact_iff hi]
  cases hc : k.current with
  | none => rw [spoil, hc]
  | some c =>
    have hne : d ≠ c := by
      rintro rfl
      exact hd hc
    simp only [spoil_of_current hc, Function.update_of_ne hne]

theorem intact_write_of_ne {i d : ℕ} (hi : k.handed[i]? = some d) (hd : k.current ≠ some d) :
    k.write.Intact i ↔ k.Intact i := by
  rw [intact_iff (handed_write hi), intact_iff hi]
  cases hc : k.current with
  | none => rw [write, hc]
  | some c =>
    have hne : d ≠ c := by
      rintro rfl
      exact hd hc
    simp only [write_of_current hc, Function.update_of_ne hne]

/-- What is written into its buffer ends a result. -/
theorem not_intact_spoil {i d : ℕ} (hi : k.handed[i]? = some d) (hd : k.current = some d) :
    ¬k.spoil.Intact i := by
  rw [intact_iff (by simpa using hi)]
  simp [spoil_of_current hd]

theorem not_intact_write {i d : ℕ} (hi : k.handed[i]? = some d) (hd : k.current = some d) :
    ¬k.write.Intact i := by
  rw [intact_iff (handed_write hi)]
  simp only [write_of_current hd, Function.update_self, Option.some.injEq]
  exact (List.getElem?_eq_some_iff.mp hi).1.ne'

/-- A new buffer is not that of a result. -/
theorem Sound.renew_current_ne (h : k.Sound) (b : β) {i d : ℕ} (hi : k.handed[i]? = some d) :
    (k.renew b).current ≠ some d := by
  intro heq
  have hlt := h.below d (List.mem_of_getElem? hi)
  exact hlt.ne' (Option.some.inj heq)

end Kept

end DecoderSDK.Reuse
