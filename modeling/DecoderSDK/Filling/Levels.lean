import Mathlib.Tactic

/-! # Buffers that fill and are never drained

A producer works off a list of events on a family of bounded buffers: it puts
an element in and waits for room, it offers one and drops it when there is no
room, or it tests the levels of all the buffers. When nobody takes anything
out, a test can succeed only if every element put in before it found room.
-/
namespace DecoderSDK.Filling

inductive Event (κ : Type*) where
  | put (k : κ)
  | offer (k : κ)
  | test

variable {κ : Type*} [DecidableEq κ] (cap : ℕ)

/-- The levels after one event. -/
def after (level : κ → ℕ) : Event κ → κ → ℕ
  | .put k => Function.update level k (level k + 1)
  | .offer k => if level k < cap then Function.update level k (level k + 1) else level
  | .test => level

/-- The producer gets past the event. -/
def hasRoom (level : κ → ℕ) : Event κ → Bool
  | .put k => level k < cap
  | _ => true

/-- The producer gets past all the events. -/
def fits (level : κ → ℕ) : List (Event κ) → Bool
  | [] => true
  | e :: events => hasRoom cap level e && fits (after cap level e) events

/-- Some test that the producer gets to finds the levels it is looking for. -/
def Reaches (goal : (κ → ℕ) → Bool) (level : κ → ℕ) (events : List (Event κ)) : Prop :=
  ∃ before rest, events = before ++ .test :: rest ∧ fits cap level before = true ∧
    goal (before.foldl (after cap) level) = true

/-- The search for such a test along the events. -/
def reaches (goal : (κ → ℕ) → Bool) (level : κ → ℕ) : List (Event κ) → Bool
  | [] => false
  | .put k :: events => level k < cap && reaches goal (after cap level (.put k)) events
  | .offer k :: events => reaches goal (after cap level (.offer k)) events
  | .test :: events => goal level || reaches goal level events

variable {cap}

theorem reaches_nil (goal : (κ → ℕ) → Bool) (level : κ → ℕ) : ¬Reaches cap goal level [] := by
  rintro ⟨before, rest, h, _⟩
  cases before <;> simp at h

/-- The test is the first event, or it comes later and the first event finds room. -/
theorem reaches_cons {goal : (κ → ℕ) → Bool} {level : κ → ℕ} {e : Event κ}
    {events : List (Event κ)} :
    Reaches cap goal level (e :: events) ↔ (e = .test ∧ goal level = true) ∨
      (hasRoom cap level e = true ∧ Reaches cap goal (after cap level e) events) := by
  constructor
  · rintro ⟨before, rest, h, hfits, hgoal⟩
    cases before with
    | nil =>
      simp only [List.nil_append, List.cons.injEq] at h
      exact Or.inl ⟨h.1, hgoal⟩
    | cons e' before =>
      simp only [List.cons_append, List.cons.injEq] at h
      rcases h with ⟨rfl, rfl⟩
      simp only [fits, Bool.and_eq_true] at hfits
      exact Or.inr ⟨hfits.1, before, rest, rfl, hfits.2, hgoal⟩
  · rintro (⟨rfl, hgoal⟩ | ⟨hroom, before, rest, rfl, hfits, hgoal⟩)
    · exact ⟨[], events, rfl, rfl, hgoal⟩
    · exact ⟨e :: before, rest, rfl, by simp [fits, hroom, hfits], hgoal⟩

theorem reaches_iff (goal : (κ → ℕ) → Bool) (level : κ → ℕ) (events : List (Event κ)) :
    reaches cap goal level events = true ↔ Reaches cap goal level events := by
  induction events generalizing level with
  | nil => simp [reaches, reaches_nil]
  | cons e events ih =>
    rw [reaches_cons]
    cases e with
    | put k => simp [reaches, hasRoom, ih]
    | offer k => simp [reaches, hasRoom, ih]
    | test => simp [reaches, hasRoom, after, ih]

end DecoderSDK.Filling
