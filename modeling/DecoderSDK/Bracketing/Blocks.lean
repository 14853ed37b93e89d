import Mathlib.Tactic

/-! # Bracketed logs

A log of attempts: each one is announced, then fails or succeeds, and what
succeeded is ended before the next attempt. A bracketed log is a sequence of
whole blocks, of which the last may still lack its end.
-/
namespace DecoderSDK.Bracketing

/-- An entry of a log, with what it is about. -/
inductive Mark (α : Type*) where
  | announced (a : α)
  | failed (a : α)
  | begun (a : α)
  | ended (a : α)
  deriving DecidableEq

inductive Block (α : Type*) where
  | failed (a : α)
  | whole (a : α)

variable {α : Type*}

def Block.marks : Block α → List (Mark α)
  | .failed a => [.announced a, .failed a]
  | .whole a => [.announced a, .begun a, .ended a]

/-- A sequence of whole blocks. -/
def Balanced (log : List (Mark α)) : Prop :=
  ∃ blocks : List (Block α), log = blocks.flatMap Block.marks

/-- Whole blocks and one that has not ended. -/
def Pending (a : α) (log : List (Mark α)) : Prop :=
  ∃ whole, Balanced whole ∧ log = whole ++ [.announced a, .begun a]

def Bracketed (log : List (Mark α)) : Prop := Balanced log ∨ ∃ a, Pending a log

/-- How the attempts of a log came out. -/
def outcomes (log : List (Mark α)) : List (α × Bool) :=
  log.filterMap fun
    | .begun a => some (a, true)
    | .failed a => some (a, false)
    | _ => none

@[simp] theorem outcomes_append (log log' : List (Mark α)) :
    outcomes (log ++ log') = outcomes log ++ outcomes log' := by
  simp [outcomes]

theorem balanced_nil : Balanced ([] : List (Mark α)) := ⟨[], rfl⟩

theorem Balanced.append_block {log : List (Mark α)} (h : Balanced log) (block : Block α) :
    Balanced (log ++ block.marks) := by
  rcases h with ⟨blocks, rfl⟩
  exact ⟨blocks ++ [block], by simp⟩

theorem Balanced.begin {log : List (Mark α)} (h : Balanced log) (a : α) :
    Pending a (log ++ [.announced a, .begun a]) := ⟨log, h, rfl⟩

theorem Pending.end {a : α} {log : List (Mark α)} (h : Pending a log) :
    Balanced (log ++ [.ended a]) := by
  rcases h with ⟨whole, hwhole, rfl⟩
  simpa [Block.marks] using hwhole.append_block (.whole a)

/-- An end next to a beginning ends what was begun. -/
def Matched : Mark α → Mark α → Prop
  | .begun a, .ended b => a = b
  | _, _ => True

theorem Block.marks_isChain (block : Block α) : block.marks.IsChain Matched := by
  cases block with
  | failed a => simp [marks, Matched]
  | whole a => simp [marks, Matched]

/-- After a block that is over, nothing has begun. -/
theorem Balanced.not_begun {log : List (Mark α)} (h : Balanced log) {mark : Mark α}
    (hlast : mark ∈ log.getLast?) (next : Mark α) : Matched mark next := by
  rcases h with ⟨blocks, rfl⟩
  cases blocks using List.reverseRecOn with
  | nil => simp at hlast
  | append_singleton blocks block =>
    cases block with
    | failed a =>
      simp [Block.marks] at hlast
      subst hlast
      trivial
    | whole a =>
      simp [Block.marks] at hlast
      subst hlast
      trivial

theorem Balanced.append_isChain {log log' : List (Mark α)} (h : Balanced log)
    (hchain : log.IsChain Matched) (hchain' : log'.IsChain Matched) :
    (log ++ log').IsChain Matched := by
  rw [List.isChain_append]
  exact ⟨hchain, hchain', fun mark hlast next _ => h.not_begun hlast next⟩

theorem Balanced.isChain {log : List (Mark α)} (h : Balanced log) : log.IsChain Matched := by
  rcases h with ⟨blocks, rfl⟩
  induction blocks using List.reverseRecOn with
  | nil => simp
  | append_singleton blocks block ih =>
    rw [List.flatMap_append]
    apply Balanced.append_isChain ⟨blocks, rfl⟩ ih
    simpa using block.marks_isChain

/-- In a bracketed log, every end next to a beginning ends what was begun. -/
theorem Bracketed.isChain {log : List (Mark α)} (h : Bracketed log) : log.IsChain Matched := by
  rcases h with hbalanced | ⟨a, whole, hwhole, rfl⟩
  · exact hbalanced.isChain
  · apply hwhole.append_isChain hwhole.isChain
    simp [Matched]

end DecoderSDK.Bracketing
