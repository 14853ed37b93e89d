import Mathlib.Tactic

/-! # Giving up after a deadline

An operation is tried again and again. The first failure after a success
starts a clock, what is neither a failure nor a success leaves the clock
alone, and a failure is overdue when the clock has reached the limit.
-/
namespace DecoderSDK.Retrying

inductive Attempt where
  | success
  | neutral
  | failure (time : ℕ)
  deriving DecidableEq

/-- The clock after an attempt. -/
def Attempt.clock (start : Option ℕ) : Attempt → Option ℕ
  | .success => none
  | .neutral => start
  | .failure time => some (start.getD time)

/-- When the first failure after the last success was. -/
def since (attempts : List Attempt) : Option ℕ := attempts.foldl Attempt.clock none

/-- The clock has reached the limit when an attempt fails now. -/
def Overdue (limit : ℕ) (attempts : List Attempt) (now : ℕ) : Prop :=
  limit ≤ now - (since attempts).getD now

instance (limit : ℕ) (attempts : List Attempt) (now : ℕ) : Decidable (Overdue limit attempts now) :=
  inferInstanceAs (Decidable (_ ≤ _))

def times (attempts : List Attempt) : List ℕ :=
  attempts.filterMap fun
    | .failure time => some time
    | _ => none

@[simp] theorem times_nil : times [] = [] := rfl

@[simp] theorem times_append (attempts attempts' : List Attempt) :
    times (attempts ++ attempts') = times attempts ++ times attempts' :=
  List.filterMap_append

@[simp] theorem times_failure (t : ℕ) (attempts : List Attempt) :
    times (.failure t :: attempts) = t :: times attempts := rfl

@[simp] theorem since_nil : since [] = none := rfl

theorem since_snoc (attempts : List Attempt) (a : Attempt) :
    since (attempts ++ [a]) = a.clock (since attempts) := by
  rw [since, List.foldl_append]
  rfl

/-- The clock shows a failure that no success made good. -/
theorem since_some {attempts : List Attempt} {t : ℕ} (h : since attempts = some t) :
    ∃ before after, attempts = before ++ .failure t :: after ∧ .success ∉ after := by
  induction attempts using List.reverseRecOn with
  | nil => contradiction
  | append_singleton attempts a ih =>
    rw [since_snoc] at h
    cases a with
    | success => contradiction
    | neutral =>
      rcases ih h with ⟨before, after, rfl, hafter⟩
      exact ⟨before, after ++ [.neutral], by simp, by simp [hafter]⟩
    | failure time =>
      cases hs : since attempts with
      | none =>
        rw [hs] at h
        cases h
        exact ⟨attempts, [], rfl, List.not_mem_nil⟩
      | some start =>
        rw [hs] at h
        cases h
        rcases ih hs with ⟨before, after, rfl, hafter⟩
        exact ⟨before, after ++ [.failure time], by simp, by simp [hafter]⟩

/-- A failure that no success made good is not before the one the clock shows. -/
theorem since_le {attempts before after : List Attempt} {t : ℕ}
    (hsorted : (times attempts).Pairwise (· ≤ ·))
    (heq : attempts = before ++ .failure t :: after) (hafter : .success ∉ after) :
    ∃ start, since attempts = some start ∧ start ≤ t := by
  induction after using List.reverseRecOn generalizing attempts with
  | nil =>
    rw [heq, since_snoc]
    cases hs : since before with
    | none => exact ⟨t, rfl, le_rfl⟩
    | some start =>
      refine ⟨start, rfl, ?_⟩
      rcases since_some hs with ⟨before', after', rfl, -⟩
      have hpair : (start :: (times after' ++ [t])).Pairwise (· ≤ ·) := by
        refine List.Pairwise.sublist ?_ hsorted
        rw [heq, times_append, times_append, List.append_assoc]
        exact List.sublist_append_right _ _
      exact List.rel_of_pairwise_cons hpair (by simp)
  | append_singleton after a ih =>
    have hsorted' : (times (before ++ .failure t :: after)).Pairwise (· ≤ ·) := by
      refine List.Pairwise.sublist ?_ hsorted
      rw [heq, ← List.cons_append, ← List.append_assoc, times_append _ [a]]
      exact List.sublist_append_left _ _
    rw [List.mem_append, not_or, List.mem_singleton] at hafter
    rcases ih hsorted' rfl hafter.1 with ⟨start, hstart, hle⟩
    rw [heq, ← List.cons_append, ← List.append_assoc, since_snoc, hstart]
    cases a with
    | success => exact absurd rfl hafter.2
    | neutral => exact ⟨start, rfl, hle⟩
    | failure time => exact ⟨start, rfl, hle⟩

/-- A failure is overdue when some failure in the same row is at least the limit ago. -/
theorem overdue_iff {limit : ℕ} {attempts : List Attempt} {now : ℕ}
    (hsorted : (times (attempts ++ [.failure now])).Pairwise (· ≤ ·)) :
    Overdue limit attempts now ↔
      ∃ before t after, attempts ++ [.failure now] = before ++ .failure t :: after ∧
        .success ∉ after ∧ t + limit ≤ now := by
  constructor
  · intro h
    rw [Overdue] at h
    cases hs : since attempts with
    | none =>
      rw [hs, Option.getD_none] at h
      exact ⟨attempts, now, [], rfl, List.not_mem_nil, by omega⟩
    | some start =>
      rcases since_some hs with ⟨before, after, rfl, hafter⟩
      have hle : start ≤ now := by
        rw [times_append, List.pairwise_append] at hsorted
        exact hsorted.2.2 start (by simp) now (by simp)
      rw [hs, Option.getD_some] at h
      exact ⟨before, start, after ++ [.failure now], by simp, by simp [hafter], by omega⟩
  · rintro ⟨before, t, after, heq, hafter, hle⟩
    rcases since_le hsorted heq hafter with ⟨start, hstart, hstart_le⟩
    rw [since_snoc] at hstart
    have hnow : (since attempts).getD now = start := Option.some.inj hstart
    rw [Overdue, hnow]
    omega

end DecoderSDK.Retrying
