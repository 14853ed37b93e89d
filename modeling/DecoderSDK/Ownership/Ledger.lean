import Mathlib.Tactic

/-! # A ledger of numbered things

Things are taken one after another. A thing that was taken is held, until it
is handed out, freed or lost; the ledger says which, and the things that are
held are told apart from it. An account is right when every thing is in
exactly one place.
-/
namespace DecoderSDK.Ownership

structure Ledger where
  taken : ℕ
  handed : List ℕ
  freed : List ℕ
  lost : List ℕ

namespace Ledger

def empty : Ledger := ⟨0, [], [], []⟩

def take (l : Ledger) : Ledger := { l with taken := l.taken + 1 }

def hand (l : Ledger) (bs : List ℕ) : Ledger := { l with handed := bs ++ l.handed }

def free (l : Ledger) (bs : List ℕ) : Ledger := { l with freed := bs ++ l.freed }

def lose (l : Ledger) (bs : List ℕ) : Ledger := { l with lost := bs ++ l.lost }

/-- Every thing that was taken is held or gone one way, and only once. -/
def Accounts (l : Ledger) (held : List ℕ) : Prop :=
  (held ++ l.handed ++ l.freed ++ l.lost).Perm (List.range l.taken)

variable {l : Ledger} {held bs : List ℕ}

theorem empty_accounts : empty.Accounts [] := List.Perm.refl _

theorem Accounts.perm (h : l.Accounts held) {held' : List ℕ} (hperm : held'.Perm held) :
    l.Accounts held' :=
  (((hperm.append_right _).append_right _).append_right _).trans h

theorem Accounts.take (h : l.Accounts held) : l.take.Accounts (l.taken :: held) := by
  have hrange : (l.taken :: List.range l.taken).Perm (List.range (l.taken + 1)) := by
    rw [List.range_succ]
    exact (List.perm_append_singleton _ _).symm
  exact (h.cons l.taken).trans hrange

theorem Accounts.hand (h : l.Accounts (bs ++ held)) : (l.hand bs).Accounts held := by
  refine List.Perm.trans ?_ h
  refine List.Perm.append_right _ (List.Perm.append_right _ ?_)
  rw [Ledger.hand, ← List.append_assoc]
  exact List.perm_append_comm.append_right _

theorem Accounts.free (h : l.Accounts (bs ++ held)) : (l.free bs).Accounts held := by
  refine List.Perm.trans ?_ h
  refine List.Perm.append_right _ ?_
  rw [Ledger.free, ← List.append_assoc, List.append_assoc bs]
  exact List.perm_append_comm.append_right _

theorem Accounts.lose (h : l.Accounts (bs ++ held)) : (l.lose bs).Accounts held := by
  refine List.Perm.trans ?_ h
  rw [Ledger.lose, ← List.append_assoc, List.append_assoc bs, List.append_assoc bs]
  exact List.perm_append_comm.append_right _

/-- What is handed out is handed out once, and is neither held nor freed nor lost. -/
theorem Accounts.handed_once (h : l.Accounts held) :
    l.handed.Nodup ∧ ∀ b ∈ l.handed, b ∉ held ∧ b ∉ l.freed ∧ b ∉ l.lost := by
  have hnodup := h.nodup_iff.mpr List.nodup_range
  rw [List.nodup_append', List.nodup_append', List.nodup_append'] at hnodup
  rcases hnodup with ⟨⟨⟨-, hhanded, hheld⟩, -, hfreed⟩, -, hlost⟩
  refine ⟨hhanded, ?_⟩
  intro b hb
  refine ⟨fun hb' => hheld hb' hb, ?_, ?_⟩
  · exact hfreed (List.mem_append_right _ hb)
  · exact hlost (List.mem_append_left _ (List.mem_append_right _ hb))

end Ledger

end DecoderSDK.Ownership
