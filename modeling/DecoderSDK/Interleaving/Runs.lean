import Mathlib.Tactic

/-! # Interleavings as runs of atomic actions

A system of threads is a partial step function: an action names the thread
that moves and the outcome of everything it does not decide itself, and a
disabled action has no successor. An interleaving is a list of actions.
`Each` states a relation of all executed steps; conditions on the state
before a step and properties of the state after it are special cases.
-/
namespace DecoderSDK.Interleaving

variable {σ α : Type*} (step : σ → α → Option σ)

/-- The state after a list of actions, if all of them are enabled in turn. -/
def run (s : σ) : List α → Option σ
  | [] => some s
  | a :: as => (step s a).bind fun s' => run s' as

/-- Every executed step satisfies the relation. -/
def Each (R : σ → α → σ → Prop) (s : σ) : List α → Prop
  | [] => True
  | a :: as => match step s a with
    | none => True
    | some s' => R s a s' ∧ Each R s' as

variable {step}

theorem each_cons {R : σ → α → σ → Prop} {s s' : σ} {a : α} (h : step s a = some s')
    (as : List α) : Each step R s (a :: as) ↔ R s a s' ∧ Each step R s' as := by
  simp [Each, h]

instance Each.decidable (R : σ → α → σ → Prop) [∀ s a s', Decidable (R s a s')] (s : σ) :
    (as : List α) → Decidable (Each step R s as)
  | [] => isTrue trivial
  | a :: as => match hs : step s a with
    | none => isTrue (by simp [Each, hs])
    | some s' =>
      have := Each.decidable R s' as
      decidable_of_iff (R s a s' ∧ Each step R s' as) (each_cons hs as).symm

theorem run_append {s s' : σ} {as : List α} (h : run step s as = some s') (bs : List α) :
    run step s (as ++ bs) = run step s' bs := by
  induction as generalizing s with
  | nil =>
    rw [run, Option.some.injEq] at h
    rw [h, List.nil_append]
  | cons a as ih =>
    rw [run, Option.bind_eq_some_iff] at h
    rcases h with ⟨t, ht, hrest⟩
    rw [List.cons_append, run, ht, Option.bind_some]
    exact ih hrest

/-- What holds of all steps of a run holds of all steps of its last part. -/
theorem Each.of_append {R : σ → α → σ → Prop} {s s' : σ} {as bs : List α}
    (hrun : run step s as = some s') (h : Each step R s (as ++ bs)) : Each step R s' bs := by
  induction as generalizing s with
  | nil =>
    rw [run, Option.some.injEq] at hrun
    rwa [← hrun]
  | cons a as ih =>
    rw [run, Option.bind_eq_some_iff] at hrun
    rcases hrun with ⟨t, ht, hrest⟩
    rw [List.cons_append, each_cons ht] at h
    exact ih hrest h.2

theorem Each.mono {R Q : σ → α → σ → Prop} (hRQ : ∀ s a s', R s a s' → Q s a s') {s : σ}
    {as : List α} (h : Each step R s as) : Each step Q s as := by
  induction as generalizing s with
  | nil => trivial
  | cons a as ih =>
    cases hs : step s a with
    | none => simp [Each, hs]
    | some s' =>
      rw [each_cons hs] at h ⊢
      exact ⟨hRQ _ _ _ h.1, ih h.2⟩

theorem each_true (s : σ) (as : List α) : Each step (fun _ _ _ => True) s as := by
  induction as generalizing s with
  | nil => trivial
  | cons a as ih =>
    cases hs : step s a with
    | none => simp [Each, hs]
    | some s' =>
      rw [each_cons hs]
      exact ⟨trivial, ih s'⟩

/-- Along a run of admitted steps, a relation that the invariant gives holds of every step. -/
theorem Each.of_invariant {Inv : σ → Prop} {G R : σ → α → σ → Prop}
    (hstep : ∀ s a s', Inv s → G s a s' → step s a = some s' → Inv s' ∧ R s a s') {s : σ}
    {as : List α} (hs : Inv s) (hG : Each step G s as) : Each step R s as := by
  induction as generalizing s with
  | nil => trivial
  | cons a as ih =>
    cases hsa : step s a with
    | none => simp [Each, hsa]
    | some s' =>
      rw [each_cons hsa] at hG ⊢
      exact ⟨(hstep s a s' hs hG.1 hsa).2, ih (hstep s a s' hs hG.1 hsa).1 hG.2⟩

/-- An invariant of the admitted steps holds at the end of a run of them. -/
theorem Each.run_invariant {Inv : σ → Prop} {G : σ → α → σ → Prop}
    (hstep : ∀ s a s', Inv s → G s a s' → step s a = some s' → Inv s') {s t : σ} {as : List α}
    (hs : Inv s) (hG : Each step G s as) (hrun : run step s as = some t) : Inv t := by
  induction as generalizing s with
  | nil =>
    rw [run, Option.some.injEq] at hrun
    rwa [← hrun]
  | cons a as ih =>
    rw [run, Option.bind_eq_some_iff] at hrun
    rcases hrun with ⟨s', hsa, hrest⟩
    rw [each_cons hsa] at hG
    exact ih (hstep s a s' hs hG.1 hsa) hG.2 hrest

theorem run_invariant {Inv : σ → Prop} (hstep : ∀ s a s', Inv s → step s a = some s' → Inv s')
    {s t : σ} {as : List α} (hs : Inv s) (hrun : run step s as = some t) : Inv t :=
  Each.run_invariant (fun s a s' hs _ hsa => hstep s a s' hs hsa) hs (each_true s as) hrun

/-- An invariant of the steps of admitted actions holds at the end of a run of them. -/
theorem run_invariant_of {Inv : σ → Prop} {P : α → Prop}
    (hstep : ∀ s a s', Inv s → P a → step s a = some s' → Inv s') {s t : σ} {as : List α}
    (hs : Inv s) (hP : ∀ a ∈ as, P a) (hrun : run step s as = some t) : Inv t := by
  induction as generalizing s with
  | nil =>
    rw [run, Option.some.injEq] at hrun
    rwa [← hrun]
  | cons a as ih =>
    rw [run, Option.bind_eq_some_iff] at hrun
    rcases hrun with ⟨s', hsa, hrest⟩
    exact ih (hstep s a s' hs (hP a List.mem_cons_self) hsa)
      (fun b hb => hP b (List.mem_cons_of_mem a hb)) hrest

/-- A property that no step restores, and that a step keeps only if it is admitted, shows at the
end of a run that all steps were admitted. -/
theorem Each.of_final {Inv Q : σ → Prop} {G : σ → α → σ → Prop}
    (hinv : ∀ s a s', Inv s → step s a = some s' → Inv s')
    (hback : ∀ s a s', Inv s → step s a = some s' → Q s' → Q s ∧ G s a s') {s t : σ}
    {as : List α} (hs : Inv s) (hrun : run step s as = some t) (ht : Q t) :
    Q s ∧ Each step G s as := by
  induction as generalizing s with
  | nil =>
    rw [run, Option.some.injEq] at hrun
    exact ⟨by rwa [hrun], trivial⟩
  | cons a as ih =>
    rw [run, Option.bind_eq_some_iff] at hrun
    rcases hrun with ⟨s', hsa, hrest⟩
    rcases ih (hinv s a s' hs hsa) hrest with ⟨hs', heach⟩
    rcases hback s a s' hs hsa hs' with ⟨hQ, hG⟩
    rw [each_cons hsa]
    exact ⟨hQ, hG, heach⟩

/-- Two relations of steps hold along the same runs when they agree wherever the invariant
holds and one of them preserves it. -/
theorem each_iff {Inv : σ → Prop} {R G : σ → α → σ → Prop}
    (hiff : ∀ s a s', Inv s → step s a = some s' → (R s a s' ↔ G s a s'))
    (hstep : ∀ s a s', Inv s → G s a s' → step s a = some s' → Inv s') {s : σ} (as : List α)
    (hs : Inv s) : Each step R s as ↔ Each step G s as := by
  induction as generalizing s with
  | nil => exact Iff.rfl
  | cons a as ih =>
    cases hsa : step s a with
    | none => simp [Each, hsa]
    | some s' =>
      rw [each_cons hsa, each_cons hsa, hiff s a s' hs hsa]
      constructor
      · rintro ⟨hG, h⟩
        exact ⟨hG, (ih (hstep s a s' hs hG hsa)).mp h⟩
      · rintro ⟨hG, h⟩
        exact ⟨hG, (ih (hstep s a s' hs hG hsa)).mpr h⟩

/-- Steps that act on a view of the state as a function make runs a fold of it. -/
theorem run_refines {τ : Type*} {Inv : σ → Prop} {view : σ → τ} {act : τ → α → τ} {P : α → Prop}
    (hstep : ∀ s a s', Inv s → P a → step s a = some s' → Inv s' ∧ view s' = act (view s) a)
    {s t : σ} {as : List α} (hs : Inv s) (hP : ∀ a ∈ as, P a) (hrun : run step s as = some t) :
    Inv t ∧ view t = as.foldl act (view s) := by
  induction as generalizing s with
  | nil =>
    rw [run, Option.some.injEq] at hrun
    rw [← hrun]
    exact ⟨hs, rfl⟩
  | cons a as ih =>
    rw [run, Option.bind_eq_some_iff] at hrun
    rcases hrun with ⟨s', hsa, hrest⟩
    rcases hstep s a s' hs (hP a List.mem_cons_self) hsa with ⟨hinv, hview⟩
    rw [List.foldl_cons, ← hview]
    exact ih hinv (fun b hb => hP b (List.mem_cons_of_mem a hb)) hrest

/-- What the steps of a run put out. -/
def outputs {β : Type*} (step : σ → α → Option σ) (out : σ → α → Option β) (s : σ) :
    List α → List β
  | [] => []
  | a :: as => match step s a with
    | none => []
    | some s' => (out s a).toList ++ outputs step out s' as

/-- An invariant of the state and of what has been put out. -/
theorem outputs_invariant {β : Type*} {out : σ → α → Option β} {Inv : List β → σ → Prop}
    (hstep : ∀ l s a s', Inv l s → step s a = some s' → Inv (l ++ (out s a).toList) s') {l : List β}
    {s t : σ} {as : List α} (hs : Inv l s) (hrun : run step s as = some t) :
    Inv (l ++ outputs step out s as) t := by
  induction as generalizing l s with
  | nil =>
    rw [run, Option.some.injEq] at hrun
    rwa [outputs, List.append_nil, ← hrun]
  | cons a as ih =>
    rw [run, Option.bind_eq_some_iff] at hrun
    rcases hrun with ⟨s', hsa, hrest⟩
    rw [outputs, hsa, ← List.append_assoc]
    exact ih (hstep l s a s' hs hsa) hrest

end DecoderSDK.Interleaving
