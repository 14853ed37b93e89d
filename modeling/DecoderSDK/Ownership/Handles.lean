import DecoderSDK.Ownership.Heap

/-! # Handles that own one object each

A handle is null or the only owner of an object of the heap. While that
holds, the handles behave as variables of the object's type: an operation
on one handle is an assignment to its value and changes no other value.
-/
namespace DecoderSDK.Ownership

structure Owners (ι α : Type*) where
  heap : Heap α
  pointer : ι → Option ℕ

namespace Owners
variable {ι α : Type*} [DecidableEq ι] (K : Kind α)

def empty : Owners ι α := ⟨.empty, fun _ => none⟩

/-- What a handle refers to. -/
def value (s : Owners ι α) (i : ι) : Option α := (s.pointer i).bind s.heap.object

/-- The handle is set to a new object, to null if none can be had. -/
def acquire (s : Owners ι α) (i : ι) (ok : Bool) : Owners ι α :=
  if ok then ⟨s.heap.allocate K, Function.update s.pointer i (some s.heap.next)⟩
  else { s with pointer := Function.update s.pointer i none }

/-- The object of the handle is freed and the handle set to null. -/
def discard (s : Owners ι α) (i : ι) : Option (Owners ι α) :=
  match s.pointer i with
  | none => some s
  | some a => (s.heap.free K a).map fun h => ⟨h, Function.update s.pointer i none⟩

/-- The object of the handle drops its references. -/
def unref (s : Owners ι α) (i : ι) : Option (Owners ι α) :=
  match s.pointer i with
  | none => some s
  | some a => (s.heap.unref K a).map fun h => { s with heap := h }

/-- The object of the handle is overwritten; there must be one. -/
def refer (s : Owners ι α) (i : ι) (x : α) : Option (Owners ι α) :=
  (s.pointer i).bind fun a => (s.heap.refer K a x).map fun h => { s with heap := h }

/-- The object of the handle is overwritten by one that refers to a new buffer. -/
def fill (s : Owners ι α) (i : ι) (x : ℕ → α) : Option (Owners ι α) :=
  (refer K { s with heap := s.heap.create } i (x s.heap.fresh)).bind fun s' =>
    (s'.heap.giveBack s.heap.fresh).map fun h => { s' with heap := h }

/-- A field of the object of the handle is set, if there is an object. -/
def edit (s : Owners ι α) (i : ι) (f : α → α) : Owners ι α :=
  match s.pointer i with
  | none => s
  | some a => { s with heap := s.heap.edit a f }

/-- The first handle takes the object of the second. -/
def transfer (s : Owners ι α) (i j : ι) : Owners ι α :=
  { s with pointer := Function.update (Function.update s.pointer i (s.pointer j)) j none }

/-- The ledger holds, handles never dangle, no two share an object, and every object has one. -/
structure Owned (s : Owners ι α) : Prop where
  counted : Heap.Counted K s.heap
  alive : ∀ i a, s.pointer i = some a → ∃ x, s.heap.object a = some x
  alone : ∀ i j a, s.pointer i = some a → s.pointer j = some a → i = j
  owner : ∀ a x, s.heap.object a = some x → ∃ i, s.pointer i = some a

variable {K}

omit [DecidableEq ι] in
theorem Owned.empty : Owned K (empty : Owners ι α) :=
  ⟨.empty, by simp [Owners.empty], by simp [Owners.empty], by simp [Owners.empty, Heap.empty]⟩

omit [DecidableEq ι] in
@[simp] theorem empty_value (i : ι) : (empty : Owners ι α).value i = none := rfl

omit [DecidableEq ι] in
theorem Owned.pointer_none {s : Owners ι α} (hs : Owned K s) {i : ι} (hi : s.value i = none) :
    s.pointer i = none := by
  cases hp : s.pointer i with
  | none => rfl
  | some a =>
    rcases hs.alive i a hp with ⟨x, hx⟩
    rw [value, hp, Option.bind_some, hx] at hi
    contradiction

omit [DecidableEq ι] in
theorem Owned.pointer_some {s : Owners ι α} {i : ι} {x : α} (hi : s.value i = some x) :
    ∃ a, s.pointer i = some a ∧ s.heap.object a = some x := by
  rw [value, Option.bind_eq_some_iff] at hi
  exact hi

/-- Writing the object of a handle changes the value of this handle only. -/
theorem Owned.value_update {s : Owners ι α} (hs : Owned K s) {i : ι} {a : ℕ}
    (hi : s.pointer i = some a) (o : Option α) (j : ι) :
    (s.pointer j).bind (Function.update s.heap.object a o) = Function.update s.value i o j := by
  by_cases hji : j = i
  · subst hji
    rw [hi, Option.bind_some, Function.update_self, Function.update_self]
  · rw [Function.update_of_ne hji, value]
    cases hj : s.pointer j with
    | none => rfl
    | some c =>
      have hca : c ≠ a := fun hca => hji (hs.alone j i a (hca ▸ hj) hi)
      rw [Option.bind_some, Option.bind_some, Function.update_of_ne hca]

/-- An object may be rewritten in place. -/
theorem Owned.rewrite {s : Owners ι α} (hs : Owned K s) {i : ι} {a : ℕ}
    (hi : s.pointer i = some a) {h : Heap α} (hc : Heap.Counted K h) {x : α}
    (hobject : h.object = Function.update s.heap.object a (some x)) :
    Owned K { s with heap := h } ∧
      (⟨h, s.pointer⟩ : Owners ι α).value = Function.update s.value i (some x) := by
  constructor
  · constructor
    · exact hc
    · intro j c hj
      rcases hs.alive j c hj with ⟨y, hy⟩
      change ∃ z, h.object c = some z
      rw [hobject, Function.update_apply]
      split
      · exact ⟨x, rfl⟩
      · exact ⟨y, hy⟩
    · exact hs.alone
    · intro c y hy
      change h.object c = some y at hy
      rw [hobject, Function.update_apply] at hy
      split at hy
      · rename_i hca
        exact ⟨i, hca ▸ hi⟩
      · exact hs.owner c y hy
  · ext1 j
    rw [← hs.value_update hi, value, hobject]

theorem Owned.acquire {s : Owners ι α} (hs : Owned K s) {i : ι} (hi : s.value i = none)
    (ok : Bool) : Owned K (s.acquire K i ok) ∧
      (s.acquire K i ok).value = Function.update s.value i (if ok then some K.blank else none) := by
  have hnull := hs.pointer_none hi
  cases ok with
  | false =>
    have hsame : s.acquire K i false = s := by
      rw [Owners.acquire, if_neg Bool.false_ne_true, ← hnull, Function.update_eq_self]
    rw [hsame, if_neg Bool.false_ne_true, ← hi, Function.update_eq_self]
    exact ⟨hs, rfl⟩
  | true =>
    -- no handle points at the address that is handed out
    have hfresh : ∀ j a, s.pointer j = some a → a ≠ s.heap.next := by
      intro j a hj ha
      rcases hs.alive j a hj with ⟨x, hx⟩
      exact absurd (hs.counted.lt_next hx) (by omega)
    have heq : s.acquire K i true =
        ⟨s.heap.allocate K, Function.update s.pointer i (some s.heap.next)⟩ := rfl
    have hobject : (s.heap.allocate K).object =
        Function.update s.heap.object s.heap.next (some K.blank) := rfl
    rw [heq, if_pos rfl]
    constructor
    · constructor
      · exact hs.counted.allocate
      · intro j a hj
        change Function.update s.pointer i (some s.heap.next) j = some a at hj
        change ∃ x, (s.heap.allocate K).object a = some x
        rw [Function.update_apply] at hj
        rw [hobject, Function.update_apply]
        split
        · exact ⟨K.blank, rfl⟩
        · rename_i ha
          split at hj
          · exact absurd (Option.some.inj hj).symm ha
          · exact hs.alive j a hj
      · intro j k a hj hk
        change Function.update s.pointer i (some s.heap.next) j = some a at hj
        change Function.update s.pointer i (some s.heap.next) k = some a at hk
        rw [Function.update_apply] at hj hk
        split at hj <;> split at hk
        · rename_i hji hki
          rw [hji, hki]
        · exact absurd (Option.some.inj hj).symm (hfresh k a hk)
        · exact absurd (Option.some.inj hk).symm (hfresh j a hj)
        · exact hs.alone j k a hj hk
      · intro a x ha
        change (s.heap.allocate K).object a = some x at ha
        change ∃ j, Function.update s.pointer i (some s.heap.next) j = some a
        rw [hobject, Function.update_apply] at ha
        split at ha
        · rename_i hanext
          exact ⟨i, by rw [Function.update_self, hanext]⟩
        · rcases hs.owner a x ha with ⟨j, hj⟩
          have hji : j ≠ i := by
            intro hji
            rw [hji, hnull] at hj
            contradiction
          exact ⟨j, by rw [Function.update_of_ne hji, hj]⟩
    · ext1 j
      change (Function.update s.pointer i (some s.heap.next) j).bind (s.heap.allocate K).object = _
      rw [hobject]
      by_cases hji : j = i
      · subst hji
        rw [Function.update_self, Function.update_self, Option.bind_some, Function.update_self]
      · rw [Function.update_of_ne hji, Function.update_of_ne hji, value]
        cases hj : s.pointer j with
        | none => rfl
        | some a => rw [Option.bind_some, Option.bind_some, Function.update_of_ne (hfresh j a hj)]

theorem Owned.discard {s : Owners ι α} (hs : Owned K s) (i : ι) :
    ∃ s', s.discard K i = some s' ∧ Owned K s' ∧ s'.value = Function.update s.value i none := by
  cases hi : s.pointer i with
  | none =>
    refine ⟨s, by rw [Owners.discard, hi], hs, ?_⟩
    have hnone : s.value i = none := by rw [value, hi, Option.bind_none]
    rw [← hnone, Function.update_eq_self]
  | some a =>
    rcases hs.alive i a hi with ⟨x, hx⟩
    rcases hs.counted.free hx with ⟨h, hfree, hc, -, -, hobject⟩
    have hkeep : ∀ j c, Function.update s.pointer i none j = some c →
        s.pointer j = some c ∧ c ≠ a := by
      intro j c hj
      rw [Function.update_apply] at hj
      split at hj
      · contradiction
      · rename_i hji
        exact ⟨hj, fun hca => hji (hs.alone j i a (hca ▸ hj) hi)⟩
    refine ⟨⟨h, Function.update s.pointer i none⟩, ?_, ?_, ?_⟩
    · simp only [Owners.discard, hi, hfree, Option.map_some]
    · constructor
      · exact hc
      · intro j c hj
        rcases hkeep j c hj with ⟨hold, hca⟩
        rcases hs.alive j c hold with ⟨y, hy⟩
        exact ⟨y, by rw [hobject, Function.update_of_ne hca, hy]⟩
      · intro j k c hj hk
        exact hs.alone j k c (hkeep j c hj).1 (hkeep k c hk).1
      · intro c y hy
        change h.object c = some y at hy
        rw [hobject, Function.update_apply] at hy
        split at hy
        · contradiction
        · rename_i hca
          rcases hs.owner c y hy with ⟨j, hj⟩
          have hji : j ≠ i := by
            intro hji
            rw [hji, hi] at hj
            exact hca (Option.some.inj hj).symm
          exact ⟨j, (Function.update_of_ne hji _ _).trans hj⟩
    · ext1 j
      rw [← hs.value_update hi, value, hobject]
      change (Function.update s.pointer i none j).bind _ = _
      by_cases hji : j = i
      · subst hji
        rw [Function.update_self, hi, Option.bind_none, Option.bind_some, Function.update_self]
      · rw [Function.update_of_ne hji]

/-- The counts after a handle was discarded. -/
theorem Owned.discard_count {s s' : Owners ι α} (hs : Owned K s) {i : ι}
    (hrun : s.discard K i = some s') :
    (∀ b, s'.heap.count b = s.heap.count b - ((s.value i).elim [] K.refs).count b) ∧
      s'.heap.outside = s.heap.outside ∧ s'.heap.fresh = s.heap.fresh := by
  cases hi : s.pointer i with
  | none =>
    simp only [Owners.discard, hi, Option.some.injEq] at hrun
    have hnone : s.value i = none := by rw [value, hi, Option.bind_none]
    rw [← hrun, hnone, Option.elim_none]
    exact ⟨fun _ => rfl, rfl, rfl⟩
  | some a =>
    rcases hs.alive i a hi with ⟨x, hx⟩
    have hsome : s.value i = some x := by rw [value, hi, Option.bind_some, hx]
    simp only [Owners.discard, hi, Option.map_eq_some_iff] at hrun
    rcases hrun with ⟨h, hfree, heq⟩
    rw [← heq, hsome, Option.elim_some]
    exact hs.counted.free_count hx hfree

theorem Owned.unref {s : Owners ι α} (hs : Owned K s) (i : ι) :
    ∃ s', s.unref K i = some s' ∧ Owned K s' ∧
      s'.value = Function.update s.value i ((s.value i).map fun _ => K.blank) := by
  cases hi : s.pointer i with
  | none =>
    refine ⟨s, by rw [Owners.unref, hi], hs, ?_⟩
    have hnone : s.value i = none := by rw [value, hi, Option.bind_none]
    rw [hnone, Option.map_none, ← hnone, Function.update_eq_self]
  | some a =>
    rcases hs.alive i a hi with ⟨x, hx⟩
    rcases hs.counted.unref hx with ⟨h, hunref, hc, -, -, hobject⟩
    rcases hs.rewrite hi hc hobject with ⟨howned, hvalue⟩
    have hsome : s.value i = some x := by rw [value, hi, Option.bind_some, hx]
    refine ⟨⟨h, s.pointer⟩, ?_, howned, ?_⟩
    · simp only [Owners.unref, hi, hunref, Option.map_some]
    · rw [hvalue, hsome, Option.map_some]

omit [DecidableEq ι] in
theorem unref_fresh {s s' : Owners ι α} {i : ι} (hrun : s.unref K i = some s') :
    s'.heap.fresh = s.heap.fresh := by
  cases hi : s.pointer i with
  | none =>
    simp only [Owners.unref, hi, Option.some.injEq] at hrun
    rw [← hrun]
  | some a =>
    simp only [Owners.unref, hi, Heap.unref, Option.map_eq_some_iff, Option.bind_eq_some_iff] at hrun
    rcases hrun with ⟨h, ⟨x, -, count, -, rfl⟩, rfl⟩
    rfl

theorem Owned.refer {s : Owners ι α} (hs : Owned K s) {i : ι} {old x : α}
    (hi : s.value i = some old) (hold : K.refs old = [])
    (hx : ∀ b ∈ K.refs x, 0 < s.heap.count b) :
    ∃ s', s.refer K i x = some s' ∧ Owned K s' ∧
      s'.value = Function.update s.value i (some x) := by
  rcases Owned.pointer_some hi with ⟨a, ha, hobj⟩
  rcases hs.counted.refer hobj hold hx with ⟨h, hrefer, hc, -, -, hobject⟩
  rcases hs.rewrite ha hc hobject with ⟨howned, hvalue⟩
  refine ⟨⟨h, s.pointer⟩, ?_, howned, hvalue⟩
  rw [Owners.refer, ha, Option.bind_some, hrefer, Option.map_some]

omit [DecidableEq ι] in
/-- The counts after the object of a handle took references. -/
theorem refer_count {s s' : Owners ι α} {i : ι} {x : α} (hx : ∀ b ∈ K.refs x, 0 < s.heap.count b)
    (hrun : s.refer K i x = some s') :
    (∀ b, s'.heap.count b = s.heap.count b + (K.refs x).count b) ∧
      s'.heap.outside = s.heap.outside ∧ s'.heap.fresh = s.heap.fresh := by
  rw [Owners.refer, Option.bind_eq_some_iff] at hrun
  rcases hrun with ⟨a, -, hrun⟩
  rw [Option.map_eq_some_iff] at hrun
  rcases hrun with ⟨h, hrefer, heq⟩
  rw [← heq]
  exact Heap.refer_count hx hrefer

omit [DecidableEq ι] in
/-- The buffers of a value that a handle has are alive. -/
theorem Owned.ref_pos {s : Owners ι α} (hs : Owned K s) {i : ι} {x : α}
    (hi : s.value i = some x) : ∀ b ∈ K.refs x, 0 < s.heap.count b := by
  rcases Owned.pointer_some hi with ⟨a, -, hobj⟩
  exact hs.counted.ref_pos hobj

omit [DecidableEq ι] in
/-- A handle is null exactly when it has no value. -/
theorem Owned.isSome_pointer {s : Owners ι α} (hs : Owned K s) (i : ι) :
    (s.pointer i).isSome = (s.value i).isSome := by
  cases hi : s.pointer i with
  | none => simp [value, hi]
  | some a =>
    rcases hs.alive i a hi with ⟨x, hx⟩
    rw [value, hi, Option.bind_some, hx, Option.isSome_some, Option.isSome_some]

theorem Owned.fill {s : Owners ι α} (hs : Owned K s) {i : ι} {old : α} {x : ℕ → α}
    (hi : s.value i = some old) (hold : K.refs old = []) (hx : ∀ b, K.refs (x b) = [b]) :
    ∃ s', s.fill K i x = some s' ∧ Owned K s' ∧
      s'.value = Function.update s.value i (some (x s.heap.fresh)) := by
  rcases Owned.pointer_some hi with ⟨a, ha, hobj⟩
  have hlive : ∀ b ∈ K.refs (x s.heap.fresh), 0 < s.heap.create.count b := by
    intro b hb
    rw [hx, List.mem_singleton] at hb
    rw [hb, Heap.create_count_fresh]
    exact Nat.one_pos
  rcases hs.counted.create.refer (a := a) (x := x s.heap.fresh) hobj hold hlive with
    ⟨h, hrefer, hc, -, hout, hobject⟩
  have hpos : 0 < h.outside s.heap.fresh := by
    rw [hout, Heap.create_outside_fresh]
    exact Nat.one_pos
  rcases hc.giveBack hpos with ⟨g, hg, hgc, -, hgobject⟩
  rcases hs.rewrite ha hgc (hgobject.trans hobject) with ⟨howned, hvalue⟩
  refine ⟨⟨g, s.pointer⟩, ?_, howned, hvalue⟩
  simp only [Owners.fill, Owners.refer, ha, Option.bind_some, hrefer, Option.map_some, hg]

theorem Owned.edit {s : Owners ι α} (hs : Owned K s) (i : ι) {f : α → α}
    (hf : ∀ x, K.refs (f x) = K.refs x) : Owned K (s.edit i f) ∧
      (s.edit i f).value = Function.update s.value i ((s.value i).map f) := by
  cases hi : s.pointer i with
  | none =>
    have hnone : s.value i = none := by rw [value, hi, Option.bind_none]
    have hsame : s.edit i f = s := by simp only [Owners.edit, hi]
    rw [hsame, hnone, Option.map_none, ← hnone, Function.update_eq_self]
    exact ⟨hs, rfl⟩
  | some a =>
    rcases hs.alive i a hi with ⟨x, hx⟩
    have hsome : s.value i = some x := by rw [value, hi, Option.bind_some, hx]
    have hedit : s.edit i f = { s with heap := s.heap.edit a f } := by simp only [Owners.edit, hi]
    have hobject : (s.heap.edit a f).object = Function.update s.heap.object a (some (f x)) := by
      rw [Heap.edit, hx, Option.map_some]
    rw [hedit, hsome, Option.map_some]
    exact hs.rewrite hi (hs.counted.edit hx (hf x)) hobject

omit [DecidableEq ι] in
theorem edit_fresh (s : Owners ι α) (i : ι) (f : α → α) :
    (s.edit i f).heap.fresh = s.heap.fresh := by
  unfold Owners.edit
  split <;> rfl

omit [DecidableEq ι] in
/-- The counts after a handle was given a new buffer. -/
theorem fill_count {s s' : Owners ι α} {i : ι} {x : ℕ → α} (hx : ∀ b, K.refs (x b) = [b])
    (hrun : s.fill K i x = some s') :
    s'.heap.count = Function.update s.heap.count s.heap.fresh 1 ∧
      s'.heap.fresh = s.heap.fresh + 1 := by
  rw [Owners.fill, Option.bind_eq_some_iff] at hrun
  rcases hrun with ⟨t, hrefer, hrun⟩
  rw [Option.map_eq_some_iff] at hrun
  rcases hrun with ⟨h, hback, heq⟩
  have hlive : ∀ b ∈ K.refs (x s.heap.fresh), 0 < s.heap.create.count b := by
    intro b hb
    rw [hx, List.mem_singleton] at hb
    rw [hb, Heap.create_count_fresh]
    exact Nat.one_pos
  rcases refer_count hlive hrefer with ⟨hcount, -, hfresh⟩
  have hfill : t.heap.count s.heap.fresh = 2 := by
    rw [hcount, hx]
    simp
  rcases Heap.giveBack_count (by omega) hback with ⟨hcount', hfresh'⟩
  rw [← heq]
  dsimp only
  rw [hcount', hfresh', hfresh, hfill]
  refine ⟨?_, rfl⟩
  ext b
  by_cases hb : b = s.heap.fresh
  · subst hb
    rw [Function.update_self, Function.update_self]
  · have hnot : [s.heap.fresh].count b = 0 := List.count_eq_zero.mpr (by simpa using hb)
    rw [Function.update_of_ne hb, Function.update_of_ne hb, hcount, hx, hnot, add_zero]
    exact Function.update_of_ne hb _ _

theorem Owned.transfer {s : Owners ι α} (hs : Owned K s) {i j : ι} (hij : i ≠ j)
    (hi : s.value i = none) : Owned K (s.transfer i j) ∧
      (s.transfer i j).value = Function.update (Function.update s.value i (s.value j)) j none := by
  have hnull := hs.pointer_none hi
  have hcases : ∀ k a, (s.transfer i j).pointer k = some a →
      (k = i ∧ s.pointer j = some a) ∨ (k ≠ i ∧ k ≠ j ∧ s.pointer k = some a) := by
    intro k a hk
    change Function.update (Function.update s.pointer i (s.pointer j)) j none k = some a at hk
    rw [Function.update_apply, Function.update_apply] at hk
    by_cases hkj : k = j
    · rw [if_pos hkj] at hk
      contradiction
    · rw [if_neg hkj] at hk
      by_cases hki : k = i
      · rw [if_pos hki] at hk
        exact Or.inl ⟨hki, hk⟩
      · rw [if_neg hki] at hk
        exact Or.inr ⟨hki, hkj, hk⟩
  constructor
  · constructor
    · exact hs.counted
    · intro k a hk
      rcases hcases k a hk with ⟨-, hj⟩ | ⟨-, -, hk⟩
      · exact hs.alive j a hj
      · exact hs.alive k a hk
    · intro k l a hk hl
      rcases hcases k a hk with ⟨hki, hk⟩ | ⟨hki, hkj, hk⟩
      · rcases hcases l a hl with ⟨hli, -⟩ | ⟨-, hlj, hl⟩
        · rw [hki, hli]
        · exact absurd (hs.alone l j a hl hk) hlj
      · rcases hcases l a hl with ⟨-, hl⟩ | ⟨-, -, hl⟩
        · exact absurd (hs.alone k j a hk hl) hkj
        · exact hs.alone k l a hk hl
    · intro a x ha
      rcases hs.owner a x ha with ⟨k, hk⟩
      change ∃ l, Function.update (Function.update s.pointer i (s.pointer j)) j none l = some a
      by_cases hkj : k = j
      · refine ⟨i, ?_⟩
        rw [Function.update_of_ne hij, Function.update_self, ← hkj, hk]
      · have hki : k ≠ i := by
          intro hki
          rw [hki, hnull] at hk
          contradiction
        refine ⟨k, ?_⟩
        rw [Function.update_of_ne hkj, Function.update_of_ne hki, hk]
  · ext1 k
    change (Function.update (Function.update s.pointer i (s.pointer j)) j none k).bind
      s.heap.object = _
    rw [Function.update_apply, Function.update_apply, Function.update_apply, Function.update_apply]
    split
    · rfl
    · split
      · rfl
      · rfl

omit [DecidableEq ι] in
/-- What the rest of the process does to buffers leaves the values of the handles as they are. -/
theorem Owned.outside {s : Owners ι α} (hs : Owned K s) {h : Heap α} (hc : Heap.Counted K h)
    (hobject : h.object = s.heap.object) :
    Owned K { s with heap := h } ∧ (⟨h, s.pointer⟩ : Owners ι α).value = s.value := by
  constructor
  · constructor
    · exact hc
    · intro i a hi
      change ∃ x, h.object a = some x
      rw [hobject]
      exact hs.alive i a hi
    · exact hs.alone
    · intro a x ha
      change h.object a = some x at ha
      rw [hobject] at ha
      exact hs.owner a x ha
  · ext1 i
    rw [value, value, hobject]

omit [DecidableEq ι] in
/-- A buffer lives exactly as long as a handle or the rest of the process refers to it. -/
theorem Owned.count_pos_iff {s : Owners ι α} (hs : Owned K s) (b : ℕ) :
    0 < s.heap.count b ↔
      (∃ i x, s.value i = some x ∧ b ∈ K.refs x) ∨ 0 < s.heap.outside b := by
  have hcount := hs.counted.count_eq b
  constructor
  · intro hpos
    by_cases hout : 0 < s.heap.outside b
    · exact Or.inr hout
    · left
      have hrefs : 0 < s.heap.references K b := by omega
      rcases Finset.sum_pos_iff.mp hrefs with ⟨a, -, ha⟩
      cases hobj : s.heap.object a with
      | none =>
        rw [Heap.held, hobj, Option.elim_none, List.count_nil] at ha
        contradiction
      | some x =>
        rw [Heap.held, hobj, Option.elim_some] at ha
        rcases hs.owner a x hobj with ⟨i, hi⟩
        refine ⟨i, x, ?_, List.count_pos_iff.mp ha⟩
        rw [value, hi, Option.bind_some, hobj]
  · rintro (⟨i, x, hi, hb⟩ | hout)
    · exact hs.ref_pos hi b hb
    · omega

omit [DecidableEq ι] in
/-- When every handle is null, no object is left and the counts are those of the rest. -/
theorem Owned.no_leak {s : Owners ι α} (hs : Owned K s) (hnull : ∀ i, s.value i = none) :
    (∀ a, s.heap.object a = none) ∧ ∀ b, s.heap.count b = s.heap.outside b := by
  have hnone : ∀ a, s.heap.object a = none := by
    intro a
    cases ha : s.heap.object a with
    | none => rfl
    | some x =>
      rcases hs.owner a x ha with ⟨i, hi⟩
      have := hnull i
      rw [value, hi, Option.bind_some, ha] at this
      contradiction
  exact ⟨hnone, hs.counted.count_outside hnone⟩

end Owners

/-! ## Variables made of an owned object and other members -/

section
variable {ι α β γ : Type*} [DecidableEq ι]

/-- The variables that are alive, each with what it owns and its other members. -/
def living (mk : α → β → γ) (own : ι → α) (members : ι → Option β) (v : ι) : Option γ :=
  (members v).map (mk (own v))

/-- What a variable owns and its members are written. -/
theorem living_update (mk : α → β → γ) (own : ι → α) (members : ι → Option β) (v : ι)
    (a : α) (m : Option β) :
    living mk (Function.update own v a) (Function.update members v m) =
      Function.update (living mk own members) v (m.map (mk a)) := by
  ext1 u
  by_cases huv : u = v
  · subst huv
    simp only [living, Function.update_self]
  · simp only [living, Function.update_of_ne huv]

/-- Only the members of a variable are written. -/
theorem living_members (mk : α → β → γ) (own : ι → α) (members : ι → Option β) (v : ι)
    (m : Option β) : living mk own (Function.update members v m) =
      Function.update (living mk own members) v (m.map (mk (own v))) := by
  rw [← living_update, Function.update_eq_self]

/-- A variable that is not alive owns nothing, also after both are written. -/
theorem dead_update {own : ι → α} {members : ι → Option β} {null : α}
    (h : ∀ u, members u = none → own u = null) (v : ι) {a : α} {m : Option β}
    (hm : m = none → a = null) :
    ∀ u, Function.update members v m u = none → Function.update own v a u = null := by
  intro u hu
  by_cases huv : u = v
  · subst huv
    rw [Function.update_self] at hu ⊢
    exact hm hu
  · rw [Function.update_of_ne huv] at hu ⊢
    exact h u hu

/-- The same when only the members are written. -/
theorem dead_members {own : ι → α} {members : ι → Option β} {null : α}
    (h : ∀ u, members u = none → own u = null) (v : ι) {m : Option β}
    (hm : m = none → own v = null) :
    ∀ u, Function.update members v m u = none → own u = null := by
  have := dead_update h v hm
  rwa [Function.update_eq_self] at this

end

end DecoderSDK.Ownership
