import Mathlib.Tactic

/-! # Objects that hold counted references

A heap keeps objects at addresses; an object holds references to buffers,
and a buffer lives as long as its count is positive. Whatever follows the
address of a freed object or a reference to a freed buffer fails. `Counted`
is the ledger: the count of a buffer is the number of references that the
objects and the rest of the process hold.
-/
namespace DecoderSDK.Ownership

/-- A type of objects: the buffers each refers to, and the object that refers to none. -/
structure Kind (α : Type*) where
  refs : α → List ℕ
  blank : α
  refs_blank : refs blank = []

/-- Addresses from `next` on and buffers from `fresh` on were never handed out. -/
structure Heap (α : Type*) where
  next : ℕ
  object : ℕ → Option α
  fresh : ℕ
  count : ℕ → ℕ
  outside : ℕ → ℕ

/-- One more reference to each buffer of the list. -/
def retain (count : ℕ → ℕ) : List ℕ → Option (ℕ → ℕ)
  | [] => some count
  | b :: bs => if count b = 0 then none
      else retain (Function.update count b (count b + 1)) bs

/-- One reference less to each buffer of the list. -/
def release (count : ℕ → ℕ) : List ℕ → Option (ℕ → ℕ)
  | [] => some count
  | b :: bs => if count b = 0 then none
      else release (Function.update count b (count b - 1)) bs

theorem retain_eq {count : ℕ → ℕ} {bs : List ℕ} (h : ∀ b ∈ bs, 0 < count b) :
    retain count bs = some fun b => count b + bs.count b := by
  induction bs generalizing count with
  | nil => simp [retain]
  | cons b bs ih =>
    have hb : 0 < count b := h b List.mem_cons_self
    have hrest : ∀ c ∈ bs, 0 < Function.update count b (count b + 1) c := by
      intro c hc
      have := h c (List.mem_cons_of_mem b hc)
      rw [Function.update_apply]
      split <;> omega
    rw [retain, if_neg (by omega), ih hrest, Option.some.injEq]
    ext c
    rw [Function.update_apply, List.count_cons]
    by_cases hcb : c = b
    · subst hcb
      simp only [if_true, beq_self_eq_true]
      omega
    · have hbc : (b == c) = false := by simpa using fun h => hcb h.symm
      simp only [hcb, hbc, if_false, Bool.false_eq_true]
      omega

theorem release_eq {count : ℕ → ℕ} {bs : List ℕ} (h : ∀ b, bs.count b ≤ count b) :
    release count bs = some fun b => count b - bs.count b := by
  induction bs generalizing count with
  | nil => simp [release]
  | cons b bs ih =>
    have hb := h b
    rw [List.count_cons_self] at hb
    have hrest : ∀ c, bs.count c ≤ Function.update count b (count b - 1) c := by
      intro c
      have := h c
      rw [List.count_cons] at this
      rw [Function.update_apply]
      split <;> [skip; omega]
      rename_i hcb
      subst hcb
      omega
    rw [release, if_neg (by omega), ih hrest, Option.some.injEq]
    ext c
    rw [Function.update_apply, List.count_cons]
    by_cases hcb : c = b
    · subst hcb
      simp only [if_true, beq_self_eq_true]
      omega
    · have hbc : (b == c) = false := by simpa using fun h => hcb h.symm
      simp only [hcb, hbc, if_false, Bool.false_eq_true]
      omega

namespace Heap
variable {α : Type*}

def empty : Heap α := ⟨0, fun _ => none, 0, fun _ => 0, fun _ => 0⟩

variable (K : Kind α)

/-- A new blank object. -/
def allocate (h : Heap α) : Heap α :=
  { h with next := h.next + 1, object := Function.update h.object h.next (some K.blank) }

/-- The object drops its references and becomes blank. -/
def unref (h : Heap α) (a : ℕ) : Option (Heap α) :=
  (h.object a).bind fun x => (release h.count (K.refs x)).map fun count =>
    { h with object := Function.update h.object a (some K.blank), count := count }

/-- The object drops its references and its address becomes invalid. -/
def free (h : Heap α) (a : ℕ) : Option (Heap α) :=
  (h.unref K a).map fun h => { h with object := Function.update h.object a none }

/-- The object is overwritten; the buffers of its new value gain a reference, those of the old
one are not looked at. -/
def refer (h : Heap α) (a : ℕ) (x : α) : Option (Heap α) :=
  (h.object a).bind fun _ => (retain h.count (K.refs x)).map fun count =>
    { h with object := Function.update h.object a (some x), count := count }

/-- A field of the object changes, none of its references. -/
def edit (h : Heap α) (a : ℕ) (f : α → α) : Heap α :=
  { h with object := Function.update h.object a ((h.object a).map f) }

/-- The rest of the process allocates a buffer. -/
def create (h : Heap α) : Heap α :=
  { h with
    fresh := h.fresh + 1
    count := Function.update h.count h.fresh 1
    outside := Function.update h.outside h.fresh 1 }

@[simp] theorem create_count_fresh (h : Heap α) : h.create.count h.fresh = 1 :=
  Function.update_self _ _ _

@[simp] theorem create_outside_fresh (h : Heap α) : h.create.outside h.fresh = 1 :=
  Function.update_self _ _ _

/-- The rest of the process takes a reference to each buffer of the list. -/
def lend (h : Heap α) (bs : List ℕ) : Option (Heap α) :=
  (retain h.count bs).map fun count =>
    { h with count := count, outside := fun b => h.outside b + bs.count b }

/-- The rest of the process drops one of its references. -/
def giveBack (h : Heap α) (b : ℕ) : Option (Heap α) :=
  if h.outside b = 0 then none
  else (release h.count [b]).map fun count =>
    { h with count := count, outside := Function.update h.outside b (h.outside b - 1) }

/-- The references of the object at an address. -/
def held (h : Heap α) (a : ℕ) : List ℕ := (h.object a).elim [] K.refs

/-- The references that objects hold to a buffer. -/
def references (h : Heap α) (b : ℕ) : ℕ :=
  ∑ a ∈ Finset.range h.next, (h.held K a).count b

/-- The ledger of the heap. -/
structure Counted (h : Heap α) : Prop where
  count_eq : ∀ b, h.count b = h.references K b + h.outside b
  object_none : ∀ a, h.next ≤ a → h.object a = none
  count_fresh : ∀ b, h.fresh ≤ b → h.count b = 0

variable {K}

theorem Counted.empty : Counted K (empty : Heap α) :=
  ⟨fun _ => by simp [Heap.empty, references], fun _ _ => rfl, fun _ _ => rfl⟩

theorem Counted.lt_next {h : Heap α} (hc : Counted K h) {a : ℕ} {x : α}
    (ha : h.object a = some x) : a < h.next := by
  by_contra hle
  rw [hc.object_none a (by omega)] at ha
  contradiction

/-- The references of one object are among those counted. -/
theorem Counted.held_le {h : Heap α} (hc : Counted K h) {a : ℕ} {x : α}
    (ha : h.object a = some x) (b : ℕ) : (K.refs x).count b ≤ h.count b := by
  have hmem := Finset.mem_range.mpr (hc.lt_next ha)
  have hle : (h.held K a).count b ≤ h.references K b :=
    Finset.single_le_sum (f := fun a => (h.held K a).count b) (fun _ _ => Nat.zero_le _) hmem
  have hheld : h.held K a = K.refs x := by rw [held, ha, Option.elim_some]
  rw [hheld] at hle
  have := hc.count_eq b
  omega

theorem Counted.ref_pos {h : Heap α} (hc : Counted K h) {a : ℕ} {x : α}
    (ha : h.object a = some x) : ∀ b ∈ K.refs x, 0 < h.count b := by
  intro b hb
  have := hc.held_le ha b
  have := List.count_pos_iff.mpr hb
  omega

/-- Replacing one object exchanges its references for those of the new one. -/
theorem references_update {h : Heap α} {a : ℕ} (ha : a < h.next) (o : Option α) (h' : Heap α)
    (hobject : h'.object = Function.update h.object a o) (hnext : h'.next = h.next) (b : ℕ) :
    h'.references K b + (h.held K a).count b =
      h.references K b + (o.elim [] K.refs).count b := by
  have hmem := Finset.mem_range.mpr ha
  unfold references
  rw [hnext, ← Finset.add_sum_erase _ _ hmem,
    ← Finset.add_sum_erase _ (fun a => (h.held K a).count b) hmem]
  have hother : ∑ c ∈ (Finset.range h.next).erase a, (h'.held K c).count b =
      ∑ c ∈ (Finset.range h.next).erase a, (h.held K c).count b := by
    apply Finset.sum_congr rfl
    intro c hcmem
    rw [held, held, hobject, Function.update_of_ne (Finset.ne_of_mem_erase hcmem)]
  have hnew : h'.held K a = o.elim [] K.refs := by rw [held, hobject, Function.update_self]
  rw [hother, hnew]
  omega

theorem Counted.allocate {h : Heap α} (hc : Counted K h) : Counted K (h.allocate K) := by
  have hlast : (h.allocate K).references K = h.references K := by
    ext b
    unfold references
    have hnext : (h.allocate K).next = h.next + 1 := rfl
    have hheld : (h.allocate K).held K h.next = [] := by
      simp [held, Heap.allocate, K.refs_blank]
    rw [hnext, Finset.sum_range_succ, hheld, List.count_nil, add_zero]
    apply Finset.sum_congr rfl
    intro a ha
    have hne : a ≠ h.next := (Finset.mem_range.mp ha).ne
    have hobject : (h.allocate K).object a = h.object a := Function.update_of_ne hne _ _
    rw [held, held, hobject]
  constructor
  · intro b
    rw [hlast]
    exact hc.count_eq b
  · intro a ha
    change h.next + 1 ≤ a at ha
    have hobject : (h.allocate K).object a = h.object a := Function.update_of_ne (by omega) _ _
    rw [hobject]
    exact hc.object_none a (by omega)
  · exact hc.count_fresh

theorem Counted.unref {h : Heap α} (hc : Counted K h) {a : ℕ} {x : α}
    (ha : h.object a = some x) :
    ∃ h', h.unref K a = some h' ∧ Counted K h' ∧ h'.next = h.next ∧ h'.outside = h.outside ∧
      h'.object = Function.update h.object a (some K.blank) := by
  have hrel := release_eq (hc.held_le ha)
  let h' : Heap α :=
    { h with
      object := Function.update h.object a (some K.blank)
      count := fun b => h.count b - (K.refs x).count b }
  refine ⟨h', ?_, ?_, rfl, rfl, rfl⟩
  · rw [Heap.unref, ha, Option.bind_some, hrel, Option.map_some]
  · constructor
    · intro b
      have hrefs := references_update (K := K) (hc.lt_next ha) (some K.blank) h' rfl rfl b
      rw [held, ha, Option.elim_some, Option.elim_some, K.refs_blank, List.count_nil] at hrefs
      have := hc.count_eq b
      change h.count b - (K.refs x).count b = h'.references K b + h.outside b
      omega
    · intro c hle
      have hlt : a < c := (hc.lt_next ha).trans_le hle
      change Function.update h.object a (some K.blank) c = none
      rw [Function.update_of_ne (by omega)]
      exact hc.object_none c hle
    · intro b hle
      have := hc.count_fresh b hle
      change h.count b - (K.refs x).count b = 0
      omega

theorem Counted.free {h : Heap α} (hc : Counted K h) {a : ℕ} {x : α}
    (ha : h.object a = some x) :
    ∃ h', h.free K a = some h' ∧ Counted K h' ∧ h'.next = h.next ∧ h'.outside = h.outside ∧
      h'.object = Function.update h.object a none := by
  rcases hc.unref ha with ⟨g, hg, hgc, hnext, hout, hobject⟩
  let h' : Heap α := { g with object := Function.update g.object a none }
  refine ⟨h', ?_, ?_, hnext, hout, ?_⟩
  · rw [Heap.free, hg, Option.map_some]
  · have hga : g.object a = some K.blank := by rw [hobject, Function.update_self]
    constructor
    · intro b
      have hrefs := references_update (K := K) (hgc.lt_next hga) none h' rfl rfl b
      rw [held, hga, Option.elim_some, K.refs_blank, Option.elim_none] at hrefs
      have := hgc.count_eq b
      change g.count b = h'.references K b + g.outside b
      omega
    · intro c hle
      have hlt : a < c := (hgc.lt_next hga).trans_le hle
      change Function.update g.object a none c = none
      rw [Function.update_of_ne (by omega)]
      exact hgc.object_none c hle
    · exact hgc.count_fresh
  · change Function.update g.object a none = _
    rw [hobject, Function.update_idem]

/-- A blank object can take references to living buffers. -/
theorem Counted.refer {h : Heap α} (hc : Counted K h) {a : ℕ} {old : α}
    (ha : h.object a = some old) (hold : K.refs old = []) {x : α}
    (hx : ∀ b ∈ K.refs x, 0 < h.count b) :
    ∃ h', h.refer K a x = some h' ∧ Counted K h' ∧ h'.next = h.next ∧ h'.outside = h.outside ∧
      h'.object = Function.update h.object a (some x) := by
  have hret := retain_eq hx
  let h' : Heap α :=
    { h with
      object := Function.update h.object a (some x)
      count := fun b => h.count b + (K.refs x).count b }
  refine ⟨h', ?_, ?_, rfl, rfl, rfl⟩
  · rw [Heap.refer, ha, Option.bind_some, hret, Option.map_some]
  · constructor
    · intro b
      have hrefs := references_update (K := K) (hc.lt_next ha) (some x) h' rfl rfl b
      rw [held, ha, Option.elim_some, Option.elim_some, hold, List.count_nil] at hrefs
      have := hc.count_eq b
      change h.count b + (K.refs x).count b = h'.references K b + h.outside b
      omega
    · intro c hle
      have hlt : a < c := (hc.lt_next ha).trans_le hle
      change Function.update h.object a (some x) c = none
      rw [Function.update_of_ne (by omega)]
      exact hc.object_none c hle
    · intro b hle
      have hzero := hc.count_fresh b hle
      have hnot : b ∉ K.refs x := fun hb => absurd (hx b hb) (by omega)
      change h.count b + (K.refs x).count b = 0
      rw [List.count_eq_zero.mpr hnot, hzero]

theorem Counted.edit {h : Heap α} (hc : Counted K h) {a : ℕ} {x : α}
    (ha : h.object a = some x) {f : α → α} (hf : K.refs (f x) = K.refs x) :
    Counted K (h.edit a f) := by
  have hobject : (h.edit a f).object = Function.update h.object a (some (f x)) := by
    rw [Heap.edit, ha, Option.map_some]
  constructor
  · intro b
    have hrefs := references_update (K := K) (hc.lt_next ha) (some (f x)) (h.edit a f) hobject rfl b
    rw [held, ha, Option.elim_some, Option.elim_some, hf] at hrefs
    have := hc.count_eq b
    change h.count b = (h.edit a f).references K b + h.outside b
    omega
  · intro c hle
    have hlt : a < c := (hc.lt_next ha).trans_le hle
    rw [hobject, Function.update_of_ne (by omega)]
    exact hc.object_none c hle
  · exact hc.count_fresh

/-- The counts after an object was freed. -/
theorem Counted.free_count {h h' : Heap α} (hc : Counted K h) {a : ℕ} {x : α}
    (ha : h.object a = some x) (hfree : h.free K a = some h') :
    (∀ b, h'.count b = h.count b - (K.refs x).count b) ∧ h'.outside = h.outside ∧
      h'.fresh = h.fresh := by
  rw [Heap.free, Heap.unref, ha, Option.bind_some, release_eq (hc.held_le ha), Option.map_some,
    Option.map_some, Option.some.injEq] at hfree
  rw [← hfree]
  exact ⟨fun _ => rfl, rfl, rfl⟩

/-- The counts after an object took references. -/
theorem refer_count {h h' : Heap α} {a : ℕ} {x : α} (hx : ∀ b ∈ K.refs x, 0 < h.count b)
    (hrefer : h.refer K a x = some h') :
    (∀ b, h'.count b = h.count b + (K.refs x).count b) ∧ h'.outside = h.outside ∧
      h'.fresh = h.fresh := by
  rw [Heap.refer, retain_eq hx, Option.map_some, Option.bind_eq_some_iff] at hrefer
  rcases hrefer with ⟨y, -, heq⟩
  rw [Option.some.injEq] at heq
  rw [← heq]
  exact ⟨fun _ => rfl, rfl, rfl⟩

omit K in
/-- The counts after the rest of the process took references. -/
theorem lend_count {h h' : Heap α} {bs : List ℕ} (hbs : ∀ b ∈ bs, 0 < h.count b)
    (hrun : h.lend bs = some h') :
    (∀ b, h'.count b = h.count b + bs.count b) ∧ h'.fresh = h.fresh := by
  rw [Heap.lend, retain_eq hbs, Option.map_some, Option.some.injEq] at hrun
  rw [← hrun]
  exact ⟨fun _ => rfl, rfl⟩

omit K in
/-- The counts after the rest of the process dropped a reference. -/
theorem giveBack_count {h h' : Heap α} {b : ℕ} (hb : 0 < h.count b)
    (hrun : h.giveBack b = some h') :
    h'.count = Function.update h.count b (h.count b - 1) ∧ h'.fresh = h.fresh := by
  rw [Heap.giveBack] at hrun
  split at hrun
  · contradiction
  · rw [release, if_neg (by omega), release, Option.map_some, Option.some.injEq] at hrun
    rw [← hrun]
    exact ⟨rfl, rfl⟩

theorem Counted.create {h : Heap α} (hc : Counted K h) : Counted K h.create := by
  have hzero := hc.count_eq h.fresh
  rw [hc.count_fresh h.fresh le_rfl] at hzero
  constructor
  · intro b
    have hrefs : h.create.references K b = h.references K b := rfl
    rw [hrefs, Heap.create]
    dsimp only
    by_cases hb : b = h.fresh
    · subst hb
      rw [Function.update_self, Function.update_self]
      omega
    · rw [Function.update_of_ne hb, Function.update_of_ne hb]
      exact hc.count_eq b
  · exact hc.object_none
  · intro b hle
    change h.fresh + 1 ≤ b at hle
    rw [Heap.create]
    dsimp only
    rw [Function.update_of_ne (by omega)]
    exact hc.count_fresh b (by omega)

theorem Counted.lend {h : Heap α} (hc : Counted K h) {bs : List ℕ}
    (hbs : ∀ b ∈ bs, 0 < h.count b) :
    ∃ h', h.lend bs = some h' ∧ Counted K h' ∧ h'.next = h.next ∧ h'.object = h.object := by
  let h' : Heap α :=
    { h with
      count := fun b => h.count b + bs.count b
      outside := fun b => h.outside b + bs.count b }
  refine ⟨h', ?_, ?_, rfl, rfl⟩
  · rw [Heap.lend, retain_eq hbs, Option.map_some]
  · constructor
    · intro b
      have := hc.count_eq b
      change h.count b + bs.count b = h.references K b + (h.outside b + bs.count b)
      omega
    · exact hc.object_none
    · intro b hle
      have hzero := hc.count_fresh b hle
      have hnot : b ∉ bs := fun hb => absurd (hbs b hb) (by omega)
      change h.count b + bs.count b = 0
      rw [List.count_eq_zero.mpr hnot, hzero]

theorem Counted.giveBack {h : Heap α} (hc : Counted K h) {b : ℕ} (hb : 0 < h.outside b) :
    ∃ h', h.giveBack b = some h' ∧ Counted K h' ∧ h'.next = h.next ∧ h'.object = h.object := by
  have hcount := hc.count_eq b
  have hle : ∀ c, [b].count c ≤ h.count c := by
    intro c
    rw [List.count_singleton]
    split
    · rename_i hbc
      rw [beq_iff_eq] at hbc
      subst hbc
      omega
    · omega
  let h' : Heap α :=
    { h with
      count := fun c => h.count c - [b].count c
      outside := Function.update h.outside b (h.outside b - 1) }
  refine ⟨h', ?_, ?_, rfl, rfl⟩
  · rw [Heap.giveBack, if_neg (by omega), release_eq hle, Option.map_some]
  · constructor
    · intro c
      have hc' := hc.count_eq c
      change h.count c - [b].count c = h.references K c +
        Function.update h.outside b (h.outside b - 1) c
      rw [List.count_singleton]
      by_cases hcb : c = b
      · subst hcb
        rw [Function.update_self, beq_self_eq_true, if_pos rfl]
        omega
      · have hbc : (b == c) = false := by simpa using fun h => hcb h.symm
        rw [Function.update_of_ne hcb, hbc]
        simpa using hc'
    · exact hc.object_none
    · intro c hlt
      have := hc.count_fresh c hlt
      change h.count c - [b].count c = 0
      omega

/-- Where no object is left, only the rest of the process refers to buffers. -/
theorem Counted.count_outside {h : Heap α} (hc : Counted K h) (hnone : ∀ a, h.object a = none)
    (b : ℕ) : h.count b = h.outside b := by
  have hzero : h.references K b = 0 := by
    apply Finset.sum_eq_zero
    intro a _
    rw [held, hnone a, Option.elim_none, List.count_nil]
  rw [hc.count_eq b, hzero, zero_add]

end Heap

end DecoderSDK.Ownership
