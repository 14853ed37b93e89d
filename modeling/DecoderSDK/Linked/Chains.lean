import Mathlib.Tactic

/-! # Doubly linked chains of cells

Cells are found in a memory by their number and point to their neighbours; a
chain is entered by its two ends. A chain holds a list of cells when every
cell of the list points to the ones beside it. Appending at the tail and
taking a cell out act on the list as they should, and a walk from the head
visits it in order.
-/
namespace DecoderSDK.Linked

/-- A cell; a dead one is passed over by walks. -/
structure Cell (α : Type*) where
  value : α
  previous : Option ℕ
  next : Option ℕ
  dead : Bool

namespace Cell

variable {α : Type*}

def setPrevious (previous : Option ℕ) (c : Cell α) : Cell α := { c with previous := previous }

def setNext (next : Option ℕ) (c : Cell α) : Cell α := { c with next := next }

def kill (c : Cell α) : Cell α := { c with dead := true }

end Cell

structure Ends where
  head : Option ℕ
  tail : Option ℕ
  deriving DecidableEq

abbrev Memory (α : Type*) := ℕ → Option (Cell α)

variable {α : Type*}

namespace Memory

def write (mem : Memory α) (n : ℕ) (c : Cell α) : Memory α := Function.update mem n (some c)

/-- Changes the cell that a pointer leads to, if it leads to one. -/
def modify (mem : Memory α) (f : Cell α → Cell α) : Option ℕ → Memory α
  | none => mem
  | some n => Function.update mem n ((mem n).map f)

/-- A new cell goes behind the tail. A chain with a head needs a tail to write to. -/
def append (mem : Memory α) (ends : Ends) (n : ℕ) (value : α) : Option (Memory α × Ends) :=
  match ends.head, ends.tail with
  | none, _ => some (mem.write n ⟨value, none, none, false⟩, ⟨some n, some n⟩)
  | some _, none => none
  | some head, some tail =>
    some ((mem.write n ⟨value, some tail, none, false⟩).modify (Cell.setNext (some n)) (some tail),
      ⟨some head, some n⟩)

/-- A cell is taken out from between its neighbours and dies; its own pointers stay. -/
def remove (mem : Memory α) (ends : Ends) (n : ℕ) (c : Cell α) : Memory α × Ends :=
  let mem := mem.modify (Cell.setPrevious c.previous) c.next
  let mem := mem.modify (Cell.setNext c.next) c.previous
  (mem.modify Cell.kill (some n),
    ⟨if ends.head = some n then c.next else ends.head,
      if ends.tail = some n then c.previous else ends.tail⟩)

/-- The values of the live cells on the way from a cell to the end of its chain. -/
def walk (mem : Memory α) : ℕ → Option ℕ → Option (List α)
  | _, none => some []
  | 0, some _ => none
  | fuel + 1, some n =>
    match mem n with
    | none => none
    | some c => (walk mem fuel c.next).map fun rest => if c.dead then rest else c.value :: rest

/-- The value of a cell is left alone. -/
def SameValue (mem mem' : Memory α) (k : ℕ) : Prop :=
  (mem' k).map Cell.value = (mem k).map Cell.value

theorem SameValue.trans {mem mem' mem'' : Memory α} {k : ℕ} (h : SameValue mem mem' k)
    (h' : SameValue mem' mem'' k) : SameValue mem mem'' k := by
  unfold SameValue at *
  rw [h', h]

theorem modify_of_ne (mem : Memory α) (f : Cell α → Cell α) {o : Option ℕ} {k : ℕ}
    (h : o ≠ some k) : mem.modify f o k = mem k := by
  cases o with
  | none => rfl
  | some n => exact Function.update_of_ne (fun hk => h (by rw [hk])) _ _

theorem modify_self (mem : Memory α) (f : Cell α → Cell α) (k : ℕ) :
    mem.modify f (some k) k = (mem k).map f := Function.update_self _ _ _

theorem modify_sameValue (mem : Memory α) {f : Cell α → Cell α}
    (hf : ∀ c, (f c).value = c.value) (o : Option ℕ) (k : ℕ) :
    SameValue mem (mem.modify f o) k := by
  unfold SameValue
  by_cases hk : o = some k
  · rw [hk, modify_self, Option.map_map]
    congr 1
    ext c
    exact hf c
  · rw [modify_of_ne mem f hk]

theorem remove_sameValue (mem : Memory α) (ends : Ends) (n : ℕ) (c : Cell α) (k : ℕ) :
    SameValue mem (mem.remove ends n c).1 k := by
  have hnext := mem.modify_sameValue (f := Cell.setPrevious c.previous) (fun _ => rfl) c.next k
  have hprevious := (mem.modify (Cell.setPrevious c.previous) c.next).modify_sameValue
    (f := Cell.setNext c.next) (fun _ => rfl) c.previous k
  exact (hnext.trans hprevious).trans
    (modify_sameValue _ (f := Cell.kill) (fun _ => rfl) (some n) k)

theorem modify_some (mem : Memory α) (f : Cell α → Cell α) {o : Option ℕ} {k : ℕ} {c : Cell α}
    (hc : mem k = some c) : mem.modify f o k = some (if o = some k then f c else c) := by
  by_cases hk : o = some k
  · rw [if_pos hk, hk, modify_self, hc, Option.map_some]
  · rw [if_neg hk, modify_of_ne mem f hk, hc]

/-- Removal lets the neighbours of the cell point to each other. -/
theorem remove_some (mem : Memory α) (ends : Ends) {n k : ℕ} (c : Cell α) {ck : Cell α}
    (hk : k ≠ n) (hck : mem k = some ck) :
    (mem.remove ends n c).1 k =
      some (let ck := if c.next = some k then ck.setPrevious c.previous else ck
        if c.previous = some k then ck.setNext c.next else ck) := by
  have hnext := mem.modify_some (Cell.setPrevious c.previous) (o := c.next) hck
  have hprevious := modify_some _ (Cell.setNext c.next) (o := c.previous) hnext
  have hkill : some n ≠ some k := fun h => hk (Option.some.inj h).symm
  exact (modify_of_ne _ Cell.kill hkill).trans hprevious

theorem remove_of_ne (mem : Memory α) (ends : Ends) {n k : ℕ} {c : Cell α} (hk : k ≠ n)
    (hnext : c.next ≠ some k) (hprevious : c.previous ≠ some k) :
    (mem.remove ends n c).1 k = mem k := by
  have hkill : some n ≠ some k := fun h => hk (Option.some.inj h).symm
  calc (mem.remove ends n c).1 k
      = (mem.modify (Cell.setPrevious c.previous) c.next).modify (Cell.setNext c.next)
          c.previous k := modify_of_ne _ Cell.kill hkill
    _ = mem.modify (Cell.setPrevious c.previous) c.next k := modify_of_ne _ _ hprevious
    _ = mem k := modify_of_ne _ _ hnext

end Memory

/-- The chain holds the list: every cell is alive and points to the ones beside it. -/
structure Holds (mem : Memory α) (ends : Ends) (list : List ℕ) : Prop where
  head : ends.head = list.head?
  tail : ends.tail = list.getLast?
  nodup : list.Nodup
  cell : ∀ before n after, list = before ++ n :: after →
    ∃ c, mem n = some c ∧ c.previous = before.getLast? ∧ c.next = after.head? ∧ c.dead = false

theorem holds_nil (mem : Memory α) : Holds mem ⟨none, none⟩ [] where
  head := rfl
  tail := rfl
  nodup := List.nodup_nil
  cell := by
    intro before n after h
    simp at h

namespace Holds

variable {mem mem' : Memory α} {ends : Ends} {list : List ℕ}

theorem exists_cell (h : Holds mem ends list) {n : ℕ} (hn : n ∈ list) :
    ∃ c, mem n = some c ∧ c.dead = false := by
  rcases List.append_of_mem hn with ⟨before, after, hlist⟩
  rcases h.cell before n after hlist with ⟨c, hc, -, -, hdead⟩
  exact ⟨c, hc, hdead⟩

/-- A chain depends on the memory of its own cells only. -/
theorem congr (h : Holds mem ends list) (hmem : ∀ n ∈ list, mem' n = mem n) :
    Holds mem' ends list where
  head := h.head
  tail := h.tail
  nodup := h.nodup
  cell := by
    intro before n after hlist
    rw [hmem n (by rw [hlist]; simp)]
    exact h.cell before n after hlist

/-- The values of the live cells behind a point of the list. -/
theorem walk_suffix (h : Holds mem ends list) (before after : List ℕ) {values : List α}
    (hvalues : after.map (fun n => (mem n).map Cell.value) = values.map some)
    (hlist : list = before ++ after) (fuel : ℕ) (hfuel : after.length ≤ fuel) :
    mem.walk fuel after.head? = some values := by
  induction after generalizing before values fuel with
  | nil =>
    rw [List.map_nil, eq_comm, List.map_eq_nil_iff] at hvalues
    subst hvalues
    cases fuel with
    | zero => rfl
    | succ fuel => rfl
  | cons n after ih =>
    obtain ⟨fuel, rfl⟩ : ∃ k, fuel = k + 1 := ⟨fuel - 1, by simp at hfuel; omega⟩
    cases values with
    | nil => simp at hvalues
    | cons v values =>
      rw [List.map_cons, List.map_cons, List.cons.injEq] at hvalues
      rcases h.cell before n after hlist with ⟨c, hc, -, hnext, hdead⟩
      have hrest := ih (before ++ [n]) hvalues.2 (by simp [hlist]) fuel (by simpa using hfuel)
      have hn : c.value = v := by
        have hfirst := hvalues.1
        rw [hc] at hfirst
        exact Option.some.inj hfirst
      rw [List.head?_cons, Memory.walk, hc]
      simp only [hnext, hrest, Option.map_some, hdead, Bool.false_eq_true, if_false, hn]

/-- A walk from the head visits the list in order. -/
theorem walk (h : Holds mem ends list) {values : List α}
    (hvalues : list.map (fun n => (mem n).map Cell.value) = values.map some) {fuel : ℕ}
    (hfuel : list.length ≤ fuel) : mem.walk fuel ends.head = some values := by
  rw [h.head]
  exact h.walk_suffix [] list hvalues rfl fuel hfuel

/-- The first cell of an empty chain. -/
theorem append_nil (h : Holds mem ends []) (n : ℕ) (value : α) :
    mem.append ends n value = some (mem.write n ⟨value, none, none, false⟩, ⟨some n, some n⟩) ∧
      Holds (mem.write n ⟨value, none, none, false⟩) ⟨some n, some n⟩ [n] := by
  constructor
  · rw [Memory.append, h.head]
    rfl
  · refine ⟨rfl, rfl, List.nodup_singleton n, ?_⟩
    intro before k after hlist
    rcases List.singleton_eq_append_iff.mp hlist with ⟨rfl, hk⟩ | ⟨-, hk⟩
    · rw [List.cons.injEq] at hk
      rw [hk.1, hk.2]
      exact ⟨_, Function.update_self _ _ _, rfl, rfl, rfl⟩
    · cases hk

/-- The memory after a cell has gone behind the tail. -/
def appended (mem : Memory α) (tail n : ℕ) (value : α) : Memory α :=
  (mem.write n ⟨value, some tail, none, false⟩).modify (Cell.setNext (some n)) (some tail)

theorem appended_of_ne (mem : Memory α) {tail n k : ℕ} (value : α) (htail : tail ≠ k)
    (hn : k ≠ n) : appended mem tail n value k = mem k := by
  rw [appended, Memory.modify_of_ne _ _ (fun h => htail (Option.some.inj h)), Memory.write,
    Function.update_of_ne hn]

theorem appended_tail (mem : Memory α) {tail n : ℕ} (value : α) (hne : tail ≠ n) :
    appended mem tail n value tail = (mem tail).map (Cell.setNext (some n)) := by
  rw [appended, Memory.modify_self, Memory.write, Function.update_of_ne hne]

theorem appended_new (mem : Memory α) {tail n : ℕ} (value : α) (hne : tail ≠ n) :
    appended mem tail n value n = some ⟨value, some tail, none, false⟩ := by
  rw [appended, Memory.modify_of_ne _ _ (fun h => hne (Option.some.inj h)), Memory.write,
    Function.update_self]

/-- A further cell goes behind the tail. -/
theorem append_concat {front : List ℕ} {tail : ℕ} (h : Holds mem ends (front ++ [tail])) {n : ℕ}
    (hn : n ∉ front ++ [tail]) (value : α) :
    mem.append ends n value = some (appended mem tail n value, ⟨ends.head, some n⟩) ∧
      Holds (appended mem tail n value) ⟨ends.head, some n⟩ (front ++ [tail] ++ [n]) := by
  have htail : ends.tail = some tail := by rw [h.tail, List.getLast?_append]; rfl
  have hne : tail ≠ n := by
    rintro rfl
    simp at hn
  have hhead : ends.head = (front ++ [tail] ++ [n]).head? := by
    rw [h.head, List.head?_append_of_ne_nil (front ++ [tail]) (by simp)]
  constructor
  · have hsome : ends.head.isSome = true := by
      rw [h.head]
      cases front <;> rfl
    rcases Option.isSome_iff_exists.mp hsome with ⟨head, hhead⟩
    rw [Memory.append, htail, hhead]
    rfl
  · refine ⟨hhead, by simp, ?_, ?_⟩
    · rw [List.nodup_append']
      exact ⟨h.nodup, List.nodup_singleton n, by simpa using hn⟩
    · intro before k after hlist
      rcases List.eq_nil_or_concat' after with rfl | ⟨after, m, rfl⟩
      · rcases List.append_inj' hlist rfl with ⟨rfl, hk⟩
        rw [List.cons.injEq] at hk
        rw [← hk.1]
        exact ⟨_, appended_new mem value hne, by simp, rfl, rfl⟩
      · rw [← List.cons_append, ← List.append_assoc] at hlist
        rcases List.append_inj' hlist rfl with ⟨hold, hm⟩
        rw [List.cons.injEq] at hm
        rw [← hm.1]
        rcases h.cell before k after hold with ⟨c, hc, hprevious, hnext, hdead⟩
        cases after with
        | nil =>
          -- The old tail now points to the new cell.
          rcases List.append_inj' hold rfl with ⟨-, hk⟩
          rw [List.cons.injEq] at hk
          rw [← hk.1] at hc ⊢
          exact ⟨c.setNext (some n), by rw [appended_tail mem value hne, hc]; rfl, hprevious, rfl,
            hdead⟩
        | cons a after =>
          have hk : tail ≠ k := by
            rintro rfl
            have hlast : tail ∈ a :: after := by
              have hget := congrArg List.getLast? hold
              rw [List.getLast?_append, List.getLast?_append] at hget
              simp only [List.getLast?_singleton, Option.some_or] at hget
              rw [List.getLast?_cons_cons] at hget
              exact List.mem_of_getLast? (by simpa using hget.symm)
            have hnodup := h.nodup
            rw [hold, List.nodup_append', List.nodup_cons] at hnodup
            exact hnodup.2.1.1 hlast
          have hkn : k ≠ n := by
            rintro rfl
            exact hn (by rw [hold]; simp)
          exact ⟨c, by rw [appended_of_ne mem value hk hkn, hc], hprevious, hnext, hdead⟩

section Remove
variable {before after : List ℕ} {n : ℕ} {c : Cell α}

/-- The cells behind the one that is taken out. -/
theorem remove_behind {mid last : List ℕ} {k : ℕ}
    (h : Holds mem ends (before ++ n :: (mid ++ k :: last))) (hc : mem n = some c)
    (hprevious : c.previous = before.getLast?) (hnext : c.next = (mid ++ k :: last).head?) :
    ∃ ck, (mem.remove ends n c).1 k = some ck ∧ ck.previous = (before ++ mid).getLast? ∧
      ck.next = last.head? ∧ ck.dead = false := by
  rcases h.cell (before ++ n :: mid) k last (by simp) with ⟨ck, hck, hkprevious, hknext, hdead⟩
  have hnodup := h.nodup
  have hkn : k ≠ n := by
    rintro rfl
    simp [List.nodup_append', List.nodup_cons] at hnodup
  have hnot : c.previous ≠ some k := by
    intro hsome
    rw [hprevious] at hsome
    have hmem := List.mem_of_getLast? hsome
    simp only [List.nodup_append', List.nodup_cons] at hnodup
    exact hnodup.2.2 hmem (by simp)
  rw [Memory.remove_some mem ends c hkn hck]
  simp only [if_neg hnot]
  cases mid with
  | nil =>
    rw [List.nil_append, List.head?_cons] at hnext
    rw [if_pos hnext]
    exact ⟨_, rfl, by simp [Cell.setPrevious, hprevious], hknext, hdead⟩
  | cons m mid =>
    have hm : c.next ≠ some k := by
      rw [hnext, List.cons_append, List.head?_cons]
      rintro hsome
      rw [Option.some.injEq] at hsome
      subst hsome
      simp [List.nodup_append', List.nodup_cons] at hnodup
    rw [if_neg hm]
    refine ⟨ck, rfl, ?_, hknext, hdead⟩
    rw [hkprevious, List.getLast?_append, List.getLast?_append, List.getLast?_cons_cons]

/-- The cells in front of the one that is taken out. -/
theorem remove_front {first mid : List ℕ} {k : ℕ}
    (h : Holds mem ends (first ++ k :: (mid ++ n :: after))) (hc : mem n = some c)
    (hprevious : c.previous = (first ++ k :: mid).getLast?) (hnext : c.next = after.head?) :
    ∃ ck, (mem.remove ends n c).1 k = some ck ∧ ck.previous = first.getLast? ∧
      ck.next = (mid ++ after).head? ∧ ck.dead = false := by
  rcases h.cell first k (mid ++ n :: after) rfl with ⟨ck, hck, hkprevious, hknext, hdead⟩
  have hnodup := h.nodup
  have hkn : k ≠ n := by
    rintro rfl
    simp [List.nodup_append', List.nodup_cons] at hnodup
  have hnot : c.next ≠ some k := by
    intro hsome
    rw [hnext] at hsome
    have hmem := List.mem_of_head? hsome
    simp only [List.nodup_append', List.nodup_cons] at hnodup
    exact hnodup.2.1.1 (by simp [hmem])
  rw [Memory.remove_some mem ends c hkn hck]
  simp only [if_neg hnot]
  rw [List.getLast?_append] at hprevious
  cases mid with
  | nil =>
    rw [if_pos (by simpa using hprevious)]
    exact ⟨_, rfl, hkprevious, hnext, hdead⟩
  | cons m mid =>
    have hm : c.previous ≠ some k := by
      rw [List.getLast?_cons_cons] at hprevious
      intro hsome
      rw [hsome] at hprevious
      have hmem : k ∈ m :: mid := by
        apply List.mem_of_getLast?
        rw [List.getLast?_cons] at hprevious ⊢
        simpa using hprevious.symm
      simp only [List.nodup_append', List.nodup_cons] at hnodup
      exact hnodup.2.1.1 (List.mem_append_left _ hmem)
    rw [if_neg hm]
    exact ⟨ck, rfl, hkprevious, hknext, hdead⟩

/-- A cell is taken out of the list. -/
theorem remove (h : Holds mem ends (before ++ n :: after)) (hc : mem n = some c) :
    Holds (mem.remove ends n c).1 (mem.remove ends n c).2 (before ++ after) := by
  rcases h.cell before n after rfl with ⟨c', hc', hprevious, hnext, -⟩
  rw [hc, Option.some.injEq] at hc'
  subst hc'
  have hnodup := h.nodup
  rw [List.nodup_append', List.nodup_cons] at hnodup
  rcases hnodup with ⟨hbefore, ⟨hafter, hnodup⟩, hdisjoint⟩
  rw [List.disjoint_cons_right] at hdisjoint
  have hnotnext : ∀ k ∈ before, c.next ≠ some k := by
    intro k hk hsome
    rw [hnext] at hsome
    exact hdisjoint.2 hk (List.mem_of_head? hsome)
  have hnotprevious : ∀ k ∈ after, c.previous ≠ some k := by
    intro k hk hsome
    rw [hprevious] at hsome
    exact hdisjoint.2 (List.mem_of_getLast? hsome) hk
  constructor
  · cases before with
    | nil => simp [Memory.remove, h.head, hnext]
    | cons b before =>
      have hb : b ≠ n := by
        rintro rfl
        simp at hdisjoint
      simp [Memory.remove, h.head, hb]
  · rcases List.eq_nil_or_concat' after with rfl | ⟨after, a, rfl⟩
    · simp [Memory.remove, h.tail, hprevious]
    · have ha : a ≠ n := by
        rintro rfl
        simp at hafter
      have htail : ends.tail = some a := by
        rw [h.tail, ← List.cons_append, ← List.append_assoc, List.getLast?_append]
        rfl
      simp [Memory.remove, htail, ha]
  · exact List.nodup_append'.mpr ⟨hbefore, hnodup, hdisjoint.2⟩
  · intro first k last hlist
    rcases List.append_eq_append_iff.mp hlist with ⟨mid, rfl, rfl⟩ | ⟨mid, rfl, hmid⟩
    · exact h.remove_behind hc hprevious hnext
    · cases mid with
      | nil =>
        rw [List.nil_append] at hmid
        subst hmid
        rw [List.append_nil] at h hprevious
        rw [← List.nil_append (k :: last)] at h hnext
        have hbehind := h.remove_behind hc hprevious hnext
        rwa [List.append_nil] at hbehind
      | cons m mid =>
        rw [List.cons_append, List.cons.injEq] at hmid
        rcases hmid with ⟨rfl, rfl⟩
        rw [List.append_assoc, List.cons_append] at h
        exact h.remove_front hc hprevious hnext

/-- Cells outside the list are not touched. -/
theorem remove_outside (h : Holds mem ends (before ++ n :: after)) (hc : mem n = some c) {k : ℕ}
    (hk : k ∉ before ++ n :: after) : (mem.remove ends n c).1 k = mem k := by
  rcases h.cell before n after rfl with ⟨c', hc', hprevious, hnext, -⟩
  rw [hc, Option.some.injEq] at hc'
  subst hc'
  rw [List.mem_append, List.mem_cons, not_or, not_or] at hk
  apply Memory.remove_of_ne mem ends hk.2.1
  · intro hsome
    rw [hnext] at hsome
    exact hk.2.2 (List.mem_of_head? hsome)
  · intro hsome
    rw [hprevious] at hsome
    exact hk.1 (List.mem_of_getLast? hsome)

end Remove

/-- A new cell is appended at the end of the list. -/
theorem append (h : Holds mem ends list) {n : ℕ} (hn : n ∉ list) (value : α) :
    ∃ mem' ends', mem.append ends n value = some (mem', ends') ∧
      Holds mem' ends' (list ++ [n]) ∧ (∀ k ∉ list, k ≠ n → mem' k = mem k) ∧
      (∀ k, k ≠ n → Memory.SameValue mem mem' k) ∧
      ∃ c, mem' n = some c ∧ c.value = value := by
  rcases List.eq_nil_or_concat' list with rfl | ⟨front, tail, rfl⟩
  · rcases h.append_nil n value with ⟨happend, hholds⟩
    refine ⟨_, _, happend, hholds, ?_, ?_, ⟨_, Function.update_self _ _ _, rfl⟩⟩
    · intro k _ hk
      exact Function.update_of_ne hk _ _
    · intro k hk
      rw [Memory.SameValue, Memory.write, Function.update_of_ne hk]
  · rcases h.append_concat hn value with ⟨happend, hholds⟩
    have hne : tail ≠ n := by
      rintro rfl
      simp at hn
    refine ⟨_, _, happend, hholds, ?_, ?_, ⟨_, appended_new mem value hne, rfl⟩⟩
    · intro k hk hkn
      apply appended_of_ne mem value _ hkn
      rintro rfl
      simp at hk
    · intro k hk
      have hmodify := (mem.write n ⟨value, some tail, none, false⟩).modify_sameValue
        (f := Cell.setNext (some n)) (fun _ => rfl) (some tail) k
      rw [Memory.SameValue, Memory.write, Function.update_of_ne hk] at hmodify
      exact hmodify

end Holds

end DecoderSDK.Linked
