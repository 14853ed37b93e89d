import Mathlib.Tactic

/-! # A queue that is handed out in batches

Producers put items, numbered in turn, into a queue. A consumer takes all
there is as one batch and handles its items in order, while others put more
and take batches of their own; it may give up a batch before its end. Batches
carry a tag, for the consumers that never hold two batches at a time.
-/
namespace DecoderSDK.Batching

structure Batch (τ : Type*) where
  tag : τ
  done : List ℕ
  rest : List ℕ
  running : Bool
  deriving DecidableEq

/-- One item was handled. -/
structure Handled (τ : Type*) where
  batch : ℕ
  tag : τ
  item : ℕ
  deriving DecidableEq

structure Handout (τ : Type*) where
  next : ℕ
  queue : List ℕ
  batches : List (Batch τ)
  log : List (Handled τ)
  deriving DecidableEq

variable {τ : Type*}

def Batch.items (b : Batch τ) : List ℕ := b.done ++ b.rest

namespace Handout

def empty : Handout τ := ⟨0, [], [], []⟩

def put (s : Handout τ) : Handout τ := { s with next := s.next + 1, queue := s.queue ++ [s.next] }

def take (s : Handout τ) (tag : τ) : Handout τ :=
  { s with queue := [], batches := s.batches ++ [⟨tag, [], s.queue, true⟩] }

/-- The next item of a running batch is handled. -/
def handle (s : Handout τ) (c : ℕ) : Option (Handout τ) :=
  match s.batches[c]? with
  | some ⟨tag, done, n :: rest, true⟩ => some
    { s with
      batches := s.batches.set c ⟨tag, done ++ [n], rest, true⟩
      log := s.log ++ [⟨c, tag, n⟩] }
  | _ => none

/-- A batch ends, with or without items left in it. -/
def close (s : Handout τ) (c : ℕ) : Option (Handout τ) :=
  match s.batches[c]? with
  | some ⟨tag, done, rest, true⟩ => some
    { s with batches := s.batches.set c ⟨tag, done, rest, false⟩ }
  | _ => none

/-- Every item is in the queue or in exactly one batch, batches are consecutive pieces, and what
was handled is what the batches have behind them. -/
structure Sound (s : Handout τ) : Prop where
  all : s.batches.flatMap Batch.items ++ s.queue = List.range s.next
  handled : (s.log.map Handled.item).Perm (s.batches.flatMap Batch.done)
  each : ∀ c b, s.batches[c]? = some b →
    (s.log.filter fun e => e.batch = c).map Handled.item = b.done
  known : ∀ e ∈ s.log, ∃ b, s.batches[e.batch]? = some b ∧ b.tag = e.tag

theorem Sound.empty : Sound (empty : Handout τ) := ⟨rfl, List.Perm.refl _, by simp [Handout.empty],
  by simp [Handout.empty]⟩

theorem Sound.put {s : Handout τ} (hs : s.Sound) : s.put.Sound := by
  refine ⟨?_, hs.handled, hs.each, hs.known⟩
  change s.batches.flatMap Batch.items ++ (s.queue ++ [s.next]) = List.range (s.next + 1)
  rw [← List.append_assoc, hs.all, List.range_succ]

theorem Sound.log_lt {s : Handout τ} (hs : s.Sound) {e : Handled τ} (he : e ∈ s.log) :
    e.batch < s.batches.length := by
  rcases hs.known e he with ⟨b, hb, -⟩
  exact (List.getElem?_eq_some_iff.mp hb).1

theorem Sound.take {s : Handout τ} (hs : s.Sound) (tag : τ) : (s.take tag).Sound := by
  have hbatches : (s.take tag).batches = s.batches ++ [⟨tag, [], s.queue, true⟩] := rfl
  refine ⟨?_, ?_, ?_, ?_⟩
  · rw [hbatches, List.flatMap_append]
    simpa [Handout.take, Batch.items] using hs.all
  · rw [hbatches, List.flatMap_append]
    simpa [Handout.take] using hs.handled
  · intro c b hb
    rw [hbatches] at hb
    rcases Nat.lt_or_ge c s.batches.length with hlt | hge
    · rw [List.getElem?_append_left hlt] at hb
      exact hs.each c b hb
    · -- nothing of the new batch has been handled
      have hnone : (s.log.filter fun e => e.batch = c) = [] := by
        rw [List.filter_eq_nil_iff]
        intro e he hec
        have := hs.log_lt he
        simp only [decide_eq_true_eq] at hec
        omega
      rw [List.getElem?_append_right hge, List.getElem?_singleton] at hb
      split at hb
      · rw [Option.some.injEq] at hb
        change ((s.log.filter fun e => e.batch = c).map Handled.item) = b.done
        rw [hnone, ← hb]
        rfl
      · contradiction
  · intro e he
    rcases hs.known e he with ⟨b, hb, htag⟩
    refine ⟨b, ?_, htag⟩
    rw [hbatches, List.getElem?_append_left (hs.log_lt he), hb]

/-- The batch at an index, between the earlier and the later ones. -/
theorem split_batches {l : List (Batch τ)} {c : ℕ} {b : Batch τ} (h : l[c]? = some b) :
    ∃ before after, l = before ++ b :: after ∧ before.length = c ∧
      ∀ b', l.set c b' = before ++ b' :: after := by
  rcases List.getElem?_eq_some_iff.mp h with ⟨hlt, hget⟩
  refine ⟨l.take c, l.drop (c + 1), ?_, by rw [List.length_take]; omega, ?_⟩
  · rw [← hget, ← List.drop_eq_getElem_cons hlt, List.take_append_drop]
  · intro b'
    rw [List.set_eq_take_append_cons_drop, if_pos hlt]

/-- The batches after one was replaced. -/
theorem getElem?_set_batch {l : List (Batch τ)} {c : ℕ} {b : Batch τ} (h : l[c]? = some b)
    (b' : Batch τ) (d : ℕ) : (l.set c b')[d]? = if d = c then some b' else l[d]? := by
  have hlt := (List.getElem?_eq_some_iff.mp h).1
  rw [List.getElem?_set]
  by_cases hdc : d = c
  · subst hdc
    simp [hlt]
  · rw [if_neg (Ne.symm hdc), if_neg hdc]

/-- What handling an item does. -/
theorem handle_cases {s s' : Handout τ} {c : ℕ} (h : s.handle c = some s') :
    ∃ tag done n rest, s.batches[c]? = some ⟨tag, done, n :: rest, true⟩ ∧
      s' = { s with
        batches := s.batches.set c ⟨tag, done ++ [n], rest, true⟩
        log := s.log ++ [⟨c, tag, n⟩] } := by
  rw [handle] at h
  split at h
  · rename_i tag done n rest hb
    exact ⟨tag, done, n, rest, hb, (Option.some.inj h).symm⟩
  · contradiction

theorem close_cases {s s' : Handout τ} {c : ℕ} (h : s.close c = some s') :
    ∃ tag done rest, s.batches[c]? = some ⟨tag, done, rest, true⟩ ∧
      s' = { s with batches := s.batches.set c ⟨tag, done, rest, false⟩ } := by
  rw [close] at h
  split at h
  · rename_i tag done rest hb
    exact ⟨tag, done, rest, hb, (Option.some.inj h).symm⟩
  · contradiction

theorem Sound.handle {s s' : Handout τ} (hs : s.Sound) {c : ℕ} (h : s.handle c = some s') :
    s'.Sound := by
  rcases handle_cases h with ⟨tag, done, n, rest, hb, rfl⟩
  have heach := hs.each c _ hb
  rcases split_batches hb with ⟨before, after, hsplit, hlen, hset⟩
  have hall := hs.all
  have hhandled := hs.handled
  rw [hsplit, List.flatMap_append, List.flatMap_cons] at hall hhandled
  have hget := getElem?_set_batch hb ⟨tag, done ++ [n], rest, true⟩
  refine ⟨?_, ?_, ?_, ?_⟩ <;> dsimp only
  · rw [hset, List.flatMap_append, List.flatMap_cons, ← hall]
    simp [Batch.items]
  · rw [hset, List.flatMap_append, List.flatMap_cons, List.map_append]
    have hone := hhandled.append_right [n]
    apply hone.trans
    simp only [List.append_assoc]
    apply List.Perm.append_left
    apply List.Perm.append_left
    exact List.perm_append_comm
  · intro d b hd
    rw [hget] at hd
    rw [List.filter_append, List.map_append]
    by_cases hdc : d = c
    · subst hdc
      rw [if_pos rfl, Option.some.injEq] at hd
      rw [← hd, heach]
      simp
    · rw [if_neg hdc] at hd
      rw [hs.each d b hd]
      simp [Ne.symm hdc]
  · intro e he
    rw [hget]
    rw [List.mem_append, List.mem_singleton] at he
    rcases he with he | rfl
    · rcases hs.known e he with ⟨b, hbe, htag⟩
      by_cases hec : e.batch = c
      · rw [hec, hb, Option.some.injEq] at hbe
        rw [if_pos hec]
        exact ⟨_, rfl, by rw [← htag, ← hbe]⟩
      · rw [if_neg hec]
        exact ⟨b, hbe, htag⟩
    · rw [if_pos rfl]
      exact ⟨_, rfl, rfl⟩

theorem Sound.close {s s' : Handout τ} (hs : s.Sound) {c : ℕ} (h : s.close c = some s') :
    s'.Sound := by
  rcases close_cases h with ⟨tag, done, rest, hb, rfl⟩
  rcases split_batches hb with ⟨before, after, hsplit, hlen, hset⟩
  have hall := hs.all
  have hhandled := hs.handled
  rw [hsplit, List.flatMap_append, List.flatMap_cons] at hall hhandled
  have hget := getElem?_set_batch hb ⟨tag, done, rest, false⟩
  refine ⟨?_, ?_, ?_, ?_⟩ <;> dsimp only
  · rw [hset, List.flatMap_append, List.flatMap_cons]
    exact hall
  · rw [hset, List.flatMap_append, List.flatMap_cons]
    exact hhandled
  · intro d b hd
    rw [hget] at hd
    by_cases hdc : d = c
    · subst hdc
      rw [if_pos rfl, Option.some.injEq] at hd
      rw [← hd]
      exact hs.each d ⟨tag, done, rest, true⟩ hb
    · rw [if_neg hdc] at hd
      exact hs.each d b hd
  · intro e he
    rcases hs.known e he with ⟨b, hbe, htag⟩
    rw [hget]
    by_cases hec : e.batch = c
    · rw [hec, hb, Option.some.injEq] at hbe
      rw [if_pos hec]
      exact ⟨_, rfl, by rw [← htag, ← hbe]⟩
    · rw [if_neg hec]
      exact ⟨b, hbe, htag⟩

/-- The items that batches have behind them are among their items, in the same order. -/
theorem done_sublist (l : List (Batch τ)) :
    (l.flatMap Batch.done).Sublist (l.flatMap Batch.items) := by
  induction l with
  | nil => exact List.Sublist.refl _
  | cons b l ih =>
    rw [List.flatMap_cons, List.flatMap_cons]
    exact (List.sublist_append_left b.done b.rest).append ih

/-- No item is handled twice. -/
theorem Sound.once {s : Handout τ} (hs : s.Sound) : (s.log.map Handled.item).Nodup := by
  rw [hs.handled.nodup_iff]
  have hall := hs.all
  have hsub : (s.batches.flatMap Batch.items).Sublist (List.range s.next) := by
    rw [← hall]
    exact List.sublist_append_left _ _
  exact List.nodup_range.sublist ((done_sublist s.batches).trans hsub)

/-- An item that was put has been handled, or waits in the queue, or is left in a batch. -/
theorem Sound.place {s : Handout τ} (hs : s.Sound) {n : ℕ} (hn : n < s.next) :
    n ∈ s.log.map Handled.item ∨ n ∈ s.queue ∨ ∃ b ∈ s.batches, n ∈ b.rest := by
  have hmem : n ∈ s.batches.flatMap Batch.items ++ s.queue := by
    rw [hs.all]
    exact List.mem_range.mpr hn
  rw [List.mem_append, List.mem_flatMap] at hmem
  rcases hmem with ⟨b, hb, hitem⟩ | hqueue
  · rw [Batch.items, List.mem_append] at hitem
    rcases hitem with hdone | hrest
    · left
      rw [hs.handled.mem_iff, List.mem_flatMap]
      exact ⟨b, hb, hdone⟩
    · exact Or.inr (Or.inr ⟨b, hb, hrest⟩)
  · exact Or.inr (Or.inl hqueue)

/-- A batch that ended has nothing left in it. -/
def Complete (s : Handout τ) : Prop := ∀ b ∈ s.batches, b.running = false → b.rest = []

theorem Complete.take {s : Handout τ} (h : s.Complete) (tag : τ) : (s.take tag).Complete := by
  intro b hb hrun
  rw [Handout.take, List.mem_append, List.mem_singleton] at hb
  rcases hb with hb | rfl
  · exact h b hb hrun
  · contradiction

theorem Complete.handle {s s' : Handout τ} (h : s.Complete) {c : ℕ} (hrun : s.handle c = some s') :
    s'.Complete := by
  rcases handle_cases hrun with ⟨tag, done, n, rest, -, rfl⟩
  intro b hb hclosed
  rcases List.mem_or_eq_of_mem_set hb with hb | rfl
  · exact h b hb hclosed
  · contradiction

/-- Batches stay complete when one ends that has nothing left. -/
theorem Complete.close {s s' : Handout τ} (h : s.Complete) {c : ℕ} (hrun : s.close c = some s')
    (hrest : ∀ b, s.batches[c]? = some b → b.rest = []) : s'.Complete := by
  rcases close_cases hrun with ⟨tag, done, rest, hb, rfl⟩
  intro b hmem hclosed
  rcases List.mem_or_eq_of_mem_set hmem with hmem | rfl
  · exact h b hmem hclosed
  · exact hrest ⟨tag, done, rest, true⟩ hb

/-! ## A consumer with one batch at a time -/

variable [DecidableEq τ]

/-- A running batch of the tag is the last one of the tag. -/
def LastRuns (t : τ) (l : List (Batch τ)) : Prop :=
  ∀ before after b, l = before ++ b :: after → b.tag = t → b.running = true →
    ∀ b' ∈ after, b'.tag ≠ t

omit [DecidableEq τ] in
/-- A batch may be replaced by one of the same tag, running only if it was running. -/
theorem LastRuns.replace {t : τ} {before after : List (Batch τ)} {b b' : Batch τ}
    (h : LastRuns t (before ++ b :: after)) (htag : b'.tag = b.tag)
    (hrun : b'.running = true → b.running = true) : LastRuns t (before ++ b' :: after) := by
  intro before' after' c hsplit hc hcrun
  rw [List.append_eq_append_iff] at hsplit
  rcases hsplit with ⟨mid, hbefore, hmid⟩ | ⟨mid, hbefore, hmid⟩
  · cases mid with
    | nil =>
      simp only [List.nil_append, List.cons.injEq] at hmid
      rw [← hmid.1] at hc hcrun
      rw [← hmid.2]
      exact h before after b rfl (htag.symm.trans hc) (hrun hcrun)
    | cons m mid =>
      simp only [List.cons_append, List.cons.injEq] at hmid
      exact h (before ++ b :: mid) after' c (by rw [hmid.2]; simp) hc hcrun
  · cases mid with
    | nil =>
      simp only [List.nil_append, List.cons.injEq] at hmid
      rw [hmid.1] at hc hcrun
      rw [hmid.2]
      exact h before after b rfl (htag.symm.trans hc) (hrun hcrun)
    | cons m mid =>
      simp only [List.cons_append, List.cons.injEq] at hmid
      have hlast := h before' (mid ++ b :: after) c (by rw [hbefore, hmid.1]; simp) hc hcrun
      intro c' hc'
      rw [hmid.2, List.mem_append, List.mem_cons] at hc'
      rcases hc' with hmem | rfl | hmem
      · exact hlast c' (by simp [hmem])
      · rw [htag]
        exact hlast b (by simp)
      · exact hlast c' (by simp [hmem])

/-- The running batch of a tag is the last of that tag, and what was handled under the tag is what
its batches have behind them, in order. -/
structure Sequential (t : τ) (s : Handout τ) : Prop where
  last : LastRuns t s.batches
  inOrder : (s.log.filter fun e => e.tag = t).map Handled.item =
    (s.batches.filter fun b => b.tag = t).flatMap Batch.done

theorem Sequential.empty (t : τ) : Sequential t (empty : Handout τ) :=
  ⟨by simp [LastRuns, Handout.empty], rfl⟩

theorem Sequential.put {t : τ} {s : Handout τ} (h : Sequential t s) : Sequential t s.put :=
  ⟨h.last, h.inOrder⟩

/-- A batch of the tag is taken only while none of it is running. -/
theorem Sequential.take {t : τ} {s : Handout τ} (h : Sequential t s) {tag : τ}
    (hidle : tag = t → ∀ b ∈ s.batches, b.tag = t → b.running = false) :
    Sequential t (s.take tag) := by
  constructor
  · intro before after b hsplit hb hrun
    change s.batches ++ [⟨tag, [], s.queue, true⟩] = before ++ b :: after at hsplit
    rcases List.eq_nil_or_concat after with rfl | ⟨after', b', rfl⟩
    · simp
    · have hsplit' : s.batches ++ [⟨tag, [], s.queue, true⟩] = (before ++ b :: after') ++ [b'] := by
        rw [hsplit]
        simp
      rcases List.append_inj' hsplit' rfl with ⟨hold, hnew⟩
      rw [List.cons.injEq] at hnew
      have hmem : b ∈ s.batches := by
        rw [hold]
        simp
      intro b'' hb''
      rw [List.concat_eq_append, List.mem_append, List.mem_singleton] at hb''
      rcases hb'' with hafter | rfl
      · exact h.last before after' b hold hb hrun b'' hafter
      · intro htag
        rw [← hnew.1] at htag
        have := hidle htag b hmem hb
        rw [hrun] at this
        contradiction
  · have hnew : (([⟨tag, [], s.queue, true⟩] : List (Batch τ)).filter fun b => b.tag = t).flatMap
        Batch.done = [] := by
      by_cases htag : tag = t <;> simp [htag]
    rw [Handout.take, List.filter_append, List.flatMap_append, hnew, List.append_nil]
    exact h.inOrder

theorem Sequential.handle {t : τ} {s s' : Handout τ} (h : Sequential t s) {c : ℕ}
    (hrun : s.handle c = some s') : Sequential t s' := by
  rcases handle_cases hrun with ⟨tag, done, n, rest, hb, rfl⟩
  rcases split_batches hb with ⟨before, after, hsplit, hlen, hset⟩
  have hlast := h.last
  have horder := h.inOrder
  rw [hsplit] at hlast horder
  constructor <;> dsimp only <;> rw [hset]
  · exact hlast.replace rfl (fun _ => rfl)
  · rw [List.filter_append, List.map_append, horder, List.filter_append, List.filter_append,
      List.flatMap_append, List.flatMap_append]
    by_cases htag : tag = t
    · have hnone : (after.filter fun b => b.tag = t) = [] := by
        rw [List.filter_eq_nil_iff]
        intro b' hb'
        simpa using hlast before after _ rfl htag rfl b' hb'
      simp [htag, hnone]
    · simp [htag]

theorem Sequential.close {t : τ} {s s' : Handout τ} (h : Sequential t s) {c : ℕ}
    (hrun : s.close c = some s') : Sequential t s' := by
  rcases close_cases hrun with ⟨tag, done, rest, hb, rfl⟩
  rcases split_batches hb with ⟨before, after, hsplit, hlen, hset⟩
  have hlast := h.last
  have horder := h.inOrder
  rw [hsplit] at hlast horder
  constructor <;> dsimp only <;> rw [hset]
  · exact hlast.replace rfl (fun _ => rfl)
  · rw [horder, List.filter_append, List.filter_append, List.flatMap_append, List.flatMap_append,
      List.filter_cons, List.filter_cons]
    by_cases htag : tag = t <;> simp [htag]

/-- A consumer with one batch at a time handles its items in the order in which they were put. -/
theorem Sequential.increasing {t : τ} {s : Handout τ} (h : Sequential t s) (hs : s.Sound) :
    ((s.log.filter fun e => e.tag = t).map Handled.item).Pairwise (· < ·) := by
  rw [h.inOrder]
  have hfilter : ((s.batches.filter fun b => b.tag = t).flatMap Batch.items).Sublist
      (s.batches.flatMap Batch.items) := by
    induction s.batches with
    | nil => exact List.Sublist.refl _
    | cons b l ih =>
      rw [List.filter_cons]
      split
      · rw [List.flatMap_cons, List.flatMap_cons]
        exact (List.Sublist.refl _).append ih
      · rw [List.flatMap_cons]
        exact ih.trans (List.sublist_append_right _ _)
  have hall : (s.batches.flatMap Batch.items).Sublist (List.range s.next) := by
    rw [← hs.all]
    exact List.sublist_append_left _ _
  exact List.pairwise_lt_range.sublist (((done_sublist _).trans hfilter).trans hall)

end Handout

end DecoderSDK.Batching
