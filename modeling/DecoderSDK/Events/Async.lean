import DecoderSDK.Batching.Handout
import DecoderSDK.Events.Dispatcher

/-! # Asynchronous events

Events that are not triggered on the main thread go through a queue. A thread
that can be started and stopped takes them out in batches, and the main
thread may do so as well. An exception of a listener ends the batch that it is
thrown in.
-/
namespace DecoderSDK.Events
open Batching Interleaving

inductive ConnectionType where
  | kAuto
  | kDirect
  | kQueued
  deriving DecidableEq

/-- Who calls `process` on the queue. -/
inductive Caller where
  | asyncThread
  | poll
  deriving DecidableEq

/-- The processing thread: before the test of its loop, waiting for events, in a call of
`process`, or at its end. -/
inductive Thread where
  | none
  | test
  | waiting
  | processing (call : ℕ)
  | ended
  deriving DecidableEq

/-- The queue with the events by number, and the threads that use it. A caller of
`stopAsyncProcessing` is `joining` until the thread has ended. -/
structure AsyncEvents (α : Type*) where
  asyncQueue : Handout Caller
  enqueued : List (EventType × α)
  direct : List (EventType × α)
  asyncProcessingActive : Bool
  stopAsyncProcessing : Bool
  thread : Thread
  joining : Bool
  deriving DecidableEq

variable {α : Type*}

namespace AsyncEvents

def initial : AsyncEvents α := ⟨.empty, [], [], false, false, .none, false⟩

def determineConnectionType (isMainThread : Bool) : ConnectionType → ConnectionType
  | .kAuto => if isMainThread then .kDirect else .kQueued
  | requested => requested

def triggerEvent (s : AsyncEvents α) (isMainThread : Bool) (connectType : ConnectionType)
    (eventType : EventType) (args : α) : AsyncEvents α :=
  match determineConnectionType isMainThread connectType with
  | .kAuto | .kDirect => { s with direct := s.direct ++ [(eventType, args)] }
  | .kQueued =>
    { s with asyncQueue := s.asyncQueue.put, enqueued := s.enqueued ++ [(eventType, args)] }

/-- `doCanProcess`: the queue also counts as not empty while a batch is being handled. -/
def canProcess (s : AsyncEvents α) : Bool :=
  !s.asyncQueue.queue.isEmpty || s.asyncQueue.batches.any Batch.running

/-- A call of `process` is over: if it was the thread's, that goes on with its loop. -/
def ended (s : AsyncEvents α) (call : ℕ) : AsyncEvents α :=
  { s with thread := if s.thread = .processing call then .test else s.thread }

/-- The next event of a call goes to its listeners. -/
def dispatch (s : AsyncEvents α) (call : ℕ) (throws : Bool) : Option (AsyncEvents α) :=
  (s.asyncQueue.handle call).bind fun q =>
    if throws then (q.close call).map fun q => ({ s with asyncQueue := q }).ended call
    else some { s with asyncQueue := q }

def finish (s : AsyncEvents α) (call : ℕ) : Option (AsyncEvents α) :=
  if (s.asyncQueue.batches[call]?).any fun b => b.rest.isEmpty then
    (s.asyncQueue.close call).map fun q => ({ s with asyncQueue := q }).ended call
  else none

def startAsyncProcessing (s : AsyncEvents α) : AsyncEvents α :=
  if s.asyncProcessingActive then s
  else { s with stopAsyncProcessing := false, asyncProcessingActive := true, thread := .test }

/-- The part of `stopAsyncProcessing` before it joins the thread. -/
def beginStop (s : AsyncEvents α) : AsyncEvents α :=
  if !s.asyncProcessingActive then s
  else { s with stopAsyncProcessing := true, asyncProcessingActive := false, joining := true }

inductive Action (α : Type*) where
  | triggerEvent (isMainThread : Bool) (connectType : ConnectionType) (eventType : EventType) (args : α)
  | processAsyncEvents
  | dispatch (call : ℕ) (throws : Bool)
  | finish (call : ℕ)
  | startAsyncProcessing
  | stopAsyncProcessing
  | join
  | loopTest
  | timeout
  | wake
  deriving DecidableEq

/-- Starting and stopping is up to one thread: it does neither while it joins. -/
def step (s : AsyncEvents α) : Action α → Option (AsyncEvents α)
  | .triggerEvent main connectType eventType args => some (s.triggerEvent main connectType eventType args)
  | .processAsyncEvents => some { s with asyncQueue := s.asyncQueue.take .poll }
  | .dispatch call throws => s.dispatch call throws
  | .finish call => s.finish call
  | .startAsyncProcessing => if s.joining then none else some s.startAsyncProcessing
  | .stopAsyncProcessing => if s.joining then none else some s.beginStop
  | .join =>
    if s.joining ∧ s.thread = .ended then some { s with thread := .none, joining := false } else none
  | .loopTest =>
    if s.thread = .test then
      some { s with thread := if s.stopAsyncProcessing then .ended else .waiting }
    else none
  | .timeout => if s.thread = .waiting ∧ !s.canProcess then some { s with thread := .test } else none
  | .wake =>
    if s.thread = .waiting ∧ s.canProcess then
      some { s with
        asyncQueue := s.asyncQueue.take .asyncThread
        thread := .processing s.asyncQueue.batches.length }
    else none

/-- The queue is sound, the thread has at most one batch, the one it is processing, and it is
there exactly from a start to the end of the stop that follows. -/
structure Consistent (s : AsyncEvents α) : Prop where
  sound : s.asyncQueue.Sound
  sequential : s.asyncQueue.Sequential .asyncThread
  numbered : s.asyncQueue.next = s.enqueued.length
  processing : ∀ c b, s.asyncQueue.batches[c]? = some b → b.tag = .asyncThread →
    b.running = true → s.thread = .processing c
  batch : ∀ c, s.thread = .processing c → ∃ done rest,
    s.asyncQueue.batches[c]? = some ⟨.asyncThread, done, rest, true⟩
  started : s.thread ≠ .none ↔ (s.asyncProcessingActive = true ∨ s.joining = true)
  running : s.asyncProcessingActive = true → s.stopAsyncProcessing = false ∧ s.joining = false
  stopped : s.thread = .ended → s.stopAsyncProcessing = true
  joined : s.joining = true → s.stopAsyncProcessing = true

theorem Consistent.initial : Consistent (initial : AsyncEvents α) :=
  ⟨.empty, .empty _, rfl, by simp [AsyncEvents.initial, Handout.empty],
    by simp [AsyncEvents.initial], by simp [AsyncEvents.initial], by simp [AsyncEvents.initial],
    by simp [AsyncEvents.initial], by simp [AsyncEvents.initial]⟩

/-- The thread is not in a call of `process` unless one of its batches runs. -/
theorem Consistent.idle {s : AsyncEvents α} (h : Consistent s) (ht : ∀ c, s.thread ≠ .processing c) :
    ∀ b ∈ s.asyncQueue.batches, b.tag = .asyncThread → b.running = false := by
  intro b hb htag
  by_contra hrun
  rcases List.getElem?_of_mem hb with ⟨c, hc⟩
  exact ht c (h.processing c b hc htag (by simpa using hrun))

/-- A batch is replaced by one of the same tag that still runs. -/
theorem Consistent.handle {s : AsyncEvents α} (h : Consistent s) {call : ℕ} {q : Handout Caller}
    (hrun : s.asyncQueue.handle call = some q) : Consistent { s with asyncQueue := q } := by
  have hcases := Handout.handle_cases hrun
  rcases hcases with ⟨tag, done, n, rest, hb, hq⟩
  have hget := Handout.getElem?_set_batch hb ⟨tag, done ++ [n], rest, true⟩
  refine ⟨h.sound.handle hrun, h.sequential.handle hrun, ?_, ?_, ?_, h.started, h.running, h.stopped,
    h.joined⟩
  · rw [hq]
    exact h.numbered
  · intro c b hc htag hrunning
    rw [hq] at hc
    dsimp only at hc
    rw [hget] at hc
    split at hc
    · rename_i hcc
      rw [Option.some.injEq] at hc
      rw [hcc]
      exact h.processing call _ hb (by rw [← hc] at htag; exact htag) rfl
    · exact h.processing c b hc htag hrunning
  · intro c hc
    rcases h.batch c hc with ⟨done', rest', hcb⟩
    rw [hq]
    dsimp only
    rw [hget]
    split
    · rename_i hcc
      rw [hcc, hb, Option.some.injEq, Batch.mk.injEq] at hcb
      rw [hcb.1]
      exact ⟨_, _, rfl⟩
    · exact ⟨done', rest', hcb⟩

/-- A call of `process` is over. -/
theorem Consistent.close {s : AsyncEvents α} (h : Consistent s) {call : ℕ} {q : Handout Caller}
    (hrun : s.asyncQueue.close call = some q) :
    Consistent (({ s with asyncQueue := q } : AsyncEvents α).ended call) := by
  rcases Handout.close_cases hrun with ⟨tag, done, rest, hb, hq⟩
  have hget := Handout.getElem?_set_batch hb ⟨tag, done, rest, false⟩
  have hthread : (({ s with asyncQueue := q } : AsyncEvents α).ended call).thread =
      if s.thread = .processing call then .test else s.thread := rfl
  have hqueue : (({ s with asyncQueue := q } : AsyncEvents α).ended call).asyncQueue = q := rfl
  have hsame : (if s.thread = .processing call then Thread.test else s.thread) = .ended ↔
      s.thread = .ended := by
    split
    · rename_i heq
      simp [heq]
    · rfl
  have hsome : (if s.thread = .processing call then Thread.test else s.thread) ≠ .none ↔
      s.thread ≠ .none := by
    split
    · rename_i heq
      simp [heq]
    · rfl
  refine ⟨h.sound.close hrun, h.sequential.close hrun, ?_, ?_, ?_, ?_, h.running, ?_, h.joined⟩
  · rw [hqueue, hq]
    exact h.numbered
  · intro c b hc htag hrunning
    rw [hqueue, hq] at hc
    dsimp only at hc
    rw [hget] at hc
    split at hc
    · rw [Option.some.injEq] at hc
      rw [← hc] at hrunning
      contradiction
    · rename_i hcc
      have hproc := h.processing c b hc htag hrunning
      rw [hthread, hproc, if_neg (by simpa using hcc)]
  · intro c hc
    rw [hthread] at hc
    split at hc
    · contradiction
    · rename_i hother
      rcases h.batch c hc with ⟨done', rest', hcb⟩
      have hcc : c ≠ call := by
        intro hcc
        rw [hcc] at hc
        exact hother hc
      rw [hqueue, hq]
      dsimp only
      rw [hget, if_neg hcc]
      exact ⟨done', rest', hcb⟩
  · rw [hthread, hsome]
    exact h.started
  · rw [hthread, hsame]
    exact h.stopped

/-- A batch is taken by a caller other than the thread. -/
theorem Consistent.poll {s : AsyncEvents α} (h : Consistent s) :
    Consistent { s with asyncQueue := s.asyncQueue.take .poll } := by
  refine ⟨h.sound.take _, h.sequential.take (fun heq => absurd heq (by simp)), h.numbered, ?_, ?_,
    h.started, h.running, h.stopped, h.joined⟩
  · intro c b hc htag hrunning
    change (s.asyncQueue.batches ++ [⟨.poll, [], s.asyncQueue.queue, true⟩])[c]? = some b at hc
    rcases Nat.lt_or_ge c s.asyncQueue.batches.length with hlt | hge
    · rw [List.getElem?_append_left hlt] at hc
      exact h.processing c b hc htag hrunning
    · rw [List.getElem?_append_right hge, List.getElem?_singleton] at hc
      split at hc
      · rw [Option.some.injEq] at hc
        rw [← hc] at htag
        contradiction
      · contradiction
  · intro c hc
    rcases h.batch c hc with ⟨done, rest, hcb⟩
    have hlt := (List.getElem?_eq_some_iff.mp hcb).1
    refine ⟨done, rest, ?_⟩
    change (s.asyncQueue.batches ++ [⟨.poll, [], s.asyncQueue.queue, true⟩])[c]? = _
    rw [List.getElem?_append_left hlt, hcb]

/-- The thread takes a batch, having none. -/
theorem Consistent.wake {s : AsyncEvents α} (h : Consistent s) (ht : s.thread = .waiting) :
    Consistent { s with
      asyncQueue := s.asyncQueue.take .asyncThread
      thread := .processing s.asyncQueue.batches.length } := by
  have hidle := h.idle (by simp [ht])
  refine ⟨h.sound.take _, h.sequential.take (fun _ => hidle), h.numbered, ?_, ?_, ?_, h.running, ?_,
    h.joined⟩
  · intro c b hc htag hrunning
    change (s.asyncQueue.batches ++ [⟨.asyncThread, [], s.asyncQueue.queue, true⟩])[c]? = some b at hc
    rcases Nat.lt_or_ge c s.asyncQueue.batches.length with hlt | hge
    · rw [List.getElem?_append_left hlt] at hc
      have := hidle b (List.mem_of_getElem? hc) htag
      rw [hrunning] at this
      contradiction
    · rw [List.getElem?_append_right hge, List.getElem?_singleton] at hc
      split at hc
      · have : c = s.asyncQueue.batches.length := by omega
        rw [this]
      · contradiction
  · intro c hc
    change Thread.processing s.asyncQueue.batches.length = .processing c at hc
    rw [Thread.processing.injEq] at hc
    refine ⟨[], s.asyncQueue.queue, ?_⟩
    change (s.asyncQueue.batches ++ [⟨.asyncThread, [], s.asyncQueue.queue, true⟩])[c]? = _
    rw [← hc]
    simp
  · rw [← h.started]
    simp [ht]
  · simp

theorem Consistent.step {s s' : AsyncEvents α} (h : Consistent s) {a : Action α}
    (hstep : s.step a = some s') : Consistent s' := by
  cases a with
  | triggerEvent main connectType eventType args =>
    rw [AsyncEvents.step, Option.some.injEq] at hstep
    rw [← hstep, triggerEvent]
    split
    · exact ⟨h.sound, h.sequential, h.numbered, h.processing, h.batch, h.started, h.running,
        h.stopped, h.joined⟩
    · exact ⟨h.sound, h.sequential, h.numbered, h.processing, h.batch, h.started, h.running,
        h.stopped, h.joined⟩
    · refine ⟨h.sound.put, h.sequential.put, ?_, h.processing, h.batch, h.started, h.running,
        h.stopped, h.joined⟩
      simp [Handout.put, h.numbered]
  | processAsyncEvents =>
    rw [AsyncEvents.step, Option.some.injEq] at hstep
    rw [← hstep]
    exact h.poll
  | dispatch call throws =>
    rw [AsyncEvents.step, dispatch, Option.bind_eq_some_iff] at hstep
    rcases hstep with ⟨q, hq, hrest⟩
    have hhandled := h.handle hq
    cases throws with
    | false =>
      rw [if_neg Bool.false_ne_true, Option.some.injEq] at hrest
      rwa [← hrest]
    | true =>
      rw [if_pos rfl, Option.map_eq_some_iff] at hrest
      rcases hrest with ⟨q', hq', heq⟩
      rw [← heq]
      exact hhandled.close hq'
  | finish call =>
    rw [AsyncEvents.step, finish] at hstep
    split at hstep
    · rw [Option.map_eq_some_iff] at hstep
      rcases hstep with ⟨q, hq, heq⟩
      rw [← heq]
      exact h.close hq
    · contradiction
  | startAsyncProcessing =>
    rw [AsyncEvents.step] at hstep
    split at hstep
    · contradiction
    · rename_i hjoin
      rw [Option.some.injEq] at hstep
      rw [← hstep, startAsyncProcessing]
      split
      · exact h
      · rename_i hactive
        -- the thread of an earlier start is gone
        have hnone : s.thread = .none := by
          by_contra hne
          rcases h.started.mp hne with hact | hj
          · exact hactive hact
          · exact hjoin hj
        refine ⟨h.sound, h.sequential, h.numbered, ?_, by simp, by simp, ?_, by simp, ?_⟩
        · intro c b hc htag hrunning
          have := h.processing c b hc htag hrunning
          rw [hnone] at this
          contradiction
        · intro _
          exact ⟨rfl, by simpa using hjoin⟩
        · intro hj
          exact absurd hj hjoin
  | stopAsyncProcessing =>
    rw [AsyncEvents.step] at hstep
    split at hstep
    · contradiction
    · rw [Option.some.injEq] at hstep
      rw [← hstep, beginStop]
      split
      · exact h
      · rename_i hactive
        refine ⟨h.sound, h.sequential, h.numbered, h.processing, h.batch, ?_, by simp, fun _ => rfl,
          fun _ => rfl⟩
        rw [h.started]
        simp_all
  | join =>
    rw [AsyncEvents.step] at hstep
    split at hstep
    · rename_i hcond
      rcases hcond with ⟨hjoin, hended⟩
      rw [Option.some.injEq] at hstep
      have hinactive : s.asyncProcessingActive = false := by
        by_contra hact
        have := (h.running (by simpa using hact)).2
        rw [hjoin] at this
        contradiction
      rw [← hstep]
      refine ⟨h.sound, h.sequential, h.numbered, ?_, by simp, by simp [hinactive], by simp [hinactive],
        by simp, by simp⟩
      intro c b hc htag hrunning
      have := h.processing c b hc htag hrunning
      rw [hended] at this
      contradiction
    · contradiction
  | loopTest =>
    rw [AsyncEvents.step] at hstep
    split at hstep
    · rename_i ht
      rw [Option.some.injEq] at hstep
      rw [← hstep]
      refine ⟨h.sound, h.sequential, h.numbered, ?_, ?_, ?_, h.running, ?_, h.joined⟩
      · intro c b hc htag hrunning
        have := h.processing c b hc htag hrunning
        rw [ht] at this
        contradiction
      · intro c hc
        dsimp only at hc
        split at hc <;> contradiction
      · rw [← h.started]
        dsimp only
        split <;> simp [ht]
      · intro hended
        dsimp only at hended
        split at hended
        · assumption
        · contradiction
    · contradiction
  | timeout =>
    rw [AsyncEvents.step] at hstep
    split at hstep
    · rename_i hcond
      rw [Option.some.injEq] at hstep
      rw [← hstep]
      refine ⟨h.sound, h.sequential, h.numbered, ?_, by simp, ?_, h.running, by simp, h.joined⟩
      · intro c b hc htag hrunning
        have := h.processing c b hc htag hrunning
        rw [hcond.1] at this
        contradiction
      · rw [← h.started]
        simp [hcond.1]
    · contradiction
  | wake =>
    rw [AsyncEvents.step] at hstep
    split at hstep
    · rename_i hcond
      rw [Option.some.injEq] at hstep
      rw [← hstep]
      exact h.wake hcond.1
    · contradiction

/-- A batch that ended early had a listener that threw. -/
theorem complete_step {s s' : AsyncEvents α} (h : s.asyncQueue.Complete) {a : Action α}
    (ha : ∀ call, a ≠ .dispatch call true) (hstep : s.step a = some s') : s'.asyncQueue.Complete := by
  cases a with
  | triggerEvent main connectType eventType args =>
    rw [step, Option.some.injEq] at hstep
    rw [← hstep, triggerEvent]
    split <;> exact h
  | processAsyncEvents =>
    rw [step, Option.some.injEq] at hstep
    rw [← hstep]
    exact h.take _
  | dispatch call throws =>
    cases throws with
    | true => exact absurd rfl (ha call)
    | false =>
      rw [step, dispatch, Option.bind_eq_some_iff] at hstep
      rcases hstep with ⟨q, hq, hrest⟩
      rw [if_neg Bool.false_ne_true, Option.some.injEq] at hrest
      rw [← hrest]
      exact h.handle hq
  | finish call =>
    rw [step, finish] at hstep
    split at hstep
    · rename_i hrest
      rw [Option.map_eq_some_iff] at hstep
      rcases hstep with ⟨q, hq, heq⟩
      rw [← heq]
      apply h.close hq
      intro b hb
      rw [hb, Option.any_some, List.isEmpty_iff] at hrest
      exact hrest
    · contradiction
  | startAsyncProcessing =>
    rw [step] at hstep
    split at hstep
    · contradiction
    · rw [Option.some.injEq] at hstep
      rw [← hstep, startAsyncProcessing]
      split <;> exact h
  | stopAsyncProcessing =>
    rw [step] at hstep
    split at hstep
    · contradiction
    · rw [Option.some.injEq] at hstep
      rw [← hstep, beginStop]
      split <;> exact h
  | join =>
    rw [step] at hstep
    split at hstep
    · rw [Option.some.injEq] at hstep
      rw [← hstep]
      exact h
    · contradiction
  | loopTest =>
    rw [step] at hstep
    split at hstep
    · rw [Option.some.injEq] at hstep
      rw [← hstep]
      exact h
    · contradiction
  | timeout =>
    rw [step] at hstep
    split at hstep
    · rw [Option.some.injEq] at hstep
      rw [← hstep]
      exact h
    · contradiction
  | wake =>
    rw [step] at hstep
    split at hstep
    · rw [Option.some.injEq] at hstep
      rw [← hstep]
      exact h.take _
    · contradiction

theorem consistent_of_run {s : AsyncEvents α} {as : List (Action α)}
    (hrun : run step AsyncEvents.initial as = some s) : Consistent s :=
  run_invariant (fun _ _ _ h hstep => h.step hstep) Consistent.initial hrun

/-- In every run each queued event waits in the queue or belongs to exactly one batch, batches are
consecutive pieces of what was queued, no event is dispatched twice, and none is left in a batch
that ended unless a listener threw. -/
theorem queued_once {s : AsyncEvents α} {as : List (Action α)}
    (hrun : run step AsyncEvents.initial as = some s) :
    s.asyncQueue.batches.flatMap Batch.items ++ s.asyncQueue.queue = List.range s.enqueued.length ∧
    (s.asyncQueue.log.map Handled.item).Nodup ∧
    (∀ n, n < s.enqueued.length → n ∈ s.asyncQueue.log.map Handled.item ∨ n ∈ s.asyncQueue.queue ∨
      ∃ b ∈ s.asyncQueue.batches, n ∈ b.rest) ∧
    ((∀ a ∈ as, ∀ call, a ≠ .dispatch call true) →
      ∀ b ∈ s.asyncQueue.batches, b.running = false → b.rest = []) := by
  have h := consistent_of_run hrun
  refine ⟨?_, h.sound.once, ?_, ?_⟩
  · rw [← h.numbered]
    exact h.sound.all
  · intro n hn
    rw [← h.numbered] at hn
    exact h.sound.place hn
  · intro hthrow
    have hempty : (AsyncEvents.initial : AsyncEvents α).asyncQueue.Complete := by
      intro b hb
      exact absurd hb List.not_mem_nil
    -- the steps of the run are those that no listener throws in
    suffices hgen : ∀ (as : List (Action α)) (s₀ : AsyncEvents α), s₀.asyncQueue.Complete →
        (∀ a ∈ as, ∀ call, a ≠ .dispatch call true) → run step s₀ as = some s →
        s.asyncQueue.Complete from hgen as _ hempty hthrow hrun
    intro as
    induction as with
    | nil =>
      intro s₀ hs₀ _ hrun
      rw [run, Option.some.injEq] at hrun
      rwa [← hrun]
    | cons a as ih =>
      intro s₀ hs₀ hthrow hrun
      rw [run, Option.bind_eq_some_iff] at hrun
      rcases hrun with ⟨s₁, hstep, hrest⟩
      exact ih s₁ (complete_step hs₀ (hthrow a List.mem_cons_self) hstep)
        (fun b hb => hthrow b (List.mem_cons_of_mem a hb)) hrest

/-- What the thread does by itself when no listener throws. -/
def Action.ofThread : Action α → Bool
  | .dispatch _ throws => !throws
  | .finish _ | .loopTest | .timeout | .wake => true
  | _ => false

/-- The thread gets through its batch. -/
theorem process_rest {c : ℕ} {rest : List ℕ} : ∀ {s : AsyncEvents α} {done : List ℕ},
    s.asyncQueue.batches[c]? = some ⟨.asyncThread, done, rest, true⟩ → s.thread = .processing c →
    ∃ bs t, (∀ a ∈ bs, a.ofThread = true) ∧ run step s bs = some t ∧ t.thread = .test ∧
      t.stopAsyncProcessing = s.stopAsyncProcessing ∧ t.asyncQueue.queue = s.asyncQueue.queue ∧
      t.asyncQueue.log.map Handled.item = s.asyncQueue.log.map Handled.item ++ rest := by
  induction rest with
  | nil =>
    intro s done hb ht
    have hclose : s.asyncQueue.close c = some
        { s.asyncQueue with batches := s.asyncQueue.batches.set c ⟨.asyncThread, done, [], false⟩ } := by
      simp only [Handout.close, hb]
    have hstep : s.step (.finish c) = some { s with
        asyncQueue := { s.asyncQueue with
          batches := s.asyncQueue.batches.set c ⟨.asyncThread, done, [], false⟩ }
        thread := .test } := by
      simp only [step, finish, hb, Option.any_some, List.isEmpty_nil, if_true, hclose,
        Option.map_some, ended, ht]
    have hrun : run step s [.finish c] = some { s with
        asyncQueue := { s.asyncQueue with
          batches := s.asyncQueue.batches.set c ⟨.asyncThread, done, [], false⟩ }
        thread := .test } := by rw [run, hstep, Option.bind_some, run]
    exact ⟨[.finish c], _, by simp [Action.ofThread], hrun, rfl, rfl, rfl, (List.append_nil _).symm⟩
  | cons n rest ih =>
    intro s done hb ht
    have hhandle : s.asyncQueue.handle c = some
        { s.asyncQueue with
          batches := s.asyncQueue.batches.set c ⟨.asyncThread, done ++ [n], rest, true⟩
          log := s.asyncQueue.log ++ [⟨c, .asyncThread, n⟩] } := by
      simp only [Handout.handle, hb]
    have hstep : s.step (.dispatch c false) = some { s with
        asyncQueue := { s.asyncQueue with
          batches := s.asyncQueue.batches.set c ⟨.asyncThread, done ++ [n], rest, true⟩
          log := s.asyncQueue.log ++ [⟨c, .asyncThread, n⟩] } } := by
      rw [step, dispatch, hhandle, Option.bind_some, if_neg Bool.false_ne_true]
    have hget := Handout.getElem?_set_batch hb ⟨.asyncThread, done ++ [n], rest, true⟩ c
    rw [if_pos rfl] at hget
    rcases ih (s := { s with
        asyncQueue := { s.asyncQueue with
          batches := s.asyncQueue.batches.set c ⟨.asyncThread, done ++ [n], rest, true⟩
          log := s.asyncQueue.log ++ [⟨c, .asyncThread, n⟩] } }) hget ht with
      ⟨bs, t, hown, hrun, htest, hstop, hqueue, hlog⟩
    refine ⟨.dispatch c false :: bs, t, ?_, ?_, htest, hstop, hqueue, ?_⟩
    · intro a ha
      rw [List.mem_cons] at ha
      rcases ha with rfl | ha
      · rfl
      · exact hown a ha
    · rw [run, hstep, Option.bind_some, hrun]
    · rw [hlog]
      simp

/-- The thread can empty the queue: its own steps dispatch all that is queued. -/
def Drains (s : AsyncEvents α) : Prop :=
  ∃ bs t, (∀ a ∈ bs, a.ofThread = true) ∧ run step s bs = some t ∧ t.asyncQueue.queue = [] ∧
    ∀ n ∈ s.asyncQueue.queue, n ∈ t.asyncQueue.log.map Handled.item

theorem Drains.of_run {s s' : AsyncEvents α} {as : List (Action α)}
    (has : ∀ a ∈ as, a.ofThread = true) (hrun : run step s as = some s')
    (hqueue : s'.asyncQueue.queue = s.asyncQueue.queue) (h : s'.Drains) : s.Drains := by
  rcases h with ⟨bs, t, hbs, hrun', hempty, hlog⟩
  refine ⟨as ++ bs, t, ?_, by rw [run_append hrun, hrun'], hempty, by rwa [hqueue] at hlog⟩
  intro a ha
  rw [List.mem_append] at ha
  rcases ha with ha | ha
  · exact has a ha
  · exact hbs a ha

theorem drains_waiting {s : AsyncEvents α} (ht : s.thread = .waiting) : s.Drains := by
  by_cases hempty : s.asyncQueue.queue = []
  · exact ⟨[], s, by simp, rfl, hempty, by simp [hempty]⟩
  · have hwake : s.step .wake = some
        { s with
          asyncQueue := s.asyncQueue.take .asyncThread
          thread := .processing s.asyncQueue.batches.length } := by
      rw [step, if_pos ⟨ht, by simp [canProcess, hempty]⟩]
    have hget : (s.asyncQueue.take .asyncThread).batches[s.asyncQueue.batches.length]? =
        some ⟨.asyncThread, [], s.asyncQueue.queue, true⟩ := by simp [Handout.take]
    rcases process_rest (s := { s with
        asyncQueue := s.asyncQueue.take .asyncThread
        thread := .processing s.asyncQueue.batches.length }) hget rfl with
      ⟨bs, t, hown, hrun, -, -, hqueue, hlog⟩
    refine ⟨.wake :: bs, t, ?_, by rw [run, hwake, Option.bind_some, hrun], hqueue, ?_⟩
    · intro a ha
      rw [List.mem_cons] at ha
      rcases ha with rfl | ha
      · rfl
      · exact hown a ha
    · intro n hn
      rw [hlog]
      exact List.mem_append_right _ hn

theorem drains_test {s : AsyncEvents α} (ht : s.thread = .test)
    (hstop : s.stopAsyncProcessing = false) : s.Drains := by
  have htest : s.step .loopTest = some { s with thread := .waiting } := by
    rw [step, if_pos ht, hstop]
    rfl
  have hrun : run step s [.loopTest] = some { s with thread := .waiting } := by
    rw [run, htest, Option.bind_some, run]
  exact Drains.of_run (by simp [Action.ofThread]) hrun rfl (drains_waiting rfl)

/-- In every run the events that the thread dispatches come in the order in which they were queued,
over all its starts; once a stop has returned it dispatches nothing; and while it is started it
can get through all that is queued. -/
theorem async_in_order {s : AsyncEvents α} {as : List (Action α)}
    (hrun : run step AsyncEvents.initial as = some s) :
    ((s.asyncQueue.log.filter fun e => e.tag = .asyncThread).map Handled.item).Pairwise (· < ·) ∧
    (s.asyncProcessingActive = false → s.joining = false →
      s.thread = .none ∧ ∀ b ∈ s.asyncQueue.batches, b.tag = .asyncThread → b.running = false) ∧
    (s.asyncProcessingActive = true → s.Drains) := by
  have h := consistent_of_run hrun
  refine ⟨h.sequential.increasing h.sound, ?_, ?_⟩
  · intro hactive hjoin
    have hnone : s.thread = .none := by
      by_contra hne
      rcases h.started.mp hne with hact | hj
      · rw [hactive] at hact
        contradiction
      · rw [hjoin] at hj
        contradiction
    exact ⟨hnone, h.idle (by simp [hnone])⟩
  · intro hactive
    have hstop := (h.running hactive).1
    cases hthread : s.thread with
    | none => exact absurd hthread (h.started.mpr (Or.inl hactive))
    | ended =>
      have := h.stopped hthread
      rw [hstop] at this
      contradiction
    | test => exact drains_test hthread hstop
    | waiting => exact drains_waiting hthread
    | processing c =>
      -- it gets through its batch first
      rcases h.batch c hthread with ⟨done, rest, hb⟩
      rcases process_rest hb hthread with ⟨bs, t, hown, hrun', htest, hst, hqueue, -⟩
      exact Drains.of_run hown hrun' hqueue (drains_test htest (hst.trans hstop))

/-- Two events are queued, the thread is stopped in the middle of the first batch and started again
for what came later. -/
def restart : List (Action ℕ) :=
  [.startAsyncProcessing, .triggerEvent false .kAuto .kStreamOpened 1,
    .triggerEvent false .kAuto .kDecodeStarted 2, .loopTest, .wake, .dispatch 0 false,
    .triggerEvent false .kQueued .kStreamClosed 3, .stopAsyncProcessing, .dispatch 0 false, .finish 0,
    .loopTest, .join, .startAsyncProcessing, .loopTest, .wake, .dispatch 1 false, .finish 1]

theorem restart_runs : (run step initial restart).isSome = true := by decide

theorem restart_once :
    (((run step initial restart).get restart_runs).asyncQueue.log.map Handled.item).Nodup :=
  (queued_once (Option.some_get restart_runs).symm).2.1

theorem restart_in_order :
    ((((run step initial restart).get restart_runs).asyncQueue.log.filter
      fun e => e.tag = .asyncThread).map Handled.item).Pairwise (· < ·) :=
  (async_in_order (Option.some_get restart_runs).symm).1

end AsyncEvents

end DecoderSDK.Events
