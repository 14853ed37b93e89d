import DecoderSDK.Interleaving.Runs
import DecoderSDK.Waiting.Condition

/-! # Monitors

An object behind one mutex, with condition variables, and the operations that
any number of threads call on it. An operation may test and store an atomic
before it takes the mutex; then it waits for its predicate, and does its body
and its notifications with the mutex. `Alarmed` says of a flag that whoever
raises it also notifies everyone, with the mutex and after the store; then
nobody sleeps while the flag is up and no notification is to come.
-/
namespace DecoderSDK.Waiting
open Interleaving

/-- How a condition variable is notified. -/
inductive Notification where
  | none
  | one
  | all
  deriving DecidableEq

/-- What the operations `Op` do to an object `σ` with condition variables `κ`. -/
structure Operations (σ Op κ : Type*) where
  /-- Whether the operation goes on, decided without the mutex. -/
  test : Op → σ → Bool
  /-- The store made without the mutex. -/
  store : Op → σ → σ
  /-- Whether the operation takes the mutex at all. -/
  locks : Op → Bool
  condition : Op → κ
  ready : Op → σ → Bool
  body : Op → σ → σ
  notifies : Op → σ → κ → Notification

/-- Where a thread stands in its operation. -/
inductive Pc (Op : Type*) where
  | idle
  | entering (op : Op)
  | storing (op : Op)
  | waiting (op : Op) (stage : Stage)
  | acting (op : Op)

namespace Pc
variable {Op : Type*}

/-- The thread holds the mutex. -/
def holds : Pc Op → Bool
  | .waiting _ stage => stage.holds
  | .acting _ => true
  | _ => false

/-- The thread has found its predicate false and was not woken since. -/
def asleep : Pc Op → Bool
  | .waiting _ stage => stage.asleep
  | _ => false

/-- The thread is between the store and the body of an operation of the given kind. -/
def committed (kind : Op → Bool) : Pc Op → Bool
  | .waiting op _ => kind op
  | .acting op => kind op
  | _ => false

end Pc

structure Monitor (ι σ Op : Type*) where
  state : σ
  owner : Option ι
  thread : ι → Pc Op

inductive Action (ι Op κ : Type*) where
  | call (i : ι) (op : Op)
  /-- The thread moves; `chosen` are the threads that a notification of one would wake. -/
  | move (i : ι) (chosen : κ → Option ι)

namespace Monitor
variable {ι σ Op κ : Type*} [DecidableEq ι]

def new (state : σ) : Monitor ι σ Op := ⟨state, none, fun _ => .idle⟩

/-- The thread `i` moves to `pc` and takes or releases the mutex accordingly. -/
def goto (m : Monitor ι σ Op) (i : ι) (pc : Pc Op) : Monitor ι σ Op where
  state := m.state
  owner := if pc.holds then some i else if (m.thread i).holds then none else m.owner
  thread := Function.update m.thread i pc

/-- What the notifications of an operation do to a thread. -/
def notified (ops : Operations σ Op κ) (op : Op) (s : σ) (chosen : κ → Option ι) (i : ι) :
    Pc Op → Pc Op
  | .waiting op' stage =>
    match ops.notifies op s (ops.condition op') with
    | .all => .waiting op' stage.notify
    | .one => if chosen (ops.condition op') = some i then .waiting op' stage.notify
      else .waiting op' stage
    | .none => .waiting op' stage
  | pc => pc

/-- The body of an operation with its notifications. -/
def act (m : Monitor ι σ Op) (ops : Operations σ Op κ) (op : Op) (chosen : κ → Option ι) :
    Monitor ι σ Op where
  state := ops.body op m.state
  owner := m.owner
  thread := fun i => notified ops op m.state chosen i (m.thread i)

def step (ops : Operations σ Op κ) (m : Monitor ι σ Op) :
    Action ι Op κ → Option (Monitor ι σ Op)
  | .call i op =>
    match m.thread i with
    | .idle => some (m.goto i (.entering op))
    | _ => none
  | .move i chosen =>
    match m.thread i with
    | .idle => none
    | .entering op => some (m.goto i (if ops.test op m.state then .storing op else .idle))
    | .storing op =>
      some ({ m with state := ops.store op m.state }.goto i
        (if ops.locks op then .waiting op .locking else .idle))
    | .waiting op stage =>
      (stage.next m.owner.isNone (ops.ready op m.state)).map fun stage' =>
        m.goto i (stage'.elim (.acting op) (.waiting op))
    | .acting op => some ((m.act ops op chosen).goto i .idle)

theorem notified_cases (ops : Operations σ Op κ) (op : Op) (s : σ) (chosen : κ → Option ι) (i : ι)
    (pc : Pc Op) : notified ops op s chosen i pc = pc ∨
      ∃ op' stage, pc = .waiting op' stage ∧
        notified ops op s chosen i pc = .waiting op' stage.notify := by
  cases pc with
  | waiting op' stage =>
    simp only [notified]
    cases ops.notifies op s (ops.condition op') with
    | all => exact Or.inr ⟨op', stage, rfl, rfl⟩
    | one =>
      simp only
      split_ifs
      · exact Or.inr ⟨op', stage, rfl, rfl⟩
      · exact Or.inl rfl
    | none => exact Or.inl rfl
  | idle | entering op' | storing op' | acting op' => exact Or.inl rfl

@[simp] theorem holds_notified (ops : Operations σ Op κ) (op : Op) (s : σ) (chosen : κ → Option ι)
    (i : ι) (pc : Pc Op) : (notified ops op s chosen i pc).holds = pc.holds := by
  rcases notified_cases ops op s chosen i pc with h | ⟨op', stage, rfl, h⟩
  · rw [h]
  · rw [h]
    exact stage.holds_notify

@[simp] theorem committed_notified (ops : Operations σ Op κ) (op : Op) (s : σ)
    (chosen : κ → Option ι) (i : ι) (pc : Pc Op) (kind : Op → Bool) :
    (notified ops op s chosen i pc).committed kind = pc.committed kind := by
  rcases notified_cases ops op s chosen i pc with h | ⟨op', stage, rfl, h⟩
  · rw [h]
  · rw [h]
    rfl

theorem asleep_of_notified {ops : Operations σ Op κ} {op : Op} {s : σ} {chosen : κ → Option ι}
    {i : ι} {pc : Pc Op} (h : (notified ops op s chosen i pc).asleep = true) :
    pc.asleep = true := by
  rcases notified_cases ops op s chosen i pc with heq | ⟨op', stage, rfl, heq⟩
  · rwa [heq] at h
  · rw [heq] at h
    rw [Stage.eq_parking_of_notify h]
    rfl

/-- After a notification of all only a thread that holds the mutex is still asleep. -/
theorem holds_of_notified_all {ops : Operations σ Op κ} {op : Op} {s : σ} {chosen : κ → Option ι}
    {i : ι} {pc : Pc Op} (hall : ∀ c, ops.notifies op s c = .all)
    (h : (notified ops op s chosen i pc).asleep = true) : pc.holds = true := by
  cases pc with
  | waiting op' stage =>
    simp only [notified, hall] at h
    rw [Stage.eq_parking_of_notify h]
    rfl
  | idle | entering op' | storing op' | acting op' => simp [notified, Pc.asleep] at h

/-- Whoever raises the flag wakes everyone, with the mutex and not before. -/
structure Alarmed (ops : Operations σ Op κ) (flag : σ → Bool) (alarm : Op → Bool) : Prop where
  ready_of_flag : ∀ op s, flag s = true → ops.ready op s = true
  store_flag : ∀ op s, flag (ops.store op s) = true →
    flag s = true ∨ alarm op = true ∧ ops.locks op = true
  body_flag : ∀ op s, flag (ops.body op s) = true →
    flag s = true ∨ ∀ c, ops.notifies op s c = .all
  alarm_all : ∀ op s, alarm op = true → ∀ c, ops.notifies op s c = .all

/-- A thread that sleeps while the flag is up is owed a notification. -/
structure Attended (flag : σ → Bool) (alarm : Op → Bool) (m : Monitor ι σ Op) : Prop where
  holder : ∀ i, (m.thread i).holds = true → m.owner = some i
  attended : flag m.state = true → ∀ i, (m.thread i).asleep = true →
    ∃ j, (m.thread j).committed alarm = true

omit [DecidableEq ι] in
theorem attended_new (flag : σ → Bool) (alarm : Op → Bool) (state : σ) :
    Attended flag alarm (new state : Monitor ι σ Op) :=
  ⟨fun _ h => by simp [new, Pc.holds] at h, fun _ _ h => by simp [new, Pc.asleep] at h⟩

/-- The mutex passes only to a thread that has it or finds it free. -/
theorem holder_goto {m : Monitor ι σ Op} (hm : ∀ i, (m.thread i).holds = true → m.owner = some i)
    {i : ι} {pc : Pc Op} (hpc : pc.holds = true → (m.thread i).holds = true ∨ m.owner = none) (j : ι)
    (hj : ((m.goto i pc).thread j).holds = true) : (m.goto i pc).owner = some j := by
  by_cases hij : j = i
  · subst hij
    simp only [goto, Function.update_self] at hj ⊢
    rw [if_pos hj]
  · simp only [goto, Function.update_of_ne hij] at hj ⊢
    have howner := hm j hj
    have hother : (m.thread i).holds = false := by
      by_contra h
      have hi := hm i (by simpa using h)
      rw [howner, Option.some.injEq] at hi
      exact hij hi
    have hpc' : pc.holds = false := by
      by_contra h
      rcases hpc (by simpa using h) with h' | h'
      · simp [hother] at h'
      · simp [howner] at h'
    rw [hpc', hother]
    exact howner

/-- A move that leaves the object alone. -/
theorem Attended.goto {flag : σ → Bool} {alarm : Op → Bool} {m : Monitor ι σ Op}
    (hm : Attended flag alarm m) {i : ι} {pc : Pc Op}
    (hholds : pc.holds = true → (m.thread i).holds = true ∨ m.owner = none)
    (hasleep : pc.asleep = true → (m.thread i).asleep = true ∨ flag m.state = false)
    (hcommitted : (m.thread i).committed alarm = true → pc.committed alarm = true) :
    Attended flag alarm (m.goto i pc) := by
  refine ⟨holder_goto hm.holder hholds, fun hflag j hj => ?_⟩
  have hold : ∃ j, (m.thread j).asleep = true := by
    by_cases hij : j = i
    · subst hij
      simp only [Monitor.goto, Function.update_self] at hj
      rcases hasleep hj with h | h
      · exact ⟨j, h⟩
      · exact absurd h (ne_of_eq_of_ne hflag (by simp))
    · simp only [Monitor.goto, Function.update_of_ne hij] at hj
      exact ⟨j, hj⟩
  obtain ⟨j, hj⟩ := hold
  obtain ⟨k, hk⟩ := hm.attended hflag j hj
  refine ⟨k, ?_⟩
  by_cases hki : k = i
  · subst hki
    simpa [Monitor.goto] using hcommitted hk
  · simpa [Monitor.goto, Function.update_of_ne hki] using hk

variable {ops : Operations σ Op κ} {flag : σ → Bool} {alarm : Op → Bool}

theorem Attended.store (hops : Alarmed ops flag alarm) {m : Monitor ι σ Op}
    (hm : Attended flag alarm m) {i : ι} {op : Op} (hi : m.thread i = .storing op) :
    Attended flag alarm ({ m with state := ops.store op m.state }.goto i
      (if ops.locks op then .waiting op .locking else .idle)) := by
  have hstage : ∀ b : Bool, (if b then Pc.waiting op .locking else .idle).holds = false ∧
      (if b then Pc.waiting op .locking else .idle).asleep = false := by
    intro b
    cases b <;> exact ⟨rfl, rfl⟩
  refine ⟨holder_goto hm.holder (by simp [hstage]), fun hflag j hj => ?_⟩
  rcases hops.store_flag op m.state hflag with hold | ⟨halarm, hlocks⟩
  · have hij : j ≠ i := by
      rintro rfl
      simp only [Monitor.goto, Function.update_self] at hj
      simp [hstage] at hj
    simp only [Monitor.goto, Function.update_of_ne hij] at hj
    obtain ⟨k, hk⟩ := hm.attended hold j hj
    have hki : k ≠ i := by
      rintro rfl
      simp [hi, Pc.committed] at hk
    exact ⟨k, by simpa [Monitor.goto, Function.update_of_ne hki] using hk⟩
  · exact ⟨i, by simpa [Monitor.goto, hlocks, Pc.committed] using halarm⟩

theorem Attended.act (hops : Alarmed ops flag alarm) {m : Monitor ι σ Op}
    (hm : Attended flag alarm m) {i : ι} {op : Op} (hi : m.thread i = .acting op)
    (chosen : κ → Option ι) : Attended flag alarm ((m.act ops op chosen).goto i .idle) := by
  have hholds (j : ι) : ((m.act ops op chosen).thread j).holds = (m.thread j).holds :=
    holds_notified ops op m.state chosen j (m.thread j)
  have hholder (j : ι) (hj : ((m.act ops op chosen).thread j).holds = true) :
      (m.act ops op chosen).owner = some j := by
    rw [hholds] at hj
    exact hm.holder j hj
  refine ⟨holder_goto hholder (by simp [Pc.holds]), fun hflag j hj => ?_⟩
  have hij : j ≠ i := by
    rintro rfl
    simp [Monitor.goto, Pc.asleep] at hj
  simp only [Monitor.goto, Function.update_of_ne hij, Monitor.act] at hj
  by_cases hall : ∀ c, ops.notifies op m.state c = .all
  · have hj' := hm.holder j (holds_of_notified_all hall hj)
    have hi' := hm.holder i (by rw [hi]; rfl)
    rw [hj', Option.some.injEq] at hi'
    exact absurd hi' hij
  · obtain ⟨k, hk⟩ := hm.attended ((hops.body_flag op m.state hflag).resolve_right hall) j
      (asleep_of_notified hj)
    have hki : k ≠ i := by
      rintro rfl
      rw [hi] at hk
      exact hall (hops.alarm_all op m.state hk)
    exact ⟨k, by simpa [Monitor.goto, Function.update_of_ne hki, Monitor.act] using hk⟩

theorem Attended.step (hops : Alarmed ops flag alarm) {m m' : Monitor ι σ Op}
    {a : Action ι Op κ} (hm : Attended flag alarm m) (h : m.step ops a = some m') :
    Attended flag alarm m' := by
  cases a with
  | call i op =>
    simp only [Monitor.step] at h
    split at h
    · next hi =>
      rw [Option.some.injEq] at h
      subst h
      exact hm.goto (by simp [Pc.holds]) (by simp [Pc.asleep]) (by simp [hi, Pc.committed])
    · simp at h
  | move i chosen =>
    simp only [Monitor.step] at h
    cases hi : m.thread i with
    | idle => simp [hi] at h
    | entering op =>
      simp only [hi, Option.some.injEq] at h
      subst h
      refine hm.goto ?_ ?_ (by simp [hi, Pc.committed])
      · split_ifs <;> simp [Pc.holds]
      · split_ifs <;> simp [Pc.asleep]
    | storing op =>
      simp only [hi, Option.some.injEq] at h
      subst h
      exact hm.store hops hi
    | waiting op stage =>
      simp only [hi, Option.map_eq_some_iff] at h
      rcases h with ⟨stage', hnext, rfl⟩
      have hfree : (m.thread i).holds = true ∨ m.owner = none := by
        rw [hi, ← Option.isNone_iff_eq_none]
        exact Stage.holds_of_next hnext
      cases stage' with
      | none =>
        refine hm.goto (fun _ => hfree) (by simp [Pc.asleep]) ?_
        rw [hi]
        exact id
      | some stage' =>
        refine hm.goto (fun _ => hfree) (fun hasleep => ?_) ?_
        · rcases Stage.asleep_of_next hnext hasleep with h | h
          · rw [hi]
            exact Or.inl h
          · right
            by_contra hflag
            rw [hops.ready_of_flag op m.state (by simpa using hflag)] at h
            simp at h
        · rw [hi]
          exact id
    | acting op =>
      simp only [hi, Option.some.injEq] at h
      subst h
      exact hm.act hops hi chosen

/-- Along every run nobody sleeps while the flag is up, unless the thread that has raised it is
still to notify. -/
theorem each_attended (hops : Alarmed ops flag alarm) (state : σ) (actions : List (Action ι Op κ)) :
    Each (step ops) (fun _ _ m => flag m.state = true → ∀ i, (m.thread i).asleep = true →
      ∃ j, (m.thread j).committed alarm = true) (new state) actions := by
  refine Each.of_invariant (fun m a m' hm _ hstep => ?_) (attended_new flag alarm state)
    (each_true _ actions)
  have hm' : Attended flag alarm m' := Attended.step hops hm hstep
  exact ⟨hm', hm'.attended⟩

end Monitor

end DecoderSDK.Waiting
