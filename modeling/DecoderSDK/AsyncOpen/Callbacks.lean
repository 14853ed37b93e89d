import DecoderSDK.AsyncOpen.Answers

/-! # Operations called from the callback

The callback runs in the task while the flag of the open is still set and the
future is the task's own. An operation that cancels a running open therefore
waits for the thread that it is called by. Either it never returns, or the wait
throws and is caught; `openAsync` goes on and replaces the future of its own
thread, which an exception in the destructor of the future ends with the program.
-/
namespace DecoderSDK.AsyncOpen
open Interleaving

/-- The thread has not got past a wait for the future. -/
def OpPc.early : OpPc → Bool
  | .clearCancel _ => false
  | .lock _ => false
  | .setCallback _ => false
  | .setInProgress => false
  | .resetCancel => false
  | .spawn => false
  | .assign _ => false
  | _ => true

theorem holds_of_early {pc : OpPc} (h : pc.early = true) : pc.holds = false := by
  cases pc with
  | setCallback | setInProgress | resetCancel | spawn | assign => cases h
  | _ => rfl

theorem holds_of_done {pc : TaskPc} (h : pc.done = true) : pc.holds = false := by
  cases pc with
  | leaving | returned => rfl
  | lock | cancelTest | internalTest | opening | cancelledTest | takeCallback | invoke | inCallback
  | clearProgress => cases h

namespace Controller

/-- The task waits for the completion of its own future. -/
def SelfWait (s : Controller) (k : ℕ) : Prop :=
  ((∃ job, s.tasks k = .inCallback (.wait job)) ∨
    ∃ task, s.tasks k = .inCallback (.assign task)) ∧ s.asyncOpenFuture = some k

/-- The task is blocked on itself, or has ended the program. -/
def Stuck (s : Controller) (k : ℕ) : Prop :=
  s.selfJoin = .blocks ∧ s.SelfWait k ∨ s.terminated = true

namespace Invariant

variable {s : Controller}

/-- While a task past the mutex is at work, no thread prepares the next one. -/
theorem control_of_working (h : Invariant s) {k : ℕ} (hk : k < s.spawned)
    (hworking : (s.tasks k).done = false) (hlock : s.tasks k ≠ .lock) :
    s.asyncOpenFuture = some k ∧ s.control.early = true := by
  have hnewest := h.newest hk hworking
  have hbusy : ¬s.Settled := by
    intro hsettled
    rw [hsettled k hk] at hworking
    cases hworking
  have hcontrol := h.control
  cases hpc : s.control with
  | clearCancel job =>
    rw [hpc] at hcontrol
    exact absurd hcontrol.2.2 hbusy
  | lock callback =>
    rw [hpc] at hcontrol
    exact absurd hcontrol.2.2 hbusy
  | setCallback callback =>
    rw [hpc] at hcontrol
    exact absurd hcontrol.2.2 hbusy
  | setInProgress =>
    rw [hpc] at hcontrol
    exact absurd hcontrol.2.2.1 hbusy
  | resetCancel =>
    rw [hpc] at hcontrol
    exact absurd hcontrol.2.2.1 hbusy
  | spawn =>
    rw [hpc] at hcontrol
    exact absurd hcontrol.2.2.1 hbusy
  | assign task =>
    rw [hpc] at hcontrol
    have hsame : task = k := by
      have htask := hcontrol.1
      omega
    exact absurd (hsame ▸ hcontrol.2.2.1) hlock
  | _ =>
    rw [hpc] at hcontrol
    exact ⟨hcontrol.1 k hnewest, rfl⟩

theorem inProgress_of_working (h : Invariant s) {k : ℕ} (hk : k < s.spawned)
    (hworking : (s.tasks k).done = false) : s.asyncOpenInProgress = true := by
  by_contra hfalse
  rw [h.progress (by simpa using hfalse) k hk] at hworking
  cases hworking

end Invariant

theorem step_of_move {s s' : Controller} {a : Action} (hrunning : s.terminated = false)
    (h : s.move a = some s') : s.step a = some s' := by
  rw [step, hrunning, if_neg Bool.false_ne_true, h]

/-- The callback of a task stands in an operation, and no other thread holds the mutex. -/
structure Inside (s : Controller) (join : SelfJoin) (k : ℕ) (pc : OpPc) : Prop where
  selfJoin : s.selfJoin = join
  spawned : k < s.spawned
  running : s.terminated = false
  task : s.tasks k = .inCallback pc
  future : s.asyncOpenFuture = some k
  progress : s.asyncOpenInProgress = true
  control : s.control.holds = false
  others : ∀ j < s.spawned, j ≠ k → (s.tasks j).holds = false

namespace Inside

variable {s : Controller} {join : SelfJoin} {k : ℕ} {pc : OpPc}

theorem locked (h : Inside s join k pc) (hpc : pc.holds = false) : s.locked = false := by
  rw [Controller.locked, h.control, Bool.false_or, List.any_eq_false]
  intro j hj
  by_cases hjk : j = k
  · rw [hjk, h.task, TaskPc.holds, hpc]
    exact Bool.false_ne_true
  · rw [h.others j (List.mem_range.mp hj) hjk]
    exact Bool.false_ne_true

theorem guarded (h : Inside s join k pc) (hpc : pc.holds = false) (pc' : OpPc) :
    s.guarded pc' = some (s, pc') := by
  rw [Controller.guarded, h.locked hpc, if_neg Bool.false_ne_true]

/-- The future is not ready before its task has returned. -/
theorem futureReady (h : Inside s join k pc) : s.futureReady = false := by
  rw [Controller.futureReady, h.future]
  simp [h.task]

theorem joinThrows (h : Inside s .throws k pc) : s.joinThrows (some k) = true := by
  simp [Controller.joinThrows, h.selfJoin, h.future]

/-- The operation goes on, and does not touch the future and the tasks. -/
theorem next (h : Inside s join k pc) {slot : Option ℕ} {flag cancel : Bool} {log : List Event}
    {v : Controller} (hv : v = { s with
      asyncOpenInProgress := flag
      shouldCancelAsyncOpen := cancel
      asyncOpenCallback := slot
      log := log }) (hflag : flag = true) (pc' : OpPc) :
    Inside (v.setTask k (.inCallback pc')) join k pc' := by
  subst hv
  refine ⟨h.selfJoin, h.spawned, h.running, Function.update_self _ _ _, h.future, hflag, h.control, ?_⟩
  intro j hj hjk
  simp only [setTask, Function.update_of_ne hjk]
  exact h.others j hj hjk

/-- A task is started. -/
theorem spawns (h : Inside s join k .spawn) :
    Inside ({ s.setTask s.spawned .lock with spawned := s.spawned + 1 }.setTask k
      (.inCallback (.assign s.spawned))) join k (.assign s.spawned) where
  selfJoin := h.selfJoin
  spawned := h.spawned.trans (Nat.lt_succ_self _)
  running := h.running
  task := Function.update_self _ _ _
  future := h.future
  progress := h.progress
  control := h.control
  others := by
    intro j hj hjk
    simp only [setTask, Function.update_of_ne hjk]
    by_cases hnew : j = s.spawned
    · rw [hnew, Function.update_self]
      rfl
    · rw [Function.update_of_ne hnew]
      exact h.others j (lt_of_le_of_ne (Nat.lt_succ_iff.mp hj) hnew) hjk

/-- A step of the operation that the callback has called. -/
theorem step (h : Inside s join k pc) (hidle : pc ≠ .idle) {v : Controller} {pc' : OpPc}
    (hmove : s.opMove (some k) pc = some (v, pc')) :
    s.step (.task k (.returned true)) = some (v.setTask k (.inCallback pc')) := by
  apply step_of_move h.running
  rw [move, if_pos h.spawned, Controller.taskMove, h.task]
  cases pc with
  | idle => exact absurd rfl hidle
  | _ =>
    simp only
    rw [hmove]
    rfl

end Inside

/-- A callback calls an operation. -/
theorem inside_call {s u : Controller} {k : ℕ} {op : Operation} (h : Invariant s)
    (hstep : s.step (.callBack k op) = some u) :
    Inside u s.selfJoin k (s.call op).2 := by
  have hmove := step_move hstep
  rw [move, Option.ite_none_right_eq_some] at hmove
  rw [Option.some.injEq] at hmove
  rcases hmove with ⟨⟨hk, hpc⟩, rfl⟩
  have hworking : (s.tasks k).done = false := by
    rw [hpc]
    rfl
  rcases h.control_of_working hk hworking (by rw [hpc]; simp) with ⟨hfuture, hcontrol⟩
  have hcalled : ∀ t : Controller, t.selfJoin = s.selfJoin → t.spawned = s.spawned →
      t.terminated = s.terminated → t.tasks = s.tasks → t.asyncOpenFuture = s.asyncOpenFuture →
      t.asyncOpenInProgress = s.asyncOpenInProgress → t.control = s.control →
      ∀ pc, Inside (t.setTask k (.inCallback pc)) s.selfJoin k pc := by
    intro t hjoin hspawned hrunning htasks hfuture' hprogress hcontrol' pc
    refine ⟨hjoin, hspawned ▸ hk, hrunning.trans h.running, Function.update_self _ _ _,
      hfuture'.trans hfuture, hprogress.trans (h.inProgress_of_working hk hworking),
      (congrArg OpPc.holds hcontrol').trans (holds_of_early hcontrol), ?_⟩
    intro j hj hjk
    have hnewest := h.newest hk hworking
    simp only [setTask, htasks, Function.update_of_ne hjk]
    apply holds_of_done
    apply h.old j
    change j < t.spawned at hj
    omega
  refine hcalled (s.call op).1 ?_ ?_ ?_ ?_ ?_ ?_ ?_ _ <;> cases op <;> rfl

/-- A state with the property may come, while other callbacks call `startDecode` only. -/
def MayReach (P : Controller → Prop) (s : Controller) : Prop :=
  ∃ more t, (∀ a ∈ more, Action.modest a = true) ∧ run step s more = some t ∧ P t

namespace MayReach

variable {P : Controller → Prop} {s u : Controller} {join : SelfJoin} {k : ℕ}

theorem of_step {a : Action} (ha : a.modest = true) (hstep : s.step a = some u)
    (h : u.MayReach P) : s.MayReach P := by
  rcases h with ⟨more, t, hmodest, hrun, hP⟩
  refine ⟨a :: more, t, ?_, ?_, hP⟩
  · intro b hb
    rcases List.mem_cons.mp hb with rfl | hb
    · exact ha
    · exact hmodest b hb
  · rw [run, hstep, Option.bind_some, hrun]

/-- A step of the operation that does not touch the future and the tasks. -/
theorem of_opMove {pc pc' : OpPc} (h : Inside s join k pc) (hidle : pc ≠ .idle) {v : Controller}
    (hmove : s.opMove (some k) pc = some (v, pc')) {slot : Option ℕ} {flag cancel : Bool}
    {log : List Event} (hv : v = { s with
      asyncOpenInProgress := flag
      shouldCancelAsyncOpen := cancel
      asyncOpenCallback := slot
      log := log }) (hflag : flag = true)
    (hnext : Inside (v.setTask k (.inCallback pc')) join k pc' →
      (v.setTask k (.inCallback pc')).MayReach P) : s.MayReach P :=
  of_step rfl (h.step hidle hmove) (hnext (h.next hv hflag pc'))

/-- The test of the flag leads the task to wait for itself. -/
theorem of_cancelTest {job : Job} (h : Inside s join k (.cancelTest job))
    (hwait : ∀ t, Inside t join k (.wait job) → t.MayReach P) : s.MayReach P := by
  have htest : s.opMove (some k) (.cancelTest job) = some (s, .setCancel job) := if_pos h.progress
  refine of_opMove h (by simp) htest rfl h.progress fun hset => ?_
  refine of_opMove hset (by simp) rfl rfl h.progress fun hinside => ?_
  exact hwait _ hinside

/-- Every operation but `startDecode` brings the task to wait for itself. -/
theorem of_call {op : Operation} (h : Invariant s) (hstep : s.step (.callBack k op) = some u)
    (hop : op ≠ .startDecode)
    (hwait : ∀ t job, (op = .openAsync → job.isOpenAsync = true) →
      Inside t s.selfJoin k (.wait job) → t.MayReach P) : u.MayReach P := by
  have hinside := inside_call h hstep
  have htest : ∀ t job, (op = .openAsync → job.isOpenAsync = true) →
      Inside t s.selfJoin k (.cancelTest job) → t.MayReach P := by
    intro t job hjob ht
    exact of_cancelTest ht fun t' ht' => hwait t' job hjob ht'
  cases op with
  | openUrl => exact htest u _ (fun hne => by cases hne) hinside
  | openAsync => exact htest u _ (fun _ => rfl) hinside
  | cancelAsyncOpen => exact htest u _ (fun hne => by cases hne) hinside
  | close =>
    -- `stopReconnect` comes first, and finds the mutex free.
    refine of_opMove hinside (by simp [call]) (hinside.guarded rfl _) rfl hinside.progress
      fun htesting => ?_
    exact htest _ .close (fun hne => by cases hne) htesting
  | startDecode => exact absurd rfl hop

/-- The old future is released by the thread of its task. -/
theorem of_assign {task : ℕ} (h : Inside s .throws k (.assign task)) :
    s.MayReach fun t => t.terminated = true := by
  have hassign : s.opMove (some k) (.assign task) =
      some ({ s with terminated := true }, .assign task) := by
    rw [opMove, h.futureReady, if_neg Bool.false_ne_true, if_pos h.joinThrows]
  exact of_step rfl (h.step (by simp) hassign) ⟨[], _, by simp, rfl, rfl⟩

theorem of_spawn (h : Inside s .throws k .spawn) :
    s.MayReach fun t => t.terminated = true :=
  of_step rfl (h.step (by simp) rfl) (of_assign h.spawns)

/-- An `openAsync` that gets past the wait by an exception ends the program. -/
theorem of_wait {callback : ℕ} (h : Inside s .throws k (.wait (.openAsync callback))) :
    s.MayReach fun t => t.terminated = true := by
  have hwait : s.opMove (some k) (.wait (.openAsync callback)) =
      some (s, .clearCancel (.openAsync callback)) := by
    rw [opMove, h.joinThrows, Bool.or_true, if_pos rfl]
  refine of_opMove h (by simp) hwait rfl h.progress fun hclear => ?_
  refine of_opMove hclear (by simp) rfl rfl h.progress fun hlock => ?_
  refine of_opMove hlock OpPc.noConfusion (hlock.guarded rfl _) rfl hlock.progress fun hslot => ?_
  refine of_opMove hslot (by simp) rfl rfl hslot.progress fun hflag => ?_
  refine of_opMove hflag (by simp) rfl rfl rfl fun hreset => ?_
  refine of_opMove hreset (by simp) rfl rfl rfl fun hspawn => ?_
  exact of_spawn hspawn

end MayReach

/-- The callback of the newest task is in an `openAsync`, and nothing can bring it back: all other
threads wait for its task, or for the mutex that it holds. -/
structure Doomed (s : Controller) (k : ℕ) (pc : OpPc) : Prop where
  spawned : k < s.spawned
  task : s.tasks k = .inCallback pc
  retries : pc.tame = false
  future : s.asyncOpenFuture = some k
  progress : s.asyncOpenInProgress = true
  control : s.control.early = true
  older : ∀ j < k, (s.tasks j).done = true
  later : ∀ j < s.spawned, k < j → s.tasks j = .lock ∧ pc.holds = true

namespace Doomed

variable {s s' : Controller} {k : ℕ} {pc : OpPc}

theorem futureReady (h : Doomed s k pc) : s.futureReady = false := by
  rw [Controller.futureReady, h.future]
  simp [h.task]

/-- The control thread does not get past a wait. -/
theorem controlMove (h : Doomed s k pc) {pc' : OpPc}
    (hmove : s.opMove none s.control = some (s', pc')) :
    Doomed { s' with control := pc' } k pc := by
  have hgoto : ∀ {t : Controller}, t.control.early = true → ∀ cancel log,
      t = { s with shouldCancelAsyncOpen := cancel, log := log, control := t.control } →
      Doomed t k pc := by
    intro t hearly cancel log ht
    rw [ht] at hearly ⊢
    exact ⟨h.spawned, h.task, h.retries, h.future, h.progress, hearly, h.older, h.later⟩
  have hcontrol := h.control
  cases hpc : s.control with
  | idle =>
    rw [hpc] at hmove
    cases hmove
  | stopReconnect job =>
    rw [hpc] at hmove
    rcases Invariant.guarded_eq_some hmove with ⟨rfl, rfl⟩
    apply hgoto _ _ _ rfl
    cases job <;> rfl
  | cancelTest job =>
    rw [hpc, opMove, if_pos h.progress, Option.some.injEq, Prod.mk.injEq] at hmove
    rcases hmove with ⟨rfl, rfl⟩
    exact hgoto rfl _ _ rfl
  | setCancel job =>
    rw [hpc, opMove, Option.some.injEq, Prod.mk.injEq] at hmove
    rcases hmove with ⟨rfl, rfl⟩
    exact hgoto rfl _ _ rfl
  | wait job =>
    rw [hpc, opMove, h.futureReady, Invariant.joinThrows_none] at hmove
    cases hmove
  | opening | cleanupPreBufferState | stopDecode | closing | startDecode =>
    rw [hpc] at hmove
    rcases Invariant.guarded_eq_some hmove with ⟨rfl, rfl⟩
    exact hgoto rfl _ _ rfl
  | clearCancel | lock | setCallback | setInProgress | resetCancel | spawn | assign =>
    rw [hpc] at hcontrol
    cases hcontrol

/-- The callback goes on in its `openAsync`. -/
theorem goes (h : Doomed s k pc) {slot : Option ℕ} {flag cancel terminated : Bool}
    {log : List Event} {v : Controller} (hv : v = { s with
      asyncOpenInProgress := flag
      shouldCancelAsyncOpen := cancel
      asyncOpenCallback := slot
      terminated := terminated
      log := log }) (hflag : flag = true) {pc' : OpPc} (hretries : pc'.tame = false)
    (hholds : pc.holds = true → pc'.holds = true) :
    Doomed (v.setTask k (.inCallback pc')) k pc' := by
  subst hv
  refine ⟨h.spawned, Function.update_self _ _ _, hretries, h.future, hflag, h.control, ?_, ?_⟩
  · intro j hj
    simp only [setTask, Function.update_of_ne hj.ne]
    exact h.older j hj
  · intro j hj hkj
    simp only [setTask, Function.update_of_ne hkj.ne']
    exact ⟨(h.later j hj hkj).1, hholds (h.later j hj hkj).2⟩

/-- The callback starts a task, which finds the mutex held. -/
theorem spawns (h : Doomed s k .spawn) :
    Doomed ({ s.setTask s.spawned .lock with spawned := s.spawned + 1 }.setTask k
      (.inCallback (.assign s.spawned))) k (.assign s.spawned) := by
  refine ⟨h.spawned.trans (Nat.lt_succ_self _), Function.update_self _ _ _, rfl, h.future,
    h.progress, h.control, ?_, ?_⟩
  · intro j hj
    simp only [setTask, Function.update_of_ne hj.ne, Function.update_of_ne (hj.trans h.spawned).ne]
    exact h.older j hj
  · intro j hj hkj
    refine ⟨?_, rfl⟩
    simp only [setTask, Function.update_of_ne hkj.ne']
    by_cases hnew : j = s.spawned
    · rw [hnew, Function.update_self]
    · rw [Function.update_of_ne hnew]
      exact (h.later j (lt_of_le_of_ne (Nat.lt_succ_iff.mp hj) hnew) hkj).1

/-- A step of the callback. -/
theorem opMove (h : Doomed s k pc) {v : Controller} {pc' : OpPc}
    (hmove : s.opMove (some k) pc = some (v, pc')) :
    Doomed (v.setTask k (.inCallback pc')) k pc' := by
  have hretries := h.retries
  cases pc with
  | stopReconnect job =>
    rcases Invariant.guarded_eq_some hmove with ⟨rfl, rfl⟩
    cases job with
    | openAsync callback => exact h.goes rfl h.progress rfl (fun hholds => by cases hholds)
    | openUrl | close | cancelAsyncOpen => cases hretries
  | cancelTest job =>
    rw [Controller.opMove, if_pos h.progress, Option.some.injEq, Prod.mk.injEq] at hmove
    rcases hmove with ⟨rfl, rfl⟩
    exact h.goes rfl h.progress hretries (fun hholds => by cases hholds)
  | setCancel job =>
    rw [Controller.opMove, Option.some.injEq, Prod.mk.injEq] at hmove
    rcases hmove with ⟨rfl, rfl⟩
    exact h.goes rfl h.progress hretries (fun hholds => by cases hholds)
  | wait job =>
    rw [Controller.opMove, Option.ite_none_right_eq_some] at hmove
    rw [Option.some.injEq, Prod.mk.injEq] at hmove
    rcases hmove with ⟨-, rfl, rfl⟩
    exact h.goes rfl h.progress hretries (fun hholds => by cases hholds)
  | clearCancel job =>
    rw [Controller.opMove, Option.some.injEq, Prod.mk.injEq] at hmove
    rcases hmove with ⟨rfl, rfl⟩
    cases job with
    | openAsync callback => exact h.goes rfl h.progress rfl (fun hholds => by cases hholds)
    | openUrl | close | cancelAsyncOpen => cases hretries
  | lock callback =>
    rcases Invariant.guarded_eq_some hmove with ⟨rfl, rfl⟩
    exact h.goes rfl h.progress rfl (fun hholds => by cases hholds)
  | setCallback callback =>
    rw [Controller.opMove, Option.some.injEq, Prod.mk.injEq] at hmove
    rcases hmove with ⟨rfl, rfl⟩
    exact h.goes rfl h.progress rfl (fun _ => rfl)
  | setInProgress =>
    rw [Controller.opMove, Option.some.injEq, Prod.mk.injEq] at hmove
    rcases hmove with ⟨rfl, rfl⟩
    exact h.goes rfl rfl rfl (fun _ => rfl)
  | resetCancel =>
    rw [Controller.opMove, Option.some.injEq, Prod.mk.injEq] at hmove
    rcases hmove with ⟨rfl, rfl⟩
    exact h.goes rfl h.progress rfl (fun _ => rfl)
  | spawn =>
    rw [Controller.opMove, Option.some.injEq, Prod.mk.injEq] at hmove
    rcases hmove with ⟨rfl, rfl⟩
    exact h.spawns
  | assign task =>
    rw [Controller.opMove, h.futureReady, if_neg Bool.false_ne_true,
      Option.ite_none_right_eq_some] at hmove
    rw [Option.some.injEq, Prod.mk.injEq] at hmove
    rcases hmove with ⟨-, rfl, rfl⟩
    exact h.goes rfl h.progress rfl (fun _ => rfl)
  | idle | opening | cleanupPreBufferState | stopDecode | closing | startDecode => cases hretries

/-- An older task returns. -/
theorem returns (h : Doomed s k pc) {j : ℕ} (hj : j < k) :
    Doomed (s.setTask j .returned) k pc := by
  refine ⟨h.spawned, ?_, h.retries, h.future, h.progress, h.control, ?_, ?_⟩
  · simp only [setTask, Function.update_of_ne hj.ne']
    exact h.task
  · intro i hi
    by_cases hij : i = j
    · rw [hij, setTask]
      simp only [Function.update_self]
      rfl
    · simp only [setTask, Function.update_of_ne hij]
      exact h.older i hi
  · intro i hi hki
    simp only [setTask, Function.update_of_ne (hj.trans hki).ne']
    exact h.later i hi hki

/-- A step of a task. -/
theorem taskMove (h : Doomed s k pc) {j : ℕ} (hj : j < s.spawned) {outcome : Outcome}
    (hmove : s.taskMove j outcome = some s') : ∃ pc', Doomed s' k pc' := by
  rw [Controller.taskMove] at hmove
  rcases lt_trichotomy j k with hjk | rfl | hkj
  · have hdone := h.older j hjk
    cases hpc : s.tasks j with
    | leaving =>
      simp only [hpc, Option.some.injEq] at hmove
      subst hmove
      exact ⟨pc, h.returns hjk⟩
    | returned => simp [hpc] at hmove
    | lock | cancelTest | internalTest | opening | cancelledTest | takeCallback | invoke
    | inCallback | clearProgress =>
      rw [hpc] at hdone
      cases hdone
  · have hnext : (s.opMove (some j) pc).map (fun next => next.1.setTask j (.inCallback next.2)) =
        some s' := by
      have hretries := h.retries
      cases pc with
      | idle => cases hretries
      | _ => simpa only [h.task] using hmove
    rcases Option.map_eq_some_iff.mp hnext with ⟨⟨v, pc'⟩, hop, rfl⟩
    exact ⟨pc', h.opMove hop⟩
  · -- The task waits for the mutex, which the callback holds.
    rcases h.later j hj hkj with ⟨hlock, hholds⟩
    have hlocked : s.locked = true := by
      rw [locked, Bool.or_eq_true, List.any_eq_true]
      refine Or.inr ⟨k, List.mem_range.mpr h.spawned, ?_⟩
      rw [h.task]
      exact hholds
    simp [hlock, hlocked] at hmove

/-- No callback can call another operation. -/
theorem not_idle (h : Doomed s k pc) {j : ℕ} (hj : j < s.spawned) :
    s.tasks j ≠ .inCallback .idle := by
  intro hidle
  rcases lt_trichotomy j k with hjk | rfl | hkj
  · have hdone := h.older j hjk
    rw [hidle] at hdone
    cases hdone
  · have hretries := h.retries
    rw [h.task, TaskPc.inCallback.injEq] at hidle
    rw [hidle] at hretries
    cases hretries
  · have hlock := (h.later j hj hkj).1
    rw [hidle] at hlock
    cases hlock

theorem step (h : Doomed s k pc) {a : Action} (hstep : s.step a = some s') :
    ∃ pc', Doomed s' k pc' := by
  have hmove := step_move hstep
  cases a with
  | call op =>
    rw [move, Option.ite_none_right_eq_some] at hmove
    rw [Option.some.injEq] at hmove
    rcases hmove with ⟨-, rfl⟩
    refine ⟨pc, ?_⟩
    cases op <;>
      exact ⟨h.spawned, h.task, h.retries, h.future, h.progress, rfl, h.older, h.later⟩
  | control =>
    rw [move, Option.map_eq_some_iff] at hmove
    rcases hmove with ⟨⟨s'', pc'⟩, hop, rfl⟩
    exact ⟨pc, h.controlMove hop⟩
  | task j outcome =>
    rw [move, Option.ite_none_right_eq_some] at hmove
    exact h.taskMove hmove.1 hmove.2
  | callBack j op =>
    rw [move, Option.ite_none_right_eq_some] at hmove
    exact absurd hmove.1.2 (h.not_idle hmove.1.1)

end Doomed

/-- A callback that calls `openAsync` does not come back from it. -/
theorem doomed_call {s u : Controller} {k : ℕ} (h : Invariant s)
    (hstep : s.step (.callBack k .openAsync) = some u) :
    Doomed u k (.cancelTest (.openAsync s.requested)) := by
  have hmove := step_move hstep
  rw [move, Option.ite_none_right_eq_some] at hmove
  rw [Option.some.injEq] at hmove
  rcases hmove with ⟨⟨hk, hpc⟩, rfl⟩
  have hworking : (s.tasks k).done = false := by
    rw [hpc]
    rfl
  have hnewest := h.newest hk hworking
  rcases h.control_of_working hk hworking (by rw [hpc]; simp) with ⟨hfuture, hcontrol⟩
  refine ⟨hk, Function.update_self _ _ _, rfl, hfuture, h.inProgress_of_working hk hworking,
    hcontrol, ?_, ?_⟩
  · intro j hj
    simp only [call, setTask, record, Function.update_of_ne hj.ne]
    exact h.old j (by omega)
  · intro j hj hkj
    change j < s.spawned at hj
    omega

/-- The invariant holds as long as a callback may call an operation. -/
theorem invariant_or_doomed {s t : Controller} {a : Action}
    (h : Invariant s ∨ ∃ k pc, Doomed s k pc) (hstep : s.step a = some t) :
    Invariant t ∨ ∃ k pc, Doomed t k pc := by
  rcases h with hinvariant | ⟨k, pc, hdoomed⟩
  · by_cases htame : a.tame = true
    · exact Or.inl (step_invariant hinvariant htame hstep)
    · cases a with
      | callBack k op =>
        have hop : op = .openAsync := by simpa [Action.tame] using htame
        subst hop
        exact Or.inr ⟨k, _, doomed_call hinvariant hstep⟩
      | call | control | task => exact absurd rfl htame
  · exact Or.inr ⟨k, hdoomed.step hstep⟩

/-- The invariant holds whenever a callback calls an operation. -/
theorem invariant_of_callBack {selfJoin : SelfJoin} {actions : List Action} {s u : Controller}
    (hrun : run step (new selfJoin) actions = some s) {k : ℕ} {op : Operation}
    (hstep : s.step (.callBack k op) = some u) : Invariant s := by
  have hinvariant := run_invariant (fun _ _ _ h hs => invariant_or_doomed h hs)
    (Or.inl (invariant_new selfJoin)) hrun
  rcases hinvariant with hinvariant | ⟨j, pc, hdoomed⟩
  · exact hinvariant
  · have hmove := step_move hstep
    rw [move, Option.ite_none_right_eq_some] at hmove
    exact absurd hmove.1.2 (hdoomed.not_idle hmove.1.1)

theorem opMove_selfJoin {s v : Controller} {self : Option ℕ} {pc pc' : OpPc}
    (hmove : s.opMove self pc = some (v, pc')) : v.selfJoin = s.selfJoin := by
  cases pc <;> simp only [opMove, guarded] at hmove <;> grind [storeCancel, record, setTask]

theorem taskMove_selfJoin {s t : Controller} {k : ℕ} {outcome : Outcome}
    (hmove : s.taskMove k outcome = some t) : t.selfJoin = s.selfJoin := by
  rw [taskMove] at hmove
  cases hpc : s.tasks k with
  | inCallback pc =>
    cases pc with
    | idle =>
      simp only [hpc, Option.some.injEq] at hmove
      rw [← hmove]
      rfl
    | _ =>
      simp only [hpc] at hmove
      rcases Option.map_eq_some_iff.mp hmove with ⟨⟨v, pc'⟩, hop, rfl⟩
      have hsame : v.selfJoin = s.selfJoin := opMove_selfJoin hop
      exact hsame
  | opening =>
    simp only [hpc, Option.some.injEq] at hmove
    rw [← hmove]
    cases outcome <;> rfl
  | invoke answer callback =>
    simp only [hpc] at hmove
    cases callback <;> grind [record, setTask]
  | _ =>
    simp only [hpc] at hmove
    grind [ends, record, setTask]

/-- What becomes of a self-join does not change. -/
theorem step_selfJoin {s t : Controller} {a : Action} (hstep : s.step a = some t) :
    t.selfJoin = s.selfJoin := by
  have hmove := step_move hstep
  cases a with
  | call op =>
    rw [move, Option.ite_none_right_eq_some] at hmove
    rw [Option.some.injEq] at hmove
    rcases hmove with ⟨-, rfl⟩
    cases op <;> rfl
  | control =>
    rw [move, Option.map_eq_some_iff] at hmove
    rcases hmove with ⟨⟨v, pc'⟩, hop, rfl⟩
    have hsame : v.selfJoin = s.selfJoin := opMove_selfJoin hop
    exact hsame
  | task k outcome =>
    rw [move, Option.ite_none_right_eq_some] at hmove
    exact taskMove_selfJoin hmove.2
  | callBack k op =>
    rw [move, Option.ite_none_right_eq_some] at hmove
    rw [Option.some.injEq] at hmove
    rcases hmove with ⟨-, rfl⟩
    cases op <;> rfl

theorem run_selfJoin {actions : List Action} {s t : Controller}
    (hrun : run step s actions = some t) : t.selfJoin = s.selfJoin := by
  have hinvariant := run_invariant
    (fun (u : Controller) (_ : Action) _ (h : u.selfJoin = s.selfJoin) hstep =>
      (step_selfJoin hstep).trans h) rfl hrun
  exact hinvariant

/-- After `startDecode` is called, no callback is in an operation that waits. -/
theorem modest_startDecode {s u : Controller} {k : ℕ} (h : Invariant s)
    (hstep : s.step (.callBack k .startDecode) = some u) : Modest u := by
  have hmove := step_move hstep
  rw [move, Option.ite_none_right_eq_some] at hmove
  rw [Option.some.injEq] at hmove
  rcases hmove with ⟨⟨hk, hpc⟩, rfl⟩
  have hnewest := h.newest hk (by rw [hpc]; rfl)
  intro j hj pc hpc'
  simp only [call, setTask] at hpc' hj
  by_cases hjk : j = k
  · rw [hjk, Function.update_self, TaskPc.inCallback.injEq] at hpc'
    exact Or.inr hpc'.symm
  · rw [Function.update_of_ne hjk] at hpc'
    have hdone := h.old j (by omega)
    rw [hpc'] at hdone
    cases hdone

/-- After a call of `startDecode`, the task does not wait for its own future. -/
theorem not_selfWait_startDecode {s u : Controller} {k : ℕ} (h : Invariant s)
    (hstep : s.step (.callBack k .startDecode) = some u) :
    ¬u.MayReach fun t => t.SelfWait k := by
  rintro ⟨more, t, hmore, hmoves, hpc, hfuture⟩
  rcases run_invariant_work hmore (step_invariant h rfl hstep) (modest_startDecode h hstep) hmoves
    with ⟨hinvariant, hmodest, -⟩
  have hk := hinvariant.future k hfuture
  rcases hpc with ⟨job, hpc⟩ | ⟨task, hpc⟩
  · rcases hmodest k hk _ hpc with hidle | hidle
    · cases hidle
    · cases hidle
  · rcases hmodest k hk _ hpc with hidle | hidle
    · cases hidle
    · cases hidle

/-- After a call of another operation than `openAsync`, the program is not ended. -/
theorem not_terminated {s u : Controller} {k : ℕ} {op : Operation} (h : Invariant s)
    (hop : op ≠ .openAsync) (hstep : s.step (.callBack k op) = some u) :
    ¬u.MayReach fun t => t.terminated = true := by
  rintro ⟨more, t, hmore, hmoves, hterminated⟩
  have htame : (Action.callBack k op).tame = true := decide_eq_true hop
  have hinvariant := invariant_of_run (fun a ha => Action.tame_of_modest (hmore a ha))
    (step_invariant h htame hstep) hmoves
  rw [hinvariant.running] at hterminated
  cases hterminated

theorem MayReach.imp {P Q : Controller → Prop} {s : Controller} (h : s.MayReach P)
    (hPQ : ∀ more t, run step s more = some t → P t → Q t) : s.MayReach Q := by
  rcases h with ⟨more, t, hmore, hmoves, hP⟩
  exact ⟨more, t, hmore, hmoves, hPQ more t hmoves hP⟩

theorem Inside.selfWait {t : Controller} {join : SelfJoin} {k : ℕ} {job : Job}
    (h : Inside t join k (.wait job)) : t.SelfWait k :=
  ⟨Or.inl ⟨job, h.task⟩, h.future⟩

/-- An open whose callback is running. -/
def callbackRun : List Action :=
  [.call .openAsync, .control, .control, .control, .control, .control, .control, .control] ++
    List.replicate 7 (.task 0 (.returned false))

/-- A callback retries with `openAsync`. -/
def retryRun : List Action :=
  callbackRun ++ .callBack 0 .openAsync :: List.replicate 2 (.task 0 (.returned false))

end Controller

end DecoderSDK.AsyncOpen
