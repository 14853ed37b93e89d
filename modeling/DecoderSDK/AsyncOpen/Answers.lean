import DecoderSDK.AsyncOpen.Ordering

/-! # Every asynchronous open is answered

Every step of a thread uses up work that the calls have put in, and as long
as there is work some thread can move: a task waits for the mutex only, which
the control thread gives back, and an operation waits for a task only.
-/
namespace DecoderSDK.AsyncOpen
open Interleaving

namespace Controller

/-- The steps that are left, those of a task that is still to be started included. -/
def OpPc.work : OpPc → ℕ
  | .idle => 0
  | .opening => 1
  | .stopReconnect .openUrl => 2
  | .closing => 1
  | .stopDecode => 2
  | .cleanupPreBufferState => 3
  | .startDecode => 1
  | .assign _ => 1
  | .spawn => 12
  | .resetCancel => 13
  | .setInProgress => 14
  | .setCallback _ => 15
  | .lock _ => 16
  | .clearCancel _ => 17
  | .wait _ => 18
  | .setCancel _ => 19
  | .cancelTest _ => 20
  | .stopReconnect _ => 21

def TaskPc.work : TaskPc → ℕ
  | .lock => 10
  | .cancelTest => 9
  | .internalTest => 8
  | .opening => 7
  | .cancelledTest _ => 6
  | .takeCallback _ => 5
  | .invoke _ _ => 4
  | .inCallback pc => 3 + OpPc.work pc
  | .clearProgress => 2
  | .leaving => 1
  | .returned => 0

def tasksWork (s : Controller) : ℕ := ∑ k ∈ Finset.range s.spawned, TaskPc.work (s.tasks k)

def work (s : Controller) : ℕ := OpPc.work s.control + s.tasksWork

theorem setTask_work (s : Controller) {k : ℕ} (hk : k < s.spawned) (pc : TaskPc) :
    (s.setTask k pc).tasksWork + TaskPc.work (s.tasks k) = s.tasksWork + TaskPc.work pc := by
  have hmem : k ∈ Finset.range s.spawned := Finset.mem_range.mpr hk
  have hsum : (s.setTask k pc).tasksWork =
      TaskPc.work pc + ∑ j ∈ (Finset.range s.spawned).erase k, TaskPc.work (s.tasks j) := by
    simp only [tasksWork, setTask]
    rw [← Finset.add_sum_erase _ _ hmem, Function.update_self]
    congr 1
    apply Finset.sum_congr rfl
    intro j hj
    rw [Function.update_of_ne (Finset.ne_of_mem_erase hj)]
  rw [hsum, tasksWork, ← Finset.add_sum_erase _ _ hmem]
  omega

theorem spawn_work (s : Controller) :
    { s.setTask s.spawned .lock with spawned := s.spawned + 1 }.tasksWork = s.tasksWork + 10 := by
  simp only [tasksWork, setTask, Finset.sum_range_succ, Function.update_self]
  congr 1
  apply Finset.sum_congr rfl
  intro j hj
  rw [Function.update_of_ne (Finset.mem_range.mp hj).ne]

/-- An operation of the control thread comes to its end. -/
theorem opMove_work {s s' : Controller} {pc pc' : OpPc} (h : s.opMove none pc = some (s', pc')) :
    OpPc.work pc' + s'.tasksWork < OpPc.work pc + s.tasksWork := by
  have hguarded : ∀ {next : OpPc}, s.guarded next = some (s', pc') →
      OpPc.work next < OpPc.work pc →
        OpPc.work pc' + s'.tasksWork < OpPc.work pc + s.tasksWork := by
    intro next hmove hlt
    rcases Invariant.guarded_eq_some hmove with ⟨rfl, rfl⟩
    exact Nat.add_lt_add_right hlt _
  have hafter : ∀ job, OpPc.work (afterCancel job) < 17 := by
    intro job
    cases job <;> simp [OpPc.work, afterCancel]
  cases pc with
  | idle => cases h
  | stopReconnect job =>
    apply hguarded h
    cases job <;> simp [OpPc.work, afterStop]
  | cancelTest job =>
    rw [opMove] at h
    split_ifs at h
    · rw [Option.some.injEq, Prod.mk.injEq] at h
      rcases h with ⟨rfl, rfl⟩
      exact Nat.add_lt_add_right (by simp [OpPc.work]) _
    · rw [Option.some.injEq, Prod.mk.injEq] at h
      rcases h with ⟨rfl, rfl⟩
      exact Nat.add_lt_add_right ((hafter job).trans (by simp [OpPc.work])) _
  | setCancel job =>
    rw [opMove, Option.some.injEq, Prod.mk.injEq] at h
    rcases h with ⟨rfl, rfl⟩
    exact Nat.add_lt_add_right (by simp [OpPc.work]) _
  | wait job =>
    rw [opMove, Invariant.joinThrows_none, Bool.or_false, Option.ite_none_right_eq_some] at h
    rw [Option.some.injEq, Prod.mk.injEq] at h
    rcases h with ⟨-, rfl, rfl⟩
    exact Nat.add_lt_add_right (by simp [OpPc.work]) _
  | clearCancel job =>
    rw [opMove, Option.some.injEq, Prod.mk.injEq] at h
    rcases h with ⟨rfl, rfl⟩
    exact Nat.add_lt_add_right (hafter job) _
  | opening | cleanupPreBufferState | stopDecode | closing | lock callback | startDecode =>
    exact hguarded h (by simp [OpPc.work])
  | setCallback callback | setInProgress | resetCancel =>
    rw [opMove, Option.some.injEq, Prod.mk.injEq] at h
    rcases h with ⟨rfl, rfl⟩
    exact Nat.add_lt_add_right (by simp [OpPc.work]) _
  | spawn =>
    rw [opMove, Option.some.injEq, Prod.mk.injEq] at h
    rcases h with ⟨rfl, rfl⟩
    rw [spawn_work]
    simp only [OpPc.work]
    omega
  | assign task =>
    rw [opMove, Invariant.joinThrows_none, if_neg Bool.false_ne_true,
      Option.ite_none_right_eq_some] at h
    rw [Option.some.injEq, Prod.mk.injEq] at h
    rcases h with ⟨-, rfl, rfl⟩
    exact Nat.add_lt_add_right (by simp [OpPc.work]) _

theorem setTask_work_lt {s t : Controller} {k : ℕ} (hk : k < s.spawned) {pc : TaskPc}
    (htasks : t.tasks = s.tasks) (hspawned : t.spawned = s.spawned)
    (hcontrol : t.control = s.control) (hlt : TaskPc.work pc < TaskPc.work (s.tasks k)) :
    (t.setTask k pc).work < s.work := by
  have hsum := t.setTask_work (hspawned ▸ hk) pc
  have hsame : t.tasksWork = s.tasksWork := by rw [tasksWork, tasksWork, htasks, hspawned]
  have hpc : (t.setTask k pc).control = s.control := hcontrol
  rw [hsame, htasks] at hsum
  rw [work, work, hpc]
  omega

/-- No callback is inside an operation of the controller but `startDecode`. -/
def Modest (s : Controller) : Prop :=
  ∀ k < s.spawned, ∀ pc, s.tasks k = .inCallback pc → pc = .idle ∨ pc = .startDecode

/-- A task comes to its end. -/
theorem taskMove_work {s s' : Controller} {k : ℕ} (hmodest : Modest s) (hk : k < s.spawned)
    {outcome : Outcome} (hmove : s.taskMove k outcome = some s') : s'.work < s.work := by
  have hlt : ∀ {t : Controller} {pc pc' : TaskPc}, t.tasks = s.tasks → t.spawned = s.spawned →
      t.control = s.control → s.tasks k = pc → TaskPc.work pc' < TaskPc.work pc →
      (t.setTask k pc').work < s.work := by
    intro t pc pc' htasks hspawned hcontrol hpc hwork
    exact setTask_work_lt hk htasks hspawned hcontrol (hpc ▸ hwork)
  rw [taskMove] at hmove
  cases hpc : s.tasks k with
  | lock =>
    simp only [hpc, Option.ite_none_left_eq_some, Option.some.injEq] at hmove
    rcases hmove with ⟨-, rfl⟩
    exact hlt rfl rfl rfl hpc (by simp [TaskPc.work])
  | cancelTest | internalTest =>
    simp only [hpc] at hmove
    split_ifs at hmove <;> rw [Option.some.injEq] at hmove <;> subst hmove
    · exact hlt rfl rfl rfl hpc (by simp [TaskPc.work])
    · exact hlt rfl rfl rfl hpc (by simp [TaskPc.work])
  | opening =>
    simp only [hpc, Option.some.injEq] at hmove
    subst hmove
    cases outcome with
    | returned opened => exact hlt rfl rfl rfl hpc (by simp [TaskPc.work])
    | threw what => exact hlt rfl rfl rfl hpc (by simp [TaskPc.work])
  | cancelledTest opened | takeCallback answer | clearProgress | leaving =>
    simp only [hpc, Option.some.injEq] at hmove
    subst hmove
    exact hlt rfl rfl rfl hpc (by simp [TaskPc.work])
  | invoke answer callback =>
    cases callback with
    | none =>
      simp only [hpc, Option.some.injEq] at hmove
      subst hmove
      exact hlt rfl rfl rfl hpc (by simp [TaskPc.work])
    | some callback =>
      simp only [hpc, Option.some.injEq] at hmove
      subst hmove
      exact hlt rfl rfl rfl hpc (by simp [TaskPc.work, OpPc.work])
  | inCallback pc =>
    rcases hmodest k hk pc hpc with rfl | rfl
    · simp only [hpc, Option.some.injEq] at hmove
      subst hmove
      exact hlt rfl rfl rfl hpc (by simp [TaskPc.work, OpPc.work])
    · simp only [hpc, Option.map_eq_some_iff] at hmove
      rcases hmove with ⟨⟨t, pc⟩, hguarded, rfl⟩
      rcases Invariant.guarded_eq_some hguarded with ⟨rfl, rfl⟩
      exact hlt rfl rfl rfl hpc (by simp [TaskPc.work, OpPc.work])
  | returned => simp [hpc] at hmove

/-- The action starts an operation. -/
def Action.calls : Action → Bool
  | .call _ => true
  | .callBack _ _ => true
  | _ => false

theorem call_work (s : Controller) (op : Operation) :
    OpPc.work (s.call op).2 ≤ 21 ∧ (s.call op).1.tasks = s.tasks ∧
      (s.call op).1.spawned = s.spawned ∧ (s.call op).1.control = s.control := by
  cases op <;> simp [call, OpPc.work, record]

/-- Every step brings the work nearer to its end, and a call adds a bounded amount of it. -/
theorem step_work {s s' : Controller} {a : Action} (hmodest : Modest s)
    (hstep : s.step a = some s') :
    s'.work + (if a.calls then 0 else 1) ≤ s.work + (if a.calls then 21 else 0) := by
  have hstep := step_move hstep
  cases a with
  | call op =>
    rw [move, Option.ite_none_right_eq_some] at hstep
    rw [Option.some.injEq] at hstep
    rcases hstep with ⟨hidle, rfl⟩
    rcases s.call_work op with ⟨hle, htasks, hspawned, -⟩
    have hnone : OpPc.work .idle = 0 := rfl
    simp only [work, tasksWork, htasks, hspawned, hidle, hnone, Action.calls, if_true]
    omega
  | control =>
    rw [move, Option.map_eq_some_iff] at hstep
    rcases hstep with ⟨⟨t, pc⟩, hmove, rfl⟩
    have hlt := opMove_work hmove
    simp only [work, tasksWork, Action.calls, Bool.false_eq_true, if_false] at hlt ⊢
    omega
  | task k outcome =>
    rw [move, Option.ite_none_right_eq_some] at hstep
    have hlt := taskMove_work hmodest hstep.1 hstep.2
    simp only [Action.calls, Bool.false_eq_true, if_false]
    omega
  | callBack k op =>
    rw [move, Option.ite_none_right_eq_some] at hstep
    rw [Option.some.injEq] at hstep
    rcases hstep with ⟨⟨hk, hpc⟩, rfl⟩
    rcases s.call_work op with ⟨hle, htasks, hspawned, hcontrol⟩
    have hsum := (s.call op).1.setTask_work (hspawned ▸ hk) (.inCallback (s.call op).2)
    have hsame : (s.call op).1.tasksWork = s.tasksWork := by
      rw [tasksWork, tasksWork, htasks, hspawned]
    have hpc' : ((s.call op).1.setTask k (.inCallback (s.call op).2)).control = s.control :=
      hcontrol
    have hnone : OpPc.work .idle = 0 := rfl
    rw [hsame, htasks, hpc] at hsum
    simp only [TaskPc.work, hnone] at hsum
    simp only [work, hpc', Action.calls, if_true]
    omega

/-- No thread can move. -/
def Quiet (s : Controller) : Prop :=
  s.step .control = none ∧ ∀ k outcome, s.step (.task k outcome) = none

/-- An operation goes on unless it waits for the mutex or for a task. -/
theorem opMove_enabled {s : Controller} {pc : OpPc} (hpc : pc ≠ .idle)
    (hready : s.futureReady = true) (hfree : pc.holds = false → s.locked = false) :
    (s.opMove none pc).isSome = true := by
  have hguarded : ∀ next, pc.holds = false → (s.guarded next).isSome = true := by
    intro next hholds
    simp [guarded, hfree hholds]
  cases pc with
  | idle => exact absurd rfl hpc
  | stopReconnect job => exact hguarded _ rfl
  | cancelTest job =>
    rw [opMove]
    split <;> rfl
  | setCancel job => rfl
  | wait job => simp [opMove, hready]
  | clearCancel job => rfl
  | opening => exact hguarded _ rfl
  | cleanupPreBufferState => exact hguarded _ rfl
  | stopDecode => exact hguarded _ rfl
  | closing => exact hguarded _ rfl
  | lock callback => exact hguarded _ rfl
  | setCallback callback => rfl
  | setInProgress => rfl
  | resetCancel => rfl
  | spawn => rfl
  | assign task => simp [opMove, hready]
  | startDecode => exact hguarded _ rfl

/-- A task that cannot move has returned, or the mutex keeps it. -/
theorem taskMove_none {s : Controller} {k : ℕ} {outcome : Outcome}
    (hmodest : Modest s) (hk : k < s.spawned) (hmove : s.taskMove k outcome = none) :
    s.tasks k = .returned ∨
      s.locked = true ∧ (s.tasks k).holds = false ∧ (s.tasks k).done = false := by
  rw [taskMove] at hmove
  cases hpc : s.tasks k with
  | lock =>
    simp only [hpc, ite_eq_left_iff, reduceCtorEq, imp_false, Bool.not_eq_true,
      Bool.not_eq_false] at hmove
    exact Or.inr ⟨hmove, rfl, rfl⟩
  | inCallback pc =>
    rcases hmodest k hk pc hpc with rfl | rfl
    · simp [hpc] at hmove
    · simp only [hpc, Option.map_eq_none_iff] at hmove
      right
      refine ⟨?_, rfl, rfl⟩
      by_contra hlocked
      simp [opMove, guarded, hlocked] at hmove
  | cancelTest =>
    simp only [hpc] at hmove
    split_ifs at hmove
  | internalTest =>
    simp only [hpc] at hmove
    split_ifs at hmove
  | invoke answer callback =>
    cases callback <;> simp [hpc] at hmove
  | returned => exact Or.inl rfl
  | opening => simp [hpc] at hmove
  | cancelledTest opened => simp [hpc] at hmove
  | takeCallback answer => simp [hpc] at hmove
  | clearProgress => simp [hpc] at hmove
  | leaving => simp [hpc] at hmove

namespace Invariant

variable {s : Controller}

theorem holds_of_done {pc : TaskPc} (h : pc.done = true) : pc.holds = false := by
  cases pc with
  | leaving => rfl
  | returned => rfl
  | _ => cases h

/-- When no task holds the mutex, the control thread does. -/
theorem control_holds (hlocked : s.locked = true)
    (hno : ∀ k < s.spawned, (s.tasks k).holds = false) : s.control.holds = true := by
  rw [locked, Bool.or_eq_true, List.any_eq_true] at hlocked
  rcases hlocked with hcontrol | ⟨k, hk, hholds⟩
  · exact hcontrol
  · rw [hno k (List.mem_range.mp hk)] at hholds
    cases hholds

/-- The task of an old future is done while the control thread holds the mutex. -/
theorem done_future (h : Invariant s) (hholds : s.control.holds = true) {k : ℕ}
    (hfuture : s.asyncOpenFuture = some k) : (s.tasks k).done = true := by
  have hcontrol := h.control
  have hk := h.future k hfuture
  cases hpc : s.control with
  | setCallback callback =>
    rw [hpc] at hcontrol
    exact hcontrol.2.2 k hk
  | setInProgress =>
    rw [hpc] at hcontrol
    exact hcontrol.2.2.1 k hk
  | resetCancel =>
    rw [hpc] at hcontrol
    exact hcontrol.2.2.1 k hk
  | spawn =>
    rw [hpc] at hcontrol
    exact hcontrol.2.2.1 k hk
  | assign task =>
    rw [hpc] at hcontrol
    exact h.old k (hcontrol.2.2.2 k hfuture)
  | _ =>
    rw [hpc] at hholds
    cases hholds

theorem opMove_none (h : Invariant s) (hquiet : s.Quiet) : s.opMove none s.control = none := by
  have hcontrol := hquiet.1
  rwa [step, h.running, if_neg Bool.false_ne_true, move, Option.map_eq_none_iff] at hcontrol

theorem quiet_task (h : Invariant s) (hquiet : s.Quiet) {k : ℕ} (hk : k < s.spawned)
    (outcome : Outcome) : s.taskMove k outcome = none := by
  have htask := hquiet.2 k outcome
  rwa [step, h.running, if_neg Bool.false_ne_true, move, if_pos hk] at htask

/-- A task that is done and cannot move has returned. -/
theorem returned_of_done (h : Invariant s) (hmodest : Modest s) (hquiet : s.Quiet) {k : ℕ}
    (hk : k < s.spawned) (hdone : (s.tasks k).done = true) : s.tasks k = .returned := by
  rcases taskMove_none hmodest hk (h.quiet_task hquiet hk (.returned true)) with hreturned | ⟨-, -, hnot⟩
  · exact hreturned
  · rw [hdone] at hnot
    cases hnot

/-- When no thread can move, all tasks have returned. -/
theorem quiet_returned (h : Invariant s) (hmodest : Modest s) (hquiet : s.Quiet) {k : ℕ}
    (hk : k < s.spawned) : s.tasks k = .returned := by
  by_contra hne
  rcases taskMove_none hmodest hk (h.quiet_task hquiet hk (.returned true))
    with hreturned | ⟨hlocked, hnot, hworking⟩
  · exact hne hreturned
  · have hholds : s.control.holds = true := by
      apply control_holds hlocked
      intro j hj
      by_cases hjk : j = k
      · rw [hjk]
        exact hnot
      · have hnewest := h.newest hk hworking
        exact holds_of_done (h.old j (by omega))
    have hready : s.futureReady = true := by
      rw [futureReady]
      cases hfuture : s.asyncOpenFuture with
      | none => rfl
      | some j =>
        have hdone := h.done_future hholds hfuture
        simp [h.returned_of_done hmodest hquiet (h.future j hfuture) hdone]
    have hidle : s.control ≠ .idle := by
      intro hidle
      rw [hidle] at hholds
      cases hholds
    have hsome := opMove_enabled hidle hready (fun hno => by rw [hholds] at hno; cases hno)
    rw [h.opMove_none hquiet] at hsome
    cases hsome

/-- When no thread can move, no operation is under way. -/
theorem quiet_idle (h : Invariant s) (hmodest : Modest s) (hquiet : s.Quiet) :
    s.control = .idle := by
  by_contra hne
  have hready : s.futureReady = true := by
    rw [futureReady]
    cases hfuture : s.asyncOpenFuture with
    | none => rfl
    | some j => simp [h.quiet_returned hmodest hquiet (h.future j hfuture)]
  have hfree : s.control.holds = false → s.locked = false := by
    intro hholds
    rw [locked, hholds, Bool.false_or, List.any_eq_false]
    intro k hk
    rw [h.quiet_returned hmodest hquiet (List.mem_range.mp hk)]
    simp [TaskPc.holds]
  have hsome := opMove_enabled hne hready hfree
  rw [h.opMove_none hquiet] at hsome
  cases hsome

/-- When no thread can move, every request has been answered once. -/
theorem quiet_answered (h : Invariant s) (hmodest : Modest s) (hquiet : s.Quiet) {k : ℕ}
    (hk : k < s.requested) : invocations k s.log = 1 := by
  have hcontrol := h.control
  rw [h.quiet_idle hmodest hquiet] at hcontrol
  apply h.answered_of_settled _ (hcontrol.2 ▸ hk)
  intro j hj
  rw [h.quiet_returned hmodest hquiet hj]
  rfl

end Invariant

/-- The callback of an open does not call the controller. -/
def Action.silent : Action → Bool
  | .callBack _ _ => false
  | _ => true

/-- Callbacks call nothing but `startDecode`. -/
def Action.modest : Action → Bool
  | .callBack _ op => decide (op = .startDecode)
  | _ => true

theorem Action.modest_of_silent {a : Action} (h : a.silent = true) : a.modest = true := by
  cases a with
  | callBack k op => cases h
  | _ => rfl

theorem Action.tame_of_modest {a : Action} (h : a.modest = true) : a.tame = true := by
  cases a with
  | callBack k op =>
    have hop : op = .startDecode := of_decide_eq_true h
    subst hop
    rfl
  | _ => rfl

theorem modest_setTask {s t : Controller} {k : ℕ} {pc : TaskPc} (h : Modest s)
    (htasks : t.tasks = s.tasks) (hspawned : t.spawned = s.spawned)
    (hpc : ∀ pc', pc = .inCallback pc' → pc' = .idle ∨ pc' = .startDecode) :
    Modest (t.setTask k pc) := by
  intro j hj pc' hpc'
  simp only [setTask, htasks] at hpc'
  by_cases hjk : j = k
  · rw [hjk, Function.update_self] at hpc'
    exact hpc pc' hpc'
  · rw [Function.update_of_ne hjk] at hpc'
    exact h j (hspawned ▸ hj) pc' hpc'

/-- What an operation of the control thread does to the tasks: nothing, or it starts one. -/
theorem opMove_tasks {s s' : Controller} {pc pc' : OpPc} (h : s.opMove none pc = some (s', pc')) :
    s'.tasks = s.tasks ∧ s'.spawned = s.spawned ∨
      s' = { s.setTask s.spawned .lock with spawned := s.spawned + 1 } := by
  cases pc with
  | idle => cases h
  | stopReconnect | opening | cleanupPreBufferState | stopDecode | closing | lock | startDecode =>
    rcases Invariant.guarded_eq_some h with ⟨rfl, rfl⟩
    exact Or.inl ⟨rfl, rfl⟩
  | cancelTest job =>
    rw [opMove] at h
    split_ifs at h <;> rw [Option.some.injEq, Prod.mk.injEq] at h <;> rcases h with ⟨rfl, rfl⟩
    · exact Or.inl ⟨rfl, rfl⟩
    · exact Or.inl ⟨rfl, rfl⟩
  | wait job =>
    rw [opMove, Option.ite_none_right_eq_some] at h
    rw [Option.some.injEq, Prod.mk.injEq] at h
    rcases h with ⟨-, rfl, rfl⟩
    exact Or.inl ⟨rfl, rfl⟩
  | assign task =>
    rw [opMove] at h
    split_ifs at h <;> rw [Option.some.injEq, Prod.mk.injEq] at h <;> rcases h with ⟨rfl, rfl⟩
    · exact Or.inl ⟨rfl, rfl⟩
    · exact Or.inl ⟨rfl, rfl⟩
  | spawn =>
    rw [opMove, Option.some.injEq, Prod.mk.injEq] at h
    rcases h with ⟨rfl, rfl⟩
    exact Or.inr rfl
  | setCancel | clearCancel | setCallback | setInProgress | resetCancel =>
    rw [opMove, Option.some.injEq, Prod.mk.injEq] at h
    rcases h with ⟨rfl, rfl⟩
    exact Or.inl ⟨rfl, rfl⟩

theorem Modest.taskMove {s s' : Controller} {k : ℕ} (h : Modest s) (hk : k < s.spawned)
    {outcome : Outcome} (hmove : s.taskMove k outcome = some s') : Modest s' := by
  rw [Controller.taskMove] at hmove
  cases hpc : s.tasks k with
  | lock =>
    simp only [hpc, Option.ite_none_left_eq_some, Option.some.injEq] at hmove
    rcases hmove with ⟨-, rfl⟩
    exact modest_setTask h rfl rfl (fun _ hpc' => by cases hpc')
  | cancelTest | internalTest =>
    simp only [hpc] at hmove
    split_ifs at hmove <;> rw [Option.some.injEq] at hmove <;> subst hmove
    · exact modest_setTask h rfl rfl (fun _ hpc' => by cases hpc')
    · exact modest_setTask h rfl rfl (fun _ hpc' => by cases hpc')
  | opening =>
    simp only [hpc, Option.some.injEq] at hmove
    subst hmove
    cases outcome with
    | returned opened => exact modest_setTask h rfl rfl (fun _ hpc' => by cases hpc')
    | threw what => exact modest_setTask h rfl rfl (fun _ hpc' => by cases hpc')
  | cancelledTest opened | takeCallback answer | clearProgress | leaving =>
    simp only [hpc, Option.some.injEq] at hmove
    subst hmove
    exact modest_setTask h rfl rfl (fun _ hpc' => by cases hpc')
  | invoke answer callback =>
    cases callback with
    | none =>
      simp only [hpc, Option.some.injEq] at hmove
      subst hmove
      exact modest_setTask h rfl rfl (fun _ hpc' => by cases hpc')
    | some callback =>
      simp only [hpc, Option.some.injEq] at hmove
      subst hmove
      exact modest_setTask h rfl rfl (fun _ hpc' => by cases hpc'; exact Or.inl rfl)
  | inCallback pc =>
    rcases h k hk pc hpc with rfl | rfl
    · simp only [hpc, Option.some.injEq] at hmove
      subst hmove
      exact modest_setTask h rfl rfl (fun _ hpc' => by cases hpc')
    · simp only [hpc, Option.map_eq_some_iff] at hmove
      rcases hmove with ⟨⟨t, pc⟩, hguarded, rfl⟩
      rcases Invariant.guarded_eq_some hguarded with ⟨rfl, rfl⟩
      exact modest_setTask h rfl rfl (fun _ hpc' => by cases hpc'; exact Or.inl rfl)
  | returned => simp [hpc] at hmove

theorem Modest.step {s s' : Controller} {a : Action} (h : Modest s) (ha : a.modest = true)
    (hstep : s.step a = some s') : Modest s' := by
  have hmove := step_move hstep
  cases a with
  | call op =>
    rw [move, Option.ite_none_right_eq_some] at hmove
    rw [Option.some.injEq] at hmove
    rcases hmove with ⟨-, rfl⟩
    rcases s.call_work op with ⟨-, htasks, hspawned, -⟩
    intro k hk pc hpc
    exact h k (hspawned ▸ hk) pc (htasks ▸ hpc)
  | control =>
    rw [move, Option.map_eq_some_iff] at hmove
    rcases hmove with ⟨⟨t, pc'⟩, hop, rfl⟩
    rcases opMove_tasks hop with ⟨htasks, hspawned⟩ | rfl
    · intro k hk pc hpc
      exact h k (hspawned ▸ hk) pc (htasks ▸ hpc)
    · intro k hk pc hpc
      by_cases hnew : k = s.spawned
      · simp [setTask, hnew] at hpc
      · have hlt : k < s.spawned := lt_of_le_of_ne (Nat.lt_succ_iff.mp hk) hnew
        simp only [setTask, Function.update_of_ne hnew] at hpc
        exact h k hlt pc hpc
  | task k outcome =>
    rw [move, Option.ite_none_right_eq_some] at hmove
    exact h.taskMove hmove.1 hmove.2
  | callBack k op =>
    rw [move, Option.ite_none_right_eq_some] at hmove
    rw [Option.some.injEq] at hmove
    rcases hmove with ⟨-, rfl⟩
    have hop : op = .startDecode := of_decide_eq_true ha
    subst hop
    exact modest_setTask h rfl rfl (fun _ hpc' => by cases hpc'; exact Or.inr rfl)

/-- While no callback calls `openAsync`, the invariant holds. -/
theorem invariant_of_run {actions : List Action} (htame : ∀ a ∈ actions, a.tame = true)
    {s t : Controller} (h : Invariant s) (hrun : run step s actions = some t) : Invariant t :=
  run_invariant_of (fun _ _ _ hs ha hstep => step_invariant hs ha hstep) h htame hrun

/-- Along a run the invariants hold, and the number of moves is bounded by the calls. -/
theorem run_invariant_work {actions : List Action} (hmodest : ∀ a ∈ actions, a.modest = true)
    {s t : Controller} (h : Invariant s) (hs : Modest s) (hrun : run step s actions = some t) :
    Invariant t ∧ Modest t ∧ t.work + actions.countP (fun a => !a.calls) ≤
      s.work + 21 * actions.countP Action.calls := by
  induction actions generalizing s with
  | nil =>
    rw [run, Option.some.injEq] at hrun
    subst hrun
    exact ⟨h, hs, by simp⟩
  | cons a as ih =>
    rw [run, Option.bind_eq_some_iff] at hrun
    rcases hrun with ⟨s', hstep, hrest⟩
    have ha := hmodest a List.mem_cons_self
    rcases ih (fun b hb => hmodest b (List.mem_cons_of_mem a hb))
      (step_invariant h (Action.tame_of_modest ha) hstep) (hs.step ha hstep) hrest
      with ⟨hinvariant, hmodest', hwork⟩
    have hfirst := step_work hs hstep
    refine ⟨hinvariant, hmodest', ?_⟩
    rw [List.countP_cons, List.countP_cons]
    cases hcalls : a.calls <;> simp [hcalls] at hfirst ⊢ <;> omega

theorem modest_new (selfJoin : SelfJoin) : Modest (new selfJoin) := by
  intro k hk
  cases hk

/-- A task that is cancelled while it opens. -/
def cancelledRun : List Action :=
  [.call .openAsync, .control, .control, .control, .control, .control, .control, .control,
    .task 0 (.returned true), .task 0 (.returned true), .task 0 (.returned true),
    .call .cancelAsyncOpen, .control, .control,
    .task 0 (.returned true), .task 0 (.returned true), .task 0 (.returned true),
    .task 0 (.returned true), .task 0 (.returned true), .task 0 (.returned true),
    .task 0 (.returned true), .control, .control]

end Controller

end DecoderSDK.AsyncOpen
