import DecoderSDK.AsyncOpen.Tasks

/-! # What the threads of an asynchronous open rely on

The callback of a request waits in the slot until its own task takes it, and
no operation gets past `cancelAsyncOpen` before the newest task has taken its
callback, invoked it and cleared the flag. The events of a run are therefore
in order: a callback is invoked once and by its own task, with what became of
that task, and a task begins when the earlier callbacks have been invoked.
-/
namespace DecoderSDK.AsyncOpen
open Interleaving

def Event.invokes (callback : ℕ) : Event → Bool
  | .invoked _ c _ => decide (c = callback)
  | _ => false

/-- How often a callback was invoked. -/
def invocations (callback : ℕ) (log : List Event) : ℕ := log.countP (Event.invokes callback)

/-- The event tells how the open of the task, or its `try` block, went. -/
def Event.reports (task : ℕ) : Event → Bool
  | .openReturned k _ => decide (k = task)
  | .ended k _ => decide (k = task)
  | _ => false

/-- Nothing is known of the task's open yet. -/
def Unreported (task : ℕ) (log : List Event) : Prop := ∀ e ∈ log, e.reports task = false

/-- The cancel flag after some events. -/
def canceling : List Event → Bool
  | [] => false
  | .cancelStored cancel :: _ => cancel
  | _ :: earlier => canceling earlier

/-- What has happened when a `try` block ends. -/
def Ending.Follows (earlier : List Event) (task : ℕ) : Ending → Prop
  | .cancelledBefore => canceling earlier = true ∧ Unreported task earlier
  | .completed cancelled opened =>
    cancelled = canceling earlier ∧ (opened = true ↔ .openReturned task true ∈ earlier)
  | .threw _ => Unreported task earlier

/-- The answer that belongs to what became of a task. -/
inductive Answers (earlier : List Event) (task : ℕ) : Answer → Prop where
  | cancelledBefore (h : .ended task .cancelledBefore ∈ earlier) :
    Answers earlier task ⟨.kCancelled, false, "Operation was canceled before starting"⟩
  | cancelled (opened : Bool) (h : .ended task (.completed true opened) ∈ earlier) :
    Answers earlier task ⟨.kCancelled, false, "Operation was canceled during execution"⟩
  | success (h : .ended task (.completed false true) ∈ earlier) :
    Answers earlier task ⟨.kSuccess, true, ""⟩
  | failed (h : .ended task (.completed false false) ∈ earlier) :
    Answers earlier task ⟨.kFailed, false, "Failed to open media file"⟩
  | threw (what : String) (h : .ended task (.threw what) ∈ earlier) :
    Answers earlier task ⟨.kFailed, false, "Exception occurred: " ++ what⟩

/-- What may happen after the earlier events. -/
def Allowed (earlier : List Event) : Event → Prop
  | .requested _ => True
  | .cancelStored _ => True
  | .began task => ∀ callback < task, invocations callback earlier = 1
  | .openReturned task _ => Unreported task earlier
  | .ended task ending =>
    (∀ other, .ended task other ∉ earlier) ∧ ending.Follows earlier task
  | .invoked task callback answer =>
    callback = task ∧ invocations callback earlier = 0 ∧ Answers earlier task answer ∧
      (answer.result = .kSuccess → .openReturned task true ∈ earlier)
  | .passed none .openUrl =>
    ∀ callback, .requested callback ∈ earlier → invocations callback earlier = 1
  | .passed none .close =>
    ∀ callback, .requested callback ∈ earlier → invocations callback earlier = 1
  | .passed _ _ => True

/-- Every event was allowed when it happened; the newest one comes first. -/
def Orderly : List Event → Prop
  | [] => True
  | e :: earlier => Allowed earlier e ∧ Orderly earlier

def Job.isOpenAsync : Job → Bool
  | .openAsync _ => true
  | _ => false

/-- The thread is in no `openAsync`. -/
def OpPc.tame : OpPc → Bool
  | .idle => true
  | .stopReconnect job => !job.isOpenAsync
  | .cancelTest job => !job.isOpenAsync
  | .setCancel job => !job.isOpenAsync
  | .wait job => !job.isOpenAsync
  | .clearCancel job => !job.isOpenAsync
  | .opening => true
  | .cleanupPreBufferState => true
  | .stopDecode => true
  | .closing => true
  | .startDecode => true
  | _ => false

/-- The task's function is left, but for its last lines. -/
def TaskPc.done : TaskPc → Bool
  | .leaving => true
  | .returned => true
  | _ => false

namespace Controller

/-- No task can touch the slot or the flags any more. -/
def Settled (s : Controller) : Prop := ∀ k < s.spawned, (s.tasks k).done = true

/-- The future is that of the newest task. -/
def Current (s : Controller) : Prop := ∀ k, k + 1 = s.spawned → s.asyncOpenFuture = some k

/-- Tasks are started for all requests, but for one that is under way. -/
def Counted (s : Controller) : Job → Prop
  | .openAsync callback => callback = s.spawned ∧ s.requested = s.spawned + 1
  | _ => s.requested = s.spawned

/-- What the control thread may rely on at each point. -/
def ControlOk (s : Controller) : OpPc → Prop
  | .idle => s.Current ∧ s.requested = s.spawned
  | .stopReconnect job => s.Current ∧ s.Counted job
  | .cancelTest job => s.Current ∧ s.Counted job
  | .setCancel job => s.Current ∧ s.Counted job
  | .wait job => s.Current ∧ s.Counted job
  | .clearCancel job => s.Current ∧ s.Counted job ∧ s.Settled
  | .opening => s.Current ∧ s.requested = s.spawned
  | .cleanupPreBufferState => s.Current ∧ s.requested = s.spawned
  | .stopDecode => s.Current ∧ s.requested = s.spawned
  | .closing => s.Current ∧ s.requested = s.spawned
  | .lock callback => s.Current ∧ s.Counted (.openAsync callback) ∧ s.Settled
  | .setCallback callback => s.Current ∧ s.Counted (.openAsync callback) ∧ s.Settled
  | .setInProgress => s.Current ∧ s.Counted (.openAsync s.spawned) ∧ s.Settled ∧
      s.asyncOpenCallback = some s.spawned
  | .resetCancel => s.Current ∧ s.Counted (.openAsync s.spawned) ∧ s.Settled ∧
      s.asyncOpenCallback = some s.spawned ∧ s.asyncOpenInProgress = true
  | .spawn => s.Current ∧ s.Counted (.openAsync s.spawned) ∧ s.Settled ∧
      s.asyncOpenCallback = some s.spawned ∧ s.asyncOpenInProgress = true
  | .assign task => task + 1 = s.spawned ∧ s.requested = s.spawned ∧ s.tasks task = .lock ∧
      ∀ k, s.asyncOpenFuture = some k → k + 1 < s.spawned
  | .startDecode => s.Current ∧ s.requested = s.spawned

/-- A successful answer comes from an open that succeeded. -/
def Backed (log : List Event) (k : ℕ) (answer : Answer) : Prop :=
  answer.result = .kSuccess → .openReturned k true ∈ log

/-- The callback of the task waits to be invoked, and nothing is known of its open yet. -/
structure Fresh (log : List Event) (k : ℕ) : Prop where
  uninvoked : invocations k log = 0
  unreported : Unreported k log

/-- The open of the task is over, and its `try` block is not. -/
structure Opened (log : List Event) (k : ℕ) (opened : Bool) : Prop where
  uninvoked : invocations k log = 0
  unended : ∀ ending, .ended k ending ∉ log
  opened_iff : opened = true ↔ .openReturned k true ∈ log

/-- The callback of the task waits to be invoked with what became of the task. -/
structure Ended (log : List Event) (k : ℕ) (answer : Answer) : Prop where
  uninvoked : invocations k log = 0
  answers : Answers log k answer
  backed : Backed log k answer

/-- What a task may rely on at each point: its callback waits in the slot until it takes it. -/
def TaskOk (s : Controller) (k : ℕ) : TaskPc → Prop
  | .lock => s.asyncOpenCallback = some k ∧ Fresh s.log k
  | .cancelTest => s.asyncOpenCallback = some k ∧ Fresh s.log k
  | .internalTest => s.asyncOpenCallback = some k ∧ Fresh s.log k
  | .opening => s.asyncOpenCallback = some k ∧ Fresh s.log k
  | .cancelledTest opened => s.asyncOpenCallback = some k ∧ Opened s.log k opened
  | .takeCallback answer => s.asyncOpenCallback = some k ∧ Ended s.log k answer
  | .invoke answer callback => callback = some k ∧ Ended s.log k answer
  | .inCallback pc => pc.tame = true ∧ invocations k s.log = 1
  | .clearProgress => invocations k s.log = 1
  | .leaving => invocations k s.log = 1
  | .returned => invocations k s.log = 1

structure Invariant (s : Controller) : Prop where
  control : s.ControlOk s.control
  task : ∀ k < s.spawned, s.TaskOk k (s.tasks k)
  old : ∀ k, k + 1 < s.spawned → (s.tasks k).done = true
  progress : s.asyncOpenInProgress = false → s.Settled
  future : ∀ k, s.asyncOpenFuture = some k → k < s.spawned
  fresh : ∀ k, s.spawned ≤ k → Fresh s.log k
  requests : ∀ k, .requested k ∈ s.log → k < s.requested
  canceling : canceling s.log = s.shouldCancelAsyncOpen
  running : s.terminated = false
  orderly : Orderly s.log

theorem invariant_new (selfJoin : SelfJoin) : Invariant (new selfJoin) where
  control := by
    constructor
    · intro k hk
      cases hk
    · rfl
  task := by
    intro k hk
    cases hk
  old := by
    intro k hk
    cases hk
  progress := by
    intro _ k hk
    cases hk
  future := by
    intro k hk
    cases hk
  fresh := by
    intro k _
    refine ⟨rfl, ?_⟩
    intro e he
    cases he
  requests := by
    intro k hk
    cases hk
  canceling := rfl
  running := rfl
  orderly := trivial

theorem invocations_cons_of_not {e : Event} {k : ℕ} (h : e.invokes k = false) (log : List Event) :
    invocations k (e :: log) = invocations k log := by
  rw [invocations, List.countP_cons_of_neg (by simp [h])]
  rfl

theorem invocations_invoked (task k : ℕ) (answer : Answer) (log : List Event) :
    invocations k (.invoked task k answer :: log) = invocations k log + 1 := by
  rw [invocations, List.countP_cons_of_pos (by simp [Event.invokes])]
  rfl

/-- The later log has nothing new on the task. -/
structure SameFor (k : ℕ) (log log' : List Event) : Prop where
  invocations_eq : AsyncOpen.invocations k log' = AsyncOpen.invocations k log
  subset : log ⊆ log'
  reported : ∀ e ∈ log', e.reports k = true → e ∈ log

theorem SameFor.refl (k : ℕ) (log : List Event) : SameFor k log log :=
  ⟨rfl, List.Subset.refl log, fun _ he _ => he⟩

theorem sameFor_cons {e : Event} {k : ℕ} (hinvokes : e.invokes k = false)
    (hreports : e.reports k = false) (log : List Event) : SameFor k log (e :: log) where
  invocations_eq := invocations_cons_of_not hinvokes log
  subset := List.subset_cons_self e log
  reported := by
    intro e' he' hreports'
    rcases List.mem_cons.mp he' with rfl | he'
    · rw [hreports] at hreports'
      cases hreports'
    · exact he'

theorem SameFor.trans {k : ℕ} {log log' log'' : List Event} (h : SameFor k log log')
    (h' : SameFor k log' log'') : SameFor k log log'' where
  invocations_eq := h'.invocations_eq.trans h.invocations_eq
  subset := List.Subset.trans h.subset h'.subset
  reported := fun e he hreports => h.reported e (h'.reported e he hreports) hreports

theorem Fresh.mono {k : ℕ} {log log' : List Event} (h : Fresh log k) (hsame : SameFor k log log') :
    Fresh log' k where
  uninvoked := hsame.invocations_eq.trans h.uninvoked
  unreported := by
    intro e he
    by_contra hreports
    rw [Bool.not_eq_false] at hreports
    rw [h.unreported e (hsame.reported e he hreports)] at hreports
    cases hreports

theorem Fresh.unended {k : ℕ} {log : List Event} (h : Fresh log k) (ending : Ending) :
    .ended k ending ∉ log := by
  intro he
  have hreports := h.unreported _ he
  simp [Event.reports] at hreports

theorem Opened.mono {k : ℕ} {log log' : List Event} {opened : Bool} (h : Opened log k opened)
    (hsame : SameFor k log log') : Opened log' k opened where
  uninvoked := hsame.invocations_eq.trans h.uninvoked
  unended := fun ending he => h.unended ending (hsame.reported _ he (by simp [Event.reports]))
  opened_iff := h.opened_iff.trans
    ⟨fun he => hsame.subset he, fun he => hsame.reported _ he (by simp [Event.reports])⟩

theorem Ended.mono {k : ℕ} {log log' : List Event} {answer : Answer} (h : Ended log k answer)
    (hsame : SameFor k log log') : Ended log' k answer where
  uninvoked := hsame.invocations_eq.trans h.uninvoked
  answers := by
    cases h.answers with
    | cancelledBefore hended => exact .cancelledBefore (hsame.subset hended)
    | cancelled opened hended => exact .cancelled opened (hsame.subset hended)
    | success hended => exact .success (hsame.subset hended)
    | failed hended => exact .failed (hsame.subset hended)
    | threw what hended => exact .threw what (hsame.subset hended)
  backed := fun hsuccess => hsame.subset (h.backed hsuccess)

/-- A task that has left its function has had its callback invoked. -/
theorem taskOk_iff_of_done {s : Controller} {k : ℕ} {pc : TaskPc} (hdone : pc.done = true) :
    s.TaskOk k pc ↔ AsyncOpen.invocations k s.log = 1 := by
  cases pc with
  | leaving => exact Iff.rfl
  | returned => exact Iff.rfl
  | lock => cases hdone
  | cancelTest => cases hdone
  | internalTest => cases hdone
  | opening => cases hdone
  | cancelledTest _ => cases hdone
  | takeCallback _ => cases hdone
  | invoke _ _ => cases hdone
  | inCallback _ => cases hdone
  | clearProgress => cases hdone

namespace Invariant

variable {s : Controller}

/-- Only the newest task is still at work. -/
theorem newest (h : Invariant s) {k : ℕ} (hk : k < s.spawned) (hpc : (s.tasks k).done = false) :
    k + 1 = s.spawned := by
  by_contra hne
  have hold := h.old k (by omega)
  rw [hpc] at hold
  cases hold

theorem answered_of_settled (h : Invariant s) (hsettled : s.Settled) {k : ℕ}
    (hk : k < s.spawned) : invocations k s.log = 1 :=
  (taskOk_iff_of_done (hsettled k hk)).mp (h.task k hk)

/-- The control thread goes on without changing anything else. -/
theorem goto (h : Invariant s) {pc : OpPc} (hpc : s.ControlOk pc) :
    Invariant { s with control := pc } where
  control := hpc
  task := h.task
  old := h.old
  progress := h.progress
  future := h.future
  fresh := h.fresh
  requests := h.requests
  canceling := h.canceling
  running := h.running
  orderly := h.orderly

end Invariant

/-- A task does not notice events that are not its own. -/
theorem TaskOk.mono {s s' : Controller} {k : ℕ} {pc : TaskPc} (h : s.TaskOk k pc)
    (hslot : s'.asyncOpenCallback = s.asyncOpenCallback) (hsame : SameFor k s.log s'.log) :
    s'.TaskOk k pc := by
  cases pc with
  | lock | cancelTest | internalTest | opening => exact ⟨hslot.trans h.1, h.2.mono hsame⟩
  | cancelledTest opened => exact ⟨hslot.trans h.1, h.2.mono hsame⟩
  | takeCallback answer => exact ⟨hslot.trans h.1, h.2.mono hsame⟩
  | invoke answer callback => exact ⟨h.1, h.2.mono hsame⟩
  | inCallback pc => exact ⟨h.1, hsame.invocations_eq.trans h.2⟩
  | clearProgress => exact hsame.invocations_eq.trans h
  | leaving => exact hsame.invocations_eq.trans h
  | returned => exact hsame.invocations_eq.trans h

namespace Invariant

variable {s : Controller}

/-- An event that is about no task's open and no answer. -/
theorem record (h : Invariant s) {e : Event}
    (hsame : ∀ k, e.invokes k = false ∧ e.reports k = false)
    (hcanceling : AsyncOpen.canceling (e :: s.log) = AsyncOpen.canceling s.log)
    (hallowed : Allowed s.log e) (hrequested : ∀ k, e = .requested k → k < s.requested) :
    Invariant (s.record e) where
  control := h.control
  task := fun k hk => (h.task k hk).mono rfl (sameFor_cons (hsame k).1 (hsame k).2 s.log)
  old := h.old
  progress := h.progress
  future := h.future
  fresh := fun k hk => (h.fresh k hk).mono (sameFor_cons (hsame k).1 (hsame k).2 s.log)
  requests := by
    intro k hk
    rcases List.mem_cons.mp hk with hk | hk
    · exact hrequested k hk.symm
    · exact h.requests k hk
  canceling := hcanceling.trans h.canceling
  running := h.running
  orderly := ⟨hallowed, h.orderly⟩

/-- What the control thread relies on while the newest task is at work. -/
theorem controlOk_of_working {s s' : Controller} {k : ℕ} {pc : OpPc} (h : s.ControlOk pc)
    (hk : k < s.spawned) (hworking : (s.tasks k).done = false)
    (hnewest : k + 1 = s.spawned) (hlock : s.tasks k = .lock → pc.holds = false)
    (hspawned : s'.spawned = s.spawned) (hrequested : s'.requested = s.requested)
    (hfuture : s'.asyncOpenFuture = s.asyncOpenFuture) : s'.ControlOk pc := by
  have hcurrent : s.Current → s'.Current := by
    intro hcurrent j hj
    rw [hfuture]
    exact hcurrent j (hspawned ▸ hj)
  have hcounted : ∀ job, s.Counted job → s'.Counted job := by
    intro job hjob
    cases job with
    | openUrl => exact hrequested.trans (hjob.trans hspawned.symm)
    | openAsync callback =>
      exact ⟨hjob.1.trans hspawned.symm, by rw [hrequested, hspawned]; exact hjob.2⟩
    | close => exact hrequested.trans (hjob.trans hspawned.symm)
    | cancelAsyncOpen => exact hrequested.trans (hjob.trans hspawned.symm)
  have hbusy : ¬s.Settled := by
    intro hsettled
    rw [hsettled k hk] at hworking
    cases hworking
  have hcount : s.requested = s.spawned → s'.requested = s'.spawned := by
    rw [hrequested, hspawned]
    exact id
  cases pc with
  | idle => exact ⟨hcurrent h.1, hcount h.2⟩
  | stopReconnect job => exact ⟨hcurrent h.1, hcounted job h.2⟩
  | cancelTest job => exact ⟨hcurrent h.1, hcounted job h.2⟩
  | setCancel job => exact ⟨hcurrent h.1, hcounted job h.2⟩
  | wait job => exact ⟨hcurrent h.1, hcounted job h.2⟩
  | clearCancel job => exact absurd h.2.2 hbusy
  | opening => exact ⟨hcurrent h.1, hcount h.2⟩
  | cleanupPreBufferState => exact ⟨hcurrent h.1, hcount h.2⟩
  | stopDecode => exact ⟨hcurrent h.1, hcount h.2⟩
  | closing => exact ⟨hcurrent h.1, hcount h.2⟩
  | lock callback => exact absurd h.2.2 hbusy
  | setCallback callback => exact absurd h.2.2 hbusy
  | setInProgress => exact absurd h.2.2.1 hbusy
  | resetCancel => exact absurd h.2.2.1 hbusy
  | spawn => exact absurd h.2.2.1 hbusy
  | assign task =>
    -- The task of the assignment waits for the mutex that the control thread holds.
    have hsame : task = k := by
      have htask := h.1
      omega
    have hfree := hlock (hsame ▸ h.2.2.1)
    cases hfree
  | startDecode => exact ⟨hcurrent h.1, hcount h.2⟩

/-- The newest task makes a step. -/
theorem moveTask (h : Invariant s) {k : ℕ} (hk : k < s.spawned)
    (hworking : (s.tasks k).done = false) (hlock : s.tasks k = .lock → s.locked = false)
    {pc : TaskPc} {slot : Option ℕ} {flag cancel : Bool} {log : List Event}
    (hflag : flag = s.asyncOpenInProgress ∨ pc.done = true)
    (hothers : ∀ j, j ≠ k → SameFor j s.log log)
    (hrequests : ∀ j, .requested j ∈ log → .requested j ∈ s.log)
    (hcanceling : AsyncOpen.canceling log = cancel) (horderly : Orderly log)
    (hpc : TaskOk { s with asyncOpenCallback := slot, log := log } k pc) :
    Invariant { s with
      asyncOpenInProgress := flag
      shouldCancelAsyncOpen := cancel
      asyncOpenCallback := slot
      tasks := Function.update s.tasks k pc
      log := log } where
  control := by
    apply controlOk_of_working h.control hk hworking (h.newest hk hworking)
    · intro hwaiting
      have hfree := hlock hwaiting
      rw [locked, Bool.or_eq_false_iff] at hfree
      exact hfree.1
    · rfl
    · rfl
    · rfl
  task := by
    intro j hj
    by_cases hjk : j = k
    · subst hjk
      simp only [Function.update_self]
      cases pc <;> exact hpc
    · simp only [Function.update_of_ne hjk]
      have hnewest := h.newest hk hworking
      have hdone := h.old j (by simp only at hj; omega)
      apply (taskOk_iff_of_done hdone).mpr
      exact (hothers j hjk).invocations_eq.trans ((taskOk_iff_of_done hdone).mp (h.task j hj))
  old := by
    intro j hj
    have hnewest := h.newest hk hworking
    have hjk : j ≠ k := by
      simp only at hj
      omega
    simp only [Function.update_of_ne hjk]
    exact h.old j hj
  progress := by
    intro hfalse j hj
    rcases hflag with hflag | hdone
    · have hsettled := h.progress (hflag ▸ hfalse)
      rw [hsettled k hk] at hworking
      cases hworking
    · by_cases hjk : j = k
      · subst hjk
        simp only [Function.update_self]
        exact hdone
      · have hnewest := h.newest hk hworking
        simp only [Function.update_of_ne hjk]
        exact h.old j (by simp only at hj; omega)
  future := h.future
  fresh := by
    intro j hj
    have hjk : j ≠ k := by
      simp only at hj
      omega
    exact (h.fresh j hj).mono (hothers j hjk)
  requests := fun j hj => h.requests j (hrequests j hj)
  canceling := hcanceling
  running := h.running
  orderly := horderly

/-- The newest task makes a step that only concerns itself. -/
theorem setTask (h : Invariant s) {k : ℕ} (hk : k < s.spawned)
    (hworking : (s.tasks k).done = false) (hlock : s.tasks k = .lock → s.locked = false)
    {pc : TaskPc} (hpc : s.TaskOk k pc) : Invariant (s.setTask k pc) :=
  h.moveTask hk hworking hlock (Or.inl rfl) (fun j _ => .refl j s.log) (fun _ hj => hj) h.canceling
    h.orderly (hpc.mono rfl (.refl k s.log))

/-- The newest task makes a step, and records how its open went. -/
theorem reportTask (h : Invariant s) {k : ℕ} (hk : k < s.spawned)
    (hworking : (s.tasks k).done = false) (hlock : s.tasks k = .lock → s.locked = false)
    {e : Event} (hinvokes : ∀ j, e.invokes j = false) (hreports : ∀ j, j ≠ k → e.reports j = false)
    (hrequested : ∀ j, e ≠ .requested j)
    (hcanceling : AsyncOpen.canceling (e :: s.log) = AsyncOpen.canceling s.log)
    (hallowed : Allowed s.log e) {pc : TaskPc} (hpc : (s.record e).TaskOk k pc) :
    Invariant ((s.record e).setTask k pc) := by
  apply h.moveTask hk hworking hlock (Or.inl rfl)
  · intro j hj
    exact sameFor_cons (hinvokes j) (hreports j hj) s.log
  · intro j hj
    rcases List.mem_cons.mp hj with hj | hj
    · exact absurd hj.symm (hrequested j)
    · exact hj
  · exact hcanceling.trans h.canceling
  · exact ⟨hallowed, h.orderly⟩
  · exact hpc

/-- The function of a task returns. -/
theorem returns (h : Invariant s) {k : ℕ} (hpc : s.tasks k = .leaving) (hk : k < s.spawned) :
    Invariant (s.setTask k .returned) := by
  have hdone : ∀ j, (Function.update s.tasks k .returned j).done = (s.tasks j).done := by
    intro j
    by_cases hjk : j = k
    · rw [hjk, Function.update_self, hpc]
      rfl
    · rw [Function.update_of_ne hjk]
  have hsettled : s.Settled → (s.setTask k .returned).Settled := by
    intro hsettled j hj
    rw [Controller.setTask, hdone j]
    exact hsettled j hj
  constructor
  · have hcontrol := h.control
    change (s.setTask k .returned).ControlOk s.control
    cases hpc' : s.control <;> rw [hpc'] at hcontrol
    case clearCancel job => exact ⟨hcontrol.1, hcontrol.2.1, hsettled hcontrol.2.2⟩
    case lock callback => exact ⟨hcontrol.1, hcontrol.2.1, hsettled hcontrol.2.2⟩
    case setCallback callback => exact ⟨hcontrol.1, hcontrol.2.1, hsettled hcontrol.2.2⟩
    case setInProgress => exact ⟨hcontrol.1, hcontrol.2.1, hsettled hcontrol.2.2.1, hcontrol.2.2.2⟩
    case resetCancel => exact ⟨hcontrol.1, hcontrol.2.1, hsettled hcontrol.2.2.1, hcontrol.2.2.2⟩
    case spawn => exact ⟨hcontrol.1, hcontrol.2.1, hsettled hcontrol.2.2.1, hcontrol.2.2.2⟩
    case assign task =>
      refine ⟨hcontrol.1, hcontrol.2.1, ?_, hcontrol.2.2.2⟩
      have hne : task ≠ k := by
        rintro rfl
        have hlock := hcontrol.2.2.1
        rw [hpc] at hlock
        cases hlock
      exact (Function.update_of_ne hne _ _).trans hcontrol.2.2.1
    all_goals exact hcontrol
  · intro j hj
    by_cases hjk : j = k
    · subst hjk
      have htask := h.task j hj
      rw [hpc] at htask
      rw [Controller.setTask]
      simp only [Function.update_self]
      exact htask
    · rw [Controller.setTask]
      simp only [Function.update_of_ne hjk]
      exact (h.task j hj).mono rfl (.refl j s.log)
  · intro j hj
    rw [Controller.setTask, hdone j]
    exact h.old j hj
  · intro hfalse
    exact hsettled (h.progress hfalse)
  · exact h.future
  · exact h.fresh
  · exact h.requests
  · exact h.canceling
  · exact h.running
  · exact h.orderly

theorem counted_lt (h : Invariant s) (hcount : s.requested = s.spawned) (hsettled : s.Settled)
    {k : ℕ} (hk : .requested k ∈ s.log) : invocations k s.log = 1 :=
  h.answered_of_settled hsettled (hcount ▸ h.requests k hk)

/-- An operation goes on when no task is at work any more. -/
theorem passes (h : Invariant s) {job : Job} (hcurrent : s.Current) (hcounted : s.Counted job)
    (hsettled : s.Settled) :
    Invariant { s.record (.passed none job) with control := afterCancel job } := by
  have hrecord : Invariant (s.record (.passed none job)) := by
    apply h.record
    · intro k
      exact ⟨rfl, rfl⟩
    · rfl
    · cases job with
      | openUrl => exact fun k hk => h.counted_lt hcounted hsettled hk
      | openAsync callback => trivial
      | close => exact fun k hk => h.counted_lt hcounted hsettled hk
      | cancelAsyncOpen => trivial
    · intro k hk
      cases hk
  apply hrecord.goto
  cases job with
  | openUrl => exact ⟨hcurrent, hcounted⟩
  | openAsync callback => exact ⟨hcurrent, hcounted, hsettled⟩
  | close => exact ⟨hcurrent, hcounted⟩
  | cancelAsyncOpen => exact ⟨hcurrent, hcounted⟩

theorem storeCancel (h : Invariant s) (cancel : Bool) : Invariant (s.storeCancel cancel) where
  control := by
    have hcontrol := h.control
    change (s.storeCancel cancel).ControlOk s.control
    cases hpc : s.control <;> rw [hpc] at hcontrol <;> exact hcontrol
  task := fun k hk => (h.task k hk).mono rfl (sameFor_cons rfl rfl s.log)
  old := h.old
  progress := h.progress
  future := h.future
  fresh := fun k hk => (h.fresh k hk).mono (sameFor_cons rfl rfl s.log)
  requests := by
    intro k hk
    rcases List.mem_cons.mp hk with hk | hk
    · cases hk
    · exact h.requests k hk
  canceling := rfl
  running := h.running
  orderly := ⟨trivial, h.orderly⟩

/-- The newest task has returned when the future is ready. -/
theorem settled_of_ready (h : Invariant s) (hcurrent : s.Current)
    (hready : s.futureReady = true) : s.Settled := by
  intro k hk
  by_cases hold : k + 1 < s.spawned
  · exact h.old k hold
  · have hfuture := hcurrent k (by omega)
    rw [futureReady, hfuture] at hready
    simp only [decide_eq_true_eq] at hready
    rw [hready]
    rfl

/-- A task is started. -/
theorem spawns (h : Invariant s) (hcontrol : s.ControlOk .spawn) :
    Invariant { s.setTask s.spawned .lock with
      spawned := s.spawned + 1
      control := .assign s.spawned } where
  control := by
    refine ⟨rfl, hcontrol.2.1.2, Function.update_self _ _ _, ?_⟩
    intro k hk
    exact Nat.succ_lt_succ (h.future k hk)
  task := by
    intro k hk
    by_cases hnew : k = s.spawned
    · subst hnew
      simp only [Controller.setTask, Function.update_self]
      exact ⟨hcontrol.2.2.2.1, h.fresh s.spawned le_rfl⟩
    · have hlt : k < s.spawned := lt_of_le_of_ne (Nat.lt_succ_iff.mp hk) hnew
      simp only [Controller.setTask, Function.update_of_ne hnew]
      exact (h.task k hlt).mono rfl (.refl k s.log)
  old := by
    intro k hk
    have hlt : k < s.spawned := Nat.succ_lt_succ_iff.mp hk
    simp only [Controller.setTask, Function.update_of_ne hlt.ne]
    exact hcontrol.2.2.1 k hlt
  progress := by
    intro hfalse
    have htrue := hcontrol.2.2.2.2
    simp only [Controller.setTask] at hfalse
    rw [hfalse] at htrue
    cases htrue
  future := fun k hk => (h.future k hk).trans (Nat.lt_succ_self _)
  fresh := fun k hk => h.fresh k (Nat.le_of_succ_le hk)
  requests := h.requests
  canceling := h.canceling
  running := h.running
  orderly := h.orderly

/-- `openAsync` prepares the slot and the flag while no task is at work. -/
theorem writes (h : Invariant s) (hsettled : s.Settled) {slot : Option ℕ} {flag : Bool} {pc : OpPc}
    (hpc : ControlOk { s with asyncOpenCallback := slot, asyncOpenInProgress := flag } pc) :
    Invariant { s with
      asyncOpenCallback := slot
      asyncOpenInProgress := flag
      control := pc } where
  control := hpc
  task := fun k hk =>
    (taskOk_iff_of_done (hsettled k hk)).mpr (h.answered_of_settled hsettled hk)
  old := h.old
  progress := fun _ => hsettled
  future := h.future
  fresh := h.fresh
  requests := h.requests
  canceling := h.canceling
  running := h.running
  orderly := h.orderly

/-- The future becomes that of the new task. -/
theorem assigns (h : Invariant s) {task : ℕ} (hcontrol : s.ControlOk (.assign task)) :
    Invariant { s with asyncOpenFuture := some task, control := .idle } where
  control := by
    refine ⟨?_, hcontrol.2.1⟩
    intro k hk
    have htask := hcontrol.1
    simp only at hk
    rw [show k = task by omega]
  task := h.task
  old := h.old
  progress := h.progress
  future := by
    intro k hk
    rw [Option.some.injEq] at hk
    rw [← hk, ← hcontrol.1]
    exact Nat.lt_succ_self task
  fresh := h.fresh
  requests := h.requests
  canceling := h.canceling
  running := h.running
  orderly := h.orderly

/-- A section is entered, or the thread waits. -/
theorem guarded_eq_some {pc pc' : OpPc} {s' : Controller}
    (h : s.guarded pc = some (s', pc')) : s' = s ∧ pc' = pc := by
  rw [guarded, Option.ite_none_left_eq_some] at h
  rw [Option.some.injEq, Prod.mk.injEq] at h
  exact ⟨h.2.1.symm, h.2.2.symm⟩

theorem guarded_goto (h : Invariant s) {pc pc' : OpPc} {s' : Controller}
    (hmove : s.guarded pc = some (s', pc')) (hpc : s.ControlOk pc) :
    Invariant { s' with control := pc' } := by
  rcases guarded_eq_some hmove with ⟨rfl, rfl⟩
  exact h.goto hpc

/-- The control thread does not join itself. -/
theorem joinThrows_none (s : Controller) : s.joinThrows none = false := by
  simp [joinThrows]

/-- A step of the control thread. -/
theorem controlMove (h : Invariant s) {s' : Controller} {pc' : OpPc}
    (hmove : s.opMove none s.control = some (s', pc')) : Invariant { s' with control := pc' } := by
  have hcontrol := h.control
  cases hpc : s.control with
  | idle =>
    rw [hpc] at hmove
    cases hmove
  | stopReconnect job =>
    rw [hpc] at hmove hcontrol
    apply h.guarded_goto hmove
    cases job <;> exact hcontrol
  | cancelTest job =>
    rw [hpc] at hmove hcontrol
    rw [opMove] at hmove
    by_cases hprogress : s.asyncOpenInProgress = true
    · rw [if_pos hprogress, Option.some.injEq, Prod.mk.injEq] at hmove
      rcases hmove with ⟨rfl, rfl⟩
      exact h.goto hcontrol
    · rw [if_neg hprogress, Option.some.injEq, Prod.mk.injEq] at hmove
      rcases hmove with ⟨rfl, rfl⟩
      exact h.passes hcontrol.1 hcontrol.2 (h.progress (by simpa using hprogress))
  | setCancel job =>
    rw [hpc] at hmove hcontrol
    rw [opMove, Option.some.injEq, Prod.mk.injEq] at hmove
    rcases hmove with ⟨rfl, rfl⟩
    exact (h.storeCancel true).goto hcontrol
  | wait job =>
    rw [hpc] at hmove hcontrol
    rw [opMove, joinThrows_none, Bool.or_false, Option.ite_none_right_eq_some] at hmove
    rw [Option.some.injEq, Prod.mk.injEq] at hmove
    rcases hmove with ⟨hready, rfl, rfl⟩
    exact h.goto ⟨hcontrol.1, hcontrol.2, h.settled_of_ready hcontrol.1 hready⟩
  | clearCancel job =>
    rw [hpc] at hmove hcontrol
    rw [opMove, Option.some.injEq, Prod.mk.injEq] at hmove
    rcases hmove with ⟨rfl, rfl⟩
    exact (h.storeCancel false).passes hcontrol.1 hcontrol.2.1 hcontrol.2.2
  | opening | cleanupPreBufferState | stopDecode | closing | lock callback | startDecode =>
    rw [hpc] at hmove hcontrol
    exact h.guarded_goto hmove hcontrol
  | setCallback callback =>
    rw [hpc] at hmove hcontrol
    rw [opMove, Option.some.injEq, Prod.mk.injEq] at hmove
    rcases hmove with ⟨rfl, rfl⟩
    exact h.writes hcontrol.2.2 ⟨hcontrol.1, ⟨rfl, hcontrol.2.1.2⟩, hcontrol.2.2,
      congrArg some hcontrol.2.1.1⟩
  | setInProgress =>
    rw [hpc] at hmove hcontrol
    rw [opMove, Option.some.injEq, Prod.mk.injEq] at hmove
    rcases hmove with ⟨rfl, rfl⟩
    exact h.writes hcontrol.2.2.1 ⟨hcontrol.1, hcontrol.2.1, hcontrol.2.2.1, hcontrol.2.2.2, rfl⟩
  | resetCancel =>
    rw [hpc] at hmove hcontrol
    rw [opMove, Option.some.injEq, Prod.mk.injEq] at hmove
    rcases hmove with ⟨rfl, rfl⟩
    exact (h.storeCancel false).goto hcontrol
  | spawn =>
    rw [hpc] at hmove hcontrol
    rw [opMove, Option.some.injEq, Prod.mk.injEq] at hmove
    rcases hmove with ⟨rfl, rfl⟩
    exact h.spawns hcontrol
  | assign task =>
    rw [hpc] at hmove hcontrol
    rw [opMove, joinThrows_none, if_neg Bool.false_ne_true, Option.ite_none_right_eq_some] at hmove
    rw [Option.some.injEq, Prod.mk.injEq] at hmove
    rcases hmove with ⟨-, rfl, rfl⟩
    exact h.assigns hcontrol

/-- `openAsync` is called. -/
theorem requests_openAsync (h : Invariant s) (hcontrol : s.ControlOk .idle) :
    Invariant { s.record (.requested s.requested) with
      requested := s.requested + 1
      control := .cancelTest (.openAsync s.requested) } where
  control := ⟨hcontrol.1, hcontrol.2, congrArg (· + 1) hcontrol.2⟩
  task := fun k hk => (h.task k hk).mono rfl (sameFor_cons rfl rfl s.log)
  old := h.old
  progress := h.progress
  future := h.future
  fresh := fun k hk => (h.fresh k hk).mono (sameFor_cons rfl rfl s.log)
  requests := by
    intro k hk
    rcases List.mem_cons.mp hk with hk | hk
    · rw [Event.requested.injEq] at hk
      rw [hk]
      exact Nat.lt_succ_self s.requested
    · exact (h.requests k hk).trans (Nat.lt_succ_self s.requested)
  canceling := h.canceling
  running := h.running
  orderly := ⟨trivial, h.orderly⟩

/-- The next task begins its open when the earlier ones have been answered. -/
theorem allowed_began (h : Invariant s) {k : ℕ} (hk : k < s.spawned)
    (hworking : (s.tasks k).done = false) : Allowed s.log (.began k) := by
  intro callback hcallback
  have hnewest := h.newest hk hworking
  have hdone := h.old callback (by omega)
  exact (taskOk_iff_of_done hdone).mp (h.task callback (hcallback.trans hk))

/-- A task reports what became of it. -/
theorem answers_ended (k : ℕ) (ending : Ending) (log : List Event) :
    Answers (.ended k ending :: log) k ending.answer := by
  cases ending with
  | cancelledBefore => exact .cancelledBefore List.mem_cons_self
  | completed cancelled opened =>
    cases cancelled with
    | true => exact .cancelled opened List.mem_cons_self
    | false =>
      cases opened with
      | true => exact .success List.mem_cons_self
      | false => exact .failed List.mem_cons_self
  | threw what => exact .threw what List.mem_cons_self

/-- A task that reports success has opened. -/
theorem backed_ended {k : ℕ} {ending : Ending} {log : List Event}
    (hfollows : ending.Follows log k) : Backed (.ended k ending :: log) k ending.answer := by
  intro hsuccess
  cases ending with
  | cancelledBefore => cases hsuccess
  | completed cancelled opened =>
    cases cancelled with
    | true => cases hsuccess
    | false =>
      cases opened with
      | true => exact List.mem_cons_of_mem _ (hfollows.2.mp rfl)
      | false => cases hsuccess
  | threw what => cases hsuccess

/-- The `try` block of the newest task is left. -/
theorem ends (h : Invariant s) {k : ℕ} (hk : k < s.spawned) (hworking : (s.tasks k).done = false)
    (hlock : s.tasks k = .lock → s.locked = false) (hslot : s.asyncOpenCallback = some k)
    (hinvocations : invocations k s.log = 0) (hunended : ∀ ending, .ended k ending ∉ s.log)
    {ending : Ending} (hfollows : ending.Follows s.log k) : Invariant (s.ends k ending) := by
  apply h.reportTask hk hworking hlock
  · intro j
    rfl
  · intro j hj
    simp [Event.reports, Ne.symm hj]
  · intro j hj
    cases hj
  · rfl
  · exact ⟨hunended, hfollows⟩
  · exact ⟨hslot, (invocations_cons_of_not rfl s.log).trans hinvocations, answers_ended k ending s.log,
      backed_ended hfollows⟩

/-- The callback is invoked by its own task, for the first time. -/
theorem invokes (h : Invariant s) {k : ℕ} (hk : k < s.spawned) {answer : Answer}
    (hpc : s.tasks k = .invoke answer (some k)) :
    Invariant ((s.record (.invoked k k answer)).setTask k (.inCallback .idle)) := by
  have htask := h.task k hk
  rw [hpc] at htask
  apply h.moveTask hk (by rw [hpc]; rfl) (fun hlock => by rw [hpc] at hlock; cases hlock)
    (Or.inl rfl)
  · intro j hj
    apply sameFor_cons
    · simp [Event.invokes, Ne.symm hj]
    · rfl
  · intro j hj
    rcases List.mem_cons.mp hj with hj | hj
    · cases hj
    · exact hj
  · exact h.canceling
  · exact ⟨⟨rfl, htask.2.uninvoked, htask.2.answers, htask.2.backed⟩, h.orderly⟩
  · exact ⟨rfl, (invocations_invoked k k answer s.log).trans
      (congrArg (· + 1) htask.2.uninvoked)⟩

/-- A tame operation called from a callback changes nothing but the cancel flag. -/
theorem opMove_tame {s' : Controller} {k : ℕ} {pc pc' : OpPc} (htame : pc.tame = true)
    (hmove : s.opMove (some k) pc = some (s', pc')) (hcanceling :
      AsyncOpen.canceling s.log = s.shouldCancelAsyncOpen) :
    pc'.tame = true ∧ ∃ cancel log,
      s' = { s with shouldCancelAsyncOpen := cancel, log := log } ∧ (∀ j, SameFor j s.log log) ∧
      (∀ j, .requested j ∈ log → .requested j ∈ s.log) ∧ AsyncOpen.canceling log = cancel ∧
      (Orderly s.log → Orderly log) := by
  have hpassed : ∀ job (log : List Event), (∀ j, SameFor j log (.passed (some k) job :: log)) ∧
      (∀ j, .requested j ∈ Event.passed (some k) job :: log → .requested j ∈ log) ∧
      (Orderly log → Orderly (.passed (some k) job :: log)) := by
    intro job log
    refine ⟨fun j => sameFor_cons rfl rfl log, fun j hj => ?_, fun h => ⟨?_, h⟩⟩
    · rcases List.mem_cons.mp hj with hj | hj
      · cases hj
      · exact hj
    · cases job <;> trivial
  have hstored : ∀ cancel (log : List Event), (∀ j, SameFor j log (.cancelStored cancel :: log)) ∧
      (∀ j, .requested j ∈ Event.cancelStored cancel :: log → .requested j ∈ log) ∧
      (Orderly log → Orderly (.cancelStored cancel :: log)) := by
    intro cancel log
    refine ⟨fun j => sameFor_cons rfl rfl log, fun j hj => ?_, fun h => ⟨trivial, h⟩⟩
    rcases List.mem_cons.mp hj with hj | hj
    · cases hj
    · exact hj
  have hafter : ∀ job : Job, job.isOpenAsync = false → (afterCancel job).tame = true := by
    intro job hjob
    cases job with
    | openAsync callback => cases hjob
    | _ => rfl
  have hnothing : ∃ cancel log, s = { s with shouldCancelAsyncOpen := cancel, log := log } ∧
      (∀ j, SameFor j s.log log) ∧ (∀ j, .requested j ∈ log → .requested j ∈ s.log) ∧
      AsyncOpen.canceling log = cancel ∧ (Orderly s.log → Orderly log) :=
    ⟨_, _, rfl, fun j => .refl j s.log, fun _ hj => hj, hcanceling, id⟩
  cases pc with
  | idle => cases hmove
  | stopReconnect job =>
    rcases guarded_eq_some hmove with ⟨rfl, rfl⟩
    refine ⟨?_, hnothing⟩
    cases job with
    | openAsync callback => cases htame
    | _ => rfl
  | cancelTest job =>
    have hjob : job.isOpenAsync = false := by simpa [OpPc.tame] using htame
    rw [opMove] at hmove
    split_ifs at hmove
    · rw [Option.some.injEq, Prod.mk.injEq] at hmove
      rcases hmove with ⟨rfl, rfl⟩
      exact ⟨htame, hnothing⟩
    · rw [Option.some.injEq, Prod.mk.injEq] at hmove
      rcases hmove with ⟨rfl, rfl⟩
      rcases hpassed job s.log with ⟨hsame, hrequests, horderly⟩
      exact ⟨hafter job hjob, _, _, rfl, hsame, hrequests, hcanceling, horderly⟩
  | setCancel job =>
    rw [opMove, Option.some.injEq, Prod.mk.injEq] at hmove
    rcases hmove with ⟨rfl, rfl⟩
    rcases hstored true s.log with ⟨hsame, hrequests, horderly⟩
    exact ⟨htame, _, _, rfl, hsame, hrequests, rfl, horderly⟩
  | wait job =>
    rw [opMove, Option.ite_none_right_eq_some] at hmove
    rw [Option.some.injEq, Prod.mk.injEq] at hmove
    rcases hmove with ⟨-, rfl, rfl⟩
    exact ⟨htame, hnothing⟩
  | clearCancel job =>
    have hjob : job.isOpenAsync = false := by simpa [OpPc.tame] using htame
    rw [opMove, Option.some.injEq, Prod.mk.injEq] at hmove
    rcases hmove with ⟨rfl, rfl⟩
    rcases hstored false s.log with ⟨hsame, hrequests, horderly⟩
    rcases hpassed job (.cancelStored false :: s.log) with ⟨hsame', hrequests', horderly'⟩
    exact ⟨hafter job hjob, _, _, rfl, fun j => (hsame j).trans (hsame' j),
      fun j hj => hrequests j (hrequests' j hj), rfl, fun h => horderly' (horderly h)⟩
  | opening | cleanupPreBufferState | stopDecode | closing | startDecode =>
    rcases guarded_eq_some hmove with ⟨rfl, rfl⟩
    exact ⟨rfl, hnothing⟩
  | lock | setCallback | setInProgress | resetCancel | spawn | assign => cases htame

/-- A step of a task. -/
theorem taskMove (h : Invariant s) {k : ℕ} (hk : k < s.spawned) {outcome : Outcome}
    {s' : Controller} (hmove : s.taskMove k outcome = some s') : Invariant s' := by
  have htask := h.task k hk
  have hworking : ∀ {pc : TaskPc}, s.tasks k = pc → pc.done = false → (s.tasks k).done = false := by
    intro pc hpc hdone
    rw [hpc, hdone]
  have hfree : ∀ {pc : TaskPc}, s.tasks k = pc → pc ≠ .lock →
      s.tasks k = .lock → s.locked = false := by
    intro pc hpc hne hlock
    exact absurd (hpc.symm.trans hlock) hne
  rw [Controller.taskMove] at hmove
  cases hpc : s.tasks k with
  | lock =>
    rw [hpc] at htask
    simp only [hpc, Option.ite_none_left_eq_some, Option.some.injEq] at hmove
    rcases hmove with ⟨hlocked, rfl⟩
    exact h.setTask hk (hworking hpc rfl) (fun _ => by simpa using hlocked) htask
  | cancelTest =>
    rw [hpc] at htask
    simp only [hpc] at hmove
    split_ifs at hmove with hcancel
    · rw [Option.some.injEq] at hmove
      subst hmove
      exact h.ends hk (hworking hpc rfl) (hfree hpc (by simp)) htask.1 htask.2.uninvoked
        htask.2.unended ⟨h.canceling.trans hcancel, htask.2.unreported⟩
    · rw [Option.some.injEq] at hmove
      subst hmove
      exact h.setTask hk (hworking hpc rfl) (hfree hpc (by simp)) htask
  | internalTest =>
    rw [hpc] at htask
    simp only [hpc] at hmove
    split_ifs at hmove
    · rw [Option.some.injEq] at hmove
      subst hmove
      apply h.setTask hk (hworking hpc rfl) (hfree hpc (by simp))
      refine ⟨htask.1, htask.2.uninvoked, htask.2.unended, ⟨fun hopened => ?_, fun he => ?_⟩⟩
      · cases hopened
      have hreports := htask.2.unreported _ he
      simp [Event.reports] at hreports
    · rw [Option.some.injEq] at hmove
      subst hmove
      have hrecord := h.record (e := .began k) (fun _ => ⟨rfl, rfl⟩) rfl
        (h.allowed_began hk (hworking hpc rfl)) (fun _ he => by cases he)
      exact hrecord.setTask hk (hworking hpc rfl) (hfree hpc (by simp))
        ⟨htask.1, htask.2.mono (sameFor_cons rfl rfl s.log)⟩
  | opening =>
    rw [hpc] at htask
    simp only [hpc, Option.some.injEq] at hmove
    subst hmove
    cases outcome with
    | returned opened =>
      have hallowed : Allowed s.log (.openReturned k opened) := htask.2.unreported
      apply h.reportTask hk (hworking hpc rfl) (hfree hpc (by simp)) (fun _ => rfl)
        (fun j hj => by simp [Event.reports, Ne.symm hj]) (fun _ he => by cases he) rfl hallowed
      refine ⟨htask.1, (invocations_cons_of_not rfl s.log).trans htask.2.uninvoked,
        fun ending he => ?_, ⟨fun hopened => hopened ▸ List.mem_cons_self, fun he => ?_⟩⟩
      · rcases List.mem_cons.mp he with he | he
        · cases he
        · exact htask.2.unended ending he
      · rcases List.mem_cons.mp he with he | he
        · rw [Event.openReturned.injEq] at he
          exact he.2.symm
        · have hreports := htask.2.unreported _ he
          simp [Event.reports] at hreports
    | threw what =>
      exact h.ends hk (hworking hpc rfl) (hfree hpc (by simp)) htask.1 htask.2.uninvoked
        htask.2.unended htask.2.unreported
  | cancelledTest opened =>
    rw [hpc] at htask
    simp only [hpc, Option.some.injEq] at hmove
    subst hmove
    exact h.ends hk (hworking hpc rfl) (hfree hpc (by simp)) htask.1 htask.2.uninvoked
      htask.2.unended ⟨h.canceling.symm, htask.2.opened_iff⟩
  | takeCallback answer =>
    rw [hpc] at htask
    simp only [hpc, Option.some.injEq] at hmove
    subst hmove
    exact h.moveTask hk (hworking hpc rfl) (hfree hpc (by simp)) (Or.inl rfl)
      (fun j _ => .refl j s.log) (fun _ hj => hj) h.canceling h.orderly ⟨htask.1, htask.2⟩
  | invoke answer callback =>
    have htask' := htask
    rw [hpc] at htask'
    rw [htask'.1] at hpc
    simp only [hpc, Option.some.injEq] at hmove
    subst hmove
    exact h.invokes hk hpc
  | inCallback pc =>
    rw [hpc] at htask
    by_cases hidle : pc = .idle
    · subst hidle
      simp only [hpc, Option.some.injEq] at hmove
      subst hmove
      exact h.setTask hk (hworking hpc rfl) (hfree hpc (by simp)) htask.2
    · have hnext : (s.opMove (some k) pc).map (fun next => next.1.setTask k (.inCallback next.2)) =
          some s' := by
        cases pc with
        | idle => exact absurd rfl hidle
        | _ => simpa only [hpc] using hmove
      rcases Option.map_eq_some_iff.mp hnext with ⟨⟨t, pc'⟩, hop, rfl⟩
      rcases opMove_tame htask.1 hop h.canceling with
        ⟨htame, cancel, log, rfl, hsame, hrequests, hcanceling, horderly⟩
      exact h.moveTask hk (hworking hpc rfl) (hfree hpc (by simp)) (Or.inl rfl)
        (fun j _ => hsame j) hrequests hcanceling (horderly h.orderly)
        ⟨htame, (hsame k).invocations_eq.trans htask.2⟩
  | clearProgress =>
    rw [hpc] at htask
    simp only [hpc, Option.some.injEq] at hmove
    subst hmove
    exact h.moveTask hk (hworking hpc rfl) (hfree hpc (by simp)) (Or.inr rfl)
      (fun j _ => .refl j s.log) (fun _ hj => hj) h.canceling h.orderly htask
  | leaving =>
    simp only [hpc, Option.some.injEq] at hmove
    subst hmove
    exact h.returns hpc hk
  | returned => simp [hpc] at hmove

end Invariant

/-- Callbacks do not call `openAsync`. -/
def Action.tame : Action → Bool
  | .callBack _ op => decide (op ≠ .openAsync)
  | _ => true

theorem step_move {s s' : Controller} {a : Action} (h : s.step a = some s') : s.move a = some s' := by
  rw [step, Option.ite_none_left_eq_some] at h
  exact h.2

theorem step_invariant {s s' : Controller} {a : Action} (h : Invariant s) (ha : a.tame = true)
    (hstep : s.step a = some s') : Invariant s' := by
  have hmove := step_move hstep
  cases a with
  | call op =>
    rw [move, Option.ite_none_right_eq_some] at hmove
    rw [Option.some.injEq] at hmove
    rcases hmove with ⟨hidle, rfl⟩
    have hcontrol := h.control
    rw [hidle] at hcontrol
    cases op with
    | openUrl => exact h.goto hcontrol
    | openAsync => exact h.requests_openAsync hcontrol
    | close => exact h.goto hcontrol
    | cancelAsyncOpen => exact h.goto hcontrol
    | startDecode => exact h.goto hcontrol
  | control =>
    rw [move, Option.map_eq_some_iff] at hmove
    rcases hmove with ⟨⟨s'', pc'⟩, hmove, rfl⟩
    exact h.controlMove hmove
  | task k outcome =>
    rw [move, Option.ite_none_right_eq_some] at hmove
    exact h.taskMove hmove.1 hmove.2
  | callBack k op =>
    rw [move, Option.ite_none_right_eq_some] at hmove
    rw [Option.some.injEq] at hmove
    rcases hmove with ⟨⟨hk, hpc⟩, rfl⟩
    have htask := h.task k hk
    rw [hpc] at htask
    have hgo : ∀ pc : OpPc, pc.tame = true → Invariant (s.setTask k (.inCallback pc)) := by
      intro pc htame
      exact h.setTask hk (by rw [hpc]; rfl) (fun hlock => by rw [hpc] at hlock; cases hlock)
        ⟨htame, htask.2⟩
    cases op with
    | openAsync => cases ha
    | openUrl | close | cancelAsyncOpen | startDecode => exact hgo _ rfl

end Controller

end DecoderSDK.AsyncOpen
