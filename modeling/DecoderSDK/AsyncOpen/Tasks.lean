import DecoderSDK.Interleaving.Runs

/-! # Opening asynchronously

`openAsync` leaves its callback in a slot of the controller and starts a task
that opens, takes the callback from the slot and invokes it. The operations
of the controller cancel a running task first and wait for its future. A step
is one access to an atomic or to the slot, or a critical section of the
controller's mutex; a section in which a thread waits, or uses atomics that
others write, is split. Operations may also be called from inside a callback,
by the thread of the task. A future is waited for and released by joining the
thread of its task, and what comes of it when that thread is the caller is up
to the standard library.
-/
namespace DecoderSDK.AsyncOpen
open Interleaving

inductive AsyncOpenResult where
  | kSuccess
  | kFailed
  | kCancelled
  deriving DecidableEq

/-- The arguments of a callback. -/
structure Answer where
  result : AsyncOpenResult
  openSuccess : Bool
  errorMessage : String
  deriving DecidableEq

inductive Operation where
  | openUrl
  | openAsync
  | close
  | cancelAsyncOpen
  | startDecode
  deriving DecidableEq

/-- An operation under way. The callbacks are numbered in the order of the `openAsync` calls. -/
inductive Job where
  | openUrl
  | openAsync (callback : ℕ)
  | close
  | cancelAsyncOpen
  deriving DecidableEq

/-- Where a thread stands in an operation. -/
inductive OpPc where
  | idle
  | stopReconnect (job : Job)
  | cancelTest (job : Job)
  | setCancel (job : Job)
  | wait (job : Job)
  | clearCancel (job : Job)
  | opening
  | cleanupPreBufferState
  | stopDecode
  | closing
  | lock (callback : ℕ)
  | setCallback (callback : ℕ)
  | setInProgress
  | resetCancel
  | spawn
  | assign (task : ℕ)
  | startDecode
  deriving DecidableEq

/-- Where a task stands. -/
inductive TaskPc where
  | lock
  | cancelTest
  | internalTest
  | opening
  | cancelledTest (opened : Bool)
  | takeCallback (answer : Answer)
  | invoke (answer : Answer) (callback : Option ℕ)
  | inCallback (pc : OpPc)
  | clearProgress
  | leaving
  | returned
  deriving DecidableEq

/-- What `openInternal` does. -/
inductive Outcome where
  | returned (opened : Bool)
  | threw (what : String)

/-- How the `try` block of a task ends: cancelled before it opens anything, with the cancel flag and
the success of its open, or by an exception out of the open. -/
inductive Ending where
  | cancelledBefore
  | completed (cancelled opened : Bool)
  | threw (what : String)
  deriving DecidableEq

/-- What a task reports. -/
def Ending.answer : Ending → Answer
  | .cancelledBefore => ⟨.kCancelled, false, "Operation was canceled before starting"⟩
  | .completed true _ => ⟨.kCancelled, false, "Operation was canceled during execution"⟩
  | .completed false true => ⟨.kSuccess, true, ""⟩
  | .completed false false => ⟨.kFailed, false, "Failed to open media file"⟩
  | .threw what => ⟨.kFailed, false, "Exception occurred: " ++ what⟩

inductive Event where
  | requested (callback : ℕ)
  /-- `shouldCancelAsyncOpen_` is written. -/
  | cancelStored (cancel : Bool)
  | began (task : ℕ)
  | openReturned (task : ℕ) (opened : Bool)
  | ended (task : ℕ) (ending : Ending)
  | invoked (task callback : ℕ) (answer : Answer)
  /-- An operation of the control thread, or of the callback of a task, is past `cancelAsyncOpen`. -/
  | passed (self : Option ℕ) (job : Job)
  deriving DecidableEq

/-- What happens to a thread that joins itself: it waits for ever, or it gets an exception. -/
inductive SelfJoin where
  | blocks
  | throws
  deriving DecidableEq

/-- The thread stands in the critical section of `openAsync`. -/
def OpPc.holds : OpPc → Bool
  | .setCallback _ => true
  | .setInProgress => true
  | .resetCancel => true
  | .spawn => true
  | .assign _ => true
  | _ => false

def TaskPc.holds : TaskPc → Bool
  | .cancelTest => true
  | .internalTest => true
  | .opening => true
  | .cancelledTest _ => true
  | .inCallback pc => pc.holds
  | _ => false

structure Controller where
  selfJoin : SelfJoin
  /-- An exception has left a destructor. -/
  terminated : Bool
  asyncOpenInProgress : Bool
  shouldCancelAsyncOpen : Bool
  asyncOpenCallback : Option ℕ
  /-- The task that `asyncOpenFuture_` belongs to. -/
  asyncOpenFuture : Option ℕ
  control : OpPc
  /-- The tasks started so far, by their number. -/
  tasks : ℕ → TaskPc
  spawned : ℕ
  requested : ℕ
  /-- What happened, newest first. -/
  log : List Event

namespace Controller

def new (selfJoin : SelfJoin) : Controller where
  selfJoin := selfJoin
  terminated := false
  asyncOpenInProgress := false
  shouldCancelAsyncOpen := false
  asyncOpenCallback := none
  asyncOpenFuture := none
  control := .idle
  tasks := fun _ => .returned
  spawned := 0
  requested := 0
  log := []

/-- The mutex is held. -/
def locked (s : Controller) : Bool :=
  s.control.holds || (List.range s.spawned).any fun k => (s.tasks k).holds

/-- The wait for the future returns at once. -/
def futureReady (s : Controller) : Bool :=
  match s.asyncOpenFuture with
  | none => true
  | some k => decide (s.tasks k = .returned)

def record (s : Controller) (e : Event) : Controller := { s with log := e :: s.log }

def setTask (s : Controller) (k : ℕ) (pc : TaskPc) : Controller :=
  { s with tasks := Function.update s.tasks k pc }

def storeCancel (s : Controller) (cancel : Bool) : Controller :=
  { s.record (.cancelStored cancel) with shouldCancelAsyncOpen := cancel }

/-- The thread of a task that joins the future of its own task gets an exception. -/
def joinThrows (s : Controller) (self : Option ℕ) : Bool :=
  decide (s.selfJoin = .throws ∧ self.isSome = true ∧ s.asyncOpenFuture = self)

/-- The first step of an operation. -/
def call (s : Controller) : Operation → Controller × OpPc
  | .openUrl => (s, .cancelTest .openUrl)
  | .openAsync => ({ s.record (.requested s.requested) with requested := s.requested + 1 },
      .cancelTest (.openAsync s.requested))
  | .close => (s, .stopReconnect .close)
  | .cancelAsyncOpen => (s, .cancelTest .cancelAsyncOpen)
  | .startDecode => (s, .startDecode)

/-- What an operation does after `cancelAsyncOpen`. -/
def afterCancel : Job → OpPc
  | .openUrl => .stopReconnect .openUrl
  | .openAsync callback => .lock callback
  | .close => .cleanupPreBufferState
  | .cancelAsyncOpen => .idle

/-- What an operation does after `stopReconnect`. -/
def afterStop : Job → OpPc
  | .openUrl => .opening
  | job => .cancelTest job

/-- A critical section as one step. -/
def guarded (s : Controller) (pc : OpPc) : Option (Controller × OpPc) :=
  if s.locked then none else some (s, pc)

/-- One step of an operation of the control thread, or of the callback of a task. -/
def opMove (s : Controller) (self : Option ℕ) : OpPc → Option (Controller × OpPc)
  | .idle => none
  | .stopReconnect job => s.guarded (afterStop job)
  | .cancelTest job =>
    if s.asyncOpenInProgress then some (s, .setCancel job)
    else some (s.record (.passed self job), afterCancel job)
  | .setCancel job => some (s.storeCancel true, .wait job)
  -- `cancelAsyncOpen` catches what the wait throws.
  | .wait job => if s.futureReady || s.joinThrows self then some (s, .clearCancel job) else none
  | .clearCancel job =>
    some ((s.storeCancel false).record (.passed self job), afterCancel job)
  | .opening => s.guarded .idle
  | .cleanupPreBufferState => s.guarded .stopDecode
  | .stopDecode => s.guarded .closing
  | .closing => s.guarded .idle
  | .lock callback => s.guarded (.setCallback callback)
  | .setCallback callback => some ({ s with asyncOpenCallback := some callback }, .setInProgress)
  | .setInProgress => some ({ s with asyncOpenInProgress := true }, .resetCancel)
  | .resetCancel => some (s.storeCancel false, .spawn)
  | .spawn =>
    some ({ s.setTask s.spawned .lock with spawned := s.spawned + 1 }, .assign s.spawned)
  -- The old future is released by the assignment, which waits for its task in a destructor.
  | .assign task =>
    if s.futureReady then some ({ s with asyncOpenFuture := some task }, .idle)
    else if s.joinThrows self then some ({ s with terminated := true }, .assign task)
    else none
  | .startDecode => s.guarded .idle

/-- The `try` block of the task is left. -/
def ends (s : Controller) (k : ℕ) (ending : Ending) : Controller :=
  (s.record (.ended k ending)).setTask k (.takeCallback ending.answer)

/-- The task's `openInternal` is over; an exception is caught. -/
def opened (s : Controller) (k : ℕ) : Outcome → Controller
  | .returned opened => (s.record (.openReturned k opened)).setTask k (.cancelledTest opened)
  | .threw what => s.ends k (.threw what)

/-- One step of a task. -/
def taskMove (s : Controller) (k : ℕ) (outcome : Outcome) : Option Controller :=
  match s.tasks k with
  | .lock => if s.locked then none else some (s.setTask k .cancelTest)
  | .cancelTest =>
    if s.shouldCancelAsyncOpen then some (s.ends k .cancelledBefore)
    else some (s.setTask k .internalTest)
  | .internalTest =>
    if s.shouldCancelAsyncOpen then some (s.setTask k (.cancelledTest false))
    else some ((s.record (.began k)).setTask k .opening)
  | .opening => some (s.opened k outcome)
  | .cancelledTest opened => some (s.ends k (.completed s.shouldCancelAsyncOpen opened))
  | .takeCallback answer =>
    some ({ s with asyncOpenCallback := none }.setTask k (.invoke answer s.asyncOpenCallback))
  | .invoke _ none => some (s.setTask k .clearProgress)
  | .invoke answer (some callback) =>
    some ((s.record (.invoked k callback answer)).setTask k (.inCallback .idle))
  | .inCallback .idle => some (s.setTask k .clearProgress)
  | .inCallback pc => (s.opMove (some k) pc).map fun next => next.1.setTask k (.inCallback next.2)
  | .clearProgress => some ({ s with asyncOpenInProgress := false }.setTask k .leaving)
  | .leaving => some (s.setTask k .returned)
  | .returned => none

inductive Action where
  | call (op : Operation)
  | control
  | task (k : ℕ) (outcome : Outcome)
  /-- The callback that task `k` runs calls an operation. -/
  | callBack (k : ℕ) (op : Operation)

def move (s : Controller) : Action → Option Controller
  | .call op =>
    if s.control = .idle then some { (s.call op).1 with control := (s.call op).2 } else none
  | .control => (s.opMove none s.control).map fun next => { next.1 with control := next.2 }
  | .task k outcome => if k < s.spawned then s.taskMove k outcome else none
  | .callBack k op =>
    if k < s.spawned ∧ s.tasks k = .inCallback .idle then
      some ((s.call op).1.setTask k (.inCallback (s.call op).2))
    else none

/-- A thread moves, unless the program was terminated. -/
def step (s : Controller) (a : Action) : Option Controller :=
  if s.terminated then none else s.move a

end Controller

end DecoderSDK.AsyncOpen
