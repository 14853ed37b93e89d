import DecoderSDK.Interleaving.Runs

/-! # Opening, closing and reconnecting

The threads that open and close the demuxer: the control thread with the
operations of the controller, the event thread with the listener of
`kStreamReadError`, the reconnect thread, and the task of `openAsync`. Every
step is one access to an atomic, or one critical section of the controller's
mutex. A section in which a thread waits, or uses atomics that others write,
is split; the mutex is then held by the thread that stands inside it. The
demux thread only matters by the error event that it queues.
-/
namespace DecoderSDK.Reconnect
open Interleaving

/-- The members of `Config` that reconnecting reads. -/
structure Config where
  enableAutoReconnect : Bool
  maxReconnectAttempts : ℤ
  deriving DecidableEq

/-- The operations of the controller. -/
inductive Operation where
  | openUrl (config : Config)
  | openAsync (config : Config)
  | close
  | stopReconnectManually
  deriving DecidableEq

/-- The stores of `cleanupReconnectState`, and the one that both its callers add. -/
inductive Cleanup where
  | isReconnecting
  | shouldStopReconnect
  | currentReconnectAttempt
  | again
  deriving DecidableEq

def Cleanup.next : Cleanup → Option Cleanup
  | .isReconnecting => some .shouldStopReconnect
  | .shouldStopReconnect => some .currentReconnectAttempt
  | .currentReconnectAttempt => some .again
  | .again => none

/-- Where the control thread stands: `stopReconnect`, `cancelAsyncOpen`, and what follows. -/
inductive ControlPc where
  | idle
  | stopLock (op : Operation)
  | stopTest (op : Operation)
  | setStop (op : Operation)
  | joinTest (op : Operation)
  | join (op : Operation)
  | relock (op : Operation)
  | cleanup (op : Operation) (store : Cleanup)
  | cancelTest (op : Operation)
  | setCancel (op : Operation)
  | wait (op : Operation)
  | clearCancel (op : Operation)
  | stopDecode
  | closing
  | opening (config : Config)
  | startTask (config : Config)
  deriving DecidableEq

/-- Where the event thread stands: the listener, then `startReconnect`. -/
inductive EventPc where
  | idle
  | configTest
  | stopTest
  | lock
  | reconnectingTest
  | setReconnecting
  | clearStop
  | clearAttempt
  | joinTest
  | join
  | spawn
  deriving DecidableEq

/-- Where the reconnect thread stands in `reconnectLoop` and `attemptReconnect`. -/
inductive LoopPc where
  | head
  | limitTest
  | increment
  | closing
  | stopTest
  | opening
  | waiting
  | cleanup (store : Cleanup)
  | exited
  deriving DecidableEq

/-- Where the task of `openAsync` stands. -/
inductive TaskPc where
  | lock (config : Config)
  | cancelTest (config : Config)
  | internalTest (config : Config)
  | opening (config : Config)
  | cancelledTest (opened : Bool)
  | finish
  deriving DecidableEq

/-- The control thread stands inside the critical section of `stopReconnect`. -/
def ControlPc.holds : ControlPc → Bool
  | .stopTest _ => true
  | .setStop _ => true
  | .joinTest _ => true
  | .cleanup _ _ => true
  | _ => false

/-- The event thread stands inside `startReconnect`, which is one critical section. -/
def EventPc.holds : EventPc → Bool
  | .reconnectingTest => true
  | .setReconnecting => true
  | .clearStop => true
  | .clearAttempt => true
  | .joinTest => true
  | .join => true
  | .spawn => true
  | _ => false

/-- The task stands inside its critical section. -/
def TaskPc.holds : TaskPc → Bool
  | .cancelTest _ => true
  | .internalTest _ => true
  | .opening _ => true
  | .cancelledTest _ => true
  | _ => false

structure Controller where
  config : Config
  isReconnecting : Bool
  shouldStopReconnect : Bool
  currentReconnectAttempt : ℕ
  asyncOpenInProgress : Bool
  shouldCancelAsyncOpen : Bool
  /-- `Demuxer::isOpened_`. -/
  isOpened : Bool
  /-- The demux thread is in its loop. -/
  demuxing : Bool
  /-- The `kStreamReadError` events that no thread has taken yet. -/
  queued : ℕ
  control : ControlPc
  event : EventPc
  /-- `reconnectThread_`, unless it was never started or is joined. -/
  reconnectThread : Option LoopPc
  task : Option TaskPc
  /-- `close` has returned, and neither `open` nor `openAsync` was called since. -/
  closed : Bool

namespace Controller

/-- A new controller. -/
def new (config : Config) : Controller where
  config := config
  isReconnecting := false
  shouldStopReconnect := false
  currentReconnectAttempt := 0
  asyncOpenInProgress := false
  shouldCancelAsyncOpen := false
  isOpened := false
  demuxing := false
  queued := 0
  control := .idle
  event := .idle
  reconnectThread := none
  task := none
  closed := false

/-- The mutex is held. -/
def locked (s : Controller) : Bool :=
  s.control.holds || s.event.holds || s.task.any TaskPc.holds

/-- `Demuxer::open` closes what is open, and starts the demux thread when it succeeds. -/
def openDemuxer (s : Controller) (opened : Bool) : Controller :=
  { s with isOpened := opened, demuxing := opened }

/-- `Demuxer::close` joins the demux thread. -/
def closeDemuxer (s : Controller) : Controller := { s with isOpened := false, demuxing := false }

def clean (s : Controller) : Cleanup → Controller
  | .isReconnecting => { s with isReconnecting := false }
  | .shouldStopReconnect => { s with shouldStopReconnect := false }
  | .currentReconnectAttempt => { s with currentReconnectAttempt := 0 }
  | .again => { s with isReconnecting := false }

/-- What an operation does after `stopReconnect`. -/
def afterStop : Operation → ControlPc
  | .openUrl config => .opening config
  | .openAsync config => .startTask config
  | .close => .cancelTest .close
  | .stopReconnectManually => .idle

/-- What an operation does after `cancelAsyncOpen`. -/
def afterCancel : Operation → ControlPc
  | .openUrl config => .stopLock (.openUrl config)
  | .openAsync config => .startTask config
  | .close => .stopDecode
  | .stopReconnectManually => .idle

/-- The first step of an operation. -/
def call (s : Controller) (op : Operation) : Controller :=
  match op with
  | .openUrl _ => { s with control := .cancelTest op, closed := false }
  | .openAsync _ => { s with control := .cancelTest op, closed := false }
  | .close => { s with control := .stopLock op }
  | .stopReconnectManually => { s with control := .stopLock op }

/-- One step of the control thread. -/
def controlMove (s : Controller) (opened : Bool) : Option Controller :=
  match s.control with
  | .idle => none
  | .stopLock op => if s.locked then none else some { s with control := .stopTest op }
  | .stopTest op =>
    some { s with control := if s.isReconnecting then .setStop op else afterStop op }
  | .setStop op => some { s with shouldStopReconnect := true, control := .joinTest op }
  | .joinTest op =>
    some { s with control := if s.reconnectThread.isSome then .join op
      else .cleanup op .isReconnecting }
  | .join op =>
    match s.reconnectThread with
    | none => some { s with control := .idle }
    | some .exited => some { s with reconnectThread := none, control := .relock op }
    | some _ => none
  | .relock op =>
    if s.locked then none else some { s with control := .cleanup op .isReconnecting }
  | .cleanup op store =>
    some { s.clean store with control := store.next.elim (afterStop op) (.cleanup op) }
  | .cancelTest op =>
    some { s with control := if s.asyncOpenInProgress then .setCancel op else afterCancel op }
  | .setCancel op => some { s with shouldCancelAsyncOpen := true, control := .wait op }
  | .wait op => if s.task.isSome then none else some { s with control := .clearCancel op }
  | .clearCancel op => some { s with shouldCancelAsyncOpen := false, control := afterCancel op }
  | .stopDecode => if s.locked then none else some { s with control := .closing }
  | .closing =>
    if s.locked then none else some { s.closeDemuxer with control := .idle, closed := true }
  | .opening config =>
    if s.locked then none
    else some { s.openDemuxer opened with config := config, control := .idle }
  | .startTask config =>
    if s.locked then none
    else some { s with asyncOpenInProgress := true
                       shouldCancelAsyncOpen := false
                       task := some (.lock config)
                       control := .idle }

/-- One step of the event thread. The store of `isReconnecting` is taken together with the
test of `config`, which nobody writes without the mutex. -/
def eventMove (s : Controller) : Option Controller :=
  match s.event with
  | .idle =>
    if s.queued = 0 then none
    else some { s with queued := s.queued - 1, event := .configTest }
  | .configTest =>
    some { s with event := if s.config.enableAutoReconnect then .stopTest else .idle }
  | .stopTest => some { s with event := if s.shouldStopReconnect then .idle else .lock }
  | .lock => if s.locked then none else some { s with event := .reconnectingTest }
  | .reconnectingTest =>
    some { s with event := if s.isReconnecting then .idle else .setReconnecting }
  | .setReconnecting =>
    if s.config.enableAutoReconnect then some { s with isReconnecting := true, event := .clearStop }
    else some { s with event := .idle }
  | .clearStop => some { s with shouldStopReconnect := false, event := .clearAttempt }
  | .clearAttempt => some { s with currentReconnectAttempt := 0, event := .joinTest }
  | .joinTest => some { s with event := if s.reconnectThread.isSome then .join else .spawn }
  | .join =>
    match s.reconnectThread with
    | none => some { s with event := .idle }
    | some .exited => some { s with reconnectThread := none, event := .spawn }
    | some _ => none
  | .spawn => some { s with reconnectThread := some .head, event := .idle }

/-- What the reconnect thread does not decide itself. -/
inductive Choice where
  | go
  | opened (opened restarted : Bool)
  | waited (timeUp : Bool)

def gotoLoop (s : Controller) (pc : LoopPc) : Controller := { s with reconnectThread := some pc }

/-- One step of the reconnect thread. -/
def loopMove (s : Controller) (c : Choice) : Option Controller :=
  match s.reconnectThread with
  | none => none
  | some .head =>
    some (s.gotoLoop (if s.shouldStopReconnect then .cleanup .isReconnecting else .limitTest))
  | some .limitTest =>
    some (s.gotoLoop (if 0 < s.config.maxReconnectAttempts ∧
        s.config.maxReconnectAttempts ≤ s.currentReconnectAttempt then .cleanup .isReconnecting
      else .increment))
  | some .increment =>
    some { s.gotoLoop .closing with currentReconnectAttempt := s.currentReconnectAttempt + 1 }
  | some .closing => if s.locked then none else some (s.closeDemuxer.gotoLoop .stopTest)
  | some .stopTest => some (s.gotoLoop (if s.shouldStopReconnect then .waiting else .opening))
  | some .opening =>
    match c with
    | .opened opened restarted =>
      if s.locked then none
      else some ((s.openDemuxer opened).gotoLoop
        (if opened && restarted then .cleanup .isReconnecting else .waiting))
    | _ => none
  | some .waiting =>
    match c with
    | .waited timeUp =>
      some (s.gotoLoop (if s.shouldStopReconnect || timeUp then .head else .waiting))
    | _ => none
  | some (.cleanup store) => some ((s.clean store).gotoLoop (store.next.elim .exited .cleanup))
  | some .exited => none

/-- One step of the task of `openAsync`. -/
def taskMove (s : Controller) (opened : Bool) : Option Controller :=
  match s.task with
  | none => none
  | some (.lock config) => if s.locked then none else some { s with task := some (.cancelTest config) }
  | some (.cancelTest config) =>
    some { s with task := some (if s.shouldCancelAsyncOpen then .finish else .internalTest config) }
  | some (.internalTest config) =>
    some { s with task := some (if s.shouldCancelAsyncOpen then .cancelledTest false
      else .opening config) }
  | some (.opening config) =>
    some { s.openDemuxer opened with config := config, task := some (.cancelledTest opened) }
  | some (.cancelledTest opened) =>
    some { (if s.shouldCancelAsyncOpen && opened then s.closeDemuxer else s) with
             task := some .finish }
  | some .finish => some { s with asyncOpenInProgress := false, task := none }

inductive Action where
  | call (op : Operation)
  | control (opened : Bool)
  | event
  | loop (c : Choice)
  | task (opened : Bool)
  | readError

/-- The demux thread gives up after a read error: it queues the event and ends. -/
def handleReadError (s : Controller) : Option Controller :=
  if s.demuxing then some { s with queued := s.queued + 1, demuxing := false } else none

def step (s : Controller) : Action → Option Controller
  | .call op => if s.control = .idle then some (s.call op) else none
  | .control opened => s.controlMove opened
  | .event => s.eventMove
  | .loop c => s.loopMove c
  | .task opened => s.taskMove opened
  | .readError => s.handleReadError

/-- Everything a step of the control thread can do. -/
inductive ControlStep (s : Controller) (opened : Bool) : Controller → Prop where
  | stopLock (op : Operation) (hpc : s.control = .stopLock op) (hfree : s.locked = false) :
      ControlStep s opened { s with control := .stopTest op }
  | stops (op : Operation) (hpc : s.control = .stopTest op) (h : s.isReconnecting = true) :
      ControlStep s opened { s with control := .setStop op }
  | skipsStop (op : Operation) (hpc : s.control = .stopTest op) (h : s.isReconnecting = false) :
      ControlStep s opened { s with control := afterStop op }
  | setStop (op : Operation) (hpc : s.control = .setStop op) :
      ControlStep s opened { s with shouldStopReconnect := true, control := .joinTest op }
  | joins (op : Operation) (hpc : s.control = .joinTest op) (h : s.reconnectThread.isSome = true) :
      ControlStep s opened { s with control := .join op }
  | skipsJoin (op : Operation) (hpc : s.control = .joinTest op) (h : s.reconnectThread = none) :
      ControlStep s opened { s with control := .cleanup op .isReconnecting }
  | joinFailed (op : Operation) (hpc : s.control = .join op) (h : s.reconnectThread = none) :
      ControlStep s opened { s with control := .idle }
  | joined (op : Operation) (hpc : s.control = .join op) (h : s.reconnectThread = some .exited) :
      ControlStep s opened { s with reconnectThread := none, control := .relock op }
  | relock (op : Operation) (hpc : s.control = .relock op) (hfree : s.locked = false) :
      ControlStep s opened { s with control := .cleanup op .isReconnecting }
  | cleanup (op : Operation) (store : Cleanup) (hpc : s.control = .cleanup op store) :
      ControlStep s opened
        { s.clean store with control := store.next.elim (afterStop op) (.cleanup op) }
  | cancels (op : Operation) (hpc : s.control = .cancelTest op) (h : s.asyncOpenInProgress = true) :
      ControlStep s opened { s with control := .setCancel op }
  | skipsCancel (op : Operation) (hpc : s.control = .cancelTest op)
      (h : s.asyncOpenInProgress = false) :
      ControlStep s opened { s with control := afterCancel op }
  | setCancel (op : Operation) (hpc : s.control = .setCancel op) :
      ControlStep s opened { s with shouldCancelAsyncOpen := true, control := .wait op }
  | waited (op : Operation) (hpc : s.control = .wait op) (h : s.task = none) :
      ControlStep s opened { s with control := .clearCancel op }
  | clearCancel (op : Operation) (hpc : s.control = .clearCancel op) :
      ControlStep s opened { s with shouldCancelAsyncOpen := false, control := afterCancel op }
  | stopDecode (hpc : s.control = .stopDecode) (hfree : s.locked = false) :
      ControlStep s opened { s with control := .closing }
  | closing (hpc : s.control = .closing) (hfree : s.locked = false) :
      ControlStep s opened { s.closeDemuxer with control := .idle, closed := true }
  | opening (config : Config) (hpc : s.control = .opening config) (hfree : s.locked = false) :
      ControlStep s opened { s.openDemuxer opened with config := config, control := .idle }
  | startTask (config : Config) (hpc : s.control = .startTask config) (hfree : s.locked = false) :
      ControlStep s opened
        { s with asyncOpenInProgress := true
                 shouldCancelAsyncOpen := false
                 task := some (.lock config)
                 control := .idle }

theorem controlMove_step {s s' : Controller} {opened : Bool} (h : s.controlMove opened = some s') :
    ControlStep s opened s' := by
  unfold controlMove at h
  cases hpc : s.control with
  | idle => simp [hpc] at h
  | stopLock op =>
    simp only [hpc, Option.ite_none_left_eq_some, Bool.not_eq_true, Option.some.injEq] at h
    rcases h with ⟨hfree, rfl⟩
    exact .stopLock op hpc hfree
  | stopTest op =>
    simp only [hpc, Option.some.injEq] at h
    split_ifs at h with hreconnecting <;> subst h
    · exact .stops op hpc hreconnecting
    · exact .skipsStop op hpc (by simpa using hreconnecting)
  | setStop op =>
    simp only [hpc, Option.some.injEq] at h
    subst h
    exact .setStop op hpc
  | joinTest op =>
    simp only [hpc, Option.some.injEq] at h
    split_ifs at h with hthread <;> subst h
    · exact .joins op hpc hthread
    · exact .skipsJoin op hpc (by simpa using hthread)
  | join op =>
    simp only [hpc] at h
    split at h
    · next hthread =>
      simp only [Option.some.injEq] at h
      subst h
      exact .joinFailed op hpc hthread
    · next hthread =>
      simp only [Option.some.injEq] at h
      subst h
      exact .joined op hpc hthread
    · simp at h
  | relock op =>
    simp only [hpc, Option.ite_none_left_eq_some, Bool.not_eq_true, Option.some.injEq] at h
    rcases h with ⟨hfree, rfl⟩
    exact .relock op hpc hfree
  | cleanup op store =>
    simp only [hpc, Option.some.injEq] at h
    subst h
    exact .cleanup op store hpc
  | cancelTest op =>
    simp only [hpc, Option.some.injEq] at h
    split_ifs at h with hprogress <;> subst h
    · exact .cancels op hpc hprogress
    · exact .skipsCancel op hpc (by simpa using hprogress)
  | setCancel op =>
    simp only [hpc, Option.some.injEq] at h
    subst h
    exact .setCancel op hpc
  | wait op =>
    simp only [hpc, Option.ite_none_left_eq_some, Option.some.injEq, Bool.not_eq_true,
      Option.isSome_eq_false_iff, Option.isNone_iff_eq_none] at h
    rcases h with ⟨htask, rfl⟩
    exact .waited op hpc htask
  | clearCancel op =>
    simp only [hpc, Option.some.injEq] at h
    subst h
    exact .clearCancel op hpc
  | stopDecode =>
    simp only [hpc, Option.ite_none_left_eq_some, Bool.not_eq_true, Option.some.injEq] at h
    rcases h with ⟨hfree, rfl⟩
    exact .stopDecode hpc hfree
  | closing =>
    simp only [hpc, Option.ite_none_left_eq_some, Bool.not_eq_true, Option.some.injEq] at h
    rcases h with ⟨hfree, rfl⟩
    exact .closing hpc hfree
  | opening config =>
    simp only [hpc, Option.ite_none_left_eq_some, Bool.not_eq_true, Option.some.injEq] at h
    rcases h with ⟨hfree, rfl⟩
    exact .opening config hpc hfree
  | startTask config =>
    simp only [hpc, Option.ite_none_left_eq_some, Bool.not_eq_true, Option.some.injEq] at h
    rcases h with ⟨hfree, rfl⟩
    exact .startTask config hpc hfree

/-- Everything a step of the event thread can do. -/
inductive EventStep (s : Controller) : Controller → Prop where
  | takes (hpc : s.event = .idle) (h : s.queued ≠ 0) :
      EventStep s { s with queued := s.queued - 1, event := .configTest }
  | enabled (hpc : s.event = .configTest) (h : s.config.enableAutoReconnect = true) :
      EventStep s { s with event := .stopTest }
  | disabled (hpc : s.event = .configTest) (h : s.config.enableAutoReconnect = false) :
      EventStep s { s with event := .idle }
  | wanted (hpc : s.event = .stopTest) (h : s.shouldStopReconnect = false) :
      EventStep s { s with event := .lock }
  | unwanted (hpc : s.event = .stopTest) (h : s.shouldStopReconnect = true) :
      EventStep s { s with event := .idle }
  | lock (hpc : s.event = .lock) (hfree : s.locked = false) :
      EventStep s { s with event := .reconnectingTest }
  | absent (hpc : s.event = .reconnectingTest) (h : s.isReconnecting = false) :
      EventStep s { s with event := .setReconnecting }
  | present (hpc : s.event = .reconnectingTest) (h : s.isReconnecting = true) :
      EventStep s { s with event := .idle }
  | announces (hpc : s.event = .setReconnecting) (h : s.config.enableAutoReconnect = true) :
      EventStep s { s with isReconnecting := true, event := .clearStop }
  | gaveUp (hpc : s.event = .setReconnecting) (h : s.config.enableAutoReconnect = false) :
      EventStep s { s with event := .idle }
  | clearStop (hpc : s.event = .clearStop) :
      EventStep s { s with shouldStopReconnect := false, event := .clearAttempt }
  | clearAttempt (hpc : s.event = .clearAttempt) :
      EventStep s { s with currentReconnectAttempt := 0, event := .joinTest }
  | joins (hpc : s.event = .joinTest) (h : s.reconnectThread.isSome = true) :
      EventStep s { s with event := .join }
  | skipsJoin (hpc : s.event = .joinTest) (h : s.reconnectThread = none) :
      EventStep s { s with event := .spawn }
  | joinFailed (hpc : s.event = .join) (h : s.reconnectThread = none) :
      EventStep s { s with event := .idle }
  | joined (hpc : s.event = .join) (h : s.reconnectThread = some .exited) :
      EventStep s { s with reconnectThread := none, event := .spawn }
  | spawn (hpc : s.event = .spawn) :
      EventStep s { s with reconnectThread := some .head, event := .idle }

theorem eventMove_step {s s' : Controller} (h : s.eventMove = some s') : EventStep s s' := by
  unfold eventMove at h
  cases hpc : s.event with
  | idle =>
    simp only [hpc, Option.ite_none_left_eq_some, Option.some.injEq] at h
    rcases h with ⟨hqueued, rfl⟩
    exact .takes hpc hqueued
  | configTest =>
    simp only [hpc, Option.some.injEq] at h
    split_ifs at h with hauto <;> subst h
    · exact .enabled hpc hauto
    · exact .disabled hpc (by simpa using hauto)
  | stopTest =>
    simp only [hpc, Option.some.injEq] at h
    split_ifs at h with hstop <;> subst h
    · exact .unwanted hpc hstop
    · exact .wanted hpc (by simpa using hstop)
  | lock =>
    simp only [hpc, Option.ite_none_left_eq_some, Bool.not_eq_true, Option.some.injEq] at h
    rcases h with ⟨hfree, rfl⟩
    exact .lock hpc hfree
  | reconnectingTest =>
    simp only [hpc, Option.some.injEq] at h
    split_ifs at h with hreconnecting <;> subst h
    · exact .present hpc hreconnecting
    · exact .absent hpc (by simpa using hreconnecting)
  | setReconnecting =>
    simp only [hpc] at h
    split_ifs at h with hauto <;> simp only [Option.some.injEq] at h <;> subst h
    · exact .announces hpc hauto
    · exact .gaveUp hpc (by simpa using hauto)
  | clearStop =>
    simp only [hpc, Option.some.injEq] at h
    subst h
    exact .clearStop hpc
  | clearAttempt =>
    simp only [hpc, Option.some.injEq] at h
    subst h
    exact .clearAttempt hpc
  | joinTest =>
    simp only [hpc, Option.some.injEq] at h
    split_ifs at h with hthread <;> subst h
    · exact .joins hpc hthread
    · exact .skipsJoin hpc (by simpa using hthread)
  | join =>
    simp only [hpc] at h
    split at h
    · next hthread =>
      simp only [Option.some.injEq] at h
      subst h
      exact .joinFailed hpc hthread
    · next hthread =>
      simp only [Option.some.injEq] at h
      subst h
      exact .joined hpc hthread
    · simp at h
  | spawn =>
    simp only [hpc, Option.some.injEq] at h
    subst h
    exact .spawn hpc

/-- Everything a step of the reconnect thread can do. -/
inductive LoopStep (s : Controller) : Controller → Prop where
  | head (hthread : s.reconnectThread = some .head) :
      LoopStep s
        (s.gotoLoop (if s.shouldStopReconnect then .cleanup .isReconnecting else .limitTest))
  | limitTest (hthread : s.reconnectThread = some .limitTest) :
      LoopStep s
        (s.gotoLoop (if 0 < s.config.maxReconnectAttempts ∧
            s.config.maxReconnectAttempts ≤ s.currentReconnectAttempt then .cleanup .isReconnecting
          else .increment))
  | increment (hthread : s.reconnectThread = some .increment) :
      LoopStep s
        { s.gotoLoop .closing with currentReconnectAttempt := s.currentReconnectAttempt + 1 }
  | closing (hthread : s.reconnectThread = some .closing) (hfree : s.locked = false) :
      LoopStep s (s.closeDemuxer.gotoLoop .stopTest)
  | stopTest (hthread : s.reconnectThread = some .stopTest) :
      LoopStep s (s.gotoLoop (if s.shouldStopReconnect then .waiting else .opening))
  | opening (opened restarted : Bool) (hthread : s.reconnectThread = some .opening)
      (hfree : s.locked = false) :
      LoopStep s ((s.openDemuxer opened).gotoLoop
        (if opened && restarted then .cleanup .isReconnecting else .waiting))
  | waiting (timeUp : Bool) (hthread : s.reconnectThread = some .waiting) :
      LoopStep s (s.gotoLoop (if s.shouldStopReconnect || timeUp then .head else .waiting))
  | cleanup (store : Cleanup) (hthread : s.reconnectThread = some (.cleanup store)) :
      LoopStep s ((s.clean store).gotoLoop (store.next.elim .exited .cleanup))

theorem loopMove_step {s s' : Controller} {c : Choice} (h : s.loopMove c = some s') :
    LoopStep s s' := by
  unfold loopMove at h
  cases hthread : s.reconnectThread with
  | none => simp [hthread] at h
  | some pc =>
    cases pc with
    | head =>
      simp only [hthread, Option.some.injEq] at h
      subst h
      exact .head hthread
    | limitTest =>
      simp only [hthread, Option.some.injEq] at h
      subst h
      exact .limitTest hthread
    | increment =>
      simp only [hthread, Option.some.injEq] at h
      subst h
      exact .increment hthread
    | closing =>
      simp only [hthread, Option.ite_none_left_eq_some, Bool.not_eq_true, Option.some.injEq] at h
      rcases h with ⟨hfree, rfl⟩
      exact .closing hthread hfree
    | stopTest =>
      simp only [hthread, Option.some.injEq] at h
      subst h
      exact .stopTest hthread
    | opening =>
      simp only [hthread] at h
      cases c with
      | opened opened restarted =>
        simp only [Option.ite_none_left_eq_some, Bool.not_eq_true, Option.some.injEq] at h
        rcases h with ⟨hfree, rfl⟩
        exact .opening opened restarted hthread hfree
      | go | waited => simp at h
    | waiting =>
      simp only [hthread] at h
      cases c with
      | waited timeUp =>
        simp only [Option.some.injEq] at h
        subst h
        exact .waiting timeUp hthread
      | go | opened => simp at h
    | cleanup store =>
      simp only [hthread, Option.some.injEq] at h
      subst h
      exact .cleanup store hthread
    | exited => simp [hthread] at h

end Controller

end DecoderSDK.Reconnect
