import DecoderSDK.Reconnect.Threads

/-! # Closing really closes

`close` stops the reconnect thread and closes the demuxer, but an error event
that is queued or being handled survives it, and so does a reconnect thread
that the flag no longer announces.
-/
namespace DecoderSDK.Reconnect
open Interleaving

/-- The operation opens a stream. -/
def Operation.opens : Operation → Bool
  | .openUrl _ => true
  | .openAsync _ => true
  | _ => false

namespace ControlPc

/-- `stopReconnect` has joined the thread, or found none. -/
def joined : ControlPc → Bool
  | .relock _ => true
  | .cleanup _ _ => true
  | _ => false

/-- `close` is behind `stopReconnect`. -/
def pastStop : ControlPc → Bool
  | .cancelTest op => op = .close
  | .setCancel op => op = .close
  | .wait op => op = .close
  | .clearCancel op => op = .close
  | .stopDecode => true
  | .closing => true
  | _ => false

/-- `stopReconnect` waits for the thread without the mutex, or `close` is behind it. -/
def stopped : ControlPc → Bool
  | .join _ => true
  | .relock _ => true
  | pc => pc.pastStop

/-- `cancelAsyncOpen` has seen the end of the task. -/
def cancelled : ControlPc → Bool
  | .clearCancel _ => true
  | .stopDecode => true
  | .closing => true
  | _ => false

/-- The control thread is in `open` or `openAsync`. -/
def opens : ControlPc → Bool
  | .stopLock op => op.opens
  | .stopTest op => op.opens
  | .setStop op => op.opens
  | .joinTest op => op.opens
  | .join op => op.opens
  | .relock op => op.opens
  | .cleanup op _ => op.opens
  | .cancelTest op => op.opens
  | .setCancel op => op.opens
  | .wait op => op.opens
  | .clearCancel op => op.opens
  | .opening _ => true
  | .startTask _ => true
  | _ => false

end ControlPc

/-- `startReconnect` is behind its tests. -/
def EventPc.starting : EventPc → Bool
  | .clearStop => true
  | .clearAttempt => true
  | .joinTest => true
  | .join => true
  | .spawn => true
  | _ => false

/-- The reconnect thread can still open the demuxer. -/
def LoopPc.active : LoopPc → Bool
  | .cleanup _ => false
  | .exited => false
  | _ => true

namespace Controller

/-- Some reconnect thread can still open the demuxer. -/
def reconnects (s : Controller) : Bool := s.reconnectThread.any LoopPc.active

/-- The last reconnect thread has ended. -/
def ended (s : Controller) : Bool := s.reconnectThread.all (· = .exited)

/-- Nothing is left that could open the demuxer again. -/
structure Closed (s : Controller) : Prop where
  isOpened : s.isOpened = false
  demuxing : s.demuxing = false
  task : s.task = none
  control : s.control.opens = false
  event : s.event.starting = false
  reconnects : s.reconnects = false
  quiet : s.config.enableAutoReconnect = true → s.queued = 0 ∧ s.event = .idle

structure Orderly (s : Controller) : Prop where
  exclusive : s.event.holds = true → s.control.holds = false
  announced : s.reconnects = true → s.isReconnecting = true
  starting : s.event.starting = true →
    s.isReconnecting = true ∧ s.ended = true ∧ s.control.stopped = false
  joined : s.control.joined = true → s.reconnectThread = none
  pastStop : s.control.pastStop = true → s.reconnects = false
  cancelled : s.control.cancelled = true → s.task = none
  inProgress : s.task ≠ none → s.asyncOpenInProgress = true
  closed : s.closed = true → Closed s

/-- `startReconnect` passes its tests after the last reconnect thread has ended, with no
`stopReconnect` waiting for that thread and no `close` behind it. -/
def startsInTime (s : Controller) (a : Action) : Bool :=
  match a, s.event with
  | .event, .setReconnecting => !s.config.enableAutoReconnect ||
      s.ended && !s.control.stopped
  | _, _ => true

/-- `close` closes the demuxer when no error event is queued or being handled, or when
reconnecting is disabled. -/
def closesQuietly (s : Controller) (a : Action) : Bool :=
  match a, s.control with
  | .control _, .closing => !s.config.enableAutoReconnect || s.queued = 0 && s.event = .idle
  | _, _ => true

theorem orderly_new (config : Config) : Orderly (new config) := by
  constructor <;> simp [new, EventPc.holds, EventPc.starting, ControlPc.joined,
    ControlPc.pastStop, ControlPc.cancelled, reconnects]

theorem holds_of_starting {pc : EventPc} (h : pc.starting = true) : pc.holds = true := by
  cases pc <;> simp_all [EventPc.starting, EventPc.holds]

theorem Orderly.not_starting {s : Controller} (hs : Orderly s) (h : s.control.holds = true) :
    s.event.starting = false := by
  by_contra hstarting
  have hevent := holds_of_starting (by simpa using hstarting)
  rw [hs.exclusive hevent] at h
  simp at h

theorem afterStop_spec (op : Operation) :
    (afterStop op).holds = false ∧ (afterStop op).joined = false ∧
      (afterStop op).cancelled = false ∧ ((afterStop op).opens = true → op.opens = true) := by
  cases op <;> simp [afterStop, ControlPc.holds, ControlPc.joined, ControlPc.cancelled,
    ControlPc.opens, Operation.opens]

theorem afterCancel_spec (op : Operation) :
    (afterCancel op).holds = false ∧ (afterCancel op).joined = false ∧
      (afterCancel op).pastStop = (op = .close : Bool) ∧
      (afterCancel op).stopped = (op = .close : Bool) ∧
      ((afterCancel op).opens = true → op.opens = true) := by
  cases op <;> simp [afterCancel, ControlPc.holds, ControlPc.joined, ControlPc.pastStop,
    ControlPc.stopped, ControlPc.opens, Operation.opens]

/-- The flags that no invariant mentions. -/
theorem Orderly.flags {s : Controller} (hs : Orderly s) (stop cancel : Bool) (attempt : ℕ) :
    Orderly { s with shouldStopReconnect := stop
                     shouldCancelAsyncOpen := cancel
                     currentReconnectAttempt := attempt } where
  exclusive := hs.exclusive
  announced := hs.announced
  starting := hs.starting
  joined := hs.joined
  pastStop := hs.pastStop
  cancelled := hs.cancelled
  inProgress := hs.inProgress
  closed := fun h => { hs.closed h with }

/-- What the control thread needs to move on. -/
theorem Orderly.goto {s : Controller} (hs : Orderly s) {pc : ControlPc}
    (hholds : pc.holds = true → s.event.holds = false)
    (hstopped : s.event.starting = true → pc.stopped = false)
    (hjoined : pc.joined = true → s.reconnectThread = none)
    (hpastStop : pc.pastStop = true → s.reconnects = false)
    (hcancelled : pc.cancelled = true → s.task = none)
    (hopens : s.control.opens = false → pc.opens = false) : Orderly { s with control := pc } where
  exclusive := by
    intro hevent
    by_contra h
    rw [hholds (by simpa using h)] at hevent
    simp at hevent
  announced := hs.announced
  starting := fun h => ⟨(hs.starting h).1, (hs.starting h).2.1, hstopped h⟩
  joined := hjoined
  pastStop := hpastStop
  cancelled := hcancelled
  inProgress := hs.inProgress
  closed := fun h => { hs.closed h with control := hopens (hs.closed h).control }

theorem not_locked {s : Controller} (h : s.locked = false) :
    s.control.holds = false ∧ s.event.holds = false := by
  simp only [locked, Bool.or_eq_false_iff] at h
  exact h.1

theorem Orderly.clean {s : Controller} (hs : Orderly s) (store : Cleanup)
    (hreconnects : s.reconnects = false) (hstarting : s.event.starting = false) :
    Orderly (s.clean store) := by
  have hreset : Orderly { s with isReconnecting := false } := by
    refine ⟨hs.exclusive, fun h => ?_, fun h => ?_, hs.joined, hs.pastStop, hs.cancelled,
      hs.inProgress, fun h => ?_⟩
    · exact absurd hreconnects (ne_of_eq_of_ne h (by simp))
    · exact absurd hstarting (ne_of_eq_of_ne h (by simp))
    · exact { hs.closed h with }
  cases store with
  | isReconnecting => exact hreset
  | shouldStopReconnect => exact hs.flags _ _ _
  | currentReconnectAttempt => exact hs.flags _ _ _
  | again => exact hreset

/-- The step by which `close` returns. -/
theorem Orderly.closing {s : Controller} (hs : Orderly s) (hpc : s.control = .closing)
    (hfree : s.locked = false)
    (hquiet : s.config.enableAutoReconnect = true → s.queued = 0 ∧ s.event = .idle) :
    Orderly { s.closeDemuxer with control := .idle, closed := true } := by
  have hevent : s.event.starting = false := by
    by_contra h
    have hholds := holds_of_starting (by simpa using h)
    rw [(not_locked hfree).2] at hholds
    simp at hholds
  have htask : s.task = none := hs.cancelled (by rw [hpc]; rfl)
  have hthread : s.reconnects = false := hs.pastStop (by rw [hpc]; rfl)
  refine ⟨fun _ => rfl, hs.announced, fun h => ?_, by simp [ControlPc.joined],
    by simp [ControlPc.pastStop], by simp [ControlPc.cancelled], hs.inProgress, fun _ => ?_⟩
  · exact absurd hevent (ne_of_eq_of_ne h (by simp))
  · exact ⟨rfl, rfl, htask, rfl, hevent, hthread, hquiet⟩

/-- The control thread opens the demuxer. -/
theorem Orderly.opening {s : Controller} (hs : Orderly s) {config : Config}
    (hpc : s.control = .opening config) (opened : Bool) :
    Orderly { s.openDemuxer opened with config := config, control := .idle } where
  exclusive := fun _ => rfl
  announced := hs.announced
  starting := fun h => ⟨(hs.starting h).1, (hs.starting h).2.1, rfl⟩
  joined := by simp [ControlPc.joined]
  pastStop := by simp [ControlPc.pastStop]
  cancelled := by simp [ControlPc.cancelled]
  inProgress := hs.inProgress
  closed := by
    intro h
    have hopens := (hs.closed h).control
    rw [hpc] at hopens
    simp [ControlPc.opens] at hopens

theorem Orderly.startTask {s : Controller} (hs : Orderly s) {config : Config}
    (hpc : s.control = .startTask config) :
    Orderly { s with asyncOpenInProgress := true
                     shouldCancelAsyncOpen := false
                     task := some (.lock config)
                     control := .idle } where
  exclusive := fun _ => rfl
  announced := hs.announced
  starting := fun h => ⟨(hs.starting h).1, (hs.starting h).2.1, rfl⟩
  joined := by simp [ControlPc.joined]
  pastStop := by simp [ControlPc.pastStop]
  cancelled := by simp [ControlPc.cancelled]
  inProgress := fun _ => rfl
  closed := by
    intro h
    have hopens := (hs.closed h).control
    rw [hpc] at hopens
    simp [ControlPc.opens] at hopens

/-- `stopReconnect` has joined the reconnect thread. -/
theorem Orderly.join {s : Controller} (hs : Orderly s) {op : Operation}
    (hpc : s.control = .join op) :
    Orderly { s with reconnectThread := none, control := .relock op } := by
  have hstarting : s.event.starting = false := by
    by_contra h
    have hstopped := (hs.starting (by simpa using h)).2.2
    rw [hpc] at hstopped
    simp [ControlPc.stopped] at hstopped
  refine ⟨fun _ => rfl, by simp [reconnects], fun h => ?_, fun _ => rfl, by simp [ControlPc.pastStop],
    by simp [ControlPc.cancelled], hs.inProgress, fun h => ?_⟩
  · exact absurd hstarting (ne_of_eq_of_ne h (by simp))
  · have hopens := (hs.closed h).control
    rw [hpc] at hopens
    exact { hs.closed h with control := hopens, reconnects := rfl }

/-- The end of `stopReconnect`, with the mutex held and no thread that could open. -/
theorem Orderly.afterStop {s : Controller} (hs : Orderly s) {op : Operation}
    (hholds : s.control.holds = true) (hreconnects : s.reconnects = false)
    (hopens : s.control.opens = op.opens) :
    Orderly { s with control := Controller.afterStop op } := by
  obtain ⟨hholds', hjoined, hcancelled, hopens'⟩ := afterStop_spec op
  refine hs.goto (by simp [hholds']) ?_ (by simp [hjoined]) (fun _ => hreconnects)
    (by simp [hcancelled]) ?_
  · simp [hs.not_starting hholds]
  · intro h
    by_contra h'
    rw [hopens, hopens' (by simpa using h')] at h
    simp at h

/-- The end of `cancelAsyncOpen`, with no task left. -/
theorem Orderly.afterCancel {s : Controller} (hs : Orderly s) {op : Operation}
    (hpc : s.control = .cancelTest op ∨ s.control = .clearCancel op) (htask : s.task = none) :
    Orderly { s with control := Controller.afterCancel op } := by
  obtain ⟨hholds, hjoined, hpastStop, hstopped, hopens⟩ := afterCancel_spec op
  have hold : s.control.pastStop = (op = .close : Bool) ∧ s.control.stopped = (op = .close : Bool) ∧
      s.control.opens = op.opens := by
    rcases hpc with hpc | hpc <;> rw [hpc] <;> exact ⟨rfl, rfl, rfl⟩
  refine hs.goto (by simp [hholds]) (fun h => ?_) (by simp [hjoined]) (fun h => ?_)
    (fun _ => htask) (fun h => ?_)
  · rw [hstopped, ← hold.2.1]
    exact (hs.starting h).2.2
  · rw [hpastStop, ← hold.1] at h
    exact hs.pastStop h
  · by_contra h'
    rw [hold.2.2, hopens (by simpa using h')] at h
    simp at h

/-- A move of the control thread within `cancelAsyncOpen` or the end of `close`. -/
theorem Orderly.gotoNext {s : Controller} (hs : Orderly s) (pc : ControlPc)
    (hholds : pc.holds = false) (hjoined : pc.joined = false)
    (hstopped : pc.stopped = s.control.stopped) (hpastStop : pc.pastStop = s.control.pastStop)
    (hcancelled : pc.cancelled = true → s.task = none) (hopens : pc.opens = s.control.opens) :
    Orderly { s with control := pc } := by
  refine hs.goto (by simp [hholds]) (fun h => ?_) (by simp [hjoined]) (fun h => ?_) hcancelled
    (fun h => ?_)
  · rw [hstopped]
    exact (hs.starting h).2.2
  · rw [hpastStop] at h
    exact hs.pastStop h
  · rw [hopens]
    exact h

/-- A move of the control thread within the critical section of `stopReconnect`. -/
theorem Orderly.gotoHolding {s : Controller} (hs : Orderly s) (pc : ControlPc)
    (hholds : s.control.holds = true) (hjoined : pc.joined = true → s.reconnectThread = none)
    (hpastStop : pc.pastStop = false) (hcancelled : pc.cancelled = false)
    (hopens : pc.opens = s.control.opens) : Orderly { s with control := pc } := by
  refine hs.goto (fun _ => ?_) (fun h => ?_) hjoined (by simp [hpastStop]) (by simp [hcancelled])
    (fun h => ?_)
  · by_contra h
    rw [hs.exclusive (by simpa using h)] at hholds
    simp at hholds
  · exact absurd (hs.not_starting hholds) (ne_of_eq_of_ne h (by simp))
  · rw [hopens]
    exact h

theorem clean_spec (s : Controller) (store : Cleanup) :
    (s.clean store).control = s.control ∧ (s.clean store).reconnectThread = s.reconnectThread := by
  cases store <;> exact ⟨rfl, rfl⟩

theorem Orderly.controlMove {s s' : Controller} {opened : Bool} (hs : Orderly s)
    (hclose : closesQuietly s (.control opened) = true) (h : s.controlMove opened = some s') :
    Orderly s' := by
  cases controlMove_step h with
  | stopLock op hpc hfree =>
    refine hs.goto (fun _ => (not_locked hfree).2) (fun _ => rfl) (by simp [ControlPc.joined])
      (by simp [ControlPc.pastStop]) (by simp [ControlPc.cancelled]) ?_
    rw [hpc]
    exact id
  | stops op hpc hreconnecting =>
    exact hs.gotoHolding (.setStop op) (by rw [hpc]; rfl) (by simp [ControlPc.joined]) rfl rfl
      (by rw [hpc]; rfl)
  | skipsStop op hpc hreconnecting =>
    refine hs.afterStop (by rw [hpc]; rfl) ?_ (by rw [hpc]; rfl)
    by_contra hreconnects
    rw [hs.announced (by simpa using hreconnects)] at hreconnecting
    simp at hreconnecting
  | setStop op hpc =>
    have hflags := hs.flags true s.shouldCancelAsyncOpen s.currentReconnectAttempt
    exact hflags.gotoHolding (.joinTest op) (by simp [hpc, ControlPc.holds])
      (by simp [ControlPc.joined]) rfl rfl (by simp [hpc, ControlPc.opens])
  | joins op hpc hthread =>
    exact hs.gotoHolding (.join op) (by rw [hpc]; rfl) (by simp [ControlPc.joined]) rfl rfl
      (by rw [hpc]; rfl)
  | skipsJoin op hpc hthread =>
    exact hs.gotoHolding (.cleanup op .isReconnecting) (by rw [hpc]; rfl) (fun _ => hthread) rfl rfl
      (by rw [hpc]; rfl)
  | joinFailed op hpc hthread =>
    exact hs.goto (by simp [ControlPc.holds]) (fun _ => rfl) (by simp [ControlPc.joined])
      (by simp [ControlPc.pastStop]) (by simp [ControlPc.cancelled]) (fun _ => rfl)
  | joined op hpc hthread => exact hs.join hpc
  | relock op hpc hfree =>
    refine hs.goto (fun _ => (not_locked hfree).2) (fun _ => rfl) (fun _ => hs.joined ?_)
      (by simp [ControlPc.pastStop]) (by simp [ControlPc.cancelled]) ?_
    · rw [hpc]
      rfl
    · rw [hpc]
      exact id
  | cleanup op store hpc =>
    have hholds : s.control.holds = true := by rw [hpc]; rfl
    have hopens : s.control.opens = op.opens := by rw [hpc]; rfl
    have hthread : s.reconnectThread = none := hs.joined (by rw [hpc]; rfl)
    have hclean := hs.clean store (by simp [reconnects, hthread]) (hs.not_starting hholds)
    obtain ⟨hcontrol, hthread'⟩ := clean_spec s store
    rw [← hcontrol] at hholds hopens
    rw [← hthread'] at hthread
    cases store.next with
    | none => exact hclean.afterStop hholds (by simp [reconnects, hthread]) hopens
    | some next =>
      exact hclean.gotoHolding (.cleanup op next) hholds (fun _ => hthread) rfl rfl hopens.symm
  | cancels op hpc hprogress =>
    exact hs.gotoNext (.setCancel op) rfl rfl (by rw [hpc]; rfl) (by rw [hpc]; rfl)
      (by simp [ControlPc.cancelled]) (by rw [hpc]; rfl)
  | skipsCancel op hpc hprogress =>
    refine hs.afterCancel (Or.inl hpc) ?_
    by_contra htask
    rw [hs.inProgress htask] at hprogress
    simp at hprogress
  | setCancel op hpc =>
    have hflags := hs.flags s.shouldStopReconnect true s.currentReconnectAttempt
    exact hflags.gotoNext (.wait op) rfl rfl (by simp only [hpc]; rfl) (by simp only [hpc]; rfl)
      (by simp [ControlPc.cancelled]) (by simp only [hpc]; rfl)
  | waited op hpc htask =>
    exact hs.gotoNext (.clearCancel op) rfl rfl (by rw [hpc]; rfl) (by rw [hpc]; rfl)
      (fun _ => htask) (by rw [hpc]; rfl)
  | clearCancel op hpc =>
    have hflags := hs.flags s.shouldStopReconnect false s.currentReconnectAttempt
    exact hflags.afterCancel (Or.inr hpc) (hs.cancelled (by rw [hpc]; rfl))
  | stopDecode hpc hfree =>
    exact hs.gotoNext .closing rfl rfl (by rw [hpc]; rfl) (by rw [hpc]; rfl)
      (fun _ => hs.cancelled (by rw [hpc]; rfl)) (by rw [hpc]; rfl)
  | closing hpc hfree =>
    refine hs.closing hpc hfree fun hauto => ?_
    simpa [closesQuietly, hpc, hauto] using hclose
  | opening config hpc hfree => exact hs.opening hpc opened
  | startTask config hpc hfree => exact hs.startTask hpc

/-- What the event thread needs to move on. -/
theorem Orderly.gotoEvent {s : Controller} (hs : Orderly s) (pc : EventPc)
    (hholds : pc.holds = true → s.control.holds = false)
    (hstarting : pc.starting = true →
      s.isReconnecting = true ∧ s.ended = true ∧ s.control.stopped = false)
    (hclosed : s.closed = true → s.config.enableAutoReconnect = false ∧ pc.starting = false) :
    Orderly { s with event := pc } where
  exclusive := hholds
  announced := hs.announced
  starting := hstarting
  joined := hs.joined
  pastStop := hs.pastStop
  cancelled := hs.cancelled
  inProgress := hs.inProgress
  closed := fun h =>
    { hs.closed h with
      event := (hclosed h).2
      quiet := fun hauto => absurd (hclosed h).1 (ne_of_eq_of_ne hauto (by simp)) }

/-- After `close` only a disabled listener handles events. -/
theorem Orderly.disabled {s : Controller} (hs : Orderly s)
    (hbusy : s.event ≠ .idle ∨ s.queued ≠ 0) (hclosed : s.closed = true) :
    s.config.enableAutoReconnect = false := by
  by_contra hauto
  obtain ⟨hqueued, hidle⟩ := (hs.closed hclosed).quiet (by simpa using hauto)
  rcases hbusy with h | h
  · exact h hidle
  · exact h hqueued

/-- The event thread moves on within `startReconnect`, behind its tests. -/
theorem Orderly.gotoStarting {s : Controller} (hs : Orderly s) (pc : EventPc)
    (hstarting : s.event.starting = true) : Orderly { s with event := pc } := by
  refine hs.gotoEvent pc (fun _ => hs.exclusive (holds_of_starting hstarting))
    (fun _ => hs.starting hstarting) (fun h => ?_)
  rw [(hs.closed h).event] at hstarting
  simp at hstarting

theorem Orderly.not_closed_of_starting {s : Controller} (hs : Orderly s)
    (hstarting : s.event.starting = true) : s.closed = false := by
  by_contra h
  rw [(hs.closed (by simpa using h)).event] at hstarting
  simp at hstarting

/-- `startReconnect` starts the thread it has announced. -/
theorem Orderly.spawn {s : Controller} (hs : Orderly s) (hpc : s.event = .spawn) :
    Orderly { s with reconnectThread := some .head, event := .idle } := by
  have hstarting : s.event.starting = true := by rw [hpc]; rfl
  obtain ⟨hreconnecting, _, hstopped⟩ := hs.starting hstarting
  have hcontrol := hs.exclusive (holds_of_starting hstarting)
  refine ⟨by simp [EventPc.holds], fun _ => hreconnecting, by simp [EventPc.starting], fun h => ?_,
    fun h => ?_, hs.cancelled, hs.inProgress, fun h => ?_⟩
  · cases hc : s.control <;>
      simp_all [ControlPc.joined, ControlPc.stopped, ControlPc.holds]
  · cases hc : s.control <;>
      simp_all [ControlPc.pastStop, ControlPc.stopped]
  · rw [hs.not_closed_of_starting hstarting] at h
    simp at h

/-- `startReconnect` has joined the reconnect thread before its own. -/
theorem Orderly.joinEvent {s : Controller} (hs : Orderly s) (hpc : s.event = .join) :
    Orderly { s with reconnectThread := none, event := .spawn } := by
  have hstarting : s.event.starting = true := by rw [hpc]; rfl
  obtain ⟨hreconnecting, _, hstopped⟩ := hs.starting hstarting
  refine ⟨fun _ => hs.exclusive (holds_of_starting hstarting), by simp [reconnects],
    fun _ => ⟨hreconnecting, rfl, hstopped⟩, fun _ => rfl, fun _ => rfl, hs.cancelled,
    hs.inProgress, fun h => ?_⟩
  simp [hs.not_closed_of_starting hstarting] at h

/-- The event thread moves on outside the part of `startReconnect` behind its tests. -/
theorem Orderly.gotoBefore {s : Controller} (hs : Orderly s) (pc : EventPc)
    (hbusy : s.event ≠ .idle) (hholds : pc.holds = true → s.control.holds = false)
    (hstarting : pc.starting = false) : Orderly { s with event := pc } :=
  hs.gotoEvent pc hholds (by simp [hstarting])
    (fun h => ⟨hs.disabled (Or.inl hbusy) h, hstarting⟩)

theorem Orderly.eventMove {s s' : Controller} (hs : Orderly s)
    (hstart : startsInTime s .event = true) (h : s.eventMove = some s') : Orderly s' := by
  cases eventMove_step h with
  | takes hpc hqueued =>
    have hauto := hs.disabled (Or.inr hqueued)
    exact ⟨by simp [EventPc.holds], hs.announced, by simp [EventPc.starting], hs.joined, hs.pastStop,
      hs.cancelled, hs.inProgress, fun h => { hs.closed h with
        event := rfl
        quiet := fun hauto' => absurd (hauto h) (ne_of_eq_of_ne hauto' (by simp)) }⟩
  | enabled hpc | disabled hpc | wanted hpc | unwanted hpc | present hpc | gaveUp hpc =>
    exact hs.gotoBefore _ (by simp [hpc]) (by simp [EventPc.holds]) rfl
  | lock hpc hfree => exact hs.gotoBefore _ (by simp [hpc]) (fun _ => (not_locked hfree).1) rfl
  | absent hpc hreconnecting =>
    have hcontrol := hs.exclusive (by rw [hpc]; rfl)
    exact hs.gotoBefore _ (by simp [hpc]) (fun _ => hcontrol) rfl
  | announces hpc hconfig =>
    have hcontrol := hs.exclusive (by rw [hpc]; rfl)
    simp only [startsInTime, hpc, hconfig, Bool.not_true, Bool.false_or, Bool.and_eq_true,
      Bool.not_eq_true'] at hstart
    refine ⟨fun _ => hcontrol, fun _ => rfl, fun _ => ⟨rfl, hstart.1, hstart.2⟩, hs.joined,
      hs.pastStop, hs.cancelled, hs.inProgress, fun h => ?_⟩
    exact absurd (hs.disabled (by simp [hpc]) h) (ne_of_eq_of_ne hconfig (by simp))
  | clearStop hpc =>
    have hflags := hs.flags false s.shouldCancelAsyncOpen s.currentReconnectAttempt
    exact hflags.gotoStarting _ (by simp [hpc, EventPc.starting])
  | clearAttempt hpc =>
    have hflags := hs.flags s.shouldStopReconnect s.shouldCancelAsyncOpen 0
    exact hflags.gotoStarting _ (by simp [hpc, EventPc.starting])
  | joins hpc | skipsJoin hpc | joinFailed hpc =>
    exact hs.gotoStarting _ (by simp [hpc, EventPc.starting])
  | joined hpc hthread => exact hs.joinEvent hpc
  | spawn hpc => exact hs.spawn hpc

/-- `startReconnect` is past its tests only after the last thread has ended. -/
theorem starting_eq_false {s : Controller} {pc : LoopPc}
    (hended : s.event.starting = true → s.ended = true) (hthread : s.reconnectThread = some pc)
    (hpc : pc ≠ .exited) : s.event.starting = false := by
  by_contra hstarting
  have hexited := hended (by simpa using hstarting)
  simp [ended, hthread, hpc] at hexited

/-- A move of the reconnect thread that does not make it able to open again. -/
theorem Orderly.gotoLoop {s : Controller} (hs : Orderly s) {pc : LoopPc} (pc' : LoopPc)
    (hthread : s.reconnectThread = some pc) (hpc : pc ≠ .exited)
    (hactive : pc'.active = true → pc.active = true) : Orderly (s.gotoLoop pc') := by
  have hreconnects (h : s.reconnects = false) : (s.gotoLoop pc').reconnects = false := by
    simp only [reconnects, hthread, Option.any_some] at h
    simp only [reconnects, Controller.gotoLoop, Option.any_some]
    by_contra hpc'
    rw [hactive (by simpa using hpc')] at h
    simp at h
  refine ⟨hs.exclusive, fun h => ?_, fun h => ?_, fun h => ?_, fun h => ?_, hs.cancelled,
    hs.inProgress, fun h => { hs.closed h with reconnects := hreconnects (hs.closed h).reconnects }⟩
  · refine hs.announced ?_
    by_contra hreconnects'
    rw [hreconnects (by simpa using hreconnects')] at h
    simp at h
  · have hstarting := starting_eq_false (fun h => (hs.starting h).2.1) hthread hpc
    exact absurd h (ne_of_eq_of_ne hstarting (by simp))
  · have hnone := hs.joined h
    simp [hthread] at hnone
  · exact hreconnects (hs.pastStop h)

theorem Orderly.closeDemuxer {s : Controller} (hs : Orderly s) : Orderly s.closeDemuxer :=
  { hs with closed := fun h => { hs.closed h with isOpened := rfl, demuxing := rfl } }

theorem Orderly.openDemuxer {s : Controller} (hs : Orderly s) (hclosed : s.closed = false)
    (opened : Bool) : Orderly (s.openDemuxer opened) :=
  { hs with closed := fun h => absurd hclosed (ne_of_eq_of_ne h (by simp)) }

theorem Orderly.loopMove {s s' : Controller} {c : Choice} (hs : Orderly s)
    (h : s.loopMove c = some s') : Orderly s' := by
  cases loopMove_step h with
  | head hthread | limitTest hthread | stopTest hthread | waiting _ hthread =>
    exact hs.gotoLoop _ hthread (by simp) (fun _ => rfl)
  | increment hthread =>
    have hflags := hs.flags s.shouldStopReconnect s.shouldCancelAsyncOpen
      (s.currentReconnectAttempt + 1)
    exact hflags.gotoLoop .closing hthread (by simp) (fun _ => rfl)
  | closing hthread hfree => exact hs.closeDemuxer.gotoLoop _ hthread (by simp) (fun _ => rfl)
  | opening opened restarted hthread hfree =>
    have hclosed : s.closed = false := by
      by_contra hclosed
      have hreconnects := (hs.closed (by simpa using hclosed)).reconnects
      simp [reconnects, hthread, LoopPc.active] at hreconnects
    exact (hs.openDemuxer hclosed opened).gotoLoop _ hthread (by simp) (fun _ => rfl)
  | cleanup store hthread =>
    have hreconnects : s.reconnects = false := by simp [reconnects, hthread, LoopPc.active]
    have hstarting : s.event.starting = false :=
      starting_eq_false (fun h => (hs.starting h).2.1) hthread (by simp)
    refine (hs.clean store hreconnects hstarting).gotoLoop _
      ((clean_spec s store).2.trans hthread) (by simp) ?_
    cases store.next <;> simp [LoopPc.active]

/-- A move of the task of `openAsync`. -/
theorem Orderly.gotoTask {s : Controller} (hs : Orderly s) (task : TaskPc) (htask : s.task ≠ none) :
    Orderly { s with task := some task } := by
  refine ⟨hs.exclusive, hs.announced, hs.starting, hs.joined, hs.pastStop, fun h => ?_,
    fun _ => hs.inProgress htask, fun h => ?_⟩
  · exact absurd (hs.cancelled h) htask
  · exact absurd (hs.closed h).task htask

theorem Orderly.taskMove {s s' : Controller} {opened : Bool} (hs : Orderly s)
    (h : s.taskMove opened = some s') : Orderly s' := by
  unfold Controller.taskMove at h
  cases htask : s.task with
  | none => simp [htask] at h
  | some pc =>
    have hsome : s.task ≠ none := by simp [htask]
    have hclosed : s.closed = false := by
      by_contra hclosed
      exact hsome (hs.closed (by simpa using hclosed)).task
    cases pc with
    | lock config =>
      simp only [htask, Option.ite_none_left_eq_some, Option.some.injEq] at h
      rcases h with ⟨_, rfl⟩
      exact hs.gotoTask _ hsome
    | cancelTest config | internalTest config =>
      simp only [htask, Option.some.injEq] at h
      subst h
      exact hs.gotoTask _ hsome
    | opening config =>
      simp only [htask, Option.some.injEq] at h
      subst h
      have hopened := (hs.openDemuxer hclosed opened).gotoTask (.cancelledTest opened) hsome
      exact { hopened with closed := fun h => absurd hclosed (ne_of_eq_of_ne h (by simp)) }
    | cancelledTest opened =>
      simp only [htask, Option.some.injEq] at h
      subst h
      split_ifs
      · exact hs.closeDemuxer.gotoTask _ hsome
      · exact hs.gotoTask _ hsome
    | finish =>
      simp only [htask, Option.some.injEq] at h
      subst h
      exact ⟨hs.exclusive, hs.announced, hs.starting, hs.joined, hs.pastStop, fun _ => rfl,
        fun h => absurd rfl h, fun h => { hs.closed h with task := rfl }⟩

theorem Orderly.call {s : Controller} (hs : Orderly s) (op : Operation) : Orderly (s.call op) := by
  cases op with
  | openUrl config | openAsync config =>
    refine ⟨fun _ => rfl, hs.announced, fun h => ⟨(hs.starting h).1, (hs.starting h).2.1, rfl⟩,
      by simp [Controller.call, ControlPc.joined], by simp [Controller.call, ControlPc.pastStop],
      by simp [Controller.call, ControlPc.cancelled], hs.inProgress, by simp [Controller.call]⟩
  | close | stopReconnectManually =>
    exact hs.goto (by simp [ControlPc.holds]) (fun _ => rfl) (by simp [ControlPc.joined])
      (by simp [ControlPc.pastStop]) (by simp [ControlPc.cancelled]) (fun _ => rfl)

theorem Orderly.handleReadError {s s' : Controller} (hs : Orderly s)
    (h : s.handleReadError = some s') : Orderly s' := by
  simp only [Controller.handleReadError, Option.ite_none_right_eq_some, Option.some.injEq] at h
  rcases h with ⟨hdemuxing, rfl⟩
  refine { hs with closed := fun h => ?_ }
  rw [(hs.closed h).demuxing] at hdemuxing
  simp at hdemuxing

theorem Orderly.step {s s' : Controller} {a : Action} (hs : Orderly s)
    (hstart : startsInTime s a = true) (hclose : closesQuietly s a = true)
    (h : s.step a = some s') : Orderly s' := by
  cases a with
  | call op =>
    simp only [Controller.step, Option.ite_none_right_eq_some, Option.some.injEq] at h
    rw [← h.2]
    exact hs.call op
  | control opened => exact hs.controlMove hclose h
  | event => exact hs.eventMove hstart h
  | loop c => exact hs.loopMove h
  | task opened => exact hs.taskMove h
  | readError => exact hs.handleReadError h

/-- The step starts a reconnect thread. -/
def startsThread (s : Controller) (a : Action) : Bool :=
  match a, s.event with
  | .event, .spawn => true
  | _, _ => false

/-- After `close` the demuxer is closed, and no step starts a reconnect thread. -/
def StaysClosed (s : Controller) (a : Action) (s' : Controller) : Prop :=
  s'.closed = true → s'.isOpened = false ∧ (s.closed = true → startsThread s a = false)

instance (s : Controller) (a : Action) (s' : Controller) : Decidable (StaysClosed s a s') :=
  inferInstanceAs (Decidable (_ → _))

/-- Closing really closes, in every run in which a reconnect thread is started neither over a
running one nor against a running `close`, and no error event outlives `close`. -/
theorem close_stays_closed (config : Config) (actions : List Action)
    (h : Each step (fun s a _ => startsInTime s a = true ∧ closesQuietly s a = true) (new config)
      actions) : Each step StaysClosed (new config) actions := by
  refine Each.of_invariant (fun s a s' hs ha hstep => ?_) (orderly_new config) h
  have hs' : Orderly s' := Orderly.step hs ha.1 ha.2 hstep
  refine ⟨hs', fun hclosed => ⟨(hs'.closed hclosed).isOpened, fun hclosed => ?_⟩⟩
  have hevent := (hs.closed hclosed).event
  unfold startsThread
  split
  · next hpc =>
    rw [hpc] at hevent
    simp [EventPc.starting] at hevent
  · rfl

/-- A controller with the default configuration opens a stream. -/
def openStream : List Action :=
  .call (.openUrl ⟨true, 5⟩) :: List.replicate 4 (.control true)

/-- A read error starts a reconnect thread, which opens the stream again and ends before the
controller closes it. -/
theorem close_stays_closed_reconnected :
    let actions : List Action := List.flatten
      [openStream, [.readError], List.replicate 10 .event, List.replicate 5 (.loop .go),
        [.loop (.opened true true)], List.replicate 4 (.loop .go), [.call .close],
        List.replicate 5 (.control true)]
    (run step (new ⟨true, 5⟩) actions).map (fun s => (s.closed, s.isOpened, s.reconnectThread)) =
        some (true, false, some .exited) ∧
      Each step StaysClosed (new ⟨true, 5⟩) actions :=
  ⟨by decide +kernel, close_stays_closed _ _ (by decide +kernel)⟩

/-- A read error that is queued before `close` and handled after it starts a reconnect thread,
which opens the closed stream. -/
theorem close_stays_closed_fails :
    let actions : List Action := List.flatten
      [openStream, [.readError, .call .close], List.replicate 5 (.control true),
        List.replicate 10 .event, List.replicate 5 (.loop .go), [.loop (.opened true true)]]
    (run step (new ⟨true, 5⟩) actions).map (fun s => (s.closed, s.isOpened)) = some (true, true) ∧
      ¬Each step StaysClosed (new ⟨true, 5⟩) actions := by
  decide +kernel

end Controller

end DecoderSDK.Reconnect
