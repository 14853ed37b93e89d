import DecoderSDK.Reconnect.Closing

/-! # The reconnecting flag

`isReconnecting` is to announce the reconnect thread: `stopReconnect` skips a
thread it does not announce, and `startReconnect` joins one while it holds the
mutex. The flag is reset twice at the end of the loop, so a `startReconnect`
in between loses its announcement.
-/
namespace DecoderSDK.Reconnect
open Interleaving

/-- `stopReconnect` waits for the thread without the mutex, or for the mutex after that. -/
def ControlPc.waits : ControlPc → Bool
  | .join _ => true
  | .relock _ => true
  | _ => false

namespace Controller

/-- `startReconnect` passes its tests after the last reconnect thread has ended, and not while
`stopReconnect` has given up the mutex to wait for that thread. -/
def startsAlone (s : Controller) (a : Action) : Bool :=
  match a, s.event with
  | .event, .setReconnecting => !s.config.enableAutoReconnect || s.ended && !s.control.waits
  | _, _ => true

structure Announced (s : Controller) : Prop where
  exclusive : s.event.holds = true → s.control.holds = false
  announced : s.reconnects = true → s.isReconnecting = true
  starting : s.event.starting = true →
    s.isReconnecting = true ∧ s.ended = true ∧ s.control.waits = false
  joined : s.control.joined = true → s.reconnectThread = none
  spawn : s.event = .spawn → s.reconnectThread = none

theorem announced_new (config : Config) : Announced (new config) := by
  constructor <;> simp [new, EventPc.holds, EventPc.starting, ControlPc.joined, reconnects]

/-- A step that changes nothing the flag depends on. -/
theorem Announced.keep {s s' : Controller} (hs : Announced s) (hevent : s'.event = s.event)
    (hcontrol : s'.control = s.control) (hthread : s'.reconnectThread = s.reconnectThread)
    (hflag : s'.isReconnecting = s.isReconnecting) : Announced s' := by
  constructor
  · rw [hevent, hcontrol]
    exact hs.exclusive
  · rw [reconnects, hthread, hflag]
    exact hs.announced
  · rw [hevent, ended, hthread, hflag, hcontrol]
    exact hs.starting
  · rw [hcontrol, hthread]
    exact hs.joined
  · rw [hevent, hthread]
    exact hs.spawn

/-- The mutex excludes the event thread from `startReconnect`. -/
theorem Announced.event_outside {s : Controller} (hs : Announced s)
    (h : s.control.holds = true) : s.event.holds = false := by
  by_contra hevent
  rw [hs.exclusive (by simpa using hevent)] at h
  simp at h

theorem Announced.not_starting {s : Controller} (hs : Announced s)
    (h : s.control.holds = true ∨ s.control.waits = true) : s.event.starting = false := by
  by_contra hstarting
  have hstarting' : s.event.starting = true := by simpa using hstarting
  rcases h with h | h
  · rw [hs.exclusive (holds_of_starting hstarting')] at h
    simp at h
  · rw [(hs.starting hstarting').2.2] at h
    simp at h

/-- What the control thread needs to move on. -/
theorem Announced.goto {s : Controller} (hs : Announced s) (pc : ControlPc)
    (hholds : pc.holds = true → s.event.holds = false)
    (hwaits : pc.waits = true → s.event.starting = false)
    (hjoined : pc.joined = true → s.reconnectThread = none) :
    Announced { s with control := pc } where
  exclusive := by
    intro hevent
    by_contra h
    rw [hholds (by simpa using h)] at hevent
    simp at hevent
  announced := hs.announced
  starting := by
    intro hstarting
    refine ⟨(hs.starting hstarting).1, (hs.starting hstarting).2.1, ?_⟩
    by_contra h
    have hidle := hwaits (by simpa using h)
    rw [hstarting] at hidle
    simp at hidle
  joined := hjoined
  spawn := hs.spawn

/-- The control thread moves outside the critical section of `stopReconnect`. -/
theorem Announced.gotoOutside {s : Controller} (hs : Announced s) (pc : ControlPc)
    (hholds : pc.holds = false) (hwaits : pc.waits = false) (hjoined : pc.joined = false) :
    Announced { s with control := pc } :=
  hs.goto pc (by simp [hholds]) (by simp [hwaits]) (by simp [hjoined])

theorem afterStop_outside (op : Operation) : (afterStop op).holds = false ∧
    (afterStop op).waits = false ∧ (afterStop op).joined = false := by
  cases op <;> exact ⟨rfl, rfl, rfl⟩

theorem afterCancel_outside (op : Operation) : (afterCancel op).holds = false ∧
    (afterCancel op).waits = false ∧ (afterCancel op).joined = false := by
  cases op <;> exact ⟨rfl, rfl, rfl⟩

/-- A store of `cleanupReconnectState`, with no thread left that the flag could announce. -/
theorem Announced.clean {s : Controller} (hs : Announced s) (store : Cleanup)
    (hreconnects : s.reconnects = false) (hstarting : s.event.starting = false) :
    Announced (s.clean store) := by
  have hreset : Announced { s with isReconnecting := false } := by
    refine { hs with announced := fun h => ?_, starting := fun h => ?_ }
    · exact absurd hreconnects (ne_of_eq_of_ne h (by simp))
    · exact absurd hstarting (ne_of_eq_of_ne h (by simp))
  cases store with
  | isReconnecting | again => exact hreset
  | shouldStopReconnect | currentReconnectAttempt => exact hs.keep rfl rfl rfl rfl

/-- The control thread moves on within the critical section of `stopReconnect`. -/
theorem Announced.gotoHolding {s : Controller} (hs : Announced s) (pc : ControlPc)
    (hholds : s.control.holds = true) (hjoined : pc.joined = true → s.reconnectThread = none) :
    Announced { s with control := pc } :=
  hs.goto pc (fun _ => hs.event_outside hholds) (fun _ => hs.not_starting (Or.inl hholds)) hjoined

/-- `stopReconnect` has joined the reconnect thread. -/
theorem Announced.join {s : Controller} (hs : Announced s) {op : Operation}
    (hpc : s.control = .join op) :
    Announced { s with reconnectThread := none, control := .relock op } := by
  have hstarting : s.event.starting = false := hs.not_starting (by simp [hpc, ControlPc.waits])
  refine ⟨fun _ => rfl, by simp [reconnects], fun h => ?_, fun _ => rfl, fun _ => rfl⟩
  exact absurd hstarting (ne_of_eq_of_ne h (by simp))

theorem Announced.controlMove {s s' : Controller} {opened : Bool} (hs : Announced s)
    (h : s.controlMove opened = some s') : Announced s' := by
  cases controlMove_step h with
  | stopLock op hpc hfree =>
    exact hs.goto _ (fun _ => (not_locked hfree).2) (by simp [ControlPc.waits])
      (by simp [ControlPc.joined])
  | stops op hpc | joins op hpc =>
    exact hs.gotoHolding _ (by rw [hpc]; rfl) (by simp [ControlPc.joined])
  | skipsStop op hpc =>
    obtain ⟨hholds, hwaits, hjoined⟩ := afterStop_outside op
    exact hs.gotoOutside _ hholds hwaits hjoined
  | setStop op hpc =>
    have hgoto := hs.gotoHolding (.joinTest op) (by rw [hpc]; rfl) (by simp [ControlPc.joined])
    exact hgoto.keep rfl rfl rfl rfl
  | skipsJoin op hpc hthread => exact hs.gotoHolding _ (by rw [hpc]; rfl) (fun _ => hthread)
  | joinFailed op hpc => exact hs.gotoOutside _ rfl rfl rfl
  | joined op hpc hthread => exact hs.join hpc
  | relock op hpc hfree =>
    have hthread : s.reconnectThread = none := hs.joined (by rw [hpc]; rfl)
    exact hs.goto _ (fun _ => (not_locked hfree).2) (by simp [ControlPc.waits]) (fun _ => hthread)
  | cleanup op store hpc =>
    have hholds : s.control.holds = true := by rw [hpc]; rfl
    have hthread : s.reconnectThread = none := hs.joined (by rw [hpc]; rfl)
    have hclean := hs.clean store (by simp [reconnects, hthread]) (hs.not_starting (Or.inl hholds))
    obtain ⟨hcontrol, hthread'⟩ := clean_spec s store
    cases store.next with
    | none =>
      obtain ⟨hholds', hwaits, hjoined⟩ := afterStop_outside op
      exact hclean.gotoOutside _ hholds' hwaits hjoined
    | some next =>
      exact hclean.gotoHolding _ (by rw [hcontrol, hholds]) (fun _ => hthread'.trans hthread)
  | skipsCancel op hpc | clearCancel op hpc =>
    obtain ⟨hholds, hwaits, hjoined⟩ := afterCancel_outside op
    exact (hs.gotoOutside _ hholds hwaits hjoined).keep rfl rfl rfl rfl
  | cancels | setCancel | waited | stopDecode | closing | opening | startTask =>
    exact (hs.gotoOutside _ rfl rfl rfl).keep rfl rfl rfl rfl

/-- What the event thread needs to move on. -/
theorem Announced.gotoEvent {s : Controller} (hs : Announced s) (pc : EventPc)
    (hholds : pc.holds = true → s.control.holds = false)
    (hstarting : pc.starting = true →
      s.isReconnecting = true ∧ s.ended = true ∧ s.control.waits = false)
    (hspawn : pc = .spawn → s.reconnectThread = none) : Announced { s with event := pc } :=
  ⟨hholds, hs.announced, hstarting, hs.joined, hspawn⟩

/-- The event thread moves on within `startReconnect`, behind its tests. -/
theorem Announced.gotoStarting {s : Controller} (hs : Announced s) (pc : EventPc)
    (hstarting : s.event.starting = true) (hspawn : pc = .spawn → s.reconnectThread = none) :
    Announced { s with event := pc } :=
  hs.gotoEvent pc (fun _ => hs.exclusive (holds_of_starting hstarting))
    (fun _ => hs.starting hstarting) hspawn

theorem Announced.eventMove {s s' : Controller} (hs : Announced s)
    (hstart : startsAlone s .event = true) (h : s.eventMove = some s') : Announced s' := by
  cases eventMove_step h with
  | takes | enabled | disabled | wanted | unwanted | present | gaveUp =>
    exact (hs.gotoEvent _ (by simp [EventPc.holds]) (by simp [EventPc.starting])
      (by simp)).keep rfl rfl rfl rfl
  | lock hpc hfree =>
    exact hs.gotoEvent _ (fun _ => (not_locked hfree).1) (by simp [EventPc.starting]) (by simp)
  | absent hpc =>
    have hcontrol := hs.exclusive (by rw [hpc]; rfl)
    exact hs.gotoEvent _ (fun _ => hcontrol) (by simp [EventPc.starting]) (by simp)
  | announces hpc hconfig =>
    have hcontrol := hs.exclusive (by rw [hpc]; rfl)
    simp only [startsAlone, hpc, hconfig, Bool.not_true, Bool.false_or, Bool.and_eq_true,
      Bool.not_eq_true'] at hstart
    exact ⟨fun _ => hcontrol, fun _ => rfl, fun _ => ⟨rfl, hstart.1, hstart.2⟩, hs.joined, by simp⟩
  | clearStop hpc | clearAttempt hpc =>
    exact (hs.gotoStarting _ (by rw [hpc]; rfl) (by simp)).keep rfl rfl rfl rfl
  | joins hpc | joinFailed hpc => exact hs.gotoStarting _ (by rw [hpc]; rfl) (by simp)
  | skipsJoin hpc hthread => exact hs.gotoStarting _ (by rw [hpc]; rfl) (fun _ => hthread)
  | joined hpc hthread =>
    have hstarting : s.event.starting = true := by rw [hpc]; rfl
    obtain ⟨hflag, _, hwaits⟩ := hs.starting hstarting
    exact ⟨fun _ => hs.exclusive (holds_of_starting hstarting), by simp [reconnects],
      fun _ => ⟨hflag, rfl, hwaits⟩, fun _ => rfl, fun _ => rfl⟩
  | spawn hpc =>
    have hcontrol := hs.exclusive (by rw [hpc]; rfl)
    obtain ⟨hflag, _, hwaits⟩ := hs.starting (by rw [hpc]; rfl)
    refine ⟨by simp [EventPc.holds], fun _ => hflag, by simp [EventPc.starting], fun h => ?_, by simp⟩
    cases hc : s.control <;> simp_all [ControlPc.joined, ControlPc.waits, ControlPc.holds]

/-- A move of the reconnect thread that does not bring it back into its attempts. -/
theorem Announced.gotoLoop {s : Controller} (hs : Announced s) {pc : LoopPc} (pc' : LoopPc)
    (hthread : s.reconnectThread = some pc) (hpc : pc ≠ .exited)
    (hactive : pc'.active = true → pc.active = true) : Announced (s.gotoLoop pc') := by
  refine ⟨hs.exclusive, fun h => hs.announced ?_, fun h => ?_, fun h => ?_, fun h => ?_⟩
  · simp only [reconnects, Controller.gotoLoop, Option.any_some] at h
    rw [reconnects, hthread]
    exact hactive h
  · have hstarting := starting_eq_false (fun h => (hs.starting h).2.1) hthread hpc
    exact absurd h (ne_of_eq_of_ne hstarting (by simp))
  · have hnone := hs.joined h
    simp [hthread] at hnone
  · have hnone := hs.spawn h
    simp [hthread] at hnone

theorem Announced.loopMove {s s' : Controller} {c : Choice} (hs : Announced s)
    (h : s.loopMove c = some s') : Announced s' := by
  cases loopMove_step h with
  | head hthread | limitTest hthread | stopTest hthread | waiting _ hthread | increment hthread
  | closing hthread | opening _ _ hthread =>
    exact (hs.gotoLoop _ hthread (by simp) (fun _ => rfl)).keep rfl rfl rfl rfl
  | cleanup store hthread =>
    have hreconnects : s.reconnects = false := by simp [reconnects, hthread, LoopPc.active]
    have hstarting : s.event.starting = false :=
      starting_eq_false (fun h => (hs.starting h).2.1) hthread (by simp)
    refine (hs.clean store hreconnects hstarting).gotoLoop _
      ((clean_spec s store).2.trans hthread) (by simp) ?_
    cases store.next <;> simp [LoopPc.active]

theorem Announced.taskMove {s s' : Controller} {opened : Bool} (hs : Announced s)
    (h : s.taskMove opened = some s') : Announced s' := by
  unfold Controller.taskMove at h
  cases htask : s.task with
  | none => simp [htask] at h
  | some pc =>
    cases pc with
    | lock config =>
      simp only [htask, Option.ite_none_left_eq_some, Option.some.injEq] at h
      rcases h with ⟨_, rfl⟩
      exact hs.keep rfl rfl rfl rfl
    | cancelledTest opened =>
      simp only [htask, Option.some.injEq] at h
      split_ifs at h <;> subst h <;> exact hs.keep rfl rfl rfl rfl
    | cancelTest config | internalTest config | opening config | finish =>
      simp only [htask, Option.some.injEq] at h
      subst h
      exact hs.keep rfl rfl rfl rfl

theorem Announced.call {s : Controller} (hs : Announced s) (op : Operation) :
    Announced (s.call op) := by
  cases op with
  | openUrl config | openAsync config | close | stopReconnectManually =>
    exact (hs.gotoOutside _ rfl rfl rfl).keep rfl rfl rfl rfl

theorem Announced.step {s s' : Controller} {a : Action} (hs : Announced s)
    (hstart : startsAlone s a = true) (h : s.step a = some s') : Announced s' := by
  cases a with
  | call op =>
    simp only [Controller.step, Option.ite_none_right_eq_some, Option.some.injEq] at h
    rw [← h.2]
    exact hs.call op
  | control opened => exact hs.controlMove h
  | event => exact hs.eventMove hstart h
  | loop c => exact hs.loopMove h
  | task opened => exact hs.taskMove h
  | readError =>
    simp only [Controller.step, Controller.handleReadError, Option.ite_none_right_eq_some,
      Option.some.injEq] at h
    rcases h with ⟨_, rfl⟩
    exact hs.keep rfl rfl rfl rfl

/-- A reconnect thread is started only when there is none, so at most one is in its attempts,
and while it is the flag is set. -/
def Tracks (s : Controller) (a : Action) (s' : Controller) : Prop :=
  (startsThread s a = true → s.reconnectThread = none) ∧
    (s'.reconnects = true → s'.isReconnecting = true)

instance (s : Controller) (a : Action) (s' : Controller) : Decidable (Tracks s a s') :=
  inferInstanceAs (Decidable (_ ∧ _))

/-- The flag tracks the reconnect thread, in every run in which `startReconnect` passes its
tests only after the last thread has ended and while no `stopReconnect` waits for it. -/
theorem isReconnecting_tracks (config : Config) (actions : List Action)
    (h : Each step (fun s a _ => startsAlone s a = true) (new config) actions) :
    Each step Tracks (new config) actions := by
  refine Each.of_invariant (fun s a s' hs ha hstep => ?_) (announced_new config) h
  have hs' : Announced s' := Announced.step hs ha hstep
  refine ⟨hs', fun hstarts => hs.spawn ?_, hs'.announced⟩
  unfold startsThread at hstarts
  split at hstarts
  · next hpc => exact hpc
  · simp at hstarts

/-- A read error starts a reconnect thread, which opens the stream again. -/
def reconnectStream : List Action :=
  List.flatten [openStream, [.readError], List.replicate 10 .event, List.replicate 5 (.loop .go),
    [.loop (.opened true true)]]

/-- The next read error comes after the end of the thread and starts another one. -/
theorem isReconnecting_tracks_again :
    let actions : List Action := List.flatten
      [reconnectStream, List.replicate 4 (.loop .go), [.readError], List.replicate 11 .event,
        [.loop .go]]
    (run step (new ⟨true, 5⟩) actions).map (fun s => (s.reconnectThread, s.isReconnecting)) =
        some (some .limitTest, true) ∧
      Each step Tracks (new ⟨true, 5⟩) actions :=
  ⟨by decide +kernel, isReconnecting_tracks _ _ (by decide +kernel)⟩

/-- The next read error comes between the two resets at the end of the thread: `startReconnect`
sets the flag and joins the thread, whose last store takes the flag away from its successor. -/
theorem isReconnecting_tracks_fails :
    let actions : List Action := List.flatten
      [reconnectStream, [.loop .go, .readError], List.replicate 9 .event,
        List.replicate 3 (.loop .go), List.replicate 2 .event, [.loop .go]]
    (run step (new ⟨true, 5⟩) actions).map (fun s => (s.reconnectThread, s.isReconnecting)) =
        some (some .limitTest, false) ∧
      ¬Each step Tracks (new ⟨true, 5⟩) actions := by
  decide +kernel

end Controller

end DecoderSDK.Reconnect
