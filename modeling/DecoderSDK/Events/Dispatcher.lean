import DecoderSDK.Linked.Chains
import DecoderSDK.Interleaving.Runs

/-! # The event dispatcher

Listeners live in a linked list for each event type; callers know them by a
running number that a map of the dispatcher leads to the list's node. A
removal names the type again, and the node is unlinked with the ends of the
list of that type, whichever list it is in.
-/
namespace DecoderSDK.Events
open Linked Interleaving

inductive EventType where
  | kStreamOpened
  | kStreamClosed
  | kStreamOpening
  | kStreamOpenFailed
  | kStreamClose
  | kStreamReadData
  | kStreamReadError
  | kStreamReadRecovery
  | kStreamEnded
  | kStreamLooped
  | kDecodeStarted
  | kDecodeStopped
  | kDecodePaused
  | kCreateDecoderSuccess
  | kCreateDecoderFailed
  | kDestoryDecoder
  | kDecodeFirstFrame
  | kDecodeError
  | kDecodeRecovery
  | kSeekStarted
  | kSeekSuccess
  | kSeekFailed
  | kRecordingStarted
  | kRecordingStopped
  | kRecordingError
  deriving DecidableEq

open EventType in
def allEventTypes : List EventType :=
  [kStreamOpened, kStreamClosed, kStreamOpening, kStreamOpenFailed, kStreamClose,
    kStreamReadData, kStreamReadError, kStreamReadRecovery, kStreamEnded, kStreamLooped,
    kDecodeStarted, kDecodeStopped, kDecodePaused, kCreateDecoderSuccess, kCreateDecoderFailed,
    kDestoryDecoder, kDecodeFirstFrame, kDecodeError, kDecodeRecovery, kSeekStarted,
    kSeekSuccess, kSeekFailed, kRecordingStarted, kRecordingStopped, kRecordingError]

/-- The dispatcher of the event library: nodes in one memory, the ends of a list for every type
that ever had a listener. -/
structure SyncEventDispatcher (α : Type*) where
  nodes : Memory α
  allocated : ℕ
  eventCallbackListMap : EventType → Option Ends

variable {α : Type*}

namespace SyncEventDispatcher

/-- The list of a type; asking for it by subscript creates it. -/
def callbackList (d : SyncEventDispatcher α) (eventType : EventType) : Ends :=
  (d.eventCallbackListMap eventType).getD ⟨none, none⟩

def setCallbackList (d : SyncEventDispatcher α) (eventType : EventType) (ends : Ends) :
    EventType → Option Ends :=
  Function.update d.eventCallbackListMap eventType (some ends)

/-- Without a value the null tail of a list that has a head is written to. -/
def appendListener (d : SyncEventDispatcher α) (eventType : EventType) (callback : α) :
    Option (ℕ × SyncEventDispatcher α) :=
  match d.nodes.append (d.callbackList eventType) d.allocated callback with
  | none => none
  | some (nodes, ends) =>
    some (d.allocated, ⟨nodes, d.allocated + 1, d.setCallbackList eventType ends⟩)

def removeListener (d : SyncEventDispatcher α) (eventType : EventType) (node : ℕ) :
    Bool × SyncEventDispatcher α :=
  match d.eventCallbackListMap eventType, d.nodes node with
  | none, _ => (false, d)
  | some _, none => (false, d)
  | some ends, some c =>
    let (nodes, ends) := d.nodes.remove ends node c
    (true, ⟨nodes, d.allocated, d.setCallbackList eventType ends⟩)

/-- The callbacks that an event of the type invokes, in order. -/
def dispatch (d : SyncEventDispatcher α) (eventType : EventType) : Option (List α) :=
  match d.eventCallbackListMap eventType with
  | none => some []
  | some ends => d.nodes.walk d.allocated ends.head

end SyncEventDispatcher

structure EventDispatcher (α : Type*) where
  unifiedDispatcher : SyncEventDispatcher α
  handleMap : ℕ → Option ℕ
  incredNum : ℕ

namespace EventDispatcher

def initial : EventDispatcher α := ⟨⟨fun _ => none, 0, fun _ => none⟩, fun _ => none, 0⟩

def addEventListener (d : EventDispatcher α) (eventType : EventType) (callback : α) :
    Option (ℕ × EventDispatcher α) :=
  match d.unifiedDispatcher.appendListener eventType callback with
  | none => none
  | some (realHandle, unified) =>
    let handle := d.incredNum
    -- An insertion into the map does not replace what is there.
    some (handle, ⟨unified,
      Function.update d.handleMap handle (some ((d.handleMap handle).getD realHandle)),
      (d.incredNum + 1) % 2 ^ 64⟩)

def removeEventListener (d : EventDispatcher α) (eventType : EventType) (handle : ℕ) :
    Bool × EventDispatcher α :=
  match d.handleMap handle with
  | none => (false, d)
  | some realHandle =>
    let (removed, unified) := d.unifiedDispatcher.removeListener eventType realHandle
    (removed, ⟨unified, Function.update d.handleMap handle none, d.incredNum⟩)

/-- One listener for every type of the list. -/
def addListeners (callback : α) : List EventType → EventDispatcher α →
    Option (List (EventType × ℕ) × EventDispatcher α)
  | [], d => some ([], d)
  | eventType :: eventTypes, d =>
    match d.addEventListener eventType callback with
    | none => none
    | some (handle, d) =>
      (addListeners callback eventTypes d).map fun rest => ((eventType, handle) :: rest.1, rest.2)

def addGlobalEventListener (d : EventDispatcher α) (callback : α) :
    Option (List (EventType × ℕ) × EventDispatcher α) :=
  addListeners callback allEventTypes d

def removeGlobalEventListener (d : EventDispatcher α) (handle : List (EventType × ℕ)) :
    Bool × EventDispatcher α :=
  if handle.isEmpty then
    (false, d)
  else
    (true, handle.foldl (fun d pair => (d.removeEventListener pair.1 pair.2).2) d)

def dispatch (d : EventDispatcher α) (eventType : EventType) : Option (List α) :=
  d.unifiedDispatcher.dispatch eventType

/-- The same listeners are invoked, and the same removals succeed. -/
def SameListeners (d d' : EventDispatcher α) : Prop :=
  (∀ eventType, d'.dispatch eventType = d.dispatch eventType) ∧
    ∀ eventType handle, (d'.removeEventListener eventType handle).1 =
      (d.removeEventListener eventType handle).1

end EventDispatcher

structure Listener (α : Type*) where
  eventType : EventType
  handle : ℕ
  callback : α

inductive Request (α : Type*) where
  | addEventListener (eventType : EventType) (callback : α)
  | addGlobalEventListener (callback : α)
  | removeEventListener (eventType : EventType) (handle : ℕ)
  | removeGlobalEventListener (handle : List (EventType × ℕ))

/-- The dispatcher with what its callers may count on: the handles they were given, the
listeners they added and did not remove, and those whose removal was refused. -/
structure Registry (α : Type*) where
  dispatcher : EventDispatcher α
  handles : List ℕ
  registered : List (Listener α)
  refused : List (Listener α)
  crashed : Bool

namespace Registry

def initial : Registry α := ⟨.initial, [], [], [], false⟩

/-- The listener with a handle, if it listens to the type. -/
def named (eventType : EventType) (handle : ℕ) (l : Listener α) : Bool :=
  decide (l.eventType = eventType) && decide (l.handle = handle)

def listening (r : Registry α) (eventType : EventType) : List (Listener α) :=
  r.registered.filter fun l => decide (l.eventType = eventType)

def added (r : Registry α) (d : EventDispatcher α) (listeners : List (Listener α)) : Registry α :=
  { r with
    dispatcher := d
    handles := r.handles ++ listeners.map Listener.handle
    registered := r.registered ++ listeners }

def removeEventListener (r : Registry α) (eventType : EventType) (handle : ℕ) : Registry α :=
  let (removed, d) := r.dispatcher.removeEventListener eventType handle
  { r with
    dispatcher := d
    registered := r.registered.filter fun l => !named eventType handle l
    refused := r.refused ++ if removed then [] else r.registered.filter (named eventType handle) }

def removeListeners (r : Registry α) (handle : List (EventType × ℕ)) : Registry α :=
  handle.foldl (fun r pair => r.removeEventListener pair.1 pair.2) r

def perform (r : Registry α) : Request α → Registry α
  | .addEventListener eventType callback =>
    match r.dispatcher.addEventListener eventType callback with
    | none => { r with crashed := true }
    | some (handle, d) => r.added d [⟨eventType, handle, callback⟩]
  | .addGlobalEventListener callback =>
    match r.dispatcher.addGlobalEventListener callback with
    | none => { r with crashed := true }
    | some (handle, d) => r.added d (handle.map fun pair => ⟨pair.1, pair.2, callback⟩)
  | .removeEventListener eventType handle => r.removeEventListener eventType handle
  | .removeGlobalEventListener handle =>
    { r.removeListeners handle with
      dispatcher := (r.dispatcher.removeGlobalEventListener handle).2 }

def step (r : Registry α) (request : Request α) : Option (Registry α) := some (r.perform request)

/-- Handles are distinct, an event reaches the registered listeners of its type and no others,
and every registered listener can be removed. -/
structure Faithful (r : Registry α) : Prop where
  alive : r.crashed = false
  distinct : r.handles.Nodup
  invoked : ∀ eventType,
    r.dispatcher.dispatch eventType = some ((r.listening eventType).map Listener.callback)
  removable : ∀ l ∈ r.registered, (r.dispatcher.removeEventListener l.eventType l.handle).1 = true
  obeyed : r.refused = []

/-- A removal that is answered with false changes nothing. -/
def KeepsOnFailure (d : EventDispatcher α) : Request α → Prop
  | .removeEventListener eventType handle =>
    (d.removeEventListener eventType handle).1 = false →
      d.SameListeners (d.removeEventListener eventType handle).2
  | .removeGlobalEventListener handle =>
    (d.removeGlobalEventListener handle).1 = false →
      d.SameListeners (d.removeGlobalEventListener handle).2
  | _ => True

/-- A registered listener is only asked to be removed under its own type. -/
def OwnType (registered : List (Listener α)) (eventType : EventType) (handle : ℕ) : Prop :=
  ∀ l ∈ registered, l.handle = handle → l.eventType = eventType

def OwnTypes (registered : List (Listener α)) : List (EventType × ℕ) → Prop
  | [] => True
  | pair :: pairs => OwnType registered pair.1 pair.2 ∧
    OwnTypes (registered.filter fun l => !named pair.1 pair.2 l) pairs

/-- The requests under which the registry stays faithful. -/
def Proper (r : Registry α) : Request α → Prop
  | .addEventListener _ _ => r.handles.length < 2 ^ 64
  | .addGlobalEventListener _ => r.handles.length + allEventTypes.length ≤ 2 ^ 64
  | .removeEventListener eventType handle => OwnType r.registered eventType handle
  | .removeGlobalEventListener handle => OwnTypes r.registered handle

/-- Node numbers, handles and the order of the additions are the same thing; the map knows the
registered listeners, and the list of a type holds those of the type. -/
structure Consistent (r : Registry α) : Prop where
  alive : r.crashed = false
  obeyed : r.refused = []
  handles : r.handles = List.range r.dispatcher.unifiedDispatcher.allocated
  count : r.dispatcher.unifiedDispatcher.allocated ≤ 2 ^ 64
  incredNum : r.dispatcher.incredNum = r.dispatcher.unifiedDispatcher.allocated % 2 ^ 64
  distinct : (r.registered.map Listener.handle).Nodup
  known : ∀ l ∈ r.registered, l.handle < r.dispatcher.unifiedDispatcher.allocated
  handleMap : ∀ handle, r.dispatcher.handleMap handle =
    if handle ∈ r.registered.map Listener.handle then some handle else none
  list : ∀ eventType, Holds r.dispatcher.unifiedDispatcher.nodes
    (r.dispatcher.unifiedDispatcher.callbackList eventType)
    ((r.listening eventType).map Listener.handle)
  value : ∀ l ∈ r.registered,
    (r.dispatcher.unifiedDispatcher.nodes l.handle).map Cell.value = some l.callback

theorem consistent_initial : Consistent (initial : Registry α) where
  alive := rfl
  obeyed := rfl
  handles := rfl
  count := Nat.zero_le _
  incredNum := rfl
  distinct := List.nodup_nil
  known := by
    intro l hl
    cases hl
  handleMap := by
    intro handle
    rfl
  list := by
    intro eventType
    exact holds_nil _
  value := by
    intro l hl
    cases hl

theorem added_added (r : Registry α) (d d' : EventDispatcher α) (ls ls' : List (Listener α)) :
    (r.added d ls).added d' ls' = r.added d' (ls ++ ls') := by
  simp only [added, List.map_append, List.append_assoc]

namespace Consistent

variable {r : Registry α}

theorem mem_listening {l : Listener α} (hl : l ∈ r.registered) : l ∈ r.listening l.eventType := by
  simp [listening, hl]

/-- A registered listener's list exists. -/
theorem exists_list (h : Consistent r) {l : Listener α} (hl : l ∈ r.registered) :
    ∃ ends, r.dispatcher.unifiedDispatcher.eventCallbackListMap l.eventType = some ends := by
  cases hends : r.dispatcher.unifiedDispatcher.eventCallbackListMap l.eventType with
  | some ends => exact ⟨ends, rfl⟩
  | none =>
    have hhead := (h.list l.eventType).head
    rw [SyncEventDispatcher.callbackList, hends] at hhead
    have hnil := List.head?_eq_none_iff.mp hhead.symm
    have hmem := List.mem_map_of_mem (f := Listener.handle) (mem_listening hl)
    rw [hnil] at hmem
    cases hmem

theorem handleMap_of_mem (h : Consistent r) {l : Listener α} (hl : l ∈ r.registered) :
    r.dispatcher.handleMap l.handle = some l.handle := by
  rw [h.handleMap, if_pos (List.mem_map_of_mem hl)]

theorem length_listening (h : Consistent r) (eventType : EventType) :
    ((r.listening eventType).map Listener.handle).length ≤
      r.dispatcher.unifiedDispatcher.allocated := by
  have hsub : (r.listening eventType).map Listener.handle ⊆
      List.range r.dispatcher.unifiedDispatcher.allocated := by
    intro n hn
    rcases List.mem_map.mp hn with ⟨l, hl, rfl⟩
    rw [List.mem_range]
    exact h.known l (List.mem_of_mem_filter hl)
  have hle := ((h.list eventType).nodup.subperm hsub).length_le
  rwa [List.length_range] at hle

/-- An event reaches the registered listeners of its type. -/
theorem invoked (h : Consistent r) (eventType : EventType) :
    r.dispatcher.dispatch eventType = some ((r.listening eventType).map Listener.callback) := by
  have hlist := h.list eventType
  have hvalues : ((r.listening eventType).map Listener.handle).map
      (fun n => (r.dispatcher.unifiedDispatcher.nodes n).map Cell.value) =
      ((r.listening eventType).map Listener.callback).map some := by
    rw [List.map_map, List.map_map]
    apply List.map_congr_left
    intro l hl
    exact h.value l (List.mem_of_mem_filter hl)
  have hwalk := hlist.walk hvalues (h.length_listening eventType)
  rw [SyncEventDispatcher.callbackList] at hlist hwalk
  rw [EventDispatcher.dispatch, SyncEventDispatcher.dispatch]
  cases hends : r.dispatcher.unifiedDispatcher.eventCallbackListMap eventType with
  | some ends =>
    rw [hends] at hwalk
    exact hwalk
  | none =>
    rw [hends] at hlist
    have hnil := List.head?_eq_none_iff.mp hlist.head.symm
    rw [List.map_eq_nil_iff] at hnil
    rw [hnil]
    rfl

/-- The list of the listener's type gives its node up. -/
theorem removeListener (h : Consistent r) {l : Listener α} (hl : l ∈ r.registered) :
    ∃ ends c, r.dispatcher.unifiedDispatcher.eventCallbackListMap l.eventType = some ends ∧
      r.dispatcher.unifiedDispatcher.nodes l.handle = some c ∧
      r.dispatcher.removeEventListener l.eventType l.handle =
        (true, ⟨⟨(r.dispatcher.unifiedDispatcher.nodes.remove ends l.handle c).1,
            r.dispatcher.unifiedDispatcher.allocated,
            r.dispatcher.unifiedDispatcher.setCallbackList l.eventType
              (r.dispatcher.unifiedDispatcher.nodes.remove ends l.handle c).2⟩,
          Function.update r.dispatcher.handleMap l.handle none, r.dispatcher.incredNum⟩) := by
  rcases h.exists_list hl with ⟨ends, hends⟩
  rcases (h.list l.eventType).exists_cell (List.mem_map_of_mem (mem_listening hl))
    with ⟨c, hc, -⟩
  refine ⟨ends, c, hends, hc, ?_⟩
  rw [EventDispatcher.removeEventListener, h.handleMap_of_mem hl]
  simp only [SyncEventDispatcher.removeListener, hends, hc]

theorem faithful (h : Consistent r) : Faithful r where
  alive := h.alive
  distinct := by
    rw [h.handles]
    exact List.nodup_range
  invoked := h.invoked
  removable := by
    intro l hl
    rcases h.removeListener hl with ⟨ends, c, -, -, hremove⟩
    rw [hremove]
  obeyed := h.obeyed

/-- A handle that nobody is registered under is refused. -/
theorem removeEventListener_unknown (h : Consistent r) (eventType : EventType) {handle : ℕ}
    (hhandle : handle ∉ r.registered.map Listener.handle) :
    r.dispatcher.removeEventListener eventType handle = (false, r.dispatcher) := by
  rw [EventDispatcher.removeEventListener, h.handleMap, if_neg hhandle]

theorem remove_unknown (h : Consistent r) (eventType : EventType) {handle : ℕ}
    (hhandle : handle ∉ r.registered.map Listener.handle) :
    r.removeEventListener eventType handle = r := by
  have hnamed : ∀ l ∈ r.registered, named eventType handle l = false := by
    intro l hl
    have hne : l.handle ≠ handle := by
      rintro rfl
      exact hhandle (List.mem_map_of_mem hl)
    simp [named, hne]
  have hfilter : r.registered.filter (named eventType handle) = [] := by
    rw [List.filter_eq_nil_iff]
    intro l hl
    simp [hnamed l hl]
  have hkept : r.registered.filter (fun l => !named eventType handle l) = r.registered := by
    rw [List.filter_eq_self]
    intro l hl
    simp [hnamed l hl]
  simp only [removeEventListener, h.removeEventListener_unknown eventType hhandle, hfilter, hkept,
    Bool.false_eq_true, if_false, List.append_nil]

/-- A list without one of its members. -/
theorem filter_ne_of_split {list before after : List ℕ} {n : ℕ} (hnodup : list.Nodup)
    (hlist : list = before ++ n :: after) :
    list.filter (fun k => decide (k ≠ n)) = before ++ after := by
  subst hlist
  rw [List.nodup_append', List.nodup_cons] at hnodup
  rcases hnodup with ⟨-, ⟨hafter, -⟩, hdisjoint⟩
  rw [List.disjoint_cons_right] at hdisjoint
  have hfront : before.filter (fun k => decide (k ≠ n)) = before := by
    rw [List.filter_eq_self]
    intro k hk
    simp only [decide_eq_true_eq]
    rintro rfl
    exact hdisjoint.1 hk
  have hback : after.filter (fun k => decide (k ≠ n)) = after := by
    rw [List.filter_eq_self]
    intro k hk
    simp only [decide_eq_true_eq]
    rintro rfl
    exact hafter hk
  rw [List.filter_append, List.filter_cons, hfront, hback]
  simp

theorem eq_of_handle (h : Consistent r) {l l' : Listener α} (hl : l ∈ r.registered)
    (hl' : l' ∈ r.registered) (heq : l.handle = l'.handle) : l = l' :=
  List.inj_on_of_nodup_map h.distinct hl hl' heq

/-- No handle is in the lists of two types. -/
theorem not_listening_of_ne (h : Consistent r) {eventType t : EventType} (ht : t ≠ eventType)
    {n : ℕ} (hn : n ∈ (r.listening t).map Listener.handle) :
    n ∉ (r.listening eventType).map Listener.handle := by
  intro hn'
  rcases List.mem_map.mp hn with ⟨a, ha, rfl⟩
  rcases List.mem_map.mp hn' with ⟨b, hb, hab⟩
  simp only [listening, List.mem_filter, decide_eq_true_eq] at ha hb
  have hsame := h.eq_of_handle hb.1 ha.1 hab
  rw [hsame, ha.2] at hb
  exact ht hb.2

/-- The number of the next node is not the handle of a listener. -/
theorem allocated_not_registered (h : Consistent r) :
    r.dispatcher.unifiedDispatcher.allocated ∉ r.registered.map Listener.handle := by
  intro hmem
  rcases List.mem_map.mp hmem with ⟨l, hl, heq⟩
  exact (h.known l hl).ne heq

/-- Among the registered listeners, the handle alone tells which one is named. -/
theorem named_iff (h : Consistent r) {l l' : Listener α} (hl : l ∈ r.registered)
    (hl' : l' ∈ r.registered) :
    named l.eventType l.handle l' = decide (l'.handle = l.handle) := by
  by_cases heq : l'.handle = l.handle
  · have hsame := h.eq_of_handle hl' hl heq
    simp [named, hsame]
  · simp [named, heq]

theorem registered_remove (h : Consistent r) {l : Listener α} (hl : l ∈ r.registered) :
    r.registered.filter (fun l' => !named l.eventType l.handle l') =
      r.registered.filter fun l' => decide (l'.handle ≠ l.handle) := by
  apply List.filter_congr
  intro l' hl'
  rw [h.named_iff hl hl', decide_not]

/-- A listener leaves its list, and the others stay in theirs. -/
theorem list_remove (h : Consistent r) {l : Listener α} (hl : l ∈ r.registered) {ends : Ends}
    (hends : r.dispatcher.unifiedDispatcher.eventCallbackListMap l.eventType = some ends)
    {c : Cell α} (hc : r.dispatcher.unifiedDispatcher.nodes l.handle = some c)
    (eventType : EventType) :
    Holds (r.dispatcher.unifiedDispatcher.nodes.remove ends l.handle c).1
      ((r.dispatcher.unifiedDispatcher.setCallbackList l.eventType
        (r.dispatcher.unifiedDispatcher.nodes.remove ends l.handle c).2 eventType).getD
          ⟨none, none⟩)
      (((r.listening eventType).filter fun l' => decide (l'.handle ≠ l.handle)).map
        Listener.handle) := by
  have hown := h.list l.eventType
  rw [SyncEventDispatcher.callbackList, hends, Option.getD_some] at hown
  rcases List.append_of_mem (List.mem_map_of_mem (f := Listener.handle) (mem_listening hl))
    with ⟨before, after, hsplit⟩
  have hmap : ((r.listening eventType).filter fun l' => decide (l'.handle ≠ l.handle)).map
      Listener.handle = ((r.listening eventType).map Listener.handle).filter
        fun k => decide (k ≠ l.handle) := by
    rw [List.filter_map]
    rfl
  rw [hmap]
  by_cases ht : eventType = l.eventType
  · rw [ht, SyncEventDispatcher.setCallbackList, Function.update_self, Option.getD_some,
      filter_ne_of_split hown.nodup hsplit]
    rw [hsplit] at hown
    exact hown.remove hc
  · -- Another list: its cells are not touched by the removal.
    have hkeep : ((r.listening eventType).map Listener.handle).filter
        (fun k => decide (k ≠ l.handle)) = (r.listening eventType).map Listener.handle := by
      rw [List.filter_eq_self]
      intro k hk
      simp only [decide_eq_true_eq]
      rintro rfl
      exact h.not_listening_of_ne ht hk (List.mem_map_of_mem (mem_listening hl))
    rw [hkeep, SyncEventDispatcher.setCallbackList, Function.update_of_ne ht]
    apply (h.list eventType).congr
    intro n hn
    have hout := h.not_listening_of_ne ht hn
    rw [hsplit] at hown hout
    exact hown.remove_outside hc hout

/-- A registered listener is removed under its own type. -/
theorem remove_own (h : Consistent r) {l : Listener α} (hl : l ∈ r.registered) :
    Consistent (r.removeEventListener l.eventType l.handle) := by
  rcases h.removeListener hl with ⟨ends, c, hends, hc, hremove⟩
  have hregistered := h.registered_remove hl
  constructor
  · exact h.alive
  · simp [removeEventListener, hremove, h.obeyed]
  · simp [removeEventListener, hremove, h.handles]
  · simpa [removeEventListener, hremove] using h.count
  · simpa [removeEventListener, hremove] using h.incredNum
  · exact h.distinct.sublist (List.filter_sublist.map _)
  · intro l' hl'
    simpa [removeEventListener, hremove] using h.known l' (List.mem_of_mem_filter hl')
  · intro handle
    simp only [removeEventListener, hremove, hregistered]
    by_cases hhandle : handle = l.handle
    · rw [hhandle, Function.update_self, if_neg]
      simp
    · rw [Function.update_of_ne hhandle, h.handleMap]
      congr 1
      simp only [List.mem_map, List.mem_filter, decide_eq_true_eq, eq_iff_iff]
      constructor
      · rintro ⟨a, ha, rfl⟩
        exact ⟨a, ⟨ha, hhandle⟩, rfl⟩
      · rintro ⟨a, ha, rfl⟩
        exact ⟨a, ha.1, rfl⟩
  · intro eventType
    have hholds := h.list_remove hl hends hc eventType
    simp only [removeEventListener, hremove, SyncEventDispatcher.callbackList, listening,
      hregistered]
    rw [List.filter_comm]
    exact hholds
  · intro l' hl'
    simp only [removeEventListener, hremove]
    rw [Memory.remove_sameValue]
    exact h.value l' (List.mem_of_mem_filter hl')

/-- A removal under the right type, or of an unknown handle, keeps the dispatcher consistent. -/
theorem remove (h : Consistent r) {eventType : EventType} {handle : ℕ}
    (hown : OwnType r.registered eventType handle) :
    Consistent (r.removeEventListener eventType handle) := by
  by_cases hhandle : handle ∈ r.registered.map Listener.handle
  · rcases List.mem_map.mp hhandle with ⟨l, hl, rfl⟩
    rw [← hown l hl rfl]
    exact h.remove_own hl
  · rw [h.remove_unknown eventType hhandle]
    exact h

theorem removeListeners (h : Consistent r) {handle : List (EventType × ℕ)}
    (hown : OwnTypes r.registered handle) : Consistent (r.removeListeners handle) := by
  induction handle generalizing r with
  | nil => exact h
  | cons pair pairs ih => exact ih (h.remove hown.1) hown.2

/-- A listener goes behind those of its type. -/
theorem add (h : Consistent r) (eventType : EventType) (callback : α)
    (hcount : r.dispatcher.unifiedDispatcher.allocated < 2 ^ 64) :
    ∃ d, r.dispatcher.addEventListener eventType callback =
        some (r.dispatcher.unifiedDispatcher.allocated, d) ∧
      d.unifiedDispatcher.allocated = r.dispatcher.unifiedDispatcher.allocated + 1 ∧
      Consistent (r.added d
        [⟨eventType, r.dispatcher.unifiedDispatcher.allocated, callback⟩]) := by
  have hfresh : ∀ l ∈ r.registered, l.handle ≠ r.dispatcher.unifiedDispatcher.allocated :=
    fun l hl => (h.known l hl).ne
  have hnot := h.allocated_not_registered
  have hnew : ∀ eventType, r.dispatcher.unifiedDispatcher.allocated ∉
      (r.listening eventType).map Listener.handle := by
    intro eventType hmem
    rcases List.mem_map.mp hmem with ⟨l, hl, heq⟩
    exact hnot (List.mem_map.mpr ⟨l, List.mem_of_mem_filter hl, heq⟩)
  rcases (h.list eventType).append (hnew eventType) callback
    with ⟨nodes, ends, happend, hholds, houtside, hsame, c, hc, hvalue⟩
  have hhandle : r.dispatcher.incredNum = r.dispatcher.unifiedDispatcher.allocated := by
    rw [h.incredNum, Nat.mod_eq_of_lt hcount]
  refine ⟨⟨⟨nodes, r.dispatcher.unifiedDispatcher.allocated + 1,
    r.dispatcher.unifiedDispatcher.setCallbackList eventType ends⟩,
    Function.update r.dispatcher.handleMap r.dispatcher.unifiedDispatcher.allocated
      (some r.dispatcher.unifiedDispatcher.allocated),
    (r.dispatcher.unifiedDispatcher.allocated + 1) % 2 ^ 64⟩, ?_, rfl, ?_⟩
  · rw [EventDispatcher.addEventListener, SyncEventDispatcher.appendListener, happend]
    simp only [hhandle, h.handleMap, if_neg hnot, Option.getD_none]
  · constructor
    · exact h.alive
    · exact h.obeyed
    · simp only [added, h.handles, List.map_cons, List.map_nil, List.range_succ]
    · exact hcount
    · rfl
    · simp only [added, List.map_append, List.map_cons, List.map_nil]
      rw [List.nodup_append']
      exact ⟨h.distinct, List.nodup_singleton _, by simpa using hnot⟩
    · intro l hl
      simp only [added, List.mem_append, List.mem_singleton] at hl ⊢
      rcases hl with hl | rfl
      · exact (h.known l hl).trans (Nat.lt_succ_self _)
      · exact Nat.lt_succ_self _
    · intro handle
      simp only [added, List.map_append, List.map_cons, List.map_nil, List.mem_append,
        List.mem_singleton]
      by_cases heq : handle = r.dispatcher.unifiedDispatcher.allocated
      · rw [heq, Function.update_self, if_pos (Or.inr rfl)]
      · rw [Function.update_of_ne heq, h.handleMap]
        simp only [heq, or_false]
    · intro t
      simp only [added, listening, List.filter_append, SyncEventDispatcher.callbackList,
        SyncEventDispatcher.setCallbackList]
      by_cases ht : t = eventType
      · rw [ht, Function.update_self]
        simpa [listening] using hholds
      · rw [Function.update_of_ne ht]
        have hsameNodes : ∀ n ∈ (r.listening t).map Listener.handle,
            nodes n = r.dispatcher.unifiedDispatcher.nodes n := by
          intro n hn
          apply houtside n
          · exact h.not_listening_of_ne ht hn
          · rintro rfl
            exact hnew t hn
        have hother := (h.list t).congr hsameNodes
        simpa [listening, SyncEventDispatcher.callbackList, Ne.symm ht] using hother
    · intro l hl
      simp only [added, List.mem_append, List.mem_singleton] at hl ⊢
      rcases hl with hl | rfl
      · rw [hsame l.handle (hfresh l hl)]
        exact h.value l hl
      · rw [hc, Option.map_some, hvalue]

/-- A listener for each of the types, as long as there are numbers for them. -/
theorem addListeners (h : Consistent r) (callback : α) (eventTypes : List EventType)
    (hcount : r.dispatcher.unifiedDispatcher.allocated + eventTypes.length ≤ 2 ^ 64) :
    ∃ pairs d, EventDispatcher.addListeners callback eventTypes r.dispatcher = some (pairs, d) ∧
      Consistent (r.added d (pairs.map fun pair => ⟨pair.1, pair.2, callback⟩)) := by
  induction eventTypes generalizing r with
  | nil =>
    refine ⟨[], r.dispatcher, rfl, ?_⟩
    simpa [added] using h
  | cons eventType eventTypes ih =>
    rw [List.length_cons] at hcount
    rcases h.add eventType callback (by omega) with ⟨d, hadd, hallocated, hconsistent⟩
    have hrest : d.unifiedDispatcher.allocated + eventTypes.length ≤ 2 ^ 64 := by omega
    rcases ih hconsistent hrest with ⟨pairs, d', hpairs, hall⟩
    refine ⟨(eventType, r.dispatcher.unifiedDispatcher.allocated) :: pairs, d', ?_, ?_⟩
    · have hpairs' : EventDispatcher.addListeners callback eventTypes d = some (pairs, d') := hpairs
      simp only [EventDispatcher.addListeners, hadd, hpairs', Option.map_some]
    · rw [added_added] at hall
      exact hall

/-- When the numbers run out, the first one is given again. -/
theorem exhausted (h : Consistent r) {eventType : EventType} {callback : α} {handle : ℕ}
    {d : EventDispatcher α}
    (hadd : r.dispatcher.addEventListener eventType callback = some (handle, d))
    (hcount : ¬r.dispatcher.unifiedDispatcher.allocated < 2 ^ 64) : handle ∈ r.handles := by
  have hallocated : r.dispatcher.unifiedDispatcher.allocated = 2 ^ 64 :=
    le_antisymm h.count (not_lt.mp hcount)
  have hhandle : handle = r.dispatcher.incredNum := by
    rw [EventDispatcher.addEventListener] at hadd
    split at hadd
    · cases hadd
    · rw [Option.some.injEq, Prod.mk.injEq] at hadd
      exact hadd.1.symm
  rw [hhandle, h.incredNum, h.handles, hallocated, Nat.mod_self, List.mem_range]
  exact Nat.two_pow_pos 64

/-- Distinct handles show that there were numbers for all of them. -/
theorem count_of_nodup (h : Consistent r) {callback : α} {eventTypes : List EventType}
    {pairs : List (EventType × ℕ)} {d : EventDispatcher α}
    (hadd : EventDispatcher.addListeners callback eventTypes r.dispatcher = some (pairs, d))
    (hnodup : (r.handles ++ pairs.map Prod.snd).Nodup) :
    r.dispatcher.unifiedDispatcher.allocated + eventTypes.length ≤ 2 ^ 64 := by
  induction eventTypes generalizing r pairs with
  | nil => exact h.count
  | cons eventType eventTypes ih =>
    rw [EventDispatcher.addListeners] at hadd
    by_cases hcount : r.dispatcher.unifiedDispatcher.allocated < 2 ^ 64
    · rcases h.add eventType callback hcount with ⟨d', hadd', hallocated, hconsistent⟩
      simp only [hadd', Option.map_eq_some_iff, Prod.mk.injEq, Prod.exists] at hadd
      rcases hadd with ⟨rest, d'', hrest, rfl, rfl⟩
      have hle := ih hconsistent hrest (by simpa [added] using hnodup)
      simp only [added, hallocated] at hle
      rw [List.length_cons]
      omega
    · exfalso
      cases hfirst : r.dispatcher.addEventListener eventType callback with
      | none => simp [hfirst] at hadd
      | some first =>
        simp only [hfirst, Option.map_eq_some_iff, Prod.mk.injEq, Prod.exists] at hadd
        rcases hadd with ⟨rest, d'', -, rfl, -⟩
        rw [List.nodup_append'] at hnodup
        exact hnodup.2.2 (h.exhausted hfirst hcount) (by simp)

theorem length_handles (h : Consistent r) :
    r.handles.length = r.dispatcher.unifiedDispatcher.allocated := by
  rw [h.handles, List.length_range]

/-- The state after a listener has been added for each of the types. -/
theorem addListeners_iff (h : Consistent r) (callback : α) (eventTypes : List EventType)
    {r' : Registry α}
    (hr' : r' = match EventDispatcher.addListeners callback eventTypes r.dispatcher with
      | none => { r with crashed := true }
      | some (handle, d) => r.added d (handle.map fun pair => ⟨pair.1, pair.2, callback⟩)) :
    (Faithful r' ↔ r.handles.length + eventTypes.length ≤ 2 ^ 64) ∧
      (r.handles.length + eventTypes.length ≤ 2 ^ 64 → Consistent r') := by
  have hforward : r.handles.length + eventTypes.length ≤ 2 ^ 64 → Consistent r' := by
    intro hcount
    rw [h.length_handles] at hcount
    rcases h.addListeners callback eventTypes hcount with ⟨pairs, d, hadd, hconsistent⟩
    rw [hr', hadd]
    exact hconsistent
  refine ⟨⟨?_, fun hcount => (hforward hcount).faithful⟩, hforward⟩
  intro hfaithful
  cases hadd : EventDispatcher.addListeners callback eventTypes r.dispatcher with
  | none =>
    rw [hadd] at hr'
    have halive := hfaithful.alive
    rw [hr'] at halive
    cases halive
  | some result =>
    rw [hadd] at hr'
    have hdistinct := hfaithful.distinct
    rw [h.length_handles]
    apply h.count_of_nodup hadd
    rw [hr'] at hdistinct
    simpa [added, Function.comp_def] using hdistinct

end Consistent

/-- A removal was refused, or a registered listener can no longer be removed. -/
def Broken (r : Registry α) : Prop :=
  r.refused ≠ [] ∨ ∃ l ∈ r.registered, r.dispatcher.handleMap l.handle = none

namespace Broken

variable {r : Registry α}

theorem not_faithful (h : Broken r) : ¬Faithful r := by
  intro hfaithful
  rcases h with hrefused | ⟨l, hl, hnone⟩
  · exact hrefused hfaithful.obeyed
  · have hremovable := hfaithful.removable l hl
    rw [EventDispatcher.removeEventListener, hnone] at hremovable
    cases hremovable

/-- Further removals do not mend it. -/
theorem remove (h : Broken r) (eventType : EventType) (handle : ℕ) :
    Broken (r.removeEventListener eventType handle) := by
  rcases h with hrefused | ⟨l, hl, hnone⟩
  · left
    simp [removeEventListener, hrefused]
  · cases hnamed : named eventType handle l with
    | true =>
      left
      have hl' : l ∈ r.registered.filter (named eventType handle) :=
        List.mem_filter.mpr ⟨hl, hnamed⟩
      simp only [named, Bool.and_eq_true, decide_eq_true_eq] at hnamed
      rw [hnamed.2] at hnone
      have hremove : r.dispatcher.removeEventListener eventType handle =
          (false, r.dispatcher) := by
        rw [EventDispatcher.removeEventListener, hnone]
      simp only [removeEventListener, hremove, Bool.false_eq_true, if_false]
      exact List.append_ne_nil_of_right_ne_nil _ (List.ne_nil_of_mem hl')
    | false =>
      right
      refine ⟨l, List.mem_filter.mpr ⟨hl, by rw [hnamed]; rfl⟩, ?_⟩
      simp only [removeEventListener, EventDispatcher.removeEventListener]
      cases hmap : r.dispatcher.handleMap handle with
      | none => exact hnone
      | some node =>
        by_cases heq : l.handle = handle
        · rw [heq]
          exact Function.update_self _ _ _
        · exact (Function.update_of_ne heq _ _).trans hnone

theorem removeListeners (h : Broken r) (handle : List (EventType × ℕ)) :
    Broken (r.removeListeners handle) := by
  induction handle generalizing r with
  | nil => exact h
  | cons pair pairs ih => exact ih (h.remove pair.1 pair.2)

end Broken

namespace Consistent

variable {r : Registry α}

/-- Under another type the handle is forgotten while the listener is registered. -/
theorem remove_foreign (h : Consistent r) {eventType : EventType} {handle : ℕ}
    (hown : ¬OwnType r.registered eventType handle) :
    Broken (r.removeEventListener eventType handle) := by
  simp only [OwnType, not_forall] at hown
  rcases hown with ⟨l, hl, rfl, hne⟩
  right
  refine ⟨l, List.mem_filter.mpr ⟨hl, by simp [named, hne]⟩, ?_⟩
  simp only [removeEventListener, EventDispatcher.removeEventListener, h.handleMap_of_mem hl]
  exact Function.update_self _ _ _

theorem removeListeners_foreign (h : Consistent r) {handle : List (EventType × ℕ)}
    (hown : ¬OwnTypes r.registered handle) : Broken (r.removeListeners handle) := by
  induction handle generalizing r with
  | nil => exact absurd trivial hown
  | cons pair pairs ih =>
    by_cases hfirst : OwnType r.registered pair.1 pair.2
    · apply ih (h.remove hfirst)
      intro hrest
      exact hown ⟨hfirst, hrest⟩
    · exact (h.remove_foreign hfirst).removeListeners pairs

end Consistent

/-- Removing a global listener is removing its listeners. -/
theorem removeListeners_dispatcher (r : Registry α) (handle : List (EventType × ℕ)) :
    (r.dispatcher.removeGlobalEventListener handle).2 = (r.removeListeners handle).dispatcher := by
  have hfold : handle.foldl (fun d pair => (d.removeEventListener pair.1 pair.2).2) r.dispatcher =
      (r.removeListeners handle).dispatcher := by
    induction handle generalizing r with
    | nil => rfl
    | cons pair pairs ih => exact ih (r.removeEventListener pair.1 pair.2)
  rw [EventDispatcher.removeGlobalEventListener]
  cases handle with
  | nil => rfl
  | cons pair pairs => exact hfold

theorem perform_removeGlobal (r : Registry α) (handle : List (EventType × ℕ)) :
    r.perform (.removeGlobalEventListener handle) = r.removeListeners handle := by
  rw [perform, removeListeners_dispatcher]

theorem sameListeners_refl (d : EventDispatcher α) : d.SameListeners d :=
  ⟨fun _ => rfl, fun _ _ => rfl⟩

namespace Consistent

variable {r : Registry α}

theorem perform (h : Consistent r) {request : Request α} (hproper : r.Proper request) :
    Consistent (r.perform request) := by
  cases request with
  | addEventListener eventType callback =>
    rw [Proper, h.length_handles] at hproper
    rcases h.add eventType callback hproper with ⟨d, hadd, -, hconsistent⟩
    simp only [Registry.perform, hadd]
    exact hconsistent
  | addGlobalEventListener callback =>
    exact (h.addListeners_iff callback allEventTypes rfl).2 hproper
  | removeEventListener eventType handle => exact h.remove hproper
  | removeGlobalEventListener handle =>
    rw [perform_removeGlobal]
    exact h.removeListeners hproper

theorem keepsOnFailure (h : Consistent r) {request : Request α} (hproper : r.Proper request) :
    KeepsOnFailure r.dispatcher request := by
  cases request with
  | addEventListener eventType callback => trivial
  | addGlobalEventListener callback => trivial
  | removeEventListener eventType handle =>
    intro hfalse
    by_cases hhandle : handle ∈ r.registered.map Listener.handle
    · rcases List.mem_map.mp hhandle with ⟨l, hl, rfl⟩
      rw [← hproper l hl rfl, h.faithful.removable l hl] at hfalse
      cases hfalse
    · rw [h.removeEventListener_unknown eventType hhandle]
      exact sameListeners_refl _
  | removeGlobalEventListener handle =>
    intro hfalse
    cases handle with
    | nil => exact sameListeners_refl _
    | cons pair pairs => cases hfalse

theorem proper_of_faithful (h : Consistent r) {request : Request α}
    (hfaithful : Faithful (r.perform request)) : r.Proper request := by
  cases request with
  | addEventListener eventType callback =>
    have hsingle := (h.addListeners_iff callback [eventType] rfl).1
    have hsame : r.perform (.addEventListener eventType callback) =
        match EventDispatcher.addListeners callback [eventType] r.dispatcher with
        | none => { r with crashed := true }
        | some (handle, d) =>
          r.added d (handle.map fun pair => ⟨pair.1, pair.2, callback⟩) := by
      simp only [Registry.perform, EventDispatcher.addListeners]
      cases r.dispatcher.addEventListener eventType callback with
      | none => rfl
      | some result => rfl
    rw [hsame] at hfaithful
    exact hsingle.mp hfaithful
  | addGlobalEventListener callback =>
    exact (h.addListeners_iff callback allEventTypes rfl).1.mp hfaithful
  | removeEventListener eventType handle =>
    by_contra hown
    exact (h.remove_foreign hown).not_faithful hfaithful
  | removeGlobalEventListener handle =>
    rw [perform_removeGlobal] at hfaithful
    by_contra hown
    exact (h.removeListeners_foreign hown).not_faithful hfaithful

end Consistent

/-- The listeners are kept faithfully throughout a run exactly when no registered listener is
asked to be removed under another type and the handles do not run out. -/
theorem each_faithful_iff (requests : List (Request α)) :
    Each step (fun r request r' => Faithful r' ∧ KeepsOnFailure r.dispatcher request) initial
        requests ↔
      Each step (fun r request _ => r.Proper request) initial requests := by
  apply each_iff _ _ requests consistent_initial
  · intro r request r' hr hstep
    rw [step, Option.some.injEq] at hstep
    subst hstep
    constructor
    · rintro ⟨hfaithful, -⟩
      exact hr.proper_of_faithful hfaithful
    · intro hproper
      exact ⟨(hr.perform hproper).faithful, hr.keepsOnFailure hproper⟩
  · intro r request r' hr hproper hstep
    rw [step, Option.some.injEq] at hstep
    subst hstep
    exact hr.perform hproper

/-- A listener that was asked to be removed under another type stays, and the answer to the
removal under its own type is then false. -/
theorem not_each_faithful_other_type :
    ¬Each step (fun r request r' => Faithful r' ∧ KeepsOnFailure r.dispatcher request)
      (initial : Registry Unit)
      [.addEventListener .kStreamOpened (), .removeEventListener .kStreamClosed 0] := by
  intro h
  have hremovable := h.2.1.1.removable ⟨.kStreamOpened, 0, ()⟩ (List.mem_singleton_self _)
  revert hremovable
  decide

end Registry

end DecoderSDK.Events
