import DecoderSDK.Queues.FrameQueue
import DecoderSDK.Queues.PacketQueue
import DecoderSDK.Waiting.Monitor

/-! # Aborting wakes the users of a queue

The two queues as monitors. A call with an infinite timeout waits for its
predicate; the other calls only take the mutex. `FrameQueue::setAbortStatus`
compares and stores the flag before it takes the mutex to notify, and
`PacketQueue::abort` does all with the mutex. `FrameQueue::init` is `uninit`
followed by a second critical section, which is an operation of its own here.
-/
namespace DecoderSDK
open Interleaving Waiting

namespace FrameQueue

/-- The critical sections of a frame queue; `blocking` calls have an infinite timeout, the
others none. -/
inductive Call (π : Type*) where
  | push (f : Frame π) (ref blocking : Bool)
  | pop (blocking : Bool)
  | getWritableFrame (blocking : Bool)
  | commitFrame
  | clear
  | setMaxCount (maxCount : ℤ)
  | setKeepLast (keepLast : Bool)
  | setSerial (serial : ℕ)
  | uninit
  | allocate
  | setAbortStatus (abort : Bool)

variable {π : Type*}

/-- The tests that return before the mutex is taken. -/
def callTest : Call π → FrameQueue π → Bool
  | .clear, q => !(q.head = q.tail && q.size = 0)
  | .setMaxCount maxCount, _ => 0 < maxCount
  | .setAbortStatus abort, q => abort != q.aborted
  | _, _ => true

def callStore : Call π → FrameQueue π → FrameQueue π
  | .setAbortStatus abort, q => q.setAbortStatus abort
  | _, q => q

/-- Only an abort takes the mutex, its withdrawal does not. -/
def callLocks : Call π → Bool
  | .setAbortStatus abort => abort
  | _ => true

def callReady : Call π → FrameQueue π → Bool
  | .push _ _ true, q => q.hasSpace
  | .pop true, q => q.canPop || q.aborted
  | .getWritableFrame true, q => q.hasSpace
  | _, _ => true

def callBody : Call π → FrameQueue π → FrameQueue π
  | .push f ref _, q => (q.push f ref).2
  -- the queue that is left does not depend on the reference for a copy
  | .pop _, q => (q.pop true).2
  | .getWritableFrame _, q => q.getWritableFrame.2
  | .commitFrame, q => q.commitFrame
  | .clear, q => q.clear
  | .setMaxCount maxCount, q => (q.setMaxCount maxCount).2
  | .setKeepLast keepLast, q => q.setKeepLast keepLast
  | .setSerial serial, q => q.setSerial serial
  | .uninit, q => q.uninit
  | .allocate, q => q.allocate
  | .setAbortStatus _, q => q

/-- Undisturbed, the two critical sections of `init` are the operation of the queue. -/
theorem callBody_init (q : FrameQueue π) : callBody .allocate (callBody .uninit q) = q.init := by
  simp [callBody, allocate, uninit, init]

/-- Whether the critical section calls `notifyWaiters`. -/
def callNotifies : Call π → FrameQueue π → Bool
  | .push f ref _, q => (q.push f ref).1
  | .pop _, q => (q.pop true).2.size < q.size
  | .getWritableFrame _, _ => false
  | .commitFrame, _ => true
  | .clear, _ => true
  | .setMaxCount maxCount, q => maxCount ≠ q.maxSize
  | .setKeepLast _, _ => false
  | .setSerial _, _ => false
  | .uninit, q => !q.queue.isEmpty
  | .allocate, _ => false
  | .setAbortStatus _, _ => true

/-- The frame queue has one condition variable. -/
def operations (π : Type*) : Operations (FrameQueue π) (Call π) Unit where
  test := callTest
  store := callStore
  locks := callLocks
  condition := fun _ => ()
  ready := callReady
  body := callBody
  notifies := fun call q _ => if callNotifies call q then .all else .none

/-- The call aborts the queue. -/
def Call.aborts : Call π → Bool
  | .setAbortStatus abort => abort
  | _ => false

@[simp] theorem push_aborted (q : FrameQueue π) (f : Frame π) (ref : Bool) :
    (q.push f ref).2.aborted = q.aborted := by
  unfold push pushInternal append evict
  split_ifs <;> rfl

@[simp] theorem pop_aborted (q : FrameQueue π) (ref : Bool) :
    (q.pop ref).2.aborted = q.aborted := by
  unfold pop
  split_ifs <;> simp

@[simp] theorem getWritableFrame_aborted (q : FrameQueue π) :
    q.getWritableFrame.2.aborted = q.aborted := by
  unfold getWritableFrame
  split_ifs <;> rfl

@[simp] theorem clear_aborted (q : FrameQueue π) : q.clear.aborted = q.aborted := by
  unfold clear
  split_ifs <;> rfl

@[simp] theorem setMaxCount_aborted (q : FrameQueue π) (maxCount : ℤ) :
    (q.setMaxCount maxCount).2.aborted = q.aborted := by
  unfold setMaxCount
  split_ifs
  · rfl
  · rfl
  · exact (foldl_append_keeps (q.reallocate maxCount.toNat) _).2.2

/-- No critical section touches the abort flag. -/
theorem callBody_aborted (call : Call π) (q : FrameQueue π) :
    (callBody call q).aborted = q.aborted := by
  cases call <;> simp [callBody, commitFrame, setKeepLast, setSerial, uninit, allocate]

theorem alarmed : Monitor.Alarmed (operations π) FrameQueue.aborted Call.aborts where
  ready_of_flag := by
    intro call q haborted
    cases call with
    | push f ref blocking | pop blocking | getWritableFrame blocking =>
      cases blocking <;> simp [operations, callReady, hasSpace, haborted]
    | _ => rfl
  store_flag := by
    intro call q haborted
    cases call with
    | setAbortStatus abort => exact Or.inr ⟨haborted, haborted⟩
    | _ => exact Or.inl haborted
  body_flag := by
    intro call q haborted
    left
    rwa [operations, callBody_aborted] at haborted
  alarm_all := by
    intro call q halarm c
    cases call with
    | setAbortStatus abort => rfl
    | _ => simp [Call.aborts] at halarm

end FrameQueue

namespace PacketQueue

inductive Call where
  | push (pkt : Packet) (blocking : Bool)
  | pop (blocking : Bool)
  | front
  | flush
  | start
  | abort
  | setMaxPacketCount (maxCount : ℕ)

inductive Condition where
  | pushCond
  | popCond
  deriving DecidableEq

def callReady : Call → PacketQueue → Bool
  | .push _ true, q => q.canPush
  | .pop true, q => q.canPop
  | _, _ => true

def callBody : Call → PacketQueue → PacketQueue
  | .push pkt _, q => (q.push pkt).2
  | .pop _, q => q.pop.2
  | .front, q => q
  | .flush, q => q.flush
  | .start, q => q.start
  | .abort, q => q.abort
  | .setMaxPacketCount maxCount, q => (q.setMaxPacketCount maxCount).getD q

def callNotifies : Call → PacketQueue → Condition → Notification
  | .push pkt _, q, .popCond => if (q.push pkt).1 then .one else .none
  | .pop _, q, .pushCond => if q.pop.1.isSome then .one else .none
  | .flush, _, _ => .all
  | .start, _, _ => .all
  | .abort, _, _ => .all
  | .setMaxPacketCount _, _, .pushCond => .all
  | _, _, _ => .none

def operations : Operations PacketQueue Call Condition where
  test := fun call _ =>
    match call with
    | .setMaxPacketCount maxCount => maxCount ≠ 0
    | _ => true
  store := fun _ q => q
  locks := fun _ => true
  condition := fun call =>
    match call with
    | .pop _ => .popCond
    | _ => .pushCond
  ready := callReady
  body := callBody
  notifies := callNotifies

theorem alarmed : Monitor.Alarmed operations PacketQueue.aborted (fun _ => false) where
  ready_of_flag := by
    intro call q haborted
    cases call with
    | push pkt blocking | pop blocking =>
      cases blocking <;> simp [operations, callReady, canPush, canPop, haborted]
    | _ => rfl
  store_flag := fun _ _ haborted => Or.inl haborted
  body_flag := by
    intro call q haborted
    cases call with
    | push pkt blocking => exact Or.inl (by simpa [operations, callBody] using haborted)
    | pop blocking => exact Or.inl (by simpa [operations, callBody] using haborted)
    | front => exact Or.inl haborted
    | flush | start | abort => exact Or.inr fun _ => rfl
    | setMaxPacketCount maxCount =>
      simp only [operations, callBody, setMaxPacketCount] at haborted
      split_ifs at haborted <;> exact Or.inl haborted
  alarm_all := by simp

end PacketQueue

namespace Waiting.Monitor
variable {ι σ Op : Type*}

/-- The thread is parked on a condition variable. -/
def parked (m : Monitor ι σ Op) (i : ι) : Prop := ∃ op, m.thread i = .waiting op .parked

theorem asleep_of_parked {m : Monitor ι σ Op} {i : ι} (h : m.parked i) :
    (m.thread i).asleep = true := by
  rcases h with ⟨op, hi⟩
  rw [hi]
  rfl

end Waiting.Monitor

/-- In no state of any run is a queue aborted while a thread is parked and the aborting thread
has sent its notification. A frame queue that is aborted with a thread parked has a thread
behind the store and before the notification of `setAbortStatus`; a packet queue that is
aborted has no thread parked. -/
theorem abort_wakes {ι π : Type*} [DecidableEq ι] :
    (∀ (q : FrameQueue π) (actions : List (Waiting.Action ι (FrameQueue.Call π) Unit)),
      Each (Monitor.step (FrameQueue.operations π)) (fun _ _ m => m.state.aborted = true →
        ∀ i, m.parked i → ∃ j, (m.thread j).committed FrameQueue.Call.aborts = true)
        (Monitor.new q) actions) ∧
    ∀ (q : PacketQueue)
      (actions : List (Waiting.Action ι PacketQueue.Call PacketQueue.Condition)),
      Each (Monitor.step PacketQueue.operations) (fun _ _ m => m.state.aborted = true →
        ∀ i, ¬m.parked i) (Monitor.new q) actions := by
  refine ⟨fun q actions => ?_, fun q actions => ?_⟩
  · refine (Monitor.each_attended FrameQueue.alarmed q actions).mono fun _ _ m h haborted i hi => ?_
    exact h haborted i (Monitor.asleep_of_parked hi)
  · refine (Monitor.each_attended PacketQueue.alarmed q actions).mono fun _ _ m h haborted i hi => ?_
    obtain ⟨j, hj⟩ := h haborted i (Monitor.asleep_of_parked hi)
    cases hthread : m.thread j <;> simp [hthread, Pc.committed] at hj

end DecoderSDK
