import DecoderSDK.Interleaving.Runs
import DecoderSDK.Queues.PacketQueue

/-! # The packet queue as a bounded queue with exact totals

The operations of the packet queue run under its mutex, so the calls of any
number of threads are one list of operations. A call with a negative timeout
waits for its predicate and is disabled until then. The log keeps what was
pushed and popped since the last flush.
-/
namespace DecoderSDK.PacketQueue
open Interleaving

inductive Operation where
  | push (pkt : Packet) (timeoutMs : ℤ)
  | pop (timeoutMs : ℤ)
  | tryPop
  | front
  | flush
  | start
  | abort
  | setMaxPacketCount (maxCount : ℕ)

/-- The operation begins a new log. -/
def Operation.flushes : Operation → Bool
  | .flush => true
  | _ => false

/-- The operation begins a new generation. -/
def Operation.advances : Operation → Bool
  | .flush => true
  | .start => true
  | _ => false

/-- Only `abort` closes the queue, and only `start` opens it again. -/
def Operation.leavesAborted (aborted : Bool) : Operation → Bool
  | .abort => true
  | .start => false
  | _ => aborted

/-- What an operation returns. A successful push is known by the copy it has queued. -/
inductive Result where
  | done
  | pushed (pkt : Option Packet)
  | popped (pkt : Option Packet)
  | seen (pkt : Option Packet)
  | invalidArgument
  deriving DecidableEq

/-- The packet that the operation has put into the queue. -/
def Result.entered : Result → List Packet
  | .pushed pkt => pkt.toList
  | _ => []

/-- The packet that the operation has taken from the queue. -/
def Result.left : Result → List Packet
  | .popped pkt => pkt.toList
  | _ => []

def execute (q : PacketQueue) : Operation → Option (Result × PacketQueue)
  | .push pkt timeoutMs =>
    if timeoutMs < 0 ∧ q.canPush = false then none
    else some (.pushed (if (q.push pkt).1 then some pkt.copy else none), (q.push pkt).2)
  | .pop timeoutMs =>
    if timeoutMs < 0 ∧ q.canPop = false then none else some (.popped q.pop.1, q.pop.2)
  | .tryPop => some (.popped q.tryPop.1, q.tryPop.2)
  | .front => some (.seen q.front, q)
  | .flush => some (.done, q.flush)
  | .start => some (.done, q.start)
  | .abort => some (.done, q.abort)
  | .setMaxPacketCount maxCount =>
    some ((q.setMaxPacketCount maxCount).elim (.invalidArgument, q) fun q' => (.done, q'))

/-- A packet queue with the log of its packets since the last flush. -/
structure Logged where
  queue : PacketQueue
  pushed : List Packet
  popped : List Packet
  /-- What the last operation has returned. -/
  result : Result

/-- The log after an operation. -/
def Logged.record (s : Logged) (op : Operation) (r : Result × PacketQueue) : Logged where
  queue := r.2
  pushed := if op.flushes then [] else s.pushed ++ r.1.entered
  popped := if op.flushes then [] else s.popped ++ r.1.left
  result := r.1

def Logged.step (s : Logged) (op : Operation) : Option Logged :=
  (s.queue.execute op).map (s.record op)

def Logged.new (maxPacketCount : ℤ) : Logged := ⟨.new maxPacketCount, [], [], .done⟩

/-- The sum of the sizes as the counter holds it. -/
def totalSize (pkts : List Packet) : ℕ := (pkts.map Packet.size).sum % 2 ^ 64

/-- The sum of the durations as the counter holds it. -/
def totalDuration (pkts : List Packet) : ℤ := ((pkts.map Packet.duration).sum).bmod (2 ^ 64)

theorem size_updateStatisticsOnPush (q : PacketQueue) (pkt : Packet) (pkts : List Packet)
    (h : q.size = totalSize pkts) :
    (q.updateStatisticsOnPush pkt).size = totalSize (pkts ++ [pkt.copy]) := by
  have hsum : totalSize (pkts ++ [pkt.copy]) = (totalSize pkts + pkt.size) % 2 ^ 64 := by
    simp [totalSize]
  rw [hsum, updateStatisticsOnPush]
  split_ifs with hvalid
  · rw [h]
  · rw [(Packet.size_eq_zero (by simpa using hvalid)).1, h]
    simp [totalSize]

theorem duration_updateStatisticsOnPush (q : PacketQueue) (pkt : Packet) (pkts : List Packet)
    (h : q.duration = totalDuration pkts) :
    (q.updateStatisticsOnPush pkt).duration = totalDuration (pkts ++ [pkt.copy]) := by
  have hsum : totalDuration (pkts ++ [pkt.copy]) =
      (totalDuration pkts + pkt.duration).bmod (2 ^ 64) := by
    simp [totalDuration]
  rw [hsum, updateStatisticsOnPush]
  split_ifs with hvalid
  · rw [h]
  · rw [(Packet.size_eq_zero (by simpa using hvalid)).2, h]
    simp [totalDuration]

theorem size_updateStatisticsOnPop (q : PacketQueue) (pkt : Packet) (pkts : List Packet)
    (h : q.size = totalSize (pkt :: pkts)) :
    (q.updateStatisticsOnPop pkt).size = totalSize pkts := by
  have hlt := pkt.size_lt
  simp only [totalSize, List.map_cons, List.sum_cons] at h ⊢
  unfold updateStatisticsOnPop
  split_ifs with hvalid
  · simp only [h]
    omega
  · rw [h, (Packet.size_eq_zero (by simpa using hvalid)).1, Nat.zero_add]

theorem duration_updateStatisticsOnPop (q : PacketQueue) (pkt : Packet) (pkts : List Packet)
    (h : q.duration = totalDuration (pkt :: pkts)) :
    (q.updateStatisticsOnPop pkt).duration = totalDuration pkts := by
  simp only [totalDuration, List.map_cons, List.sum_cons] at h ⊢
  unfold updateStatisticsOnPop
  split_ifs with hvalid
  · simp only [h, sub_eq_add_neg, Int.bmod_add_bmod]
    congr 1
    ring
  · rw [h, (Packet.size_eq_zero (by simpa using hvalid)).2, Int.zero_add]

/-- The queue holds what was pushed and not yet popped since the last flush, in order, and its
totals are those of what it holds. -/
structure Exact (s : Logged) : Prop where
  fifo : s.pushed = s.popped ++ s.queue.queue
  size_eq : s.queue.size = totalSize s.queue.queue
  duration_eq : s.queue.duration = totalDuration s.queue.queue

theorem exact_new (maxPacketCount : ℤ) : Exact (.new maxPacketCount) := ⟨rfl, rfl, rfl⟩

/-- Everything an operation can do to the queue. -/
inductive Change (q : PacketQueue) (op : Operation) : Result → PacketQueue → Prop where
  | entered (pkt : Packet) (hop : op.flushes = false ∧ op.advances = false)
      (haborted : q.aborted = false) (hspace : q.queue.length < q.maxPacketCount) :
      Change q op (.pushed (some pkt.copy))
        (updateStatisticsOnPush { q with queue := q.queue ++ [pkt.copy] } pkt)
  | left (pkt : Packet) (rest : List Packet) (hop : op.flushes = false ∧ op.advances = false)
      (hqueue : q.queue = pkt :: rest) :
      Change q op (.popped (some pkt)) (updateStatisticsOnPop { q with queue := rest } pkt)
  | empty (hop : op.flushes = false ∧ op.advances = false) (hqueue : q.queue = []) :
      Change q op (.popped none) q
  | flushed (hop : op = .flush) : Change q op .done q.flush
  | other {r : Result} {q' : PacketQueue} (hop : op.flushes = false)
      (hr : r.entered = [] ∧ r.left = [] ∧ ∀ pkt, r ≠ .popped pkt) (hqueue : q'.queue = q.queue)
      (htotals : q'.size = q.size ∧ q'.duration = q.duration)
      (hserial : q'.serial = q.serial + if op.advances then 1 else 0) : Change q op r q'

theorem change_pop (q : PacketQueue) {op : Operation}
    (hop : op.flushes = false ∧ op.advances = false) : Change q op (.popped q.pop.1) q.pop.2 := by
  rcases pop_cases q with ⟨hqueue, h⟩ | ⟨pkt, rest, hqueue, h⟩
  · rw [h]
    exact .empty hop hqueue
  · rw [h]
    exact .left pkt rest hop hqueue

theorem execute_change {q q' : PacketQueue} {op : Operation} {r : Result}
    (h : q.execute op = some (r, q')) : Change q op r q' := by
  cases op with
  | push pkt timeoutMs =>
    simp only [execute, Option.ite_none_left_eq_some, Option.some.injEq, Prod.mk.injEq] at h
    rcases h with ⟨_, rfl, rfl⟩
    rcases push_cases q pkt with h | ⟨haborted, hspace, h⟩
    · rw [h]
      exact .other rfl ⟨rfl, rfl, by simp⟩ rfl ⟨rfl, rfl⟩ rfl
    · rw [h]
      exact .entered pkt ⟨rfl, rfl⟩ haborted hspace
  | pop timeoutMs =>
    simp only [execute, Option.ite_none_left_eq_some, Option.some.injEq, Prod.mk.injEq] at h
    rcases h with ⟨_, rfl, rfl⟩
    exact change_pop q ⟨rfl, rfl⟩
  | tryPop =>
    simp only [execute, Option.some.injEq, Prod.mk.injEq] at h
    rcases h with ⟨rfl, rfl⟩
    exact change_pop q ⟨rfl, rfl⟩
  | flush =>
    simp only [execute, Option.some.injEq, Prod.mk.injEq] at h
    rcases h with ⟨rfl, rfl⟩
    exact .flushed rfl
  | front | start | abort =>
    simp only [execute, Option.some.injEq, Prod.mk.injEq] at h
    rcases h with ⟨rfl, rfl⟩
    exact .other rfl ⟨rfl, rfl, by simp⟩ rfl ⟨rfl, rfl⟩ rfl
  | setMaxPacketCount maxCount =>
    simp only [execute, setMaxPacketCount, Option.some.injEq] at h
    split_ifs at h <;> simp only [Option.elim_none, Option.elim_some, Prod.mk.injEq] at h <;>
      rcases h with ⟨rfl, rfl⟩ <;> exact .other rfl ⟨rfl, rfl, by simp⟩ rfl ⟨rfl, rfl⟩ rfl

theorem execute_aborted {q q' : PacketQueue} {op : Operation} {r : Result}
    (h : q.execute op = some (r, q')) : q'.aborted = op.leavesAborted q.aborted := by
  cases op with
  | push pkt timeoutMs | pop timeoutMs =>
    simp only [execute, Option.ite_none_left_eq_some, Option.some.injEq, Prod.mk.injEq] at h
    rw [← h.2.2]
    simp [Operation.leavesAborted]
  | tryPop =>
    simp only [execute, Option.some.injEq, Prod.mk.injEq] at h
    rw [← h.2]
    exact pop_aborted q
  | front | flush | start | abort =>
    simp only [execute, Option.some.injEq, Prod.mk.injEq] at h
    rw [← h.2]
    rfl
  | setMaxPacketCount maxCount =>
    simp only [execute, setMaxPacketCount, Option.some.injEq] at h
    split_ifs at h <;> simp only [Option.elim_none, Option.elim_some, Prod.mk.injEq] at h <;>
      rw [← h.2] <;> rfl

theorem Exact.record {s : Logged} (hs : Exact s) {op : Operation} {r : Result} {q : PacketQueue}
    (h : Change s.queue op r q) : Exact (s.record op (r, q)) := by
  cases h with
  | entered pkt hop =>
    refine ⟨?_, ?_, ?_⟩
    · simp [Logged.record, hop.1, Result.entered, Result.left, hs.fifo]
    · simp only [Logged.record, updateStatisticsOnPush_queue]
      exact size_updateStatisticsOnPush _ pkt s.queue.queue hs.size_eq
    · simp only [Logged.record, updateStatisticsOnPush_queue]
      exact duration_updateStatisticsOnPush _ pkt s.queue.queue hs.duration_eq
  | left pkt rest hop hqueue =>
    have hsize := hs.size_eq
    have hduration := hs.duration_eq
    rw [hqueue] at hsize hduration
    refine ⟨?_, ?_, ?_⟩
    · simp [Logged.record, hop.1, Result.entered, Result.left, hs.fifo, hqueue]
    · simp only [Logged.record, updateStatisticsOnPop_queue]
      exact size_updateStatisticsOnPop _ pkt rest hsize
    · simp only [Logged.record, updateStatisticsOnPop_queue]
      exact duration_updateStatisticsOnPop _ pkt rest hduration
  | empty hop hqueue =>
    refine ⟨?_, hs.size_eq, hs.duration_eq⟩
    simp [Logged.record, hop.1, Result.entered, Result.left, hs.fifo]
  | flushed hop =>
    subst hop
    exact ⟨rfl, rfl, rfl⟩
  | other hop hr hqueue htotals =>
    refine ⟨?_, ?_, ?_⟩
    · simp [Logged.record, hop, hr.1, hr.2.1, hqueue, hs.fifo]
    · simp only [Logged.record, hqueue, htotals.1, hs.size_eq]
    · simp only [Logged.record, hqueue, htotals.2, hs.duration_eq]

/-- What every operation guarantees: the queue stays exact, a push below the capacity of a queue
that is not aborted is the only one that succeeds, a pop takes the front of a queue that holds
something, aborted or not, and nothing of an empty one, the serial counts `flush` and `start`,
and the queue is aborted from an `abort` to the next `start`. -/
structure Accounts (s : Logged) (op : Operation) (s' : Logged) : Prop where
  exact_after : Exact s'
  push_bounded : ∀ pkt, s'.result = .pushed (some pkt) →
    s.queue.aborted = false ∧ s'.queue.queue.length ≤ s.queue.maxPacketCount
  pop_front : ∀ pkt, s'.result = .popped pkt →
    pkt = s.queue.queue.head? ∧ s'.queue.queue = s.queue.queue.tail
  pop_drains : ∀ timeoutMs pkt rest, s'.queue.queue = pkt :: rest →
    ∃ q, s'.queue.execute (.pop timeoutMs) = some (.popped (some pkt), q)
  serial_eq : s'.queue.serial = s.queue.serial + if op.advances then 1 else 0
  aborted_eq : s'.queue.aborted = op.leavesAborted s.queue.aborted

theorem execute_pop_cons {q : PacketQueue} {pkt : Packet} {rest : List Packet}
    (hqueue : q.queue = pkt :: rest) (timeoutMs : ℤ) :
    ∃ q', q.execute (.pop timeoutMs) = some (.popped (some pkt), q') := by
  have hpop : q.canPop = true := by simp [canPop, hqueue]
  rcases pop_cases q with ⟨hnil, _⟩ | ⟨_, _, hcons, h⟩
  · simp [hqueue] at hnil
  · rw [hqueue, List.cons.injEq] at hcons
    rw [← hcons.1] at h
    exact ⟨q.pop.2, by simp [execute, hpop, h]⟩

theorem accounts_record {s : Logged} (hs : Exact s) {op : Operation} {r : Result} {q : PacketQueue}
    (hexecute : s.queue.execute op = some (r, q)) : Accounts s op (s.record op (r, q)) := by
  have h := execute_change hexecute
  refine ⟨hs.record h, fun pkt hr => ?_, fun pkt hr => ?_,
    fun timeoutMs _ _ hqueue => execute_pop_cons hqueue timeoutMs, ?_, execute_aborted hexecute⟩
  · simp only [Logged.record] at hr ⊢
    cases h with
    | entered pkt hop haborted hspace =>
      refine ⟨haborted, ?_⟩
      rw [updateStatisticsOnPush_queue, List.length_append]
      exact hspace
    | other hop hentered =>
      have hnil := hentered.1
      simp [hr, Result.entered] at hnil
    | left | empty | flushed => simp at hr
  · simp only [Logged.record] at hr ⊢
    cases h with
    | left pkt rest hop hqueue =>
      simp only [Result.popped.injEq] at hr
      simp [hqueue, ← hr]
    | empty hop hqueue =>
      simp only [Result.popped.injEq] at hr
      simp [hqueue, ← hr]
    | other hop hentered => exact absurd hr (hentered.2.2 pkt)
    | entered | flushed => simp at hr
  · simp only [Logged.record]
    cases h with
    | entered pkt hop | left pkt rest hop | empty hop => simp [hop.2]
    | flushed hop => simp [hop, Operation.advances]
    | other hop hr hqueue htotals hserial => exact hserial

/-- The packet queue is a bounded first-in first-out queue with exact totals, whatever threads
call its operations in whatever order. -/
theorem packetQueue_accounts (maxPacketCount : ℤ) (ops : List Operation) :
    Each Logged.step Accounts (.new maxPacketCount) ops := by
  refine Each.of_invariant (fun s op s' hs _ hstep => ?_) (exact_new maxPacketCount)
    (each_true _ ops)
  rcases Option.map_eq_some_iff.mp hstep with ⟨⟨r, q⟩, hexecute, rfl⟩
  have haccounts := accounts_record hs hexecute
  exact ⟨haccounts.exact_after, haccounts⟩

end DecoderSDK.PacketQueue
