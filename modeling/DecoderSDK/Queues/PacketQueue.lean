import DecoderSDK.Base.Packet

/-! # The packet queue

A bounded first-in first-out queue behind one mutex, with running totals of
bytes and duration and the serial of the current stream generation. `push`
and `pop` describe the moment their wait is over: a `push` that would still
have to wait, or whose time is up, changes nothing. The serial counts the
generations; the `int` of the code is this number modulo `2 ^ 32`.
-/
namespace DecoderSDK

structure PacketQueue where
  queue : List Packet
  aborted : Bool
  serial : ℕ
  maxPacketCount : ℕ
  size : ℕ
  duration : ℤ
  deriving DecidableEq

namespace PacketQueue

def new (maxPacketCount : ℤ) : PacketQueue := ⟨[], false, 0, (max 1 maxPacketCount).toNat, 0, 0⟩

def canPush (q : PacketQueue) : Bool := q.aborted || q.queue.length < q.maxPacketCount

def canPop (q : PacketQueue) : Bool := q.aborted || !q.queue.isEmpty

def updateStatisticsOnPush (q : PacketQueue) (pkt : Packet) : PacketQueue :=
  if pkt.isValid then
    { q with size := (q.size + pkt.size) % 2 ^ 64
             duration := (q.duration + pkt.duration).bmod (2 ^ 64) }
  else q

def updateStatisticsOnPop (q : PacketQueue) (pkt : Packet) : PacketQueue :=
  if pkt.isValid then
    { q with size := (q.size + 2 ^ 64 - pkt.size) % 2 ^ 64
             duration := (q.duration - pkt.duration).bmod (2 ^ 64) }
  else q

def push (q : PacketQueue) (pkt : Packet) : Bool × PacketQueue :=
  if !q.canPush then (false, q)
  else if q.aborted then (false, q)
  else (true, updateStatisticsOnPush { q with queue := q.queue ++ [pkt.copy] } pkt)

def pop (q : PacketQueue) : Option Packet × PacketQueue :=
  if !q.canPop then (none, q)
  else match q.queue with
    | [] => (none, q)
    | pkt :: rest => (some pkt, updateStatisticsOnPop { q with queue := rest } pkt)

def tryPop (q : PacketQueue) : Option Packet × PacketQueue := q.pop

def front (q : PacketQueue) : Option Packet := q.queue.head?.map Packet.copy

def flush (q : PacketQueue) : PacketQueue :=
  { q with queue := [], size := 0, duration := 0, serial := q.serial + 1 }

def start (q : PacketQueue) : PacketQueue := { q with aborted := false, serial := q.serial + 1 }

def abort (q : PacketQueue) : PacketQueue := { q with aborted := true }

/-- A capacity of zero is an invalid argument. -/
def setMaxPacketCount (q : PacketQueue) (maxCount : ℕ) : Option PacketQueue :=
  if maxCount = 0 then none else some { q with maxPacketCount := maxCount }

def isEmpty (q : PacketQueue) : Bool := q.queue.isEmpty

/-- The totals are kept apart from the rest of the queue. -/
@[simp] theorem updateStatisticsOnPush_queue (q : PacketQueue) (pkt : Packet) :
    (q.updateStatisticsOnPush pkt).queue = q.queue := by
  unfold updateStatisticsOnPush
  split_ifs <;> rfl

@[simp] theorem updateStatisticsOnPush_serial (q : PacketQueue) (pkt : Packet) :
    (q.updateStatisticsOnPush pkt).serial = q.serial := by
  unfold updateStatisticsOnPush
  split_ifs <;> rfl

@[simp] theorem updateStatisticsOnPush_aborted (q : PacketQueue) (pkt : Packet) :
    (q.updateStatisticsOnPush pkt).aborted = q.aborted := by
  unfold updateStatisticsOnPush
  split_ifs <;> rfl

@[simp] theorem updateStatisticsOnPop_aborted (q : PacketQueue) (pkt : Packet) :
    (q.updateStatisticsOnPop pkt).aborted = q.aborted := by
  unfold updateStatisticsOnPop
  split_ifs <;> rfl

@[simp] theorem updateStatisticsOnPop_queue (q : PacketQueue) (pkt : Packet) :
    (q.updateStatisticsOnPop pkt).queue = q.queue := by
  unfold updateStatisticsOnPop
  split_ifs <;> rfl

@[simp] theorem updateStatisticsOnPop_serial (q : PacketQueue) (pkt : Packet) :
    (q.updateStatisticsOnPop pkt).serial = q.serial := by
  unfold updateStatisticsOnPop
  split_ifs <;> rfl

@[simp] theorem updateStatisticsOnPush_maxPacketCount (q : PacketQueue) (pkt : Packet) :
    (q.updateStatisticsOnPush pkt).maxPacketCount = q.maxPacketCount := by
  unfold updateStatisticsOnPush
  split_ifs <;> rfl

@[simp] theorem updateStatisticsOnPop_maxPacketCount (q : PacketQueue) (pkt : Packet) :
    (q.updateStatisticsOnPop pkt).maxPacketCount = q.maxPacketCount := by
  unfold updateStatisticsOnPop
  split_ifs <;> rfl

/-- What a push does: nothing, or it appends a copy below the capacity. -/
theorem push_cases (q : PacketQueue) (pkt : Packet) :
    q.push pkt = (false, q) ∨
      q.aborted = false ∧ q.queue.length < q.maxPacketCount ∧
        q.push pkt = (true, updateStatisticsOnPush { q with queue := q.queue ++ [pkt.copy] } pkt) := by
  unfold push
  split_ifs with hpush haborted
  · exact Or.inl rfl
  · exact Or.inl rfl
  · right
    simp only [canPush, haborted, Bool.false_or, Bool.not_eq_true', decide_eq_false_iff_not,
      not_not] at hpush
    exact ⟨by simpa using haborted, hpush, rfl⟩

/-- What a pop does: nothing on an empty queue, or it takes the front. -/
theorem pop_cases (q : PacketQueue) :
    q.queue = [] ∧ q.pop = (none, q) ∨
      ∃ pkt rest, q.queue = pkt :: rest ∧
        q.pop = (some pkt, updateStatisticsOnPop { q with queue := rest } pkt) := by
  unfold pop
  cases hqueue : q.queue with
  | nil => simp
  | cons pkt rest => simp [canPop, hqueue]

@[simp] theorem push_serial (q : PacketQueue) (pkt : Packet) : (q.push pkt).2.serial = q.serial := by
  rcases push_cases q pkt with h | ⟨_, _, h⟩ <;> simp [h]

@[simp] theorem push_aborted (q : PacketQueue) (pkt : Packet) :
    (q.push pkt).2.aborted = q.aborted := by
  rcases push_cases q pkt with h | ⟨_, _, h⟩ <;> simp [h]

@[simp] theorem pop_aborted (q : PacketQueue) : q.pop.2.aborted = q.aborted := by
  rcases pop_cases q with ⟨_, h⟩ | ⟨pkt, rest, _, h⟩ <;> simp [h]

@[simp] theorem flush_serial (q : PacketQueue) : q.flush.serial = q.serial + 1 := rfl

@[simp] theorem start_serial (q : PacketQueue) : q.start.serial = q.serial + 1 := rfl

@[simp] theorem pop_serial (q : PacketQueue) : q.pop.2.serial = q.serial := by
  rcases pop_cases q with ⟨_, h⟩ | ⟨pkt, rest, _, h⟩ <;> simp [h]

/-- Only a queue that holds a packet gives one. -/
theorem queue_ne_nil_of_pop {q : PacketQueue} {pkt : Packet} (h : q.pop.1 = some pkt) :
    q.queue ≠ [] := by
  rcases pop_cases q with ⟨_, hpop⟩ | ⟨_, _, hqueue, _⟩
  · simp [hpop] at h
  · simp [hqueue]

end PacketQueue

end DecoderSDK
