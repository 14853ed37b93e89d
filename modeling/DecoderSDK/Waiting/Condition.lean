import Mathlib.Tactic

/-! # Waiting on a condition variable

A thread in `wait(lock, predicate)` takes the mutex, evaluates the predicate,
and parks if it is false; parking releases the mutex. Between the evaluation
and the parking the thread holds the mutex, so a notification that is sent
without it can come too early. A notification wakes the threads that are
parked at that moment, and these take the mutex and evaluate again.
-/
namespace DecoderSDK.Waiting

/-- Where a thread stands in its wait. -/
inductive Stage where
  | locking
  | testing
  | parking
  | parked
  deriving DecidableEq

namespace Stage

/-- The thread holds the mutex. -/
def holds : Stage → Bool
  | .testing => true
  | .parking => true
  | _ => false

/-- The thread has found its predicate false and was not woken since. -/
def asleep : Stage → Bool
  | .parking => true
  | .parked => true
  | _ => false

def notify : Stage → Stage
  | .parked => .locking
  | stage => stage

/-- The next stage of the wait; `some none` when the predicate holds and the wait is over. -/
def next (free ready : Bool) : Stage → Option (Option Stage)
  | .locking => if free then some (some .testing) else none
  | .testing => some (if ready then none else some .parking)
  | .parking => some (some .parked)
  | .parked => none

@[simp] theorem holds_notify (stage : Stage) : stage.notify.holds = stage.holds := by
  cases stage <;> rfl

/-- Only a thread on its way to park misses a notification. -/
theorem eq_parking_of_notify {stage : Stage} (h : stage.notify.asleep = true) :
    stage = .parking := by
  cases stage <;> simp_all [notify, asleep]

/-- A thread falls asleep only when it finds its predicate false. -/
theorem asleep_of_next {stage stage' : Stage} {free ready : Bool}
    (h : stage.next free ready = some (some stage')) (hasleep : stage'.asleep = true) :
    stage.asleep = true ∨ ready = false := by
  cases stage with
  | locking =>
    simp only [next, Option.ite_none_right_eq_some, Option.some.injEq] at h
    rw [← h.2] at hasleep
    simp [asleep] at hasleep
  | testing =>
    simp only [next, Option.some.injEq] at h
    cases ready with
    | true => simp at h
    | false => exact Or.inr rfl
  | parking => exact Or.inl rfl
  | parked => simp [next] at h

/-- A wait goes on only with the mutex, or with a free one. -/
theorem holds_of_next {stage : Stage} {stage' : Option Stage} {free ready : Bool}
    (h : stage.next free ready = some stage') : stage.holds = true ∨ free = true := by
  cases stage with
  | locking =>
    simp only [next, Option.ite_none_right_eq_some] at h
    exact Or.inr h.1
  | testing => exact Or.inl rfl
  | parking => exact Or.inl rfl
  | parked => simp [next] at h

end Stage

end DecoderSDK.Waiting
