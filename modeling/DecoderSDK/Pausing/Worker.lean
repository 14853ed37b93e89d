import DecoderSDK.Interleaving.Runs
import DecoderSDK.Waiting.Condition

/-! # Pausing, resuming and stopping a thread

The file demux thread and the audio decode thread wait on `pauseCv` for the
same predicate, and their owners set its variables and notify without
`pauseMutex`. The operations of an owner hold its `mutex` to their end, so
at most one is under way; what is left of it is a list of instructions, each
one access to shared data. Aborting the queues is left out: it does not touch
the wait.
-/
namespace DecoderSDK.Pausing
open Interleaving Waiting

inductive Owner where
  | demuxer
  | audioDecoder
  deriving DecidableEq

inductive Operation where
  | openInternal (opened : Bool)
  | closeInternal
  | start
  | stop
  | pause
  | resume
  deriving DecidableEq

/-- The demuxer keeps `start` and `stop` to itself. -/
def Owner.offers : Owner → Operation → Bool
  | .demuxer, .start => false
  | .demuxer, .stop => false
  | _, _ => true

inductive Instruction where
  | setOpened (opened : Bool)
  | start
  | setPaused (paused : Bool)
  | interrupt
  | notify
  | join
  deriving DecidableEq

/-- Where the thread stands in its loop. -/
inductive Pc where
  | head
  /-- `handleSeekRequest` of the demuxer, the test for the pre-buffer of the decoder. -/
  | before
  | pauseTest
  | wait (stage : Stage)
  | interruptionTest
  /-- Reading or decoding. -/
  | work
  | exited
  deriving DecidableEq

structure Worker where
  owner : Owner
  isOpened : Bool
  isStarted : Bool
  isPaused : Bool
  requestInterruption : Bool
  /-- What is left of the operation under way. -/
  program : List Instruction
  thread : Option Pc

namespace Worker

def new (owner : Owner) : Worker := ⟨owner, false, false, false, false, [], none⟩

/-- `Demuxer::stop` and `DecoderBase::stopInternal`. -/
def stop (w : Worker) : List Instruction :=
  if w.isStarted then
    match w.owner with
    | .demuxer => [.notify, .interrupt, .join]
    | .audioDecoder => [.setPaused false, .interrupt, .notify, .join]
  else []

def closeInternal (w : Worker) : List Instruction :=
  w.stop ++ if w.isOpened then [.setOpened false] else []

/-- The demuxer starts its thread when it is opened. -/
def openInternal (w : Worker) (opened : Bool) : List Instruction :=
  (if w.isOpened then w.closeInternal else []) ++
    match opened, w.owner with
    | true, .demuxer => [.setOpened true, .start]
    | true, .audioDecoder => [.setOpened true]
    | false, _ => []

/-- The instructions of an operation. -/
def instructions (w : Worker) : Operation → List Instruction
  | .openInternal opened => w.openInternal opened
  | .closeInternal => w.closeInternal
  | .start => if w.isStarted then [] else [.start]
  | .stop => w.stop
  | .pause => if w.isOpened && w.isStarted && !w.isPaused then [.setPaused true] else []
  | .resume => if w.isOpened && w.isStarted && w.isPaused then [.setPaused false, .notify] else []

/-- The predicate of the wait. -/
def ready (w : Worker) : Bool := !w.isPaused || w.requestInterruption

def notify : Pc → Pc
  | .wait stage => .wait stage.notify
  | pc => pc

def execute (w : Worker) (rest : List Instruction) : Instruction → Option Worker
  | .setOpened opened => some { w with isOpened := opened, program := rest }
  | .start =>
    some { w with requestInterruption := false
                  thread := some .head
                  isStarted := true
                  program := rest }
  | .setPaused paused => some { w with isPaused := paused, program := rest }
  | .interrupt => some { w with requestInterruption := true, program := rest }
  | .notify => some { w with thread := w.thread.map notify, program := rest }
  | .join =>
    if w.thread = some .exited then
      some { w with thread := none, isStarted := false, program := rest }
    else none

/-- One step of the thread; `again` is what the loop does not decide itself: whether a seek was
made or the pre-buffer awaited, and whether the loop goes on after its work. -/
def loop (w : Worker) (again : Bool) : Pc → Option Pc
  | .head => some (if w.requestInterruption then .exited else .before)
  | .before => some (if again then .head else .pauseTest)
  | .pauseTest => some (if w.isPaused then .wait .locking else .work)
  | .wait stage => (stage.next true w.ready).map (·.elim .interruptionTest .wait)
  | .interruptionTest =>
    some (if w.requestInterruption then .exited
      else match w.owner with
        | .demuxer => .work
        | .audioDecoder => .head)
  | .work => some (if again then .head else .exited)
  | .exited => none

inductive Action where
  | call (op : Operation)
  | control
  | thread (again : Bool)

def step (w : Worker) : Action → Option Worker
  | .call op =>
    if w.program = [] ∧ w.owner.offers op = true then some { w with program := w.instructions op }
    else none
  | .control =>
    match w.program with
    | [] => none
    | instruction :: rest => w.execute rest instruction
  | .thread again =>
    w.thread.bind fun pc => (w.loop again pc).map fun pc' => { w with thread := some pc' }

/-- The thread has found the predicate false and was not woken since. -/
def asleep (w : Worker) : Bool :=
  match w.thread with
  | some (.wait stage) => stage.asleep
  | _ => false

/-- The thread is parked with no notification to come, although it is resumed or joined. -/
def stuck (w : Worker) : Bool :=
  w.thread = some (.wait .parked) && !w.program.contains .notify &&
    (w.program.head? = some .join || !w.isPaused)

/-- A notification of a predicate that holds does not fall between the evaluation of the
predicate and the parking. -/
def notifiesInTime (w : Worker) (a : Action) : Bool :=
  match a, w.program with
  | .control, .notify :: _ => !(w.ready && w.thread = some (.wait .parking))
  | _, _ => true

/-- The interruption is requested while the thread is not asleep. -/
def interruptsAwake (w : Worker) (a : Action) : Bool :=
  match a, w.program with
  | .control, .interrupt :: _ => !w.asleep
  | _, _ => true

/-- A list of instructions notifies after it ends a pause, and requests the interruption of the
thread before it joins it; the decoder notifies after the request, too. -/
def Careful (owner : Owner) (requested : Bool) : List Instruction → Prop
  | [] => True
  | .setPaused false :: rest => .notify ∈ rest ∧ Careful owner requested rest
  | .interrupt :: rest => (owner = .audioDecoder → .notify ∈ rest) ∧ Careful owner true rest
  | .start :: rest => Careful owner false rest
  | .join :: rest => requested = true ∧ Careful owner requested rest
  | _ :: rest => Careful owner requested rest

theorem careful_stop_append (w : Worker) (requested : Bool) (rest : List Instruction)
    (h : ∀ requested, Careful w.owner requested rest) :
    Careful w.owner requested (w.stop ++ rest) := by
  unfold stop
  split_ifs
  · cases howner : w.owner <;> rw [howner] at h <;> simp [Careful, h]
  · exact h requested

theorem careful_closeInternal_append (w : Worker) (requested : Bool) (rest : List Instruction)
    (h : ∀ requested, Careful w.owner requested rest) :
    Careful w.owner requested (w.closeInternal ++ rest) := by
  rw [closeInternal, List.append_assoc]
  apply careful_stop_append
  intro requested
  split_ifs
  · exact h requested
  · exact h requested

theorem careful_instructions (w : Worker) (requested : Bool) (op : Operation) :
    Careful w.owner requested (w.instructions op) := by
  cases op with
  | openInternal opened =>
    simp only [instructions, openInternal]
    split_ifs
    · apply careful_closeInternal_append
      intro requested
      cases opened <;> cases w.owner <;> trivial
    · cases opened <;> cases w.owner <;> trivial
  | closeInternal =>
    rw [instructions, ← List.append_nil w.closeInternal]
    exact careful_closeInternal_append w requested [] fun _ => trivial
  | stop =>
    rw [instructions, ← List.append_nil w.stop]
    exact careful_stop_append w requested [] fun _ => trivial
  | start | pause | resume =>
    unfold instructions
    split_ifs <;> simp [Careful]

structure Owing (owner : Owner) (w : Worker) : Prop where
  owner_eq : w.owner = owner
  owed : w.asleep = true → w.ready = true → .notify ∈ w.program
  careful : Careful w.owner w.requestInterruption w.program

theorem owing_new (owner : Owner) : Owing owner (new owner) :=
  ⟨rfl, by simp [new, asleep], trivial⟩

/-- An instruction that neither wakes the thread nor makes its predicate true leaves the debt. -/
theorem Owing.rest {owner : Owner} {w : Worker} {instruction : Instruction} {rest : List Instruction}
    (hs : Owing owner w) (hprogram : w.program = instruction :: rest) (hne : instruction ≠ .notify)
    (hasleep : w.asleep = true) (hready : w.ready = true) : .notify ∈ rest := by
  have h := hs.owed hasleep hready
  rw [hprogram, List.mem_cons] at h
  exact h.resolve_left hne.symm

theorem Owing.execute {owner : Owner} {w w' : Worker} {instruction : Instruction}
    {rest : List Instruction}
    (hs : Owing owner w) (hprogram : w.program = instruction :: rest)
    (hnotifies : notifiesInTime w .control = true)
    (hinterrupts : owner = .demuxer → interruptsAwake w .control = true)
    (h : w.execute rest instruction = some w') : Owing owner w' := by
  have hcareful := hs.careful
  rw [hprogram] at hcareful
  simp only [notifiesInTime, hprogram] at hnotifies
  simp only [interruptsAwake, hprogram] at hinterrupts
  cases instruction with
  | setOpened opened =>
    simp only [Worker.execute, Option.some.injEq] at h
    subst h
    exact ⟨hs.owner_eq, hs.rest hprogram (by simp), hcareful⟩
  | start =>
    simp only [Worker.execute, Option.some.injEq] at h
    subst h
    exact ⟨hs.owner_eq, by simp [asleep], hcareful⟩
  | setPaused paused =>
    simp only [Worker.execute, Option.some.injEq] at h
    subst h
    cases paused with
    | false => exact ⟨hs.owner_eq, fun _ _ => hcareful.1, hcareful.2⟩
    | true =>
      refine ⟨hs.owner_eq, fun hasleep hready => hs.rest hprogram (by simp) hasleep ?_, hcareful⟩
      simp only [ready, Bool.not_true, Bool.false_or] at hready
      simp [ready, hready]
  | interrupt =>
    simp only [Worker.execute, Option.some.injEq] at h
    subst h
    refine ⟨hs.owner_eq, fun hasleep _ => ?_, hcareful.2⟩
    cases owner with
    | demuxer =>
      have hasleep' : w.asleep = true := hasleep
      simp [hasleep'] at hinterrupts
    | audioDecoder => exact hcareful.1 hs.owner_eq
  | notify =>
    simp only [Worker.execute, Option.some.injEq] at h
    subst h
    refine ⟨hs.owner_eq, fun hasleep hready => ?_, hcareful⟩
    have hready' : w.ready = true := hready
    simp only [hready', Bool.true_and, Bool.not_eq_true', decide_eq_false_iff_not] at hnotifies
    simp only [asleep] at hasleep
    cases hthread : w.thread with
    | none => simp [hthread] at hasleep
    | some pc =>
      cases pc with
      | wait stage =>
        simp only [hthread, Option.map_some, Worker.notify] at hasleep
        exact absurd (by rw [hthread, Stage.eq_parking_of_notify hasleep]) hnotifies
      | _ => simp [hthread, Worker.notify] at hasleep
  | join =>
    simp only [Worker.execute, Option.ite_none_right_eq_some, Option.some.injEq] at h
    rcases h with ⟨_, rfl⟩
    exact ⟨hs.owner_eq, by simp [asleep], hcareful.2⟩

/-- The thread falls asleep only when it finds the predicate false. -/
theorem asleep_of_loop {w : Worker} {again : Bool} {pc pc' : Pc} (hthread : w.thread = some pc)
    (h : w.loop again pc = some pc') (hasleep : { w with thread := some pc' }.asleep = true) :
    w.asleep = true ∨ w.ready = false := by
  cases pc with
  | wait stage =>
    simp only [Worker.loop, Option.map_eq_some_iff] at h
    rcases h with ⟨stage', hnext, rfl⟩
    cases stage' with
    | none => simp [asleep] at hasleep
    | some stage' =>
      rcases Stage.asleep_of_next hnext hasleep with h | h
      · left
        rw [asleep, hthread]
        exact h
      · exact Or.inr h
  | exited => simp [Worker.loop] at h
  | head | before | pauseTest | work =>
    simp only [Worker.loop, Option.some.injEq] at h
    split_ifs at h <;> subst h <;> simp [asleep, Stage.asleep] at hasleep
  | interruptionTest =>
    simp only [Worker.loop, Option.some.injEq] at h
    split_ifs at h
    · subst h
      simp [asleep] at hasleep
    · cases howner : w.owner <;> simp only [howner] at h <;> subst h <;> simp [asleep] at hasleep

theorem Owing.step {owner : Owner} {w w' : Worker} {a : Action} (hs : Owing owner w)
    (hnotifies : notifiesInTime w a = true)
    (hinterrupts : owner = .demuxer → interruptsAwake w a = true)
    (h : w.step a = some w') : Owing owner w' := by
  cases a with
  | call op =>
    simp only [Worker.step, Option.ite_none_right_eq_some, Option.some.injEq] at h
    rcases h with ⟨⟨hprogram, _⟩, rfl⟩
    refine ⟨hs.owner_eq, fun hasleep hready => ?_, careful_instructions w _ op⟩
    have howed := hs.owed hasleep hready
    simp [hprogram] at howed
  | control =>
    simp only [Worker.step] at h
    split at h
    · simp at h
    · next hprogram => exact hs.execute hprogram hnotifies hinterrupts h
  | thread again =>
    simp only [Worker.step, Option.bind_eq_some_iff, Option.map_eq_some_iff] at h
    rcases h with ⟨pc, hthread, pc', hloop, rfl⟩
    refine ⟨hs.owner_eq, fun hasleep hready => ?_, hs.careful⟩
    rcases asleep_of_loop hthread hloop hasleep with h | h
    · exact hs.owed h hready
    · exact absurd h (ne_of_eq_of_ne hready (by simp))

theorem Owing.not_stuck {owner : Owner} {w : Worker} (hs : Owing owner w) : w.stuck = false := by
  by_contra h
  simp only [stuck, Bool.not_eq_false, Bool.and_eq_true, decide_eq_true_eq, Bool.not_eq_true',
    Bool.or_eq_true, List.contains_eq_mem, decide_eq_false_iff_not] at h
  rcases h with ⟨⟨hthread, hnotify⟩, hawaited⟩
  have hasleep : w.asleep = true := by rw [asleep, hthread]; rfl
  refine hnotify (hs.owed hasleep ?_)
  rcases hawaited with hjoin | hresumed
  · have hcareful := hs.careful
    rw [List.head?_eq_some_iff] at hjoin
    rcases hjoin with ⟨rest, hprogram⟩
    rw [hprogram] at hcareful
    simp [ready, hcareful.1]
  · simp [ready, hresumed]

/-- A paused demuxer can be resumed and closed, in every run in which `resume` does not notify
between the evaluation of the predicate and the parking, and `stop` requests the interruption
while the demux thread is not asleep. -/
theorem demuxer_not_stuck (actions : List Action)
    (h : Each step (fun w a _ => notifiesInTime w a = true ∧ interruptsAwake w a = true)
      (new .demuxer) actions) :
    Each step (fun _ _ w' => w'.stuck = false) (new .demuxer) actions := by
  refine Each.of_invariant (fun w a w' hs ha hstep => ?_) (owing_new .demuxer) h
  have hs' : Owing .demuxer w' := Owing.step hs ha.1 (fun _ => ha.2) hstep
  exact ⟨hs', hs'.not_stuck⟩

/-- The demuxer is opened and paused, and its thread goes on for `times` steps. -/
def pauseDemuxer (times : ℕ) : List Action :=
  List.flatten [[.call (.openInternal true), .control, .control, .call .pause, .control],
    List.replicate times (.thread false)]

/-- The parked demux thread is resumed, reads, and ends when the demuxer is closed. -/
theorem demuxer_not_stuck_resumed :
    let actions : List Action := List.flatten
      [pauseDemuxer 6, [.call .resume, .control, .control], List.replicate 3 (.thread false),
        [.thread true, .call .closeInternal, .control, .control, .thread false, .control, .control]]
    (run step (new .demuxer) actions).map (fun w => (w.thread, w.isOpened)) = some (none, false) ∧
      Each step (fun _ _ w' => w'.stuck = false) (new .demuxer) actions :=
  ⟨by decide +kernel, demuxer_not_stuck _ (by decide +kernel)⟩

/-- The notification of `stop` comes before the request: the demux thread finds the predicate
still false and parks again, and `stop` joins it. -/
theorem demuxer_not_stuck_fails :
    let actions : List Action := List.flatten
      [pauseDemuxer 6, [.call .closeInternal, .control], List.replicate 3 (.thread false),
        [.control]]
    (run step (new .demuxer) actions).map (fun w => (w.thread, w.program)) =
        some (some (.wait .parked), [.join, .setOpened false]) ∧
      ¬Each step (fun _ _ w' => w'.stuck = false) (new .demuxer) actions := by
  decide +kernel

/-- A paused audio decoder can be resumed and stopped, in every run in which neither operation
notifies between the evaluation of the predicate and the parking. -/
theorem audioDecoder_not_stuck (actions : List Action)
    (h : Each step (fun w a _ => notifiesInTime w a = true) (new .audioDecoder) actions) :
    Each step (fun _ _ w' => w'.stuck = false) (new .audioDecoder) actions := by
  refine Each.of_invariant (fun w a w' hs ha hstep => ?_) (owing_new .audioDecoder) h
  have hs' : Owing .audioDecoder w' := Owing.step hs ha (by simp) hstep
  exact ⟨hs', hs'.not_stuck⟩

/-- The audio decoder is started and paused, and its thread goes on for `times` steps. -/
def pauseAudioDecoder (times : ℕ) : List Action :=
  List.flatten [[.call (.openInternal true), .control, .call .start, .control, .call .pause, .control],
    List.replicate times (.thread false)]

/-- The parked audio thread ends when the decoder is stopped. -/
theorem audioDecoder_not_stuck_stopped :
    let actions : List Action := List.flatten
      [pauseAudioDecoder 6, .call .stop :: List.replicate 3 .control,
        List.replicate 3 (.thread false), [.control]]
    (run step (new .audioDecoder) actions).map (fun w => (w.thread, w.isStarted)) =
        some (none, false) ∧
      Each step (fun _ _ w' => w'.stuck = false) (new .audioDecoder) actions :=
  ⟨by decide +kernel, audioDecoder_not_stuck _ (by decide +kernel)⟩

/-- The notification of `stop` comes between the evaluation of the predicate and the parking:
the audio thread parks after it, and `stop` joins it. -/
theorem audioDecoder_not_stuck_fails :
    let actions : List Action := List.flatten
      [pauseAudioDecoder 5, .call .stop :: List.replicate 3 .control, [.thread false]]
    (run step (new .audioDecoder) actions).map (fun w => (w.thread, w.program)) =
        some (some (.wait .parked), [.join]) ∧
      ¬Each step (fun _ _ w' => w'.stuck = false) (new .audioDecoder) actions := by
  decide +kernel

end Worker

end DecoderSDK.Pausing
