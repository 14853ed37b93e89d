import DecoderSDK.Events.Dispatcher
import DecoderSDK.Retrying.Deadline
import DecoderSDK.Session.Demuxer

/-! # What the demux thread reports of its reads

The demux thread with the locals of its loop: the time of the first error
that was not made good, and whether a packet was read. Read errors add up
until a packet is read; end of stream is an error of a real-time stream only,
and a read that must be tried again is neither.
-/
namespace DecoderSDK
open Events Interleaving Retrying

def kReadErrorMaxInterval : ℕ := 3

/-- A second of `high_resolution_clock`, in nanoseconds. -/
def second : ℕ := 1000000000

structure DemuxThread where
  demuxer : Demuxer
  requestInterruption : Bool
  occuredErrorTime : Option ℕ
  readFirstPacket : Bool
  events : List EventType
  /-- What the reads came to. -/
  reads : List Attempt

namespace Demuxer.Pc

/-- The thread is where only the loop of a file leads. -/
@[simp] def ofFile : Pc → Bool
  | .store _ _ => true
  | .seekFrame _ _ => true
  | .flush _ _ => true
  | .looped => true
  | .pauseTest => true
  | .emptyTest _ => true
  | .loopStore => true
  | .loopLoad => true
  | _ => false

/-- The thread is in `handleLoopPlayback`, past the limit of loops. -/
@[simp] def looping : Pc → Bool
  | .loopStore => true
  | .loopLoad => true
  | .store _ loop => loop
  | .seekFrame _ loop => loop
  | .flush _ loop => loop
  | .looped => true
  | _ => false

end Demuxer.Pc

namespace Demuxer

/-- What a step does to the loop playback: it counts a loop when the file has been rewound, and
passes the limit of loops only where the end of the file is handled. -/
structure LoopMove (dm dm' : Demuxer) (queue : MediaType → Option PacketQueue) (c : Choice) :
    Prop where
  loopMode : dm'.loopMode = dm.loopMode
  maxLoops : dm'.maxLoops = dm.maxLoops
  isRealTime : dm'.isRealTime = dm.isRealTime
  count : dm'.currentLoopCount = dm.currentLoopCount ∧ ¬(dm.pc = .looped ∧ c = .rewound true) ∨
    dm.pc = .looped ∧ c = .rewound true ∧ dm'.currentLoopCount = dm.currentLoopCount + 1
  looping : dm'.pc.looping = true → dm.pc.looping = true ∧ dm.pc ≠ .looped ∨
    dm.pc = .emptyTest .audio ∧ ((queue .audio).any fun q => !q.isEmpty) = false ∧
      dm.mayLoop = true
  ofFile : dm.isRealTime = true → dm.pc.ofFile = false → dm'.pc.ofFile = false

/-- A step outside loop playback that changes neither the mode nor the counter. -/
theorem LoopMove.plain {dm dm' : Demuxer} {queue : MediaType → Option PacketQueue} {c : Choice}
    (hmode : dm'.loopMode = dm.loopMode) (hmax : dm'.maxLoops = dm.maxLoops)
    (hreal : dm'.isRealTime = dm.isRealTime) (hcount : dm'.currentLoopCount = dm.currentLoopCount)
    (hpc : dm.pc ≠ .looped)
    (hlooping : dm'.pc.looping = true → dm.pc.looping = true)
    (hfile : dm.isRealTime = true → dm.pc.ofFile = false → dm'.pc.ofFile = false) :
    LoopMove dm dm' queue c :=
  ⟨hmode, hmax, hreal, Or.inl ⟨hcount, fun h => hpc h.1⟩, fun h => Or.inl ⟨hlooping h, hpc⟩, hfile⟩

theorem LoopMove.goto {dm : Demuxer} {queue : MediaType → Option PacketQueue} {c : Choice}
    {pc : Pc} (hpc : dm.pc ≠ .looped) (hlooping : pc.looping = true → dm.pc.looping = true)
    (hfile : dm.isRealTime = true → dm.pc.ofFile = false → pc.ofFile = false) :
    LoopMove dm (dm.goto pc) queue c :=
  .plain rfl rfl rfl rfl hpc hlooping hfile

theorem move_loops {dm dm' : Demuxer} {queue : MediaType → Option PacketQueue} {c : Choice}
    {effect : Effect} (h : dm.move queue c = some (dm', effect)) : LoopMove dm dm' queue c := by
  unfold move at h
  cases hpc : dm.pc with
  | stopped => simp [hpc] at h
  | head =>
    simp only [hpc, Option.some.injEq, Prod.mk.injEq] at h
    rw [← h.1]
    apply LoopMove.goto (by simp [hpc])
    · split_ifs <;> simp
    · intro hreal
      rw [if_pos hreal]
      split_ifs <;> simp
  | dropSeek | store ms loop | loopStore =>
    simp only [hpc, Option.some.injEq, Prod.mk.injEq] at h
    rw [← h.1]
    exact .plain rfl rfl rfl rfl (by simp [hpc]) (by simp [hpc]) (by simp [hpc])
  | seekFrame ms loop =>
    simp only [hpc] at h
    cases c with
    | sought ok =>
      simp only [Option.some.injEq, Prod.mk.injEq] at h
      rw [← h.1]
      refine .plain rfl rfl rfl rfl (by simp [hpc]) ?_ ?_
      · cases ok <;> cases loop <;> simp [hpc]
      · simp [hpc]
    | _ => simp at h
  | flush media loop =>
    simp only [hpc, Option.some.injEq, Prod.mk.injEq] at h
    rw [← h.1]
    apply LoopMove.goto (by simp [hpc])
    · cases media <;> cases loop <;> simp [hpc, afterMedia]
    · simp [hpc]
  | looped =>
    simp only [hpc] at h
    cases c with
    | rewound ok =>
      simp only [Option.some.injEq, Prod.mk.injEq] at h
      rw [← h.1]
      refine ⟨rfl, rfl, rfl, ?_, by simp, by simp⟩
      cases ok with
      | false => exact Or.inl ⟨rfl, by simp⟩
      | true => exact Or.inr ⟨hpc, rfl, rfl⟩
    | _ => simp at h
  | pauseTest =>
    simp only [hpc, Option.ite_none_left_eq_some, Option.some.injEq, Prod.mk.injEq] at h
    rw [← h.2.1]
    exact .goto (by simp [hpc]) (by simp) (by simp)
  | read =>
    simp only [hpc] at h
    cases c with
    | eof =>
      simp only [Option.some.injEq, Prod.mk.injEq] at h
      rw [← h.1]
      refine .plain rfl rfl rfl rfl (by simp [hpc]) ?_ ?_
      · dsimp only
        split_ifs <;> simp
      · intro hreal
        simp [hreal]
    | packet | otherStream | again | error =>
      simp only [Option.some.injEq, Prod.mk.injEq] at h
      rw [← h.1]
      exact .plain rfl rfl rfl rfl (by simp [hpc]) (by simp [Demuxer.goto]) (by simp [Demuxer.goto])
    | _ => simp at h
  | distribute media packet =>
    simp only [hpc, Option.some.injEq, Prod.mk.injEq] at h
    rw [← h.1]
    apply LoopMove.goto (by simp [hpc]) <;> split_ifs <;> simp
  | stamp media packet =>
    simp only [hpc, Option.map_eq_some_iff, Prod.mk.injEq] at h
    rcases h with ⟨q, -, rfl, -⟩
    exact .goto (by simp [hpc]) (by simp) (by simp)
  | push media packet =>
    simp only [hpc, Option.bind_eq_some_iff, Option.ite_none_right_eq_some, Option.some.injEq,
      Prod.mk.injEq] at h
    rcases h with ⟨q, -, -, rfl, -⟩
    exact .goto (by simp [hpc]) (by simp) (by simp)
  | endStamp media =>
    simp only [hpc, Option.some.injEq, Prod.mk.injEq] at h
    rw [← h.1]
    apply LoopMove.goto (by simp [hpc])
    · cases queue media <;> cases media <;> simp [afterMedia]
      split_ifs <;> simp
    · intro hreal
      cases queue media <;> cases media <;> simp [afterMedia, hreal]
  | endPush media packet =>
    simp only [hpc, Option.some.injEq, Prod.mk.injEq] at h
    rw [← h.1]
    apply LoopMove.goto (by simp [hpc])
    · cases media <;> simp [afterMedia]
      split_ifs <;> simp
    · intro hreal
      cases media <;> simp [afterMedia, hreal]
  | readError =>
    simp only [hpc] at h
    cases c with
    | gaveUp severe =>
      simp only [Option.some.injEq, Prod.mk.injEq] at h
      rw [← h.1]
      apply LoopMove.goto (by simp [hpc]) <;> split_ifs <;> simp
    | _ => simp at h
  | emptyTest media =>
    simp only [hpc] at h
    split at h
    · simp only [Option.some.injEq, Prod.mk.injEq] at h
      rw [← h.1]
      exact .goto (by simp [hpc]) (by simp) (by simp)
    · rename_i hempty
      simp only [Option.some.injEq, Prod.mk.injEq] at h
      rw [← h.1]
      cases media with
      | video => exact .goto (by simp [hpc]) (by simp) (by simp [hpc])
      | audio =>
        refine ⟨rfl, rfl, rfl, Or.inl ⟨rfl, by simp [hpc]⟩, ?_, by simp [hpc]⟩
        intro hlooping
        refine Or.inr ⟨hpc, by simpa using hempty, ?_⟩
        by_contra hmay
        simp [hmay] at hlooping
  | loopLoad =>
    simp only [hpc, Option.some.injEq, Prod.mk.injEq] at h
    rw [← h.1]
    exact .goto (by simp [hpc]) (by simp [hpc]) (by simp [hpc])

end Demuxer

namespace DemuxThread

/-- A thread that has been started and has read nothing. -/
def new (demuxer : Demuxer) : DemuxThread where
  demuxer := { demuxer with isEof := false, pc := .head }
  requestInterruption := false
  occuredErrorTime := none
  readFirstPacket := false
  events := []
  reads := []

/-- Give up when the errors have lasted for the interval, counted in whole seconds. -/
def handleReadError (r : DemuxThread) (now : ℕ) : Bool × DemuxThread :=
  let start := r.occuredErrorTime.getD now
  if kReadErrorMaxInterval ≤ (now - start) / second then
    (true, { r with occuredErrorTime := none, events := r.events ++ [.kStreamReadError] })
  else (false, { r with occuredErrorTime := some start })

/-- A packet was read. -/
def succeeded (r : DemuxThread) : DemuxThread :=
  { r with
    occuredErrorTime := none
    readFirstPacket := true
    events := if r.readFirstPacket then r.events else r.events ++ [.kStreamReadData]
    reads := r.reads ++ [.success] }

/-- What a step of the thread reports, besides read errors. -/
def report (r : DemuxThread) (queue : MediaType → Option PacketQueue) :
    Demuxer.Pc → Demuxer.Choice → DemuxThread
  | .read, .packet _ _ => r.succeeded
  | .read, .otherStream => r.succeeded
  | .read, .again => { r with reads := r.reads ++ [.neutral] }
  | .read, .eof => if r.demuxer.isRealTime then r else { r with reads := r.reads ++ [.neutral] }
  | .emptyTest .audio, _ =>
    if (queue .audio).any fun q => !q.isEmpty then r
    else { r with events := r.events ++ [.kStreamEnded] }
  | .looped, .rewound true => { r with events := r.events ++ [.kStreamLooped] }
  | _, _ => r

/-- One step of the thread; the clock is read where an error is handled. -/
def move (r : DemuxThread) (queue : MediaType → Option PacketQueue) (c : Demuxer.Choice)
    (now : ℕ) : Option DemuxThread :=
  if r.demuxer.pc = .head ∧ r.requestInterruption = true then
    some { r with demuxer := r.demuxer.goto .stopped }
  else match r.demuxer.pc with
    | .readError =>
      (r.demuxer.move queue (.gaveUp (r.handleReadError now).1)).map fun m =>
        { (r.handleReadError now).2 with demuxer := m.1, reads := r.reads ++ [.failure now] }
    | pc => (r.demuxer.move queue c).map fun m => { r with demuxer := m.1 }.report queue pc c

/-- The thread moves, or other threads change what it reads. -/
inductive Action where
  | move (queue : MediaType → Option PacketQueue) (c : Demuxer.Choice) (now : ℕ)
  | leavePause
  | seek (ms : ℤ)
  | setPaused (paused : Bool)
  | setLoopMode (mode : LoopMode) (maxLoops : ℤ)
  | interrupt

/-- When the clock was read. -/
def Action.time : Action → Option ℕ
  | .move _ _ now => some now
  | _ => none

def step (r : DemuxThread) : Action → Option DemuxThread
  | .move queue c now => r.move queue c now
  | .leavePause =>
    if r.demuxer.pc = .pauseTest ∧ r.requestInterruption = true then
      some { r with demuxer := r.demuxer.goto .stopped }
    else none
  | .seek ms => some { r with demuxer := r.demuxer.request ms }
  | .setPaused paused => some { r with demuxer := { r.demuxer with isPaused := paused } }
  | .setLoopMode mode maxLoops => some { r with demuxer := r.demuxer.setLoopMode mode maxLoops }
  | .interrupt => some { r with requestInterruption := true }

/-- The step leaves the locals and the reports alone. -/
structure Quiet (r r' : DemuxThread) : Prop where
  occuredErrorTime : r'.occuredErrorTime = r.occuredErrorTime
  readFirstPacket : r'.readFirstPacket = r.readFirstPacket
  events : r'.events = r.events
  reads : r'.reads = r.reads

/-- Everything a step can do to the locals and the reports. -/
inductive Change (r r' : DemuxThread) : Option ℕ → Prop where
  | quiet (time : Option ℕ) (h : Quiet r r')
      (hpc : r'.demuxer.pc = r.demuxer.pc ∨ r.demuxer.pc ≠ .stopped) : Change r r' time
  | pending (time : Option ℕ) (hpc : r.demuxer.pc = .read)
      (h : Quiet { r with reads := r.reads ++ [.neutral] } r') : Change r r' time
  | succeeded (time : Option ℕ) (hpc : r.demuxer.pc = .read) (h : Quiet r.succeeded r') :
      Change r r' time
  | failed (now : ℕ) (hpc : r.demuxer.pc = .readError)
      (h : Quiet { (r.handleReadError now).2 with reads := r.reads ++ [.failure now] } r')
      (hpc' : (r.handleReadError now).1 = true → r'.demuxer.pc = .stopped) : Change r r' (some now)
  | ended (time : Option ℕ) (hpc : r.demuxer.pc = .emptyTest .audio)
      (h : Quiet { r with events := r.events ++ [.kStreamEnded] } r') : Change r r' time
  | looped (time : Option ℕ) (hpc : r.demuxer.pc = .looped)
      (h : Quiet { r with events := r.events ++ [.kStreamLooped] } r') : Change r r' time

theorem Quiet.refl (r : DemuxThread) (demuxer : Demuxer) : Quiet r { r with demuxer := demuxer } :=
  ⟨rfl, rfl, rfl, rfl⟩

theorem Quiet.of_eq {r r' : DemuxThread} (h : r' = r) : Quiet r r' := by
  rw [h]
  exact Quiet.refl r r.demuxer

/-- Where the thread stands and what it was answered decide what it reports. -/
theorem report_change (r : DemuxThread) (demuxer : Demuxer)
    (queue : MediaType → Option PacketQueue) (c : Demuxer.Choice) (time : Option ℕ)
    (hlive : r.demuxer.pc ≠ .stopped) :
    Change r ({ r with demuxer := demuxer }.report queue r.demuxer.pc c) time := by
  have hquiet : Change r { r with demuxer := demuxer } time :=
    .quiet time (Quiet.refl r demuxer) (Or.inr hlive)
  cases hpc : r.demuxer.pc with
  | read =>
    cases c with
    | packet media packet => exact .succeeded time hpc (Quiet.refl r.succeeded demuxer)
    | otherStream => exact .succeeded time hpc (Quiet.refl r.succeeded demuxer)
    | again =>
      exact .pending time hpc (Quiet.refl { r with reads := r.reads ++ [.neutral] } demuxer)
    | eof =>
      rw [report]
      split_ifs
      · exact hquiet
      · exact .pending time hpc (Quiet.refl { r with reads := r.reads ++ [.neutral] } demuxer)
    | _ => exact hquiet
  | emptyTest media =>
    cases media with
    | video => exact hquiet
    | audio =>
      rw [report]
      split_ifs
      · exact hquiet
      · exact .ended time hpc
          (Quiet.refl { r with events := r.events ++ [.kStreamEnded] } demuxer)
  | looped =>
    cases c with
    | rewound ok =>
      cases ok with
      | false => exact hquiet
      | true =>
        exact .looped time hpc
          (Quiet.refl { r with events := r.events ++ [.kStreamLooped] } demuxer)
    | _ => exact hquiet
  | _ => exact hquiet

theorem step_change {r r' : DemuxThread} {a : Action} (h : r.step a = some r') :
    Change r r' a.time := by
  cases a with
  | move queue c now =>
    rw [step, move] at h
    split at h
    · rename_i hstop
      rw [Option.some.injEq] at h
      rw [← h]
      exact .quiet _ (Quiet.refl r _) (Or.inr (by simp [hstop.1]))
    · split at h
      · rename_i hpc
        simp only [Option.map_eq_some_iff] at h
        rcases h with ⟨m, hm, rfl⟩
        refine .failed now hpc ⟨rfl, rfl, rfl, rfl⟩ ?_
        intro hsevere
        simp only [Demuxer.move, hpc, hsevere, if_true, Option.some.injEq] at hm
        rw [← hm]
        rfl
      · simp only [Option.map_eq_some_iff] at h
        rcases h with ⟨m, hm, rfl⟩
        apply report_change
        intro hstopped
        simp [Demuxer.move, hstopped] at hm
  | leavePause =>
    rw [step, Option.ite_none_right_eq_some, Option.some.injEq] at h
    rcases h with ⟨⟨hpc, -⟩, rfl⟩
    exact .quiet _ (Quiet.refl r _) (Or.inr (by simp [hpc]))
  | _ =>
    rw [step, Option.some.injEq] at h
    rw [← h]
    exact .quiet _ ⟨rfl, rfl, rfl, rfl⟩ (Or.inl rfl)

/-- A failed read ends the thread when it is overdue. -/
theorem handleReadError_fst {r : DemuxThread} (hclock : r.occuredErrorTime = since r.reads)
    (now : ℕ) :
    (r.handleReadError now).1 = true ↔ Overdue (kReadErrorMaxInterval * second) r.reads now := by
  have hsecond : 0 < second := by decide
  rw [handleReadError, Overdue, hclock, ← Nat.le_div_iff_mul_le hsecond]
  split_ifs with h <;> simp [h]

theorem handleReadError_snd (r : DemuxThread) (now : ℕ) :
    (r.handleReadError now).2.readFirstPacket = r.readFirstPacket ∧
    (r.handleReadError now).2.events =
      (if (r.handleReadError now).1 then r.events ++ [.kStreamReadError] else r.events) ∧
    ((r.handleReadError now).1 = false →
      (r.handleReadError now).2.occuredErrorTime = some (r.occuredErrorTime.getD now)) := by
  by_cases hover : kReadErrorMaxInterval ≤ (now - r.occuredErrorTime.getD now) / second <;>
    simp [handleReadError, hover]

/-- The locals and the reports agree with what the reads came to. -/
structure Accounted (r : DemuxThread) : Prop where
  clock : .kStreamReadError ∉ r.events → r.occuredErrorTime = since r.reads
  first : r.readFirstPacket = true ↔ .success ∈ r.reads
  data : r.events.count .kStreamReadData = if r.readFirstPacket then 1 else 0
  error : .kStreamReadError ∈ r.events → r.demuxer.pc = .stopped ∧ ∃ p now es,
    r.reads = p ++ [.failure now] ∧ Overdue (kReadErrorMaxInterval * second) p now ∧
      r.events = es ++ [.kStreamReadError] ∧ .kStreamReadError ∉ es
  prompt : ∀ p now, p ++ [.failure now] <+: r.reads →
    Overdue (kReadErrorMaxInterval * second) p now →
      p ++ [.failure now] = r.reads ∧ .kStreamReadError ∈ r.events

theorem accounted_new (demuxer : Demuxer) : Accounted (new demuxer) where
  clock := fun _ => rfl
  first := by simp [new]
  data := rfl
  error := by simp [new]
  prompt := by
    intro p now hbegins
    rw [new, List.prefix_nil] at hbegins
    simp at hbegins

theorem Accounted.alive {r : DemuxThread} (hr : Accounted r) (hpc : r.demuxer.pc ≠ .stopped) :
    .kStreamReadError ∉ r.events :=
  fun h => hpc (hr.error h).1

/-- While the thread has not given up none of its reads was overdue. -/
theorem Accounted.in_time {r : DemuxThread} (hr : Accounted r)
    (hpc : r.demuxer.pc ≠ .stopped) {p : List Attempt} {now : ℕ}
    (hbegins : p ++ [.failure now] <+: r.reads) :
    ¬Overdue (kReadErrorMaxInterval * second) p now :=
  fun h => hr.alive hpc (hr.prompt p now hbegins h).2

/-- A read that did not fail gives nothing up. -/
theorem Accounted.still_in_time {r : DemuxThread} (hr : Accounted r)
    (hpc : r.demuxer.pc ≠ .stopped) {a : Attempt} (ha : ∀ now, a ≠ .failure now)
    {p : List Attempt} {now : ℕ} (hbegins : p ++ [.failure now] <+: r.reads ++ [a]) :
    ¬Overdue (kReadErrorMaxInterval * second) p now := by
  rw [List.prefix_concat_iff] at hbegins
  rcases hbegins with heq | hbegins
  · rw [List.append_singleton_inj] at heq
    exact absurd heq.2.symm (ha now)
  · exact hr.in_time hpc hbegins

theorem Accounted.step {r r' : DemuxThread} {a : Action} (hr : Accounted r)
    (h : r.step a = some r') : Accounted r' := by
  have hchange := step_change h
  generalize a.time = time at hchange
  cases hchange with
  | quiet _ hq hpc =>
    refine ⟨?_, ?_, ?_, ?_, ?_⟩
    · rw [hq.events, hq.occuredErrorTime, hq.reads]
      exact hr.clock
    · rw [hq.readFirstPacket, hq.reads]
      exact hr.first
    · rw [hq.events, hq.readFirstPacket]
      exact hr.data
    · rw [hq.events, hq.reads]
      intro herror
      rcases hr.error herror with ⟨hstopped, hrest⟩
      exact ⟨(hpc.resolve_right (not_not_intro hstopped)).trans hstopped, hrest⟩
    · rw [hq.events, hq.reads]
      exact hr.prompt
  | pending _ hpc hq =>
    have hlive : r.demuxer.pc ≠ .stopped := by simp [hpc]
    have hnone := hr.alive hlive
    refine ⟨?_, ?_, ?_, ?_, ?_⟩
    · intro _
      rw [hq.occuredErrorTime, hq.reads, since_snoc]
      exact hr.clock hnone
    · rw [hq.readFirstPacket, hq.reads, hr.first]
      simp
    · rw [hq.events, hq.readFirstPacket]
      exact hr.data
    · rw [hq.events]
      exact fun herror => absurd herror hnone
    · rw [hq.reads]
      exact fun p now hbegins hover =>
        absurd hover (hr.still_in_time hlive (by simp) hbegins)
  | succeeded _ hpc hq =>
    have hlive : r.demuxer.pc ≠ .stopped := by simp [hpc]
    have hnone : .kStreamReadError ∉ r.succeeded.events := by
      rw [succeeded]
      dsimp only
      split_ifs
      · exact hr.alive hlive
      · simpa using hr.alive hlive
    refine ⟨?_, ?_, ?_, ?_, ?_⟩
    · intro _
      rw [hq.occuredErrorTime, hq.reads, succeeded]
      exact (since_snoc r.reads .success).symm
    · rw [hq.readFirstPacket, hq.reads]
      simp [succeeded]
    · rw [hq.events, hq.readFirstPacket, succeeded]
      have := hr.data
      cases hfirst : r.readFirstPacket <;> simp_all
    · rw [hq.events]
      exact fun herror => absurd herror hnone
    · rw [hq.reads]
      exact fun p now hbegins hover =>
        absurd hover (hr.still_in_time hlive (by simp) hbegins)
  | failed now hpc hq hpc' =>
    have hlive : r.demuxer.pc ≠ .stopped := by simp [hpc]
    have hnone := hr.alive hlive
    have hover := handleReadError_fst (hr.clock hnone) now
    rcases handleReadError_snd r now with ⟨hfirst, hevents, hclock⟩
    have hreads : r'.reads = r.reads ++ [.failure now] := hq.reads
    have hfirst' : r'.readFirstPacket = true ↔ .success ∈ r'.reads := by
      rw [hq.readFirstPacket, hreads, hfirst, hr.first]
      simp
    have hdata : r'.events.count .kStreamReadData = if r'.readFirstPacket then 1 else 0 := by
      rw [hq.events, hq.readFirstPacket, hfirst, hevents, ← hr.data]
      split_ifs <;> simp
    cases hsevere : (r.handleReadError now).1 with
    | true =>
      have hlast : r'.events = r.events ++ [.kStreamReadError] := by
        rw [hq.events, hevents, if_pos hsevere]
      have hmem : .kStreamReadError ∈ r'.events := by simp [hlast]
      refine ⟨fun hnot => absurd hmem hnot, hfirst', hdata, fun _ => ⟨hpc' hsevere, ?_⟩, ?_⟩
      · exact ⟨r.reads, now, r.events, hreads, hover.mp hsevere, hlast, hnone⟩
      · rw [hreads]
        intro p later hbegins hlater
        rw [List.prefix_concat_iff] at hbegins
        rcases hbegins with heq | hbegins
        · exact ⟨heq, hmem⟩
        · exact absurd hlater (hr.in_time hlive hbegins)
    | false =>
      have hsame : r'.events = r.events := by
        rw [hq.events, hevents, hsevere]
        rfl
      refine ⟨?_, hfirst', hdata, ?_, ?_⟩
      · intro _
        rw [hq.occuredErrorTime, hreads, since_snoc, ← hr.clock hnone]
        exact hclock hsevere
      · rw [hsame]
        exact fun herror => absurd herror hnone
      · rw [hreads]
        intro p later hbegins hlater
        rw [List.prefix_concat_iff] at hbegins
        rcases hbegins with heq | hbegins
        · rw [List.append_singleton_inj] at heq
          rcases heq with ⟨rfl, heq⟩
          cases heq
          rw [hover.mpr hlater] at hsevere
          contradiction
        · exact absurd hlater (hr.in_time hlive hbegins)
  | ended _ hpc hq | looped _ hpc hq =>
    have hlive : r.demuxer.pc ≠ .stopped := by simp [hpc]
    have hnone := hr.alive hlive
    refine ⟨?_, ?_, ?_, ?_, ?_⟩
    · rw [hq.occuredErrorTime, hq.reads]
      exact fun _ => hr.clock hnone
    · rw [hq.readFirstPacket, hq.reads]
      exact hr.first
    · rw [hq.events, hq.readFirstPacket, ← hr.data]
      simp
    · rw [hq.events]
      intro herror
      simp [hnone] at herror
    · rw [hq.reads]
      exact fun p now hbegins hover => absurd hover (hr.in_time hlive hbegins)

theorem accounted_of_run {demuxer : Demuxer} {r : DemuxThread} {as : List Action}
    (hrun : run step (new demuxer) as = some r) : Accounted r :=
  run_invariant (fun _ _ _ hr h => hr.step h) (accounted_new demuxer) hrun

/-- The times of the failed reads are times at which the clock was read. -/
theorem times_of_run {r r' : DemuxThread} {as : List Action} (hrun : run step r as = some r') :
    (times r'.reads).Sublist (times r.reads ++ as.filterMap Action.time) := by
  induction as generalizing r with
  | nil =>
    rw [run, Option.some.injEq] at hrun
    rw [hrun, List.filterMap_nil, List.append_nil]
  | cons a as ih =>
    rw [run, Option.bind_eq_some_iff] at hrun
    rcases hrun with ⟨r₁, hstep, hrest⟩
    have hfirst : (times r₁.reads).Sublist (times r.reads ++ a.time.toList) := by
      have hchange := step_change hstep
      generalize a.time = time at hchange ⊢
      cases hchange with
      | quiet _ hq hpc =>
        rw [hq.reads]
        exact List.sublist_append_left _ _
      | pending _ hpc hq =>
        rw [hq.reads, times_append]
        exact List.Sublist.append_left (List.nil_sublist _) _
      | succeeded _ hpc hq =>
        rw [hq.reads, succeeded, times_append]
        exact List.Sublist.append_left (List.nil_sublist _) _
      | failed now hpc hq hpc' =>
        rw [hq.reads, times_append]
        exact List.Sublist.refl _
      | ended _ hpc hq | looped _ hpc hq =>
        rw [hq.reads]
        exact List.sublist_append_left _ _
    have hcons : (a :: as).filterMap Action.time =
        a.time.toList ++ as.filterMap Action.time := by
      cases h : a.time <;> simp [h]
    rw [hcons, ← List.append_assoc]
    exact (ih hrest).trans (hfirst.append_right _)

/-- In every run the thread reports its first packet, once, as soon as it has read one; and it
reports a read error, as its last report, at the first failed read for which some failure since
the last packet is three seconds ago, and at no other. -/
theorem gives_up_in_time {demuxer : Demuxer} {r : DemuxThread} {as : List Action}
    (htimes : (as.filterMap Action.time).Pairwise (· ≤ ·))
    (hrun : run step (new demuxer) as = some r) :
    r.events.count .kStreamReadData = (if .success ∈ r.reads then 1 else 0) ∧
    r.events.count .kStreamReadError ≤ 1 ∧
    (.kStreamReadError ∈ r.events →
      r.demuxer.pc = .stopped ∧ r.events.getLast? = some .kStreamReadError) ∧
    ∀ p now, p ++ [.failure now] <+: r.reads →
      ((∃ before t after, p ++ [.failure now] = before ++ .failure t :: after ∧
          .success ∉ after ∧ t + kReadErrorMaxInterval * second ≤ now) ↔
        p ++ [.failure now] = r.reads ∧ .kStreamReadError ∈ r.events) := by
  have hr := accounted_of_run hrun
  refine ⟨?_, ?_, ?_, ?_⟩
  · rw [hr.data]
    simp only [hr.first]
  · by_cases herror : .kStreamReadError ∈ r.events
    · rcases hr.error herror with ⟨-, p, now, es, -, -, hevents, hnone⟩
      rw [hevents, List.count_append, List.count_eq_zero.mpr hnone]
      simp
    · rw [List.count_eq_zero.mpr herror]
      exact Nat.zero_le 1
  · intro herror
    rcases hr.error herror with ⟨hstopped, p, now, es, -, -, hevents, -⟩
    exact ⟨hstopped, by rw [hevents, List.getLast?_concat]⟩
  · intro p now hbegins
    have hsorted : (times (p ++ [.failure now])).Pairwise (· ≤ ·) := by
      refine List.Pairwise.sublist ?_ htimes
      exact (hbegins.sublist.filterMap _).trans (times_of_run hrun)
    rw [← overdue_iff hsorted]
    constructor
    · exact hr.prompt p now hbegins
    · rintro ⟨heq, herror⟩
      rcases hr.error herror with ⟨-, p', now', es, hreads, hover, -⟩
      rw [hreads, List.append_singleton_inj] at heq
      rcases heq with ⟨rfl, heq⟩
      cases heq
      exact hover

/-- A stream that fails, recovers, and then fails for three seconds. -/
def failing : List Action :=
  [.move (fun _ => none) .go 0, .move (fun _ => none) .error 1, .move (fun _ => none) .go (2 * second),
    .move (fun _ => none) .go (2 * second), .move (fun _ => none) .otherStream (4 * second),
    .move (fun _ => none) .go (4 * second), .move (fun _ => none) .error (4 * second),
    .move (fun _ => none) .go (5 * second), .move (fun _ => none) .go (5 * second),
    .move (fun _ => none) .error (5 * second), .move (fun _ => none) .go (8 * second)]

/-- A stream that is open and has not been read. -/
def live : Demuxer := ⟨true, true, -1, false, .none, 0, 0, false, .stopped, none, false⟩

theorem failing_runs : (run step (new live) failing).isSome = true := by decide +kernel

theorem failing_gives_up :
    ((run step (new live) failing).get failing_runs).events.count .kStreamReadError ≤ 1 :=
  (gives_up_in_time (by decide +kernel) (Option.some_get failing_runs).symm).2.1

example : (run step (new live) failing).map events = some [.kStreamReadData, .kStreamReadError] := by
  decide +kernel

/-- What a step does to the loop playback and its reports. -/
structure LoopStep (r r' : DemuxThread) (es : List EventType) : Prop where
  loopMode : r'.demuxer.loopMode = r.demuxer.loopMode
  maxLoops : r'.demuxer.maxLoops = r.demuxer.maxLoops
  isRealTime : r'.demuxer.isRealTime = r.demuxer.isRealTime
  events : r'.events = r.events ++ es
  count : r'.demuxer.currentLoopCount = r.demuxer.currentLoopCount + es.count .kStreamLooped
  looped : .kStreamLooped ∈ es → es = [.kStreamLooped] ∧ r.demuxer.pc.looping = true
  looping : r'.demuxer.pc.looping = true → r.demuxer.pc.looping = true ∧ es = [] ∨
    es = [.kStreamEnded] ∧ r.demuxer.mayLoop = true
  ofFile : r.demuxer.isRealTime = true → r.demuxer.pc.ofFile = false →
    r'.demuxer.pc.ofFile = false ∧ .kStreamEnded ∉ es ∧ .kStreamLooped ∉ es

/-- A step that neither handles the end of a file nor completes a loop. -/
theorem LoopStep.plain {r r' : DemuxThread} {queue : MediaType → Option PacketQueue}
    {c : Demuxer.Choice} {es : List EventType} (hm : r.demuxer.LoopMove r'.demuxer queue c)
    (hevents : r'.events = r.events ++ es) (hended : .kStreamEnded ∉ es)
    (hlooped : .kStreamLooped ∉ es) (hnot : ¬(r.demuxer.pc = .looped ∧ c = .rewound true))
    (hes : es = [] ∨ r.demuxer.pc.looping = false)
    (htest : ¬(r.demuxer.pc = .emptyTest .audio ∧
      ((queue .audio).any fun q => !q.isEmpty) = false)) : LoopStep r r' es where
  loopMode := hm.loopMode
  maxLoops := hm.maxLoops
  isRealTime := hm.isRealTime
  events := hevents
  count := by
    rcases hm.count with ⟨hcount, -⟩ | ⟨hpc, hc, -⟩
    · rw [hcount, List.count_eq_zero.mpr hlooped]
      simp
    · exact absurd ⟨hpc, hc⟩ hnot
  looped := fun h => absurd h hlooped
  looping := by
    intro h
    rcases hm.looping h with ⟨hlooping, -⟩ | ⟨hpc, hempty, -⟩
    · rcases hes with hes | hes
      · exact Or.inl ⟨hlooping, hes⟩
      · rw [hlooping] at hes
        contradiction
    · exact absurd ⟨hpc, hempty⟩ htest
  ofFile := fun hreal hpc => ⟨hm.ofFile hreal hpc, hended, hlooped⟩

theorem report_loops {r : DemuxThread} {demuxer : Demuxer} {queue : MediaType → Option PacketQueue}
    {c : Demuxer.Choice} (hm : r.demuxer.LoopMove demuxer queue c) :
    ∃ es, LoopStep r ({ r with demuxer := demuxer }.report queue r.demuxer.pc c) es := by
  have hquiet (hnot : ¬(r.demuxer.pc = .looped ∧ c = .rewound true))
      (htest : ¬(r.demuxer.pc = .emptyTest .audio ∧
        ((queue .audio).any fun q => !q.isEmpty) = false)) :
      LoopStep r { r with demuxer := demuxer } [] :=
    .plain hm (List.append_nil _).symm List.not_mem_nil List.not_mem_nil hnot (Or.inl rfl) htest
  cases hpc : r.demuxer.pc with
  | read =>
    have hread : LoopStep r ({ r with demuxer := demuxer } : DemuxThread).succeeded
        (if r.readFirstPacket then [] else [.kStreamReadData]) := by
      apply LoopStep.plain hm
      · rw [succeeded]
        dsimp only
        split_ifs <;> simp
      · split_ifs <;> simp
      · split_ifs <;> simp
      · simp [hpc]
      · exact Or.inr (by simp [hpc])
      · simp [hpc]
    have hpending : LoopStep r { r with demuxer := demuxer, reads := r.reads ++ [.neutral] } [] :=
      .plain hm (List.append_nil _).symm List.not_mem_nil List.not_mem_nil (by simp [hpc])
        (Or.inl rfl) (by simp [hpc])
    cases c with
    | packet media packet => exact ⟨_, hread⟩
    | otherStream => exact ⟨_, hread⟩
    | again => exact ⟨_, hpending⟩
    | eof =>
      rw [report]
      split_ifs
      · exact ⟨_, hquiet (by simp) (by simp [hpc])⟩
      · exact ⟨_, hpending⟩
    | _ => exact ⟨_, hquiet (by simp [hpc]) (by simp [hpc])⟩
  | emptyTest media =>
    cases media with
    | video => exact ⟨_, hquiet (by simp [hpc]) (by simp [hpc])⟩
    | audio =>
      rw [report]
      split_ifs with hempty
      · exact ⟨_, hquiet (by simp [hpc]) (by simp [hempty])⟩
      · refine ⟨[.kStreamEnded], hm.loopMode, hm.maxLoops, hm.isRealTime, rfl, ?_, by simp, ?_, ?_⟩
        · rcases hm.count with ⟨hcount, -⟩ | ⟨hlooped, -⟩
          · simp [hcount]
          · rw [hpc] at hlooped
            contradiction
        · intro h
          rcases hm.looping h with ⟨hlooping, -⟩ | ⟨-, -, hmay⟩
          · rw [hpc] at hlooping
            contradiction
          · exact Or.inr ⟨rfl, hmay⟩
        · simp [hpc]
  | looped =>
    have hgone : demuxer.pc.looping = true → False := by
      intro h
      rcases hm.looping h with ⟨-, hne⟩ | ⟨htest, -⟩
      · exact hne hpc
      · rw [hpc] at htest
        contradiction
    cases c with
    | rewound ok =>
      cases ok with
      | false => exact ⟨_, hquiet (by simp) (by simp [hpc])⟩
      | true =>
        refine ⟨[.kStreamLooped], hm.loopMode, hm.maxLoops, hm.isRealTime, rfl, ?_, by simp [hpc],
          fun h => (hgone h).elim, by simp [hpc]⟩
        rcases hm.count with ⟨-, hnot⟩ | ⟨-, -, hcount⟩
        · exact absurd ⟨hpc, rfl⟩ hnot
        · exact hcount
    | _ => exact ⟨_, hquiet (by simp) (by simp [hpc])⟩
  | _ => exact ⟨_, hquiet (by simp [hpc]) (by simp [hpc])⟩

/-- A step of another thread, or one that ends the thread. -/
theorem LoopStep.outside {r r' : DemuxThread}
    (hmode : r'.demuxer.loopMode = r.demuxer.loopMode)
    (hmax : r'.demuxer.maxLoops = r.demuxer.maxLoops)
    (hreal : r'.demuxer.isRealTime = r.demuxer.isRealTime) (hevents : r'.events = r.events)
    (hcount : r'.demuxer.currentLoopCount = r.demuxer.currentLoopCount)
    (hpc : r'.demuxer.pc = r.demuxer.pc ∨ r'.demuxer.pc = .stopped) : LoopStep r r' [] where
  loopMode := hmode
  maxLoops := hmax
  isRealTime := hreal
  events := by rw [hevents, List.append_nil]
  count := by simp [hcount]
  looped := by simp
  looping := by
    intro h
    rcases hpc with hpc | hpc
    · exact Or.inl ⟨hpc ▸ h, rfl⟩
    · rw [hpc] at h
      contradiction
  ofFile := by
    intro _ hfile
    rcases hpc with hpc | hpc
    · exact ⟨hpc ▸ hfile, by simp, by simp⟩
    · exact ⟨by rw [hpc]; rfl, by simp, by simp⟩

theorem step_loops {r r' : DemuxThread} {a : Action} (h : r.step a = some r')
    (ha : ∀ mode maxLoops, a ≠ .setLoopMode mode maxLoops) : ∃ es, LoopStep r r' es := by
  cases a with
  | move queue c now =>
    rw [step, move] at h
    split at h
    · rw [Option.some.injEq] at h
      rw [← h]
      exact ⟨_, .outside rfl rfl rfl rfl rfl (Or.inr rfl)⟩
    · split at h
      · rename_i hpc
        simp only [Option.map_eq_some_iff] at h
        rcases h with ⟨⟨demuxer, effect⟩, hm, rfl⟩
        refine ⟨if (r.handleReadError now).1 then [.kStreamReadError] else [],
          .plain (Demuxer.move_loops hm) ?_ ?_ ?_ ?_ (Or.inr (by simp [hpc])) (by simp [hpc])⟩
        · dsimp only
          rw [(handleReadError_snd r now).2.1]
          split_ifs <;> simp
        · split_ifs <;> simp
        · split_ifs <;> simp
        · simp
      · simp only [Option.map_eq_some_iff] at h
        rcases h with ⟨⟨demuxer, effect⟩, hm, rfl⟩
        exact report_loops (Demuxer.move_loops hm)
  | leavePause =>
    rw [step, Option.ite_none_right_eq_some, Option.some.injEq] at h
    rcases h with ⟨-, rfl⟩
    exact ⟨_, .outside rfl rfl rfl rfl rfl (Or.inr rfl)⟩
  | setLoopMode mode maxLoops => exact absurd rfl (ha mode maxLoops)
  | seek ms | setPaused paused | interrupt =>
    rw [step, Option.some.injEq] at h
    rw [← h]
    exact ⟨_, .outside rfl rfl rfl rfl rfl (Or.inl rfl)⟩

/-- The counter, the reports and the place of the thread agree about the loops made. -/
structure LoopsTold (d : Demuxer) (r : DemuxThread) : Prop where
  loopMode : r.demuxer.loopMode = d.loopMode
  maxLoops : r.demuxer.maxLoops = d.maxLoops
  isRealTime : r.demuxer.isRealTime = d.isRealTime
  count : r.demuxer.currentLoopCount = d.currentLoopCount + r.events.count .kStreamLooped
  looping : r.demuxer.pc.looping = true →
    r.demuxer.mayLoop = true ∧ r.events.getLast? = some .kStreamEnded
  follows : ∀ es rest, r.events = es ++ .kStreamLooped :: rest → es.getLast? = some .kStreamEnded
  limit : .kStreamLooped ∈ r.events → d.loopMode ≠ .none ∧
    (d.loopMode = .single → 0 < d.maxLoops → r.demuxer.currentLoopCount ≤ d.maxLoops)
  ofFile : d.isRealTime = true →
    r.demuxer.pc.ofFile = false ∧ .kStreamEnded ∉ r.events ∧ .kStreamLooped ∉ r.events

theorem loopsTold_new (demuxer : Demuxer) : LoopsTold demuxer (new demuxer) where
  loopMode := rfl
  maxLoops := rfl
  isRealTime := rfl
  count := by simp [new]
  looping := by simp [new]
  follows := by simp [new]
  limit := by simp [new]
  ofFile := by simp [new]

theorem LoopsTold.step {d : Demuxer} {r r' : DemuxThread} {a : Action} (hr : LoopsTold d r)
    (ha : ∀ mode maxLoops, a ≠ .setLoopMode mode maxLoops) (h : r.step a = some r') :
    LoopsTold d r' := by
  rcases step_loops h ha with ⟨es, hs⟩
  have hmay (hm : r.demuxer.mayLoop = true) (hes : .kStreamLooped ∉ es) :
      r'.demuxer.mayLoop = true := by
    have hcount : r'.demuxer.currentLoopCount = r.demuxer.currentLoopCount := by
      rw [hs.count, List.count_eq_zero.mpr hes]
      simp
    rw [Demuxer.mayLoop] at hm ⊢
    rwa [hs.loopMode, hs.maxLoops, hcount]
  -- a loop is reported where the thread had passed the limit, right after the end it follows
  have hlimit (hes : .kStreamLooped ∈ es) : d.loopMode ≠ .none ∧
      (d.loopMode = .single → 0 < d.maxLoops → r'.demuxer.currentLoopCount ≤ d.maxLoops) := by
    rcases hs.looped hes with ⟨heq, hpc⟩
    have hm := (hr.looping hpc).1
    rw [Demuxer.mayLoop, hr.loopMode, hr.maxLoops] at hm
    have hcount : r'.demuxer.currentLoopCount = r.demuxer.currentLoopCount + 1 := by
      rw [hs.count, heq]
      rfl
    constructor
    · intro hnone
      rw [hnone] at hm
      contradiction
    · intro hsingle hmax
      simp only [hsingle, Bool.not_eq_true', Bool.and_eq_false_iff, decide_eq_false_iff_not] at hm
      rcases hm with hm | hm
      · exact absurd hmax hm
      · omega
  refine ⟨hs.loopMode.trans hr.loopMode, hs.maxLoops.trans hr.maxLoops,
    hs.isRealTime.trans hr.isRealTime, ?_, ?_, ?_, ?_, ?_⟩
  · rw [hs.count, hr.count, hs.events, List.count_append]
    push_cast
    ring
  · intro hpc'
    rcases hs.looping hpc' with ⟨hpc, hes⟩ | ⟨hes, hm⟩
    · rcases hr.looping hpc with ⟨hm, hlast⟩
      refine ⟨hmay hm (by simp [hes]), ?_⟩
      rwa [hs.events, hes, List.append_nil]
    · refine ⟨hmay hm (by simp [hes]), ?_⟩
      rw [hs.events, hes, List.getLast?_concat]
  · intro before rest heq
    rw [hs.events] at heq
    rcases List.append_eq_append_iff.mp heq with ⟨mid, hbefore, hes⟩ | ⟨mid, hold, hrest⟩
    · -- the report is one of the step's own, so it is its only one
      have hmem : .kStreamLooped ∈ es := by simp [hes]
      rcases hs.looped hmem with ⟨hone, hpc⟩
      rw [hone] at hes
      have hmid : mid = [] := by
        cases mid with
        | nil => rfl
        | cons e mid => simp at hes
      rw [hbefore, hmid, List.append_nil]
      exact (hr.looping hpc).2
    · cases mid with
      | nil =>
        have hmem : .kStreamLooped ∈ es := by
          rw [List.nil_append] at hrest
          simp [← hrest]
        rw [List.append_nil] at hold
        rw [← hold]
        exact (hr.looping (hs.looped hmem).2).2
      | cons e mid =>
        rw [List.cons_append, List.cons.injEq] at hrest
        rw [← hrest.1] at hold
        exact hr.follows before mid hold
  · intro hmem
    rw [hs.events, List.mem_append] at hmem
    by_cases hes : .kStreamLooped ∈ es
    · exact hlimit hes
    · have hcount : r'.demuxer.currentLoopCount = r.demuxer.currentLoopCount := by
        rw [hs.count, List.count_eq_zero.mpr hes]
        simp
      rw [hcount]
      exact hr.limit (hmem.resolve_right hes)
  · intro hreal
    rcases hr.ofFile hreal with ⟨hpc, hended, hlooped⟩
    rcases hs.ofFile (hr.isRealTime.trans hreal) hpc with ⟨hpc', hended', hlooped'⟩
    rw [hs.events, List.mem_append, List.mem_append]
    exact ⟨hpc', not_or.mpr ⟨hended, hended'⟩, not_or.mpr ⟨hlooped, hlooped'⟩⟩

/-- In every run under one loop mode each loop is reported right after the end of the stream and
counted once, the mode and its maximum are kept to, and a real-time stream neither ends nor loops. -/
theorem loops_counted {demuxer : Demuxer} {r : DemuxThread} {as : List Action}
    (has : ∀ a ∈ as, ∀ mode maxLoops, a ≠ .setLoopMode mode maxLoops)
    (hrun : run step (new demuxer) as = some r) :
    r.demuxer.currentLoopCount = demuxer.currentLoopCount + r.events.count .kStreamLooped ∧
    (∀ es rest, r.events = es ++ .kStreamLooped :: rest → es.getLast? = some .kStreamEnded) ∧
    (.kStreamLooped ∈ r.events → demuxer.loopMode ≠ .none ∧
      (demuxer.loopMode = .single → 0 < demuxer.maxLoops →
        r.demuxer.currentLoopCount ≤ demuxer.maxLoops)) ∧
    (demuxer.isRealTime = true →
      .kStreamEnded ∉ r.events ∧ .kStreamLooped ∉ r.events) := by
  have hr : LoopsTold demuxer r :=
    run_invariant_of (fun _ _ _ hr ha h => hr.step ha h) (loopsTold_new demuxer) has hrun
  exact ⟨hr.count, hr.follows, hr.limit, fun hreal => (hr.ofFile hreal).2⟩

/-- An empty file is played once more, and then ends. -/
def onceMore : List Action :=
  let ending : List Action :=
    [.move (fun _ => none) .go 0, .move (fun _ => none) .go 0, .move (fun _ => none) .eof 0,
      .move (fun _ => none) .go 0, .move (fun _ => none) .go 0, .move (fun _ => none) .go 0,
      .move (fun _ => none) .go 0]
  ending ++ [.move (fun _ => none) .go 0, .move (fun _ => none) .go 0, .move (fun _ => none) .go 0,
    .move (fun _ => none) (.sought true) 0, .move (fun _ => none) .go 0,
    .move (fun _ => none) .go 0, .move (fun _ => none) (.rewound true) 0] ++ ending

/-- A file that is played at most twice. -/
def twice : Demuxer := ⟨true, false, -1, false, .single, 1, 0, false, .stopped, none, false⟩

theorem onceMore_runs : (run step (new twice) onceMore).isSome = true := by decide +kernel

theorem onceMore_counted :
    let r := (run step (new twice) onceMore).get onceMore_runs
    r.demuxer.currentLoopCount = twice.currentLoopCount + r.events.count .kStreamLooped :=
  (loops_counted (by simp [onceMore]) (Option.some_get onceMore_runs).symm).1

example : (run step (new twice) onceMore).map events =
    some [.kStreamEnded, .kStreamLooped, .kStreamEnded] := by decide +kernel

end DemuxThread

end DecoderSDK
