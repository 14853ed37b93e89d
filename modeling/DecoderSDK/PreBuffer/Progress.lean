import DecoderSDK.PreBuffer.Player
import DecoderSDK.Filling.Levels

/-! # Whether the pre-buffer can still become ready

While all the decoders wait, nothing is taken out of the packet queues, and
the demux thread alone decides whether the pre-buffer becomes ready. What it
still has to do is a list of events on the queues: a packet is put in and the
levels are tested, and at the end of the file an end packet is offered to each
queue. A decoder comes to wait some time after its start; if the stream is
real-time, its thread flushes the queue before.
-/
namespace DecoderSDK.PreBuffer
open Interleaving Filling

/-- The instruction is one of `startDecode` or `stopDecode`. -/
def Instr.decoding : Instr → Bool
  | .openDecoder _ _ => true
  | .setWaiting _ => true
  | .startDecoder _ => true
  | .stopDecoder _ => true
  | _ => false

/-- The end packet for a queue, if the queue exists. -/
def offers (hasQueue : MediaType → Bool) (m : MediaType) : List (Event MediaType) :=
  if hasQueue m then [.offer m] else []

/-- What the thread does with the answers of `av_read_frame` that are still to come. -/
def events (hasQueue : MediaType → Bool) : List Read → List (Event MediaType)
  | [] => []
  | .packet m _ :: reads =>
    if hasQueue m then .put m :: .test :: events hasQueue reads else .test :: events hasQueue reads
  | .other :: reads => .test :: events hasQueue reads
  | .eof isEof :: reads =>
    if isEof then events hasQueue reads
    else offers hasQueue .video ++ (offers hasQueue .audio ++ events hasQueue reads)
  | .again :: reads => events hasQueue reads
  | .failed :: _ => []

namespace Demuxer

def hasQueue (dm : Demuxer) (m : MediaType) : Bool := (dm.queue m).isSome

/-- What the thread still has to do. -/
def upcoming (dm : Demuxer) : List (Event MediaType) :=
  match dm.pc with
  | .idle => []
  | .head => events dm.hasQueue dm.coming
  | .push m _ => .put m :: .test :: events dm.hasQueue dm.coming
  | .check => .test :: events dm.hasQueue dm.coming
  | .endPush .video =>
    offers dm.hasQueue .video ++ (offers dm.hasQueue .audio ++ events dm.hasQueue dm.coming)
  | .endPush .audio => offers dm.hasQueue .audio ++ events dm.hasQueue dm.coming
  | .callback => events dm.hasQueue dm.coming
  | .release _ => events dm.hasQueue dm.coming

def packetCount (dm : Demuxer) (m : MediaType) : ℕ := (dm.queue m).elim 0 fun q => q.queue.length

/-- The stream is there, is decoded and has a threshold, which the level meets. -/
def mediaGoal (dm : Demuxer) (level : MediaType → ℕ) (m : MediaType) : Bool :=
  dm.hasStream m && 0 < dm.preBufferFrames m && dm.hasQueue m && dm.preBufferFrames m ≤ level m

/-- The levels at which the pre-buffer is ready. -/
def goal (dm : Demuxer) (level : MediaType → ℕ) : Bool :=
  dm.preBufferEnabled && if dm.requireBothStreams then
      dm.mediaGoal level .video && dm.mediaGoal level .audio
    else dm.mediaGoal level .video || dm.mediaGoal level .audio

/-- The thread gets to a test that finds the thresholds met, without a queue filling up first. -/
def WillBeReady (dm : Demuxer) : Prop := Reaches 1000 dm.goal dm.packetCount dm.upcoming

/-- What holds of the queues and the thread while the demuxer stays open. -/
structure Steady (dm : Demuxer) : Prop where
  requestInterruption : dm.requestInterruption = false
  queue : ∀ m, ∀ q ∈ dm.queue m, q.aborted = false ∧ q.maxPacketCount = 1000
  push : ∀ m packet, dm.pc = .push m packet → dm.hasQueue m = true
  calling : dm.pc.calling = true → dm.preBufferReady = true

theorem goal_packetCount (dm : Demuxer) :
    dm.goal dm.packetCount = (dm.preBufferEnabled && dm.isReady) := by
  have hmedia : ∀ m, dm.mediaGoal dm.packetCount m = dm.mediaReady m := by
    intro m
    unfold mediaGoal mediaReady packetCount hasQueue
    cases dm.queue m with
    | none => simp
    | some q =>
      rw [Option.isSome_some, Bool.and_true, Option.elim_some, Option.any_some]
  simp only [goal, isReady, hmedia]

theorem canPush_iff {q : PacketQueue} (h : q.aborted = false ∧ q.maxPacketCount = 1000) :
    q.canPush = true ↔ q.queue.length < 1000 := by
  simp [PacketQueue.canPush, h.1, h.2]

theorem length_push {q : PacketQueue} (h : q.aborted = false ∧ q.maxPacketCount = 1000)
    (packet : Packet) :
    (q.push packet).2.queue.length =
      if q.queue.length < 1000 then q.queue.length + 1 else q.queue.length := by
  have hcan := canPush_iff h
  unfold PacketQueue.push
  by_cases hroom : q.queue.length < 1000
  · rw [if_neg (by simp [hcan.mpr hroom]), if_neg (by simp [h.1]), if_pos hroom]
    simp
  · rw [if_pos (by simp only [Bool.not_eq_true']; exact Bool.eq_false_iff.mpr (mt hcan.mp hroom)),
      if_neg hroom]

theorem packetCount_setQueue (dm : Demuxer) (m : MediaType) (q : PacketQueue) :
    (dm.setQueue m q).packetCount = Function.update dm.packetCount m q.queue.length := by
  funext m'
  by_cases hm : m' = m
  · subst hm
    simp [packetCount, setQueue]
  · simp [packetCount, setQueue, hm]

theorem hasQueue_setQueue {dm : Demuxer} {m : MediaType} (h : dm.hasQueue m = true)
    (q : PacketQueue) : (dm.setQueue m q).hasQueue = dm.hasQueue :=
  funext (setQueue_isSome h q)

theorem goal_setQueue {dm : Demuxer} {m : MediaType} (h : dm.hasQueue m = true)
    (q : PacketQueue) : (dm.setQueue m q).goal = dm.goal := by
  funext level
  simp only [goal, mediaGoal, hasQueue_setQueue h]
  rfl

theorem upcoming_congr {dm dm' : Demuxer} (hpc : dm'.pc = dm.pc) (hcoming : dm'.coming = dm.coming)
    (hqueue : dm'.hasQueue = dm.hasQueue) : dm'.upcoming = dm.upcoming := by
  simp only [upcoming, hpc, hcoming, hqueue]

/-- Reading an answer changes nothing in what is to be done. -/
theorem willBeReady_handle {dm : Demuxer} {read : Read} {reads : List Read} (hpc : dm.pc = .head)
    (hcoming : dm.coming = read :: reads) :
    dm.WillBeReady ↔ ({ dm with coming := reads }.handle read).WillBeReady := by
  have hupcoming : dm.upcoming = ({ dm with coming := reads }.handle read).upcoming := by
    simp only [upcoming, hpc, hcoming]
    cases read with
    | packet m packet =>
      cases hq : dm.queue m <;> simp [handle, goto, hq, events, hasQueue] <;> rfl
    | eof isEof => cases isEof <;> simp [handle, goto, events] <;> rfl
    | other | again | failed => simp [handle, goto, events] <;> rfl
  unfold WillBeReady
  rw [hupcoming]
  cases read <;> exact Iff.rfl

theorem willBeReady_push {dm : Demuxer} (hs : Steady dm) {m : MediaType} {packet : Packet}
    {q : PacketQueue} (hpc : dm.pc = .push m packet) (hq : dm.queue m = some q) :
    dm.WillBeReady ↔ q.queue.length < 1000 ∧
      ((dm.setQueue m (q.push packet).2).goto .check).WillBeReady := by
  have hm : dm.hasQueue m = true := by simp [hasQueue, hq]
  have hcount : dm.packetCount m = q.queue.length := by simp [packetCount, hq]
  have hgoal : ((dm.setQueue m (q.push packet).2).goto .check).goal = dm.goal := goal_setQueue hm _
  have hlevel : ((dm.setQueue m (q.push packet).2).goto .check).packetCount =
      Function.update dm.packetCount m (q.push packet).2.queue.length := packetCount_setQueue dm m _
  have hupcoming : ((dm.setQueue m (q.push packet).2).goto .check).upcoming =
      (dm.goto .check).upcoming := upcoming_congr rfl rfl (hasQueue_setQueue hm _)
  have hfirst : dm.upcoming = .put m :: (dm.goto .check).upcoming := by
    rw [upcoming, hpc]
    rfl
  unfold WillBeReady
  rw [hgoal, hlevel, hupcoming, hfirst, reaches_cons]
  simp only [reduceCtorEq, false_and, false_or, hasRoom, decide_eq_true_eq, hcount, after,
    length_push (hs.queue m q hq)]
  refine and_congr_right fun hroom => ?_
  rw [if_pos hroom]

theorem willBeReady_check {dm : Demuxer} (hpc : dm.pc = .check)
    (hready : dm.preBufferReady = false) :
    dm.WillBeReady ↔
      dm.checkPreBufferStatus.preBufferReady = true ∨ dm.checkPreBufferStatus.WillBeReady := by
  have hnext : (dm.goto .head).WillBeReady ↔
      Reaches 1000 dm.goal dm.packetCount (events dm.hasQueue dm.coming) := Iff.rfl
  have hfirst : dm.WillBeReady ↔ dm.goal dm.packetCount = true ∨ (dm.goto .head).WillBeReady := by
    rw [hnext]
    unfold WillBeReady
    rw [upcoming, hpc, reaches_cons]
    simp [hasRoom, after]
  rw [hfirst, goal_packetCount]
  unfold checkPreBufferStatus
  cases henabled : dm.preBufferEnabled with
  | false => simp [goto, hready]
  | true =>
    cases hfull : dm.isReady with
    | false => simp [goto, hready]
    | true => simp [hready]

theorem willBeReady_endPush {dm : Demuxer} (hs : Steady dm) {m : MediaType}
    (hpc : dm.pc = .endPush m) :
    dm.WillBeReady ↔ (((dm.queue m).elim dm fun q =>
      dm.setQueue m (q.push ⟨some (.ref .blank), q.serial⟩).2).goto
        (afterMedia m .endPush)).WillBeReady := by
  have hrest : dm.upcoming = offers dm.hasQueue m ++ (dm.goto (afterMedia m .endPush)).upcoming := by
    unfold upcoming
    rw [hpc]
    cases m <;> rfl
  cases hq : dm.queue m with
  | none =>
    have hoffers : offers dm.hasQueue m = [] := by simp [offers, hasQueue, hq]
    unfold WillBeReady
    rw [hrest, hoffers, List.nil_append]
    exact Iff.rfl
  | some q =>
    have hm : dm.hasQueue m = true := by simp [hasQueue, hq]
    have hcount : dm.packetCount m = q.queue.length := by simp [packetCount, hq]
    have hoffers : offers dm.hasQueue m = [.offer m] := by simp [offers, hm]
    rw [Option.elim_some]
    generalize hq' : (q.push ⟨some (.ref .blank), q.serial⟩).2 = q'
    have hlength : q'.queue.length =
        if q.queue.length < 1000 then q.queue.length + 1 else q.queue.length := by
      rw [← hq', length_push (hs.queue m q hq)]
    have hgoal : ((dm.setQueue m q').goto (afterMedia m .endPush)).goal = dm.goal :=
      goal_setQueue hm _
    have hlevel : ((dm.setQueue m q').goto (afterMedia m .endPush)).packetCount =
        Function.update dm.packetCount m q'.queue.length := packetCount_setQueue dm m _
    have hupcoming : ((dm.setQueue m q').goto (afterMedia m .endPush)).upcoming =
        (dm.goto (afterMedia m .endPush)).upcoming :=
      upcoming_congr rfl rfl (hasQueue_setQueue hm q')
    have hafter : after 1000 dm.packetCount (.offer m) =
        Function.update dm.packetCount m q'.queue.length := by
      simp only [after, hcount, hlength]
      split_ifs
      · rfl
      · rw [← hcount, Function.update_eq_self]
    unfold WillBeReady
    rw [hgoal, hlevel, hupcoming, hrest, hoffers, List.cons_append, List.nil_append, reaches_cons,
      hafter]
    simp [hasRoom]

/-- What the demux thread does in one step while no interruption is requested. -/
inductive Moved (dm : Demuxer) (autoStart : Bool) : Demuxer → Option MediaType → Prop where
  | read {read : Read} {reads : List Read} (hpc : dm.pc = .head)
      (hcoming : dm.coming = read :: reads) :
      Moved dm autoStart ({ dm with coming := reads }.handle read) none
  | pushed {m : MediaType} {packet : Packet} {q : PacketQueue} (hpc : dm.pc = .push m packet)
      (hq : dm.queue m = some q) (hcan : q.canPush = true) :
      Moved dm autoStart ((dm.setQueue m (q.push packet).2).goto .check) none
  | checked (hpc : dm.pc = .check) : Moved dm autoStart dm.checkPreBufferStatus none
  | ended {m : MediaType} (hpc : dm.pc = .endPush m) :
      Moved dm autoStart (((dm.queue m).elim dm fun q =>
        dm.setQueue m (q.push ⟨some (.ref .blank), q.serial⟩).2).goto (afterMedia m .endPush)) none
  | called (hpc : dm.pc = .callback) :
      Moved dm autoStart (dm.goto (if autoStart then .release .video else .head)) none
  | released {m : MediaType} (hpc : dm.pc = .release m) :
      Moved dm autoStart (dm.goto (afterMedia m .release)) (some m)

theorem Steady.moved {dm dm' : Demuxer} {autoStart : Bool} {effect : Option MediaType}
    (hs : Steady dm) (h : dm.move autoStart = some (dm', effect)) :
    Moved dm autoStart dm' effect := by
  cases hpc : dm.pc with
  | idle => simp [move, hpc] at h
  | head =>
    cases hcoming : dm.coming with
    | nil => simp [move, hpc, hs.requestInterruption, hcoming] at h
    | cons read reads =>
      have hmove : dm.move autoStart = some ({ dm with coming := reads }.handle read, none) := by
        simp [move, hpc, hs.requestInterruption, hcoming]
      rw [hmove, Option.some.injEq, Prod.mk.injEq] at h
      rcases h with ⟨rfl, rfl⟩
      exact .read hpc hcoming
  | push m packet =>
    simp only [move, hpc, Option.bind_eq_some_iff, Option.ite_none_right_eq_some, Option.some.injEq,
      Prod.mk.injEq] at h
    rcases h with ⟨q, hq, hcan, rfl, rfl⟩
    exact .pushed hpc hq hcan
  | check =>
    simp only [move, hpc, Option.some.injEq, Prod.mk.injEq] at h
    rcases h with ⟨rfl, rfl⟩
    exact .checked hpc
  | endPush m =>
    simp only [move, hpc, Option.some.injEq, Prod.mk.injEq] at h
    rcases h with ⟨rfl, rfl⟩
    exact .ended hpc
  | callback =>
    simp only [move, hpc, Option.some.injEq, Prod.mk.injEq] at h
    rcases h with ⟨rfl, rfl⟩
    exact .called hpc
  | release m =>
    simp only [move, hpc, Option.some.injEq, Prod.mk.injEq] at h
    rcases h with ⟨rfl, rfl⟩
    exact .released hpc

/-- The thread calls back and releases only when the pre-buffer is ready. -/
theorem Steady.calling_eq_false {dm : Demuxer} (hs : Steady dm)
    (hready : dm.preBufferReady = false) : dm.pc.calling = false := by
  by_contra hcalling
  have := hs.calling (by simpa using hcalling)
  simp [hready] at this

/-- A step of the thread makes the pre-buffer ready, or leaves open whether it will be. -/
theorem willBeReady_move {dm dm' : Demuxer} {autoStart : Bool} {effect : Option MediaType}
    (hs : Steady dm) (hready : dm.preBufferReady = false)
    (h : dm.move autoStart = some (dm', effect)) :
    dm.WillBeReady ↔ dm'.preBufferReady = true ∨ dm'.WillBeReady := by
  have hnot := hs.calling_eq_false hready
  cases hs.moved h with
  | @read read reads hpc hcoming =>
    have hsame : ({ dm with coming := reads }.handle read).preBufferReady = false := by
      cases read <;> exact hready
    simp [willBeReady_handle hpc hcoming, hsame]
  | pushed hpc hq hcan =>
    have hroom := (canPush_iff (hs.queue _ _ hq)).mp hcan
    rw [willBeReady_push hs hpc hq]
    simp [hroom, goto, setQueue, hready]
  | checked hpc => exact willBeReady_check hpc hready
  | @ended m hpc =>
    rw [willBeReady_endPush hs hpc]
    have hsame : (((dm.queue m).elim dm fun q =>
        dm.setQueue m (q.push ⟨some (.ref .blank), q.serial⟩).2).goto
          (afterMedia m .endPush)).preBufferReady = false := by
      cases dm.queue m <;> exact hready
    simp [hsame]
  | called hpc | released hpc => simp [hpc, Pc.calling] at hnot

/-- A thread that cannot move will not make the pre-buffer ready. -/
theorem not_willBeReady {dm : Demuxer} {autoStart : Bool} (hs : Steady dm)
    (h : dm.move autoStart = none) : ¬dm.WillBeReady := by
  unfold move at h
  cases hpc : dm.pc with
  | idle =>
    unfold WillBeReady
    rw [upcoming, hpc]
    exact reaches_nil _ _
  | head =>
    simp only [hpc, hs.requestInterruption, Bool.false_eq_true, if_false] at h
    cases hcoming : dm.coming with
    | nil =>
      unfold WillBeReady
      rw [upcoming, hpc, hcoming]
      exact reaches_nil _ _
    | cons read reads => simp [hcoming] at h
  | push m packet =>
    have hm := hs.push m packet hpc
    obtain ⟨q, hq⟩ := Option.isSome_iff_exists.mp hm
    simp only [hpc, hq, Option.bind_some, ite_eq_right_iff, reduceCtorEq, imp_false] at h
    rw [willBeReady_push hs hpc hq, ← canPush_iff (hs.queue m q hq)]
    exact fun hready => h hready.1
  | check | endPush | callback | release => simp [hpc] at h

theorem Steady.goto {dm : Demuxer} (hs : Steady dm) {pc : Pc}
    (hpush : ∀ m packet, pc = .push m packet → dm.hasQueue m = true)
    (hcalling : pc.calling = true → dm.preBufferReady = true) : Steady (dm.goto pc) :=
  ⟨hs.requestInterruption, hs.queue, hpush, hcalling⟩

theorem Steady.setQueue {dm : Demuxer} (hs : Steady dm) {m : MediaType} {q : PacketQueue}
    (hm : dm.hasQueue m = true) (hq : q.aborted = false ∧ q.maxPacketCount = 1000) :
    Steady (dm.setQueue m q) where
  requestInterruption := hs.requestInterruption
  queue := by
    intro m' q' hq'
    by_cases hm' : m' = m
    · subst hm'
      simp only [Demuxer.setQueue, Function.update_self, Option.mem_def, Option.some.injEq] at hq'
      rw [← hq']
      exact hq
    · simp only [Demuxer.setQueue, Function.update_of_ne hm'] at hq'
      exact hs.queue m' q' hq'
  push := by
    intro m' packet hpc
    rw [hasQueue_setQueue hm]
    exact hs.push m' packet hpc
  calling := hs.calling

theorem push_steady {q : PacketQueue} (h : q.aborted = false ∧ q.maxPacketCount = 1000)
    (packet : Packet) :
    (q.push packet).2.aborted = false ∧ (q.push packet).2.maxPacketCount = 1000 := by
  refine ⟨by simp [h.1], ?_⟩
  rcases PacketQueue.push_cases q packet with hpush | ⟨_, _, hpush⟩
  · rw [hpush]
    exact h.2
  · rw [hpush]
    unfold PacketQueue.updateStatisticsOnPush
    split_ifs <;> exact h.2

theorem Steady.of_move {dm dm' : Demuxer} {autoStart : Bool} {effect : Option MediaType}
    (hs : Steady dm) (h : dm.move autoStart = some (dm', effect)) : Steady dm' := by
  cases hs.moved h with
  | @read read reads hpc hcoming =>
    have hs' : Steady { dm with coming := reads } :=
      ⟨hs.requestInterruption, hs.queue, hs.push, hs.calling⟩
    cases read with
    | packet m packet =>
      refine hs'.goto (fun m' packet' hpc' => ?_) fun hcalling => ?_
      · cases hq : dm.queue m <;> simp [hq] at hpc'
        simp [hasQueue, ← hpc'.1, hq]
      · cases hq : dm.queue m <;> simp [hq, Pc.calling] at hcalling
    | eof isEof => cases isEof <;> exact hs'.goto (by simp) (by simp [Pc.calling])
    | other | again | failed => exact hs'.goto (by simp) (by simp [Pc.calling])
  | @pushed m packet q hpc hq hcan =>
    exact (hs.setQueue (by simp [hasQueue, hq]) (push_steady (hs.queue m q hq) packet)).goto
      (by simp) (by simp [Pc.calling])
  | checked hpc =>
    unfold checkPreBufferStatus
    split_ifs
    · exact hs.goto (by simp) (by simp [Pc.calling])
    · exact ⟨hs.requestInterruption, hs.queue, by simp, fun _ => rfl⟩
    · exact hs.goto (by simp) (by simp [Pc.calling])
  | @ended m hpc =>
    have hpc' : (∀ m' packet, afterMedia m .endPush ≠ .push m' packet) ∧
        (afterMedia m .endPush).calling = false := by
      cases m <;> exact ⟨by simp [afterMedia], rfl⟩
    cases hq : dm.queue m with
    | none =>
      exact hs.goto (fun m' packet h => absurd h (hpc'.1 m' packet)) (by simp [hpc'.2])
    | some q =>
      exact (hs.setQueue (by simp [hasQueue, hq]) (push_steady (hs.queue m q hq) _)).goto
        (fun m' packet h => absurd h (hpc'.1 m' packet)) (by simp [hpc'.2])
  | called hpc =>
    refine hs.goto (fun m packet h => ?_) fun _ => hs.calling (by rw [hpc]; rfl)
    split_ifs at h
  | @released m hpc =>
    refine hs.goto (fun m' packet h => ?_) fun _ => hs.calling (by rw [hpc]; rfl)
    cases m <;> simp [afterMedia] at h

/-- The thread releases nothing before the pre-buffer is ready. -/
theorem Steady.not_ready {dm dm' : Demuxer} {autoStart : Bool} {effect : Option MediaType}
    (hs : Steady dm) (h : dm.move autoStart = some (dm', effect))
    (hready' : dm'.preBufferReady = false) : dm.preBufferReady = false ∧ effect = none := by
  cases move_change h with
  | other hpc henabled hready hqueue => exact ⟨by rw [← hready]; exact hready', rfl⟩
  | fired hpc henabled hready hfull => simp at hready'
  | called hpc => exact ⟨hready', rfl⟩
  | released m hpc =>
    have hcalled := hs.calling (by rw [hpc]; rfl)
    simp [Demuxer.goto, hcalled] at hready'

/-- How many steps the thread takes at most before it waits for something or calls back. -/
def remaining (dm : Demuxer) : ℕ := 3 * dm.coming.length + match dm.pc with
  | .push _ _ => 2
  | .check => 1
  | .endPush .video => 2
  | .endPush .audio => 1
  | _ => 0

theorem remaining_move {dm dm' : Demuxer} {autoStart : Bool} {effect : Option MediaType}
    (hs : Steady dm) (hready : dm.preBufferReady = false) (hready' : dm'.preBufferReady = false)
    (h : dm.move autoStart = some (dm', effect)) : dm'.remaining < dm.remaining := by
  have hnot := hs.calling_eq_false hready
  cases hs.moved h with
  | @read read reads hpc hcoming =>
    simp only [remaining, hpc, hcoming, List.length_cons]
    cases read with
    | packet m packet =>
      cases hq : dm.queue m <;>
      · simp [Demuxer.handle, Demuxer.goto, hq]
        omega
    | eof isEof =>
      simp only [Demuxer.handle, Demuxer.goto]
      split_ifs <;> simp only <;> omega
    | other | again | failed =>
      simp only [Demuxer.handle, Demuxer.goto]
      omega
  | pushed hpc hq hcan => simp [remaining, hpc, Demuxer.goto, Demuxer.setQueue]
  | checked hpc =>
    unfold checkPreBufferStatus at hready' ⊢
    split_ifs at hready' ⊢ <;> simp [remaining, hpc, Demuxer.goto] at hready' ⊢
  | @ended m hpc =>
    cases hq : dm.queue m <;> cases m <;>
      simp [remaining, hpc, Demuxer.goto, Demuxer.setQueue, afterMedia]
  | called hpc | released hpc => simp [hpc, Pc.calling] at hnot

end Demuxer

namespace Player

/-- The player when `open` returns. -/
def opened (config : Config) (media : Media) : Player :=
  { new with config := config
             demuxer := Demuxer.new.openInternal config media
             decoder := fun m =>
               if media.hasStream m && config.decodeMediaType m then some ⟨false, false⟩ else none }

/-- The instructions of `open`, with nobody in between. -/
theorem run_openMedia (config : Config) (media : Media) :
    run Player.step new (.openMedia config (some media) :: List.replicate 7 .control) =
      some (opened config media) := by
  have hstream : (Demuxer.new.openInternal config media).hasStream = media.hasStream := by
    unfold Demuxer.openInternal
    split_ifs <;> rfl
  calc run Player.step new (.openMedia config (some media) :: List.replicate 7 .control)
      = run Player.step { new with config := config
                                   demuxer := Demuxer.new.openInternal config media
                                   code := [.createDecoder .video, .createDecoder .audio] }
          [.control, .control] := rfl
    _ = some (opened config media) := by
      simp only [run, Player.step, exec, hstream, Option.bind_some, opened, new]
      cases hvideo : media.hasStream .video && config.decodeMediaType .video <;>
        cases haudio : media.hasStream .audio && config.decodeMediaType .audio <;>
      · simp only [haudio, hstream, Bool.false_eq_true, if_false, if_true, Option.bind_some,
          Option.some.injEq, Player.mk.injEq, true_and, and_true]
        funext m
        cases m <;> simp [hvideo, haudio]

/-- The demux thread alone can make the pre-buffer ready. -/
def CanBeReady (s : Player) : Prop :=
  ∃ k s', run step s (List.replicate k .demux) = some s' ∧ s'.demuxer.preBufferReady = true

theorem step_demux {s s' : Player} (h : s.step .demux = some s') :
    ∃ effect, s.demuxer.move s.config.preBufferConfig.autoStartAfterPreBuffer =
        some (s'.demuxer, effect) ∧ (effect = none → s'.decoder = s.decoder) ∧
          s'.code = s.code := by
  rcases Option.map_eq_some_iff.mp h with ⟨⟨dm', effect⟩, hmove, rfl⟩
  cases effect with
  | none => exact ⟨none, hmove, fun _ => rfl, rfl⟩
  | some m => exact ⟨some m, hmove, by simp, rfl⟩

theorem canBeReady_of_willBeReady {s : Player} (hs : s.demuxer.Steady)
    (hready : s.demuxer.preBufferReady = false) (h : s.demuxer.WillBeReady) : s.CanBeReady := by
  induction hn : s.demuxer.remaining using Nat.strong_induction_on generalizing s with
  | _ n ih =>
    cases hstep : s.step .demux with
    | none =>
      have hmove : s.demuxer.move s.config.preBufferConfig.autoStartAfterPreBuffer = none := by
        simpa [step, demuxStep] using hstep
      exact absurd h (Demuxer.not_willBeReady hs hmove)
    | some s' =>
      obtain ⟨effect, hmove, _⟩ := step_demux hstep
      have hcons : ∀ k, run step s (List.replicate (k + 1) .demux) =
          run step s' (List.replicate k .demux) := by
        intro k
        rw [List.replicate_succ, run, hstep, Option.bind_some]
      cases hready' : s'.demuxer.preBufferReady with
      | true => exact ⟨1, s', by rw [hcons]; rfl, hready'⟩
      | false =>
        have hnext := (Demuxer.willBeReady_move hs hready hmove).mp h
        simp only [hready', Bool.false_eq_true, false_or] at hnext
        obtain ⟨k, t, hrun, ht⟩ := ih _ (hn ▸ Demuxer.remaining_move hs hready hready' hmove)
          (hs.of_move hmove) hready' hnext rfl
        exact ⟨k + 1, t, by rw [hcons]; exact hrun, ht⟩

theorem willBeReady_of_canBeReady {s : Player} (hs : s.demuxer.Steady)
    (hready : s.demuxer.preBufferReady = false) (h : s.CanBeReady) : s.demuxer.WillBeReady := by
  obtain ⟨k, t, hrun, ht⟩ := h
  induction k generalizing s with
  | zero =>
    simp only [List.replicate_zero, run, Option.some.injEq] at hrun
    rw [hrun, ht] at hready
    simp at hready
  | succ k ih =>
    rw [List.replicate_succ, run] at hrun
    rcases Option.bind_eq_some_iff.mp hrun with ⟨s', hstep, hrun⟩
    obtain ⟨effect, hmove, _⟩ := step_demux hstep
    rw [Demuxer.willBeReady_move hs hready hmove]
    cases hready' : s'.demuxer.preBufferReady with
    | true => exact Or.inl rfl
    | false => exact Or.inr (ih (hs.of_move hmove) hready' hrun)

def started (s : Player) (m : MediaType) : Bool := (s.decoder m).any (·.isStarted)

/-- There are decoders, and all of them are started and made to wait. -/
def allWait (s : Player) : Bool :=
  (s.waits .video || s.waits .audio) &&
    (s.waits .video || (s.decoder .video).isNone) && (s.waits .audio || (s.decoder .audio).isNone)

theorem allWait_false {s : Player} {m : MediaType} {d : Decoder} (hd : s.decoder m = some d)
    (h : (d.isStarted && d.waitingForPreBuffer) = false) : s.allWait = false := by
  have hwaits : s.waits m = false := by simp [waits, hd, h]
  unfold allWait
  cases m with
  | video => simp [hwaits, hd]
  | audio => simp [hwaits, hd]

/-- The instructions of `startDecode` and `stopDecode` leave the demuxer alone. -/
theorem exec_decoding {s s' : Player} {instr : Instr} (hinstr : instr.decoding = true)
    (h : s.exec instr = some s') :
    s'.demuxer = s.demuxer ∧ (s'.code = s.code ∨ s'.code = []) := by
  cases instr with
  | openDecoder m ok =>
    rw [← Option.some.inj h]
    split_ifs
    · exact ⟨rfl, .inl rfl⟩
    · exact ⟨rfl, .inr rfl⟩
    · exact ⟨rfl, .inl rfl⟩
  | setWaiting m | startDecoder m =>
    rw [← Option.some.inj h]
    split_ifs <;> exact ⟨rfl, .inl rfl⟩
  | stopDecoder m =>
    rw [← Option.some.inj h]
    exact ⟨rfl, .inl rfl⟩
  | _ => cases hinstr

end Player

/-- A player between two openings. The thread of a decoder that was started is entering until it
comes to its loop. -/
structure Playing where
  player : Player
  entering : MediaType → Bool

/-- What the threads do after `open`: the decoders are started and stopped, and their threads
enter their loops and take packets. -/
inductive Turn where
  | demux
  | startDecode (ok : MediaType → Bool)
  | stopDecode
  | control
  | enter (media : MediaType)
  | pop (media : MediaType)

namespace Playing

def advance (s : Playing) (a : Player.Action) : Option Playing :=
  (s.player.step a).map fun player => { s with player := player }

/-- An instruction of the controller may start a thread; it ends one only after that has entered
its loop. -/
def control (s : Playing) : Option Playing :=
  (s.player.step .control).bind fun player =>
    if s.entering .video && !player.started .video || s.entering .audio && !player.started .audio
    then none
    else some ⟨player, fun m => s.entering m || player.started m && !s.player.started m⟩

/-- The thread of a decoder comes to its loop; for a real-time stream it flushes its queue
first. -/
def enter (s : Playing) (m : MediaType) : Option Playing :=
  if s.entering m then
    (if s.player.demuxer.isRealTime then s.player.step (.flush m) else some s.player).map
      fun player => ⟨player, Function.update s.entering m false⟩
  else none

def turn (s : Playing) : Turn → Option Playing
  | .demux => s.advance .demux
  | .startDecode ok => s.advance (.startDecode ok)
  | .stopDecode => s.advance .stopDecode
  | .control => s.control
  | .enter m => s.enter m
  | .pop m => if s.entering m then none else s.advance (.pop m)

/-- The threads of all decoders are in their loops and wait. -/
def decodersWait (s : Playing) : Bool :=
  s.player.allWait && !s.entering .video && !s.entering .audio

/-- The decoders do not wait for what cannot happen any more. -/
def Progresses (s : Playing) : Prop :=
  s.decodersWait = true → s.player.demuxer.preBufferReady = false → s.player.CanBeReady

/-- When the last decoder comes to wait, enough packets are queued or to come. -/
def WaitsInTime (s : Playing) (_ : Turn) (s' : Playing) : Prop :=
  s.decodersWait = false → s'.decodersWait = true → s'.player.demuxer.preBufferReady = false →
    s'.player.demuxer.WillBeReady

/-- The queues stay open, and the controller only starts and stops decoders. -/
structure Sound (s : Playing) : Prop where
  steady : s.player.demuxer.Steady
  decoding : s.player.code.all Instr.decoding = true

/-- What the demux thread can do is decided by what is queued and to come. -/
theorem Sound.progresses_iff {s : Playing} (hs : Sound s) :
    s.Progresses ↔ (s.decodersWait = true → s.player.demuxer.preBufferReady = false →
      s.player.demuxer.WillBeReady) := by
  constructor
  · intro h hwait hready
    exact Player.willBeReady_of_canBeReady hs.steady hready (h hwait hready)
  · intro h hwait hready
    exact Player.canBeReady_of_willBeReady hs.steady hready (h hwait hready)

/-- If the decoders waited before and wait still, the hope that they had is kept. -/
def Keeps (s s' : Playing) : Prop :=
  s.decodersWait = true → s'.decodersWait = true → s'.player.demuxer.preBufferReady = false →
    s.player.demuxer.preBufferReady = false ∧
      (s.player.demuxer.WillBeReady → s'.player.demuxer.WillBeReady)

theorem keeps_of_demuxer {s s' : Playing} (h : s'.player.demuxer = s.player.demuxer) :
    Keeps s s' := by
  intro _ _ hready
  rw [h] at hready ⊢
  exact ⟨hready, id⟩

theorem keeps_of_not_wait {s s' : Playing} (h : s.decodersWait = false) : Keeps s s' := by
  intro hwait
  rw [h] at hwait
  cases hwait

theorem pop_steady {q : PacketQueue} (h : q.aborted = false ∧ q.maxPacketCount = 1000) :
    q.pop.2.aborted = false ∧ q.pop.2.maxPacketCount = 1000 := by
  refine ⟨by simp [h.1], ?_⟩
  rcases PacketQueue.pop_cases q with ⟨_, hpop⟩ | ⟨pkt, rest, _, hpop⟩
  · rw [hpop]
    exact h.2
  · rw [hpop]
    unfold PacketQueue.updateStatisticsOnPop
    split_ifs <;> exact h.2

namespace Sound

variable {s s' : Playing}

theorem demux (hs : Sound s) (h : s.turn .demux = some s') : Sound s' ∧ Keeps s s' := by
  rcases Option.map_eq_some_iff.mp h with ⟨player, hstep, rfl⟩
  obtain ⟨effect, hmove, hdecoder, hcode⟩ := Player.step_demux hstep
  refine ⟨⟨hs.steady.of_move hmove, by rw [hcode]; exact hs.decoding⟩, ?_⟩
  intro _ _ hready'
  have hready := hs.steady.not_ready hmove hready'
  refine ⟨hready.1, fun hwill => ?_⟩
  rcases (Demuxer.willBeReady_move hs.steady hready.1 hmove).mp hwill with hnow | hnext
  · exact absurd hnow (by simpa using hready')
  · exact hnext

/-- The controller takes its mutex for an operation on the decoders. -/
theorem call (hs : Sound s) {p : Player} {code : List Instr}
    (hplayer : p.demuxer = s.player.demuxer) (hcode : code.all Instr.decoding = true)
    (h : (p.call code).map (fun player => { s with player := player }) = some s') :
    Sound s' ∧ Keeps s s' := by
  rcases Option.map_eq_some_iff.mp h with ⟨next, hcall, rfl⟩
  have hnext : next.demuxer = s.player.demuxer ∧ next.code = code := by
    unfold Player.call at hcall
    split at hcall
    · rw [← Option.some.inj hcall]
      exact ⟨hplayer, rfl⟩
    · cases hcall
  refine ⟨⟨?_, ?_⟩, keeps_of_demuxer hnext.1⟩
  · rw [hnext.1]
    exact hs.steady
  · rw [hnext.2]
    exact hcode

theorem control (hs : Sound s) (h : s.turn .control = some s') : Sound s' ∧ Keeps s s' := by
  rcases Option.bind_eq_some_iff.mp h with ⟨player, hstep, hrest⟩
  have hplayer : s'.player = player := by
    split_ifs at hrest
    rw [← Option.some.inj hrest]
  have hexec : player.demuxer = s.player.demuxer ∧ player.code.all Instr.decoding = true := by
    simp only [Player.step] at hstep
    cases hcode : s.player.code with
    | nil => simp [hcode] at hstep
    | cons instr code =>
      have hall := hs.decoding
      rw [hcode, List.all_cons, Bool.and_eq_true] at hall
      rw [hcode] at hstep
      rcases Player.exec_decoding hall.1 hstep with ⟨hdemuxer, hcode' | hcode'⟩
      · exact ⟨hdemuxer, by rw [hcode']; exact hall.2⟩
      · exact ⟨hdemuxer, by rw [hcode']; rfl⟩
  rw [← hplayer] at hexec
  exact ⟨⟨by rw [hexec.1]; exact hs.steady, hexec.2⟩, keeps_of_demuxer hexec.1⟩

theorem enter {m : MediaType} (hs : Sound s) (h : s.turn (.enter m) = some s') :
    Sound s' ∧ Keeps s s' := by
  simp only [turn, Playing.enter, Option.ite_none_right_eq_some, Option.map_eq_some_iff] at h
  rcases h with ⟨hentering, player, hplayer, rfl⟩
  have hwait : s.decodersWait = false := by
    cases m <;> simp [decodersWait, hentering]
  refine ⟨?_, keeps_of_not_wait hwait⟩
  split_ifs at hplayer
  · rcases Option.map_eq_some_iff.mp hplayer with ⟨q, hq, rfl⟩
    exact ⟨hs.steady.setQueue (by simp [Demuxer.hasQueue, hq]) (hs.steady.queue m q hq),
      hs.decoding⟩
  · rw [← Option.some.inj hplayer]
    exact ⟨hs.steady, hs.decoding⟩

theorem pop {m : MediaType} (hs : Sound s) (h : s.turn (.pop m) = some s') :
    Sound s' ∧ Keeps s s' := by
  simp only [turn, Option.ite_none_left_eq_some, advance, Option.map_eq_some_iff] at h
  rcases h with ⟨-, player, hpop, rfl⟩
  simp only [Player.step, Player.popPacket] at hpop
  split at hpop
  · next d q hd hq =>
    simp only [Option.ite_none_right_eq_some, Option.some.injEq, Bool.and_eq_true,
      Bool.not_eq_true'] at hpop
    rcases hpop with ⟨⟨_, hwaiting⟩, rfl⟩
    have hwait : s.decodersWait = false := by
      simp [decodersWait, Player.allWait_false hd (by simp [hwaiting])]
    exact ⟨⟨hs.steady.setQueue (by simp [Demuxer.hasQueue, hq])
      (pop_steady (hs.steady.queue m q hq)), hs.decoding⟩, keeps_of_not_wait hwait⟩
  · cases hpop

/-- No step takes the hope of decoders that wait. -/
theorem step {a : Turn} (hs : Sound s) (h : s.turn a = some s') : Sound s' ∧ Keeps s s' := by
  cases a with
  | demux => exact hs.demux h
  | startDecode ok =>
    exact hs.call (p := { s.player with hasDecoderWhenReconnected := true }) rfl rfl h
  | stopDecode =>
    exact hs.call (p := { s.player with hasDecoderWhenReconnected := false }) rfl rfl h
  | control => exact hs.control h
  | enter m => exact hs.enter h
  | pop m => exact hs.pop h

end Sound

/-- The decoders wait only for what will happen. -/
structure Live (s : Playing) : Prop where
  sound : Sound s
  inTime : s.decodersWait = true → s.player.demuxer.preBufferReady = false →
    s.player.demuxer.WillBeReady

theorem Live.progresses_iff {s s' : Playing} {a : Turn} (hs : Live s) (h : s.turn a = some s') :
    s'.Progresses ↔ WaitsInTime s a s' := by
  obtain ⟨hsound, hkeeps⟩ := hs.sound.step h
  rw [hsound.progresses_iff]
  constructor
  · intro hin _ hwait' hready'
    exact hin hwait' hready'
  · intro hin hwait' hready'
    cases hwait : s.decodersWait with
    | false => exact hin hwait hwait' hready'
    | true =>
      rcases hkeeps hwait hwait' hready' with ⟨hready, hwill⟩
      exact hwill (hs.inTime hwait hready)

/-- Nothing is started yet. -/
def opened (config : Config) (media : Media) : Playing := ⟨.opened config media, fun _ => false⟩

theorem steady_openInternal (config : Config) (media : Media) :
    (Demuxer.new.openInternal config media).Steady := by
  have hqueue : ∀ m, ∀ q ∈ (Demuxer.new.openInternal config media).queue m,
      q.aborted = false ∧ q.maxPacketCount = 1000 := by
    intro m q hq
    have hq' : (if media.hasStream m && config.decodeMediaType m then
        some (PacketQueue.new 1000).start else none) = some q := by
      unfold Demuxer.openInternal at hq
      split_ifs at hq <;> exact hq
    split_ifs at hq' with hm
    rw [← Option.some.inj hq']
    exact ⟨rfl, rfl⟩
  unfold Demuxer.openInternal at hqueue ⊢
  split_ifs at hqueue ⊢
  · exact ⟨rfl, hqueue, by simp [Demuxer.setPreBufferConfig],
      by simp [Demuxer.setPreBufferConfig, Pc.calling]⟩
  · exact ⟨rfl, hqueue, by simp, by simp [Pc.calling]⟩

theorem sound_opened (config : Config) (media : Media) : Sound (opened config media) :=
  ⟨steady_openInternal config media, rfl⟩

theorem live_opened (config : Config) (media : Media) : Live (opened config media) := by
  refine ⟨sound_opened config media, fun hwait => ?_⟩
  have hnot : ∀ m, (Player.opened config media).waits m = false := by
    intro m
    simp only [Player.waits, Player.opened]
    split_ifs <;> rfl
  simp [decodersWait, Player.allWait, opened, hnot] at hwait

/-- The last decoder comes to wait in vain. -/
theorem not_each_progresses {s t s' : Playing} {turns : List Turn} {a : Turn} (hs : Sound s)
    (hrun : run turn s turns = some t) (h : t.turn a = some s')
    (hwaits : s'.decodersWait = true ∧ s'.player.demuxer.preBufferReady = false)
    (hreach : reaches 1000 s'.player.demuxer.goal s'.player.demuxer.packetCount
      s'.player.demuxer.upcoming = false) :
    ¬Each turn (fun _ _ s' => s'.Progresses) s (turns ++ [a]) := by
  intro heach
  have hlast := heach.of_append hrun
  rw [each_cons h] at hlast
  have ht : Sound t := run_invariant (fun _ _ _ hs h => (hs.step h).1) hs hrun
  have hwill := (ht.step h).1.progresses_iff.mp hlast.1 hwaits.1 hwaits.2
  rw [Demuxer.WillBeReady, ← reaches_iff, hreach] at hwill
  cases hwill

/-- A file with a video stream of some packets. -/
def videoMedia (packets : ℕ) : Media :=
  ⟨false, fun m => m = .video,
    List.replicate packets (.packet .video .keyFrame) ++ [.eof false]⟩

/-- The video decoder is started. -/
def starting : List Turn := .startDecode (fun _ => true) :: List.replicate 5 .control

end Playing

end DecoderSDK.PreBuffer
