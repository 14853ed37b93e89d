import DecoderSDK.Decode.Events
import DecoderSDK.Retrying.Deadline

/-! # The fallback to software decoding

A packet that the codec refuses as invalid, while it decodes in hardware and
no frame has come out, starts a clock; the first frame stops it. The thread
reopens the codec in software at the first such refusal after the tolerance.
-/
namespace DecoderSDK.Decoder
open Interleaving Retrying

/-- The codec decodes in hardware. -/
def hardware (d : Decoder) : Bool := d.codecCtx.any Codec.hwDevice

/-- The refusals that count: of a video codec in hardware, before its first frame. -/
def refusal (d : Decoder) (error : AvError) : Bool :=
  d.media = .video && !d.readFirstFrame && d.shouldFallbackToSoftware error

/-- What a step means for the clock: the start and the first frame stop it. -/
def attempt (d : Decoder) (a : Action) : Option Attempt :=
  match d.pc, a with
  | .start, .loop _ => some .success
  | .convert _, .loop _ =>
    if d.readFirstFrame = false ∧ d.media = .video then some .success else none
  | .send _, .loop (.sent (.error error) now _) =>
    if d.refusal error then some (.failure now) else none
  | _, _ => none

/-- When the clock was read. -/
def Action.time : Action → Option ℕ
  | .loop (.sent _ now _) => some now
  | _ => none

/-- Everything a step can do to the clock and the hardware. -/
inductive Clocked (d d' : Decoder) : Option Attempt → Prop where
  | same (hclock : d'.errorStartTime = d.errorStartTime) (hhardware : d'.hardware = d.hardware) :
      Clocked d d' none
  | stopped (hclock : d'.errorStartTime = none) (hhardware : d'.hardware = d.hardware) :
      Clocked d d' (some .success)
  | refused (now : ℕ) (hhardware : d.hardware = true)
      (hclock : d'.errorStartTime = some (d.errorStartTime.getD now))
      (hhardware' : d'.hardware = d.hardware)
      (htime : now - d.errorStartTime.getD now < kDefaultFallbackToleranceTime) :
      Clocked d d' (some (.failure now))
  | fellBack (now : ℕ) (hhardware : d.hardware = true) (hhardware' : d'.hardware = false)
      (htime : kDefaultFallbackToleranceTime ≤ now - d.errorStartTime.getD now) :
      Clocked d d' (some (.failure now))

@[simp] theorem hardware_sendPacket (d : Decoder) (packet : Packet) :
    (d.sendPacket packet).hardware = d.hardware := by
  rw [hardware, hardware, sendPacket]
  cases d.codecCtx <;> rfl

@[simp] theorem hardware_flushBuffers (d : Decoder) : d.flushBuffers.hardware = d.hardware := by
  rw [hardware, hardware, flushBuffers]
  cases d.codecCtx <;> rfl

theorem handleDecodeError_clock (d : Decoder) (error : AvError) :
    (d.handleDecodeError error).2.errorStartTime = d.errorStartTime ∧
      (d.handleDecodeError error).2.hardware = d.hardware := by
  rw [handleDecodeError]
  split_ifs
  · exact ⟨rfl, rfl⟩
  · exact ⟨rfl, hardware_flushBuffers d⟩

theorem report_clock (d : Decoder) :
    d.reportFirstFrame.reportRecovery.errorStartTime =
        (if d.readFirstFrame = false ∧ d.media = .video then none else d.errorStartTime) ∧
      d.reportFirstFrame.reportRecovery.hardware = d.hardware := by
  cases hfirst : d.readFirstFrame <;> cases herr : d.occuredError <;>
    simp [reportFirstFrame, reportRecovery, hfirst, herr, hardware]

theorem sendFailed_clock (d : Decoder) (error : AvError) (now : ℕ) (reopened : Bool) :
    Clocked d (d.sendFailed error now reopened)
      (if d.refusal error then some (.failure now) else none) := by
  cases hmedia : d.media with
  | audio =>
    rw [refusal, hmedia, if_neg (by simp), sendFailed, hmedia]
    exact .same rfl rfl
  | video =>
    by_cases hrefusal : d.refusal error = true
    · rw [if_pos hrefusal]
      simp only [refusal, hmedia, decide_true, Bool.true_and, Bool.and_eq_true,
        Bool.not_eq_true'] at hrefusal
      rcases hrefusal with ⟨hfirst, hshould⟩
      have hhardware : d.hardware = true := by
        simp only [shouldFallbackToSoftware, Bool.and_eq_true] at hshould
        exact hshould.1.2
      rw [sendFailed, hmedia]
      dsimp only
      rw [hfirst, hshould, if_neg (by simp)]
      by_cases htime : now - d.errorStartTime.getD now < kDefaultFallbackToleranceTime
      · rw [if_pos htime]
        exact .refused now hhardware rfl rfl htime
      · rw [if_neg htime]
        apply Clocked.fellBack now hhardware _ (not_lt.mp htime)
        cases reopened <;> rfl
    · have hskip : (d.readFirstFrame || !d.shouldFallbackToSoftware error) = true := by
        simp only [refusal, hmedia, decide_true, Bool.true_and, Bool.and_eq_true,
          Bool.not_eq_true', not_and, Bool.not_eq_true] at hrefusal
        cases hfirst : d.readFirstFrame with
        | true => rfl
        | false => simp [hrefusal hfirst]
      rw [if_neg hrefusal, sendFailed, hmedia]
      dsimp only
      rw [if_pos hskip]
      exact .same rfl rfl

theorem refusal_sendPacket (d : Decoder) (packet : Packet) (error : AvError) :
    (d.sendPacket packet).refusal error = d.refusal error := by
  have h := hardware_sendPacket d packet
  rw [hardware, hardware] at h
  rw [refusal, refusal, shouldFallbackToSoftware, shouldFallbackToSoftware, h]
  rfl

/-- Handing a packet to the codec is no part of what its answer does. -/
theorem Clocked.of_sendPacket {d d' : Decoder} {packet : Packet} {a : Option Attempt}
    (h : Clocked (d.sendPacket packet) d' a) : Clocked d d' a := by
  have hsame := hardware_sendPacket d packet
  cases h with
  | same hclock hhardware => exact .same hclock (hhardware.trans hsame)
  | stopped hclock hhardware => exact .stopped hclock (hhardware.trans hsame)
  | refused now hhardware hclock hhardware' htime =>
    exact .refused now (hsame.symm.trans hhardware) hclock (hhardware'.trans hsame) htime
  | fellBack now hhardware hhardware' htime =>
    exact .fellBack now (hsame.symm.trans hhardware) hhardware' htime

theorem loop_clocked {d d' : Decoder} {c : Choice} (h : d.loop c = some d') :
    Clocked d d' (d.attempt (.loop c)) := by
  unfold loop at h
  cases hpc : d.pc with
  | idle => simp [hpc] at h
  | done => simp [hpc] at h
  | start =>
    simp only [hpc, Option.some.injEq] at h
    unfold attempt
    rw [hpc, ← h]
    exact .stopped rfl rfl
  | flushCodec =>
    simp only [hpc, Option.some.injEq] at h
    unfold attempt
    rw [hpc, ← h]
    exact .same rfl (hardware_flushBuffers d)
  | startFlush | reread | endSeeking | arrived frame | head | preBuffer | pause | check | popFailed
  | seekingTest frame | seekPosTest frame | resumed | staleTest packet | fill slot frame
  | commit slot frame =>
    simp only [hpc, Option.some.injEq] at h
    unfold attempt
    rw [hpc, ← h]
    exact .same rfl rfl
  | paused =>
    simp only [hpc, Option.ite_none_left_eq_some, Option.some.injEq] at h
    unfold attempt
    rw [hpc, ← h.2]
    exact .same rfl rfl
  | pop =>
    simp only [hpc] at h
    unfold attempt
    rw [hpc]
    cases hpop : d.packetQueue.pop.1 <;> simp only [hpop, Option.some.injEq] at h <;> rw [← h] <;>
      exact .same rfl rfl
  | keyGate packet =>
    simp only [hpc] at h
    unfold attempt
    rw [hpc]
    split_ifs at h <;> simp only [Option.some.injEq] at h <;> rw [← h] <;> exact .same rfl rfl
  | send packet =>
    simp only [hpc] at h
    unfold attempt
    rw [hpc]
    cases c with
    | sent result now reopened =>
      have hsent : Clocked d ((d.sendPacket packet).goto .receive) none :=
        .same rfl (hardware_sendPacket d packet)
      have hfailed (error : AvError) :
          Clocked d ((d.sendPacket packet).sendFailed error now reopened)
            (if d.refusal error then some (.failure now) else none) := by
        rw [← refusal_sendPacket d packet]
        exact (sendFailed_clock (d.sendPacket packet) error now reopened).of_sendPacket
      cases result with
      | ok =>
        simp only [Option.some.injEq] at h
        rw [← h]
        exact hsent
      | error error =>
        cases error with
        | eagain | eof =>
          simp only [Option.some.injEq] at h
          simp only [refusal, shouldFallbackToSoftware, reduceCtorEq, decide_false, Bool.and_false,
            Bool.false_eq_true, if_false]
          rw [← h]
          exact hsent
        | invalidData | other =>
          simp only [Option.some.injEq] at h
          rw [← h]
          exact hfailed _
    | _ => simp at h
  | receive =>
    simp only [hpc] at h
    unfold attempt
    rw [hpc]
    split at h
    · simp only [Option.some.injEq] at h
      rw [← h]
      exact .same rfl rfl
    · simp only [Option.some.injEq] at h
      rw [← h]
      exact .same rfl rfl
    · simp only [Option.some.injEq] at h
      rw [← h]
      rcases handleDecodeError_clock d _ with ⟨hclock, hhardware⟩
      exact .same hclock hhardware
    · simp at h
  | resample frame =>
    simp only [hpc] at h
    unfold attempt
    rw [hpc]
    split at h
    · simp only [Option.some.injEq] at h
      rw [← h]
      exact .same rfl rfl
    · simp only [Option.some.injEq] at h
      rw [← h]
      rcases handleDecodeError_clock d _ with ⟨hclock, hhardware⟩
      exact .same hclock hhardware
    · simp at h
  | convert frame =>
    rcases report_clock d with ⟨hclock, hhardware⟩
    have hreport (d'' : Decoder)
        (hclock' : d''.errorStartTime = d.reportFirstFrame.reportRecovery.errorStartTime)
        (hhardware' : d''.hardware = d.reportFirstFrame.reportRecovery.hardware) :
        Clocked d d'' (d.attempt (.loop c)) := by
      rw [hclock] at hclock'
      unfold attempt
      rw [hpc]
      dsimp only
      split_ifs at hclock' ⊢
      · exact .stopped hclock' (hhardware'.trans hhardware)
      · exact .same hclock' (hhardware'.trans hhardware)
    simp only [hpc] at h
    split at h
    · simp only [Option.some.injEq] at h
      rw [← h]
      exact hreport _ rfl rfl
    · simp only [Option.some.injEq] at h
      rw [← h]
      rcases handleDecodeError_clock d.reportFirstFrame.reportRecovery .other with
        ⟨hclock', hhardware'⟩
      exact hreport _ hclock' hhardware'
    · simp only [Option.some.injEq] at h
      rw [← h]
      exact hreport _ rfl rfl
    · simp at h
  | getWritable frame =>
    simp only [hpc, Option.ite_none_left_eq_some] at h
    unfold attempt
    rw [hpc]
    cases hslot : d.frameQueue.getWritableFrame.1 <;> simp only [hslot, Option.some.injEq] at h <;>
      rw [← h.2] <;> exact .same rfl rfl
  | pace slot frame =>
    simp only [hpc] at h
    unfold attempt
    rw [hpc]
    split at h
    · simp only [Option.some.injEq] at h
      rw [← h]
      exact .same rfl rfl
    · simp only [Option.some.injEq] at h
      rw [← h]
      exact .same rfl rfl
    · simp at h

/-- Only the start gives a codec its hardware. -/
theorem step_clocked {d d' : Decoder} {a : Action} (h : d.step a = some d') :
    Clocked d d' (d.attempt a) ∨ d.pc = .idle ∧ d'.pc = .start ∧ d.attempt a = none ∧
      d'.errorStartTime = d.errorStartTime := by
  have hnone (hloop : ∀ c, a ≠ .loop c) : d.attempt a = none := by
    unfold attempt
    split
    · rename_i c _
      exact absurd rfl (hloop c)
    · rename_i c _
      exact absurd rfl (hloop c)
    · exact absurd rfl (hloop _)
    · rfl
  cases a with
  | loop c => exact Or.inl (loop_clocked h)
  | start codecId hwAccel needFix =>
    simp only [step, Option.ite_none_right_eq_some, Option.some.injEq] at h
    rcases h with ⟨hpc, rfl⟩
    exact Or.inr ⟨hpc, rfl, hnone (by simp), rfl⟩
  | _ =>
    simp only [step, Option.some.injEq] at h
    rw [hnone (by simp), ← h]
    exact Or.inl (.same rfl rfl)

theorem attempt_failure {d : Decoder} {a : Action} {now : ℕ}
    (h : d.attempt a = some (.failure now)) :
    ∃ packet reopened, d.pc = .send packet ∧
      a = .loop (.sent (.error .invalidData) now reopened) ∧ d.refusal .invalidData = true := by
  unfold attempt at h
  split at h
  · simp at h
  · split_ifs at h
    simp at h
  · rename_i packet error now' reopened hpc
    split_ifs at h with hrefusal
    cases h
    have herror : error = .invalidData := by
      simp only [refusal, shouldFallbackToSoftware, Bool.and_eq_true, decide_eq_true_eq] at hrefusal
      exact hrefusal.2.2
    subst herror
    exact ⟨packet, reopened, hpc, rfl, hrefusal⟩
  · contradiction

theorem idle_of_step {d d' : Decoder} {a : Action} (h : d.step a = some d')
    (hpc' : d'.pc = .idle) : d.pc = .idle := by
  cases a with
  | loop c =>
    have hstarted := (loop_reporting h).1
    rw [hpc'] at hstarted
    contradiction
  | start codecId hwAccel needFix =>
    simp only [step, Option.ite_none_right_eq_some] at h
    exact h.1
  | _ =>
    simp only [step, Option.some.injEq] at h
    rwa [← h] at hpc'

/-- While the codec decodes in hardware the clock is that of its refusals. -/
structure Follows (attempts : List Attempt) (d : Decoder) : Prop where
  clock : d.errorStartTime = since attempts ∨ d.hardware = false ∧ d.pc ≠ .idle
  idle : d.pc = .idle → d.hardware = false

theorem Follows.since {attempts : List Attempt} {d : Decoder} (h : Follows attempts d)
    (hhardware : d.hardware = true) : d.errorStartTime = Retrying.since attempts := by
  rcases h.clock with hclock | ⟨hnot, -⟩
  · exact hclock
  · rw [hhardware] at hnot
    contradiction

theorem Follows.step {attempts : List Attempt} {d d' : Decoder} {a : Action}
    (hd : Follows attempts d) (h : d.step a = some d') :
    Follows (attempts ++ (d.attempt a).toList) d' := by
  have hidle : d.pc ≠ .idle → d'.pc ≠ .idle := fun hne hpc' => hne (idle_of_step h hpc')
  rcases step_clocked h with hclocked | ⟨hpc, hpc', hnone, hsame⟩
  · generalize hattempt : d.attempt a = attempt at hclocked
    cases hclocked with
    | same hclock hhardware =>
      rw [Option.toList_none, List.append_nil]
      refine ⟨?_, fun hpc' => hhardware.trans (hd.idle (idle_of_step h hpc'))⟩
      rcases hd.clock with hc | ⟨hnot, hne⟩
      · exact Or.inl (hclock.trans hc)
      · exact Or.inr ⟨hhardware.trans hnot, hidle hne⟩
    | stopped hclock hhardware =>
      refine ⟨Or.inl ?_, fun hpc' => hhardware.trans (hd.idle (idle_of_step h hpc'))⟩
      rw [Option.toList_some, since_snoc, hclock]
      rfl
    | refused now hhardware hclock hhardware' htime =>
      refine ⟨Or.inl ?_, fun hpc' => hhardware'.trans (hd.idle (idle_of_step h hpc'))⟩
      rw [Option.toList_some, since_snoc, hclock, hd.since hhardware]
      rfl
    | fellBack now hhardware hhardware' htime =>
      rcases attempt_failure hattempt with ⟨packet, reopened, hpc, -⟩
      exact ⟨Or.inr ⟨hhardware', hidle (by simp [hpc])⟩, fun _ => hhardware'⟩
  · refine ⟨Or.inl ?_, by simp [hpc']⟩
    rw [hnone, Option.toList_none, List.append_nil, hsame]
    exact hd.clock.resolve_right (fun hnot => hnot.2 hpc)

/-- The refusals that count, and what makes them good, along a run. -/
def attempts (d : Decoder) (as : List Action) : List Attempt :=
  outputs Decoder.step attempt d as

theorem times_attempts (d : Decoder) (as : List Action) :
    (times (d.attempts as)).Sublist (as.filterMap Action.time) := by
  induction as generalizing d with
  | nil => exact List.Sublist.refl _
  | cons a as ih =>
    rw [attempts, outputs]
    cases hstep : Decoder.step d a with
    | none => exact List.nil_sublist _
    | some d' =>
      have hcons : (a :: as).filterMap Action.time =
          a.time.toList ++ as.filterMap Action.time := by
        cases h : a.time <;> simp [h]
      rw [times_append, hcons]
      apply List.Sublist.append _ (ih d')
      cases hattempt : d.attempt a with
      | none => exact List.nil_sublist _
      | some attempt =>
        cases attempt with
        | success => exact List.nil_sublist _
        | neutral => exact List.nil_sublist _
        | failure now =>
          rcases attempt_failure hattempt with ⟨packet, reopened, -, rfl, -⟩
          exact List.Sublist.refl _

/-- Hardware that is given up does not come back. -/
theorem software_step {d d' : Decoder} {a : Action} (hd : d.hardware = false ∧ d.pc ≠ .idle)
    (h : d.step a = some d') : d'.hardware = false ∧ d'.pc ≠ .idle := by
  refine ⟨?_, fun hpc' => hd.2 (idle_of_step h hpc')⟩
  rcases step_clocked h with hclocked | ⟨hpc, -⟩
  · generalize d.attempt a = attempt at hclocked
    cases hclocked with
    | same hclock hhardware => exact hhardware.trans hd.1
    | stopped hclock hhardware => exact hhardware.trans hd.1
    | refused now hhardware hclock hhardware' htime => exact hhardware'.trans hd.1
    | fellBack now hhardware hhardware' htime => exact hhardware'
  · exact absurd hpc hd.2

/-- In every run a step gives up the hardware exactly when the codec refuses a packet as invalid,
no frame has come out, and such a refusal in the same row is at least the tolerance ago; and the
hardware is given up for good. -/
theorem falls_back_in_time {media : MediaType} {packetQueue : PacketQueue} {maxSize : ℕ}
    {isRealTime enableHardwareFallback enableParseUserSEIData : Bool} {d d' : Decoder}
    {as : List Action} {a : Action}
    (htimes : ((as ++ [a]).filterMap Action.time).Pairwise (· ≤ ·))
    (hrun : run Decoder.step (new media packetQueue maxSize isRealTime enableHardwareFallback
      enableParseUserSEIData) as = some d) (h : d.step a = some d') :
    ((d.hardware = true ∧ d'.hardware = false) ↔
      ∃ packet now reopened, d.pc = .send packet ∧
        a = .loop (.sent (.error .invalidData) now reopened) ∧ d.refusal .invalidData = true ∧
        ∃ before t after, (new media packetQueue maxSize isRealTime enableHardwareFallback
            enableParseUserSEIData).attempts as ++ [.failure now] = before ++ .failure t :: after ∧
          .success ∉ after ∧ t + kDefaultFallbackToleranceTime ≤ now) ∧
    (d'.hardware = false → d'.pc ≠ .idle → ∀ later d'', run Decoder.step d' later = some d'' →
      d''.hardware = false) := by
  have hfollows : Follows ((new media packetQueue maxSize isRealTime enableHardwareFallback
      enableParseUserSEIData).attempts as) d := by
    have hnew : Follows [] (new media packetQueue maxSize isRealTime enableHardwareFallback
        enableParseUserSEIData) := ⟨Or.inl rfl, fun _ => rfl⟩
    have hstep (l : List Attempt) (s : Decoder) (a : Action) (s' : Decoder) (hs : Follows l s)
        (hsa : Decoder.step s a = some s') : Follows (l ++ (attempt s a).toList) s' :=
      hs.step hsa
    exact outputs_invariant hstep hnew hrun
  have hsorted {now : ℕ} (hnow : a.time = some now) :
      (times ((new media packetQueue maxSize isRealTime enableHardwareFallback
        enableParseUserSEIData).attempts as ++ [.failure now])).Pairwise (· ≤ ·) := by
    refine List.Pairwise.sublist ?_ htimes
    rw [times_append, List.filterMap_append]
    apply List.Sublist.append (times_attempts _ as)
    simp [hnow]
  refine ⟨⟨?_, ?_⟩, ?_⟩
  · rintro ⟨hhardware, hsoftware⟩
    have hkept : d'.hardware ≠ d.hardware := by simp [hhardware, hsoftware]
    rcases step_clocked h with hclocked | ⟨hpc, -⟩
    · generalize hattempt : d.attempt a = attempt at hclocked
      cases hclocked with
      | same hclock hsame => exact absurd hsame hkept
      | stopped hclock hsame => exact absurd hsame hkept
      | refused now _ hclock hsame htime => exact absurd hsame hkept
      | fellBack now _ _ htime =>
        rcases attempt_failure hattempt with ⟨packet, reopened, hpc, rfl, hrefusal⟩
        refine ⟨packet, now, reopened, hpc, rfl, hrefusal, (overdue_iff (hsorted rfl)).mp ?_⟩
        rwa [Overdue, ← hfollows.since hhardware]
    · rw [hfollows.idle hpc] at hhardware
      contradiction
  · rintro ⟨packet, now, reopened, hpc, rfl, hrefusal, hrow⟩
    have hhardware : d.hardware = true := by
      simp only [refusal, shouldFallbackToSoftware, Bool.and_eq_true] at hrefusal
      exact hrefusal.2.1.2
    have hattempt : d.attempt (.loop (.sent (.error .invalidData) now reopened)) =
        some (.failure now) := by
      unfold attempt
      rw [hpc]
      exact if_pos hrefusal
    have hover := (overdue_iff (hsorted rfl)).mpr hrow
    rw [Overdue, ← hfollows.since hhardware] at hover
    rcases step_clocked h with hclocked | ⟨hpc', -⟩
    · rw [hattempt] at hclocked
      cases hclocked with
      | refused _ _ _ _ htime => exact absurd hover (not_le.mpr htime)
      | fellBack _ _ hsoftware _ => exact ⟨hhardware, hsoftware⟩
    · rw [hpc] at hpc'
      contradiction
  · intro hsoftware hpc' later d'' hlater
    exact (run_invariant (fun _ _ _ hd h => software_step hd h) ⟨hsoftware, hpc'⟩ hlater).1

/-- A codec in hardware refuses one key frame, and more than two seconds later is handed another. -/
def refusing : List Action :=
  let packet : Packet := ⟨some .keyFrame, 0⟩
  List.flatten
    [[.start .h264 (some .other) false, .push packet, .push packet], steps 9,
      [.loop (.sent (.error .invalidData) 100 false)], steps 7]

theorem refusing_runs :
    (run Decoder.step (new .video (.new 8) 3 false true false) refusing).isSome = true := by
  decide +kernel

theorem refusing_step :
    (((run Decoder.step (new .video (.new 8) 3 false true false) refusing).get refusing_runs).step
      (.loop (.sent (.error .invalidData) 2200 true))).isSome = true := by
  decide +kernel

theorem refusing_falls_back :
    let d := (run Decoder.step (new .video (.new 8) 3 false true false) refusing).get refusing_runs
    let d' := (d.step (.loop (.sent (.error .invalidData) 2200 true))).get refusing_step
    d'.hardware = false → d'.pc ≠ .idle → ∀ later d'', run Decoder.step d' later = some d'' →
      d''.hardware = false :=
  (falls_back_in_time (by decide) (Option.some_get refusing_runs).symm
    (Option.some_get refusing_step).symm).2

example : ((run Decoder.step (new .video (.new 8) 3 false true false)
    (refusing ++ [.loop (.sent (.error .invalidData) 2200 true)])).map fun d =>
      (d.hardware, d.pc)) = some (false, .head) := by decide +kernel

end DecoderSDK.Decoder
