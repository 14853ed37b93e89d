import DecoderSDK.Decode.Generations

/-! # The drop filter of a decode loop

Out of seeking mode a decode loop drops the frames below `seekPosMs`. Only a
frame at or past it clears it, so that the filter comes into force when the
loop starts, when it ends a serial change, or when the target is set.
-/
namespace DecoderSDK.Decoder

/-- The loop has caught up with its queue, is out of seeking mode and drops frames. -/
def filters (d : Decoder) : Bool :=
  d.pc.started && d.serial = d.packetQueue.serial && !d.demuxerSeeking && 0 < d.seekPosMs

theorem filters_iff (d : Decoder) : d.filters = true ↔ d.pc.started = true ∧
    d.serial = d.packetQueue.serial ∧ d.demuxerSeeking = false ∧ 0 < d.seekPosMs := by
  simp [filters, and_assoc]

@[simp] theorem handleDecodeError_seekPosMs (d : Decoder) (error : AvError) :
    (d.handleDecodeError error).2.seekPosMs = d.seekPosMs := by
  unfold handleDecodeError
  split_ifs <;> rfl

@[simp] theorem report_seekPosMs (d : Decoder) :
    d.reportFirstFrame.reportRecovery.seekPosMs = d.seekPosMs := by
  unfold reportFirstFrame reportRecovery
  split_ifs <;> rfl

@[simp] theorem sendFailed_seekPosMs (d : Decoder) (error : AvError) (now : ℕ) (reopened : Bool) :
    (d.sendFailed error now reopened).seekPosMs = d.seekPosMs := by
  unfold sendFailed
  cases d.media with
  | audio => rfl
  | video =>
    simp only
    split_ifs <;> rfl

/-- The loop only ever clears the target. -/
theorem seekPosMs_loop {d d' : Decoder} {c : Choice} (h : d.loop c = some d') :
    d'.seekPosMs = d.seekPosMs ∨ d'.seekPosMs = -1 := by
  unfold loop at h
  cases hpc : d.pc with
  | arrived frame =>
    simp only [hpc, Option.some.injEq] at h
    rw [← h]
    exact .inr rfl
  | idle | done => simp [hpc] at h
  | start | startFlush | head | preBuffer | pause | resumed | check | flushCodec | reread
  | endSeeking | popFailed | staleTest packet | seekingTest frame | seekPosTest frame
  | fill slot frame | commit slot frame =>
    simp only [hpc, Option.some.injEq] at h
    rw [← h]
    exact .inl rfl
  | paused =>
    simp only [hpc, Option.ite_none_left_eq_some, Option.some.injEq] at h
    rw [← h.2]
    exact .inl rfl
  | keyGate packet =>
    simp only [hpc] at h
    split_ifs at h
    · rw [← Option.some.inj h]
      exact .inl rfl
    · rw [← Option.some.inj h]
      exact .inl rfl
  | pop =>
    left
    simp only [hpc] at h
    split at h
    · rw [← Option.some.inj h]
      rfl
    · rw [← Option.some.inj h]
  | send packet =>
    left
    simp only [hpc] at h
    split at h
    · split at h <;> rw [← Option.some.inj h]
      · rfl
      · rfl
      · rfl
      · exact sendFailed_seekPosMs ..
    · simp at h
  | receive =>
    left
    simp only [hpc] at h
    split at h
    · rw [← Option.some.inj h]
      rfl
    · rw [← Option.some.inj h]
      rfl
    · rw [← Option.some.inj h]
      exact handleDecodeError_seekPosMs ..
    · simp at h
  | resample frame =>
    left
    simp only [hpc] at h
    split at h
    · rw [← Option.some.inj h]
      rfl
    · rw [← Option.some.inj h]
      exact handleDecodeError_seekPosMs ..
    · simp at h
  | convert frame =>
    left
    simp only [hpc] at h
    split at h
    · rw [← Option.some.inj h]
      exact report_seekPosMs d
    · rw [← Option.some.inj h]
      exact (handleDecodeError_seekPosMs ..).trans (report_seekPosMs d)
    · rw [← Option.some.inj h]
      exact report_seekPosMs d
    · simp at h
  | getWritable frame =>
    left
    simp only [hpc, Option.ite_none_left_eq_some] at h
    cases hslot : d.frameQueue.getWritableFrame.1 with
    | none =>
      simp only [hslot, Option.some.injEq] at h
      rw [← h.2]
      rfl
    | some slot =>
      simp only [hslot, Option.some.injEq] at h
      rw [← h.2]
  | pace slot frame =>
    left
    simp only [hpc] at h
    split at h
    · rw [← Option.some.inj h]
      rfl
    · rw [← Option.some.inj h]
      rfl
    · simp at h

/-- The next step of the loop takes over the serial of its queue out of seeking mode, or leaves
seeking mode with it. -/
def endsChange (d : Decoder) : Bool :=
  match d.pc with
  | .reread => !d.demuxerSeeking
  | .endSeeking => d.serial = d.packetQueue.serial
  | _ => false

theorem started_loop {d d' : Decoder} {c : Choice} (h : d.loop c = some d') :
    d'.pc.started = true := by
  cases loop_change h with
  | silent h => exact h.quiet.started.2
  | start hpc hpc' => simp [hpc']
  | current packet hpc hserial h | received frame hpc hsources h => rcases h with rfl | rfl <;> rfl
  | sent packet hpc hkeeps hsent hpc' => rcases hpc' with h | h | h <;> simp [h]
  | startFlush _ h | changed _ _ h | flushCodec _ h | reread _ h | endSeeking _ h | popped _ _ _ h
  | passed _ _ _ h | reserved _ _ _ _ h | filled _ _ _ h | committed _ _ _ h => simp [h]

/-- The loop begins to drop frames only when it starts or ends a serial change. -/
theorem filters_loop {d d' : Decoder} {c : Choice} (hd : Generation d) (h : d.loop c = some d')
    (hfilters : d'.filters = true) : d'.seekPosMs = d.seekPosMs ∧
      (d.filters = true ∨ d.pc = .start ∧ d.demuxerSeeking = false ∨ d.endsChange = true) := by
  rw [filters_iff] at hfilters
  rcases hfilters with ⟨-, hserial, hseeking, hpos⟩
  have hsame : d'.seekPosMs = d.seekPosMs := by
    rcases seekPosMs_loop h with h | h
    · exact h
    · omega
  rw [hsame] at hpos
  refine ⟨hsame, ?_⟩
  have hkept (hstarted : d.pc.started = true) (hlocal : d'.serial = d.serial)
      (hqueue : d'.packetQueue.serial = d.packetQueue.serial)
      (hflag : d'.demuxerSeeking = d.demuxerSeeking) : d.filters = true := by
    rw [filters_iff, ← hlocal, ← hqueue, ← hflag]
    exact ⟨hstarted, hserial, hseeking, hpos⟩
  cases loop_change h with
  | silent h =>
    exact .inl (hkept h.quiet.started.1 h.serial (by rw [h.packetQueue]) h.demuxerSeeking)
  | start hpc hpc' serial packetQueue frameQueue demuxerSeeking =>
    exact .inr (.inl ⟨hpc, by rw [← demuxerSeeking]; exact hseeking⟩)
  | startFlush hpc h =>
    subst h
    left
    cases hrt : d.isRealTime with
    | true =>
      have hle := hd.serial_le
      simp only [hrt, if_true, PacketQueue.flush_serial] at hserial
      omega
    | false => exact hkept (by simp [hpc]) rfl (by simp [hrt]) rfl
  | reread hpc h =>
    subst h
    right; right
    simpa [endsChange, hpc] using hseeking
  | endSeeking hpc h =>
    subst h
    right; right
    simpa [endsChange, hpc] using hserial
  | popped packet hpc hpop h =>
    subst h
    exact .inl (hkept (by simp [hpc]) rfl (by simp) rfl)
  | current packet hpc hserial h =>
    left
    rcases h with rfl | rfl <;> exact hkept (by simp [hpc]) rfl rfl rfl
  | sent packet hpc hkeeps =>
    exact .inl (hkept (by simp [hpc]) hkeeps.serial (by rw [hkeeps.packetQueue])
      hkeeps.demuxerSeeking)
  | received frame hpc hsources h =>
    left
    rcases h with rfl | rfl <;> exact hkept (by simp [hpc]) rfl rfl rfl
  | changed hpc _ h | flushCodec hpc h | passed _ hpc _ h | reserved _ _ hpc _ h
  | filled _ _ hpc h | committed _ _ hpc h =>
    subst h
    exact .inl (hkept (by simp [hpc]) rfl rfl rfl)

/-- A loop that ends a serial change drops the frames below its target. -/
theorem filters_of_endsChange {d d' : Decoder} {c : Choice} (h : d.loop c = some d')
    (hends : d.endsChange = true) (hpos : 0 < d.seekPosMs) :
    d'.filters = true ∧ d'.seekPosMs = d.seekPosMs := by
  unfold endsChange at hends
  split at hends
  · next hpc =>
    simp only [loop, hpc, Option.some.injEq] at h
    subst h
    rw [filters_iff]
    exact ⟨⟨rfl, rfl, by simpa using hends, hpos⟩, rfl⟩
  · next hpc =>
    simp only [loop, hpc, Option.some.injEq] at h
    subst h
    rw [filters_iff]
    exact ⟨⟨rfl, by simpa using hends, rfl, hpos⟩, rfl⟩
  · cases hends

/-- What makes a decoder drop frames: it did before, its loop starts or ends a serial change, or
the controller sets the target. -/
theorem filters_step {d d' : Decoder} {b : Action} (hd : Generation d) (h : d.step b = some d')
    (hfilters : d'.filters = true) :
    (d.filters = true ∧ d'.seekPosMs = d.seekPosMs) ∨
      (∃ c, b = .loop c ∧ d'.seekPosMs = d.seekPosMs ∧
        (d.pc = .start ∧ d.demuxerSeeking = false ∨ d.endsChange = true)) ∨
      ∃ ms, b = .setSeekPosMs ms ∧ d' = { d with seekPosMs := ms } := by
  cases b with
  | loop c =>
    rcases filters_loop hd h hfilters with ⟨hsame, hold | hends⟩
    · exact .inl ⟨hold, hsame⟩
    · exact .inr (.inl ⟨c, rfl, hsame, hends⟩)
  | setSeekPosMs ms =>
    simp only [step, Option.some.injEq] at h
    exact .inr (.inr ⟨ms, rfl, h.symm⟩)
  | start codecId hwAccel needFix =>
    simp only [step, Option.ite_none_right_eq_some, Option.some.injEq] at h
    rcases h with ⟨-, rfl⟩
    simp [filters, startInternal] at hfilters
  | flush | queueStart =>
    simp only [step, Option.some.injEq] at h
    subst h
    rw [filters_iff] at hfilters
    have hle := hd.serial_le
    have hserial : d.serial = d.packetQueue.serial + 1 := hfilters.2.1
    omega
  | setDemuxerSeeking =>
    simp only [step, Option.some.injEq] at h
    subst h
    simp [filters] at hfilters
  | push packet =>
    simp only [step, Option.some.injEq] at h
    subst h
    left
    simpa [filters] using hfilters
  | queueAbort | popFrame | clearFrames | setAbortStatus | setPaused | setWaitingForPreBuffer
  | interrupt =>
    simp only [step, Option.some.injEq] at h
    subst h
    exact .inl ⟨hfilters, rfl⟩

/-- A decoder whose loop has not read a serial gets a target only in seeking mode. -/
def Unstarted (d : Decoder) : Prop :=
  d.pc.started = false → d.demuxerSeeking = false → d.seekPosMs ≤ 0

theorem Unstarted.step {d d' : Decoder} {b : Action} (hd : Unstarted d)
    (hset : ∀ ms, b = .setSeekPosMs ms → d.pc.started = false → d.demuxerSeeking = true)
    (h : d.step b = some d') : Unstarted d' := by
  cases b with
  | loop c =>
    intro hstarted
    rw [started_loop h] at hstarted
    cases hstarted
  | start codecId hwAccel needFix =>
    simp only [Decoder.step, Option.ite_none_right_eq_some, Option.some.injEq] at h
    rcases h with ⟨-, rfl⟩
    intro _ _
    exact le_rfl
  | setSeekPosMs ms =>
    simp only [Decoder.step, Option.some.injEq] at h
    subst h
    intro hstarted hseeking
    rw [show d.demuxerSeeking = true from hset ms rfl hstarted] at hseeking
    cases hseeking
  | setDemuxerSeeking =>
    simp only [Decoder.step, Option.some.injEq] at h
    subst h
    intro _ hseeking
    cases hseeking
  | push | flush | queueStart | queueAbort | popFrame | clearFrames | setAbortStatus
  | setPaused | setWaitingForPreBuffer | interrupt =>
    simp only [Decoder.step, Option.some.injEq] at h
    subst h
    exact hd

/-- The seeking flag of a decoder whose loop has not read a serial is only ever raised. -/
theorem unstarted_seeking {d d' : Decoder} {b : Action} (h : d.step b = some d')
    (hstart : ∀ codecId hwAccel needFix, b ≠ .start codecId hwAccel needFix)
    (hd : d.pc.started = false → d.demuxerSeeking = true) (hstarted : d'.pc.started = false) :
    d'.demuxerSeeking = true := by
  cases b with
  | loop c =>
    rw [started_loop h] at hstarted
    cases hstarted
  | start codecId hwAccel needFix => exact absurd rfl (hstart codecId hwAccel needFix)
  | setDemuxerSeeking =>
    simp only [step, Option.some.injEq] at h
    subst h
    rfl
  | push | flush | queueStart | queueAbort | popFrame | clearFrames | setAbortStatus
  | setSeekPosMs | setPaused | setWaitingForPreBuffer | interrupt =>
    simp only [step, Option.some.injEq] at h
    subst h
    exact hd hstarted

end DecoderSDK.Decoder
