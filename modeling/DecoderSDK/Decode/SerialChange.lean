import DecoderSDK.Decode.Generations

/-! # Serial changes and seeking mode

The loop leaves seeking mode when it notices that the serial of its packet
queue has changed. `changeAhead` says that it is still going to: the serials
differ, or the change is noticed, or the thread has not read a serial yet.
-/
namespace DecoderSDK.Decoder

/-- The loop is still going to notice a serial change, or to read its first serial. -/
def changeAhead (d : Decoder) : Bool :=
  d.serial ≠ d.packetQueue.serial || d.pc.clearing || !d.pc.started

/-- The loop has found its serial to be the queue's, and is not in a serial change. -/
def settled (d : Decoder) : Bool :=
  d.pc.started && !d.pc.clearing && d.serial = d.packetQueue.serial

theorem settled_eq (d : Decoder) : d.settled = !d.changeAhead := by
  simp only [settled, changeAhead]
  cases d.pc.started <;> cases d.pc.clearing <;>
    by_cases h : d.serial = d.packetQueue.serial <;> simp [h]

theorem changeAhead_of_serial {d : Decoder} (h : d.serial < d.packetQueue.serial) :
    d.changeAhead = true := by
  simp [changeAhead, h.ne]

theorem changeAhead_of_clearing {d : Decoder} (h : d.pc.clearing = true) :
    d.changeAhead = true := by
  simp only [changeAhead, h, Bool.or_true, Bool.true_or]

/-- Away from a serial change, only the serials count. -/
theorem changeAhead_congr {d d' : Decoder} (h : d.changeAhead = true)
    (hstarted : d.pc.started = true) (hclearing : d.pc.clearing = false)
    (hserial : d'.serial = d.serial)
    (hqueue : d'.packetQueue.serial = d.packetQueue.serial) : d'.changeAhead = true := by
  simp only [changeAhead, hstarted, hclearing, Bool.or_false, Bool.not_true] at h
  simp only [changeAhead, hserial, hqueue, h, Bool.true_or]

/-- A step of the loop gives up a serial change only by leaving seeking mode, or when the
thread reads its first serial. -/
theorem changeAhead_loop {d d' : Decoder} {c : Choice} (hd : Generation d)
    (h : d.loop c = some d') (hahead : d.changeAhead = true) :
    d'.changeAhead = true ∨ d'.demuxerSeeking = false ∨ d.pc = .start := by
  cases loop_change h with
  | silent h =>
    left
    exact changeAhead_congr hahead h.quiet.started.1 h.quiet.clearing.1 h.serial
      (by rw [h.packetQueue])
  | start hpc => exact Or.inr (Or.inr hpc)
  | startFlush hpc h =>
    left
    subst h
    have hle := hd.serial_le
    have hne : d.serial ≠ d.packetQueue.serial := by
      simpa [changeAhead, hpc] using hahead
    apply changeAhead_of_serial
    simp only
    split_ifs
    · simp only [PacketQueue.flush_serial]
      omega
    · omega
  | changed hpc hserial h => subst h; exact Or.inl (changeAhead_of_clearing rfl)
  | flushCodec hpc h => subst h; exact Or.inl (changeAhead_of_clearing rfl)
  | reread hpc h => subst h; exact Or.inl (changeAhead_of_clearing rfl)
  | endSeeking hpc h => subst h; exact Or.inr (Or.inl rfl)
  | popped packet hpc hpop h =>
    subst h
    exact Or.inl (changeAhead_congr hahead (by simp [hpc]) (by simp [hpc]) rfl (by simp))
  | current packet hpc hserial h =>
    left
    rcases h with rfl | rfl <;>
      exact changeAhead_congr hahead (by simp [hpc]) (by simp [hpc]) rfl rfl
  | sent packet hpc hkeeps =>
    exact Or.inl (changeAhead_congr hahead (by simp [hpc]) (by simp [hpc]) hkeeps.serial
      (by rw [hkeeps.packetQueue]))
  | received frame hpc hsources h =>
    left
    rcases h with rfl | rfl <;>
      exact changeAhead_congr hahead (by simp [hpc]) (by simp [hpc]) rfl rfl
  | passed frame hpc hseeking h =>
    subst h
    exact Or.inl (changeAhead_congr hahead (by simp [hpc]) (by simp [hpc]) rfl rfl)
  | reserved slot frame hpc hslot h =>
    subst h
    exact Or.inl (changeAhead_congr hahead (by simp [hpc]) (by simp [hpc]) rfl rfl)
  | filled slot frame hpc h =>
    subst h
    exact Or.inl (changeAhead_congr hahead (by simp [hpc]) (by simp [hpc]) rfl rfl)
  | committed slot frame hpc h =>
    subst h
    exact Or.inl (changeAhead_congr hahead (by simp [hpc]) (by simp [hpc]) rfl rfl)

/-- A bump of the serial by another thread is a serial change ahead. -/
theorem changeAhead_bump {d d' : Decoder} (hd : Generation d) (hserial : d'.serial = d.serial)
    (hqueue : d'.packetQueue.serial = d.packetQueue.serial + 1) : d'.changeAhead = true := by
  apply changeAhead_of_serial
  have := hd.serial_le
  omega

theorem changeAhead_step {d d' : Decoder} {b : Action} (hd : Generation d)
    (h : d.step b = some d') (hahead : d.changeAhead = true) :
    d'.changeAhead = true ∨ d'.demuxerSeeking = false ∨ d.pc = .start ∧ b.isLoop = true := by
  cases b with
  | loop c =>
    rcases changeAhead_loop hd h hahead with h | h | h
    · exact Or.inl h
    · exact Or.inr (Or.inl h)
    · exact Or.inr (Or.inr ⟨h, rfl⟩)
  | start codecId hwAccel needFix =>
    simp only [step, Option.ite_none_right_eq_some, Option.some.injEq] at h
    rcases h with ⟨_, rfl⟩
    left
    simp [changeAhead, startInternal]
  | flush | queueStart =>
    simp only [step, Option.some.injEq] at h
    subst h
    exact Or.inl (changeAhead_bump hd rfl rfl)
  | push packet =>
    simp only [step, Option.some.injEq] at h
    subst h
    left
    simpa [changeAhead] using hahead
  | queueAbort | popFrame | clearFrames | setAbortStatus | setDemuxerSeeking | setSeekPosMs
  | setPaused | setWaitingForPreBuffer | interrupt =>
    simp only [step, Option.some.injEq] at h
    subst h
    exact Or.inl hahead

/-- Only `setSeekPos` puts a decoder into seeking mode. -/
theorem demuxerSeeking_step {d d' : Decoder} {b : Action} (h : d.step b = some d')
    (hseeking : d'.demuxerSeeking = true) : d.demuxerSeeking = true ∨ b = .setDemuxerSeeking := by
  cases b with
  | loop c =>
    left
    cases loop_change h with
    | silent h => rw [← h.demuxerSeeking]; exact hseeking
    | start hpc hpc' serial packetQueue frameQueue demuxerSeeking =>
      rw [← demuxerSeeking]
      exact hseeking
    | endSeeking hpc h => simp [h] at hseeking
    | sent packet hpc hkeeps => rw [← hkeeps.demuxerSeeking]; exact hseeking
    | current packet hpc hserial h => rcases h with rfl | rfl <;> exact hseeking
    | received frame hpc hsources h => rcases h with rfl | rfl <;> exact hseeking
    | startFlush _ h | changed _ _ h | flushCodec _ h | reread _ h | popped _ _ _ h
    | passed _ _ _ h | reserved _ _ _ _ h | filled _ _ _ h | committed _ _ _ h =>
      subst h
      exact hseeking
  | setDemuxerSeeking => exact Or.inr rfl
  | start codecId hwAccel needFix =>
    simp only [step, Option.ite_none_right_eq_some, Option.some.injEq] at h
    rcases h with ⟨_, rfl⟩
    exact Or.inl hseeking
  | push | flush | queueStart | queueAbort | popFrame | clearFrames | setAbortStatus
  | setSeekPosMs | setPaused | setWaitingForPreBuffer | interrupt =>
    simp only [step, Option.some.injEq] at h
    subst h
    exact Or.inl hseeking

end DecoderSDK.Decoder
