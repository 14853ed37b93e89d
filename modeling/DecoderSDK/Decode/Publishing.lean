import DecoderSDK.Decode.Generations

/-! # From the seeking test to the frame queue

The loop publishes a frame through the slot it has reserved. A seek that was
called under a serial wants every frame behind the test of `demuxerSeeking`
to be newer than that serial, and the test to stop the older ones.
-/
namespace DecoderSDK

theorem Pc.slot_of_filled {pc : Pc} (h : pc.filled ≠ none) : ∃ slot, pc.slot = some slot := by
  cases pc <;> simp_all

namespace Decoder

/-- The reserved slot is the one that `commitFrame` publishes, and once it is filled it holds
a frame of the loop's serial. -/
structure Publishing (d : Decoder) : Prop where
  wellFormed : d.frameQueue.WellFormed
  idle : d.pc = .idle → d.frameQueue.frames = []
  slot : ∀ slot, d.pc.slot = some slot →
    slot = d.frameQueue.tail ∧ d.frameQueue.size < d.frameQueue.maxSize ∧ d.frameQueue.queue ≠ []
  filled : d.pc.filled ≠ none →
    ∃ f, d.frameQueue.queue[d.frameQueue.tail]? = some f ∧ f.serial = d.serial

/-- The published frames, and those on their way from the seeking test, are newer than `t`. -/
structure Newer (d : Decoder) (t : ℕ) : Prop where
  frames : ∀ f ∈ d.frameQueue.frames, t < f.serial
  pastTest : d.pc.pastTest = true → t < d.serial

/-- The seeking test lets only frames newer than `t` through. -/
def Shut (d : Decoder) (t : ℕ) : Prop := d.demuxerSeeking = true ∨ t < d.serial

/-- `clear` leaves the slot that the thread has reserved where it is. -/
def keepsSlot (d : Decoder) : Bool :=
  d.pc.slot.all fun slot => slot = 0 || d.frameQueue.size = 0

theorem publishing_new (media : MediaType) (packetQueue : PacketQueue) (maxSize : ℕ)
    (isRealTime enableHardwareFallback enableParseUserSEIData : Bool) :
    Publishing (new media packetQueue maxSize isRealTime enableHardwareFallback
      enableParseUserSEIData) where
  wellFormed := FrameQueue.wellFormed_new maxSize false false
  idle := fun _ => FrameQueue.frames_new maxSize false false
  slot := by simp [new]
  filled := by simp [new]

/-- A step that holds no slot afterwards. -/
theorem Publishing.unslotted {d d' : Decoder} (hd : Publishing d)
    (hqueue : d'.frameQueue = d.frameQueue) (hpc : d'.pc.started = true)
    (hslot : d'.pc.slot = none) (hfilled : d'.pc.filled = none) : Publishing d' where
  wellFormed := by
    rw [hqueue]
    exact hd.wellFormed
  idle := by
    intro h
    simp [h] at hpc
  slot := by
    rw [hslot]
    simp
  filled := fun h => absurd hfilled h

/-- A step of another thread that leaves the frame queue alone. -/
theorem Publishing.other {d d' : Decoder} (hd : Publishing d)
    (hqueue : d'.frameQueue = d.frameQueue) (hserial : d'.serial = d.serial)
    (hpc : d'.pc = d.pc) : Publishing d' := by
  refine ⟨?_, ?_, ?_, ?_⟩
  · rw [hqueue]
    exact hd.wellFormed
  · rw [hpc, hqueue]
    exact hd.idle
  · rw [hpc, hqueue]
    exact hd.slot
  · rw [hpc, hqueue, hserial]
    exact hd.filled

theorem Publishing.loop {d d' : Decoder} {c : Choice} (hd : Publishing d)
    (h : d.loop c = some d') : Publishing d' := by
  cases loop_change h with
  | silent h =>
    rcases h.quiet.slot with ⟨hslot, hfilled⟩ | ⟨hslot, hfilled⟩
    · exact hd.unslotted h.frameQueue h.quiet.started.2 hslot hfilled
    · refine ⟨?_, ?_, ?_, ?_⟩
      · rw [h.frameQueue]
        exact hd.wellFormed
      · intro hpc
        have := h.quiet.started.2
        simp [hpc] at this
      · rw [hslot, h.frameQueue]
        exact hd.slot
      · rw [hfilled, h.frameQueue, h.serial]
        exact hd.filled
  | start hpc hpc' serial packetQueue frameQueue =>
    exact hd.unslotted frameQueue (by simp [hpc']) (by simp [hpc']) (by simp [hpc'])
  | sent packet hpc hkeeps hsent hpc' =>
    rcases hpc' with hpc' | hpc' | hpc' <;>
      exact hd.unslotted hkeeps.frameQueue (by simp [hpc']) (by simp [hpc']) (by simp [hpc'])
  | current packet hpc hserial h =>
    rcases h with rfl | rfl <;> exact hd.unslotted rfl (by simp) (by simp) (by simp)
  | received frame hpc hsources h =>
    rcases h with rfl | rfl <;> exact hd.unslotted rfl (by simp) (by simp) (by simp)
  | startFlush _ h | changed _ _ h | flushCodec _ h | endSeeking _ h | popped _ _ _ h
  | passed _ _ _ h =>
    subst h
    exact hd.unslotted rfl (by simp) (by simp) (by simp)
  | reread hpc h =>
    subst h
    have hwf := hd.wellFormed
    exact ⟨⟨hwf.length_eq, hwf.size_le, hwf.head_lt, hwf.tail_eq⟩, by simp, by simp, by simp⟩
  | reserved slot frame hpc hslot h =>
    obtain ⟨htail, hroom, hslots, hqueue⟩ := FrameQueue.getWritableFrame_some hslot
    rw [hqueue] at h
    subst h
    refine ⟨hd.wellFormed.setPending _, by simp, ?_, by simp⟩
    simp only [Pc.slot, Option.some.injEq]
    rintro _ rfl
    exact ⟨htail, hroom, hslots⟩
  | filled slot frame hpc h =>
    subst h
    obtain ⟨htail, hroom, hslots⟩ := hd.slot slot (by simp [hpc])
    subst htail
    refine ⟨hd.wellFormed.write _ _, by simp, ?_, fun _ => ?_⟩
    · simp only [Pc.slot, Option.some.injEq]
      rintro _ rfl
      exact ⟨rfl, hroom, by simpa [FrameQueue.write] using hslots⟩
    · exact ⟨_, FrameQueue.getElem?_write hd.wellFormed hslots (Nat.zero_lt_of_lt hroom) _, rfl⟩
  | committed slot frame hpc h =>
    subst h
    obtain ⟨_, hroom, hslots⟩ := hd.slot slot (by simp [hpc])
    exact ⟨hd.wellFormed.commitFrame hroom hslots, by simp, by simp, by simp⟩

theorem Publishing.popFrame {d : Decoder} (hd : Publishing d) :
    Publishing { d with frameQueue := (d.frameQueue.pop true).2 } := by
  rcases FrameQueue.pop_cases hd.wellFormed true with h | ⟨f, _, _, h⟩ | ⟨f, hne, hpos, hframes, h⟩
  · rw [h]
    exact hd
  · rw [h]
    exact hd
  · rw [h]
    refine ⟨hd.wellFormed.popInternal hne hpos, fun hpc => ?_, fun slot hslot => ?_, fun hf => ?_⟩
    · have hnil := hd.idle hpc
      rw [hframes] at hnil
      simp at hnil
    · obtain ⟨htail, hroom, _⟩ := hd.slot slot hslot
      refine ⟨by simpa using htail, ?_, ?_⟩
      · simp only [FrameQueue.popInternal_size, FrameQueue.popInternal_maxSize]
        omega
      · rw [← List.length_pos_iff] at hne ⊢
        rwa [FrameQueue.popInternal_length]
    · obtain ⟨slot, hslot⟩ := Pc.slot_of_filled hf
      obtain ⟨_, hroom, _⟩ := hd.slot slot hslot
      simp only [FrameQueue.popInternal_tail,
        FrameQueue.getElem?_tail_popInternal hd.wellFormed hne hroom]
      exact hd.filled hf

theorem Publishing.clearFrames {d : Decoder} (hd : Publishing d) (hkeeps : d.keepsSlot = true) :
    Publishing { d with frameQueue := d.frameQueue.clear } := by
  have htail : ∀ slot, d.pc.slot = some slot →
      d.frameQueue.clear.tail = d.frameQueue.tail ∧
        d.frameQueue.clear.size < d.frameQueue.clear.maxSize ∧ d.frameQueue.clear.queue ≠ [] := by
    intro slot hslot
    obtain ⟨htail, hroom, hslots⟩ := hd.slot slot hslot
    simp only [keepsSlot, hslot, Option.all_some, Bool.or_eq_true, decide_eq_true_eq] at hkeeps
    unfold FrameQueue.clear
    split_ifs with hempty
    · exact ⟨rfl, hroom, hslots⟩
    · have hsize : d.frameQueue.size ≠ 0 := by
        intro hsize
        refine hempty ⟨?_, hsize⟩
        rw [hd.wellFormed.tail_eq hslots, hsize, Nat.add_zero,
          Nat.mod_eq_of_lt (hd.wellFormed.head_lt hslots)]
      refine ⟨?_, Nat.zero_lt_of_lt hroom, ?_⟩
      · rw [← htail]
        exact (hkeeps.resolve_right hsize).symm
      · rw [← List.length_pos_iff] at hslots ⊢
        rwa [FrameQueue.foldl_modify_length]
  refine ⟨hd.wellFormed.clear, fun _ => FrameQueue.frames_clear _, fun slot hslot => ?_, fun hf => ?_⟩
  · obtain ⟨htail', hroom, hslots⟩ := htail slot hslot
    exact ⟨(hd.slot slot hslot).1.trans htail'.symm, hroom, hslots⟩
  · obtain ⟨slot, hslot⟩ := Pc.slot_of_filled hf
    obtain ⟨_, hroom, hslots⟩ := hd.slot slot hslot
    simp only [(htail slot hslot).1,
      FrameQueue.getElem?_tail_clear hd.wellFormed hslots hroom]
    exact hd.filled hf

theorem Publishing.step {d d' : Decoder} {b : Action} (hd : Publishing d)
    (hkeeps : b = .clearFrames → d.keepsSlot = true) (h : d.step b = some d') : Publishing d' := by
  cases b with
  | loop c => exact hd.loop h
  | start codecId hwAccel needFix =>
    simp only [Decoder.step, Option.ite_none_right_eq_some, Option.some.injEq] at h
    rcases h with ⟨_, rfl⟩
    have hwf := FrameQueue.wellFormed_init d.frameQueue
    exact ⟨⟨hwf.length_eq, hwf.size_le, hwf.head_lt, hwf.tail_eq⟩, by simp [startInternal],
      by simp [startInternal], by simp [startInternal]⟩
  | popFrame =>
    simp only [Decoder.step, Option.some.injEq] at h
    subst h
    exact hd.popFrame
  | clearFrames =>
    simp only [Decoder.step, Option.some.injEq] at h
    subst h
    exact hd.clearFrames (hkeeps rfl)
  | setAbortStatus abort =>
    simp only [Decoder.step, Option.some.injEq] at h
    subst h
    have hwf := hd.wellFormed
    exact ⟨⟨hwf.length_eq, hwf.size_le, hwf.head_lt, hwf.tail_eq⟩, hd.idle, hd.slot, hd.filled⟩
  | push | flush | queueStart | queueAbort | setDemuxerSeeking | setSeekPosMs | setPaused
  | setWaitingForPreBuffer | interrupt =>
    simp only [Decoder.step, Option.some.injEq] at h
    subst h
    exact hd.other rfl rfl rfl

/-- Frames are only added by the thread itself. -/
theorem Newer.other {d d' : Decoder} {t : ℕ} (hd : Newer d t)
    (hframes : d'.frameQueue.frames ⊆ d.frameQueue.frames) (hserial : d'.serial = d.serial)
    (hpc : d'.pc = d.pc) : Newer d' t where
  frames := fun f hf => hd.frames f (hframes hf)
  pastTest := by
    rw [hpc, hserial]
    exact hd.pastTest

theorem newer_of_clear {d : Decoder} {t : ℕ} (h : d.pc.pastTest = true → t < d.serial) :
    Newer { d with frameQueue := d.frameQueue.clear } t := by
  refine ⟨fun f hf => ?_, h⟩
  simp only [FrameQueue.frames_clear] at hf
  simp at hf

theorem newer_of_idle {d : Decoder} (hd : Publishing d) (hpc : d.pc = .idle) (t : ℕ) :
    Newer d t := by
  refine ⟨?_, by simp [hpc]⟩
  rw [hd.idle hpc]
  simp

theorem Newer.loop {d d' : Decoder} {c : Choice} {t : ℕ} (hn : Newer d t) (hd : Publishing d)
    (htest : ∀ frame, d.pc = .seekingTest frame → d.Shut t) (h : d.loop c = some d') :
    Newer d' t := by
  cases loop_change h with
  | silent h =>
    refine ⟨?_, ?_⟩
    · rw [h.frameQueue]
      exact hn.frames
    · rw [h.serial]
      exact fun hpc => hn.pastTest (h.quiet.pastTest hpc)
  | start hpc hpc' serial packetQueue frameQueue =>
    refine ⟨?_, by simp [hpc']⟩
    rw [frameQueue]
    exact hn.frames
  | sent packet hpc hkeeps hsent hpc' =>
    refine ⟨?_, ?_⟩
    · rw [hkeeps.frameQueue]
      exact hn.frames
    · rcases hpc' with hpc' | hpc' | hpc' <;> simp [hpc']
  | current packet hpc hserial h =>
    rcases h with rfl | rfl <;> exact ⟨hn.frames, by simp⟩
  | received frame hpc hsources h =>
    rcases h with rfl | rfl <;> exact ⟨hn.frames, by simp⟩
  | startFlush _ h | changed _ _ h | flushCodec _ h | reread _ h | endSeeking _ h
  | popped _ _ _ h =>
    subst h
    exact ⟨hn.frames, by simp⟩
  | passed frame hpc hseeking h =>
    subst h
    refine ⟨hn.frames, fun _ => ?_⟩
    rcases htest frame hpc with hflag | hlt
    · simp [hseeking] at hflag
    · exact hlt
  | reserved slot frame hpc hslot h =>
    obtain ⟨_, _, _, hqueue⟩ := FrameQueue.getWritableFrame_some hslot
    rw [hqueue] at h
    subst h
    exact ⟨hn.frames, fun _ => hn.pastTest (by simp [hpc])⟩
  | filled slot frame hpc h =>
    subst h
    obtain ⟨rfl, hroom, hslots⟩ := hd.slot slot (by simp [hpc])
    refine ⟨?_, fun _ => hn.pastTest (by simp [hpc])⟩
    simp only [FrameQueue.frames_write_tail hd.wellFormed hroom hslots]
    exact hn.frames
  | committed slot frame hpc h =>
    subst h
    obtain ⟨_, _, hslots⟩ := hd.slot slot (by simp [hpc])
    obtain ⟨f, hf, hserial⟩ := hd.filled (by simp [hpc])
    refine ⟨fun g hg => ?_, by simp⟩
    simp only [FrameQueue.frames_commitFrame hd.wellFormed hslots hf] at hg
    rcases List.mem_append.mp hg with hg | hg
    · exact hn.frames g hg
    · rw [List.mem_singleton.mp hg, hserial]
      exact hn.pastTest (by simp [hpc])

theorem Newer.step {d d' : Decoder} {b : Action} {t : ℕ} (hn : Newer d t) (hd : Publishing d)
    (htest : b.isLoop = true → ∀ frame, d.pc = .seekingTest frame → d.Shut t)
    (h : d.step b = some d') : Newer d' t := by
  cases b with
  | loop c => exact hn.loop hd (htest rfl) h
  | start codecId hwAccel needFix =>
    simp only [Decoder.step, Option.ite_none_right_eq_some, Option.some.injEq] at h
    rcases h with ⟨_, rfl⟩
    refine ⟨fun f hf => ?_, by simp [startInternal]⟩
    have hnil : ((d.openInternal codecId hwAccel needFix).startInternal).frameQueue.frames = [] := rfl
    rw [hnil] at hf
    simp at hf
  | popFrame =>
    simp only [Decoder.step, Option.some.injEq] at h
    subst h
    refine hn.other ?_ rfl rfl
    rcases FrameQueue.pop_cases hd.wellFormed true with h | ⟨f, _, _, h⟩ | ⟨f, _, _, hframes, h⟩
    · simp [h]
    · simp [h]
    · simp only [h, hframes]
      exact List.subset_cons_self _ _
  | clearFrames =>
    simp only [Decoder.step, Option.some.injEq] at h
    subst h
    exact newer_of_clear hn.pastTest
  | setAbortStatus | push | flush | queueStart | queueAbort | setDemuxerSeeking | setSeekPosMs
  | setPaused | setWaitingForPreBuffer | interrupt =>
    simp only [Decoder.step, Option.some.injEq] at h
    subst h
    exact hn.other (List.Subset.refl _) rfl rfl

/-- The test opens to older frames only where the loop leaves seeking mode. -/
theorem Shut.step {d d' : Decoder} {b : Action} {t : ℕ} (hs : d.Shut t) (hg : Generation d)
    (hend : b.isLoop = true → d.pc = .endSeeking → t < d.serial) (h : d.step b = some d') :
    d'.Shut t := by
  cases b with
  | loop c =>
    cases loop_change h with
    | silent h =>
      unfold Shut
      rw [h.demuxerSeeking, h.serial]
      exact hs
    | start hpc hpc' serial packetQueue frameQueue demuxerSeeking =>
      unfold Shut
      rw [demuxerSeeking, serial]
      exact hs.imp_right fun hlt => hlt.trans_le hg.serial_le
    | sent packet hpc hkeeps =>
      unfold Shut
      rw [hkeeps.demuxerSeeking, hkeeps.serial]
      exact hs
    | reread hpc h =>
      subst h
      exact hs.imp_right fun hlt => hlt.trans_le hg.serial_le
    | endSeeking hpc h =>
      subst h
      exact Or.inr (hend rfl hpc)
    | current packet hpc hserial h => rcases h with rfl | rfl <;> exact hs
    | received frame hpc hsources h => rcases h with rfl | rfl <;> exact hs
    | startFlush _ h | changed _ _ h | flushCodec _ h | popped _ _ _ h | passed _ _ _ h
    | reserved _ _ _ _ h | filled _ _ _ h | committed _ _ _ h =>
      subst h
      exact hs
  | setDemuxerSeeking =>
    simp only [Decoder.step, Option.some.injEq] at h
    subst h
    exact Or.inl rfl
  | start codecId hwAccel needFix =>
    simp only [Decoder.step, Option.ite_none_right_eq_some, Option.some.injEq] at h
    rcases h with ⟨_, rfl⟩
    exact hs
  | push | flush | queueStart | queueAbort | popFrame | clearFrames | setAbortStatus
  | setSeekPosMs | setPaused | setWaitingForPreBuffer | interrupt =>
    simp only [Decoder.step, Option.some.injEq] at h
    subst h
    exact hs

end Decoder

end DecoderSDK
