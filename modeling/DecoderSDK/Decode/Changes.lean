import DecoderSDK.Decode.Loop

/-! # What one step of a decode loop can change

Most steps only move the decode thread. The others are listed with their
guards, so that an invariant of the loop is a short case analysis.
-/
namespace DecoderSDK

namespace Pc

/-- The serial change is noticed and seeking mode not yet ended. -/
@[simp] def clearing : Pc → Bool
  | .flushCodec => true
  | .reread => true
  | .endSeeking => true
  | _ => false

/-- The thread holds a frame that passed the test of `demuxerSeeking`. -/
@[simp] def pastTest : Pc → Bool
  | .seekPosTest _ => true
  | .arrived _ => true
  | .convert _ => true
  | .getWritable _ => true
  | .fill _ _ => true
  | .pace _ _ => true
  | .commit _ _ => true
  | _ => false

/-- The slot the thread has reserved. -/
@[simp] def slot : Pc → Option ℕ
  | .fill slot _ => some slot
  | .pace slot _ => some slot
  | .commit slot _ => some slot
  | _ => none

/-- The frame the thread has written to its slot. -/
@[simp] def filled : Pc → Option Decoded
  | .pace _ frame => some frame
  | .commit _ frame => some frame
  | _ => none

/-- The packets in the thread's hands, or behind the frame in its hands. -/
@[simp] def held : Pc → List Packet
  | .keyGate packet => [packet]
  | .send packet => [packet]
  | .resample frame => frame.picture.sources
  | .seekingTest frame => frame.picture.sources
  | .seekPosTest frame => frame.picture.sources
  | .arrived frame => frame.picture.sources
  | .convert frame => frame.picture.sources
  | .getWritable frame => frame.picture.sources
  | .fill _ frame => frame.picture.sources
  | .pace _ frame => frame.picture.sources
  | .commit _ frame => frame.picture.sources
  | _ => []

/-- The packet that was popped and is not yet dropped or sent. -/
@[simp] def packet : Pc → List Packet
  | .staleTest packet => [packet]
  | .keyGate packet => [packet]
  | .send packet => [packet]
  | _ => []

/-- The thread runs and has read the serial of its packet queue. -/
@[simp] def started : Pc → Bool
  | .idle => false
  | .start => false
  | _ => true

/-- A move that takes nothing new in hand and neither starts nor ends a serial change. -/
structure Quiet (pc pc' : Pc) : Prop where
  held : pc'.held ⊆ pc.held
  packet : pc'.packet ⊆ pc.packet
  started : pc.started = true ∧ pc'.started = true
  clearing : pc.clearing = false ∧ pc'.clearing = false
  staleTest : ∀ packet, pc' ≠ .staleTest packet
  pastTest : pc'.pastTest = true → pc.pastTest = true
  slot : pc'.slot = none ∧ pc'.filled = none ∨ pc'.slot = pc.slot ∧ pc'.filled = pc.filled

end Pc

namespace Decoder

/-- The step leaves the queues, the serial, the seeking flag and the committed frames alone. -/
structure Keeps (d d' : Decoder) : Prop where
  packetQueue : d'.packetQueue = d.packetQueue
  frameQueue : d'.frameQueue = d.frameQueue
  serial : d'.serial = d.serial
  demuxerSeeking : d'.demuxerSeeking = d.demuxerSeeking
  committed : d'.committed = d.committed

/-- A step that only moves the thread, or makes the codec forget packets. -/
structure Silent (d d' : Decoder) : Prop extends Keeps d d' where
  sent : d'.sent ⊆ d.sent
  quiet : Pc.Quiet d.pc d'.pc

/-- Everything a step of the decode thread can do. -/
inductive Change (d : Decoder) (c : Choice) (d' : Decoder) : Prop where
  | silent (h : Silent d d')
  | start (hpc : d.pc = .start) (hpc' : d'.pc = .startFlush)
      (serial : d'.serial = d.packetQueue.serial) (packetQueue : d'.packetQueue = d.packetQueue)
      (frameQueue : d'.frameQueue = d.frameQueue)
      (demuxerSeeking : d'.demuxerSeeking = d.demuxerSeeking)
      (committed : d'.committed = d.committed) (sent : d'.sent = d.sent)
  | startFlush (hpc : d.pc = .startFlush)
      (h : d' = { d with packetQueue := if d.isRealTime then d.packetQueue.flush else d.packetQueue
                         pc := .head })
  | changed (hpc : d.pc = .check) (hserial : d.serial ≠ d.packetQueue.serial)
      (h : d' = d.goto .flushCodec)
  | flushCodec (hpc : d.pc = .flushCodec) (h : d' = d.flushBuffers.goto .reread)
  | reread (hpc : d.pc = .reread)
      (h : d' = { d with serial := d.packetQueue.serial
                         frameQueue := d.frameQueue.setSerial d.packetQueue.serial
                         pc := .endSeeking })
  | endSeeking (hpc : d.pc = .endSeeking)
      (h : d' = { d with hasKeyFrame := false, demuxerSeeking := false, pc := .pop })
  | popped (packet : Packet) (hpc : d.pc = .pop) (hpop : d.packetQueue.pop.1 = some packet)
      (h : d' = { d with packetQueue := d.packetQueue.pop.2
                         poppedAt := d.packetQueue.serial
                         pc := .staleTest packet })
  | current (packet : Packet) (hpc : d.pc = .staleTest packet) (hserial : packet.serial = d.serial)
      (h : d' = d.goto (.keyGate packet) ∨ d' = d.goto (.send packet))
  | sent (packet : Packet) (hpc : d.pc = .send packet) (hkeeps : Keeps d d')
      (hsent : d'.sent ⊆ d.sent ++ [d.repaired packet])
      (hpc' : d'.pc = .receive ∨ d'.pc = .head ∨ d'.pc = .done)
  | received (frame : Decoded) (hpc : d.pc = .receive) (hsources : frame.picture.sources = d.sent)
      (h : d' = d.goto (.seekingTest frame) ∨ d' = d.goto (.resample frame))
  | passed (frame : Decoded) (hpc : d.pc = .seekingTest frame) (hseeking : d.demuxerSeeking = false)
      (h : d' = d.goto (.seekPosTest frame))
  | reserved (slot : ℕ) (frame : Decoded) (hpc : d.pc = .getWritable frame)
      (hslot : d.frameQueue.getWritableFrame.1 = some slot)
      (h : d' = { d with frameQueue := d.frameQueue.getWritableFrame.2, pc := .fill slot frame })
  | filled (slot : ℕ) (frame : Decoded) (hpc : d.pc = .fill slot frame)
      (h : d' = { d with frameQueue := d.frameQueue.write slot (d.stamped frame)
                         pc := .pace slot frame })
  | committed (slot : ℕ) (frame : Decoded) (hpc : d.pc = .commit slot frame)
      (h : d' = { d with frameQueue := d.frameQueue.commitFrame
                         committed := d.committed ++ [d.stamped frame]
                         pc := .receive })

@[simp] theorem goto_pc (d : Decoder) (pc : Pc) : (d.goto pc).pc = pc := rfl

theorem sent_flushBuffers (d : Decoder) : d.flushBuffers.sent = [] := by
  unfold sent flushBuffers
  cases d.codecCtx <;> rfl

theorem Silent.goto {d : Decoder} {pc pc' : Pc} (hpc : d.pc = pc) (h : Pc.Quiet pc pc') :
    Silent d (d.goto pc') where
  packetQueue := rfl
  frameQueue := rfl
  serial := rfl
  demuxerSeeking := rfl
  committed := rfl
  sent := List.Subset.refl _
  quiet := by rwa [hpc]

/-- A silent step that also changes what only the thread itself reads. -/
theorem Silent.of_keeps {d d' : Decoder} {pc pc' : Pc} (hpc : d.pc = pc) (hpc' : d'.pc = pc')
    (hkeeps : Keeps d d') (hsent : d'.sent ⊆ d.sent) (h : Pc.Quiet pc pc') : Silent d d' where
  toKeeps := hkeeps
  sent := hsent
  quiet := by rwa [hpc, hpc']

theorem keeps_handleDecodeError (d : Decoder) (error : AvError) :
    Keeps d (d.handleDecodeError error).2 ∧ (d.handleDecodeError error).2.sent ⊆ d.sent := by
  unfold handleDecodeError
  split_ifs
  · exact ⟨⟨rfl, rfl, rfl, rfl, rfl⟩, List.Subset.refl _⟩
  · refine ⟨⟨rfl, rfl, rfl, rfl, rfl⟩, ?_⟩
    have h : sent { d.flushBuffers with events := d.events ++ [.decodeError] } = [] :=
      sent_flushBuffers d
    simp only [h, List.nil_subset]

theorem keeps_report (d : Decoder) :
    Keeps d d.reportFirstFrame.reportRecovery ∧
      d.reportFirstFrame.reportRecovery.sent ⊆ d.sent := by
  unfold reportFirstFrame reportRecovery
  split_ifs <;> exact ⟨⟨rfl, rfl, rfl, rfl, rfl⟩, List.Subset.refl _⟩

theorem sent_sendPacket (d : Decoder) (packet : Packet) :
    (d.sendPacket packet).sent ⊆ d.sent ++ [d.repaired packet] := by
  unfold sent sendPacket
  cases d.codecCtx with
  | none => exact List.nil_subset _
  | some codec => exact List.Subset.refl _

theorem sendFailed_spec (d : Decoder) (error : AvError) (now : ℕ) (reopened : Bool) :
    Keeps d (d.sendFailed error now reopened) ∧ (d.sendFailed error now reopened).sent ⊆ d.sent ∧
      ((d.sendFailed error now reopened).pc = .head ∨ (d.sendFailed error now reopened).pc = .done) := by
  unfold sendFailed
  cases d.media with
  | audio => exact ⟨⟨rfl, rfl, rfl, rfl, rfl⟩, List.Subset.refl _, Or.inl rfl⟩
  | video =>
    simp only
    split_ifs
    · exact ⟨⟨rfl, rfl, rfl, rfl, rfl⟩, List.Subset.refl _, Or.inl rfl⟩
    · exact ⟨⟨rfl, rfl, rfl, rfl, rfl⟩, List.Subset.refl _, Or.inl rfl⟩
    · exact ⟨⟨rfl, rfl, rfl, rfl, rfl⟩, List.nil_subset _, Or.inl rfl⟩
    · exact ⟨⟨rfl, rfl, rfl, rfl, rfl⟩, List.nil_subset _, Or.inr rfl⟩

theorem Keeps.trans {d₁ d₂ d₃ : Decoder} (h : Keeps d₁ d₂) (h' : Keeps d₂ d₃) : Keeps d₁ d₃ :=
  ⟨h'.packetQueue.trans h.packetQueue, h'.frameQueue.trans h.frameQueue,
    h'.serial.trans h.serial, h'.demuxerSeeking.trans h.demuxerSeeking,
    h'.committed.trans h.committed⟩

theorem loop_change {d d' : Decoder} {c : Choice} (h : d.loop c = some d') : Change d c d' := by
  unfold loop at h
  cases hpc : d.pc with
  | idle => simp [hpc] at h
  | start =>
    simp only [hpc, Option.some.injEq] at h
    subst h
    exact .start hpc rfl rfl rfl rfl rfl rfl rfl
  | startFlush =>
    simp only [hpc, Option.some.injEq] at h
    exact .startFlush hpc h.symm
  | head | preBuffer | pause | popFailed | seekPosTest frame =>
    simp only [hpc, Option.some.injEq] at h
    subst h
    refine .silent (.goto hpc ?_)
    split_ifs <;> constructor <;> simp
  | paused =>
    simp only [hpc, Option.ite_none_left_eq_some, Option.some.injEq] at h
    rw [← h.2]
    refine .silent (.goto hpc ?_)
    split_ifs <;> constructor <;> simp
  | resumed | arrived frame =>
    simp only [hpc, Option.some.injEq] at h
    subst h
    refine .silent (.of_keeps hpc rfl ⟨rfl, rfl, rfl, rfl, rfl⟩ (List.Subset.refl _) ?_)
    constructor <;> simp
  | check =>
    simp only [hpc, Option.some.injEq] at h
    split_ifs at h with hserial
    · exact .changed hpc hserial h.symm
    · subst h
      refine .silent (.goto hpc ?_)
      constructor <;> simp
  | flushCodec =>
    simp only [hpc, Option.some.injEq] at h
    exact .flushCodec hpc h.symm
  | reread =>
    simp only [hpc, Option.some.injEq] at h
    exact .reread hpc h.symm
  | endSeeking =>
    simp only [hpc, Option.some.injEq] at h
    exact .endSeeking hpc h.symm
  | pop =>
    simp only [hpc] at h
    cases hpop : d.packetQueue.pop.1 with
    | none =>
      simp only [hpop, Option.some.injEq] at h
      subst h
      refine .silent (.goto hpc ?_)
      constructor <;> simp
    | some packet =>
      simp only [hpop, Option.some.injEq] at h
      exact .popped packet hpc hpop h.symm
  | staleTest packet =>
    simp only [hpc, Option.some.injEq] at h
    split_ifs at h with hserial
    · subst h
      refine .silent (.goto hpc ?_)
      constructor <;> simp
    · refine .current packet hpc (not_not.mp hserial) ?_
      cases hmedia : d.media <;> simp only [hmedia] at h
      · exact Or.inl h.symm
      · exact Or.inr h.symm
  | keyGate packet =>
    simp only [hpc] at h
    split_ifs at h <;> simp only [Option.some.injEq] at h <;> subst h
    · refine .silent (.goto hpc ?_)
      constructor <;> simp
    · refine .silent (.of_keeps hpc rfl ⟨rfl, rfl, rfl, rfl, rfl⟩ (List.Subset.refl _) ?_)
      constructor <;> simp
  | send packet =>
    simp only [hpc] at h
    have hok : Change d c ((d.sendPacket packet).goto .receive) :=
      .sent packet hpc ⟨rfl, rfl, rfl, rfl, rfl⟩ (sent_sendPacket d packet) (Or.inl rfl)
    have hfailed (error : AvError) (now : ℕ) (reopened : Bool) :
        Change d c ((d.sendPacket packet).sendFailed error now reopened) := by
      obtain ⟨hkeeps, hsent, hpc'⟩ := sendFailed_spec (d.sendPacket packet) error now reopened
      have hkeeps' : Keeps d (d.sendPacket packet) := ⟨rfl, rfl, rfl, rfl, rfl⟩
      exact .sent packet hpc (hkeeps'.trans hkeeps)
        (List.Subset.trans hsent (sent_sendPacket d packet)) (Or.inr hpc')
    split at h
    · split at h <;> simp only [Option.some.injEq] at h <;> subst h
      · exact hok
      · exact hok
      · exact hok
      · exact hfailed _ _ _
    · simp at h
  | receive =>
    simp only [hpc] at h
    split at h
    · next time duration =>
      simp only [Option.some.injEq] at h
      refine .received ⟨⟨d.sent⟩, calculatePts time, duration⟩ hpc rfl ?_
      cases hmedia : d.media <;> simp only [hmedia] at h
      · exact Or.inl h.symm
      · exact Or.inr h.symm
    · simp only [Option.some.injEq] at h
      subst h
      refine .silent (.goto hpc ?_)
      constructor <;> simp
    · simp only [Option.some.injEq] at h
      subst h
      obtain ⟨hkeeps, hsent⟩ := keeps_handleDecodeError d _
      refine .silent (.of_keeps hpc rfl (hkeeps.trans ⟨rfl, rfl, rfl, rfl, rfl⟩) hsent ?_)
      constructor <;> simp
    · simp at h
  | resample frame =>
    simp only [hpc] at h
    split at h
    · simp only [Option.some.injEq] at h
      subst h
      refine .silent (.goto hpc ?_)
      constructor <;> simp
    · simp only [Option.some.injEq] at h
      subst h
      obtain ⟨hkeeps, hsent⟩ := keeps_handleDecodeError d _
      refine .silent (.of_keeps hpc rfl (hkeeps.trans ⟨rfl, rfl, rfl, rfl, rfl⟩) hsent ?_)
      constructor <;> simp
    · simp at h
  | seekingTest frame =>
    simp only [hpc, Option.some.injEq] at h
    split_ifs at h with hseeking
    · subst h
      refine .silent (.goto hpc ?_)
      constructor <;> simp
    · exact .passed frame hpc (by simpa using hseeking) h.symm
  | convert frame =>
    simp only [hpc] at h
    obtain ⟨hkeeps, hsent⟩ := keeps_report d
    split at h
    · simp only [Option.some.injEq] at h
      subst h
      refine .silent (.of_keeps hpc rfl (hkeeps.trans ⟨rfl, rfl, rfl, rfl, rfl⟩) hsent ?_)
      constructor <;> simp
    · simp only [Option.some.injEq] at h
      subst h
      obtain ⟨hkeeps', hsent'⟩ := keeps_handleDecodeError d.reportFirstFrame.reportRecovery .other
      refine .silent (.of_keeps hpc rfl (hkeeps.trans (hkeeps'.trans ⟨rfl, rfl, rfl, rfl, rfl⟩))
        (List.Subset.trans hsent' hsent) ?_)
      constructor <;> simp
    · simp only [Option.some.injEq] at h
      subst h
      refine .silent (.of_keeps hpc rfl (hkeeps.trans ⟨rfl, rfl, rfl, rfl, rfl⟩) hsent ?_)
      constructor <;> simp
    · simp at h
  | getWritable frame =>
    simp only [hpc, Option.ite_none_left_eq_some] at h
    cases hslot : d.frameQueue.getWritableFrame.1 with
    | none =>
      simp only [hslot, Option.some.injEq] at h
      rw [← h.2]
      refine .silent (.goto hpc ?_)
      constructor <;> simp
    | some slot =>
      simp only [hslot, Option.some.injEq] at h
      exact .reserved slot frame hpc hslot h.2.symm
  | fill slot frame =>
    simp only [hpc, Option.some.injEq] at h
    exact .filled slot frame hpc h.symm
  | pace slot frame =>
    simp only [hpc] at h
    split at h
    · simp only [Option.some.injEq] at h
      subst h
      refine .silent (.goto hpc ?_)
      constructor <;> simp
    · simp only [Option.some.injEq] at h
      subst h
      refine .silent (.goto hpc ?_)
      constructor <;> simp
    · simp at h
  | commit slot frame =>
    simp only [hpc, Option.some.injEq] at h
    exact .committed slot frame hpc h.symm
  | done => simp [hpc] at h

end Decoder

end DecoderSDK
