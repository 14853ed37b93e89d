import DecoderSDK.Decode.Changes

/-! # Stream generations in the decode loop

A serial names a stream generation. Everything inside the codec, and
everything between the codec and the frame queue, belongs to the generation
the loop has read, and a committed frame is stamped with it. A packet of the
current generation is passed on unless a flush comes between the loop's
reading of the serial and its pop.
-/
namespace DecoderSDK.Decoder
open Interleaving

/-- The picture of the frame depends only on packets of the serial stamped on it. -/
def FromOneGeneration (f : Frame Picture) : Prop :=
  ∃ picture, f.frame = .data picture ∧ ∀ packet ∈ picture.sources, packet.serial = f.serial

structure Generation (d : Decoder) : Prop where
  serial_le : d.serial ≤ d.packetQueue.serial
  sent : ∀ packet ∈ d.sent, packet.serial = d.serial
  held : ∀ packet ∈ d.pc.held, packet.serial = d.serial
  sent_nil : d.pc.started = false ∨ d.pc = .reread → d.sent = []
  committed : ∀ f ∈ d.committed, FromOneGeneration f ∧ f.serial ≤ d.serial
  sorted : (d.committed.map Frame.serial).Pairwise (· ≤ ·)

@[simp] theorem repaired_serial (d : Decoder) (packet : Packet) :
    (d.repaired packet).serial = packet.serial := by
  unfold repaired
  split_ifs <;> rfl

theorem generation_new (media : MediaType) (packetQueue : PacketQueue) (maxSize : ℕ)
    (isRealTime enableHardwareFallback enableParseUserSEIData : Bool) :
    Generation (new media packetQueue maxSize isRealTime enableHardwareFallback
      enableParseUserSEIData) where
  serial_le := Nat.zero_le _
  sent := by simp [new, Decoder.sent]
  held := by simp [new]
  sent_nil := fun _ => rfl
  committed := by simp [new]
  sorted := List.Pairwise.nil

theorem Generation.silent {d d' : Decoder} (hd : Generation d) (h : Silent d d') :
    Generation d' where
  serial_le := by
    rw [h.serial, h.packetQueue]
    exact hd.serial_le
  sent := by
    rw [h.serial]
    exact fun packet hpacket => hd.sent packet (h.sent hpacket)
  held := by
    rw [h.serial]
    exact fun packet hpacket => hd.held packet (h.quiet.held hpacket)
  sent_nil := by
    intro hpc
    rcases hpc with hpc | hpc
    · rw [h.quiet.started.2] at hpc
      simp at hpc
    · have hclearing := h.quiet.clearing.2
      rw [hpc] at hclearing
      simp at hclearing
  committed := by
    rw [h.committed, h.serial]
    exact hd.committed
  sorted := by
    rw [h.committed]
    exact hd.sorted

/-- Moving on with packets of the loop's own generation. -/
theorem Generation.goto {d : Decoder} (hd : Generation d) {pc : Pc} (hstarted : pc.started = true)
    (hreread : pc ≠ .reread) (hheld : ∀ packet ∈ pc.held, packet.serial = d.serial) :
    Generation (d.goto pc) where
  serial_le := hd.serial_le
  sent := hd.sent
  held := hheld
  sent_nil := by
    intro hpc
    rcases hpc with hpc | hpc
    · rw [goto_pc, hstarted] at hpc
      simp at hpc
    · exact absurd hpc hreread
  committed := hd.committed
  sorted := hd.sorted

theorem Generation.loop {d d' : Decoder} {c : Choice} (hd : Generation d)
    (h : d.loop c = some d') : Generation d' := by
  cases loop_change h with
  | silent h => exact hd.silent h
  | start hpc hpc' serial packetQueue frameQueue demuxerSeeking committed sent =>
    have hnil : d'.sent = [] := by rw [sent, hd.sent_nil (by simp [hpc])]
    refine ⟨by rw [serial, packetQueue], by simp [hnil], by simp [hpc'], fun _ => hnil, ?_, ?_⟩
    · intro f hf
      rw [committed] at hf
      rw [serial]
      exact ⟨(hd.committed f hf).1, (hd.committed f hf).2.trans hd.serial_le⟩
    · rw [committed]
      exact hd.sorted
  | startFlush hpc h =>
    subst h
    refine ⟨?_, hd.sent, by simp, by simp, hd.committed, hd.sorted⟩
    have := hd.serial_le
    simp only
    split_ifs
    · simp only [PacketQueue.flush_serial]
      omega
    · exact this
  | changed hpc hserial h =>
    subst h
    exact hd.goto (by simp) (by simp) (by simp)
  | flushCodec hpc h =>
    subst h
    have hnil : (d.flushBuffers.goto .reread).sent = [] := sent_flushBuffers d
    exact ⟨hd.serial_le, by simp [hnil], by simp, fun _ => hnil, hd.committed, hd.sorted⟩
  | reread hpc h =>
    subst h
    have hnil := hd.sent_nil (Or.inr hpc)
    refine ⟨le_refl _, ?_, by simp, by simp, ?_, hd.sorted⟩
    · intro packet hpacket
      have hpacket' : packet ∈ d.sent := hpacket
      simp [hnil] at hpacket'
    · intro f hf
      exact ⟨(hd.committed f hf).1, (hd.committed f hf).2.trans hd.serial_le⟩
  | endSeeking hpc h =>
    subst h
    exact ⟨hd.serial_le, hd.sent, by simp, by simp, hd.committed, hd.sorted⟩
  | popped packet hpc hpop h =>
    subst h
    refine ⟨?_, hd.sent, by simp, by simp, hd.committed, hd.sorted⟩
    simpa using hd.serial_le
  | current packet hpc hserial h =>
    rcases h with rfl | rfl
    · exact hd.goto (by simp) (by simp) (by simpa using hserial)
    · exact hd.goto (by simp) (by simp) (by simpa using hserial)
  | sent packet hpc hkeeps hsent hpc' =>
    have hpacket := hd.held packet (by simp [hpc])
    have hheld : ∀ packet ∈ d'.pc.held, packet.serial = d'.serial := by
      rcases hpc' with hpc' | hpc' | hpc' <;> simp [hpc']
    have hnil : d'.pc.started = false ∨ d'.pc = .reread → d'.sent = [] := by
      rcases hpc' with hpc' | hpc' | hpc' <;> simp [hpc']
    refine ⟨?_, ?_, hheld, hnil, ?_, ?_⟩
    · rw [hkeeps.serial, hkeeps.packetQueue]
      exact hd.serial_le
    · intro p hp
      rw [hkeeps.serial]
      rcases List.mem_append.mp (hsent hp) with hp | hp
      · exact hd.sent p hp
      · rw [List.mem_singleton.mp hp, repaired_serial, hpacket]
    · rw [hkeeps.committed, hkeeps.serial]
      exact hd.committed
    · rw [hkeeps.committed]
      exact hd.sorted
  | received frame hpc hsources h =>
    have hheld : ∀ packet ∈ frame.picture.sources, packet.serial = d.serial := by
      rw [hsources]
      exact hd.sent
    rcases h with rfl | rfl
    · exact hd.goto (by simp) (by simp) (by simpa using hheld)
    · exact hd.goto (by simp) (by simp) (by simpa using hheld)
  | passed frame hpc hseeking h =>
    subst h
    have hheld := hd.held
    simp only [hpc, Pc.held] at hheld
    exact hd.goto (by simp) (by simp) (by simpa using hheld)
  | reserved slot frame hpc hslot h =>
    subst h
    have hheld := hd.held
    simp only [hpc, Pc.held] at hheld
    exact ⟨hd.serial_le, hd.sent, hheld, by simp, hd.committed, hd.sorted⟩
  | filled slot frame hpc h =>
    subst h
    have hheld := hd.held
    simp only [hpc, Pc.held] at hheld
    exact ⟨hd.serial_le, hd.sent, hheld, by simp, hd.committed, hd.sorted⟩
  | committed slot frame hpc h =>
    subst h
    have hheld := hd.held
    simp only [hpc, Pc.held] at hheld
    refine ⟨hd.serial_le, hd.sent, by simp, by simp, ?_, ?_⟩
    · intro f hf
      rcases List.mem_append.mp hf with hf | hf
      · exact hd.committed f hf
      · rw [List.mem_singleton.mp hf]
        exact ⟨⟨frame.picture, rfl, hheld⟩, le_refl _⟩
    · rw [List.map_append, List.pairwise_append]
      refine ⟨hd.sorted, List.pairwise_singleton _ _, fun a ha b hb => ?_⟩
      rcases List.mem_map.mp ha with ⟨f, hf, rfl⟩
      rw [List.map_singleton, List.mem_singleton] at hb
      rw [hb]
      exact (hd.committed f hf).2

/-- What the other threads do to the queues and flags leaves the loop's generation alone. -/
theorem Generation.other {d d' : Decoder} (hd : Generation d)
    (hserial : d.packetQueue.serial ≤ d'.packetQueue.serial) (hlocal : d'.serial = d.serial)
    (hsent : d'.sent = d.sent) (hpc : d'.pc = d.pc) (hcommitted : d'.committed = d.committed) :
    Generation d' where
  serial_le := by
    rw [hlocal]
    exact hd.serial_le.trans hserial
  sent := by rw [hsent, hlocal]; exact hd.sent
  held := by rw [hpc, hlocal]; exact hd.held
  sent_nil := by rw [hpc, hsent]; exact hd.sent_nil
  committed := by rw [hcommitted, hlocal]; exact hd.committed
  sorted := by rw [hcommitted]; exact hd.sorted

theorem Generation.step {d d' : Decoder} {a : Action} (hd : Generation d)
    (h : d.step a = some d') : Generation d' := by
  cases a with
  | start codecId hwAccel needFix =>
    simp only [Decoder.step, Option.ite_none_right_eq_some, Option.some.injEq] at h
    rcases h with ⟨hpc, rfl⟩
    have hnil : ((d.openInternal codecId hwAccel needFix).startInternal).sent = [] := rfl
    exact ⟨hd.serial_le, by simp [hnil], by simp [startInternal], fun _ => hnil, hd.committed,
      hd.sorted⟩
  | loop c => exact hd.loop h
  | push packet =>
    simp only [Decoder.step, Option.some.injEq] at h
    subst h
    exact hd.other (by simp) rfl rfl rfl rfl
  | flush =>
    simp only [Decoder.step, Option.some.injEq] at h
    subst h
    exact hd.other (by simp) rfl rfl rfl rfl
  | queueStart =>
    simp only [Decoder.step, Option.some.injEq] at h
    subst h
    exact hd.other (by simp) rfl rfl rfl rfl
  | queueAbort | popFrame | clearFrames | setAbortStatus | setDemuxerSeeking | setSeekPosMs
  | setPaused | setWaitingForPreBuffer | interrupt =>
    simp only [Decoder.step, Option.some.injEq] at h
    subst h
    exact hd.other (le_refl _) rfl rfl rfl rfl

/-- Frames never mix stream generations, and the stamped serials never decrease. -/
theorem committed_one_generation (media : MediaType) (packetQueue : PacketQueue) (maxSize : ℕ)
    (isRealTime enableHardwareFallback enableParseUserSEIData : Bool) (actions : List Action) :
    Each Decoder.step
      (fun _ _ d => (∀ f ∈ d.committed, FromOneGeneration f) ∧
        (d.committed.map Frame.serial).Pairwise (· ≤ ·))
      (new media packetQueue maxSize isRealTime enableHardwareFallback enableParseUserSEIData)
      actions := by
  refine Each.of_invariant (fun d a d' hd _ h => ?_) (generation_new ..) (each_true _ _)
  have hd' : Generation d' := hd.step h
  exact ⟨hd', fun f hf => (hd'.committed f hf).1, hd'.sorted⟩

/-- The loop moves `times` steps that need no answer. -/
def steps (times : ℕ) : List Action := List.replicate times (.loop .go)

example :
    let packet : Packet := ⟨some ⟨some [0], true, 40, by decide⟩, 0⟩
    ((run Decoder.step (new .video (.new 8) 3 false false false)
      (List.flatten [[.start .h264 none false, .push packet], steps 9,
        [.loop (.sent (.ok ()) 0 false), .loop (.received (.ok (1, 1)))], steps 2,
        [.loop (.converted (.ok ()))], steps 2, [.loop (.paced false), .loop .go]])).map
      fun d => d.frameQueue.frames) =
        some [⟨.data ⟨[packet]⟩, 0, 1, 1, some .video, []⟩] := by
  decide +kernel

/-- A pop that finds a packet comes before any flush that follows the loop's reading of the
serial. -/
def PopsUnflushed (d : Decoder) (a : Action) (_ : Decoder) : Prop :=
  a.isLoop = true → d.pc = .pop → d.packetQueue.queue ≠ [] → d.packetQueue.serial = d.serial

instance (d : Decoder) (a : Action) (d' : Decoder) : Decidable (PopsUnflushed d a d') :=
  inferInstanceAs (Decidable (_ → _ → _ → _))

/-- A packet popped under the queue's serial passes the serial test: video goes to the
key-frame gate and a key frame on to the codec, audio goes to the codec. -/
def PassesCurrent (d : Decoder) (a : Action) (d' : Decoder) : Prop :=
  a.isLoop = true → ∀ packet,
    (d.pc = .staleTest packet → packet.serial = d.poppedAt →
      d'.pc = if d.media = .video then .keyGate packet else .send packet) ∧
    (d.pc = .keyGate packet → packet.key = true → d'.pc = .send packet)

/-- The popped packet is tested against the serial its queue had at the pop. -/
def PoppedUnderSerial (d : Decoder) : Prop :=
  ∀ packet, d.pc = .staleTest packet → d.poppedAt = d.serial

theorem poppedUnderSerial_loop {d d' : Decoder} {c : Choice}
    (hpops : d.pc = .pop → d.packetQueue.queue ≠ [] → d.packetQueue.serial = d.serial)
    (h : d.loop c = some d') : PoppedUnderSerial d' := by
  intro packet hpc'
  cases loop_change h with
  | silent h => exact absurd hpc' (h.quiet.staleTest packet)
  | popped packet' hpc hpop h =>
    subst h
    exact hpops hpc (PacketQueue.queue_ne_nil_of_pop hpop)
  | start hpc hpc'' => simp [hpc''] at hpc'
  | startFlush hpc h => simp [h] at hpc'
  | changed hpc hserial h => simp [h] at hpc'
  | flushCodec hpc h => simp [h] at hpc'
  | reread hpc h => simp [h] at hpc'
  | endSeeking hpc h => simp [h] at hpc'
  | current packet' hpc hserial h => rcases h with rfl | rfl <;> simp at hpc'
  | sent packet' hpc hkeeps hsent hpc'' => rcases hpc'' with h | h | h <;> simp [h] at hpc'
  | received frame hpc hsources h => rcases h with rfl | rfl <;> simp at hpc'
  | passed frame hpc hseeking h => simp [h] at hpc'
  | reserved slot frame hpc hslot h => simp [h] at hpc'
  | filled slot frame hpc h => simp [h] at hpc'
  | committed slot frame hpc h => simp [h] at hpc'

theorem poppedUnderSerial_step {d d' : Decoder} {a : Action} (hd : PoppedUnderSerial d)
    (ha : PopsUnflushed d a d') (h : d.step a = some d') : PoppedUnderSerial d' := by
  cases a with
  | loop c => exact poppedUnderSerial_loop (ha rfl) h
  | start codecId hwAccel needFix =>
    simp only [Decoder.step, Option.ite_none_right_eq_some, Option.some.injEq] at h
    rcases h with ⟨_, rfl⟩
    intro packet hpc
    simp [startInternal] at hpc
  | push | flush | queueStart | queueAbort | popFrame | clearFrames | setAbortStatus
  | setDemuxerSeeking | setSeekPosMs | setPaused | setWaitingForPreBuffer | interrupt =>
    simp only [Decoder.step, Option.some.injEq] at h
    subst h
    exact hd

theorem passesCurrent_step {d d' : Decoder} {a : Action} (hd : PoppedUnderSerial d)
    (h : d.step a = some d') : PassesCurrent d a d' := by
  cases a with
  | loop c =>
    intro _ packet
    constructor
    · intro hpc hserial
      rw [hd packet hpc] at hserial
      simp only [Decoder.step, Decoder.loop, hpc, Option.some.injEq] at h
      rw [← h, goto_pc, if_neg (not_not.mpr hserial)]
      cases d.media <;> rfl
    · intro hpc hkey
      simp only [Decoder.step, Decoder.loop, hpc, hkey, Bool.true_eq_false, and_false, if_false,
        Option.some.injEq] at h
      rw [← h]
  | _ => simp [PassesCurrent, Action.isLoop]

/-- No packet of the current generation is thrown away by the serial test, in every run whose
pops are not overtaken by a flush. -/
theorem current_packet_passes (media : MediaType) (packetQueue : PacketQueue) (maxSize : ℕ)
    (isRealTime enableHardwareFallback enableParseUserSEIData : Bool) (actions : List Action)
    (hpops : Each Decoder.step PopsUnflushed
      (new media packetQueue maxSize isRealTime enableHardwareFallback enableParseUserSEIData)
      actions) :
    Each Decoder.step PassesCurrent
      (new media packetQueue maxSize isRealTime enableHardwareFallback enableParseUserSEIData)
      actions := by
  have hnew : PoppedUnderSerial (new media packetQueue maxSize isRealTime enableHardwareFallback
      enableParseUserSEIData) := by
    intro packet hpc
    simp [new] at hpc
  refine Each.of_invariant (fun d a d' hd ha h => ?_) hnew hpops
  exact ⟨poppedUnderSerial_step hd ha h, passesCurrent_step hd h⟩

/-- A flush and a new key frame arrive before the loop reads the serial. -/
theorem current_packet_passes_after_flush :
    let packet : Packet := ⟨some ⟨some [0], true, 40, by decide⟩, 1⟩
    let start := new .video (.new 8) 3 false false false
    let actions := List.flatten
      [[.start .h264 none false], steps 2, [.flush, .push packet], steps 10]
    Each Decoder.step PopsUnflushed start actions ∧
      (run Decoder.step start actions).map pc = some (.send packet) ∧
      Each Decoder.step PassesCurrent start actions :=
  ⟨by decide +kernel, by decide +kernel, current_packet_passes _ _ _ _ _ _ _ (by decide +kernel)⟩

/-- The flush and the new key frame arrive between the reading of the serial and the pop. -/
theorem current_packet_passes_fails :
    let packet : Packet := ⟨some ⟨some [0], true, 40, by decide⟩, 1⟩
    let start := new .video (.new 8) 3 false false false
    let actions := List.flatten
      [[.start .h264 none false], steps 6, [.flush, .push packet], steps 2]
    ¬Each Decoder.step PassesCurrent start actions := by
  intro packet start actions h
  have hpasses : Each Decoder.step (fun d a d' => a.isLoop = true → d.pc = .staleTest packet →
      packet.serial = d.poppedAt → d'.pc = if d.media = .video then .keyGate packet else .send packet)
      start actions :=
    h.mono fun d a d' hd ha => (hd ha packet).1
  revert hpasses
  decide +kernel

end DecoderSDK.Decoder
