import DecoderSDK.Session.StreamEnded

/-! # The draining codec

A codec that is handed no packet, or one without data and without a buffer,
drains, and until it is flushed it answers every other packet with
`AVERROR_EOF`. The demux thread queues an empty packet whenever it reads the end
of the file, and on a real-time stream it goes on reading. The copy that is
queued has a buffer of no bytes, which the codec refuses without draining.
-/
namespace DecoderSDK

/-- The codec takes the packet for the end of the stream. -/
def Packet.drains (pkt : Packet) : Bool := pkt.packet.all fun packet => packet.data.isNone

theorem Packet.copy_drains {pkt : Packet} (h : pkt.isValid = true) : pkt.copy.drains = false := by
  obtain ⟨packet, hpacket⟩ := Option.isSome_iff_exists.mp h
  simp [copy, drains, hpacket, AVPacket.ref]

/-- The packet that the demux thread is about to queue. -/
def Demuxer.Pc.pushing : Demuxer.Pc → Option (MediaType × Packet)
  | .push media packet => some (media, packet)
  | .endPush media packet => some (media, packet)
  | _ => none

/-- Only the packet in the hands of the demux thread is queued. -/
theorem Demuxer.pushing_of_move {dm dm' : Demuxer} {queue : MediaType → Option PacketQueue}
    {c : Demuxer.Choice} {m : MediaType} {packet : Packet}
    (h : dm.move queue c = some (dm', some (m, .push packet))) :
    dm.pc.pushing = some (m, packet) := by
  unfold move at h
  cases hpc : dm.pc with
  | push media pkt =>
    simp only [hpc, Option.bind_eq_some_iff, Option.ite_none_right_eq_some, Option.some.injEq,
      Prod.mk.injEq, Decoder.Action.push.injEq] at h
    rcases h with ⟨_, _, _, _, rfl, rfl⟩
    rfl
  | endPush media pkt =>
    simp only [hpc, Option.some.injEq, Prod.mk.injEq, Decoder.Action.push.injEq] at h
    rcases h with ⟨_, rfl, rfl⟩
    rfl
  | flush media loop =>
    simp [hpc] at h
  | head | dropSeek | store | distribute | endStamp | loopStore | loopLoad | stopped =>
    simp [hpc] at h
  | seekFrame | looped | read | readError =>
    simp only [hpc] at h
    split at h <;> simp at h
  | pauseTest | stamp => simp [hpc] at h
  | emptyTest =>
    simp only [hpc] at h
    split_ifs at h <;> simp at h

/-- The packet in the hands of the demux thread was built from an `AVPacket`. -/
def Demuxer.HoldsValid (dm : Demuxer) : Prop := ∀ r ∈ dm.pc.pushing, r.2.isValid = true

theorem Demuxer.HoldsValid.move {dm dm' : Demuxer} {queue : MediaType → Option PacketQueue}
    {c : Demuxer.Choice} {effect : Effect} (h : dm.move queue c = some (dm', effect)) :
    dm'.HoldsValid := by
  unfold Demuxer.move at h
  cases hpc : dm.pc with
  | stamp media packet =>
    simp only [hpc, Option.map_eq_some_iff, Prod.mk.injEq] at h
    rcases h with ⟨q, _, rfl, _⟩
    simp [HoldsValid, goto, Pc.pushing, Packet.isValid]
  | endStamp media =>
    simp only [hpc, Option.some.injEq, Prod.mk.injEq] at h
    rw [← h.1]
    cases hqueue : queue media with
    | some q => simp [HoldsValid, goto, Pc.pushing, Packet.isValid]
    | none =>
      cases media with
      | video => simp [HoldsValid, goto, afterMedia, Pc.pushing]
      | audio =>
        simp only [HoldsValid, goto, afterMedia]
        split_ifs <;> simp [Pc.pushing]
  | head | distribute | loopLoad =>
    simp only [hpc, Option.some.injEq, Prod.mk.injEq] at h
    rw [← h.1]
    simp only [HoldsValid, goto]
    split_ifs <;> simp [Pc.pushing]
  | dropSeek | store | loopStore =>
    simp only [hpc, Option.some.injEq, Prod.mk.injEq] at h
    rw [← h.1]
    simp [HoldsValid, Pc.pushing]
  | flush media loop | endPush media packet =>
    simp only [hpc, Option.some.injEq, Prod.mk.injEq] at h
    rw [← h.1]
    cases media with
    | video => simp [HoldsValid, goto, afterMedia, Pc.pushing]
    | audio =>
      simp only [HoldsValid, goto, afterMedia]
      split_ifs <;> simp [Pc.pushing]
  | read =>
    simp only [hpc] at h
    cases c with
    | packet | otherStream | again | error =>
      simp only [Option.some.injEq, Prod.mk.injEq] at h
      rw [← h.1]
      simp [HoldsValid, goto, Pc.pushing]
    | eof =>
      simp only [Option.some.injEq, Prod.mk.injEq] at h
      rw [← h.1]
      simp only [HoldsValid]
      split_ifs <;> simp [Pc.pushing]
    | _ => simp at h
  | seekFrame =>
    simp only [hpc] at h
    cases c with
    | sought ok =>
      simp only [Option.some.injEq, Prod.mk.injEq] at h
      rw [← h.1]
      simp only [HoldsValid]
      split_ifs <;> simp [Pc.pushing]
    | _ => simp at h
  | looped =>
    simp only [hpc] at h
    cases c with
    | rewound ok =>
      simp only [Option.some.injEq, Prod.mk.injEq] at h
      rw [← h.1]
      simp [HoldsValid, Pc.pushing]
    | _ => simp at h
  | readError =>
    simp only [hpc] at h
    cases c with
    | gaveUp severe =>
      simp only [Option.some.injEq, Prod.mk.injEq] at h
      rw [← h.1]
      simp only [HoldsValid, goto]
      split_ifs <;> simp [Pc.pushing]
    | _ => simp at h
  | pauseTest =>
    simp only [hpc, Option.ite_none_left_eq_some, Option.some.injEq, Prod.mk.injEq] at h
    rw [← h.2.1]
    simp [HoldsValid, goto, Pc.pushing]
  | push media packet =>
    simp only [hpc, Option.bind_eq_some_iff, Option.ite_none_right_eq_some, Option.some.injEq,
      Prod.mk.injEq] at h
    rcases h with ⟨_, _, _, rfl, _⟩
    simp [HoldsValid, goto, Pc.pushing]
  | emptyTest media =>
    simp only [hpc] at h
    split at h
    · simp only [Option.some.injEq, Prod.mk.injEq] at h
      rw [← h.1]
      simp [HoldsValid, goto, Pc.pushing]
    · simp only [Option.some.injEq, Prod.mk.injEq] at h
      rw [← h.1]
      cases media with
      | video => simp [HoldsValid, goto, Pc.pushing]
      | audio =>
        simp only [HoldsValid]
        split_ifs <;> simp [Pc.pushing]
  | stopped => simp [hpc] at h

namespace Decoder
open Bitstream

/-- The codec was handed such a packet since it was created or flushed. -/
def draining (d : Decoder) : Bool := d.sent.any Packet.drains

/-- The packets that are ahead of the next one to be queued, the codec's own first. -/
def ahead (d : Decoder) : List Packet := d.sent ++ d.pc.packet ++ d.packetQueue.queue

theorem repaired_drains (d : Decoder) (packet : Packet) :
    (d.repaired packet).drains = packet.drains := by
  unfold repaired
  split_ifs
  · cases hpacket : packet.packet with
    | none => simp [Packet.drains, hpacket]
    | some pkt =>
      simp only [Packet.drains, hpacket, Option.map_some, Option.all_some]
      split_ifs
      · obtain ⟨r, hfix⟩ := Option.isSome_iff_exists.mp (fixAnnexBSPSProfileInPacket_isSome pkt)
        rw [hfix, Option.elim_some, ← Option.not_isSome, fixAnnexBSPSProfileInPacket_data hfix,
          Option.not_isSome]
      · rfl
  · rfl

/-- No packet ahead makes the codec drain. -/
def Buffered (d : Decoder) : Prop := ∀ p ∈ d.ahead, p.drains = false

theorem mem_ahead {d : Decoder} {p : Packet} :
    p ∈ d.ahead ↔ p ∈ d.sent ∨ p ∈ d.pc.packet ∨ p ∈ d.packetQueue.queue := by
  simp [ahead]

theorem buffered_new (media : MediaType) (maxSize : ℕ) {packetQueue : PacketQueue}
    (isRealTime enableHardwareFallback enableParseUserSEIData : Bool)
    (hqueue : packetQueue.queue = []) :
    Buffered (new media packetQueue maxSize isRealTime enableHardwareFallback
      enableParseUserSEIData) := by
  simp [Buffered, ahead, new, hqueue, sent]

/-- Packets may be forgotten everywhere. -/
theorem Buffered.mono {d d' : Decoder} (hd : Buffered d)
    (hsent : d'.sent ⊆ d.sent) (hpacket : d'.pc.packet ⊆ d.pc.packet)
    (hqueue : d'.packetQueue.queue ⊆ d.packetQueue.queue) : Buffered d' := by
  intro p hp
  apply hd
  rw [mem_ahead] at hp ⊢
  exact hp.imp (hsent ·) (Or.imp (hpacket ·) (hqueue ·))

theorem Buffered.popped {d : Decoder} (hd : Buffered d) {packet : Packet}
    (hpop : d.packetQueue.pop.1 = some packet) :
    Buffered { d with packetQueue := d.packetQueue.pop.2
                      poppedAt := d.packetQueue.serial
                      pc := .staleTest packet } := by
  rcases PacketQueue.pop_cases d.packetQueue with ⟨_, h⟩ | ⟨pkt, rest, hqueue, h⟩
  · simp [h] at hpop
  · rw [h] at hpop ⊢
    intro p hp
    apply hd
    rw [mem_ahead, hqueue]
    simp only [Option.some.injEq] at hpop
    rw [mem_ahead, PacketQueue.updateStatisticsOnPop_queue] at hp
    rcases hp with hp | hp | hp
    · exact Or.inl hp
    · rw [List.mem_singleton.mp hp, ← hpop]
      exact Or.inr (Or.inr List.mem_cons_self)
    · exact Or.inr (Or.inr (List.mem_cons_of_mem _ hp))

/-- Handing the packet in the thread's hands to the codec. -/
theorem Buffered.sendPacket {d d' : Decoder} (hd : Buffered d) {packet : Packet}
    (hpc : d.pc = .send packet) (hqueue : d'.packetQueue = d.packetQueue)
    (hsent : d'.sent ⊆ d.sent ++ [d.repaired packet]) (hpacket : d'.pc.packet = []) :
    Buffered d' := by
  intro p hp
  rw [mem_ahead, hpacket, hqueue] at hp
  rcases hp with hp | hp | hp
  · rcases List.mem_append.mp (hsent hp) with hp | hp
    · exact hd p (mem_ahead.mpr (Or.inl hp))
    · rw [List.mem_singleton.mp hp, repaired_drains]
      exact hd packet (mem_ahead.mpr (Or.inr (Or.inl (by simp [hpc]))))
  · simp at hp
  · exact hd p (mem_ahead.mpr (Or.inr (Or.inr hp)))

theorem Buffered.loop {d d' : Decoder} {c : Choice} (hd : Buffered d)
    (h : d.loop c = some d') : Buffered d' := by
  cases loop_change h with
  | silent h => exact hd.mono h.sent h.quiet.packet (by simp [h.packetQueue])
  | start hpc hpc' serial packetQueue frameQueue demuxerSeeking committed sent =>
    exact hd.mono (by simp [sent]) (by simp [hpc']) (by simp [packetQueue])
  | startFlush hpc h =>
    subst h
    refine hd.mono (List.Subset.refl _) (by simp) ?_
    simp only
    split_ifs
    · exact List.nil_subset _
    · exact List.Subset.refl _
  | flushCodec hpc h =>
    subst h
    have hnil : (d.flushBuffers.goto .reread).sent = [] := sent_flushBuffers d
    exact hd.mono (by simp [hnil]) (by simp) (List.Subset.refl _)
  | popped packet hpc hpop h =>
    subst h
    exact hd.popped hpop
  | sent packet hpc hkeeps hsent hpc' =>
    refine hd.sendPacket hpc hkeeps.packetQueue hsent ?_
    rcases hpc' with hpc' | hpc' | hpc' <;> rw [hpc'] <;> rfl
  | current packet hpc hserial h =>
    rcases h with rfl | rfl
    · exact hd.mono (List.Subset.refl _) (by simp [hpc]) (List.Subset.refl _)
    · exact hd.mono (List.Subset.refl _) (by simp [hpc]) (List.Subset.refl _)
  | received frame hpc hsources h =>
    rcases h with rfl | rfl
    · exact hd.mono (List.Subset.refl _) (by simp) (List.Subset.refl _)
    · exact hd.mono (List.Subset.refl _) (by simp) (List.Subset.refl _)
  | changed hpc hserial h | passed frame hpc hseeking h =>
    subst h
    exact hd.mono (List.Subset.refl _) (by simp) (List.Subset.refl _)
  | reread hpc h | endSeeking hpc h | reserved slot frame hpc hslot h | filled slot frame hpc h
  | committed slot frame hpc h =>
    subst h
    exact hd.mono (List.Subset.refl _) (by simp) (List.Subset.refl _)

/-- The copy that is queued has a buffer. -/
theorem Buffered.push {d : Decoder} (hd : Buffered d) {packet : Packet}
    (hpacket : packet.isValid = true) :
    Buffered { d with packetQueue := (d.packetQueue.push packet).2 } := by
  rcases PacketQueue.push_cases d.packetQueue packet with h | ⟨_, _, h⟩
  · rw [h]
    exact hd
  · rw [h]
    intro p hp
    rw [mem_ahead, PacketQueue.updateStatisticsOnPush_queue, List.mem_append] at hp
    rcases hp with hp | hp | hp | hp
    · exact hd p (mem_ahead.mpr (Or.inl hp))
    · exact hd p (mem_ahead.mpr (Or.inr (Or.inl hp)))
    · exact hd p (mem_ahead.mpr (Or.inr (Or.inr hp)))
    · rw [List.mem_singleton.mp hp]
      exact Packet.copy_drains hpacket

theorem Buffered.step {d d' : Decoder} {a : Action} (hd : Buffered d)
    (hpush : ∀ packet, a = .push packet → packet.isValid = true)
    (h : d.step a = some d') : Buffered d' := by
  cases a with
  | start codecId hwAccel needFix =>
    simp only [Decoder.step, Option.ite_none_right_eq_some, Option.some.injEq] at h
    rcases h with ⟨hpc, rfl⟩
    have hnil : ((d.openInternal codecId hwAccel needFix).startInternal).sent = [] := rfl
    exact hd.mono (by simp [hnil]) (by simp [startInternal]) (List.Subset.refl _)
  | loop c => exact hd.loop h
  | push packet =>
    simp only [Decoder.step, Option.some.injEq] at h
    subst h
    exact hd.push (hpush packet rfl)
  | flush =>
    simp only [Decoder.step, Option.some.injEq] at h
    subst h
    exact hd.mono (List.Subset.refl _) (List.Subset.refl _) (List.nil_subset _)
  | queueStart | queueAbort | popFrame | clearFrames | setAbortStatus | setDemuxerSeeking
  | setSeekPosMs | setPaused | setWaitingForPreBuffer | interrupt =>
    simp only [Decoder.step, Option.some.injEq] at h
    subst h
    exact hd.mono (List.Subset.refl _) (List.Subset.refl _) (List.Subset.refl _)

theorem Buffered.not_draining {d : Decoder} (hd : Buffered d) : d.draining = false := by
  rw [draining, List.any_eq_false]
  intro p hp
  simp [hd p (mem_ahead.mpr (Or.inl hp))]

end Decoder

namespace Session
open Interleaving

/-- Only the demux thread queues packets. -/
theorem pushing_of_move {s t : Session} {a : Action} {m : MediaType} {packet : Packet}
    (h : s.move a = some (t, some (m, .push packet))) : s.demuxer.pc.pushing = some (m, packet) := by
  cases a with
  | demux c =>
    simp only [move, Option.map_eq_some_iff, Prod.mk.injEq] at h
    rcases h with ⟨⟨dm', effect⟩, hmove, _, rfl⟩
    exact Demuxer.pushing_of_move hmove
  | control => cases controlMove_step h
  | seek | start =>
    simp [move] at h
  | decode | popFrame | setAbortStatus | setPaused | setWaitingForPreBuffer | interrupt
  | setDemuxerPaused | setLoopMode => simp [move] at h

/-- A packet with data is sent to a codec that is draining. -/
def feedsDraining (s : Session) (a : Action) : Bool :=
  match a with
  | .decode m _ => match (s.lane m).pc with
    | .send packet => !packet.isEmpty && (s.lane m).draining
    | _ => false
  | _ => false

/-- Every packet that is queued or about to be queued has a buffer of its own or will have one. -/
structure Buffered (s : Session) : Prop where
  demuxer : s.demuxer.HoldsValid
  lane : ∀ m, (s.lane m).Buffered

theorem Buffered.step {s s' : Session} {a : Action} (hs : Buffered s) (h : s.step a = some s') :
    Buffered s' := by
  constructor
  · rcases demuxer_pc_of_step h with ⟨c, effect, _, hmove⟩ | ⟨_, hpc⟩
    · exact Demuxer.HoldsValid.move hmove
    · rw [Demuxer.HoldsValid, hpc]
      exact hs.demuxer
  · rcases step_cases h with ⟨t, effect, hmove, hrest⟩
    have hlane : t.lane = s.lane := (move_cases hmove).lane.1
    rcases hrest with ⟨_, rfl⟩ | ⟨m, b, d, rfl, hd, rfl⟩
    · rw [hlane]
      exact hs.lane
    · intro m'
      rw [hlane] at hd
      have hpush : ∀ packet, b = .push packet → packet.isValid = true := by
        rintro packet rfl
        exact hs.demuxer (m, packet) (pushing_of_move hmove)
      by_cases hm : m' = m
      · subst hm
        simpa using (hs.lane m').step hpush hd
      · simpa [hm, hlane] using hs.lane m'

/-- An opened session with the packet queues that `Demuxer::openInternal` creates. -/
def openedEmpty (setup : Setup) : Session :=
  opened { setup with packetQueue := fun _ => (PacketQueue.new 1000).start }

theorem buffered_openedEmpty (setup : Setup) : Buffered (openedEmpty setup) where
  demuxer := by
    simp only [Demuxer.HoldsValid, openedEmpty, opened]
    split_ifs <;> simp [Demuxer.Pc.pushing]
  lane := fun m => Decoder.buffered_new m _ _ _ _ rfl

/-- The end of a real-time stream is reported once and the stream goes on: the codec refuses the
end packet and takes the next key frame. -/
example :
    let start := openedEmpty { videoFile with isRealTime := true }
    let actions : List Action := List.flatten
      [[.start .video .h264 none false], decodeSteps 2, (Demuxer.readKeyFrame.drop 1).map .demux,
        decodeSteps 10,
        [.decode .video (.sent (.ok ()) 0 false), .decode .video (.received (.error .eagain)),
          .demux .go, .demux .eof], List.replicate 3 (.demux .go), [.demux (.gaveUp false)],
        decodeSteps 7, [.decode .video (.sent (.error .other) 0 false)],
        (Demuxer.readKeyFrame.drop 1).map .demux, decodeSteps 7,
        [.decode .video (.sent (.ok ()) 0 false)]]
    (run Session.step start actions).map (fun s =>
      ((s.lane .video).sent.map Packet.isEmpty, (s.lane .video).draining, (s.lane .video).pc)) =
        some ([false, true, false], false, .receive) := by
  decide +kernel

end Session

end DecoderSDK
