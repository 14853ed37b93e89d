import DecoderSDK.Interleaving.Runs
import DecoderSDK.Session.StreamEnded

/-! # End packets

At the end of a file the demux thread offers every packet queue an end packet,
once and without waiting, to have the decoder behind it give out what it still
holds. Here the demux thread runs against consumers that take packets whenever
they like, and against the calls that reach it through atomics.
-/
namespace DecoderSDK

namespace Demuxer.Pc

/-- The thread holds a packet that it has read and not queued yet. -/
def carriesData : Pc → Bool
  | .distribute _ _ => true
  | .stamp _ _ => true
  | .push _ _ => true
  | _ => false

/-- The end packet of the media type is still to be offered. -/
def owesEnd (m : MediaType) : Pc → Bool
  | .endStamp .video => true
  | .endStamp .audio => m = .audio
  | .endPush .video _ => true
  | .endPush .audio _ => m = .audio
  | _ => false

/-- What the thread is about to queue is an end packet. -/
def endsQueue : Pc → Bool
  | .endPush _ _ => true
  | _ => false

end Demuxer.Pc

theorem Demuxer.flush_plain (media : MediaType) (loop : Bool) :
    let pc := afterMedia media (Pc.flush · loop) (if loop then .looped else .head)
    pc.carriesData = false ∧ pc.ending = false := by
  cases media <;> cases loop <;> exact ⟨rfl, rfl⟩

structure Feed where
  demuxer : Demuxer
  queue : MediaType → Option PacketQueue
  /-- The queue has accepted an end packet since the last packet with data. -/
  told : MediaType → Bool

namespace Feed
open Interleaving

/-- The demux thread of a file begins, with the packet queues that `openInternal` creates. -/
def opened (hasQueue : MediaType → Bool) : Feed where
  demuxer :=
    { isOpened := true
      isRealTime := false
      seekMsPos := -1
      isPaused := false
      loopMode := .none
      maxLoops := -1
      currentLoopCount := 0
      isEof := false
      pc := .head
      accepted := none
      performed := false }
  queue := fun m => if hasQueue m then some (PacketQueue.new 1000).start else none
  told := fun _ => false

def setQueue (s : Feed) (m : MediaType) (q : PacketQueue) : Feed :=
  { s with queue := Function.update s.queue m (some q) }

/-- The demux thread offers a packet to a queue. -/
def offer (s : Feed) (m : MediaType) (packet : Packet) (isEnd : Bool) : Feed :=
  match s.queue m with
  | none => s
  | some q =>
    { s.setQueue m (q.push packet).2 with
        told := if (q.push packet).1 then Function.update s.told m isEnd else s.told }

/-- What a step of the demux thread does to a packet queue. -/
def perform (s : Feed) (isEnd : Bool) : Effect → Feed
  | some (m, .push packet) => s.offer m packet isEnd
  | some (m, .flush) => (s.queue m).elim s fun q => s.setQueue m q.flush
  | _ => s

inductive Action where
  | demux (c : Demuxer.Choice)
  | take (media : MediaType)
  | seek (ms : ℕ)
  | setPaused (paused : Bool)
  | setLoopMode (mode : LoopMode) (maxLoops : ℤ)

def step (s : Feed) : Action → Option Feed
  | .demux c => (s.demuxer.move s.queue c).map fun r =>
      { s with demuxer := r.1 }.perform s.demuxer.pc.endsQueue r.2
  | .take m => (s.queue m).map fun q => s.setQueue m q.pop.2
  | .seek ms => some { s with demuxer := s.demuxer.request ms }
  | .setPaused paused => some { s with demuxer := { s.demuxer with isPaused := paused } }
  | .setLoopMode mode maxLoops => some { s with demuxer := s.demuxer.setLoopMode mode maxLoops }

/-- The step reports `kStreamEnded`. -/
def endsStream (s : Feed) (a : Action) : Bool :=
  match a with
  | .demux _ => s.demuxer.endsStream s.queue
  | _ => false

/-- An end packet that is needed finds room in its queue. -/
def roomForEnd (s : Feed) (a : Action) : Bool :=
  match a, s.demuxer.pc with
  | .demux _, .endPush m _ =>
    s.told m || (s.queue m).all fun q => q.queue.length < q.maxPacketCount
  | _, _ => true

def tellsEnd (s : Feed) (a : Action) : Prop :=
  endsStream s a = true → ∀ m, (s.queue m).isSome = true → s.told m = true

instance (s : Feed) (a : Action) : Decidable (tellsEnd s a) :=
  inferInstanceAs (Decidable (_ → _))

/-- Once the end of the file was read, every queue whose end packet is not still to be offered
has accepted one after its last packet with data. -/
structure Told (s : Feed) : Prop where
  isRealTime : s.demuxer.isRealTime = false
  aborted : ∀ m, ∀ q ∈ s.queue m, q.aborted = false
  data : s.demuxer.pc.carriesData = true → s.demuxer.isEof = false
  ending : s.demuxer.pc.ending = true → s.demuxer.isEof = true
  told : s.demuxer.isEof = true → ∀ m, (s.queue m).isSome = true →
    s.demuxer.pc.owesEnd m = false → s.told m = true

theorem told_opened (hasQueue : MediaType → Bool) : Told (opened hasQueue) where
  isRealTime := rfl
  aborted := by
    intro m q hq
    simp only [opened, Option.mem_def, Option.ite_none_right_eq_some, Option.some.injEq] at hq
    rw [← hq.2]
    rfl
  data := fun _ => rfl
  ending := by simp [opened, Demuxer.Pc.ending]
  told := by simp [opened]

/-- The demux thread moves on without touching a queue. -/
theorem Told.goto {s : Feed} (hs : Told s) {dm : Demuxer}
    (hrt : dm.isRealTime = s.demuxer.isRealTime)
    (hdata : dm.pc.carriesData = true → dm.isEof = false)
    (hending : dm.pc.ending = true → dm.isEof = true)
    (htold : dm.isEof = true → ∀ m, (s.queue m).isSome = true → dm.pc.owesEnd m = false →
      s.told m = true) : Told { s with demuxer := dm } where
  isRealTime := hrt.trans hs.isRealTime
  aborted := hs.aborted
  data := hdata
  ending := hending
  told := htold

/-- Neither a packet nor an end packet is at stake before or after the move. -/
theorem Told.gotoPlain {s : Feed} (hs : Told s) {dm : Demuxer}
    (hrt : dm.isRealTime = s.demuxer.isRealTime) (hisEof : dm.isEof = s.demuxer.isEof)
    (hdata : dm.pc.carriesData = false) (hending : dm.pc.ending = false)
    (howes : ∀ m, s.demuxer.pc.owesEnd m = false) : Told { s with demuxer := dm } := by
  refine hs.goto hrt (by simp [hdata]) (by simp [hending]) fun heof m hm _ => ?_
  exact hs.told (hisEof ▸ heof) m hm (howes m)

/-- The queues change, but not which of them were told. -/
theorem Told.setQueue {s : Feed} (hs : Told s) {m : MediaType} {q q' : PacketQueue}
    (hq : s.queue m = some q) (haborted : q'.aborted = q.aborted) : Told (s.setQueue m q') where
  isRealTime := hs.isRealTime
  aborted := by
    intro m' q'' hq''
    by_cases hm : m' = m
    · subst hm
      simp only [Feed.setQueue, Function.update_self, Option.mem_def, Option.some.injEq] at hq''
      rw [← hq'', haborted]
      exact hs.aborted m' q hq
    · simp only [Feed.setQueue, Function.update_of_ne hm] at hq''
      exact hs.aborted m' q'' hq''
  data := hs.data
  ending := hs.ending
  told := by
    intro heof m' hm' howes
    refine hs.told heof m' ?_ howes
    by_cases hm : m' = m
    · rw [hm, hq]
      rfl
    · simpa only [Feed.setQueue, Function.update_of_ne hm] using hm'

/-- The move of the thread and the offer to the queue do not depend on each other. -/
theorem offer_demuxer (s : Feed) (dm : Demuxer) (m : MediaType) (packet : Packet) (isEnd : Bool) :
    { s with demuxer := dm }.offer m packet isEnd =
      { s.offer m packet isEnd with demuxer := dm } := by
  simp only [offer]
  cases s.queue m <;> rfl

theorem offer_demuxer_eq (s : Feed) (m : MediaType) (packet : Packet) (isEnd : Bool) :
    (s.offer m packet isEnd).demuxer = s.demuxer := by
  simp only [offer]
  cases s.queue m <;> rfl

theorem offer_isSome (s : Feed) (m m' : MediaType) (packet : Packet) (isEnd : Bool) :
    ((s.offer m packet isEnd).queue m').isSome = (s.queue m').isSome := by
  unfold offer
  cases hq : s.queue m with
  | none => rfl
  | some q =>
    simp only [setQueue]
    by_cases hm : m' = m
    · rw [hm, Function.update_self, hq]
      rfl
    · rw [Function.update_of_ne hm]

/-- An end packet takes nothing back, and a packet with data comes only while the end of the
file is not read. -/
theorem Told.offer {s : Feed} (hs : Told s) (m : MediaType) (packet : Packet) (isEnd : Bool)
    (h : isEnd = true ∨ s.demuxer.isEof = false) : Told (s.offer m packet isEnd) := by
  unfold Feed.offer
  cases hq : s.queue m with
  | none => exact hs
  | some q =>
    have hset := hs.setQueue hq (PacketQueue.push_aborted q packet)
    refine { hset with told := fun heof m' hm' howes => ?_ }
    have htold : s.told m' = true := hset.told heof m' hm' howes
    rcases h with rfl | hisEof
    · simp only
      split_ifs
      · by_cases hm : m' = m
        · rw [hm, Function.update_self]
        · rw [Function.update_of_ne hm]
          exact htold
      · exact htold
    · exact absurd hisEof (ne_of_eq_of_ne heof (by simp))

/-- An end packet that is needed and finds room is accepted. -/
theorem told_of_offer {s : Feed} (hs : Told s) {m : MediaType} (packet : Packet)
    (hm : (s.queue m).isSome = true)
    (hroom : (s.told m || (s.queue m).all fun q => q.queue.length < q.maxPacketCount) = true) :
    (s.offer m packet true).told m = true := by
  unfold Feed.offer
  cases hq : s.queue m with
  | none => simp [hq] at hm
  | some q =>
    simp only [hq, Option.all_some, Bool.or_eq_true, decide_eq_true_eq] at hroom
    simp only
    split_ifs with hpush
    · rw [Function.update_self]
    · rcases hroom with htold | hlength
      · exact htold
      · simp [PacketQueue.push, PacketQueue.canPush, hs.aborted m q hq, hlength] at hpush

section
variable {s : Feed} {c : Demuxer.Choice} {dm : Demuxer} {effect : Effect}

/-- The thread reads. -/
theorem Told.demux_read (hs : Told s) (hpc : s.demuxer.pc = .read)
    (hmove : s.demuxer.move s.queue c = some (dm, effect)) :
    Told ({ s with demuxer := dm }.perform s.demuxer.pc.endsQueue effect) := by
  have hrt := hs.isRealTime
  simp only [Demuxer.move, hpc] at hmove
  cases c with
  | packet media packet | otherStream =>
    simp only [Option.some.injEq, Prod.mk.injEq] at hmove
    rcases hmove with ⟨rfl, rfl⟩
    exact hs.goto rfl (fun _ => rfl) (by simp [Demuxer.Pc.ending]) (by simp)
  | eof =>
    simp only [Option.some.injEq, Prod.mk.injEq] at hmove
    rcases hmove with ⟨rfl, rfl⟩
    simp only [hrt, Bool.not_false, Bool.false_or]
    refine hs.goto hrt.symm ?_ (fun _ => rfl) fun _ m hm howes => ?_
    · simp only
      split_ifs <;> simp [Demuxer.Pc.carriesData]
    · cases heof : s.demuxer.isEof with
      | true => exact hs.told heof m hm (by simp [hpc, Demuxer.Pc.owesEnd])
      | false => simp [heof, Demuxer.Pc.owesEnd] at howes
  | again | error =>
    simp only [Option.some.injEq, Prod.mk.injEq] at hmove
    rcases hmove with ⟨rfl, rfl⟩
    exact hs.gotoPlain rfl rfl rfl rfl (by simp [hpc, Demuxer.Pc.owesEnd])
  | _ => simp at hmove

/-- The thread has a packet with data, so it has not read the end of the file. -/
theorem Told.demux_data (hs : Told s) (hdata : s.demuxer.pc.carriesData = true)
    (hmove : s.demuxer.move s.queue c = some (dm, effect)) :
    Told ({ s with demuxer := dm }.perform s.demuxer.pc.endsQueue effect) := by
  have hisEof := hs.data hdata
  unfold Demuxer.move at hmove
  cases hpc : s.demuxer.pc with
  | distribute media packet =>
    simp only [hpc, Option.some.injEq, Prod.mk.injEq] at hmove
    rcases hmove with ⟨rfl, rfl⟩
    refine hs.goto rfl (fun _ => hisEof) ?_ (by simp [Demuxer.goto, hisEof])
    simp only [Demuxer.goto]
    split_ifs <;> simp [Demuxer.Pc.ending]
  | stamp media packet =>
    simp only [hpc, Option.map_eq_some_iff, Prod.mk.injEq] at hmove
    rcases hmove with ⟨q, _, rfl, rfl⟩
    exact hs.goto rfl (fun _ => hisEof) (by simp [Demuxer.goto, Demuxer.Pc.ending])
      (by simp [Demuxer.goto, hisEof])
  | push media packet =>
    simp only [hpc, Option.bind_eq_some_iff, Option.ite_none_right_eq_some, Option.some.injEq,
      Prod.mk.injEq] at hmove
    rcases hmove with ⟨q, _, _, rfl, rfl⟩
    have hgoto : Told { s with demuxer := s.demuxer.goto .head } :=
      hs.gotoPlain rfl rfl rfl rfl (by simp [hpc, Demuxer.Pc.owesEnd])
    exact hgoto.offer media packet false (Or.inr hisEof)
  | _ => simp [hpc, Demuxer.Pc.carriesData] at hdata

/-- A queue that does not exist is passed over. -/
theorem Told.demux_endStamp (hs : Told s) {media : MediaType}
    (hpc : s.demuxer.pc = .endStamp media)
    (hmove : s.demuxer.move s.queue c = some (dm, effect)) :
    Told ({ s with demuxer := dm }.perform s.demuxer.pc.endsQueue effect) := by
  have hisEof := hs.ending (by rw [hpc]; rfl)
  simp only [Demuxer.move, hpc, hs.isRealTime, Option.some.injEq, Prod.mk.injEq,
    Bool.false_eq_true, if_false] at hmove
  rcases hmove with ⟨rfl, rfl⟩
  refine hs.goto rfl ?_ (fun _ => hisEof) fun _ m hm howes => ?_
  · simp only [Demuxer.goto]
    cases s.queue media <;> cases media <;> simp [Demuxer.afterMedia, Demuxer.Pc.carriesData]
  · apply hs.told hisEof m hm
    rw [hpc]
    simp only [Demuxer.goto] at howes
    cases hq : s.queue media with
    | some q =>
      cases media with
      | video => simp [hq, Demuxer.Pc.owesEnd] at howes
      | audio => simpa [hq, Demuxer.Pc.owesEnd] using howes
    | none =>
      have hne : m ≠ media := by
        rintro rfl
        simp [hq] at hm
      cases media <;> cases m <;>
        simp_all [Demuxer.afterMedia, Demuxer.Pc.owesEnd]

/-- An end packet that finds room settles what is owed to its queue. -/
theorem Told.demux_endPush (hs : Told s) {media : MediaType} {packet : Packet}
    (hpc : s.demuxer.pc = .endPush media packet) (hroom : roomForEnd s (.demux c) = true)
    (hmove : s.demuxer.move s.queue c = some (dm, effect)) :
    Told ({ s with demuxer := dm }.perform s.demuxer.pc.endsQueue effect) := by
  have hisEof := hs.ending (by rw [hpc]; rfl)
  have hoffer := hs.offer media packet true (Or.inl rfl)
  simp only [Demuxer.move, hpc, hs.isRealTime, Option.some.injEq, Prod.mk.injEq,
    Bool.false_eq_true, if_false] at hmove
  rcases hmove with ⟨rfl, rfl⟩
  simp only [hpc, perform, Demuxer.Pc.endsQueue, offer_demuxer]
  refine hoffer.goto ?_ ?_ (fun _ => hisEof) fun _ m hm howes => ?_
  · rw [offer_demuxer_eq]
    rfl
  · cases media <;> simp [Demuxer.goto, Demuxer.afterMedia, Demuxer.Pc.carriesData]
  · by_cases hmedia : m = media
    · subst hmedia
      rw [offer_isSome] at hm
      simp only [roomForEnd, hpc] at hroom
      exact told_of_offer hs packet hm hroom
    · refine hoffer.told (by rw [offer_demuxer_eq]; exact hisEof) m hm ?_
      rw [offer_demuxer_eq, hpc]
      cases media <;> cases m <;>
        simp_all [Demuxer.goto, Demuxer.afterMedia, Demuxer.Pc.owesEnd]

/-- Nothing is owed any more when the thread looks whether the queues are empty. -/
theorem Told.demux_emptyTest (hs : Told s) {media : MediaType}
    (hpc : s.demuxer.pc = .emptyTest media)
    (hmove : s.demuxer.move s.queue c = some (dm, effect)) :
    Told ({ s with demuxer := dm }.perform s.demuxer.pc.endsQueue effect) := by
  have hisEof := hs.ending (by rw [hpc]; rfl)
  have hplain : ∀ m, s.demuxer.pc.owesEnd m = false := by simp [hpc, Demuxer.Pc.owesEnd]
  simp only [Demuxer.move, hpc] at hmove
  split at hmove
  · simp only [Option.some.injEq, Prod.mk.injEq] at hmove
    rcases hmove with ⟨rfl, rfl⟩
    exact hs.gotoPlain rfl rfl rfl rfl hplain
  · simp only [Option.some.injEq, Prod.mk.injEq] at hmove
    rcases hmove with ⟨rfl, rfl⟩
    cases media with
    | video =>
      exact hs.goto rfl (by simp [Demuxer.goto, Demuxer.Pc.carriesData]) (fun _ => hisEof)
        fun _ m hm _ => hs.told hisEof m hm (hplain m)
    | audio =>
      refine hs.goto rfl (fun _ => rfl) ?_ (by simp)
      simp only
      split_ifs <;> simp [Demuxer.Pc.ending]

/-- A step of the demux thread in which an end packet that is needed finds room. -/
theorem Told.demux (hs : Told s) (hroom : roomForEnd s (.demux c) = true)
    (hmove : s.demuxer.move s.queue c = some (dm, effect)) :
    Told ({ s with demuxer := dm }.perform s.demuxer.pc.endsQueue effect) := by
  have hmove' := hmove
  unfold Demuxer.move at hmove'
  cases hpc : s.demuxer.pc with
  | read => exact hpc ▸ hs.demux_read hpc hmove
  | distribute media packet | stamp media packet | push media packet =>
    exact hpc ▸ hs.demux_data (by rw [hpc]; rfl) hmove
  | endStamp media => exact hpc ▸ hs.demux_endStamp hpc hmove
  | endPush media packet => exact hpc ▸ hs.demux_endPush hpc hroom hmove
  | emptyTest media => exact hpc ▸ hs.demux_emptyTest hpc hmove
  | head | loopLoad =>
    simp only [hpc, Option.some.injEq, Prod.mk.injEq] at hmove'
    rcases hmove' with ⟨rfl, rfl⟩
    refine hs.gotoPlain rfl rfl ?_ ?_ (by simp [hpc, Demuxer.Pc.owesEnd]) <;>
      simp only [Demuxer.goto] <;> split_ifs <;> rfl
  | dropSeek | store ms loop | loopStore =>
    simp only [hpc, Option.some.injEq, Prod.mk.injEq] at hmove'
    rcases hmove' with ⟨rfl, rfl⟩
    exact hs.gotoPlain rfl rfl rfl rfl (by simp [hpc, Demuxer.Pc.owesEnd])
  | seekFrame ms loop =>
    simp only [hpc] at hmove'
    cases c with
    | sought ok =>
      simp only [Option.some.injEq, Prod.mk.injEq] at hmove'
      rcases hmove' with ⟨rfl, rfl⟩
      refine hs.gotoPlain rfl rfl ?_ ?_ (by simp [hpc, Demuxer.Pc.owesEnd]) <;>
        simp only <;> split_ifs <;> rfl
    | _ => simp at hmove'
  | looped =>
    simp only [hpc] at hmove'
    cases c with
    | rewound ok =>
      simp only [Option.some.injEq, Prod.mk.injEq] at hmove'
      rcases hmove' with ⟨rfl, rfl⟩
      exact hs.gotoPlain rfl rfl rfl rfl (by simp [hpc, Demuxer.Pc.owesEnd])
    | _ => simp at hmove'
  | readError =>
    simp only [hpc] at hmove'
    cases c with
    | gaveUp severe =>
      simp only [Option.some.injEq, Prod.mk.injEq] at hmove'
      rcases hmove' with ⟨rfl, rfl⟩
      refine hs.gotoPlain rfl rfl ?_ ?_ (by simp [hpc, Demuxer.Pc.owesEnd]) <;>
        simp only [Demuxer.goto] <;> split_ifs <;> rfl
    | _ => simp at hmove'
  | pauseTest =>
    simp only [hpc, Option.ite_none_left_eq_some, Option.some.injEq, Prod.mk.injEq] at hmove'
    rcases hmove' with ⟨_, rfl, rfl⟩
    exact hs.gotoPlain rfl rfl rfl rfl (by simp [hpc, Demuxer.Pc.owesEnd])
  | flush media loop =>
    simp only [hpc, Option.some.injEq, Prod.mk.injEq] at hmove'
    rcases hmove' with ⟨rfl, rfl⟩
    obtain ⟨hdata, hending⟩ := Demuxer.flush_plain media loop
    have howes : ∀ m, s.demuxer.pc.owesEnd m = false := by simp [hpc, Demuxer.Pc.owesEnd]
    cases hq : s.queue media with
    | none => exact hs.gotoPlain rfl rfl hdata hending howes
    | some q =>
      simp only [perform, Option.map_some, hq, Option.elim_some]
      refine Told.setQueue ?_ hq rfl
      exact hs.gotoPlain rfl rfl hdata hending howes
  | stopped => simp [hpc] at hmove'

end

theorem Told.step {s s' : Feed} {a : Action} (hs : Told s) (hroom : roomForEnd s a = true)
    (h : s.step a = some s') : Told s' := by
  cases a with
  | demux c =>
    rcases Option.map_eq_some_iff.mp h with ⟨⟨dm, effect⟩, hmove, rfl⟩
    exact hs.demux hroom hmove
  | take m =>
    rcases Option.map_eq_some_iff.mp h with ⟨q, hq, rfl⟩
    exact hs.setQueue hq (PacketQueue.pop_aborted q)
  | seek ms | setPaused paused | setLoopMode mode maxLoops =>
    simp only [Feed.step, Option.some.injEq] at h
    subst h
    exact hs.goto rfl hs.data hs.ending hs.told

/-- The end packet is never lost, in every run in which it finds room in each queue that needs
one. -/
theorem endPacket_accepted (hasQueue : MediaType → Bool) (actions : List Action)
    (h : Each step (fun s a _ => roomForEnd s a = true) (opened hasQueue) actions) :
    Each step (fun s a _ => tellsEnd s a) (opened hasQueue) actions := by
  refine Each.of_invariant (fun s a s' hs ha hstep => ?_) (told_opened hasQueue) h
  refine ⟨Told.step hs ha hstep, fun hends m hm => ?_⟩
  unfold endsStream at hends
  split at hends
  · have hpc := Demuxer.pc_of_endsStream hends
    exact hs.told (hs.ending (by rw [hpc]; rfl)) m hm (by rw [hpc]; rfl)
  · simp at hends

/-- The demux thread reads a key frame of the video and queues it. -/
def readKeyFrame : List Action := Demuxer.readKeyFrame.map .demux

/-- The demux thread reads the end of the file, and goes on for some steps. -/
def readEnd (times : ℕ) : List Action := (Demuxer.readEnd times).map .demux

/-- A key frame is played to its end: the consumer takes it and the end packet before the stream
is reported as ended. -/
theorem endPacket_accepted_taken :
    let actions : List Action := List.flatten
      [readKeyFrame, readEnd 4, List.replicate 2 (.take .video), readEnd 2]
    (run step (opened fun m => m = .video) actions).map
        (fun s => (s.told .video, s.demuxer.isEof)) = some (true, false) ∧
      Each step (fun s a _ => tellsEnd s a) (opened fun m => m = .video) actions :=
  ⟨by decide +kernel, endPacket_accepted _ _ (by decide +kernel)⟩

/-- The packet queue of the video after some key frames. -/
def fill : ℕ → PacketQueue
  | 0 => (PacketQueue.new 1000).start
  | n + 1 => ((fill n).push ⟨some .keyFrame, 1⟩).2

/-- A file with a video stream after some key frames. -/
def filled (n : ℕ) : Feed := (opened fun m => m = .video).setQueue .video (fill n)

theorem fill_spec {n : ℕ} (h : n ≤ 1000) :
    (fill n).queue.length = n ∧ (fill n).maxPacketCount = 1000 ∧ (fill n).aborted = false ∧
      (fill n).serial = 1 := by
  induction n with
  | zero => decide
  | succ n ih =>
    obtain ⟨hlength, hmax, haborted, hserial⟩ := ih (by omega)
    have hroom : (fill n).canPush = true := by
      simp only [PacketQueue.canPush, hlength, hmax, haborted, Bool.false_or, decide_eq_true_eq]
      omega
    simp [fill, PacketQueue.push, hroom, haborted, PacketQueue.updateStatisticsOnPush,
      Packet.isValid, hlength, hmax, hserial]

theorem run_readKeyFrame {n : ℕ} (h : n < 1000) :
    run step (filled n) readKeyFrame = some (filled (n + 1)) := by
  obtain ⟨hlength, hmax, _, hserial⟩ := fill_spec h.le
  have hroom : (fill n).canPush = true := by
    simp [PacketQueue.canPush, hlength, hmax, h]
  have hread : run step (filled n) (readKeyFrame.take 5) = some { filled n with
      demuxer := (filled n).demuxer.goto (.push .video ⟨some .keyFrame, (fill n).serial⟩) } := rfl
  rw [← List.take_append_drop 5 readKeyFrame, run_append hread]
  simp [run, readKeyFrame, Demuxer.readKeyFrame, step, filled, opened, setQueue, Demuxer.move,
    Demuxer.goto, perform, offer, Demuxer.Pc.endsQueue, hroom, hserial, fill]

theorem run_readKeyFrames {n : ℕ} (h : n ≤ 1000) :
    run step (filled 0) (List.replicate n readKeyFrame).flatten = some (filled n) := by
  induction n with
  | zero => rfl
  | succ n ih =>
    rw [List.replicate_succ', List.flatten_append, run_append (ih (by omega))]
    simpa using run_readKeyFrame (n := n) (by omega)

/-- The file when its end has been read. -/
def ended (q : PacketQueue) : Feed :=
  { (opened fun m => m = .video).setQueue .video q with
      demuxer := { (opened fun m => m = .video).demuxer with isEof := true } }

/-- A full queue refuses the end packet. -/
theorem run_readEnd {q : PacketQueue} (haborted : q.aborted = false)
    (hfull : q.maxPacketCount ≤ q.queue.length) (hempty : q.isEmpty = false) :
    run step ((opened fun m => m = .video).setQueue .video q) (readEnd 4) = some (ended q) := by
  have hpush : q.push ⟨some (.ref .blank), q.serial⟩ = (false, q) := by
    simp [PacketQueue.push, PacketQueue.canPush, hfull, haborted]
  have hread : run step ((opened fun m => m = .video).setQueue .video q) ((readEnd 4).take 4) =
      some { ended q with
        demuxer := (ended q).demuxer.goto (.endPush .video ⟨some (.ref .blank), q.serial⟩) } := rfl
  rw [← List.take_append_drop 4 (readEnd 4), run_append hread]
  simp [run, readEnd, Demuxer.readEnd, List.replicate, step, ended, opened, setQueue, Demuxer.move,
    Demuxer.goto, perform, offer, Demuxer.Pc.endsQueue, Demuxer.afterMedia, hpush, hempty]

/-- A consumer can take everything that is queued. -/
theorem run_take {s : Feed} {q : PacketQueue} (hq : s.queue .video = some q) :
    ∃ q', q'.queue = [] ∧
      run step s (List.replicate q.queue.length (.take .video)) = some (s.setQueue .video q') := by
  generalize hn : q.queue.length = n
  induction n generalizing s q with
  | zero =>
    refine ⟨q, List.length_eq_zero_iff.mp hn, ?_⟩
    simp [run, setQueue, ← hq]
  | succ n ih =>
    rcases PacketQueue.pop_cases q with ⟨hnil, _⟩ | ⟨pkt, rest, hqueue, hpop⟩
    · simp [hnil] at hn
    · have hlength : q.pop.2.queue.length = n := by
        simp only [hqueue, List.length_cons, Nat.add_right_cancel_iff] at hn
        simp [hpop, hn]
      have hnext : (s.setQueue .video q.pop.2).queue .video = some q.pop.2 := by
        simp [setQueue]
      obtain ⟨q', hempty, hrun⟩ := ih hnext hlength
      refine ⟨q', hempty, ?_⟩
      simp only [List.replicate_succ, run, step, hq, Option.map_some, Option.bind_some, hrun]
      simp [setQueue]

/-- The drained queue was never told. -/
theorem not_tellsEnd {q : PacketQueue} (hdrained : q.queue = []) :
    ¬Each step (fun s a _ => tellsEnd s a) (ended q) (readEnd 2) := by
  intro h
  have htold : ∀ m, ((ended q).queue m).isSome = true → (ended q).told m = true := by
    simpa [Each, readEnd, Demuxer.readEnd, List.replicate, step, ended, opened, setQueue,
      Demuxer.move, Demuxer.goto, perform, PacketQueue.isEmpty, hdrained, tellsEnd, endsStream,
      Demuxer.endsStream] using h
  have hvideo : (ended q).told .video = true := htold .video (by simp [ended, setQueue])
  simp [ended, opened, setQueue] at hvideo

/-- The queue of the video is full when the end of the file is read: the end packet is dropped,
and when the consumer has drained the queue the stream is reported as ended. -/
theorem endPacket_accepted_fails :
    ¬Each step (fun s a _ => tellsEnd s a) (opened fun m => m = .video)
      ((List.replicate 1000 readKeyFrame).flatten ++
        (readEnd 4 ++ (List.replicate 1000 (.take .video) ++ readEnd 2))) := by
  intro h
  have hstart : filled 0 = opened fun m => m = .video := by
    simp [filled, setQueue, opened, fill]
  rw [← hstart] at h
  obtain ⟨hlength, hmax, haborted, _⟩ := fill_spec (le_refl 1000)
  have hempty : (fill 1000).isEmpty = false := by
    rw [PacketQueue.isEmpty, List.isEmpty_eq_false_iff, ← List.length_pos_iff, hlength]
    norm_num
  have hended := (h.of_append (run_readKeyFrames le_rfl)).of_append
    (run_readEnd haborted (by rw [hlength, hmax]) hempty)
  obtain ⟨q, hdrained, hrun⟩ := run_take (s := ended (fill 1000)) (q := fill 1000)
    (by simp [ended, setQueue])
  rw [hlength] at hrun
  exact not_tellsEnd hdrained (by simpa [ended, setQueue] using hended.of_append hrun)

end Feed

end DecoderSDK
