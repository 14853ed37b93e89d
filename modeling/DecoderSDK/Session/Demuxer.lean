import DecoderSDK.Decode.Loop

/-! # The demux thread and its seek request

`seekMsPos` is the mailbox between the caller of `seek` and the demux
thread; `-1` means that no request is pending. The thread is a program
counter, and what a step does to a packet queue is returned as an action on
the decoder that owns the queue.
-/
namespace DecoderSDK

inductive LoopMode where
  | none
  | single
  | infinite
  deriving DecidableEq

/-- An action on the lane of one media type, if any. -/
abbrev Effect := Option (MediaType × Decoder.Action)

namespace Demuxer

/-- Where the demux thread stands. `loop` records that `handleSeekRequest` was called by
`handleLoopPlayback`. -/
inductive Pc where
  | head
  | dropSeek
  | store (ms : ℤ) (loop : Bool)
  | seekFrame (ms : ℤ) (loop : Bool)
  | flush (media : MediaType) (loop : Bool)
  | looped
  | pauseTest
  | read
  | distribute (media : MediaType) (packet : AVPacket)
  | stamp (media : MediaType) (packet : AVPacket)
  | push (media : MediaType) (packet : Packet)
  | endStamp (media : MediaType)
  | endPush (media : MediaType) (packet : Packet)
  | readError
  | emptyTest (media : MediaType)
  | loopStore
  | loopLoad
  | stopped
  deriving DecidableEq

/-- What FFmpeg answers to the thread. -/
inductive Choice where
  | go
  | sought (ok : Bool)
  | rewound (ok : Bool)
  | packet (media : MediaType) (packet : AVPacket)
  | otherStream
  | eof
  | again
  | error
  | gaveUp (severe : Bool)

end Demuxer

structure Demuxer where
  isOpened : Bool
  isRealTime : Bool
  seekMsPos : ℤ
  isPaused : Bool
  loopMode : LoopMode
  maxLoops : ℤ
  currentLoopCount : ℤ
  isEof : Bool
  pc : Demuxer.Pc
  /-- The position of the last request that was accepted. -/
  accepted : Option ℤ
  /-- Whether the stream was positioned there since. -/
  performed : Bool
  deriving DecidableEq

namespace Demuxer

def goto (dm : Demuxer) (pc : Pc) : Demuxer := { dm with pc := pc }

/-- The tests at the beginning of `seek`. -/
def acceptsSeek (dm : Demuxer) (position : ℚ) : Bool :=
  dm.isOpened && !dm.isRealTime && greaterAndEqual position 0

/-- The request is placed in the mailbox. -/
def request (dm : Demuxer) (ms : ℤ) : Demuxer :=
  { dm with seekMsPos := ms, accepted := some ms, performed := false }

/-- The end of a queue-by-queue pass: video first, then audio, then `next`. -/
def afterMedia (media : MediaType) (pc : MediaType → Pc) (next : Pc) : Pc :=
  match media with
  | .video => pc .audio
  | .audio => next

/-- The thread finds the second packet queue empty, too, and reports `kStreamEnded`. -/
def endsStream (dm : Demuxer) (queue : MediaType → Option PacketQueue) : Bool :=
  match dm.pc with
  | .emptyTest .audio => !(queue .audio).any fun q => !q.isEmpty
  | _ => false

/-- The limit of `handleLoopPlayback`. -/
def mayLoop (dm : Demuxer) : Bool :=
  match dm.loopMode with
  | .none => false
  | .single => !(0 < dm.maxLoops && dm.maxLoops ≤ dm.currentLoopCount)
  | .infinite => true

def setLoopMode (dm : Demuxer) (mode : LoopMode) (maxLoops : ℤ) : Demuxer :=
  { dm with loopMode := mode
            maxLoops := maxLoops
            currentLoopCount := if mode = .none then 0 else dm.currentLoopCount }

/-- One step of the demux thread; `queue` gives the packet queues that exist. -/
def move (dm : Demuxer) (queue : MediaType → Option PacketQueue) (c : Choice) :
    Option (Demuxer × Effect) :=
  match dm.pc with
  | .head =>
    some (dm.goto (if dm.isRealTime then if 0 < dm.seekMsPos then .dropSeek else .read
      else if dm.seekMsPos < 0 then .pauseTest else .store dm.seekMsPos false), none)
  | .dropSeek => some ({ dm with seekMsPos := -1, pc := .read }, none)
  | .store ms loop => some ({ dm with seekMsPos := -1, pc := .seekFrame ms loop }, none)
  | .seekFrame ms loop =>
    match c with
    | .sought ok =>
      some ({ dm with performed := dm.performed || dm.accepted = some ms
                      pc := if ok then .flush .video loop else if loop then .head else .pauseTest }, none)
    | _ => none
  | .flush media loop =>
    some (dm.goto (afterMedia media (.flush · loop) (if loop then .looped else .head)),
      (queue media).map fun _ => (media, .flush))
  | .looped =>
    match c with
    | .rewound ok =>
      some ({ dm with currentLoopCount := if ok then dm.currentLoopCount + 1
                        else dm.currentLoopCount
                      pc := .head }, none)
    | _ => none
  | .pauseTest => if dm.isPaused then none else some (dm.goto .read, none)
  | .read =>
    match c with
    | .packet media packet => some ({ dm with isEof := false, pc := .distribute media packet }, none)
    | .otherStream => some ({ dm with isEof := false, pc := .head }, none)
    | .eof =>
      some ({ dm with isEof := !dm.isRealTime
                      pc := if dm.isRealTime || !dm.isEof then .endStamp .video
                        else .emptyTest .video }, none)
    | .again => some (dm.goto .head, none)
    | .error => some (dm.goto .readError, none)
    | _ => none
  | .distribute media packet =>
    some (dm.goto (if (queue media).isSome && !dm.isPaused then .stamp media packet else .head), none)
  | .stamp media packet =>
    (queue media).map fun q => (dm.goto (.push media ⟨some packet.ref, q.serial⟩), none)
  | .push media packet =>
    (queue media).bind fun q =>
      if q.canPush then some (dm.goto .head, some (media, .push packet)) else none
  | .endStamp media =>
    some (dm.goto (match queue media with
      | some q => .endPush media ⟨some (.ref .blank), q.serial⟩
      | none => afterMedia media .endStamp (if dm.isRealTime then .readError else .emptyTest .video)),
      none)
  | .endPush media packet =>
    some (dm.goto (afterMedia media .endStamp
      (if dm.isRealTime then .readError else .emptyTest .video)), some (media, .push packet))
  | .readError =>
    match c with
    | .gaveUp severe => some (dm.goto (if severe then .stopped else .head), none)
    | _ => none
  | .emptyTest media =>
    if (queue media).any fun q => !q.isEmpty then some (dm.goto .head, none)
    else some (match media with
      | .video => dm.goto (.emptyTest .audio)
      | .audio => { dm with isEof := false, pc := if dm.mayLoop then .loopStore else .head }, none)
  | .loopStore => some ({ dm with seekMsPos := 0, pc := .loopLoad }, none)
  | .loopLoad =>
    some (dm.goto (if dm.seekMsPos < 0 then .head else .store dm.seekMsPos true), none)
  | .stopped => none

/-- What the thread is answered while it reads a key frame of the video and queues it. -/
def readKeyFrame : List Choice := [.go, .go, .packet .video .keyFrame, .go, .go, .go]

/-- What the thread is answered while it reads the end of the file and goes on for some steps. -/
def readEnd (times : ℕ) : List Choice := [.go, .go, .eof] ++ List.replicate times .go

namespace Pc

/-- The position that `handleSeekRequest` has loaded and not yet passed to `av_seek_frame`. -/
def loaded : Pc → Option ℤ
  | .store ms _ => some ms
  | .seekFrame ms _ => some ms
  | _ => none

/-- The thread is outside `handleSeekRequest` and the mailbox. -/
def plain : Pc → Bool
  | .looped => true
  | .pauseTest => true
  | .read => true
  | .distribute _ _ => true
  | .stamp _ _ => true
  | .push _ _ => true
  | .endStamp _ => true
  | .endPush _ _ => true
  | .readError => true
  | .emptyTest _ => true
  | _ => false

end Pc

/-- The step leaves the mailbox and its history alone. -/
structure Keeps (dm dm' : Demuxer) : Prop where
  isOpened : dm'.isOpened = dm.isOpened
  isRealTime : dm'.isRealTime = dm.isRealTime
  seekMsPos : dm'.seekMsPos = dm.seekMsPos
  accepted : dm'.accepted = dm.accepted
  performed : dm'.performed = dm.performed

/-- Everything a step of the demux thread can do. -/
inductive Change (dm : Demuxer) (queue : MediaType → Option PacketQueue) (c : Choice)
    (dm' : Demuxer) (effect : Effect) : Prop where
  | poll (hpc : dm.pc = .head)
      (h : dm' = dm.goto (if dm.isRealTime then if 0 < dm.seekMsPos then .dropSeek else .read
        else if dm.seekMsPos < 0 then .pauseTest else .store dm.seekMsPos false))
      (heffect : effect = none)
  | dropSeek (hpc : dm.pc = .dropSeek) (h : dm' = { dm with seekMsPos := -1, pc := .read })
      (heffect : effect = none)
  | store (ms : ℤ) (loop : Bool) (hpc : dm.pc = .store ms loop)
      (h : dm' = { dm with seekMsPos := -1, pc := .seekFrame ms loop }) (heffect : effect = none)
  | seekFrame (ms : ℤ) (loop ok : Bool) (hpc : dm.pc = .seekFrame ms loop) (hc : c = .sought ok)
      (h : dm' = { dm with performed := dm.performed || dm.accepted = some ms
                           pc := if ok then .flush .video loop
                             else if loop then .head else .pauseTest })
      (heffect : effect = none)
  | flush (media : MediaType) (loop : Bool) (hpc : dm.pc = .flush media loop)
      (h : dm' = dm.goto (afterMedia media (.flush · loop) (if loop then .looped else .head)))
      (heffect : effect = (queue media).map fun _ => (media, .flush))
  | loopStore (hpc : dm.pc = .loopStore) (h : dm' = { dm with seekMsPos := 0, pc := .loopLoad })
      (heffect : effect = none)
  | loopLoad (hpc : dm.pc = .loopLoad)
      (h : dm' = dm.goto (if dm.seekMsPos < 0 then .head else .store dm.seekMsPos true))
      (heffect : effect = none)
  | other (hpc : dm.pc.plain = true)
      (hpc' : dm'.pc.plain = true ∨ dm'.pc = .head ∨ dm'.pc = .loopStore ∨ dm'.pc = .stopped)
      (hkeeps : Keeps dm dm')
      (heffect : effect = none ∨ ∃ m packet, effect = some (m, .push packet))

theorem move_change {dm dm' : Demuxer} {queue : MediaType → Option PacketQueue} {c : Choice}
    {effect : Effect} (h : dm.move queue c = some (dm', effect)) :
    Change dm queue c dm' effect := by
  unfold move at h
  cases hpc : dm.pc with
  | head =>
    simp only [hpc, Option.some.injEq, Prod.mk.injEq] at h
    exact .poll hpc h.1.symm h.2.symm
  | dropSeek =>
    simp only [hpc, Option.some.injEq, Prod.mk.injEq] at h
    exact .dropSeek hpc h.1.symm h.2.symm
  | store ms loop =>
    simp only [hpc, Option.some.injEq, Prod.mk.injEq] at h
    exact .store ms loop hpc h.1.symm h.2.symm
  | seekFrame ms loop =>
    simp only [hpc] at h
    cases c with
    | sought ok =>
      simp only [Option.some.injEq, Prod.mk.injEq] at h
      exact .seekFrame ms loop ok hpc rfl h.1.symm h.2.symm
    | _ => simp at h
  | flush media loop =>
    simp only [hpc, Option.some.injEq, Prod.mk.injEq] at h
    exact .flush media loop hpc h.1.symm h.2.symm
  | looped =>
    simp only [hpc] at h
    cases c with
    | rewound ok =>
      simp only [Option.some.injEq, Prod.mk.injEq] at h
      rcases h with ⟨rfl, rfl⟩
      exact .other (by simp [hpc, Pc.plain]) (by simp) ⟨rfl, rfl, rfl, rfl, rfl⟩ (Or.inl rfl)
    | _ => simp at h
  | pauseTest =>
    simp only [hpc, Option.ite_none_left_eq_some, Option.some.injEq, Prod.mk.injEq] at h
    rcases h with ⟨_, rfl, rfl⟩
    exact .other (by simp [hpc, Pc.plain]) (by simp [goto, Pc.plain]) ⟨rfl, rfl, rfl, rfl, rfl⟩
      (Or.inl rfl)
  | read =>
    simp only [hpc] at h
    have hplain : dm.pc.plain = true := by simp [hpc, Pc.plain]
    cases c with
    | eof =>
      simp only [Option.some.injEq, Prod.mk.injEq] at h
      rcases h with ⟨rfl, rfl⟩
      refine .other hplain ?_ ⟨rfl, rfl, rfl, rfl, rfl⟩ (Or.inl rfl)
      simp only
      split_ifs <;> simp [Pc.plain]
    | packet | otherStream | again | error =>
      simp only [Option.some.injEq, Prod.mk.injEq] at h
      rcases h with ⟨rfl, rfl⟩
      exact .other hplain (by simp [goto, Pc.plain]) ⟨rfl, rfl, rfl, rfl, rfl⟩ (Or.inl rfl)
    | _ => simp at h
  | distribute media packet =>
    simp only [hpc, Option.some.injEq, Prod.mk.injEq] at h
    rcases h with ⟨rfl, rfl⟩
    refine .other (by simp [hpc, Pc.plain]) ?_ ⟨rfl, rfl, rfl, rfl, rfl⟩ (Or.inl rfl)
    simp only [goto]
    split_ifs <;> simp [Pc.plain]
  | stamp media packet =>
    simp only [hpc, Option.map_eq_some_iff, Prod.mk.injEq] at h
    rcases h with ⟨q, _, rfl, rfl⟩
    exact .other (by simp [hpc, Pc.plain]) (by simp [goto, Pc.plain]) ⟨rfl, rfl, rfl, rfl, rfl⟩
      (Or.inl rfl)
  | push media packet =>
    simp only [hpc, Option.bind_eq_some_iff, Option.ite_none_right_eq_some, Option.some.injEq,
      Prod.mk.injEq] at h
    rcases h with ⟨q, _, _, rfl, rfl⟩
    exact .other (by simp [hpc, Pc.plain]) (by simp [goto]) ⟨rfl, rfl, rfl, rfl, rfl⟩
      (Or.inr ⟨media, packet, rfl⟩)
  | endStamp media =>
    simp only [hpc, Option.some.injEq, Prod.mk.injEq] at h
    rcases h with ⟨rfl, rfl⟩
    refine .other (by simp [hpc, Pc.plain]) (Or.inl ?_) ⟨rfl, rfl, rfl, rfl, rfl⟩ (Or.inl rfl)
    simp only [goto]
    cases queue media with
    | some q => rfl
    | none =>
      cases media with
      | video => rfl
      | audio =>
        simp only [afterMedia]
        split_ifs <;> rfl
  | endPush media packet =>
    simp only [hpc, Option.some.injEq, Prod.mk.injEq] at h
    rcases h with ⟨rfl, rfl⟩
    refine .other (by simp [hpc, Pc.plain]) (Or.inl ?_) ⟨rfl, rfl, rfl, rfl, rfl⟩
      (Or.inr ⟨media, packet, rfl⟩)
    cases media with
    | video => rfl
    | audio =>
      simp only [goto, afterMedia]
      split_ifs <;> rfl
  | readError =>
    simp only [hpc] at h
    cases c with
    | gaveUp severe =>
      simp only [Option.some.injEq, Prod.mk.injEq] at h
      rcases h with ⟨rfl, rfl⟩
      refine .other (by simp [hpc, Pc.plain]) ?_ ⟨rfl, rfl, rfl, rfl, rfl⟩ (Or.inl rfl)
      simp only [goto]
      split_ifs <;> simp
    | _ => simp at h
  | emptyTest media =>
    simp only [hpc] at h
    have hplain : dm.pc.plain = true := by simp [hpc, Pc.plain]
    split at h
    · simp only [Option.some.injEq, Prod.mk.injEq] at h
      rcases h with ⟨rfl, rfl⟩
      exact .other hplain (by simp [goto]) ⟨rfl, rfl, rfl, rfl, rfl⟩ (Or.inl rfl)
    · simp only [Option.some.injEq, Prod.mk.injEq] at h
      rcases h with ⟨rfl, rfl⟩
      cases media with
      | video => exact .other hplain (Or.inl rfl) ⟨rfl, rfl, rfl, rfl, rfl⟩ (Or.inl rfl)
      | audio =>
        refine .other hplain ?_ ⟨rfl, rfl, rfl, rfl, rfl⟩ (Or.inl rfl)
        simp only
        split_ifs <;> simp
  | loopStore =>
    simp only [hpc, Option.some.injEq, Prod.mk.injEq] at h
    exact .loopStore hpc h.1.symm h.2.symm
  | loopLoad =>
    simp only [hpc, Option.some.injEq, Prod.mk.injEq] at h
    exact .loopLoad hpc h.1.symm h.2.symm
  | stopped => simp [hpc] at h

theorem Change.constants {dm dm' : Demuxer} {queue : MediaType → Option PacketQueue}
    {c : Choice} {effect : Effect} (h : Change dm queue c dm' effect) :
    dm'.isOpened = dm.isOpened ∧ dm'.isRealTime = dm.isRealTime := by
  cases h with
  | poll hpc h => subst h; exact ⟨rfl, rfl⟩
  | dropSeek hpc h => subst h; exact ⟨rfl, rfl⟩
  | store ms loop hpc h => subst h; exact ⟨rfl, rfl⟩
  | seekFrame ms loop ok hpc hc h => subst h; exact ⟨rfl, rfl⟩
  | flush media loop hpc h => subst h; exact ⟨rfl, rfl⟩
  | loopStore hpc h => subst h; exact ⟨rfl, rfl⟩
  | loopLoad hpc h => subst h; exact ⟨rfl, rfl⟩
  | other hpc hpc' hkeeps => exact ⟨hkeeps.isOpened, hkeeps.isRealTime⟩

end Demuxer

end DecoderSDK
