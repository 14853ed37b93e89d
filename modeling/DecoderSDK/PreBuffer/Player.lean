import DecoderSDK.PreBuffer.Status
import DecoderSDK.Interleaving.Runs

/-! # Decoders that wait for the pre-buffer

`startDecodeInternal` makes the decoders wait whenever pre-buffering is
configured, and only the callback of the demux thread releases them. The
callback comes at most once for each opening of the demuxer, and not at all
when both thresholds are zero. Every controller operation runs under the
controller's mutex, as a list of instructions that the other threads may come
between; `attemptReconnect` gives the mutex up in the middle.
-/
namespace DecoderSDK.PreBuffer
open Interleaving

structure Decoder where
  isStarted : Bool
  waitingForPreBuffer : Bool
  deriving DecidableEq

/-- What is left of an operation of the controller. -/
inductive Instr where
  | setConfig (config : Config)
  | stopDemuxer
  | joinDemuxer
  | closeDemuxer
  | openDemuxer (media : Option Media)
  | createDecoder (media : MediaType)
  | openDecoder (media : MediaType) (ok : Bool)
  | setWaiting (media : MediaType)
  | startDecoder (media : MediaType)
  | stopDecoder (media : MediaType)
  | cleanup (media : MediaType)
  | destroyDecoder (media : MediaType)

namespace Instr

/-- `Demuxer::closeInternal`. -/
def demuxerClose : List Instr := [.stopDemuxer, .joinDemuxer, .closeDemuxer]

/-- `Demuxer::open`, which closes an opened demuxer first. -/
def demuxerOpen (media : Option Media) : List Instr := demuxerClose ++ [.openDemuxer media]

def openInternal (config : Config) (media : Option Media) : List Instr :=
  [.setConfig config] ++ demuxerOpen media ++ [.createDecoder .video, .createDecoder .audio]

def startDecodeInternal (ok : MediaType → Bool) : List Instr :=
  [.openDecoder .video (ok .video), .openDecoder .audio (ok .audio),
    .setWaiting .video, .setWaiting .audio, .startDecoder .video, .startDecoder .audio]

def stopDecodeInternal : List Instr := [.stopDecoder .video, .stopDecoder .audio]

def cleanupPreBufferState : List Instr := [.cleanup .video, .cleanup .audio]

def closeInternal : List Instr :=
  [.destroyDecoder .video, .destroyDecoder .audio] ++ demuxerClose

/-- The thread of the decoder is ended. -/
def halts (m : MediaType) : Instr → Bool
  | .stopDecoder m' => m' = m
  | .destroyDecoder m' => m' = m
  | _ => false

/-- The pre-buffer of the demuxer is reset. -/
def resets : Instr → Bool
  | .closeDemuxer => true
  | .openDemuxer _ => true
  | _ => false

def marks (m : MediaType) : Instr → Bool
  | .setWaiting m' => m' = m
  | _ => false

def starts (m : MediaType) : Instr → Bool
  | .startDecoder m' => m' = m
  | _ => false

/-- The decoder is ended before the pre-buffer is reset. -/
def haltsFirst (m : MediaType) : List Instr → Bool
  | [] => true
  | instr :: code => instr.halts m || !instr.resets && haltsFirst m code

/-- The decoder is about to be started and was made to wait before. -/
def marked (m : MediaType) (code : List Instr) : Bool := code.any (starts m) && !code.any (marks m)

/-- What may come after an instruction: the pre-buffer is reset before any decoder is made to
wait, and all of them are made to wait before any is started. -/
def precedes (code : List Instr) : Instr → Bool
  | .setWaiting _ => code.all fun instr => !instr.resets
  | .startDecoder _ => code.all fun instr => !instr.resets && !instr.marks .video && !instr.marks .audio
  | .closeDemuxer => !marked .video code && !marked .audio code
  | .openDemuxer _ => !marked .video code && !marked .audio code
  | _ => true

def ordered : List Instr → Bool
  | [] => true
  | instr :: code => instr.precedes code && ordered code

/-- A configuration that is set releases the decoders after the pre-buffer. -/
def autoStarts : Instr → Bool
  | .setConfig config => config.preBufferConfig.autoStartAfterPreBuffer
  | _ => true

end Instr

structure Player where
  config : Config
  demuxer : Demuxer
  decoder : MediaType → Option Decoder
  /-- The operation that holds the mutex; empty when nobody does. -/
  code : List Instr
  hasDecoderWhenReconnected : Bool
  /-- The reconnect thread has closed the demuxer and is to open it again. -/
  reconnecting : Bool

namespace Player

/-- A controller that was never opened, with the default configuration. -/
def new : Player where
  config := ⟨fun _ => true, false, 0, 0, false, true⟩
  demuxer := .new
  decoder := fun _ => none
  code := []
  hasDecoderWhenReconnected := false
  reconnecting := false

def modify (s : Player) (m : MediaType) (f : Decoder → Decoder) : Player :=
  { s with decoder := Function.update s.decoder m ((s.decoder m).map f) }

/-- The stream exists, is to be decoded and has a decoder. -/
def decodes (s : Player) (m : MediaType) : Bool :=
  s.demuxer.hasStream m && s.config.decodeMediaType m && (s.decoder m).isSome

/-- One instruction of the operation in progress; an operation that fails ends at once. -/
def exec (s : Player) : Instr → Option Player
  | .setConfig config => some { s with config := config }
  | .stopDemuxer => some { s with demuxer := s.demuxer.stop }
  | .joinDemuxer => if s.demuxer.pc = .idle then some s else none
  | .closeDemuxer => some { s with demuxer := s.demuxer.closeInternal }
  | .openDemuxer none => some { s with code := [] }
  | .openDemuxer (some media) => some { s with demuxer := s.demuxer.openInternal s.config media }
  | .createDecoder m =>
    some (if s.demuxer.hasStream m && s.config.decodeMediaType m then
        { s with decoder := Function.update s.decoder m (some ⟨false, false⟩) }
      else s)
  | .openDecoder m ok =>
    some (if s.decodes m then
        { s.modify m fun d => { d with isStarted := false } with code := if ok then s.code else [] }
      else s)
  | .setWaiting m =>
    some (if s.config.preBufferConfig.enablePreBuffer then
        s.modify m fun d => { d with waitingForPreBuffer := true }
      else s)
  | .startDecoder m =>
    some (if (s.demuxer.queue m).isSome then s.modify m fun d => { d with isStarted := true } else s)
  | .stopDecoder m => some (s.modify m fun d => { d with isStarted := false })
  | .cleanup m => some (s.modify m fun d => { d with waitingForPreBuffer := false })
  | .destroyDecoder m => some { s with decoder := Function.update s.decoder m none }

inductive Action where
  | openMedia (config : Config) (media : Option Media)
  | openAsync (config : Config) (media : Option Media) (cancelled : Bool)
  | startDecode (ok : MediaType → Bool)
  | stopDecode
  | attemptReconnect
  | reopen (media : Option Media) (ok : MediaType → Bool)
  | giveUpReconnect
  | cleanupPreBufferState
  | closeInternal
  | control
  | demux
  | pop (media : MediaType)
  | flush (media : MediaType)

/-- The operation takes the mutex. -/
def call (s : Player) (code : List Instr) : Option Player :=
  match s.code with
  | [] => some { s with code := code }
  | _ :: _ => none

/-- A decoder that is started and not waiting takes a packet. -/
def popPacket (s : Player) (m : MediaType) : Option Player :=
  match s.decoder m, s.demuxer.queue m with
  | some d, some q =>
    if d.isStarted && !d.waitingForPreBuffer then
      some { s with demuxer := s.demuxer.setQueue m q.pop.2 }
    else none
  | _, _ => none

/-- A queue is flushed: by a seek, by `resume`, or by the decoder of a real-time stream when its
thread begins. -/
def flushQueue (s : Player) (m : MediaType) : Option Player :=
  (s.demuxer.queue m).map fun q => { s with demuxer := s.demuxer.setQueue m q.flush }

/-- The demux thread moves, and the callback releases a decoder. -/
def demuxStep (s : Player) : Option Player :=
  (s.demuxer.move s.config.preBufferConfig.autoStartAfterPreBuffer).map fun r =>
    r.2.elim { s with demuxer := r.1 } fun m =>
      { s with demuxer := r.1 }.modify m fun d => { d with waitingForPreBuffer := false }

def step (s : Player) : Action → Option Player
  | .openMedia config media => s.call (Instr.openInternal config media)
  | .openAsync config media cancelled =>
    s.call (Instr.openInternal config media ++ if cancelled then Instr.demuxerClose else [])
  | .startDecode ok =>
    { s with hasDecoderWhenReconnected := true }.call (Instr.startDecodeInternal ok)
  | .stopDecode => { s with hasDecoderWhenReconnected := false }.call Instr.stopDecodeInternal
  | .attemptReconnect =>
    { s with reconnecting := true }.call (Instr.stopDecodeInternal ++ Instr.demuxerClose)
  | .reopen media ok =>
    if s.reconnecting then
      { s with reconnecting := false }.call (Instr.demuxerOpen media ++
        if s.hasDecoderWhenReconnected then Instr.startDecodeInternal ok else [])
    else none
  | .giveUpReconnect => some { s with reconnecting := false }
  | .cleanupPreBufferState => s.call Instr.cleanupPreBufferState
  | .closeInternal => s.call Instr.closeInternal
  | .control => match s.code with
    | [] => none
    | instr :: code => { s with code := code }.exec instr
  | .demux => s.demuxStep
  | .pop m => s.popPacket m
  | .flush m => s.flushQueue m

/-- The one call of the callback is still to come. -/
def promised (s : Player) : Bool := s.demuxer.preBufferEnabled && !s.demuxer.preBufferReady

/-- The callback is being executed and has not passed the decoder. -/
def releasing (s : Player) (m : MediaType) : Bool :=
  match s.demuxer.pc with
  | .callback => true
  | .release .video => true
  | .release .audio => m = .audio
  | _ => false

def owed (s : Player) (m : MediaType) : Bool := s.promised || s.releasing m

/-- The decoder is started and waits for the pre-buffer. -/
def waits (s : Player) (m : MediaType) : Bool :=
  (s.decoder m).any fun d => d.isStarted && d.waitingForPreBuffer

/-- A started decoder that waits is still owed its wake-up. -/
def awaited (s : Player) : Bool :=
  !(s.waits .video || s.waits .audio) || s.promised || s.demuxer.pc.calling

/-- The configuration releases the decoders after the pre-buffer. -/
def Action.autoStarts : Action → Bool
  | .openMedia config _ => config.preBufferConfig.autoStartAfterPreBuffer
  | .openAsync config _ _ => config.preBufferConfig.autoStartAfterPreBuffer
  | _ => true

/-- A decoder that can be started is made to wait only while it will be released, and the
demuxer is not opened again while a decoder waits. -/
def waitsOwed (s : Player) : Action → Bool
  | .openMedia _ _ => !(s.waits .video || s.waits .audio)
  | .openAsync _ _ _ => !(s.waits .video || s.waits .audio)
  | .reopen _ _ => !(s.waits .video || s.waits .audio)
  | .control => match s.code with
    | .setWaiting m :: _ => s.owed m || !(s.decoder m).any fun d =>
        (s.config.preBufferConfig.enablePreBuffer || d.waitingForPreBuffer) &&
          (d.isStarted || (s.demuxer.queue m).isSome)
    | _ => true
  | _ => true

/-- The decoder is started, or made to wait and about to be started. -/
def armed (s : Player) (m : MediaType) (d : Decoder) : Bool :=
  d.isStarted || (s.demuxer.queue m).isSome && Instr.marked m s.code

structure Kept (s : Player) : Prop where
  autoStart : s.config.preBufferConfig.autoStartAfterPreBuffer = true
  autoStarts : s.code.all Instr.autoStarts = true
  ordered : Instr.ordered s.code = true
  halted : ∀ m, s.waits m = true → Instr.haltsFirst m s.code = true
  owed : ∀ m d, s.decoder m = some d → d.waitingForPreBuffer = true → s.armed m d = true →
    s.owed m = true

theorem kept_new : Kept new := ⟨rfl, rfl, rfl, by simp [new, waits], by simp [new]⟩

theorem waits_iff {s : Player} {m : MediaType} :
    s.waits m = true ↔
      ∃ d, s.decoder m = some d ∧ d.isStarted = true ∧ d.waitingForPreBuffer = true := by
  unfold waits
  cases s.decoder m <;> simp

theorem Kept.awaited {s : Player} (hs : Kept s) : s.awaited = true := by
  unfold Player.awaited
  by_cases hwaits : ∃ m, s.waits m = true
  · obtain ⟨m, hm⟩ := hwaits
    obtain ⟨d, hd, hstarted, hwaiting⟩ := waits_iff.mp hm
    have howed := hs.owed m d hd hwaiting (by simp [armed, hstarted])
    simp only [Player.owed, Bool.or_eq_true] at howed ⊢
    rcases howed with hpromised | hreleasing
    · exact Or.inl (Or.inr hpromised)
    · right
      unfold releasing at hreleasing
      split at hreleasing <;> simp_all [Pc.calling]
  · have hnone : ∀ m, s.waits m = false := by simpa using hwaits
    simp [hnone]

/-- What the promise depends on. -/
structure Same (s s' : Player) : Prop where
  promised : s'.promised = s.promised
  pc : s'.demuxer.pc = s.demuxer.pc
  queue : ∀ m, (s'.demuxer.queue m).isSome = (s.demuxer.queue m).isSome

theorem owed_congr {s s' : Player} (h : s'.demuxer = s.demuxer) (m : MediaType) :
    s'.owed m = s.owed m := by
  simp only [owed, promised, releasing, h]

theorem Same.owed {s s' : Player} (h : Same s s') (m : MediaType) : s'.owed m = s.owed m := by
  simp only [Player.owed, releasing, h.promised, h.pc]

theorem Kept.mono {s s' : Player} (hs : Kept s)
    (hconfig : s'.config.preBufferConfig.autoStartAfterPreBuffer = true)
    (hautoStarts : s'.code.all Instr.autoStarts = true) (hordered : Instr.ordered s'.code = true)
    (hdecoder : ∀ m d', s'.decoder m = some d' → d'.waitingForPreBuffer = true →
      ∃ d, s.decoder m = some d ∧ d.waitingForPreBuffer = true ∧
        (d'.isStarted = true → d.isStarted = true ∧
          (Instr.haltsFirst m s.code = true → Instr.haltsFirst m s'.code = true)) ∧
        (s'.armed m d' = true → s.armed m d = true ∧ (s.owed m = true → s'.owed m = true))) :
    Kept s' where
  autoStart := hconfig
  autoStarts := hautoStarts
  ordered := hordered
  halted := by
    intro m hwaits
    obtain ⟨d', hd', hstarted', hwaiting'⟩ := waits_iff.mp hwaits
    obtain ⟨d, hd, hwaiting, hstarted, _⟩ := hdecoder m d' hd' hwaiting'
    obtain ⟨hstarted, hhalts⟩ := hstarted hstarted'
    exact hhalts (hs.halted m (waits_iff.mpr ⟨d, hd, hstarted, hwaiting⟩))
  owed := by
    intro m d' hd' hwaiting' harmed'
    obtain ⟨d, hd, hwaiting, _, harmed⟩ := hdecoder m d' hd' hwaiting'
    obtain ⟨harmed, howes⟩ := harmed harmed'
    exact howes (hs.owed m d hd hwaiting harmed)

/-- The rest of an operation, or nothing of it, is left. -/
theorem Kept.rest {s : Player} {instr : Instr} {code code' : List Instr} (hs : Kept s)
    (hcode : s.code = instr :: code) (hcode' : code' = code ∨ code' = []) :
    code'.all Instr.autoStarts = true ∧ Instr.ordered code' = true := by
  have hautoStarts := hs.autoStarts
  have hordered := hs.ordered
  rw [hcode, List.all_cons, Bool.and_eq_true] at hautoStarts
  rw [hcode, Instr.ordered, Bool.and_eq_true] at hordered
  rcases hcode' with rfl | rfl
  · exact ⟨hautoStarts.2, hordered.2⟩
  · exact ⟨rfl, rfl⟩

/-- An instruction that resets nothing, marks nothing and starts nothing, after which the
operation goes on or ends. -/
theorem Kept.advance {s s' : Player} {instr : Instr} {code : List Instr} (hs : Kept s)
    (hcode : s.code = instr :: code) (hresets : instr.resets = false)
    (hmarks : ∀ m, instr.marks m = false ∧ instr.starts m = false)
    (hconfig : s'.config.preBufferConfig.autoStartAfterPreBuffer = true)
    (hcode' : s'.code = code ∨ s'.code = []) (hsame : Same s s')
    (hdecoder : ∀ m d', s'.decoder m = some d' → d'.waitingForPreBuffer = true →
      ∃ d, s.decoder m = some d ∧ d.waitingForPreBuffer = true ∧
        (d'.isStarted = true → d.isStarted = true ∧ instr.halts m = false)) : Kept s' := by
  obtain ⟨hautoStarts, hordered⟩ := hs.rest hcode hcode'
  refine hs.mono hconfig hautoStarts hordered fun m d' hd' hwaiting' => ?_
  obtain ⟨d, hd, hwaiting, hstarted⟩ := hdecoder m d' hd' hwaiting'
  refine ⟨d, hd, hwaiting, fun hstarted' => ⟨(hstarted hstarted').1, fun hhalted => ?_⟩,
    fun harmed => ⟨?_, fun howed => by rw [hsame.owed]; exact howed⟩⟩
  · rw [hcode, Instr.haltsFirst, (hstarted hstarted').2, hresets] at hhalted
    rcases hcode' with h | h <;> rw [h]
    · simpa using hhalted
    · rfl
  · simp only [armed, Bool.or_eq_true, Bool.and_eq_true] at harmed ⊢
    rcases harmed with harmed | ⟨hqueue, hmarked⟩
    · exact Or.inl (hstarted harmed).1
    · refine Or.inr ⟨by rw [← hsame.queue]; exact hqueue, ?_⟩
      rcases hcode' with h | h <;> rw [h] at hmarked
      · rw [hcode]
        simpa [Instr.marked, hmarks m] using hmarked
      · simp [Instr.marked] at hmarked

/-- An instruction that finds nothing to do. -/
theorem Kept.skip {s : Player} {instr : Instr} {code : List Instr} (hs : Kept s)
    (hcode : s.code = instr :: code) (hresets : instr.resets = false)
    (hmarks : ∀ m, instr.marks m = false ∧ instr.starts m = false)
    (hhalts : ∀ m, instr.halts m = false) : Kept { s with code := code } :=
  hs.advance hcode hresets hmarks hs.autoStart (Or.inl rfl) ⟨rfl, rfl, fun _ => rfl⟩
    fun m d hd hwaiting => ⟨d, hd, hwaiting, fun hd => ⟨hd, hhalts m⟩⟩

theorem haltsFirst_of_all {code : List Instr} (h : ∀ instr ∈ code, instr.resets = false)
    (m : MediaType) : Instr.haltsFirst m code = true := by
  induction code with
  | nil => rfl
  | cons instr code ih =>
    have hcode : ∀ instr ∈ code, instr.resets = false :=
      fun instr hinstr => h instr (List.mem_cons_of_mem _ hinstr)
    simp [Instr.haltsFirst, h instr List.mem_cons_self, ih hcode]

/-- No decoder waits when the pre-buffer is reset. -/
theorem Kept.not_waits {s : Player} {instr : Instr} {code : List Instr} (hs : Kept s)
    (hcode : s.code = instr :: code) (hresets : instr.resets = true)
    (hhalts : ∀ m, instr.halts m = false) (m : MediaType) : s.waits m = false := by
  by_contra hwaits
  have hhalted := hs.halted m (by simpa using hwaits)
  rw [hcode, Instr.haltsFirst, hhalts, hresets] at hhalted
  simp at hhalted

/-- The pre-buffer is reset while no decoder waits, and no decoder is started before it is made
to wait again. -/
theorem Kept.reset {s s' : Player} {instr : Instr} {code : List Instr} (hs : Kept s)
    (hcode : s.code = instr :: code) (hresets : instr.resets = true)
    (hhalts : ∀ m, instr.halts m = false) (hconfig : s'.config = s.config)
    (hcode' : s'.code = code ∨ s'.code = []) (hdecoder : s'.decoder = s.decoder)
    (hmarked : Instr.marked .video code = false ∧ Instr.marked .audio code = false) :
    Kept s' := by
  have hnot := hs.not_waits hcode hresets hhalts
  obtain ⟨hautoStarts, hordered⟩ := hs.rest hcode hcode'
  refine ⟨by rw [hconfig]; exact hs.autoStart, hautoStarts, hordered, ?_, ?_⟩
  · intro m hwaits
    have : s.waits m = true := by simpa only [waits, hdecoder] using hwaits
    simp [hnot m] at this
  · intro m d hd hwaiting harmed
    rw [hdecoder] at hd
    simp only [armed, Bool.or_eq_true, Bool.and_eq_true] at harmed
    rcases harmed with hstarted | ⟨_, hmark⟩
    · have := waits_iff.mpr ⟨d, hd, hstarted, hwaiting⟩
      simp [hnot m] at this
    · rcases hcode' with h | h <;> rw [h] at hmark
      · cases m with
        | video => simp [hmarked.1] at hmark
        | audio => simp [hmarked.2] at hmark
      · simp [Instr.marked] at hmark

/-- The decoder of `m` after it was changed in place. -/
theorem modify_some {s : Player} {m m' : MediaType} {f : Decoder → Decoder} {d' : Decoder}
    (h : (s.modify m f).decoder m' = some d') :
    ∃ d, s.decoder m' = some d ∧ d' = if m' = m then f d else d := by
  by_cases hm : m' = m
  · subst hm
    simp only [modify, Function.update_self, Option.map_eq_some_iff] at h
    rcases h with ⟨d, hd, rfl⟩
    exact ⟨d, hd, by simp⟩
  · simp only [modify, Function.update_of_ne hm] at h
    exact ⟨d', h, by simp [hm]⟩

theorem Kept.setWaiting {s s' : Player} {m : MediaType} {code : List Instr} (hs : Kept s)
    (hcode : s.code = .setWaiting m :: code) (hguard : s.waitsOwed .control = true)
    (h : { s with code := code }.exec (.setWaiting m) = some s') : Kept s' := by
  obtain ⟨hautoStarts, hordered⟩ := hs.rest hcode (Or.inl rfl)
  have hfirst := hs.ordered
  rw [hcode, Instr.ordered, Bool.and_eq_true] at hfirst
  have hhalts : ∀ m', Instr.haltsFirst m' code = true := by
    refine haltsFirst_of_all fun instr hinstr => ?_
    simpa using List.all_eq_true.mp hfirst.1 instr hinstr
  simp only [exec, Option.some.injEq] at h
  have hs' : s'.config = s.config ∧ s'.code = code ∧ s'.demuxer = s.demuxer := by
    rw [← h]
    split_ifs <;> exact ⟨rfl, rfl, rfl⟩
  have hdecoder : ∀ m' d', s'.decoder m' = some d' → ∃ d, s.decoder m' = some d ∧
      d'.isStarted = d.isStarted ∧ (d'.waitingForPreBuffer = d.waitingForPreBuffer ∨
        m' = m ∧ s.config.preBufferConfig.enablePreBuffer = true) := by
    intro m' d' hd'
    rw [← h] at hd'
    split_ifs at hd' with henable
    · obtain ⟨d, hd, rfl⟩ := modify_some hd'
      refine ⟨d, hd, ?_⟩
      split_ifs with hm
      · exact ⟨rfl, Or.inr ⟨hm, henable⟩⟩
      · exact ⟨rfl, Or.inl rfl⟩
    · exact ⟨d', hd', rfl, Or.inl rfl⟩
  refine ⟨by rw [hs'.1]; exact hs.autoStart, by rw [hs'.2.1]; exact hautoStarts,
    by rw [hs'.2.1]; exact hordered, fun m' _ => by rw [hs'.2.1]; exact hhalts m', ?_⟩
  intro m' d' hd' hwaiting' harmed
  obtain ⟨d, hd, hstarted, hwaiting⟩ := hdecoder m' d' hd'
  rw [owed_congr hs'.2.2]
  simp only [armed, hs'.2.1, hs'.2.2, hstarted, Bool.or_eq_true, Bool.and_eq_true] at harmed
  by_cases hm : m' = m
  · subst hm
    have hwait : s.config.preBufferConfig.enablePreBuffer = true ∨ d.waitingForPreBuffer = true := by
      rcases hwaiting with hwaiting | ⟨_, henable⟩
      · exact Or.inr (by rw [← hwaiting]; exact hwaiting')
      · exact Or.inl henable
    have hstart : d.isStarted = true ∨ (s.demuxer.queue m').isSome = true := harmed.imp_right And.left
    simp only [waitsOwed, hcode, hd, Option.any_some, Bool.or_eq_true, Bool.not_eq_true',
      Bool.and_eq_false_iff, Bool.or_eq_false_iff] at hguard
    rcases hguard with hguard | hguard | hguard
    · exact hguard
    · rcases hwait with hwait | hwait <;> simp [hwait] at hguard
    · rcases hstart with hstart | hstart <;> simp [hstart] at hguard
  · have hwaiting : d.waitingForPreBuffer = true := by
      rcases hwaiting with hwaiting | ⟨hm', _⟩
      · rw [← hwaiting]
        exact hwaiting'
      · exact absurd hm' hm
    refine hs.owed m' d hd hwaiting ?_
    have hne : ¬m = m' := fun hm' => hm hm'.symm
    simpa [armed, hcode, Instr.marked, Instr.starts, Instr.marks, hne] using harmed

theorem Kept.startDecoder {s s' : Player} {m : MediaType} {code : List Instr} (hs : Kept s)
    (hcode : s.code = .startDecoder m :: code)
    (h : { s with code := code }.exec (.startDecoder m) = some s') : Kept s' := by
  obtain ⟨hautoStarts, hordered⟩ := hs.rest hcode (Or.inl rfl)
  have hfirst := hs.ordered
  rw [hcode, Instr.ordered, Bool.and_eq_true] at hfirst
  have hcode' : ∀ instr ∈ code, (instr.resets = false ∧ instr.marks .video = false) ∧
      instr.marks .audio = false := by
    intro instr hinstr
    simpa using List.all_eq_true.mp hfirst.1 instr hinstr
  have hmarks : ∀ m', code.any (Instr.marks m') = false := by
    intro m'
    rw [List.any_eq_false]
    intro instr hinstr
    cases m' with
    | video => simp [(hcode' instr hinstr).1.2]
    | audio => simp [(hcode' instr hinstr).2]
  simp only [exec, Option.some.injEq] at h
  have hs' : s'.config = s.config ∧ s'.code = code ∧ s'.demuxer = s.demuxer := by
    rw [← h]
    split_ifs <;> exact ⟨rfl, rfl, rfl⟩
  have hdecoder : ∀ m' d', s'.decoder m' = some d' → ∃ d, s.decoder m' = some d ∧
      d'.waitingForPreBuffer = d.waitingForPreBuffer ∧ (d'.isStarted = d.isStarted ∨
        m' = m ∧ (s.demuxer.queue m).isSome = true) := by
    intro m' d' hd'
    rw [← h] at hd'
    split_ifs at hd' with hqueue
    · obtain ⟨d, hd, rfl⟩ := modify_some hd'
      refine ⟨d, hd, ?_⟩
      split_ifs with hm
      · exact ⟨rfl, Or.inr ⟨hm, hqueue⟩⟩
      · exact ⟨rfl, Or.inl rfl⟩
    · exact ⟨d', hd', rfl, Or.inl rfl⟩
  refine ⟨by rw [hs'.1]; exact hs.autoStart, by rw [hs'.2.1]; exact hautoStarts,
    by rw [hs'.2.1]; exact hordered, fun m' _ => ?_, ?_⟩
  · rw [hs'.2.1]
    exact haltsFirst_of_all (fun instr hinstr => (hcode' instr hinstr).1.1) m'
  · intro m' d' hd' hwaiting' harmed
    obtain ⟨d, hd, hwaiting, hstarted⟩ := hdecoder m' d' hd'
    rw [owed_congr hs'.2.2]
    refine hs.owed m' d hd (by rw [← hwaiting]; exact hwaiting') ?_
    simp only [armed, hs'.2.1, hs'.2.2, hcode, Instr.marked, List.any_cons, hmarks, Instr.marks,
      Bool.or_false, Bool.not_false, Bool.and_true, Bool.or_eq_true, Bool.and_eq_true] at harmed ⊢
    rcases harmed with hd's | ⟨hqueue, hstarts⟩
    · rcases hstarted with hstarted | ⟨rfl, hqueue⟩
      · exact Or.inl (by rw [← hstarted]; exact hd's)
      · exact Or.inr ⟨hqueue, Or.inl (by simp [Instr.starts])⟩
    · exact Or.inr ⟨hqueue, Or.inr hstarts⟩

theorem stop_isSome (dm : Demuxer) (m : MediaType) :
    (dm.stop.queue m).isSome = (dm.queue m).isSome := by
  unfold Demuxer.stop
  split_ifs <;> simp

theorem same_stop (s : Player) (code : List Instr) :
    Same s { s with demuxer := s.demuxer.stop, code := code } := by
  refine ⟨?_, ?_, stop_isSome s.demuxer⟩ <;>
  · simp only [promised, Demuxer.stop]
    split_ifs <;> rfl

theorem Kept.exec {s s' : Player} {instr : Instr} {code : List Instr} (hs : Kept s)
    (hcode : s.code = instr :: code) (hguard : s.waitsOwed .control = true)
    (h : { s with code := code }.exec instr = some s') : Kept s' := by
  cases instr with
  | setConfig config =>
    simp only [Player.exec, Option.some.injEq] at h
    have hautoStarts := hs.autoStarts
    rw [hcode, List.all_cons, Bool.and_eq_true] at hautoStarts
    subst h
    exact hs.advance hcode rfl (fun _ => ⟨rfl, rfl⟩) hautoStarts.1 (Or.inl rfl)
      ⟨rfl, rfl, fun _ => rfl⟩ fun m d hd hwaiting => ⟨d, hd, hwaiting, fun hd => ⟨hd, rfl⟩⟩
  | stopDemuxer =>
    simp only [Player.exec, Option.some.injEq] at h
    subst h
    exact hs.advance hcode rfl (fun _ => ⟨rfl, rfl⟩) hs.autoStart (Or.inl rfl) (same_stop s code)
      fun m d hd hwaiting => ⟨d, hd, hwaiting, fun hd => ⟨hd, rfl⟩⟩
  | joinDemuxer =>
    simp only [Player.exec, Option.ite_none_right_eq_some, Option.some.injEq] at h
    rcases h with ⟨_, rfl⟩
    exact hs.skip hcode rfl (fun _ => ⟨rfl, rfl⟩) fun _ => rfl
  | closeDemuxer =>
    have hordered := hs.ordered
    rw [hcode, Instr.ordered, Bool.and_eq_true] at hordered
    simp only [Instr.precedes, Bool.and_eq_true, Bool.not_eq_true'] at hordered
    simp only [Player.exec, Option.some.injEq] at h
    subst h
    exact hs.reset hcode rfl (fun _ => rfl) rfl (Or.inl rfl) rfl hordered.1
  | openDemuxer media =>
    have hordered := hs.ordered
    rw [hcode, Instr.ordered, Bool.and_eq_true] at hordered
    simp only [Instr.precedes, Bool.and_eq_true, Bool.not_eq_true'] at hordered
    cases media with
    | none =>
      simp only [Player.exec, Option.some.injEq] at h
      subst h
      exact hs.reset hcode rfl (fun _ => rfl) rfl (Or.inr rfl) rfl hordered.1
    | some media =>
      simp only [Player.exec, Option.some.injEq] at h
      subst h
      exact hs.reset hcode rfl (fun _ => rfl) rfl (Or.inl rfl) rfl hordered.1
  | createDecoder m =>
    simp only [Player.exec, Option.some.injEq] at h
    split_ifs at h
    · subst h
      refine hs.advance hcode rfl (fun _ => ⟨rfl, rfl⟩) hs.autoStart (Or.inl rfl)
        ⟨rfl, rfl, fun _ => rfl⟩ fun m' d hd hwaiting => ?_
      by_cases hm : m' = m
      · subst hm
        simp only [Function.update_self, Option.some.injEq] at hd
        simp [← hd] at hwaiting
      · simp only [Function.update_of_ne hm] at hd
        exact ⟨d, hd, hwaiting, fun hd => ⟨hd, rfl⟩⟩
    · subst h
      exact hs.skip hcode rfl (fun _ => ⟨rfl, rfl⟩) fun _ => rfl
  | openDecoder m ok =>
    simp only [Player.exec, Option.some.injEq] at h
    have hcode' : (if ok = true then code else []) = code ∨
        (if ok = true then code else []) = [] := by
      split_ifs
      · exact Or.inl rfl
      · exact Or.inr rfl
    by_cases hdecodes : { s with code := code }.decodes m = true
    · rw [if_pos hdecodes] at h
      subst h
      refine hs.advance hcode rfl (fun _ => ⟨rfl, rfl⟩) hs.autoStart hcode'
        ⟨rfl, rfl, fun _ => rfl⟩ fun m' d' hd' hwaiting => ?_
      obtain ⟨d, hd, rfl⟩ := modify_some hd'
      split_ifs at hwaiting ⊢
      · exact ⟨d, hd, hwaiting, by simp⟩
      · exact ⟨d, hd, hwaiting, fun hd => ⟨hd, rfl⟩⟩
    · rw [if_neg hdecodes] at h
      subst h
      exact hs.skip hcode rfl (fun _ => ⟨rfl, rfl⟩) fun _ => rfl
  | setWaiting m => exact hs.setWaiting hcode hguard h
  | startDecoder m => exact hs.startDecoder hcode h
  | stopDecoder m =>
    simp only [Player.exec, Option.some.injEq] at h
    subst h
    refine hs.advance hcode rfl (fun _ => ⟨rfl, rfl⟩) hs.autoStart (Or.inl rfl)
      ⟨rfl, rfl, fun _ => rfl⟩ fun m' d' hd' hwaiting => ?_
    obtain ⟨d, hd, rfl⟩ := modify_some hd'
    split_ifs at hwaiting ⊢ with hm
    · exact ⟨d, hd, hwaiting, by simp⟩
    · exact ⟨d, hd, hwaiting, fun hd => ⟨hd, by simp [Instr.halts, Ne.symm hm]⟩⟩
  | cleanup m =>
    simp only [Player.exec, Option.some.injEq] at h
    subst h
    refine hs.advance hcode rfl (fun _ => ⟨rfl, rfl⟩) hs.autoStart (Or.inl rfl)
      ⟨rfl, rfl, fun _ => rfl⟩ fun m' d' hd' hwaiting => ?_
    obtain ⟨d, hd, rfl⟩ := modify_some hd'
    split_ifs at hwaiting ⊢
    exact ⟨d, hd, hwaiting, fun hd => ⟨hd, rfl⟩⟩
  | destroyDecoder m =>
    simp only [Player.exec, Option.some.injEq] at h
    subst h
    refine hs.advance hcode rfl (fun _ => ⟨rfl, rfl⟩) hs.autoStart (Or.inl rfl)
      ⟨rfl, rfl, fun _ => rfl⟩ fun m' d hd hwaiting => ?_
    by_cases hm : m' = m
    · subst hm
      simp at hd
    · simp only [Function.update_of_ne hm] at hd
      exact ⟨d, hd, hwaiting, fun hd => ⟨hd, by simp [Instr.halts, Ne.symm hm]⟩⟩

theorem Kept.demux {s s' : Player} (hs : Kept s) (h : s.demuxStep = some s') : Kept s' := by
  rcases Option.map_eq_some_iff.mp h with ⟨⟨dm', effect⟩, hmove, rfl⟩
  cases Demuxer.move_change hmove with
  | other hpc henabled hready hqueue =>
    refine hs.mono hs.autoStart hs.autoStarts hs.ordered fun m d hd hwaiting =>
      ⟨d, hd, hwaiting, fun hd => ⟨hd, id⟩, fun harmed => ⟨?_, fun howed => ?_⟩⟩
    · simpa only [armed, Option.elim_none, hqueue] using harmed
    · have hreleasing : s.releasing m = false := by
        unfold releasing
        split <;> simp_all [Pc.calling]
      simp only [Player.owed, hreleasing, Bool.or_false] at howed
      simp only [Player.owed, promised, Option.elim_none, henabled, hready, Bool.or_eq_true]
      exact Or.inl howed
  | fired hpc henabled hready hfull =>
    exact hs.mono hs.autoStart hs.autoStarts hs.ordered fun m d hd hwaiting =>
      ⟨d, hd, hwaiting, fun hd => ⟨hd, id⟩, fun harmed => ⟨harmed, fun _ => by
        simp [Player.owed, releasing]⟩⟩
  | called hpc =>
    refine hs.mono hs.autoStart hs.autoStarts hs.ordered fun m d hd hwaiting =>
      ⟨d, hd, hwaiting, fun hd => ⟨hd, id⟩, fun harmed => ⟨harmed, fun _ => ?_⟩⟩
    simp [Player.owed, releasing, hs.autoStart, Demuxer.goto]
  | released m hpc =>
    refine hs.mono hs.autoStart hs.autoStarts hs.ordered fun m' d' hd' hwaiting => ?_
    obtain ⟨d, hd, rfl⟩ := modify_some hd'
    split_ifs at hwaiting ⊢ with hm
    refine ⟨d, hd, hwaiting, fun hd => ⟨hd, id⟩, fun harmed => ⟨harmed, fun howed => ?_⟩⟩
    simp only [Player.owed, releasing, hpc, promised, Option.elim_some, modify, Demuxer.goto,
      Demuxer.afterMedia] at howed ⊢
    cases m <;> cases m' <;> simp_all

/-- A queue is read or emptied; the pre-buffer does not notice. -/
theorem Kept.queue {s : Player} (hs : Kept s) {m : MediaType}
    (h : (s.demuxer.queue m).isSome = true) (q : PacketQueue) :
    Kept { s with demuxer := s.demuxer.setQueue m q } := by
  refine hs.mono hs.autoStart hs.autoStarts hs.ordered fun m' d hd hwaiting =>
    ⟨d, hd, hwaiting, fun hd => ⟨hd, id⟩, fun harmed => ⟨?_, id⟩⟩
  simpa only [armed, Demuxer.setQueue_isSome h] using harmed

theorem Kept.pop {s s' : Player} {m : MediaType} (hs : Kept s) (h : s.popPacket m = some s') :
    Kept s' := by
  unfold popPacket at h
  split at h
  · next d q _ hq =>
    simp only [Option.ite_none_right_eq_some, Option.some.injEq] at h
    rcases h with ⟨_, rfl⟩
    exact hs.queue (by simp [hq]) _
  · simp at h

theorem Kept.flush {s s' : Player} {m : MediaType} (hs : Kept s) (h : s.flushQueue m = some s') :
    Kept s' := by
  rcases Option.map_eq_some_iff.mp h with ⟨q, hq, rfl⟩
  exact hs.queue (by simp [hq]) _

/-- An operation takes the mutex. -/
theorem Kept.call {s t s' : Player} {code : List Instr} (hs : Kept s)
    (h : t.call code = some s')
    (hsame : t.config = s.config ∧ t.demuxer = s.demuxer ∧ t.decoder = s.decoder)
    (hautoStarts : code.all Instr.autoStarts = true) (hordered : Instr.ordered code = true)
    (hmarked : ∀ m, Instr.marked m code = false)
    (hhalts : ∀ m, s.waits m = true → Instr.haltsFirst m code = true) : Kept s' := by
  obtain ⟨hconfig, hdemuxer, hdecoder⟩ := hsame
  unfold Player.call at h
  split at h
  · simp only [Option.some.injEq] at h
    subst h
    refine ⟨by rw [hconfig]; exact hs.autoStart, hautoStarts, hordered, ?_, ?_⟩
    · intro m hwaits
      exact hhalts m (by simpa only [waits, hdecoder] using hwaits)
    · intro m d hd hwaiting harmed
      simp only [armed, hmarked, Bool.and_false, Bool.or_false] at harmed
      rw [hdecoder] at hd
      have howed := hs.owed m d hd hwaiting (by simp [armed, harmed])
      have hsame : Player.owed { t with code := code } m = s.owed m := owed_congr hdemuxer m
      rw [hsame]
      exact howed
  · simp at h

theorem Kept.step {s s' : Player} {a : Action} (hs : Kept s) (hauto : a.autoStarts = true)
    (hguard : s.waitsOwed a = true) (h : s.step a = some s') : Kept s' := by
  cases a with
  | openMedia config media =>
    simp only [waitsOwed, Bool.not_eq_true', Bool.or_eq_false_iff] at hguard
    simp only [Player.step] at h
    refine hs.call h ⟨rfl, rfl, rfl⟩ ?_ rfl (fun m => by cases m <;> rfl) fun m hm => ?_
    · simp only [Action.autoStarts] at hauto
      simp [Instr.openInternal, Instr.demuxerOpen, Instr.demuxerClose, Instr.autoStarts, hauto]
    · cases m <;> simp_all
  | openAsync config media cancelled =>
    simp only [waitsOwed, Bool.not_eq_true', Bool.or_eq_false_iff] at hguard
    simp only [Player.step] at h
    refine hs.call h ⟨rfl, rfl, rfl⟩ ?_ (by cases cancelled <;> rfl)
      (fun m => by cases m <;> cases cancelled <;> rfl) fun m hm => ?_
    · simp only [Action.autoStarts] at hauto
      cases cancelled <;>
        simp [Instr.openInternal, Instr.demuxerOpen, Instr.demuxerClose, Instr.autoStarts, hauto]
    · cases m <;> simp_all
  | startDecode | stopDecode | attemptReconnect | cleanupPreBufferState | closeInternal =>
    simp only [Player.step] at h
    exact hs.call h ⟨rfl, rfl, rfl⟩ rfl rfl (fun m => by cases m <;> rfl)
      fun m _ => by cases m <;> rfl
  | reopen media ok =>
    simp only [waitsOwed, Bool.not_eq_true', Bool.or_eq_false_iff] at hguard
    simp only [Player.step, Option.ite_none_right_eq_some] at h
    refine hs.call h.2 ⟨rfl, rfl, rfl⟩ ?_ ?_ (fun m => ?_) fun m hm => ?_
    · cases s.hasDecoderWhenReconnected <;> rfl
    · cases s.hasDecoderWhenReconnected <;> rfl
    · cases m <;> cases s.hasDecoderWhenReconnected <;> rfl
    · cases m <;> simp_all
  | giveUpReconnect =>
    simp only [Player.step, Option.some.injEq] at h
    subst h
    exact ⟨hs.autoStart, hs.autoStarts, hs.ordered, hs.halted, hs.owed⟩
  | control =>
    simp only [Player.step] at h
    split at h
    · simp at h
    · next instr code hcode => exact hs.exec hcode hguard h
  | demux => exact hs.demux h
  | pop m => exact hs.pop h
  | flush m => exact hs.flush h

/-- A started decoder that waits for the pre-buffer is still owed its wake-up, in every run in
which decoders are made to wait only while the callback is still to come to them, and the
demuxer is not opened under decoders that wait. -/
theorem waiting_awaited (actions : List Action)
    (h : Each Player.step (fun s a _ => a.autoStarts = true ∧ s.waitsOwed a = true) .new actions) :
    Each Player.step (fun _ _ s' => s'.awaited = true) .new actions := by
  refine Each.of_invariant (fun s a s' hs ha hstep => ?_) kept_new h
  have hs' : Kept s' := hs.step ha.1 ha.2 hstep
  exact ⟨hs', hs'.awaited⟩

/-- Pre-buffering of the video, for a file with one key frame. -/
def openVideo (frames : ℤ) : List Action :=
  [.openMedia ⟨fun _ => true, true, frames, 0, false, true⟩
      (some ⟨false, fun m => m = .video, [.packet .video .keyFrame]⟩)] ++
    List.replicate 7 .control

def startVideo : List Action := [.startDecode fun _ => true] ++ List.replicate 6 .control

/-- The key frame arrives after `startDecode` and the decoder is released. -/
theorem waiting_awaited_released :
    let actions := openVideo 1 ++ startVideo ++ List.replicate 6 .demux
    ((run Player.step .new actions).map fun s => (s.decoder .video, s.promised)) =
        some (some ⟨true, false⟩, false) ∧
      Each Player.step (fun _ _ s' => s'.awaited = true) .new actions :=
  ⟨by decide +kernel, waiting_awaited _ (by decide +kernel)⟩

/-- The decoder waits and nothing will release it: the key frame arrived before `startDecode`,
or no threshold is set and the callback never comes. -/
theorem waiting_awaited_fails :
    ¬Each Player.step (fun _ _ s' => s'.awaited = true) .new
        (openVideo 1 ++ List.replicate 6 .demux ++ startVideo) ∧
      ¬Each Player.step (fun _ _ s' => s'.awaited = true) .new (openVideo 0 ++ startVideo) := by
  decide +kernel

end Player

end DecoderSDK.PreBuffer
