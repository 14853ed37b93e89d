import DecoderSDK.Playback.Decoding

/-! # The playback state across a reconnect

A reconnect stops the decoders, opens the url again, and restores what two
flags remember: the demuxer is paused again, and the decoders are started.
The flags are set by the calls and not reset by an open, a demuxer keeps its
pause when it is closed, and decoders that are started are not paused.
-/
namespace DecoderSDK.Playback
open Lifecycle Interleaving

namespace Decoder

/-- Only a started decoder is paused. -/
def Sound (d : Decoder) : Prop := d.isPaused = true → d.isStarted = true

/-- Neither started nor paused. -/
structure Idle (d : Decoder) : Prop where
  isStarted : d.isStarted = false
  isPaused : d.isPaused = false

theorem Idle.sound {d : Decoder} (h : d.Idle) : d.Sound := by
  intro hpaused
  rw [h.isPaused] at hpaused
  cases hpaused

theorem new_idle : new.Idle := ⟨rfl, rfl⟩

theorem Sound.stop {d : Decoder} (h : d.Sound) : d.stop.Idle := by
  unfold Decoder.stop
  cases hstarted : d.isStarted with
  | false =>
    refine ⟨by simpa using hstarted, ?_⟩
    by_contra hpaused
    simp only [Bool.not_false, if_true, Bool.not_eq_false] at hpaused
    rw [h hpaused] at hstarted
    cases hstarted
  | true => exact ⟨rfl, rfl⟩

theorem Sound.close {d : Decoder} (h : d.Sound) : d.close.Idle := by
  simp only [Decoder.close]
  split
  · exact h.stop
  · exact ⟨h.stop.isStarted, h.stop.isPaused⟩

@[simp] theorem setSpeed_isPaused (d : Decoder) (speed : Float) :
    (d.setSpeed speed).isPaused = d.isPaused := by
  unfold setSpeed
  split <;> rfl

theorem Sound.setSpeed {d : Decoder} (h : d.Sound) (speed : Float) : (d.setSpeed speed).Sound := by
  intro hpaused
  rw [setSpeed_isStarted]
  exact h (by simpa using hpaused)

theorem Idle.setSpeed {d : Decoder} (h : d.Idle) (speed : Float) : (d.setSpeed speed).Idle :=
  ⟨by rw [setSpeed_isStarted, h.isStarted], by rw [setSpeed_isPaused, h.isPaused]⟩

/-- Opening touches the two flags by closing only. -/
theorem openInternal_flags (d : Decoder) (demuxer : Lifecycle.Demuxer) (m : MediaType)
    (codec : Bool) :
    (d.openInternal demuxer m codec).2.isStarted =
        (if d.isOpened then d.close else d).isStarted ∧
      (d.openInternal demuxer m codec).2.isPaused =
        (if d.isOpened then d.close else d).isPaused := by
  simp only [openInternal]
  split <;> exact ⟨rfl, rfl⟩

theorem Idle.openInternal {d : Decoder} (h : d.Idle) (demuxer : Lifecycle.Demuxer) (m : MediaType)
    (codec : Bool) : (d.openInternal demuxer m codec).2.Idle := by
  rcases openInternal_flags d demuxer m codec with ⟨hstarted, hpaused⟩
  have hidle : (if d.isOpened then d.close else d).Idle := by
    split
    · exact h.sound.close
    · exact h
  exact ⟨hstarted.trans hidle.isStarted, hpaused.trans hidle.isPaused⟩

theorem Sound.openInternal {d : Decoder} (h : d.Sound) (demuxer : Lifecycle.Demuxer)
    (m : MediaType) (codec : Bool) : (d.openInternal demuxer m codec).2.Sound := by
  rcases openInternal_flags d demuxer m codec with ⟨hstarted, hpaused⟩
  have hsound : (if d.isOpened then d.close else d).Sound := by
    split
    · exact h.close.sound
    · exact h
  intro hp
  rw [hstarted]
  exact hsound (hpaused ▸ hp)

theorem Sound.start {d : Decoder} (h : d.Sound) (packetQueue : Option PacketQueue) :
    (d.start packetQueue).Sound := by
  unfold Decoder.start
  split
  · exact h
  · intro _
    rfl

theorem Idle.start {d : Decoder} (h : d.Idle) (packetQueue : Option PacketQueue) :
    (d.start packetQueue).isStarted = packetQueue.isSome ∧
      (d.start packetQueue).isPaused = false := by
  unfold Decoder.start
  cases packetQueue with
  | none => simp [h.isStarted, h.isPaused]
  | some q => simp [h.isStarted, h.isPaused]

theorem Sound.pause {d : Decoder} (h : d.Sound) : d.pause.Sound := by
  unfold Decoder.pause
  split
  · exact h
  · next hguard =>
    intro _
    simp only [Bool.or_eq_true, Bool.not_eq_true', not_or, Bool.not_eq_false] at hguard
    exact hguard.2

theorem Sound.resume {d : Decoder} (h : d.Sound) : d.resume.Sound := by
  unfold Decoder.resume
  split
  · exact h
  · intro hpaused
    cases hpaused

end Decoder

/-- The last of pause and resume, and the last of `startDecode` and `stopDecode`; `close` stops
decoding. -/
def Call.records : Call → Bool × Bool → Bool × Bool
  | .startDecode _, asked => (asked.1, true)
  | .stopDecode, asked => (asked.1, false)
  | .pause, asked => (true, asked.2)
  | .resume, asked => (false, asked.2)
  | .close, asked => (asked.1, false)
  | _, asked => asked

/-- The controller with what was asked since its url was opened. -/
structure Asked where
  controller : DecoderController
  pauseAsked : Bool
  decodeAsked : Bool

namespace Asked

def new : Asked := ⟨.new, false, false⟩

def asks (s : Asked) : Call → Bool × Bool
  | .open _ _ _ => (false, false)
  | .openAsync _ _ _ => (false, false)
  | call => call.records (s.pauseAsked, s.decodeAsked)

def step (s : Asked) (timed : ℚ × Call) : Option Asked :=
  (s.controller.step timed).map fun c => ⟨c, (s.asks timed.2).1, (s.asks timed.2).2⟩

end Asked

namespace DecoderController

/-- The demuxer and the started decoders are paused as asked, and the decoders are started as
asked. -/
structure AsAsked (s : DecoderController) (pauseAsked decodeAsked : Bool) : Prop where
  demuxer : s.demuxer.isPaused = pauseAsked
  paused : ∀ m d, s.decoder m = some d → d.isStarted = true → d.isPaused = pauseAsked
  started : ∀ m d, s.decoder m = some d → d.isStarted = decodeAsked

/-- The decoder of the media type is started again when the url is opened with this answer. -/
def restarts (s : DecoderController) (probe : Probe) (m : MediaType) : Bool :=
  s.hasDecoderWhenReconnected &&
    (decide (0 ≤ probe.bestStream m) && s.config.decodeMediaType m)

theorem prepared_idle {s : DecoderController} {m : MediaType} {codec : Bool} {d : Decoder}
    (hidle : ∀ d, s.decoder m = some d → d.Idle) (hd : (s.prepared m codec).2 = some d) :
    d.Idle := by
  unfold prepared at hd
  cases hold : s.decoder m with
  | none => simp [hold] at hd
  | some d₀ =>
    simp only [hold] at hd
    split at hd
    · exact hidle d (by rw [hold]; exact hd)
    · rw [← Option.some.inj hd]
      exact ((hidle d₀ hold).setSpeed _).openInternal _ _ _

theorem prepared_isSome (s : DecoderController) (m : MediaType) (codec : Bool) :
    (s.prepared m codec).2.isSome = (s.decoder m).isSome := by
  unfold prepared
  cases s.decoder m with
  | none => rfl
  | some d =>
    dsimp only
    split <;> rfl

/-- Decoders that stand still are started where there is a queue. -/
theorem startDecodeInternal_idle {s : DecoderController}
    (hidle : ∀ m d, s.decoder m = some d → d.Idle) {now : ℚ} {codec : MediaType → Bool}
    (hstart : (s.startDecodeInternal now codec).1 = true)
    (m : MediaType) :
    ((s.startDecodeInternal now codec).2.decoder m).isSome = (s.decoder m).isSome ∧
      ∀ d, (s.startDecodeInternal now codec).2.decoder m = some d →
        d.isStarted = (s.demuxer.packetQueue m).isSome ∧ d.isPaused = false := by
  rw [startDecodeInternal_eq] at hstart ⊢
  split_ifs at hstart ⊢
  refine ⟨by simpa using prepared_isSome s m (codec m), ?_⟩
  intro d hd
  rcases Option.map_eq_some_iff.mp hd with ⟨d₀, hd₀, rfl⟩
  exact (prepared_idle (hidle m) hd₀).start _

theorem stopDecodeInternal_idle {s : DecoderController}
    (hsound : ∀ m d, s.decoder m = some d → d.Sound) (m : MediaType) {d : Decoder}
    (hd : s.stopDecodeInternal.decoder m = some d) : d.Idle := by
  rcases Option.map_eq_some_iff.mp hd with ⟨d₀, hd₀, rfl⟩
  exact (hsound m d₀ hd₀).stop.sound.close

/-- The demuxer of a reconnect that gets to the decoders. -/
def reopened (s : DecoderController) (probe : Probe) : Lifecycle.Demuxer :=
  let opened := (s.demuxer.close.openInternal s.originalUrl s.config.toConfig true probe).2
  if s.isDemuxerPausedWhenReconnected then opened.pause.2 else opened

/-- A reconnect that succeeds has opened the url, and has started the decoders if the flag asks
for it. -/
theorem attemptReconnect_success {s : DecoderController} {now : ℚ} {cancelled : Bool}
    {probe : Probe} {codec : MediaType → Bool}
    (h : (s.attemptReconnect now cancelled probe codec).1 = true) :
    (s.demuxer.close.openInternal s.originalUrl s.config.toConfig true probe).1 = true ∧
      s.attemptReconnect now cancelled probe codec =
        if s.hasDecoderWhenReconnected then
          (s.disconnected (s.reopened probe)).startDecodeInternal now codec
        else (true, s.disconnected (s.reopened probe)) := by
  simp only [attemptReconnect, disconnected, reopened] at h ⊢
  cases cancelled with
  | true => simp at h
  | false =>
    have hclosed : s.stopDecodeInternal.demuxer.close.openInternal s.stopDecodeInternal.originalUrl
        s.stopDecodeInternal.config.toConfig true probe =
        s.demuxer.close.openInternal s.originalUrl s.config.toConfig true probe := rfl
    rw [hclosed] at h ⊢
    generalize s.demuxer.close.openInternal s.originalUrl s.config.toConfig true probe = opened
      at h ⊢
    have hhas : s.stopDecodeInternal.hasDecoderWhenReconnected = s.hasDecoderWhenReconnected := rfl
    have hpaused : s.stopDecodeInternal.isDemuxerPausedWhenReconnected =
        s.isDemuxerPausedWhenReconnected := rfl
    cases hopened : opened.1 with
    | false => simp [hopened] at h
    | true =>
      refine ⟨rfl, ?_⟩
      cases hpause : s.isDemuxerPausedWhenReconnected <;>
        cases hdecoder : s.hasDecoderWhenReconnected <;>
          simp [hhas, hpaused, hpause, hdecoder]

section Reconnect
variable {s : DecoderController} {probe : Probe}

theorem reopened_isPaused (hcoherent : s.demuxer.Coherent)
    (hopen : (s.demuxer.close.openInternal s.originalUrl s.config.toConfig true probe).1 = true) :
    (s.reopened probe).isPaused = (s.demuxer.isPaused || s.isDemuxerPausedWhenReconnected) := by
  have hclosed := Lifecycle.Demuxer.close_released hcoherent
  have hestablished := Lifecycle.Demuxer.openInternal_established s.demuxer.close s.originalUrl
    s.config.toConfig true (.inl hclosed) hopen
  have hrequests := Lifecycle.Demuxer.openInternal_requests s.demuxer.close s.originalUrl
    s.config.toConfig true probe
  rw [Lifecycle.Demuxer.close_requests] at hrequests
  have hsame := congrArg Prod.fst hrequests
  simp only [Lifecycle.Demuxer.requests] at hsame
  unfold reopened
  cases s.isDemuxerPausedWhenReconnected with
  | false => simp [hsame]
  | true =>
    have hrunning := hestablished.running
    simp [Lifecycle.Demuxer.pause, hrunning.isOpened, hrunning.isStarted]

theorem reopened_packetQueue (hcoherent : s.demuxer.Coherent)
    (hopen : (s.demuxer.close.openInternal s.originalUrl s.config.toConfig true probe).1 = true)
    (m : MediaType) :
    ((s.reopened probe).packetQueue m).isSome =
      (decide (0 ≤ probe.bestStream m) && s.config.decodeMediaType m) := by
  have hclosed := Lifecycle.Demuxer.close_released hcoherent
  have hestablished := Lifecycle.Demuxer.openInternal_established s.demuxer.close s.originalUrl
    s.config.toConfig true (.inl hclosed) hopen
  have hqueue := queue_of_opened (m := m) (.inl hclosed) hestablished.running.isOpened
  rw [hestablished.streamIndex] at hqueue
  unfold reopened
  cases s.isDemuxerPausedWhenReconnected with
  | false => exact hqueue
  | true =>
    dsimp only
    rw [if_pos rfl, (Lifecycle.Demuxer.pause_keeps _).packetQueue]
    exact hqueue

/-- What a successful reconnect makes of the demuxer and the decoders. -/
theorem attemptReconnect_state (hcoherent : s.demuxer.Coherent)
    (hsound : ∀ m d, s.decoder m = some d → d.Sound) {now : ℚ} {cancelled : Bool}
    {codec : MediaType → Bool} (h : (s.attemptReconnect now cancelled probe codec).1 = true) :
    (s.attemptReconnect now cancelled probe codec).2.demuxer.isPaused =
        (s.demuxer.isPaused || s.isDemuxerPausedWhenReconnected) ∧
      ∀ m, ((s.attemptReconnect now cancelled probe codec).2.decoder m).isSome =
          (s.decoder m).isSome ∧
        ∀ d, (s.attemptReconnect now cancelled probe codec).2.decoder m = some d →
          d.isStarted = s.restarts probe m ∧ d.isPaused = false := by
  rcases attemptReconnect_success h with ⟨hopen, heq⟩
  have hpaused := reopened_isPaused hcoherent hopen
  have hidle : ∀ m d, (s.disconnected (s.reopened probe)).decoder m = some d → d.Idle :=
    fun m d hd => stopDecodeInternal_idle hsound m hd
  have hsome : ∀ m, ((s.disconnected (s.reopened probe)).decoder m).isSome =
      (s.decoder m).isSome := by
    intro m
    exact Option.isSome_map
  rw [heq] at h ⊢
  cases hdecoder : s.hasDecoderWhenReconnected with
  | false =>
    refine ⟨hpaused, fun m => ⟨hsome m, ?_⟩⟩
    intro d hd
    rw [restarts, hdecoder]
    exact ⟨(hidle m d hd).isStarted, (hidle m d hd).isPaused⟩
  | true =>
    rw [hdecoder, if_pos rfl] at h
    simp only [if_true]
    refine ⟨?_, ?_⟩
    · rw [(startDecodeInternal_cases _ now codec).1.demuxer]
      exact hpaused
    · intro m
      rcases startDecodeInternal_idle hidle h m with ⟨hsome', hstarted⟩
      refine ⟨hsome'.trans (hsome m), ?_⟩
      intro d hd
      rw [restarts, hdecoder, Bool.true_and, ← reopened_packetQueue hcoherent hopen m]
      exact hstarted d hd

end Reconnect

/-- The flags that a reconnect reads. -/
def saved (s : DecoderController) : Bool × Bool :=
  (s.isDemuxerPausedWhenReconnected, s.hasDecoderWhenReconnected)

/-- What a reconnect relies on. -/
structure Restorable (s : DecoderController) : Prop where
  coherent : s.demuxer.Coherent
  sound : ∀ m d, s.decoder m = some d → d.Sound

theorem Restorable.map {s s' : DecoderController} (h : s.Restorable) (f : Decoder → Decoder)
    (hf : ∀ d, d.Sound → (f d).Sound) (hdecoder : ∀ m, s'.decoder m = (s.decoder m).map f)
    (hdemuxer : s'.demuxer.Coherent) : s'.Restorable where
  coherent := hdemuxer
  sound := by
    intro m d hd
    rw [hdecoder] at hd
    rcases Option.map_eq_some_iff.mp hd with ⟨d₀, hd₀, rfl⟩
    exact hf d₀ (h.sound m d₀ hd₀)

theorem Restorable.setDemuxer {s : DecoderController} (h : s.Restorable) {d : Lifecycle.Demuxer}
    (hd : d.Coherent) : Restorable { s with demuxer := d } :=
  ⟨hd, h.sound⟩

theorem prepared_sound {s : DecoderController} (h : s.Restorable) {m : MediaType} {codec : Bool}
    {d : Decoder} (hd : (s.prepared m codec).2 = some d) : d.Sound := by
  unfold prepared at hd
  cases hold : s.decoder m with
  | none => simp [hold] at hd
  | some d₀ =>
    simp only [hold] at hd
    split at hd
    · exact h.sound m d (by rw [hold]; exact hd)
    · rw [← Option.some.inj hd]
      exact ((h.sound m d₀ hold).setSpeed _).openInternal _ _ _

theorem Restorable.startDecodeInternal {s : DecoderController} (h : s.Restorable) (now : ℚ)
    (codec : MediaType → Bool) : (s.startDecodeInternal now codec).2.Restorable := by
  rcases startDecodeInternal_cases s now codec with ⟨hsame, -, hcases⟩
  constructor
  · rw [hsame.demuxer]
    exact h.coherent
  · intro m d hd
    rcases hcases with ⟨-, hall⟩ | ⟨-, -, heither⟩
    · rw [(hall m).2] at hd
      rcases Option.map_eq_some_iff.mp hd with ⟨d₀, hd₀, rfl⟩
      exact (prepared_sound h hd₀).start _
    · rcases heither m with hold | hprepared
      · exact h.sound m d (by rw [← hold, hd])
      · exact prepared_sound h (by rw [← hprepared, hd])

theorem startDecodeInternal_saved (s : DecoderController) (now : ℚ) (codec : MediaType → Bool) :
    (s.startDecodeInternal now codec).2.saved = s.saved := by
  rw [startDecodeInternal_eq]
  split_ifs <;> rfl

theorem Restorable.stopDecodeInternal {s : DecoderController} (h : s.Restorable) :
    s.stopDecodeInternal.Restorable :=
  h.map (fun d => d.stop.close) (fun _ hd => hd.stop.sound.close.sound) (fun _ => rfl) h.coherent

theorem Restorable.openInternal {s : DecoderController} (h : s.Restorable) (url : String)
    (config : Config) (probe : Probe) : (s.openInternal url config probe).2.Restorable := by
  constructor
  · rw [openInternal_demuxer]
    exact Lifecycle.Demuxer.openInternal_coherent _ _ _ _ h.coherent _
  · intro m d hd
    rcases s.openInternal_decoder url config probe m with ⟨-, hnew⟩ | ⟨-, hold⟩
    · rw [hnew, Option.some.injEq] at hd
      rw [← hd]
      exact Decoder.new_idle.sound
    · exact h.sound m d (by rw [← hold, hd])

theorem openInternal_saved (s : DecoderController) (url : String) (config : Config)
    (probe : Probe) : (s.openInternal url config probe).2.saved = s.saved := by
  simp only [openInternal]
  split <;> rfl

theorem restartClock_kept {s s' : DecoderController} {name : ClockName} {m : MediaType}
    {now : ℚ} (h : s.restartClock name m now = some s') :
    s'.saved = s.saved ∧ s'.decoder = s.decoder ∧ s'.demuxer = s.demuxer := by
  unfold restartClock at h
  split at h
  · rw [← Option.some.inj h]
    exact ⟨rfl, rfl, rfl⟩
  · cases h
  · rw [← Option.some.inj h]
    exact ⟨rfl, rfl, rfl⟩

theorem seek_kept {s : DecoderController} {position now : ℚ} {next : Bool × DecoderController}
    (h : s.seek position now = some next) :
    next.2.saved = s.saved ∧ next.2.decoder = s.decoder ∧
      Lifecycle.Demuxer.Keeps s.demuxer next.2.demuxer := by
  unfold seek at h
  by_cases hrealtime : s.demuxer.isRealTime = true
  · rw [if_pos hrealtime, Option.some.injEq] at h
    rw [← h]
    exact ⟨rfl, rfl, Lifecycle.Demuxer.Keeps.refl _⟩
  · rw [if_neg hrealtime] at h
    dsimp only at h
    by_cases hseek : (!(s.demuxer.seek position).1) = true
    · rw [if_pos hseek, Option.some.injEq] at h
      rw [← h]
      exact ⟨rfl, rfl, Lifecycle.Demuxer.Keeps.refl _⟩
    · rw [if_neg hseek] at h
      simp only [Option.bind_eq_bind, Option.bind_eq_some_iff, Option.some.injEq] at h
      rcases h with ⟨s₁, haudio, s₂, hvideo, rfl⟩
      rcases restartClock_kept haudio with ⟨hsaved₁, hdecoder₁, hdemuxer₁⟩
      rcases restartClock_kept hvideo with ⟨hsaved₂, hdecoder₂, hdemuxer₂⟩
      refine ⟨hsaved₂.trans hsaved₁, hdecoder₂.trans hdecoder₁, ?_⟩
      rw [hdemuxer₂, hdemuxer₁]
      exact Lifecycle.Demuxer.seek_keeps _ _

theorem Restorable.reconnects {s : DecoderController} (h : s.Restorable) {probe : Probe}
    {demuxer : Lifecycle.Demuxer} (hdemuxer : s.Reconnects probe demuxer) :
    (s.disconnected demuxer).Restorable := by
  have hclosed := Lifecycle.Demuxer.close_released h.coherent
  have hopened := Lifecycle.Demuxer.openInternal_coherent s.demuxer.close s.originalUrl
    s.config.toConfig true (.inl hclosed) probe
  apply h.stopDecodeInternal.setDemuxer
  rcases hdemuxer with rfl | rfl | rfl
  · exact .inl hclosed
  · exact hopened
  · exact hopened.of_keeps (Lifecycle.Demuxer.pause_keeps _)

/-- A call keeps what a reconnect relies on. -/
theorem step_restorable {s s' : DecoderController} {timed : ℚ × Call} (h : s.Restorable)
    (hstep : s.step timed = some s') : s'.Restorable := by
  rcases timed with ⟨now, call⟩
  cases call with
  | «open» url config probe =>
    rw [← Option.some.inj hstep]
    exact h.openInternal url config probe
  | openAsync url config probe =>
    rw [← Option.some.inj hstep]
    exact h.openInternal url config probe
  | startDecode codec =>
    rw [← Option.some.inj hstep]
    have hflag : Restorable { s with hasDecoderWhenReconnected := true } := ⟨h.coherent, h.sound⟩
    exact hflag.startDecodeInternal now codec
  | stopDecode =>
    rw [← Option.some.inj hstep]
    have hflag : Restorable { s with hasDecoderWhenReconnected := false } := ⟨h.coherent, h.sound⟩
    exact hflag.stopDecodeInternal
  | pause =>
    rw [← Option.some.inj hstep]
    exact h.map Decoder.pause (fun _ hd => hd.pause) (fun _ => rfl)
      (h.coherent.of_keeps (Lifecycle.Demuxer.pause_keeps _))
  | resume =>
    rw [← Option.some.inj hstep]
    apply h.map Decoder.resume (fun _ hd => hd.resume) (s.resume_decoder now)
    rw [resume_demuxer]
    exact h.coherent.of_keeps (Lifecycle.Demuxer.resume_keeps _)
  | seek position =>
    rw [step, Option.map_eq_some_iff] at hstep
    rcases hstep with ⟨next, hnext, rfl⟩
    rcases seek_kept hnext with ⟨-, hdecoder, hkeeps⟩
    exact ⟨h.coherent.of_keeps hkeeps, fun m d hd => h.sound m d (hdecoder ▸ hd)⟩
  | setSpeed speed =>
    rw [← Option.some.inj hstep]
    dsimp only [setSpeed]
    split
    · exact h
    · exact h.map (fun d => d.setSpeed speed) (fun _ hd => hd.setSpeed speed) (fun _ => rfl)
        h.coherent
  | close =>
    rw [← Option.some.inj hstep]
    constructor
    · exact .inl (Lifecycle.Demuxer.close_released h.coherent)
    · intro m d hd
      cases hd
  | reconnect cancelled probe codec =>
    rw [← Option.some.inj hstep]
    rcases s.attemptReconnect_cases now cancelled probe codec
      with ⟨demuxer, hdemuxer, ⟨-, heq⟩ | ⟨-, heq⟩⟩
    · dsimp only
      rw [heq]
      exact (h.reconnects hdemuxer).startDecodeInternal now codec
    · dsimp only
      rw [heq]
      exact h.reconnects hdemuxer
  | work w =>
    rw [step, Option.map_eq_some_iff] at hstep
    rcases hstep with ⟨demuxer, hwork, rfl⟩
    exact h.setDemuxer (h.coherent.of_keeps (Lifecycle.Demuxer.work_keeps hwork))
  | updateClock name serial =>
    rw [← Option.some.inj hstep]
    exact ⟨h.coherent, h.sound⟩

/-- The flags record the calls, and an open does not reset them. -/
theorem step_saved {s s' : DecoderController} {timed : ℚ × Call}
    (hstep : s.step timed = some s') : s'.saved = timed.2.records s.saved := by
  rcases timed with ⟨now, call⟩
  cases call with
  | «open» url config probe =>
    rw [← Option.some.inj hstep]
    exact openInternal_saved s url config probe
  | openAsync url config probe =>
    rw [← Option.some.inj hstep]
    exact openInternal_saved s url config probe
  | startDecode codec =>
    rw [← Option.some.inj hstep]
    exact startDecodeInternal_saved _ now codec
  | stopDecode =>
    rw [← Option.some.inj hstep]
    rfl
  | pause =>
    rw [← Option.some.inj hstep]
    rfl
  | resume =>
    rw [← Option.some.inj hstep]
    dsimp only [resume]
    split <;> rfl
  | seek position =>
    rw [step, Option.map_eq_some_iff] at hstep
    rcases hstep with ⟨next, hnext, rfl⟩
    exact (seek_kept hnext).1
  | setSpeed speed =>
    rw [← Option.some.inj hstep]
    dsimp only [setSpeed]
    split <;> rfl
  | close =>
    rw [← Option.some.inj hstep]
    rfl
  | reconnect cancelled probe codec =>
    rw [← Option.some.inj hstep]
    rcases s.attemptReconnect_cases now cancelled probe codec
      with ⟨demuxer, -, ⟨-, heq⟩ | ⟨-, heq⟩⟩
    · dsimp only
      rw [heq, startDecodeInternal_saved]
      rfl
    · dsimp only
      rw [heq]
      rfl
  | work w =>
    rw [step, Option.map_eq_some_iff] at hstep
    rcases hstep with ⟨demuxer, -, rfl⟩
    rfl
  | updateClock name serial =>
    rw [← Option.some.inj hstep]
    rfl

end DecoderController

namespace Asked

/-- What was asked since the url was opened is what the flags say. -/
structure Invariant (s : Asked) : Prop where
  restorable : s.controller.Restorable
  pause : s.pauseAsked = true → s.controller.isDemuxerPausedWhenReconnected = true
  decode : s.decodeAsked = true → s.controller.hasDecoderWhenReconnected = true

theorem invariant_new : Invariant new where
  restorable := by
    constructor
    · exact .inl Lifecycle.Demuxer.new_released
    · intro m d hd
      cases hd
  pause := by
    intro h
    cases h
  decode := by
    intro h
    cases h

/-- Recording a call keeps the order of two records. -/
theorem records_mono (call : Call) (asked saved : Bool × Bool)
    (hpause : asked.1 = true → saved.1 = true) (hdecode : asked.2 = true → saved.2 = true) :
    ((call.records asked).1 = true → (call.records saved).1 = true) ∧
      ((call.records asked).2 = true → (call.records saved).2 = true) := by
  cases call with
  | startDecode codec => exact ⟨hpause, fun _ => rfl⟩
  | stopDecode => exact ⟨hpause, fun h => (by cases h)⟩
  | pause => exact ⟨fun _ => rfl, hdecode⟩
  | resume => exact ⟨fun h => (by cases h), hdecode⟩
  | close => exact ⟨hpause, fun h => (by cases h)⟩
  | _ => exact ⟨hpause, hdecode⟩

theorem step_invariant {s s' : Asked} {timed : ℚ × Call} (h : Invariant s)
    (hstep : s.step timed = some s') : Invariant s' := by
  rw [step, Option.map_eq_some_iff] at hstep
  rcases hstep with ⟨c, hc, rfl⟩
  have hsaved := DecoderController.step_saved hc
  have hmono := records_mono timed.2 (s.pauseAsked, s.decodeAsked) s.controller.saved h.pause
    h.decode
  rw [← hsaved] at hmono
  have hasks : ((s.asks timed.2).1 = true → c.saved.1 = true) ∧
      ((s.asks timed.2).2 = true → c.saved.2 = true) := by
    cases hcall : timed.2 with
    | «open» url config probe => exact ⟨fun h => (by cases h), fun h => (by cases h)⟩
    | openAsync url config probe => exact ⟨fun h => (by cases h), fun h => (by cases h)⟩
    | _ =>
      rw [hcall] at hmono
      exact hmono
  exact ⟨DecoderController.step_restorable h.restorable hc, hasks.1, hasks.2⟩

/-- Nothing is restored that was not asked for, and nothing is asked for that is not restored:
without a pause none is left from before, and every decoder there is is started again exactly
when that was asked, and then not paused. -/
structure Restores (s : Asked) (probe : Probe) : Prop where
  pause : s.pauseAsked = false → s.controller.demuxer.isPaused = false ∧
    s.controller.isDemuxerPausedWhenReconnected = false
  decoders : ∀ m, (s.controller.decoder m).isSome = true →
    s.controller.restarts probe m = s.decodeAsked ∧ (s.decodeAsked && s.pauseAsked) = false

/-- After any calls, a successful reconnect leaves the playback as it was asked for exactly
when nothing else is left to restore and no decoder is both paused and started again. -/
theorem reconnect_asAsked_iff {history : List (ℚ × Call)} {s : Asked}
    (hrun : run step new history = some s) {now : ℚ} {cancelled : Bool} {probe : Probe}
    {codec : MediaType → Bool}
    (hsuccess : (s.controller.attemptReconnect now cancelled probe codec).1 = true) :
    (s.controller.attemptReconnect now cancelled probe codec).2.AsAsked s.pauseAsked s.decodeAsked ↔
      s.Restores probe := by
  have hinvariant : Invariant s :=
    run_invariant (fun _ _ _ h hstep => step_invariant h hstep) invariant_new hrun
  rcases DecoderController.attemptReconnect_state hinvariant.restorable.coherent
    hinvariant.restorable.sound hsuccess with ⟨hpaused, hdecoders⟩
  constructor
  · intro h
    constructor
    · intro hasked
      have hdemuxer := h.demuxer
      rw [hpaused, hasked, Bool.or_eq_false_iff] at hdemuxer
      exact hdemuxer
    · intro m hm
      rw [← (hdecoders m).1] at hm
      rcases Option.isSome_iff_exists.mp hm with ⟨d, hd⟩
      rcases (hdecoders m).2 d hd with ⟨hstarted, hresumed⟩
      have hstarted' := h.started m d hd
      refine ⟨hstarted.symm.trans hstarted', ?_⟩
      by_contra hboth
      rw [Bool.not_eq_false, Bool.and_eq_true] at hboth
      have hpaused' := h.paused m d hd (hstarted'.trans hboth.1)
      rw [hresumed, hboth.2] at hpaused'
      cases hpaused'
  · intro h
    constructor
    · rw [hpaused]
      cases hasked : s.pauseAsked with
      | true => rw [hinvariant.pause hasked, Bool.or_true]
      | false => rw [(h.pause hasked).1, (h.pause hasked).2, Bool.or_false]
    · intro m d hd hd'
      rcases (hdecoders m).2 d hd with ⟨hstarted, hresumed⟩
      have hm : (s.controller.decoder m).isSome = true := by
        rw [← (hdecoders m).1, hd]
        rfl
      rcases h.decoders m hm with ⟨hrestarts, hboth⟩
      rw [hresumed]
      rw [hstarted, hrestarts] at hd'
      rw [hd', Bool.true_and] at hboth
      exact hboth.symm
    · intro m d hd
      have hm : (s.controller.decoder m).isSome = true := by
        rw [← (hdecoders m).1, hd]
        rfl
      rw [((hdecoders m).2 d hd).1, (h.decoders m hm).1]

theorem reconnect_asAsked_playing :
    ∃ s, run step new DecoderController.playing = some s ∧
      (s.controller.attemptReconnect 2 false (Lifecycle.Demuxer.videoProbe 0) fun _ => true).1 =
        true ∧
      (s.controller.attemptReconnect 2 false (Lifecycle.Demuxer.videoProbe 0)
        fun _ => true).2.AsAsked s.pauseAsked s.decodeAsked := by
  refine ⟨_, rfl, rfl, ?_⟩
  apply (reconnect_asAsked_iff (show run step new DecoderController.playing = some _ from rfl) rfl).mpr
  refine ⟨fun _ => ⟨rfl, rfl⟩, ?_⟩
  intro m hm
  cases m with
  | video => exact ⟨rfl, rfl⟩
  | audio => cases hm

/-- A paused file: the demuxer is paused again, and the decoder is started and not paused. -/
theorem reconnect_asAsked_fails :
    ∃ s, run step new (DecoderController.playing ++ [(2, .pause)]) = some s ∧
      (s.controller.attemptReconnect 3 false (Lifecycle.Demuxer.videoProbe 0) fun _ => true).1 =
        true ∧
      ¬(s.controller.attemptReconnect 3 false (Lifecycle.Demuxer.videoProbe 0)
        fun _ => true).2.AsAsked s.pauseAsked s.decodeAsked := by
  refine ⟨_, rfl, rfl, ?_⟩
  intro h
  have hpaused := h.paused .video _ rfl rfl
  cases hpaused

end Asked

end DecoderSDK.Playback
