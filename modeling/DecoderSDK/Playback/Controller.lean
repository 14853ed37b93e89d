import DecoderSDK.Lifecycle.Opening

/-! # The decoder controller between calls

The controller owns a demuxer, up to two decoders and three clocks, and every
call runs under its mutex. Decoders are created when a media is opened, opened
on the demuxer's format context when decoding starts, and replaced by the next
open. What FFmpeg answers is an input of a call, and so is the system time.
Speeds are doubles.
-/
namespace DecoderSDK.Playback
open Lifecycle

structure Config extends PreBuffer.Config where
  speed : Float

/-- A decoder; `context` is the format context it was opened on, and `speed` counts
thousandths in a `uint16_t`. -/
structure Decoder where
  isOpened : Bool
  isStarted : Bool
  isPaused : Bool
  context : Option ℕ
  speed : ℕ
  deriving DecidableEq

namespace Decoder

def new : Decoder := ⟨false, false, false, none, 1000⟩

/-- The tests refuse a speed up to 0 or above 64, but not what is not a number. -/
def acceptsSpeed (speed : Float) : Bool := !(decide (speed ≤ 0) || Double.greater speed 64)

/-- The rounded product is cut off after the point; of what is not a number the cast gives 0. -/
def storedSpeed (speed : Float) : ℕ := (speed * 1000).toUInt16.toNat

def setSpeed (d : Decoder) (speed : Float) : Decoder :=
  if !acceptsSpeed speed then d else { d with speed := storedSpeed speed }

def stop (d : Decoder) : Decoder :=
  if !d.isStarted then d else { d with isPaused := false, isStarted := false }

def close (d : Decoder) : Decoder :=
  let d := d.stop
  if !d.isOpened then d else { d with isOpened := false }

/-- `codec` says that the codec is found and opened. -/
def openInternal (d : Decoder) (demuxer : Lifecycle.Demuxer) (m : MediaType) (codec : Bool) :
    Bool × Decoder :=
  let d := if d.isOpened then d.close else d
  if demuxer.formatContext.isNone || decide (demuxer.streamIndex m < 0) || !codec then (false, d)
  else (true, { d with isOpened := true, context := demuxer.formatContext })

def start (d : Decoder) (packetQueue : Option PacketQueue) : Decoder :=
  if d.isStarted || packetQueue.isNone then d else { d with isStarted := true }

def pause (d : Decoder) : Decoder :=
  if !d.isOpened || !d.isStarted then d else { d with isPaused := true }

def resume (d : Decoder) : Decoder :=
  if !d.isOpened || !d.isStarted then d else { d with isPaused := false }

end Decoder

/-- The clocks of the `StreamSyncManager`. -/
inductive ClockName where
  | audio
  | video
  | external
  deriving DecidableEq

/-- What a clock keeps beside its value: the time when it was set, the serial and the speed. -/
structure Clock where
  lastUpdated : ℚ
  speed : Float
  serial : ℤ

namespace Clock

def new : Clock := ⟨0, 1, 0⟩

def setClock (c : Clock) (serial : ℤ) (now : ℚ) : Clock :=
  { c with lastUpdated := now, serial := serial }

def init (c : Clock) (queueSerial : ℤ) (now : ℚ) : Clock :=
  { c with speed := 1, serial := queueSerial }.setClock queueSerial now

def reset (c : Clock) (now : ℚ) : Clock := c.init 0 now

/-- The test of `setClockSpeed` lets the speed pass. -/
def acceptsSpeed (c : Clock) (speed : Float) : Bool :=
  Double.greater speed 0 && !Double.equal c.speed speed

def setClockSpeed (c : Clock) (speed : Float) (now : ℚ) : Clock :=
  if !c.acceptsSpeed speed then c else { c with speed := speed }.setClock c.serial now

end Clock

structure DecoderController where
  demuxer : Lifecycle.Demuxer
  decoder : MediaType → Option Decoder
  config : Config
  originalUrl : String
  isDecoding : Bool
  hasDecoderWhenReconnected : Bool
  isDemuxerPausedWhenReconnected : Bool
  clock : ClockName → Clock

namespace DecoderController

def defaultConfig : Config := ⟨⟨fun _ => true, false, 0, 0, false, false⟩, 1⟩

/-- A new controller. -/
def new : DecoderController where
  demuxer := .new
  decoder := fun _ => none
  config := defaultConfig
  originalUrl := ""
  isDecoding := false
  hasDecoderWhenReconnected := false
  isDemuxerPausedWhenReconnected := false
  clock := fun _ => .new

/-- The media type is in the media and is to be decoded. -/
def selects (s : DecoderController) (m : MediaType) : Bool :=
  decide (0 ≤ s.demuxer.streamIndex m) && s.config.decodeMediaType m

def setDecoder (s : DecoderController) (m : MediaType) (d : Decoder) : DecoderController :=
  { s with decoder := Function.update s.decoder m (some d) }

def isDecodeStopped (s : DecoderController) : Bool := s.isDecoding

def curSpeed (s : DecoderController) : Float := s.config.speed

def resetClocks (s : DecoderController) (now : ℚ) : DecoderController :=
  { s with clock := fun name => (s.clock name).reset now }

/-- New decoders take the place of old ones where the media selects them. -/
def createDecoders (s : DecoderController) : DecoderController :=
  { s with decoder := fun m => if s.selects m then some .new else s.decoder m }

/-- The configuration is stored before the demuxer is opened. -/
def openInternal (s : DecoderController) (url : String) (config : Config) (probe : Probe) :
    Bool × DecoderController :=
  let opened := s.demuxer.openInternal url config.toConfig true probe
  let s := { s with originalUrl := url, config := config, demuxer := opened.2 }
  if !opened.1 then (false, s) else (true, s.createDecoders)

def closeInternal (s : DecoderController) : DecoderController :=
  { s with decoder := fun _ => none, demuxer := s.demuxer.close }

/-- A selected decoder gets the speed and is opened. -/
def prepare (s : DecoderController) (m : MediaType) (codec : Bool) : Bool × DecoderController :=
  match s.decoder m with
  | none => (true, s)
  | some d =>
    if !s.selects m then (true, s)
    else
      let opened := (d.setSpeed s.config.speed).openInternal s.demuxer m codec
      (opened.1, s.setDecoder m opened.2)

def startDecoders (s : DecoderController) : DecoderController :=
  { s with
    decoder := fun m => (s.decoder m).map fun d => d.start (s.demuxer.packetQueue m)
    isDecoding := true }

def startDecodeInternal (s : DecoderController) (now : ℚ) (codec : MediaType → Bool) :
    Bool × DecoderController :=
  let s := s.resetClocks now
  let video := s.prepare .video (codec .video)
  if !video.1 then (false, video.2)
  else
    let audio := video.2.prepare .audio (codec .audio)
    if !audio.1 then (false, audio.2) else (true, audio.2.startDecoders)

def stopDecodeInternal (s : DecoderController) : DecoderController :=
  { s with decoder := fun m => (s.decoder m).map fun d => d.stop.close, isDecoding := false }

def startDecode (s : DecoderController) (now : ℚ) (codec : MediaType → Bool) :
    Bool × DecoderController :=
  { s with hasDecoderWhenReconnected := true }.startDecodeInternal now codec

def stopDecode (s : DecoderController) : DecoderController :=
  { s with hasDecoderWhenReconnected := false }.stopDecodeInternal

def close (s : DecoderController) : DecoderController := s.stopDecode.closeInternal

def pause (s : DecoderController) : DecoderController :=
  { s with
    decoder := fun m => (s.decoder m).map Decoder.pause
    isDemuxerPausedWhenReconnected := true
    demuxer := s.demuxer.pause.2 }

def resume (s : DecoderController) (now : ℚ) : DecoderController :=
  let s := if s.demuxer.isRealTime then s.resetClocks now else s
  { s with
    decoder := fun m => (s.decoder m).map Decoder.resume
    isDemuxerPausedWhenReconnected := false
    demuxer := s.demuxer.resume.2 }

def updateClock (s : DecoderController) (name : ClockName) (serial : ℤ) (now : ℚ) :
    DecoderController :=
  { s with clock := Function.update s.clock name ((s.clock name).setClock serial now) }

/-- The clock of a decoder is set to the position of a seek. The serial is read from the packet
queue without a test that there is one. -/
def restartClock (s : DecoderController) (name : ClockName) (m : MediaType) (now : ℚ) :
    Option DecoderController :=
  match s.decoder m, s.demuxer.packetQueue m with
  | none, _ => some s
  | some _, none => none
  | some _, some queue =>
    some (s.updateClock name queue.serial now)

def seek (s : DecoderController) (position now : ℚ) : Option (Bool × DecoderController) :=
  if s.demuxer.isRealTime then some (false, s)
  else
    let sought := s.demuxer.seek position
    if !sought.1 then some (false, s)
    else do
      let s := { s with demuxer := sought.2 }.resetClocks now
      let s ← s.restartClock .audio .audio now
      let s ← s.restartClock .video .video now
      some (true, s)

def setSpeed (s : DecoderController) (speed : Float) (now : ℚ) : Bool × DecoderController :=
  if speed ≤ 0 || s.demuxer.isRealTime then (false, s)
  else
    (true, { s with
      config := { s.config with speed := speed }
      decoder := fun m => (s.decoder m).map fun d => d.setSpeed speed
      clock := fun name => (s.clock name).setClockSpeed speed now })

/-- One attempt to reconnect; `cancelled` says that it was to stop after the old connection was
closed. -/
def attemptReconnect (s : DecoderController) (now : ℚ) (cancelled : Bool) (probe : Probe)
    (codec : MediaType → Bool) : Bool × DecoderController :=
  let s := s.stopDecodeInternal
  let s := { s with demuxer := s.demuxer.close }
  if cancelled then (false, s)
  else
    let opened := s.demuxer.openInternal s.originalUrl s.config.toConfig true probe
    let s := { s with demuxer := opened.2 }
    if !opened.1 then (false, s)
    else
      let s := if s.isDemuxerPausedWhenReconnected then { s with demuxer := s.demuxer.pause.2 }
        else s
      if s.hasDecoderWhenReconnected then s.startDecodeInternal now codec else (true, s)

end DecoderController

inductive Call where
  | open (url : String) (config : Config) (probe : Probe)
  | openAsync (url : String) (config : Config) (probe : Probe)
  | startDecode (codec : MediaType → Bool)
  | stopDecode
  | pause
  | resume
  | seek (position : ℚ)
  | setSpeed (speed : Float)
  | close
  | reconnect (cancelled : Bool) (probe : Probe) (codec : MediaType → Bool)
  /-- The demux thread works, and a decode thread or the reader sets a clock. -/
  | work (w : Work)
  | updateClock (name : ClockName) (serial : ℤ)

namespace DecoderController

/-- A call at a system time. An `openAsync` runs to its end. -/
def step (s : DecoderController) (timed : ℚ × Call) : Option DecoderController :=
  match timed.2 with
  | .open url config probe => some (s.openInternal url config probe).2
  | .openAsync url config probe => some (s.openInternal url config probe).2
  | .startDecode codec => some (s.startDecode timed.1 codec).2
  | .stopDecode => some s.stopDecode
  | .pause => some s.pause
  | .resume => some (s.resume timed.1)
  | .seek position => (s.seek position timed.1).map (·.2)
  | .setSpeed speed => some (s.setSpeed speed timed.1).2
  | .close => some s.close
  | .reconnect cancelled probe codec =>
    some (s.attemptReconnect timed.1 cancelled probe codec).2
  | .work w => (s.demuxer.work w).map fun demuxer => { s with demuxer := demuxer }
  | .updateClock name serial => some (s.updateClock name serial timed.1)

/-- Resetting the clocks touches neither the demuxer nor a decoder. -/
theorem resume_demuxer (s : DecoderController) (now : ℚ) :
    (s.resume now).demuxer = s.demuxer.resume.2 := by
  simp only [resume]
  split <;> rfl

theorem resume_decoder (s : DecoderController) (now : ℚ) (m : MediaType) :
    (s.resume now).decoder m = (s.decoder m).map Decoder.resume := by
  simp only [resume]
  split <;> rfl

/-- A new decoder is created for the media type. -/
def Creates (config : Config) (probe : Probe) (m : MediaType) : Prop :=
  probe.found = true ∧ probe.rewindFails = false ∧ 0 ≤ probe.bestStream m ∧
    config.decodeMediaType m = true

/-- An open replaces the decoders of the media types that it creates one for. -/
theorem openInternal_decoder (s : DecoderController) (url : String) (config : Config)
    (probe : Probe) (m : MediaType) :
    (Creates config probe m ∧ (s.openInternal url config probe).2.decoder m = some .new) ∨
      (¬Creates config probe m ∧ (s.openInternal url config probe).2.decoder m = s.decoder m) := by
  have hfst := Lifecycle.Demuxer.openInternal_fst s.demuxer url config.toConfig true probe
  simp only [openInternal]
  cases hopen : (s.demuxer.openInternal url config.toConfig true probe).1 with
  | false =>
    right
    refine ⟨?_, rfl⟩
    rintro ⟨hfound, hrewind, -⟩
    rw [hopen, hfound, hrewind] at hfst
    cases hfst
  | true =>
    have hindex := Lifecycle.Demuxer.openInternal_streamIndex s.demuxer url config.toConfig true
      hopen
    rw [hopen, eq_comm, Bool.and_eq_true, Bool.not_eq_true'] at hfst
    simp only [Bool.not_true, Bool.false_eq_true, if_false, createDecoders, selects, hindex,
      Bool.and_eq_true, decide_eq_true_eq]
    by_cases hselects : 0 ≤ probe.bestStream m ∧ config.decodeMediaType m = true
    · exact .inl ⟨⟨hfst.1, hfst.2, hselects⟩, by rw [if_pos hselects]⟩
    · exact .inr ⟨fun h => hselects h.2.2, by rw [if_neg hselects]⟩

/-- The decoder of a media type after `prepare`, and whether that succeeds. -/
def prepared (s : DecoderController) (m : MediaType) (codec : Bool) : Bool × Option Decoder :=
  match s.decoder m with
  | none => (true, none)
  | some d =>
    if !s.selects m then (true, some d)
    else
      let opened := (d.setSpeed s.config.speed).openInternal s.demuxer m codec
      (opened.1, some opened.2)

theorem prepare_eq (s : DecoderController) (m : MediaType) (codec : Bool) :
    s.prepare m codec = ((s.prepared m codec).1,
      { s with decoder := Function.update s.decoder m (s.prepared m codec).2 }) := by
  unfold prepare prepared
  cases hd : s.decoder m with
  | none =>
    have hsame : Function.update s.decoder m none = s.decoder := by
      rw [← hd, Function.update_eq_self]
    simp [hsame]
  | some d =>
    have hsame : Function.update s.decoder m (some d) = s.decoder := by
      rw [← hd, Function.update_eq_self]
    cases hselects : s.selects m with
    | false => simp [hsame]
    | true => simp [setDecoder]

/-- Starting to decode prepares the decoders one after the other and stops at the first that
cannot be opened. -/
theorem startDecodeInternal_eq (s : DecoderController) (now : ℚ) (codec : MediaType → Bool) :
    s.startDecodeInternal now codec =
      if (s.prepared .video (codec .video)).1 = false then
        (false, { s.resetClocks now with
          decoder := Function.update s.decoder .video (s.prepared .video (codec .video)).2 })
      else if (s.prepared .audio (codec .audio)).1 = false then
        (false, { s.resetClocks now with decoder := fun m => (s.prepared m (codec m)).2 })
      else
        (true, { s.resetClocks now with
          decoder := fun m =>
            (s.prepared m (codec m)).2.map fun d => d.start (s.demuxer.packetQueue m)
          isDecoding := true }) := by
  have hvideo : (s.resetClocks now).prepare .video (codec .video) =
      ((s.prepared .video (codec .video)).1, { s.resetClocks now with
        decoder := Function.update s.decoder .video (s.prepared .video (codec .video)).2 }) :=
    prepare_eq (s.resetClocks now) .video (codec .video)
  have haudio : prepare { s.resetClocks now with
        decoder := Function.update s.decoder .video (s.prepared .video (codec .video)).2 } .audio
          (codec .audio) =
      ((s.prepared .audio (codec .audio)).1, { s.resetClocks now with
        decoder := fun m => (s.prepared m (codec m)).2 }) := by
    have hboth : Function.update (Function.update s.decoder .video
          (s.prepared .video (codec .video)).2) .audio (s.prepared .audio (codec .audio)).2 =
        fun m => (s.prepared m (codec m)).2 := by
      ext1 m
      cases m with
      | video => rfl
      | audio => rfl
    rw [prepare_eq, ← hboth]
    rfl
  simp only [startDecodeInternal, hvideo, haudio]
  cases (s.prepared .video (codec .video)).1 with
  | false => rfl
  | true =>
    cases (s.prepared .audio (codec .audio)).1 with
    | false => rfl
    | true => rfl

/-- What starting to decode leaves as it is. -/
structure SameSession (s s' : DecoderController) : Prop where
  demuxer : s'.demuxer = s.demuxer
  config : s'.config = s.config

/-- Starting to decode resets the clocks and prepares the decoders. If that succeeds, it starts
them and sets the flag. -/
theorem startDecodeInternal_cases (s : DecoderController) (now : ℚ) (codec : MediaType → Bool) :
    let next := s.startDecodeInternal now codec
    SameSession s next.2 ∧ next.2.clock = (s.resetClocks now).clock ∧
      ((next.2.isDecoding = true ∧ ∀ m, (s.prepared m (codec m)).1 = true ∧ next.2.decoder m =
          (s.prepared m (codec m)).2.map fun d => d.start (s.demuxer.packetQueue m)) ∨
        ((∃ m, (s.prepared m (codec m)).1 = false) ∧ next.2.isDecoding = s.isDecoding ∧
          ∀ m, next.2.decoder m = s.decoder m ∨
            next.2.decoder m = (s.prepared m (codec m)).2)) := by
  rw [startDecodeInternal_eq]
  by_cases hvideo : (s.prepared .video (codec .video)).1 = false
  · rw [if_pos hvideo]
    refine ⟨⟨rfl, rfl⟩, rfl, .inr ⟨⟨.video, hvideo⟩, rfl, ?_⟩⟩
    rw [MediaType.forall_iff]
    exact ⟨.inr rfl, .inl rfl⟩
  · rw [if_neg hvideo]
    by_cases haudio : (s.prepared .audio (codec .audio)).1 = false
    · rw [if_pos haudio]
      exact ⟨⟨rfl, rfl⟩, rfl, .inr ⟨⟨.audio, haudio⟩, rfl, fun _ => .inr rfl⟩⟩
    · rw [if_neg haudio]
      refine ⟨⟨rfl, rfl⟩, rfl, .inl ⟨rfl, ?_⟩⟩
      rw [MediaType.forall_iff]
      exact ⟨⟨by simpa using hvideo, rfl⟩, ⟨by simpa using haudio, rfl⟩⟩

/-- A reconnect attempt stops the decoders and goes on with another demuxer session. -/
def disconnected (s : DecoderController) (demuxer : Lifecycle.Demuxer) : DecoderController :=
  { s.stopDecodeInternal with demuxer := demuxer }

/-- The state in which a reconnect attempt comes to start the decoders, if it gets there. -/
def reconnected (s : DecoderController) (cancelled : Bool) (probe : Probe) :
    Option DecoderController :=
  let opened := s.demuxer.close.openInternal s.originalUrl s.config.toConfig true probe
  if cancelled || !opened.1 || !s.hasDecoderWhenReconnected then none
  else
    let demuxer := if s.isDemuxerPausedWhenReconnected then opened.2.pause.2 else opened.2
    some (s.disconnected demuxer)

/-- What a reconnect attempt makes of the demuxer: it is closed, opened again, or opened and
paused. -/
def Reconnects (s : DecoderController) (probe : Probe) (demuxer : Lifecycle.Demuxer) : Prop :=
  let opened := (s.demuxer.close.openInternal s.originalUrl s.config.toConfig true probe).2
  demuxer = s.demuxer.close ∨ demuxer = opened ∨ demuxer = opened.pause.2

/-- A reconnect attempt stops the decoders and changes the demuxer; then it starts the decoders
or does nothing more. -/
theorem attemptReconnect_cases (s : DecoderController) (now : ℚ) (cancelled : Bool)
    (probe : Probe) (codec : MediaType → Bool) :
    ∃ demuxer, s.Reconnects probe demuxer ∧
      ((s.reconnected cancelled probe = some (s.disconnected demuxer) ∧
          (s.attemptReconnect now cancelled probe codec).2 =
            ((s.disconnected demuxer).startDecodeInternal now codec).2) ∨
        (s.reconnected cancelled probe = none ∧
          (s.attemptReconnect now cancelled probe codec).2 = s.disconnected demuxer)) := by
  simp only [attemptReconnect, reconnected, Reconnects, disconnected]
  cases cancelled with
  | true => exact ⟨s.demuxer.close, .inl rfl, .inr ⟨rfl, rfl⟩⟩
  | false =>
    simp only [Bool.false_or, Bool.false_eq_true, if_false]
    have hclosed : s.stopDecodeInternal.demuxer.close.openInternal s.stopDecodeInternal.originalUrl
        s.stopDecodeInternal.config.toConfig true probe =
        s.demuxer.close.openInternal s.originalUrl s.config.toConfig true probe := rfl
    rw [hclosed]
    generalize s.demuxer.close.openInternal s.originalUrl s.config.toConfig true probe = opened
    have hhas : s.stopDecodeInternal.hasDecoderWhenReconnected = s.hasDecoderWhenReconnected := rfl
    have hpaused : s.stopDecodeInternal.isDemuxerPausedWhenReconnected =
        s.isDemuxerPausedWhenReconnected := rfl
    cases hopened : opened.1 with
    | false => exact ⟨opened.2, .inr (.inl rfl), .inr ⟨rfl, rfl⟩⟩
    | true =>
      cases hpause : s.isDemuxerPausedWhenReconnected with
      | false =>
        refine ⟨opened.2, .inr (.inl rfl), ?_⟩
        cases hdecoder : s.hasDecoderWhenReconnected with
        | false => exact .inr ⟨rfl, by simp [hhas, hpaused, hdecoder, hpause]⟩
        | true => exact .inl ⟨rfl, by simp [hhas, hpaused, hdecoder, hpause]⟩
      | true =>
        refine ⟨opened.2.pause.2, .inr (.inr rfl), ?_⟩
        cases hdecoder : s.hasDecoderWhenReconnected with
        | false => exact .inr ⟨rfl, by simp [hhas, hpaused, hdecoder, hpause]⟩
        | true => exact .inl ⟨rfl, by simp [hhas, hpaused, hdecoder, hpause]⟩

@[simp] theorem resetClocks_speed (s : DecoderController) (now : ℚ) (name : ClockName) :
    ((s.resetClocks now).clock name).speed = 1 := rfl

@[simp] theorem updateClock_speed (s : DecoderController) (name : ClockName)
    (serial : ℤ) (now : ℚ) (name' : ClockName) :
    ((s.updateClock name serial now).clock name').speed = (s.clock name').speed := by
  unfold updateClock
  by_cases hname : name' = name
  · subst hname
    simp [Clock.setClock]
  · simp [hname]

/-- The times and serials of the clocks may differ, and nothing else. -/
structure SameSpeeds (s s' : DecoderController) : Prop where
  same : SameSession s s'
  decoder : s'.decoder = s.decoder
  isDecoding : s'.isDecoding = s.isDecoding
  speed : ∀ name, (s'.clock name).speed = (s.clock name).speed

theorem updateClock_same (s : DecoderController) (name : ClockName) (serial : ℤ)
    (now : ℚ) : SameSpeeds s (s.updateClock name serial now) :=
  ⟨⟨rfl, rfl⟩, rfl, rfl, updateClock_speed s name serial now⟩

theorem restartClock_same {s s' : DecoderController} {name : ClockName} {m : MediaType}
    {now : ℚ} (h : s.restartClock name m now = some s') : SameSpeeds s s' := by
  unfold restartClock at h
  split at h
  · rw [← Option.some.inj h]
    exact ⟨⟨rfl, rfl⟩, rfl, rfl, fun _ => rfl⟩
  · cases h
  · rw [← Option.some.inj h]
    exact updateClock_same _ _ _ _

/-- The seek is passed on to the demuxer and taken. -/
def takesSeek (s : DecoderController) (position : ℚ) : Bool :=
  !s.demuxer.isRealTime && (s.demuxer.seek position).1

/-- A seek that is taken resets the clocks; then it sets some of them. -/
theorem seek_cases {s : DecoderController} {position now : ℚ} {next : Bool × DecoderController}
    (h : s.seek position now = some next) :
    (s.takesSeek position = false ∧ next.2 = s) ∨
      (s.takesSeek position = true ∧
        SameSpeeds ({ s with demuxer := (s.demuxer.seek position).2 }.resetClocks now) next.2) := by
  unfold seek at h
  unfold takesSeek
  cases hrealtime : s.demuxer.isRealTime with
  | true =>
    rw [hrealtime, if_pos rfl] at h
    exact .inl ⟨rfl, by rw [← Option.some.inj h]⟩
  | false =>
    cases hseek : (s.demuxer.seek position).1 with
    | false =>
      simp only [hrealtime, hseek, Bool.not_false, if_true, Bool.false_eq_true, if_false,
        Option.some.injEq] at h
      exact .inl ⟨rfl, by rw [← h]⟩
    | true =>
      simp only [hrealtime, hseek, Bool.not_true, Bool.false_eq_true, if_false,
        Option.bind_eq_bind, Option.bind_eq_some_iff, Option.some.injEq] at h
      rcases h with ⟨s₁, haudio, s₂, hvideo, rfl⟩
      have h₁ := restartClock_same haudio
      have h₂ := restartClock_same hvideo
      refine .inr ⟨rfl, ⟨by rw [h₂.same.demuxer, h₁.same.demuxer], by rw [h₂.same.config,
        h₁.same.config]⟩, by rw [h₂.decoder, h₁.decoder], by rw [h₂.isDecoding, h₁.isDecoding], ?_⟩
      intro name
      rw [h₂.speed, h₁.speed]

end DecoderController

end DecoderSDK.Playback
