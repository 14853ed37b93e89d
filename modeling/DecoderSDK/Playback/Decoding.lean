import DecoderSDK.Playback.Controller

/-! # The reported decode state

`isDecodeStopped` is to say that no decoder is started, and a started decoder
is to work on the format context that the demuxer has open. The function
returns the flag that says the opposite. A decoder is started only while the
flag is set, so the report is right only where the flag is set and nothing is
started. An open takes the media from the decoders that it does not replace.
-/
namespace DecoderSDK.Playback
open Lifecycle Interleaving

namespace Decoder

@[simp] theorem setSpeed_isStarted (d : Decoder) (speed : Float) :
    (d.setSpeed speed).isStarted = d.isStarted := by
  unfold setSpeed
  split <;> rfl

@[simp] theorem stop_isStarted (d : Decoder) : d.stop.isStarted = false := by
  unfold stop
  cases hstarted : d.isStarted with
  | false => simp [hstarted]
  | true => simp

@[simp] theorem close_isStarted (d : Decoder) : d.close.isStarted = false := by
  simp only [close]
  split <;> simp

@[simp] theorem pause_isStarted (d : Decoder) : d.pause.isStarted = d.isStarted := by
  unfold pause
  split <;> rfl

@[simp] theorem resume_isStarted (d : Decoder) : d.resume.isStarted = d.isStarted := by
  unfold resume
  split <;> rfl

/-- Opening a decoder may stop it and never starts it. -/
theorem isStarted_of_openInternal {d : Decoder} {demuxer : Lifecycle.Demuxer} {m : MediaType}
    {codec : Bool} (h : (d.openInternal demuxer m codec).2.isStarted = true) : d.isStarted = true := by
  cases hopened : d.isOpened with
  | false =>
    simp only [openInternal, hopened] at h
    split at h
    · exact h
    · exact h
  | true =>
    simp only [openInternal, hopened] at h
    split at h
    · simp at h
    · simp at h

@[simp] theorem setSpeed_context (d : Decoder) (speed : Float) :
    (d.setSpeed speed).context = d.context := by
  unfold setSpeed
  split <;> rfl

@[simp] theorem pause_context (d : Decoder) : d.pause.context = d.context := by
  unfold pause
  split <;> rfl

@[simp] theorem resume_context (d : Decoder) : d.resume.context = d.context := by
  unfold resume
  split <;> rfl

@[simp] theorem start_context (d : Decoder) (packetQueue : Option PacketQueue) :
    (d.start packetQueue).context = d.context := by
  unfold start
  split <;> rfl

@[simp] theorem close_context (d : Decoder) : d.close.context = d.context := by
  have hstop : d.stop.context = d.context := by
    unfold stop
    split <;> rfl
  rw [← hstop]
  simp only [close]
  split <;> rfl

/-- Opening that succeeds puts the decoder on the demuxer's context, and opening that fails
leaves it where it was. -/
theorem openInternal_context (d : Decoder) (demuxer : Lifecycle.Demuxer) (m : MediaType)
    (codec : Bool) :
    (d.openInternal demuxer m codec).2.context =
      if (d.openInternal demuxer m codec).1 then demuxer.formatContext else d.context := by
  have hclosed : (if d.isOpened then d.close else d).context = d.context := by
    split <;> simp
  rw [← hclosed]
  simp only [openInternal]
  split <;> rfl

end Decoder

namespace DecoderController

/-- The decoder of the media type is started. -/
def started (s : DecoderController) (m : MediaType) : Bool := (s.decoder m).any (·.isStarted)

/-- Started decoders work on the format context that the demuxer has open. -/
def Current (s : DecoderController) : Prop :=
  ∀ m d, s.decoder m = some d → d.isStarted = true →
    s.demuxer.isOpened = true ∧ d.context.isSome = true ∧ d.context = s.demuxer.formatContext

/-- The report is right, and started decoders work on the open format context. -/
structure Truthful (s : DecoderController) : Prop where
  stopped_iff : s.isDecodeStopped = true ↔ ∀ m, s.started m = false
  current : s.Current

/-- A decoder is started only while the flag is set. -/
def Flagged (s : DecoderController) : Prop := ∀ m, s.started m = true → s.isDecoding = true

/-- Preparing a decoder never starts it. -/
theorem started_of_prepared {s : DecoderController} {m : MediaType} {codec : Bool}
    (h : (s.prepared m codec).2.any (·.isStarted) = true) : s.started m = true := by
  unfold prepared at h
  unfold started
  cases hd : s.decoder m with
  | none => simp [hd] at h
  | some d =>
    simp only [hd] at h
    split at h
    · exact h
    · have hstarted := Decoder.isStarted_of_openInternal h
      simpa using hstarted

theorem startDecodeInternal_flagged {s : DecoderController} (h : s.Flagged) (now : ℚ)
    (codec : MediaType → Bool) : (s.startDecodeInternal now codec).2.Flagged := by
  rcases startDecodeInternal_cases s now codec with ⟨-, -, ⟨hflag, -⟩ | ⟨-, hflag, hdecoder⟩⟩
  · intro m _
    exact hflag
  · intro m hm
    rw [hflag]
    rcases hdecoder m with hsame | hprepared
    · apply h m
      rwa [started, ← hsame]
    · apply h m
      apply started_of_prepared
      rw [← hprepared]
      exact hm

theorem stopDecodeInternal_started (s : DecoderController) (m : MediaType) :
    s.stopDecodeInternal.started m = false := by
  cases hd : s.decoder m with
  | none => simp [started, stopDecodeInternal, hd]
  | some d => simp [started, stopDecodeInternal, hd]

theorem disconnected_started (s : DecoderController) (demuxer : Lifecycle.Demuxer) (m : MediaType) :
    (s.disconnected demuxer).started m = false := stopDecodeInternal_started s m

theorem flagged_of_stopped {s : DecoderController} (h : ∀ m, s.started m = false) :
    s.Flagged := by
  intro m hm
  rw [h m] at hm
  cases hm

theorem openInternal_flagged {s : DecoderController} (h : s.Flagged) (url : String)
    (config : Config) (probe : Probe) : (s.openInternal url config probe).2.Flagged := by
  simp only [openInternal]
  split
  · exact h
  · intro m hm
    simp only [started, createDecoders] at hm
    split at hm
    · simp [Decoder.new] at hm
    · exact h m hm

/-- Calls that map the decoders without starting any of them keep the flag in order. -/
theorem Flagged.of_map {s s' : DecoderController} (h : s.Flagged) (f : Decoder → Decoder)
    (hf : ∀ d, (f d).isStarted = d.isStarted) (hdecoder : ∀ m, s'.decoder m = (s.decoder m).map f)
    (hflag : s'.isDecoding = s.isDecoding) : s'.Flagged := by
  intro m hm
  rw [hflag]
  apply h m
  unfold started at hm ⊢
  rw [hdecoder] at hm
  cases hd : s.decoder m with
  | none => simp [hd] at hm
  | some d => simpa [hd, hf] using hm

/-- One call keeps the flag in order. -/
theorem step_flagged {s s' : DecoderController} {timed : ℚ × Call}
    (hstep : s.step timed = some s') (h : s.Flagged) : s'.Flagged := by
  rcases timed with ⟨now, call⟩
  cases call with
  | «open» url config probe =>
    rw [← Option.some.inj hstep]
    exact openInternal_flagged h url config probe
  | openAsync url config probe =>
    rw [← Option.some.inj hstep]
    exact openInternal_flagged h url config probe
  | startDecode codec =>
    rw [← Option.some.inj hstep]
    exact startDecodeInternal_flagged (s := { s with hasDecoderWhenReconnected := true }) h now
      codec
  | stopDecode =>
    rw [← Option.some.inj hstep]
    exact flagged_of_stopped (stopDecodeInternal_started _)
  | pause =>
    rw [← Option.some.inj hstep]
    exact h.of_map Decoder.pause Decoder.pause_isStarted (fun _ => rfl) rfl
  | resume =>
    rw [← Option.some.inj hstep]
    apply h.of_map Decoder.resume Decoder.resume_isStarted
    · exact s.resume_decoder now
    · simp only [resume]
      split <;> rfl
  | seek position =>
    rcases Option.map_eq_some_iff.mp hstep with ⟨next, hseek, rfl⟩
    rcases seek_cases hseek with ⟨-, hnext⟩ | ⟨-, hnext⟩
    · rwa [hnext]
    · exact h.of_map id (fun _ => rfl) (fun m => by rw [hnext.decoder, Option.map_id]; rfl)
        hnext.isDecoding
  | setSpeed speed =>
    rw [← Option.some.inj hstep]
    simp only [setSpeed]
    split
    · exact h
    · exact h.of_map (·.setSpeed speed) (Decoder.setSpeed_isStarted · speed) (fun _ => rfl) rfl
  | close =>
    rw [← Option.some.inj hstep]
    exact flagged_of_stopped fun _ => rfl
  | reconnect cancelled probe codec =>
    rw [← Option.some.inj hstep]
    rcases attemptReconnect_cases s now cancelled probe codec with
      ⟨demuxer, -, ⟨-, hnext⟩ | ⟨-, hnext⟩⟩
    · rw [hnext]
      exact startDecodeInternal_flagged (flagged_of_stopped (disconnected_started s demuxer)) now
        codec
    · rw [hnext]
      exact flagged_of_stopped (disconnected_started s demuxer)
  | work w =>
    rcases Option.map_eq_some_iff.mp hstep with ⟨demuxer, -, rfl⟩
    exact h
  | updateClock name serial =>
    rw [← Option.some.inj hstep]
    exact h

/-- Started decoders work on the open media, and a media has a packet queue for what it
selects. -/
structure Attached (s : DecoderController) : Prop where
  flagged : s.Flagged
  coherent : s.demuxer.Coherent
  allocated : s.demuxer.Allocated
  queue : s.demuxer.isOpened = true → ∀ m, (s.demuxer.packetQueue m).isSome = s.selects m
  current : ∀ m d, s.decoder m = some d → d.isStarted = true →
    s.selects m = true ∧ s.demuxer.isOpened = true ∧ d.context = s.demuxer.formatContext

theorem attached_of_stopped {s : DecoderController} (hstopped : ∀ m, s.started m = false)
    (hcoherent : s.demuxer.Coherent) (hallocated : s.demuxer.Allocated)
    (hqueue : s.demuxer.isOpened = true → ∀ m, (s.demuxer.packetQueue m).isSome = s.selects m) :
    s.Attached := by
  refine ⟨flagged_of_stopped hstopped, hcoherent, hallocated, hqueue, ?_⟩
  intro m d hd hstarted
  have hm := hstopped m
  rw [started, hd, Option.any_some, hstarted] at hm
  cases hm

/-- Calls that keep the session and map the decoders keep them attached. -/
theorem Attached.of_keeps {s s' : DecoderController} (h : s.Attached) (hflagged : s'.Flagged)
    (hkeeps : Lifecycle.Demuxer.Keeps s.demuxer s'.demuxer)
    (hconfig : s'.config.decodeMediaType = s.config.decodeMediaType)
    (hdecoder : ∀ m, ∀ d' ∈ s'.decoder m, ∃ d ∈ s.decoder m,
      d'.isStarted = d.isStarted ∧ d'.context = d.context) : s'.Attached := by
  have hselects : ∀ m, s'.selects m = s.selects m := by
    intro m
    rw [selects, selects, hkeeps.streamIndex, hconfig]
  constructor
  · exact hflagged
  · exact h.coherent.of_keeps hkeeps
  · exact h.allocated.of_keeps hkeeps
  · intro hopened m
    rw [hkeeps.packetQueue, hselects]
    exact h.queue (by rw [← hkeeps.isOpened, hopened]) m
  · intro m d' hd' hstarted
    rcases hdecoder m d' hd' with ⟨d, hd, hsame, hcontext⟩
    rcases h.current m d hd (by rw [← hsame, hstarted]) with ⟨hm, hopened, hcurrent⟩
    rw [hselects, hkeeps.isOpened, hcontext, hkeeps.formatContext]
    exact ⟨hm, hopened, hcurrent⟩

/-- A started decoder stays on its context while it is prepared, or gets the open one. -/
theorem Attached.prepared {s : DecoderController} (h : s.Attached) {m : MediaType} {codec : Bool}
    {d' : Decoder} (hd' : (s.prepared m codec).2 = some d') (hstarted : d'.isStarted = true) :
    s.selects m = true ∧ s.demuxer.isOpened = true ∧ d'.context = s.demuxer.formatContext := by
  unfold DecoderController.prepared at hd'
  cases hd : s.decoder m with
  | none => simp [hd] at hd'
  | some d =>
    simp only [hd] at hd'
    split at hd'
    · rw [Option.some.injEq] at hd'
      subst hd'
      exact h.current m d hd hstarted
    · rw [Option.some.injEq] at hd'
      subst hd'
      have hbefore := Decoder.isStarted_of_openInternal hstarted
      rw [Decoder.setSpeed_isStarted] at hbefore
      rcases h.current m d hd hbefore with ⟨hm, hopened, hcurrent⟩
      refine ⟨hm, hopened, ?_⟩
      rw [Decoder.openInternal_context]
      split
      · rfl
      · rw [Decoder.setSpeed_context, hcurrent]

/-- A selected decoder that is prepared is on the open context. -/
theorem prepared_context {s : DecoderController} {m : MediaType} {codec : Bool} {d : Decoder}
    (hselects : s.selects m = true) (hfst : (s.prepared m codec).1 = true)
    (hd : (s.prepared m codec).2 = some d) : d.context = s.demuxer.formatContext := by
  unfold DecoderController.prepared at hd hfst
  cases hdecoder : s.decoder m with
  | none => simp [hdecoder] at hd
  | some d₀ =>
    simp only [hdecoder, hselects, Bool.not_true, Bool.false_eq_true, if_false,
      Option.some.injEq] at hd hfst
    rw [← hd, Decoder.openInternal_context, hfst, if_pos rfl]

theorem isOpened_of_packetQueue {d : Lifecycle.Demuxer} (h : d.Coherent) {m : MediaType}
    (hqueue : (d.packetQueue m).isSome = true) : d.isOpened = true := by
  rcases h with hreleased | hrunning
  · rw [hreleased.packetQueue] at hqueue
    cases hqueue
  · exact hrunning.isOpened

theorem startDecodeInternal_attached {s : DecoderController} (h : s.Attached) (now : ℚ)
    (codec : MediaType → Bool) : (s.startDecodeInternal now codec).2.Attached := by
  have hflagged := startDecodeInternal_flagged h.flagged now codec
  rcases startDecodeInternal_cases s now codec with ⟨hsame, -, hcases⟩
  have hselects : ∀ m, (s.startDecodeInternal now codec).2.selects m = s.selects m := by
    intro m
    rw [selects, selects, hsame.demuxer, hsame.config]
  refine ⟨hflagged, by rw [hsame.demuxer]; exact h.coherent,
    by rw [hsame.demuxer]; exact h.allocated, ?_, ?_⟩
  · intro hopened m
    rw [hselects, hsame.demuxer]
    rw [hsame.demuxer] at hopened
    exact h.queue hopened m
  · intro m d' hd' hstarted
    rw [hselects, hsame.demuxer]
    rcases hcases with ⟨-, hdecoder⟩ | ⟨-, -, hdecoder⟩
    · rw [(hdecoder m).2] at hd'
      rcases Option.map_eq_some_iff.mp hd' with ⟨d, hd, rfl⟩
      cases hqueue : s.demuxer.packetQueue m with
      | none =>
        rw [hqueue] at hstarted
        rw [Decoder.start_context]
        exact h.prepared hd (by simpa [Decoder.start] using hstarted)
      | some queue =>
        have hsome : (s.demuxer.packetQueue m).isSome = true := by rw [hqueue]; rfl
        have hopened := isOpened_of_packetQueue h.coherent hsome
        have hm : s.selects m = true := by rw [← h.queue hopened m, hsome]
        rw [Decoder.start_context]
        exact ⟨hm, hopened, prepared_context hm (hdecoder m).1 hd⟩
    · rcases hdecoder m with hold | hprepared
      · exact h.current m d' (by rw [← hold, hd']) hstarted
      · exact h.prepared (by rw [← hprepared, hd']) hstarted

/-- A demuxer that was opened with the configuration has its queues. -/
theorem queue_of_opened {d : Lifecycle.Demuxer} (hcoherent : d.Coherent) {url : String}
    {config : Config} {probe : Probe} {m : MediaType}
    (hopened : (d.openInternal url config.toConfig true probe).2.isOpened = true) :
    ((d.openInternal url config.toConfig true probe).2.packetQueue m).isSome =
      (decide (0 ≤ (d.openInternal url config.toConfig true probe).2.streamIndex m) &&
        config.decodeMediaType m) := by
  cases hopen : (d.openInternal url config.toConfig true probe).1 with
  | false =>
    have hreleased := Lifecycle.Demuxer.openInternal_released d url config.toConfig true hcoherent
      hopen
    rw [hreleased.isOpened] at hopened
    cases hopened
  | true =>
    have he := Lifecycle.Demuxer.openInternal_established d url config.toConfig true hcoherent hopen
    rw [he.packetQueue, he.streamIndex]
    dsimp only
    by_cases hselects : 0 ≤ probe.bestStream m ∧ config.decodeMediaType m = true
    · rw [if_pos hselects]
      simp [hselects]
    · rw [if_neg hselects]
      simpa using hselects

theorem openInternal_demuxer (s : DecoderController) (url : String) (config : Config)
    (probe : Probe) : (s.openInternal url config probe).2.demuxer =
      (s.demuxer.openInternal url config.toConfig true probe).2 := by
  simp only [openInternal]
  split <;> rfl

/-- The call does not take the media from a decoder that is started: an open replaces every
started decoder. -/
def KeepsCurrent (s : DecoderController) : Call → Prop
  | .open _ config probe => ∀ m, s.started m = true → Creates config probe m
  | .openAsync _ config probe => ∀ m, s.started m = true → Creates config probe m
  | _ => True

theorem openInternal_attached {s : DecoderController} (h : s.Attached) (url : String)
    {config : Config} {probe : Probe}
    (hcreates : ∀ m, s.started m = true → Creates config probe m) :
    (s.openInternal url config probe).2.Attached := by
  have hconfig : (s.openInternal url config probe).2.config = config := by
    simp only [openInternal]
    split <;> rfl
  apply attached_of_stopped
  · intro m
    rcases openInternal_decoder s url config probe m with ⟨-, hdecoder⟩ | ⟨hnot, hdecoder⟩
    · rw [started, hdecoder]
      rfl
    · rw [started, hdecoder]
      cases hm : s.started m with
      | false => exact hm
      | true => exact absurd (hcreates m hm) hnot
  · rw [openInternal_demuxer]
    exact Lifecycle.Demuxer.openInternal_coherent _ _ _ _ h.coherent _
  · rw [openInternal_demuxer]
    exact Lifecycle.Demuxer.openInternal_allocated h.allocated _ _ _ _
  · intro hopened m
    rw [openInternal_demuxer] at hopened
    rw [selects, hconfig, openInternal_demuxer]
    exact queue_of_opened h.coherent hopened

/-- A started decoder that an open does not replace is left on a context that is closed. -/
theorem openInternal_creates {s : DecoderController} (h : s.Attached) {url : String}
    {config : Config} {probe : Probe} (hcurrent : (s.openInternal url config probe).2.Current)
    {m : MediaType} (hm : s.started m = true) : Creates config probe m := by
  rcases openInternal_decoder s url config probe m with ⟨hcreates, -⟩ | ⟨-, hdecoder⟩
  · exact hcreates
  · rw [started, Option.any_eq_true] at hm
    rcases hm with ⟨d, hd, hstarted⟩
    rcases h.current m d hd hstarted with ⟨-, hopened, hold⟩
    rcases hcurrent m d (by rw [hdecoder, hd]) hstarted with ⟨-, hsome, hnew⟩
    rcases Option.isSome_iff_exists.mp hsome with ⟨n, hn⟩
    rw [openInternal_demuxer, hn] at hnew
    rw [hn] at hold
    have hlt := h.allocated n hold.symm
    have heq := Lifecycle.Demuxer.openInternal_formatContext_of_running
      (h.coherent.running hopened) hnew.symm
    omega

/-- However a reconnect attempt leaves the demuxer, the stopped decoders are attached to it. -/
theorem reconnects_attached {s : DecoderController} (h : s.Attached) {probe : Probe}
    {demuxer : Lifecycle.Demuxer} (hdemuxer : s.Reconnects probe demuxer) :
    (s.disconnected demuxer).Attached := by
  have hclosed := Lifecycle.Demuxer.close_released h.coherent
  have hallocated := Lifecycle.Demuxer.close_allocated h.allocated
  have hopened : (s.disconnected
      (s.demuxer.close.openInternal s.originalUrl s.config.toConfig true probe).2).Attached := by
    apply attached_of_stopped (disconnected_started s _)
    · exact Lifecycle.Demuxer.openInternal_coherent _ _ _ _ (.inl hclosed) _
    · exact Lifecycle.Demuxer.openInternal_allocated hallocated _ _ _ _
    · intro hopened m
      exact queue_of_opened (.inl hclosed) hopened
  rcases hdemuxer with rfl | rfl | rfl
  · apply attached_of_stopped (disconnected_started s _)
    · exact .inl hclosed
    · exact hallocated
    · intro hopened
      have hnot : (s.disconnected s.demuxer.close).demuxer.isOpened = false := hclosed.isOpened
      rw [hnot] at hopened
      cases hopened
  · exact hopened
  · apply hopened.of_keeps
    · exact flagged_of_stopped (disconnected_started s _)
    · exact Lifecycle.Demuxer.pause_keeps _
    · rfl
    · intro m d hd
      exact ⟨d, hd, rfl, rfl⟩

/-- A call that does not take the media from a started decoder keeps the decoders attached. -/
theorem step_attached {s s' : DecoderController} {timed : ℚ × Call}
    (h : s.Attached) (hkeeps : s.KeepsCurrent timed.2)
    (hstep : s.step timed = some s') : s'.Attached := by
  have hflagged := step_flagged hstep h.flagged
  rcases timed with ⟨now, call⟩
  cases call with
  | «open» url config probe =>
    rw [← Option.some.inj hstep]
    exact openInternal_attached h url hkeeps
  | openAsync url config probe =>
    rw [← Option.some.inj hstep]
    exact openInternal_attached h url hkeeps
  | startDecode codec =>
    rw [← Option.some.inj hstep]
    exact startDecodeInternal_attached (s := { s with hasDecoderWhenReconnected := true })
      ⟨h.flagged, h.coherent, h.allocated, h.queue, h.current⟩ now codec
  | stopDecode =>
    rw [← Option.some.inj hstep]
    exact attached_of_stopped (stopDecodeInternal_started _) h.coherent h.allocated h.queue
  | pause =>
    rw [← Option.some.inj hstep] at hflagged ⊢
    apply h.of_keeps hflagged (Lifecycle.Demuxer.pause_keeps _) rfl
    intro m d' hd'
    rcases Option.map_eq_some_iff.mp hd' with ⟨d, hd, rfl⟩
    exact ⟨d, hd, d.pause_isStarted, d.pause_context⟩
  | resume =>
    rw [← Option.some.inj hstep] at hflagged ⊢
    have hconfig : (s.resume now).config = s.config := by
      simp only [resume]
      split <;> rfl
    apply h.of_keeps hflagged
    · rw [resume_demuxer]
      exact Lifecycle.Demuxer.resume_keeps _
    · rw [hconfig]
    · intro m d' hd'
      rw [resume_decoder] at hd'
      rcases Option.map_eq_some_iff.mp hd' with ⟨d, hd, rfl⟩
      exact ⟨d, hd, d.resume_isStarted, d.resume_context⟩
  | seek position =>
    rcases Option.map_eq_some_iff.mp hstep with ⟨next, hseek, rfl⟩
    rcases seek_cases hseek with ⟨-, hnext⟩ | ⟨-, hnext⟩
    · rwa [hnext]
    · apply h.of_keeps hflagged
      · rw [hnext.same.demuxer]
        exact Lifecycle.Demuxer.seek_keeps _ _
      · rw [hnext.same.config]
        rfl
      · intro m d hd
        rw [hnext.decoder] at hd
        exact ⟨d, hd, rfl, rfl⟩
  | setSpeed speed =>
    rw [← Option.some.inj hstep] at hflagged ⊢
    simp only [setSpeed] at hflagged ⊢
    split at hflagged
    · rename_i hrejected
      rw [if_pos hrejected]
      exact h
    · rename_i haccepted
      rw [if_neg haccepted]
      apply h.of_keeps hflagged (Lifecycle.Demuxer.Keeps.refl _) rfl
      intro m d' hd'
      rcases Option.map_eq_some_iff.mp hd' with ⟨d, hd, rfl⟩
      exact ⟨d, hd, d.setSpeed_isStarted speed, d.setSpeed_context speed⟩
  | close =>
    rw [← Option.some.inj hstep]
    have hclosed := Lifecycle.Demuxer.close_released h.coherent
    apply attached_of_stopped (fun _ => rfl) (.inl hclosed)
      (Lifecycle.Demuxer.close_allocated h.allocated)
    intro hopened
    have hnot : s.close.demuxer.isOpened = false := hclosed.isOpened
    rw [hnot] at hopened
    cases hopened
  | reconnect cancelled probe codec =>
    rw [← Option.some.inj hstep]
    rcases attemptReconnect_cases s now cancelled probe codec with
      ⟨demuxer, hdemuxer, ⟨-, hnext⟩ | ⟨-, hnext⟩⟩
    · rw [hnext]
      exact startDecodeInternal_attached (reconnects_attached h hdemuxer) now codec
    · rw [hnext]
      exact reconnects_attached h hdemuxer
  | work w =>
    rcases Option.map_eq_some_iff.mp hstep with ⟨demuxer, hwork, rfl⟩
    exact h.of_keeps hflagged (Lifecycle.Demuxer.work_keeps hwork) rfl
      fun m d hd => ⟨d, hd, rfl, rfl⟩
  | updateClock name serial =>
    rw [← Option.some.inj hstep]
    exact ⟨h.flagged, h.coherent, h.allocated, h.queue, h.current⟩

theorem Attached.isCurrent {s : DecoderController} (h : s.Attached) : s.Current := by
  intro m d hd hstarted
  rcases h.current m d hd hstarted with ⟨-, hopened, hcontext⟩
  rw [hcontext]
  exact ⟨hopened, (h.coherent.running hopened).formatContext, rfl⟩

theorem new_attached : new.Attached :=
  attached_of_stopped (fun _ => rfl) (.inl Lifecycle.Demuxer.new_released)
    (by simp [Lifecycle.Demuxer.Allocated, new, Lifecycle.Demuxer.new])
    (by simp [new, Lifecycle.Demuxer.new])

/-- One call leaves the started decoders on the open context exactly when it meets its
condition. -/
theorem step_current_iff {s s' : DecoderController} {timed : ℚ × Call} (h : s.Attached)
    (hstep : s.step timed = some s') : s'.Current ↔ s.KeepsCurrent timed.2 := by
  constructor
  · intro hcurrent
    rcases timed with ⟨now, call⟩
    cases call with
    | «open» url config probe =>
      rw [← Option.some.inj hstep] at hcurrent
      intro m hm
      exact openInternal_creates h hcurrent hm
    | openAsync url config probe =>
      rw [← Option.some.inj hstep] at hcurrent
      intro m hm
      exact openInternal_creates h hcurrent hm
    | _ => trivial
  · intro hkeeps
    exact (step_attached h hkeeps hstep).isCurrent

theorem history_flagged {s : DecoderController} {history : List (ℚ × Call)}
    (hrun : run step new history = some s) : s.Flagged := by
  refine run_invariant (fun _ _ _ h hstep => step_flagged hstep h) ?_ hrun
  intro m hm
  cases hm

/-- While the flag is set whenever a decoder is started, the report is right exactly when the
flag is set and no decoder is started. -/
theorem Flagged.truthful_iff_idle {s : DecoderController} (h : s.Flagged) :
    s.Truthful ↔ s.isDecoding = true ∧ ∀ m, s.started m = false := by
  constructor
  · intro htruthful
    have hdecoding : s.isDecoding = true := by
      by_contra hnot
      have hnone : ∀ m, s.started m = false := by
        intro m
        cases hm : s.started m with
        | false => rfl
        | true => exact absurd (h m hm) hnot
      exact hnot (htruthful.stopped_iff.mpr hnone)
    exact ⟨hdecoding, htruthful.stopped_iff.mp hdecoding⟩
  · rintro ⟨hdecoding, hnone⟩
    constructor
    · exact ⟨fun _ => hnone, fun _ => hdecoding⟩
    · intro m d hd hstarted
      have hm := hnone m
      rw [started, hd, Option.any_some, hstarted] at hm
      cases hm

/-- In every state that any calls lead to, the report is right exactly when the flag is set and
no decoder is started. On the way there, started decoders are on the open context after every
call exactly when every open replaces the decoders that are started. -/
theorem truthful_iff {s : DecoderController} {history : List (ℚ × Call)}
    (hrun : run step new history = some s) :
    (s.Truthful ↔ s.isDecoding = true ∧ ∀ m, s.started m = false) ∧
      (Each step (fun _ _ s' => s'.Current) new history ↔
        Each step (fun s timed _ => s.KeepsCurrent timed.2) new history) := by
  constructor
  · exact (history_flagged hrun).truthful_iff_idle
  · have hiff : ∀ s timed s', s.Attached → step s timed = some s' →
        (s'.Current ↔ s.KeepsCurrent timed.2) := by
      intro s timed s' h hstep
      exact step_current_iff h hstep
    apply each_iff hiff
    · intro s timed s' h hkeeps hstep
      exact step_attached h hkeeps hstep
    · exact new_attached

/-- Decoding without any decoder is the case in which the report is right. -/
theorem truthful_without_decoders : ((new.startDecode 0 fun _ => true).2).Truthful := by
  have hrun : run step new [(0, .startDecode fun _ => true)] =
      some (new.startDecode 0 fun _ => true).2 := rfl
  exact (truthful_iff hrun).1.mpr ⟨rfl, by decide⟩

/-- A file is opened and decoded. -/
def playing : List (ℚ × Call) :=
  [(0, .open "a.mp4" defaultConfig (Lifecycle.Demuxer.videoProbe 0)),
    (1, .startDecode fun _ => true)]

/-- While a file is decoded, decoding is reported as stopped; and when another file cannot be
opened then, the decoder goes on with a format context that is closed. -/
theorem truthful_fails :
    (∃ s, run step new playing = some s ∧ s.isDecodeStopped = true ∧ s.started .video = true ∧
      ¬s.Truthful) ∧
    ∃ s, run step new (playing ++ [(2, .open "b.mp4" defaultConfig
          ⟨-2, 0, false, 0, fun _ => -1, none⟩)]) = some s ∧
      s.demuxer.formatContext = none ∧ s.started .video = true ∧ ¬s.Truthful := by
  constructor
  · refine ⟨_, rfl, rfl, rfl, ?_⟩
    intro h
    exact absurd (h.stopped_iff.mp rfl .video) (by decide)
  · refine ⟨_, rfl, rfl, rfl, ?_⟩
    intro h
    exact absurd (h.stopped_iff.mp rfl .video) (by decide)

end DecoderController

end DecoderSDK.Playback
