import DecoderSDK.Playback.Decoding

/-! # Starting to decode all or nothing

The decoders are opened one after the other, an open one is closed before,
and the first that cannot be opened ends the call. Nothing that was done
until then is taken back: a decoder that was opened stays open, one that was
closed stays closed, and the flag for a reconnect stays set.
-/
namespace DecoderSDK.Playback
open Lifecycle Interleaving

namespace Decoder

@[simp] theorem setSpeed_isOpened (d : Decoder) (speed : Float) :
    (d.setSpeed speed).isOpened = d.isOpened := by
  unfold setSpeed
  split <;> rfl

@[simp] theorem close_isOpened (d : Decoder) : d.close.isOpened = false := by
  simp only [close]
  split
  · next h => simpa using h
  · rfl

@[simp] theorem start_isOpened (d : Decoder) (packetQueue : Option PacketQueue) :
    (d.start packetQueue).isOpened = d.isOpened := by
  unfold start
  split <;> rfl

theorem start_isStarted (d : Decoder) (packetQueue : Option PacketQueue) :
    (d.start packetQueue).isStarted = (d.isStarted || packetQueue.isSome) := by
  unfold start
  cases hstarted : d.isStarted <;> cases packetQueue <;> simp [hstarted]

/-- A decoder that was open is stopped, and it is open afterwards only if that succeeds. -/
theorem openInternal_open (d : Decoder) (demuxer : Lifecycle.Demuxer) (m : MediaType)
    (codec : Bool) :
    (d.openInternal demuxer m codec).2.isOpened = (d.openInternal demuxer m codec).1 ∧
      (d.openInternal demuxer m codec).2.isStarted = (d.isStarted && !d.isOpened) := by
  have hclosed : (if d.isOpened then d.close else d).isOpened = false ∧
      (if d.isOpened then d.close else d).isStarted = (d.isStarted && !d.isOpened) := by
    cases hopened : d.isOpened with
    | false => simp [hopened]
    | true => simp
  simp only [openInternal]
  split
  · exact hclosed
  · exact ⟨rfl, hclosed.2⟩

end Decoder

namespace DecoderController

/-- The decoder of the media type is open. -/
def opened (s : DecoderController) (m : MediaType) : Bool := (s.decoder m).any (·.isOpened)

/-- There is a decoder that starting to decode opens. -/
def opens (s : DecoderController) (m : MediaType) : Bool := (s.decoder m).isSome && s.selects m

/-- There is such a decoder, and it cannot be opened. -/
def refuses (s : DecoderController) (m : MediaType) (codec : Bool) : Bool :=
  s.opens m && (s.demuxer.formatContext.isNone || !codec)

theorem prepared_fst_eq (s : DecoderController) (m : MediaType) (codec : Bool) :
    (s.prepared m codec).1 = !s.refuses m codec := by
  unfold prepared refuses opens
  cases hd : s.decoder m with
  | none => simp
  | some d =>
    cases hselects : s.selects m with
    | false => simp
    | true =>
      have hindex : ¬s.demuxer.streamIndex m < 0 := by
        simp only [selects, Bool.and_eq_true, decide_eq_true_eq] at hselects
        omega
      simp only [Bool.not_true, Bool.false_eq_true, if_false, Option.isSome_some, Bool.and_true,
        Bool.true_and, Decoder.openInternal, hindex, decide_false, Bool.or_false]
      cases s.demuxer.formatContext.isNone || !codec <;> rfl

/-- The two flags of a decoder after it was prepared. -/
theorem prepared_snd (s : DecoderController) (m : MediaType) (codec : Bool) :
    ((s.prepared m codec).2.any (·.isOpened)) =
        (if s.opens m then !s.refuses m codec else s.opened m) ∧
      ((s.prepared m codec).2.any (·.isStarted)) =
        (s.started m && !(s.opens m && s.opened m)) := by
  have hfst := prepared_fst_eq s m codec
  unfold prepared at hfst ⊢
  unfold opens opened started
  cases hd : s.decoder m with
  | none => simp
  | some d =>
    cases hselects : s.selects m with
    | false => simp
    | true =>
      simp only [hd, hselects, Bool.not_true, Bool.false_eq_true, if_false] at hfst
      obtain ⟨hopen, hstarted⟩ := (d.setSpeed s.config.speed).openInternal_open s.demuxer m codec
      simp only [Bool.not_true, Bool.false_eq_true, if_false, Option.any_some, hopen, hfst,
        hstarted, Decoder.setSpeed_isStarted, Decoder.setSpeed_isOpened, Option.isSome_some,
        Bool.and_true, Bool.true_and, if_true, and_self]

/-- What an answer of `startDecode` is to mean: all selected decoders are open and started, or
nothing was opened, started or stopped and no flag changed. -/
def AllOrNothing (s : DecoderController) (next : Bool × DecoderController) : Prop :=
  if next.1 = true then
    ∀ m, s.selects m = true → next.2.opened m = true ∧ next.2.started m = true
  else
    (∀ m, (next.2.opened m = true → s.opened m = true) ∧
      (next.2.started m = true ↔ s.started m = true)) ∧
    next.2.isDecoding = s.isDecoding ∧
      next.2.hasDecoderWhenReconnected = s.hasDecoderWhenReconnected

/-- A failing call has nothing to take back, and a succeeding one finds every selected media type
with its decoder and its queue. A decoder that is started without being open is not stopped. -/
def Prepared (s : DecoderController) (codec : MediaType → Bool) : Prop :=
  if s.refuses .video (codec .video) then
    s.hasDecoderWhenReconnected = true ∧ ¬(s.opened .video = true ∧ s.started .video = true)
  else if s.refuses .audio (codec .audio) then
    s.hasDecoderWhenReconnected = true ∧ ¬(s.opened .audio = true ∧ s.started .audio = true) ∧
      (s.opens .video = true → s.opened .video = true ∧ s.started .video = false)
  else
    ∀ m, s.selects m = true → (s.decoder m).isSome = true ∧
      ((s.demuxer.packetQueue m).isSome = true ∨ s.started m = true ∧ s.opened m = false)

theorem startDecode_eq (s : DecoderController) (now : ℚ) (codec : MediaType → Bool) :
    s.startDecode now codec =
      if s.refuses .video (codec .video) then
        (false, { s.resetClocks now with
          hasDecoderWhenReconnected := true
          decoder := Function.update s.decoder .video (s.prepared .video (codec .video)).2 })
      else if s.refuses .audio (codec .audio) then
        (false, { s.resetClocks now with
          hasDecoderWhenReconnected := true
          decoder := fun m => (s.prepared m (codec m)).2 })
      else
        (true, { s.resetClocks now with
          hasDecoderWhenReconnected := true
          decoder := fun m =>
            (s.prepared m (codec m)).2.map fun d => d.start (s.demuxer.packetQueue m)
          isDecoding := true }) := by
  have hfst (m : MediaType) : (prepared { s with hasDecoderWhenReconnected := true } m (codec m)).1 =
      !s.refuses m (codec m) := prepared_fst_eq s m (codec m)
  rw [startDecode, startDecodeInternal_eq, hfst, hfst]
  simp only [Bool.not_eq_false']
  rfl

/-- A decoder is open and started after the start when it was opened, and has a queue or was
started already. -/
theorem started_map_start (o : Option Decoder) (packetQueue : Option PacketQueue) :
    ((o.map fun d => d.start packetQueue).any (·.isOpened)) = o.any (·.isOpened) ∧
      ((o.map fun d => d.start packetQueue).any (·.isStarted)) =
        (o.any (·.isStarted) || o.isSome && packetQueue.isSome) := by
  cases o with
  | none => exact ⟨rfl, rfl⟩
  | some d => simp [Decoder.start_isStarted]

/-- When the video decoder cannot be opened, the audio decoder is not touched. -/
theorem allOrNothing_video {s : DecoderController} {now : ℚ} {codec : MediaType → Bool}
    (h : s.refuses .video (codec .video) = true) :
    AllOrNothing s (s.startDecode now codec) ↔
      s.hasDecoderWhenReconnected = true ∧ ¬(s.opened .video = true ∧ s.started .video = true) := by
  have hopens : s.opens .video = true := by
    rw [refuses, Bool.and_eq_true] at h
    exact h.1
  obtain ⟨hopen, hstart⟩ := prepared_snd s .video (codec .video)
  rw [if_pos hopens, h] at hopen
  rw [hopens, Bool.true_and] at hstart
  rw [startDecode_eq, if_pos h, AllOrNothing, if_neg Bool.false_ne_true, MediaType.forall_iff]
  have hother : MediaType.audio ≠ .video := by decide
  simp only [opened, started, Function.update_self, Function.update_of_ne hother,
    resetClocks] at hopen hstart ⊢
  rw [hopen, hstart]
  generalize (s.decoder .video).any (·.isOpened) = a
  generalize (s.decoder .video).any (·.isStarted) = b
  cases a <;> cases b <;> simp

/-- When the audio decoder cannot be opened, the video decoder has been opened again. -/
theorem allOrNothing_audio {s : DecoderController} {now : ℚ} {codec : MediaType → Bool}
    (hvideo : s.refuses .video (codec .video) = false)
    (h : s.refuses .audio (codec .audio) = true) :
    AllOrNothing s (s.startDecode now codec) ↔
      s.hasDecoderWhenReconnected = true ∧ ¬(s.opened .audio = true ∧ s.started .audio = true) ∧
        (s.opens .video = true → s.opened .video = true ∧ s.started .video = false) := by
  have hopens : s.opens .audio = true := by
    rw [refuses, Bool.and_eq_true] at h
    exact h.1
  obtain ⟨hopen, hstart⟩ := prepared_snd s .audio (codec .audio)
  obtain ⟨hopen', hstart'⟩ := prepared_snd s .video (codec .video)
  rw [if_pos hopens, h] at hopen
  rw [hopens, Bool.true_and] at hstart
  rw [hvideo] at hopen'
  rw [startDecode_eq, hvideo, if_neg Bool.false_ne_true, if_pos h, AllOrNothing,
    if_neg Bool.false_ne_true, MediaType.forall_iff]
  simp only [opened, started, resetClocks] at hopen hstart hopen' hstart' ⊢
  rw [hopen, hstart, hopen', hstart']
  generalize (s.decoder .audio).any (·.isOpened) = a
  generalize (s.decoder .audio).any (·.isStarted) = b
  generalize (s.decoder .video).any (·.isOpened) = a'
  generalize (s.decoder .video).any (·.isStarted) = b'
  cases s.opens .video <;> cases a <;> cases b <;> cases a' <;> cases b' <;> simp

theorem allOrNothing_success {s : DecoderController} {now : ℚ} {codec : MediaType → Bool}
    (h : ∀ m, s.refuses m (codec m) = false) :
    AllOrNothing s (s.startDecode now codec) ↔
      ∀ m, s.selects m = true → (s.decoder m).isSome = true ∧
        ((s.demuxer.packetQueue m).isSome = true ∨ s.started m = true ∧ s.opened m = false) := by
  rw [startDecode_eq, h, h, if_neg Bool.false_ne_true, if_neg Bool.false_ne_true, AllOrNothing,
    if_pos rfl]
  refine forall_congr' fun m => imp_congr_right fun hselects => ?_
  obtain ⟨hopen, hstart⟩ := prepared_snd s m (codec m)
  obtain ⟨hmap, hmap'⟩ := started_map_start (s.prepared m (codec m)).2 (s.demuxer.packetQueue m)
  have hsome : (s.prepared m (codec m)).2.isSome = (s.decoder m).isSome := by
    unfold prepared
    cases s.decoder m with
    | none => rfl
    | some d => simp [hselects]
  rw [h, opens, hselects, Bool.and_true] at hopen
  rw [opens, hselects, Bool.and_true] at hstart
  rw [hopen] at hmap
  rw [hstart, hsome] at hmap'
  rw [opened, started, hmap, hmap']
  cases hd : s.decoder m with
  | none => simp [opened, hd]
  | some d => simp [or_comm]

/-- An answer of `startDecode` means what it is to mean exactly when a failing call has nothing to
take back and a succeeding one finds all it needs. -/
theorem startDecode_allOrNothing_iff (s : DecoderController) (now : ℚ) (codec : MediaType → Bool) :
    AllOrNothing s (s.startDecode now codec) ↔ s.Prepared codec := by
  unfold Prepared
  by_cases hvideo : s.refuses .video (codec .video) = true
  · rw [if_pos hvideo]
    exact allOrNothing_video hvideo
  · rw [if_neg hvideo]
    rw [Bool.not_eq_true] at hvideo
    by_cases haudio : s.refuses .audio (codec .audio) = true
    · rw [if_pos haudio]
      exact allOrNothing_audio hvideo haudio
    · rw [if_neg haudio]
      rw [Bool.not_eq_true] at haudio
      exact allOrNothing_success (MediaType.forall_iff.mpr ⟨hvideo, haudio⟩)

/-- A media with a video and an audio stream. -/
def bothProbe : Probe :=
  ⟨0, 0, true, 0, fun m => if m = .video then 0 else 1, some 10000000⟩

/-- The audio codec of an opened file cannot be opened: the call fails and leaves the video
decoder open. -/
theorem startDecode_allOrNothing_fails :
    ∃ s, run step new [(0, .open "a.mp4" defaultConfig bothProbe)] = some s ∧
      (s.startDecode 1 fun m => decide (m = .video)).1 = false ∧
      (s.opened .video = false ∧
        (s.startDecode 1 fun m => decide (m = .video)).2.opened .video = true) ∧
      ¬AllOrNothing s (s.startDecode 1 fun m => decide (m = .video)) := by
  refine ⟨_, rfl, rfl, ⟨rfl, rfl⟩, ?_⟩
  rw [allOrNothing_audio rfl rfl]
  rintro ⟨hflag, -⟩
  cases hflag

end DecoderController

end DecoderSDK.Playback
