import DecoderSDK.Playback.Controller

/-! # The playback speed in five places

The speed is kept by the controller, the decoders and the three clocks. The
decoders get it when decoding starts and when it is set; the clocks get it
when it is set, and lose it whenever they are reset.
-/
namespace DecoderSDK.Playback
open Lifecycle Interleaving

/-- The whole thousandths of a speed that is a number. -/
def thousandths (speed : Float) : Option ℕ := (Double.value speed).map fun v => ⌊v * 1000⌋₊

theorem thousandths_congr {a b : Float} (h : (a == b) = true) : thousandths a = thousandths b := by
  rw [thousandths, Double.value_congr h, thousandths]

theorem thousandths_one : thousandths 1 = some 1000 := by
  have hvalue : Double.value 1 = some (((2 ^ 52 : ℕ) : ℤ) * 2 ^ (-52 : ℤ) : ℚ) := rfl
  rw [thousandths, hvalue]
  norm_num

theorem setClockSpeed_speed (c : Clock) (speed : Float) (now : ℚ) :
    (c.setClockSpeed speed now).speed = if c.acceptsSpeed speed then speed else c.speed := by
  unfold Clock.setClockSpeed
  cases c.acceptsSpeed speed with
  | false => rfl
  | true => rfl

namespace Decoder

/-- The decoder has the speed, in whole thousandths. -/
def Agrees (d : Decoder) (speed : Float) : Prop :=
  0 < d.speed ∧ thousandths speed = some d.speed

/-- The rounding of the product with 1000 does not change its positive whole part. -/
def StoresExactly (speed : Float) : Prop :=
  0 < storedSpeed speed ∧ thousandths speed = some (storedSpeed speed)

theorem setSpeed_speed (d : Decoder) (speed : Float) :
    (d.setSpeed speed).speed = if acceptsSpeed speed then storedSpeed speed else d.speed := by
  unfold setSpeed
  cases acceptsSpeed speed with
  | false => rfl
  | true => rfl

theorem setSpeed_one (d : Decoder) {speed : Float} (h : (speed == 1) = true) :
    (d.setSpeed speed).speed = 1000 := by
  have hone : acceptsSpeed 1 = true ∧ storedSpeed 1 = 1000 := by decide +kernel
  rw [Double.eq_of_beq h (by decide), setSpeed_speed, hone.1, hone.2, if_pos rfl]

@[simp] theorem stop_speed (d : Decoder) : d.stop.speed = d.speed := by
  unfold stop
  split <;> rfl

@[simp] theorem close_speed (d : Decoder) : d.close.speed = d.speed := by
  rw [← stop_speed d]
  simp only [close]
  split <;> rfl

@[simp] theorem openInternal_speed (d : Decoder) (demuxer : Lifecycle.Demuxer) (m : MediaType)
    (codec : Bool) : (d.openInternal demuxer m codec).2.speed = d.speed := by
  have hclosed : (if d.isOpened then d.close else d).speed = d.speed := by
    split <;> simp
  rw [← hclosed]
  simp only [openInternal]
  split <;> rfl

@[simp] theorem start_speed (d : Decoder) (packetQueue : Option PacketQueue) :
    (d.start packetQueue).speed = d.speed := by
  unfold start
  split <;> rfl

@[simp] theorem pause_speed (d : Decoder) : d.pause.speed = d.speed := by
  unfold pause
  split <;> rfl

@[simp] theorem resume_speed (d : Decoder) : d.resume.speed = d.speed := by
  unfold resume
  split <;> rfl

end Decoder

namespace DecoderController

/-- While decoding, every decoder and every clock has the speed of the controller. -/
def SpeedsAgree (s : DecoderController) : Prop :=
  s.isDecoding = true →
    (∀ m, ∀ d ∈ s.decoder m, d.Agrees s.curSpeed) ∧
      ∀ name, ((s.clock name).speed == s.curSpeed) = true

/-- Every decoder that is to be opened can be. -/
def CanStart (s : DecoderController) (codec : MediaType → Bool) : Prop :=
  ∀ m, (s.decoder m).isSome = true → s.selects m = true →
    s.demuxer.formatContext.isSome = true ∧ codec m = true

/-- The speed is one, and so is that of the decoders that a start of decoding passes over. -/
def Even (s : DecoderController) : Prop :=
  (s.curSpeed == 1) = true ∧
    ∀ m, ∀ d ∈ s.decoder m, s.selects m = false → d.speed = 1000

theorem prepared_fst (s : DecoderController) (m : MediaType) (codec : Bool) :
    (s.prepared m codec).1 = true ↔ ((s.decoder m).isSome = true → s.selects m = true →
      s.demuxer.formatContext.isSome = true ∧ codec = true) := by
  unfold prepared
  cases hd : s.decoder m with
  | none => simp
  | some d =>
    cases hselects : s.selects m with
    | false => simp
    | true =>
      have hindex : ¬s.demuxer.streamIndex m < 0 := by
        simp only [selects, Bool.and_eq_true, decide_eq_true_eq] at hselects
        exact not_lt.mpr hselects.1
      simp only [Bool.not_true, Bool.false_eq_true, if_false, Decoder.openInternal, hindex,
        decide_false, Bool.or_false]
      cases hcontext : s.demuxer.formatContext with
      | none => simp
      | some context => cases codec <;> simp

theorem canStart_iff (s : DecoderController) (codec : MediaType → Bool) :
    s.CanStart codec ↔ ∀ m, (s.prepared m (codec m)).1 = true := by
  unfold CanStart
  constructor
  · intro h m
    exact (s.prepared_fst m (codec m)).mpr (h m)
  · intro h m
    exact (s.prepared_fst m (codec m)).mp (h m)

/-- Preparing sets the speed of a selected decoder. -/
theorem prepared_speed {s : DecoderController} {m : MediaType} {codec : Bool} {d' : Decoder}
    (h : d' ∈ (s.prepared m codec).2) : ∃ d ∈ s.decoder m,
      d'.speed = if s.selects m then (d.setSpeed s.curSpeed).speed else d.speed := by
  unfold prepared at h
  cases hd : s.decoder m with
  | none => simp [hd] at h
  | some d =>
    refine ⟨d, rfl, ?_⟩
    cases hselects : s.selects m with
    | false =>
      simp only [hd, hselects, Bool.not_false, if_true, Option.mem_def, Option.some.injEq] at h
      simp [← h]
    | true =>
      simp only [hd, hselects, Bool.not_true, Bool.false_eq_true, if_false, Option.mem_def,
        Option.some.injEq] at h
      simp [← h, curSpeed]

theorem Even.prepared_speed {s : DecoderController} (h : s.Even) {m : MediaType} {codec : Bool}
    {d : Decoder} (hd : d ∈ (s.prepared m codec).2) : d.speed = 1000 := by
  rcases DecoderController.prepared_speed hd with ⟨d₀, hd₀, hspeed⟩
  rw [hspeed]
  cases hselects : s.selects m with
  | false => exact h.2 m d₀ hd₀ hselects
  | true =>
    rw [if_pos rfl]
    exact d₀.setSpeed_one h.1

theorem Even.agrees {s : DecoderController} (h : s.Even) {d : Decoder} (hd : d.speed = 1000) :
    d.Agrees s.curSpeed := by
  rw [Decoder.Agrees, thousandths_congr h.1, thousandths_one, hd]
  exact ⟨by decide, rfl⟩

/-- Starting to decode resets the clocks to speed one, so the speeds agree afterwards exactly
when everything else has that speed or gets it. -/
theorem startDecodeInternal_speedsAgree_iff {s : DecoderController} (hs : s.SpeedsAgree)
    (now : ℚ) (codec : MediaType → Bool) :
    (s.startDecodeInternal now codec).2.SpeedsAgree ↔
      (s.isDecoding = true ∨ s.CanStart codec → s.Even) := by
  rcases startDecodeInternal_cases s now codec with ⟨hsame, hclock, hcases⟩
  have hspeed : (s.startDecodeInternal now codec).2.curSpeed = s.curSpeed := by
    rw [curSpeed, hsame.config, curSpeed]
  have hone : ∀ name, ((s.startDecodeInternal now codec).2.clock name).speed = 1 := by
    intro name
    rw [hclock, resetClocks_speed]
  have hcur : (∀ name, (((s.startDecodeInternal now codec).2.clock name).speed ==
      s.curSpeed) = true) ↔ (s.curSpeed == 1) = true := by
    simp only [hone]
    exact ⟨fun h => BEq.symm (h .audio), fun h _ => BEq.symm h⟩
  have hthousand : ∀ {d : Decoder}, (s.curSpeed == 1) = true → d.Agrees s.curSpeed →
      d.speed = 1000 := by
    intro d heq hd
    rw [Decoder.Agrees, thousandths_congr heq, thousandths_one, Option.some.injEq] at hd
    exact hd.2.symm
  rw [SpeedsAgree, hspeed, hcur]
  rcases hcases with ⟨hflag, hdecoder⟩ | ⟨⟨m₀, hm₀⟩, hflag, hdecoder⟩
  · have hcan : s.CanStart codec := (s.canStart_iff codec).mpr fun m => (hdecoder m).1
    constructor
    · intro h _
      rcases h hflag with ⟨hdecoders, heq⟩
      refine ⟨heq, ?_⟩
      intro m d hd hselects
      have hstarted : d.start (s.demuxer.packetQueue m) ∈
          (s.startDecodeInternal now codec).2.decoder m := by
        rw [(hdecoder m).2]
        simp [prepared, Option.mem_def.mp hd, hselects]
      have hd' := hthousand heq (hdecoders m _ hstarted)
      rwa [Decoder.start_speed] at hd'
    · intro h _
      have heven := h (.inr hcan)
      refine ⟨?_, heven.1⟩
      intro m d' hd'
      rw [(hdecoder m).2, Option.mem_def, Option.map_eq_some_iff] at hd'
      rcases hd' with ⟨d, hd, rfl⟩
      apply heven.agrees
      rw [Decoder.start_speed, heven.prepared_speed hd]
  · have hcannot : ¬s.CanStart codec := by
      intro hcan
      rw [(s.canStart_iff codec).mp hcan m₀] at hm₀
      cases hm₀
    rw [hflag]
    constructor
    · rintro h (hdecoding | hcan)
      · refine ⟨(h hdecoding).2, ?_⟩
        intro m d hd _
        exact hthousand (h hdecoding).2 ((hs hdecoding).1 m d hd)
      · exact absurd hcan hcannot
    · intro h hdecoding
      have heven := h (.inl hdecoding)
      refine ⟨?_, heven.1⟩
      intro m d hd
      apply heven.agrees
      rcases hdecoder m with hold | hprepared
      · rw [hold] at hd
        exact hthousand heven.1 ((hs hdecoding).1 m d hd)
      · rw [hprepared] at hd
        exact heven.prepared_speed hd

/-- A configuration may be taken while decoding: it has the speed of the controller, and what it
creates a decoder for goes on at speed one. -/
def KeepsOpen (s : DecoderController) (config : Config) (probe : Probe) : Prop :=
  s.isDecoding = true → (config.speed == s.curSpeed) = true ∧
    ∀ m, Creates config probe m → thousandths config.speed = some 1000

/-- Every clock and every decoder takes the speed or has it. -/
def KeepsSpeed (s : DecoderController) (speed : Float) : Prop :=
  (∀ name, (speed == s.curSpeed) = true ∨ (s.clock name).acceptsSpeed speed = true) ∧
    ∀ m, (s.decoder m).isSome = true →
      if Decoder.acceptsSpeed speed then Decoder.StoresExactly speed
      else thousandths speed = thousandths s.curSpeed

/-- The call leaves the speeds in agreement. -/
def KeepsSpeeds (s : DecoderController) : Call → Prop
  | .open _ config probe => s.KeepsOpen config probe
  | .openAsync _ config probe => s.KeepsOpen config probe
  | .startDecode codec => s.isDecoding = true ∨ s.CanStart codec → s.Even
  | .reconnect cancelled probe codec =>
      ∀ s₁ ∈ s.reconnected cancelled probe, s₁.CanStart codec → s₁.Even
  | .resume => s.isDecoding = true → s.demuxer.isRealTime = true → (s.curSpeed == 1) = true
  | .seek position =>
      s.isDecoding = true → s.takesSeek position = true → (s.curSpeed == 1) = true
  | .setSpeed speed =>
      s.isDecoding = true → ¬speed ≤ 0 → s.demuxer.isRealTime = false → s.KeepsSpeed speed
  | _ => True

theorem speedsAgree_of_stopped {s : DecoderController} (h : s.isDecoding = false) :
    s.SpeedsAgree := by
  intro hdecoding
  rw [h] at hdecoding
  cases hdecoding

theorem openInternal_kept (s : DecoderController) (url : String) (config : Config)
    (probe : Probe) :
    (s.openInternal url config probe).2.isDecoding = s.isDecoding ∧
      (s.openInternal url config probe).2.clock = s.clock ∧
      (s.openInternal url config probe).2.curSpeed = config.speed := by
  simp only [openInternal]
  split
  · exact ⟨rfl, rfl, rfl⟩
  · exact ⟨rfl, rfl, rfl⟩

/-- Opening a media while decoding takes a new speed, but gives it neither to the decoders nor
to the clocks. -/
theorem openInternal_speedsAgree_iff {s : DecoderController} (hs : s.SpeedsAgree) (url : String)
    (config : Config) (probe : Probe) :
    (s.openInternal url config probe).2.SpeedsAgree ↔ s.KeepsOpen config probe := by
  rcases openInternal_kept s url config probe with ⟨hflag, hclock, hspeed⟩
  rw [SpeedsAgree, KeepsOpen, hflag, hspeed, hclock]
  apply imp_congr_right
  intro hdecoding
  rcases hs hdecoding with ⟨hdecoders, hclocks⟩
  constructor
  · rintro ⟨hnew, hclocks'⟩
    refine ⟨BEq.trans (BEq.symm (hclocks' .audio)) (hclocks .audio), ?_⟩
    intro m hcreates
    rcases openInternal_decoder s url config probe m with ⟨-, hdecoder⟩ | ⟨hnot, -⟩
    · exact (hnew m .new hdecoder).2
    · exact absurd hcreates hnot
  · rintro ⟨hsame, hcreates⟩
    constructor
    · intro m d hd
      rcases openInternal_decoder s url config probe m with ⟨hm, hdecoder⟩ | ⟨-, hdecoder⟩
      · rw [hdecoder, Option.mem_def, Option.some.injEq] at hd
        rw [← hd]
        exact ⟨by decide, hcreates m hm⟩
      · rw [hdecoder] at hd
        have hd' := hdecoders m d hd
        exact ⟨hd'.1, (thousandths_congr hsame).trans hd'.2⟩
    · intro name
      exact BEq.trans (hclocks name) (BEq.symm hsame)

/-- A decoder that has the old speed agrees with a new one exactly when it takes it without
rounding, or refuses it and both are the same in thousandths. -/
theorem setSpeed_agrees_iff {d : Decoder} {old : Float} (hd : d.Agrees old) (speed : Float) :
    (d.setSpeed speed).Agrees speed ↔
      if Decoder.acceptsSpeed speed then Decoder.StoresExactly speed
      else thousandths speed = thousandths old := by
  rw [Decoder.Agrees, Decoder.setSpeed_speed]
  cases Decoder.acceptsSpeed speed with
  | false =>
    simp only [Bool.false_eq_true, if_false]
    exact ⟨fun h => h.2.trans hd.2.symm, fun h => ⟨hd.1, h.trans hd.2⟩⟩
  | true => rfl

/-- The double next to 0.29 is below it, and its product is rounded up. -/
example : thousandths 0.29 = some 289 ∧ Decoder.storedSpeed 0.29 = 290 := by decide +kernel

/-- A clock that has the old speed agrees with a new one exactly when it takes it, or both are
the same. -/
theorem setClockSpeed_agrees_iff {c : Clock} {old : Float} (hc : (c.speed == old) = true)
    (speed : Float) (now : ℚ) :
    ((c.setClockSpeed speed now).speed == speed) = true ↔
      (speed == old) = true ∨ c.acceptsSpeed speed = true := by
  rw [setClockSpeed_speed]
  cases haccepts : c.acceptsSpeed speed with
  | false =>
    simp only [Bool.false_eq_true, if_false, or_false]
    exact ⟨fun h => BEq.trans (BEq.symm h) hc, fun h => BEq.trans hc (BEq.symm h)⟩
  | true =>
    simp only [Clock.acceptsSpeed, Double.greater, Bool.and_eq_true, decide_eq_true_eq] at haccepts
    exact iff_of_true (Double.beq_self_of_lt haccepts.1.1) (.inr rfl)

/-- Decoders and clocks take a speed by different tests, and decoders round it. -/
theorem setSpeed_speedsAgree_iff {s : DecoderController} (hs : s.SpeedsAgree) (speed : Float)
    (now : ℚ) : (s.setSpeed speed now).2.SpeedsAgree ↔
      (s.isDecoding = true → ¬speed ≤ 0 → s.demuxer.isRealTime = false → s.KeepsSpeed speed) := by
  unfold setSpeed
  by_cases hrejected : (decide (speed ≤ 0) || s.demuxer.isRealTime) = true
  · rw [if_pos hrejected]
    simp only [Bool.or_eq_true, decide_eq_true_eq] at hrejected
    constructor
    · intro _ _ hpos hfile
      rcases hrejected with hle | hrealtime
      · exact absurd hle hpos
      · rw [hrealtime] at hfile
        cases hfile
    · intro _
      exact hs
  · rw [if_neg hrejected]
    simp only [Bool.or_eq_true, decide_eq_true_eq, not_or, Bool.not_eq_true] at hrejected
    simp only [hrejected, not_false_eq_true, forall_const]
    apply imp_congr_right
    intro hdecoding
    rcases hs hdecoding with ⟨hdecoders, hclocks⟩
    rw [KeepsSpeed, and_comm]
    apply and_congr
    · exact forall_congr' fun name => setClockSpeed_agrees_iff (hclocks name) speed now
    · refine forall_congr' fun m => ?_
      cases hd : s.decoder m with
      | none => simp [hd]
      | some d =>
        have hiff := setSpeed_agrees_iff (hdecoders m d hd) speed
        simpa [hd, curSpeed] using hiff

theorem resetClocks_speedsAgree_iff {s s' : DecoderController} (hs : s.SpeedsAgree)
    (hspeed : s'.curSpeed = s.curSpeed) (hflag : s'.isDecoding = s.isDecoding)
    (hone : ∀ name, (s'.clock name).speed = 1)
    (hdecoder : ∀ m, ∀ d' ∈ s'.decoder m, ∃ d ∈ s.decoder m, d'.speed = d.speed) :
    s'.SpeedsAgree ↔ (s.isDecoding = true → (s.curSpeed == 1) = true) := by
  rw [SpeedsAgree, hspeed, hflag]
  apply imp_congr_right
  intro hdecoding
  constructor
  · rintro ⟨-, hclocks⟩
    have haudio := hclocks .audio
    rw [hone] at haudio
    exact BEq.symm haudio
  · intro hcur
    constructor
    · intro m d' hd'
      rcases hdecoder m d' hd' with ⟨d, hd, hsame⟩
      rw [Decoder.Agrees, hsame]
      exact (hs hdecoding).1 m d hd
    · intro name
      rw [hone]
      exact BEq.symm hcur

/-- Calls that leave every speed alone leave them in agreement. -/
theorem SpeedsAgree.of_same {s s' : DecoderController} (hs : s.SpeedsAgree)
    (hspeed : s'.curSpeed = s.curSpeed) (hflag : s'.isDecoding = s.isDecoding)
    (hclock : ∀ name, (s'.clock name).speed = (s.clock name).speed)
    (hdecoder : ∀ m, ∀ d' ∈ s'.decoder m, ∃ d ∈ s.decoder m, d'.speed = d.speed) :
    s'.SpeedsAgree := by
  intro hdecoding
  rw [hflag] at hdecoding
  rcases hs hdecoding with ⟨hdecoders, hclocks⟩
  rw [hspeed]
  constructor
  · intro m d' hd'
    rcases hdecoder m d' hd' with ⟨d, hd, hsame⟩
    rw [Decoder.Agrees, hsame]
    exact hdecoders m d hd
  · intro name
    rw [hclock]
    exact hclocks name

/-- One call leaves the speeds in agreement exactly when its condition holds. -/
theorem step_speedsAgree_iff {s s' : DecoderController} {timed : ℚ × Call}
    (hs : s.SpeedsAgree) (hstep : s.step timed = some s') :
    s'.SpeedsAgree ↔ s.KeepsSpeeds timed.2 := by
  rcases timed with ⟨now, call⟩
  cases call with
  | «open» url config probe =>
    rw [← Option.some.inj hstep]
    exact openInternal_speedsAgree_iff hs url config probe
  | openAsync url config probe =>
    rw [← Option.some.inj hstep]
    exact openInternal_speedsAgree_iff hs url config probe
  | startDecode codec =>
    rw [← Option.some.inj hstep]
    exact startDecodeInternal_speedsAgree_iff (s := { s with hasDecoderWhenReconnected := true }) hs
      now codec
  | stopDecode =>
    rw [← Option.some.inj hstep]
    exact iff_of_true (speedsAgree_of_stopped rfl) trivial
  | pause =>
    rw [← Option.some.inj hstep]
    refine iff_of_true (hs.of_same rfl rfl (fun _ => rfl) ?_) trivial
    intro m d' hd'
    rcases Option.map_eq_some_iff.mp hd' with ⟨d, hd, rfl⟩
    exact ⟨d, hd, d.pause_speed⟩
  | resume =>
    rw [← Option.some.inj hstep]
    have hdecoder : ∀ m, ∀ d' ∈ (s.resume now).decoder m,
        ∃ d ∈ s.decoder m, d'.speed = d.speed := by
      intro m d' hd'
      rw [resume_decoder] at hd'
      rcases Option.map_eq_some_iff.mp hd' with ⟨d, hd, rfl⟩
      exact ⟨d, hd, d.resume_speed⟩
    cases hrealtime : s.demuxer.isRealTime with
    | false =>
      refine iff_of_true (hs.of_same ?_ ?_ ?_ hdecoder) (by simp [KeepsSpeeds, hrealtime])
      · simp [resume, hrealtime, curSpeed]
      · simp [resume, hrealtime]
      · simp [resume, hrealtime]
    | true =>
      rw [resetClocks_speedsAgree_iff hs _ _ _ hdecoder]
      · simp [KeepsSpeeds, hrealtime]
      · simp [resume, hrealtime, curSpeed, resetClocks]
      · simp [resume, hrealtime, resetClocks]
      · intro name
        simp only [resume, hrealtime, if_true]
        rfl
  | seek position =>
    rcases Option.map_eq_some_iff.mp hstep with ⟨next, hseek, rfl⟩
    rcases seek_cases hseek with ⟨htakes, hnext⟩ | ⟨htakes, hnext⟩
    · rw [hnext]
      exact iff_of_true hs (by simp [KeepsSpeeds, htakes])
    · rw [resetClocks_speedsAgree_iff hs _ hnext.isDecoding]
      · simp [KeepsSpeeds, htakes]
      · intro name
        rw [hnext.speed, resetClocks_speed]
      · intro m d' hd'
        rw [hnext.decoder] at hd'
        exact ⟨d', hd', rfl⟩
      · rw [curSpeed, hnext.same.config]
        rfl
  | setSpeed speed =>
    rw [← Option.some.inj hstep]
    exact setSpeed_speedsAgree_iff hs speed now
  | close =>
    rw [← Option.some.inj hstep]
    exact iff_of_true (speedsAgree_of_stopped rfl) trivial
  | reconnect cancelled probe codec =>
    rw [← Option.some.inj hstep]
    rcases attemptReconnect_cases s now cancelled probe codec with
      ⟨demuxer, -, ⟨hs₁, hnext⟩ | ⟨hnone, hnext⟩⟩
    · rw [hnext, startDecodeInternal_speedsAgree_iff (speedsAgree_of_stopped rfl)]
      simp [KeepsSpeeds, hs₁, disconnected, stopDecodeInternal]
    · rw [hnext]
      refine iff_of_true (speedsAgree_of_stopped rfl) ?_
      intro s₁ hs₁
      rw [hnone] at hs₁
      cases hs₁
  | work w =>
    rcases Option.map_eq_some_iff.mp hstep with ⟨demuxer, -, rfl⟩
    exact iff_of_true (hs.of_same rfl rfl (fun _ => rfl) fun m d' hd' => ⟨d', hd', rfl⟩) trivial
  | updateClock name serial =>
    rw [← Option.some.inj hstep]
    refine iff_of_true (hs.of_same rfl rfl ?_ fun m d' hd' => ⟨d', hd', rfl⟩) trivial
    exact updateClock_speed s name serial now

/-- In every run, the speeds agree after every call exactly when every call meets its
condition. -/
theorem speedsAgree_iff (history : List (ℚ × Call)) :
    Each step (fun _ _ s' => s'.SpeedsAgree) new history ↔
      Each step (fun s timed _ => s.KeepsSpeeds timed.2) new history := by
  have hiff : ∀ s timed s', s.SpeedsAgree → step s timed = some s' →
      (s'.SpeedsAgree ↔ s.KeepsSpeeds timed.2) := by
    intro s timed s' hs hstep
    exact step_speedsAgree_iff hs hstep
  apply each_iff hiff
  · intro s timed s' hs hkeeps hstep
    exact (hiff s timed s' hs hstep).mpr hkeeps
  · exact speedsAgree_of_stopped rfl

/-- A file that is opened at double speed is decoded at it, against clocks at single speed. -/
theorem speedsAgree_fails :
    ∃ s, run step new
        [(0, .open "a.mp4" { defaultConfig with speed := 2 } (Lifecycle.Demuxer.videoProbe 0)),
          (1, .startDecode fun _ => true)] = some s ∧
      s.isDecoding = true ∧ s.curSpeed = 2 ∧ (s.clock .video).speed = 1 ∧ ¬s.SpeedsAgree := by
  refine ⟨_, rfl, rfl, rfl, rfl, ?_⟩
  intro h
  have hspeed : ((1 : Float) == 2) = true := (h rfl).2 .video
  revert hspeed
  decide +kernel

end DecoderController

end DecoderSDK.Playback
