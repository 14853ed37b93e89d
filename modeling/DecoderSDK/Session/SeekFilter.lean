import DecoderSDK.Decode.DropFilter
import DecoderSDK.Session.Controller

/-! # The drop filter and the last seek

The controller sets the target of a drop filter for the seek that it asks
for. The demuxer performs that seek later, in its own thread, and the seek of
loop playback without the controller. A filter belongs to the last seek as
long as no other seek is performed while it is in force, and none is in force
before its own seek is performed.
-/
namespace DecoderSDK
open Interleaving

/-- A session with the position of the last seek that the demuxer performed. -/
structure Followed where
  session : Session
  sought : Option ℤ

namespace Session

/-- The threads of a session cannot filter by a target that was set before they run. -/
structure Unfiltered (s : Session) : Prop where
  generation : ∀ m, (s.lane m).Generation
  unstarted : ∀ m, (s.lane m).Unstarted
  raised : ∀ m position, s.control.pc = .setSeekPos m position →
    (s.lane m).pc.started = false → (s.lane m).demuxerSeeking = true

theorem unfiltered_opened (setup : Setup) : (opened setup).Unfiltered where
  generation := fun _ => Decoder.generation_new ..
  unstarted := by
    intro m _ _
    simp [opened, Decoder.new]
  raised := by simp [opened]

/-- The target comes from the `seek` that stores it. -/
theorem Move.setSeekPosMs {s t : Session} {a : Action} {m : MediaType} {ms : ℤ}
    (h : Move s a t (some (m, .setSeekPosMs ms))) :
    a = .control ∧ ∃ position, s.control.pc = .setSeekPos m position ∧ ms = toMs position := by
  cases h with
  | control h =>
    cases h with
    | positioned _ position hpc => exact ⟨rfl, position, hpc, rfl⟩
  | demux c h =>
    cases h with
    | flush media loop hpc _ heffect =>
      rcases Option.map_eq_some_iff.mp heffect.symm with ⟨q, _, hb⟩
      simp at hb
    | other hpc hpc' hkeeps heffect =>
      rcases heffect with heffect | ⟨m', packet, heffect⟩
      · simp at heffect
      · simp at heffect
    | poll _ _ heffect | dropSeek _ _ heffect | store _ _ _ _ heffect
    | seekFrame _ _ _ _ _ _ heffect | loopStore _ _ heffect | loopLoad _ _ heffect =>
      simp at heffect

/-- `seek` gets to the target by raising the flag, and no decoder is started meanwhile. -/
theorem Move.setSeekPos {s t : Session} {a : Action} {effect : Effect} (h : Move s a t effect)
    {m : MediaType} {position : ℚ} (hpc : t.control.pc = .setSeekPos m position) :
    effect = some (m, .setDemuxerSeeking) ∨ s.control.pc = .setSeekPos m position ∧
      ∀ codecId hwAccel needFix, effect ≠ some (m, .start codecId hwAccel needFix) := by
  cases h with
  | control h =>
    left
    cases h with
    | raised media position' =>
      simp only [Control.Pc.setSeekPos.injEq] at hpc
      rw [hpc.1]
    | skipped media | positioned media => cases media <;> simp [setControl, afterDecoder] at hpc
    | noDemuxer | demuxer | realTime | file | accepted | rejected | contended | requested
    | clocksReset | cleared | returned => simp [setControl, returnSeek] at hpc
  | seek position => simp [callSeek] at hpc
  | start m codecId hwAccel needFix hidle => simp [hidle] at hpc
  | demux c h =>
    refine .inr ⟨hpc, ?_⟩
    intro codecId hwAccel needFix heffect
    cases h with
    | flush media loop _ _ hflush =>
      rw [heffect] at hflush
      rcases Option.map_eq_some_iff.mp hflush.symm with ⟨q, _, hb⟩
      simp at hb
    | other _ _ _ hpush =>
      rcases hpush with hpush | ⟨m', packet, hpush⟩ <;> simp [hpush] at heffect
    | poll _ _ hnone | dropSeek _ _ hnone | store _ _ _ _ hnone | seekFrame _ _ _ _ _ _ hnone
    | loopStore _ _ hnone | loopLoad _ _ hnone => simp [hnone] at heffect
  | decode | popFrame | setAbortStatus | setPaused | setWaitingForPreBuffer | interrupt
  | setDemuxerPaused | setLoopMode => exact .inr ⟨hpc, by simp⟩

theorem LaneStep.of_effect {s s' : Session} {m : MediaType} {b : Decoder.Action}
    (h : LaneStep s s' (some (m, b)) m) : (s.lane m).step b = some (s'.lane m) := by
  rcases h with ⟨-, hnone⟩ | ⟨b', hb, hstep⟩
  · exact absurd rfl (hnone b)
  · rw [Option.some.injEq, Prod.mk.injEq] at hb
    rwa [hb.2]

theorem LaneStep.of_none {s s' : Session} {m : MediaType} (h : LaneStep s s' none m) :
    s'.lane m = s.lane m := by
  rcases h with ⟨hsame, -⟩ | ⟨b, hb, -⟩
  · exact hsame
  · cases hb

theorem Move.at_setSeekPos {s t : Session} {effect : Effect} (h : Move s .control t effect)
    {m : MediaType} {position : ℚ} (hpc : s.control.pc = .setSeekPos m position) :
    effect = some (m, .setSeekPosMs (toMs position)) := by
  cases h with
  | control h =>
    cases h with
    | positioned media position' hat =>
      rw [hpc, Control.Pc.setSeekPos.injEq] at hat
      rw [hat.1, hat.2]
    | requested _ hat => simp [hpc, requesting] at hat
    | noDemuxer _ hat | demuxer _ hat | realTime _ hat | file _ hat | accepted _ hat
    | rejected _ hat | contended _ hat | clocksReset _ hat | skipped _ _ hat | cleared _ _ hat
    | raised _ _ hat | returned _ hat => simp [hpc] at hat

/-- While the demuxer positions the stream, no lane moves. -/
theorem Move.at_seekFrame {s t : Session} {c : Demuxer.Choice} {effect : Effect}
    (h : Move s (.demux c) t effect) {ms : ℤ} {loop : Bool}
    (hpc : s.demuxer.pc = .seekFrame ms loop) : effect = none := by
  cases h with
  | demux c h =>
    cases h with
    | seekFrame _ _ _ _ _ _ heffect => exact heffect
    | other hplain => simp [hpc, Demuxer.Pc.plain] at hplain
    | poll hat | dropSeek hat | store _ _ hat | flush _ _ hat | loopStore hat | loopLoad hat =>
      simp [hpc] at hat

theorem Unfiltered.step {s s' : Session} {a : Action} (hs : s.Unfiltered)
    (h : s.step a = some s') : s'.Unfiltered := by
  rcases step_spec h with ⟨t, effect, hmove, -, hcontrol, -, -, hlane⟩
  refine ⟨fun m => (hlane m).generation (hs.generation m), fun m => ?_, fun m position hpc => ?_⟩
  · refine (hlane m).preserves (hs.unstarted m) fun b d heffect hb => ?_
    refine (hs.unstarted m).step ?_ hb
    rintro ms rfl
    subst heffect
    rcases hmove.setSeekPosMs with ⟨-, position, hpc, -⟩
    exact hs.raised m position hpc
  · rw [hcontrol] at hpc
    rcases hmove.setSeekPos hpc with heffect | ⟨hold, hstart⟩
    · rcases hlane m with ⟨-, hnone⟩ | ⟨b, hb, hstep⟩
      · exact absurd heffect (hnone _)
      · intro _
        rw [heffect, Option.some.injEq, Prod.mk.injEq] at hb
        rw [← hb.2] at hstep
        simp only [Decoder.step, Option.some.injEq] at hstep
        rw [← hstep]
    · apply (hlane m).preserves (P := fun d => d.pc.started = false → d.demuxerSeeking = true)
        (hs.raised m position hold)
      intro b d heffect hb
      refine Decoder.unstarted_seeking hb ?_ (hs.raised m position hold)
      rintro codecId hwAccel needFix rfl
      exact hstart codecId hwAccel needFix heffect

end Session

namespace Followed

def opened (setup : Session.Setup) : Followed := ⟨.opened setup, none⟩

/-- A seek is performed when `av_seek_frame` succeeds. -/
def soughtAfter (f : Followed) (a : Session.Action) : Option ℤ :=
  match a, f.session.demuxer.pc with
  | .demux (.sought true), .seekFrame ms _ => some ms
  | _, _ => f.sought

def step (f : Followed) (a : Session.Action) : Option Followed :=
  (f.session.step a).map fun s => ⟨s, f.soughtAfter a⟩

/-- Frames are dropped only below the position of the last seek. -/
def Current (f : Followed) : Prop :=
  ∀ m, (f.session.lane m).filters = true → f.sought = some (f.session.lane m).seekPosMs

/-- After a seek to the start of the file, as loop playback makes it, no frame is dropped by a
loop that has caught up. -/
def DeliversFromStart (f : Followed) : Prop :=
  f.sought = some 0 → ∀ m frame, (f.session.lane m).pc = .seekPosTest frame →
    (f.session.lane m).serial = (f.session.lane m).packetQueue.serial →
      (f.session.lane m).demuxerSeeking = false → ∀ c,
        (f.session.lane m).loop c = some ((f.session.lane m).goto (.convert frame))

/-- No seek is performed while frames are dropped for another position, and a decoder that ends
a serial change, or is given a target after it has ended one, was given the position of the
last seek. -/
def Timely (f : Followed) (a : Session.Action) (_ : Followed) : Prop :=
  match a with
  | .demux (.sought true) => ∀ ms loop, f.session.demuxer.pc = .seekFrame ms loop →
      ∀ m, (f.session.lane m).filters = true → (f.session.lane m).seekPosMs = ms
  | .decode m _ => (f.session.lane m).endsChange = true → 0 < (f.session.lane m).seekPosMs →
      f.sought = some (f.session.lane m).seekPosMs
  | .control => ∀ m position, f.session.control.pc = .setSeekPos m position →
      ({ f.session.lane m with seekPosMs := toMs position } : Decoder).filters = true →
        f.sought = some (toMs position)
  | _ => True

theorem current_opened (setup : Session.Setup) : (opened setup).Current := by
  intro m hfilters
  simp [opened, Session.opened, Decoder.new, Decoder.filters] at hfilters

/-- A target that is not positive drops nothing. -/
theorem greater_zero_iff (ms : ℤ) : greater ((ms : ℚ) / 1000) 0 = true ↔ 0 < ms := by
  have hms : (ms : ℚ) / 1000 - 0 = ms / 1000 := sub_zero _
  rw [greater, hms, Bool.and_eq_true, decide_eq_true_iff, decide_eq_true_iff]
  constructor
  · intro h
    have hpos : (0 : ℚ) < ms := by linarith [h.1]
    exact_mod_cast hpos
  · intro h
    have hpos : (1 : ℚ) ≤ ms := by exact_mod_cast h
    constructor
    · linarith
    · rw [epsilon]
      linarith

theorem Current.deliversFromStart {f : Followed} (h : f.Current) : f.DeliversFromStart := by
  intro hsought m frame hpc hserial hseeking c
  have hpos : ¬ 0 < (f.session.lane m).seekPosMs := by
    intro hpos
    have hfilters : (f.session.lane m).filters = true := by
      rw [Decoder.filters_iff]
      exact ⟨by rw [hpc]; rfl, hserial, hseeking, hpos⟩
    have hcurrent := h m hfilters
    rw [hsought, Option.some.injEq] at hcurrent
    omega
  have hgreater := (greater_zero_iff (f.session.lane m).seekPosMs).not.mpr hpos
  simp only [Decoder.loop, hpc, hgreater]
  rfl

/-- The last seek changes only where the demuxer performs one, and then no lane moves. -/
theorem soughtAfter_cases {f : Followed} {a : Session.Action} {t : Session} {effect : Effect}
    (h : Session.Move f.session a t effect) : f.soughtAfter a = f.sought ∨
      ∃ ms loop, a = .demux (.sought true) ∧ f.session.demuxer.pc = .seekFrame ms loop ∧
        f.soughtAfter a = some ms ∧ effect = none := by
  unfold soughtAfter
  split
  · next ms loop hpc =>
    right
    exact ⟨ms, loop, rfl, hpc, rfl, h.at_seekFrame hpc⟩
  · exact .inl rfl

/-- A step after which the filters belong to the last seek was timely. -/
theorem timely_of_current {f : Followed} {a : Session.Action} {s' : Session}
    (hstep : f.session.step a = some s') (hcurrent' : (⟨s', f.soughtAfter a⟩ : Followed).Current) :
    f.Timely a ⟨s', f.soughtAfter a⟩ := by
  rcases Session.step_spec hstep with ⟨t, effect, hmove, -, -, -, -, hlane⟩
  cases a with
  | demux c =>
    cases c with
    | sought ok =>
      cases ok with
      | true =>
        intro ms loop hpc m hfilters
        have hsought : f.soughtAfter (.demux (.sought true)) = some ms := by
          simp [soughtAfter, hpc]
        have hnone := hmove.at_seekFrame hpc
        subst hnone
        rw [← (hlane m).of_none] at hfilters
        have hlast := hcurrent' m hfilters
        simp only [hsought, (hlane m).of_none, Option.some.injEq] at hlast
        exact hlast.symm
      | false => trivial
    | _ => trivial
  | decode m c =>
    intro hends hpos
    cases hmove with
    | decode =>
      rcases Decoder.filters_of_endsChange (hlane m).of_effect hends hpos with ⟨hfilters, hsame⟩
      have hlast := hcurrent' m hfilters
      rwa [hsame] at hlast
  | control =>
    intro m position hpc hfilters
    have heffect := hmove.at_setSeekPos hpc
    subst heffect
    have hset := (hlane m).of_effect
    simp only [Decoder.step, Option.some.injEq] at hset
    rw [hset] at hfilters
    have hlast := hcurrent' m hfilters
    rwa [← hset] at hlast
  | _ => trivial

/-- A timely step keeps the filters to the last seek. -/
theorem Current.step {f : Followed} {a : Session.Action} {s' : Session}
    (hcurrent : f.Current) (hf : f.session.Unfiltered) (hstep : f.session.step a = some s')
    (htimely : f.Timely a ⟨s', f.soughtAfter a⟩) :
    (⟨s', f.soughtAfter a⟩ : Followed).Current := by
  rcases Session.step_spec hstep with ⟨t, effect, hmove, -, -, -, -, hlane⟩
  intro m hfilters
  replace hfilters : (s'.lane m).filters = true := hfilters
  have hold (hfilters : (f.session.lane m).filters = true) :
      f.soughtAfter a = some (f.session.lane m).seekPosMs := by
    rcases soughtAfter_cases hmove with hkept | ⟨ms, loop, rfl, hpc, hsought, -⟩
    · rw [hkept]
      exact hcurrent m hfilters
    · rw [hsought, htimely ms loop hpc m hfilters]
  rcases hlane m with ⟨hsame, -⟩ | ⟨b, heffect, hb⟩
  · rw [hsame] at hfilters
    simp only [hsame]
    exact hold hfilters
  · subst heffect
    have hkept : f.soughtAfter a = f.sought := by
      rcases soughtAfter_cases hmove with hkept | ⟨_, _, _, _, _, hnone⟩
      · exact hkept
      · cases hnone
    rcases Decoder.filters_step (hf.generation m) hb hfilters with
      ⟨hbefore, hsame⟩ | ⟨c, rfl, hsame, ⟨hpc, hseeking⟩ | hends⟩ | ⟨ms, rfl, hset⟩
    · simp only [hsame]
      exact hold hbefore
    · rw [Decoder.filters_iff] at hfilters
      have hlow := hf.unstarted m (by rw [hpc]; rfl) hseeking
      omega
    · rcases hmove.effect.1 rfl with ⟨_, rfl, -⟩
      rw [Decoder.filters_iff] at hfilters
      simp only [hkept, hsame]
      exact htimely hends (by omega)
    · rcases hmove.setSeekPosMs with ⟨rfl, position, hpc, rfl⟩
      rw [hset] at hfilters
      simp only [hkept, hset]
      exact htimely m position hpc hfilters

/-- A step keeps the filters to the last seek exactly when it is timely. -/
theorem current_step_iff {f f' : Followed} {a : Session.Action} (hf : f.session.Unfiltered)
    (hcurrent : f.Current) (h : f.step a = some f') : f'.Current ↔ f.Timely a f' := by
  rcases Option.map_eq_some_iff.mp h with ⟨s', hstep, rfl⟩
  constructor
  · exact timely_of_current hstep
  · exact hcurrent.step hf hstep

/-- A drop filter belongs to the last seek in every reachable state of a run exactly when every
step of the run is timely. -/
theorem each_current_iff (setup : Session.Setup) (actions : List Session.Action) :
    Each step (fun _ _ f => f.Current ∧ f.DeliversFromStart) (opened setup) actions ↔
      Each step Timely (opened setup) actions := by
  have hiff : ∀ f a f', f.session.Unfiltered ∧ f.Current → step f a = some f' →
      (f'.Current ∧ f'.DeliversFromStart ↔ f.Timely a f') := by
    rintro f a f' ⟨hf, hcurrent⟩ h
    rw [← current_step_iff hf hcurrent h]
    constructor
    · intro hcurrent'
      exact hcurrent'.1
    · intro hcurrent'
      exact ⟨hcurrent', hcurrent'.deliversFromStart⟩
  have hkeep : ∀ f a f', f.session.Unfiltered ∧ f.Current → f.Timely a f' →
      step f a = some f' → f'.session.Unfiltered ∧ f'.Current := by
    rintro f a f' ⟨hf, hcurrent⟩ htimely h
    refine ⟨?_, (current_step_iff hf hcurrent h).mpr htimely⟩
    rcases Option.map_eq_some_iff.mp h with ⟨s', hstep, rfl⟩
    exact hf.step hstep
  exact each_iff hiff hkeep actions ⟨Session.unfiltered_opened setup, current_opened setup⟩

/-- A seek near the end of the file, then the end and a restart of the loop: the frames below
the old target are dropped for good. -/
theorem not_each_current_looped :
    let actions : List Session.Action := List.flatten
      [[.setLoopMode .infinite (-1), .start .video .h264 none false], Session.decodeSteps 6,
        [.seek 1], List.replicate 10 .control,
        [.demux .go, .demux .go, .demux (.sought true), .demux .go, .demux .go],
        Session.decodeSteps 9, [.demux .go, .demux .go, .demux .eof],
        List.replicate 4 (.demux .go), Session.decodeSteps 7,
        [.demux .go, .demux .go, .demux .eof], List.replicate 5 (.demux .go),
        [.demux (.sought true), .demux .go, .demux .go, .demux (.rewound true)],
        Session.decodeSteps 9]
    (run step (opened Session.videoFile) actions).map (fun f =>
        (f.sought, (f.session.lane .video).filters, (f.session.lane .video).seekPosMs)) =
          some (some 0, true, 1000) ∧
      ¬Each step (fun _ _ f => f.Current ∧ f.DeliversFromStart) (opened Session.videoFile)
        actions := by
  intro actions
  refine ⟨by decide +kernel, fun h => ?_⟩
  have hvideo : Each step (fun _ _ f => (f.session.lane .video).filters = true →
      f.sought = some (f.session.lane .video).seekPosMs) (opened Session.videoFile) actions :=
    h.mono fun f a f' hf => hf.1 .video
  revert hvideo
  decide +kernel

end Followed

end DecoderSDK
