import DecoderSDK.Interleaving.Runs
import DecoderSDK.Recorder.Packets

/-! # Audio and video in a recording

The recording loop takes packets of both media types, audio only once a video
key frame is there. Each media type is rebased to the first packet of its own
that gets as far as the timestamps, so the two keep their distance exactly
when what is taken from each is the same time.
-/
namespace DecoderSDK.Recorder
open Timeline Interleaving

/-- A packet that the recording loop takes from a queue. -/
structure Turn where
  mediaType : MediaType
  pkt : Stamped
  answers : Answers

/-- The first packet of a media type whose timestamps a session saves. The gate is open for
audio, and for video once a key frame has passed. -/
def firstTaken (layout : Layout) (mediaType : MediaType) (gate : Bool) :
    List Turn → Option Stamped
  | [] => none
  | t :: turns =>
    if t.mediaType = mediaType ∧ t.pkt.streamIndex < layout.streamCount ∧
        (gate = true ∨ t.pkt.key = true) then
      if (layout.route t.pkt).isSome then some t.pkt else firstTaken layout mediaType true turns
    else firstTaken layout mediaType gate turns

/-- The presentation stamp that a session takes as the origin of a media type. -/
def origin (layout : Layout) (mediaType : MediaType) (turns : List Turn) : Int64 :=
  ((firstTaken layout mediaType (decide (mediaType = .audio)) turns).bind (·.pts)).getD 0

namespace Handed

/-- The presentation time of the packet before recording. -/
def inputSeconds (h : Handed) : ℚ := h.timeBase.seconds (h.input.pts.getD 0).toInt

/-- The presentation time in the recording, before it is rounded to the output time base. -/
def outputSeconds (h : Handed) : ℚ := h.timeBase.seconds (h.relativePts.getD 0).toInt

end Handed

namespace RealTimeStreamRecorder

variable (muxer : Muxer) (layout : Layout)

/-- One turn of the recording loop. The audio queue is not looked at before a key frame. -/
def turn (s : RealTimeStreamRecorder) (t : Turn) : Option RealTimeStreamRecorder :=
  if t.mediaType = .audio ∧ s.hasKeyFrame = false then none
  else some (s.processPacket muxer layout t.mediaType t.pkt t.answers).2

/-- The gate of a media type. -/
def gate (s : RealTimeStreamRecorder) (mediaType : MediaType) : Bool :=
  decide (mediaType = .audio) || s.hasKeyFrame

/-- Every packet handed over was rebased to the saved stamp of its media type. -/
def Rebased (s : RealTimeStreamRecorder) : Prop :=
  ∀ h ∈ s.handed, ∃ first, s.firstPts h.mediaType = some first ∧
    h.relativePts = h.input.pts.map (rebase first)

variable {muxer layout}

theorem turn_eq {s s' : RealTimeStreamRecorder} {t : Turn}
    (h : turn muxer layout s t = some s') :
    s' = (s.processPacket muxer layout t.mediaType t.pkt t.answers).2 := by
  unfold turn at h
  split at h
  · exact absurd h (by simp)
  · exact (Option.some.inj h).symm

theorem saveFirst_firstPts (s : RealTimeStreamRecorder) (m mediaType : MediaType)
    (pkt : Stamped) : (s.saveFirst m pkt).firstPts mediaType =
      (s.firstPts mediaType).or (if m = mediaType then some (pkt.pts.getD 0) else none) := by
  unfold saveFirst
  by_cases hm : m = mediaType
  · subst hm
    cases hfirst : s.firstPts m with
    | none => simp
    | some first => simp [hfirst]
  · by_cases hfirst : (s.firstPts m).isNone = true
    · simp [hfirst, hm, Function.update_of_ne (Ne.symm hm)]
    · simp [hfirst, hm]

theorem saveFirst_firstPts_self (s : RealTimeStreamRecorder) (m : MediaType) (pkt : Stamped) :
    ∃ first, (s.saveFirst m pkt).firstPts m = some first := by
  rw [saveFirst_firstPts, if_pos rfl]
  cases s.firstPts m with
  | none => exact ⟨pkt.pts.getD 0, rfl⟩
  | some first => exact ⟨first, rfl⟩

/-- A turn keeps the saved stamps and saves those of a packet it takes. -/
theorem turn_firstPts {s s' : RealTimeStreamRecorder} {t : Turn}
    (h : turn muxer layout s t = some s') (mediaType : MediaType) :
    s'.firstPts mediaType = (s.firstPts mediaType).or
      (if t.mediaType = mediaType ∧ s.takes layout t.mediaType t.pkt = true
        then some (t.pkt.pts.getD 0) else none) := by
  rw [turn_eq h]
  rcases s.takes_cases layout t.mediaType t.pkt with ⟨route, hpass, hroute⟩ | htakes
  · rw [(processPacket_of_takes muxer layout hpass hroute t.answers).1, saveFirst_firstPts]
    simp [takes, hpass, hroute]
  · rw [processPacket_of_not_takes muxer layout htakes]
    simp [htakes]

theorem turn_gate {s s' : RealTimeStreamRecorder} {t : Turn}
    (h : turn muxer layout s t = some s') (mediaType : MediaType) :
    s'.gate mediaType = (s.gate mediaType ||
      (decide (t.mediaType = mediaType) && s.passes layout t.mediaType t.pkt)) := by
  have hkey : s'.hasKeyFrame = (s.hasKeyFrame ||
      (decide (t.mediaType = .video) && s.passes layout t.mediaType t.pkt)) := by
    rw [turn_eq h]
    rcases s.takes_cases layout t.mediaType t.pkt with ⟨route, hpass, hroute⟩ | htakes
    · rw [(processPacket_of_takes muxer layout hpass hroute t.answers).2.2.1, hpass, Bool.and_true]
    · rw [processPacket_of_not_takes muxer layout htakes]
  unfold gate
  cases mediaType with
  | video => simp [hkey]
  | audio => simp

/-- One turn hands over only packets rebased to the saved stamps. -/
theorem turn_rebased {s s' : RealTimeStreamRecorder} {t : Turn}
    (h : turn muxer layout s t = some s') (hs : s.Rebased) : s'.Rebased := by
  have hold : ∀ h ∈ s.handed, ∃ first, s'.firstPts h.mediaType = some first ∧
      h.relativePts = h.input.pts.map (rebase first) := by
    intro entry hentry
    rcases hs entry hentry with ⟨first, hfirst, hrelative⟩
    refine ⟨first, ?_, hrelative⟩
    rw [turn_firstPts h, hfirst, Option.some_or]
  intro entry hentry
  rw [turn_eq h] at hentry
  rcases s.takes_cases layout t.mediaType t.pkt with ⟨route, hpass, hroute⟩ | htakes
  · rcases processPacket_of_takes muxer layout hpass hroute t.answers with ⟨hpts, -, -, hhanded⟩
    rw [hhanded] at hentry
    split at hentry
    · simp only [handOver, saveFirst_handed, List.mem_append, List.mem_singleton] at hentry
      rcases hentry with hentry | rfl
      · exact hold entry hentry
      · rcases saveFirst_firstPts_self s t.mediaType t.pkt with ⟨first, hfirst⟩
        refine ⟨first, ?_, ?_⟩
        · rw [turn_eq h, hpts, hfirst]
        · simp [hfirst]
    · exact hold entry hentry
  · rw [processPacket_of_not_takes muxer layout htakes] at hentry
    exact hold entry hentry

/-- A session saves the stamp of the first packet of each media type that it takes. -/
theorem run_firstPts {s s' : RealTimeStreamRecorder} {turns : List Turn}
    (h : run (turn muxer layout) s turns = some s') (mediaType : MediaType) :
    s'.firstPts mediaType = (s.firstPts mediaType).or
      ((firstTaken layout mediaType (s.gate mediaType) turns).map (·.pts.getD 0)) := by
  induction turns generalizing s with
  | nil =>
    rw [run, Option.some.injEq] at h
    simp [firstTaken, h]
  | cons t turns ih =>
    rw [run, Option.bind_eq_some_iff] at h
    rcases h with ⟨s₁, hturn, hrest⟩
    rw [ih hrest, turn_firstPts hturn, turn_gate hturn, firstTaken]
    by_cases hm : t.mediaType = mediaType
    · subst hm
      cases hpass : s.passes layout t.mediaType t.pkt with
      | false =>
        have hnot : ¬(t.pkt.streamIndex < layout.streamCount ∧
            (s.gate t.mediaType = true ∨ t.pkt.key = true)) := by
          simpa [passes, gate] using hpass
        simp [takes, hpass, hnot]
      | true =>
        have hyes : t.pkt.streamIndex < layout.streamCount ∧
            (s.gate t.mediaType = true ∨ t.pkt.key = true) := by
          simpa [passes, gate] using hpass
        cases hroute : layout.route t.pkt with
        | none => simp [takes, hpass, hyes, hroute]
        | some route =>
          cases hfirst : s.firstPts t.mediaType with
          | none => simp [takes, hpass, hyes, hroute]
          | some first => simp
    · simp [hm]

/-- What a session hands over was rebased to the origin of its media type. -/
theorem session_rebased {outputPath : String} {turns : List Turn} {s : RealTimeStreamRecorder}
    (hrun : run (turn muxer layout) (start outputPath) turns = some s) {h : Handed}
    (hh : h ∈ s.handed) :
    h.relativePts = h.input.pts.map (rebase (origin layout h.mediaType turns)) := by
  have hstart : (start outputPath).Rebased := by
    intro entry hentry
    simp [start] at hentry
  have hrebased : s.Rebased :=
    run_invariant (fun _ _ _ hs hturn => turn_rebased hturn hs) hstart hrun
  rcases hrebased h hh with ⟨first, hfirst, hrelative⟩
  rw [run_firstPts hrun] at hfirst
  have horigin : first = origin layout h.mediaType turns := by
    simp only [start, gate, Bool.or_false, Option.none_or, Option.map_eq_some_iff] at hfirst
    rcases hfirst with ⟨pkt, hpkt, hpts⟩
    rw [origin, hpkt, Option.bind_some, hpts]
  rw [hrelative, horigin]

/-- In every session, a video and an audio packet keep their distance in time exactly when what is
taken from each is the same time: the origin of its media type, where the stamp is not below it. -/
theorem distance_kept_iff {outputPath : String} {turns : List Turn} {s : RealTimeStreamRecorder}
    (hrun : run (turn muxer layout) (start outputPath) turns = some s) {v a : Handed}
    (hv : v ∈ s.handed) (ha : a ∈ s.handed) (hvideo : v.mediaType = .video)
    (haudio : a.mediaType = .audio) {vpts apts : Int64} (hvpts : v.input.pts = some vpts)
    (hapts : a.input.pts = some apts) :
    v.outputSeconds - a.outputSeconds = v.inputSeconds - a.inputSeconds ↔
      v.timeBase.seconds (base (origin layout .video turns).toInt vpts.toInt) =
        a.timeBase.seconds (base (origin layout .audio turns).toInt apts.toInt) := by
  have hvrel := session_rebased hrun hv
  have harel := session_rebased hrun ha
  rw [hvideo, hvpts, Option.map_some] at hvrel
  rw [haudio, hapts, Option.map_some] at harel
  rw [Handed.outputSeconds, Handed.outputSeconds, Handed.inputSeconds, Handed.inputSeconds,
    hvrel, harel, hvpts, hapts]
  exact rebase_distance_iff _ _ _ _ _ _

/-- A video stream of 25 ticks a second and an audio stream of 50. -/
def videoAndAudio : Layout :=
  ⟨[⟨some .video, .perSecond 25⟩, ⟨some .audio, .perSecond 50⟩], [.perSecond 25, .perSecond 50],
    rfl⟩

/-- A session of a key frame at one second and one audio packet. -/
def session (apts : Int64) : List Turn :=
  [⟨.video, ⟨0, true, some 25, some 25, 1⟩, true, 0, 0⟩,
    ⟨.audio, ⟨1, true, some apts, some apts, 1⟩, true, 0, 0⟩]

/-- The packets of the session as they are handed over. -/
def sessionHanded (apts : Int64) : Handed × Handed :=
  (⟨.video, ⟨0, true, some 25, some 25, 1⟩, .perSecond 25, some 0, ⟨0, true, some 0, some 0, 1⟩⟩,
    ⟨.audio, ⟨1, true, some apts, some apts, 1⟩, .perSecond 50, some 0,
      ⟨1, true, some 0, some 0, 1⟩⟩)

theorem run_session (apts : Int64) :
    ∃ s, run (turn .rounding videoAndAudio) (start "out.mp4") (session apts) = some s ∧
      s.handed = [(sessionHanded apts).1, (sessionHanded apts).2] := by
  refine ⟨_, rfl, ?_⟩
  simp [processPacket, videoAndAudio, Layout.route, Layout.streamCount, Layout.streamMapping,
    createStreamMapping, Answers.copies, start, saveFirst, handOver, convert, Muxer.rounding,
    sessionHanded, TimeBase.nearest, TimeBase.perSecond]

/-- Audio that starts together with the key frame stays with it. -/
theorem distance_kept_aligned :
    (sessionHanded 50).1.outputSeconds - (sessionHanded 50).2.outputSeconds =
      (sessionHanded 50).1.inputSeconds - (sessionHanded 50).2.inputSeconds := by
  rcases run_session 50 with ⟨s, hrun, hhanded⟩
  apply (distance_kept_iff hrun (by simp [hhanded]) (by simp [hhanded]) rfl rfl rfl rfl).mpr
  have hvideo : origin videoAndAudio .video (session 50) = 25 := by decide
  have haudio : origin videoAndAudio .audio (session 50) = 50 := by decide
  have hstamps : Int64.toInt 25 = 25 ∧ Int64.toInt 50 = 50 := ⟨rfl, rfl⟩
  norm_num [hvideo, haudio, hstamps, sessionHanded, TimeBase.seconds, TimeBase.perSecond, base]

/-- Audio from half a second before the key frame is presented together with it. -/
theorem distance_kept_fails :
    ∃ s, run (turn .rounding videoAndAudio) (start "out.mp4") (session 25) = some s ∧
      s.handed = [(sessionHanded 25).1, (sessionHanded 25).2] ∧
      ¬(sessionHanded 25).1.outputSeconds - (sessionHanded 25).2.outputSeconds =
        (sessionHanded 25).1.inputSeconds - (sessionHanded 25).2.inputSeconds := by
  rcases run_session 25 with ⟨s, hrun, hhanded⟩
  refine ⟨s, hrun, hhanded, ?_⟩
  have hstamps : Int64.toInt 25 = 25 ∧ Int64.toInt 0 = 0 := ⟨rfl, rfl⟩
  norm_num [hstamps, sessionHanded, Handed.outputSeconds, Handed.inputSeconds, TimeBase.seconds,
    TimeBase.perSecond]

end RealTimeStreamRecorder

end DecoderSDK.Recorder
