import DecoderSDK.Recorder.Packets

/-! # Decoding order in a recording

Both stamps of a packet are rebased, each to the first stamp of its own kind,
and a decoding stamp above the presentation stamp is lowered to it. Where the
first packet is presented later than it is decoded, this lowers decoding
stamps that were in order, and two packets can get the same one.
-/
namespace DecoderSDK.Recorder
open Timeline

/-- A packet with both stamps, presented no earlier than it is decoded. -/
structure Coded where
  streamIndex : ℕ
  key : Bool
  pts : Int64
  dts : Int64
  duration : Int64
  dts_le_pts : dts ≤ pts

namespace Coded

def toStamped (pkt : Coded) : Stamped :=
  ⟨pkt.streamIndex, pkt.key, some pkt.pts, some pkt.dts, pkt.duration⟩

/-- The decoding stamp a packet gets in a recording that started with `first`. -/
def recordedDts (first pkt : Coded) : Int64 :=
  let pts := rebase first.pts pkt.pts
  let dts := rebase first.dts pkt.dts
  if dts > pts then pts else dts

/-- The presentation stamp leaves room for both decoding stamps of a pair: the later packet is
presented after the first one, and after the earlier one is either presented or decoded. The
distances are those of 64-bit stamps, and that of the decoding stamps does not overflow. -/
def Roomy (first a b : Coded) : Prop :=
  b.dts.toInt - first.dts.toInt < 2 ^ 63 ∧ 0 < b.pts - first.pts ∧
    (a.pts - first.pts < b.pts - first.pts ∨ a.dts - first.dts < b.pts - first.pts)

theorem toInt_recordedDts (first pkt : Coded) : (recordedDts first pkt).toInt =
    min (rebase first.dts pkt.dts).toInt (rebase first.pts pkt.pts).toInt := by
  simp only [recordedDts, gt_iff_lt, Int64.lt_iff_toInt_lt]
  split <;> omega

/-- The distance of a later stamp, while it does not overflow. -/
theorem toInt_sub_of_le {s t : Int64} (hle : s ≤ t) (hnear : t.toInt - s.toInt < 2 ^ 63) :
    (t - s).toInt = t.toInt - s.toInt := by
  rw [Int64.le_iff_toInt_le] at hle
  rw [Int64.toInt_sub, Int.bmod_eq_of_le (by omega) (by omega)]

/-- A decoding stamp too far from the first one is cut off. -/
theorem rebase_of_far {first t : Int64} (hfar : 2 ^ 63 ≤ t.toInt - first.toInt) :
    (rebase first t).toInt = 0 := by
  have hsub := sub_rebase first t
  rw [base, if_pos (by omega), if_neg (by omega)] at hsub
  omega

theorem recordedDts_lt_iff {first a b : Coded} (hfirst : first.dts ≤ a.dts)
    (hdts : a.dts < b.dts) : recordedDts first a < recordedDts first b ↔ Roomy first a b := by
  have hfirst' := Int64.le_iff_toInt_le.mp hfirst
  have hdts' := Int64.lt_iff_toInt_lt.mp hdts
  have hzero : (0 : Int64).toInt = 0 := rfl
  rw [Int64.lt_iff_toInt_lt, toInt_recordedDts, toInt_recordedDts, Roomy]
  by_cases hnear : b.dts.toInt - first.dts.toInt < 2 ^ 63
  · have hb := toInt_sub_of_le (Int64.le_of_lt (Int64.lt_of_le_of_lt hfirst hdts)) hnear
    have ha := toInt_sub_of_le hfirst (by omega)
    simp only [toInt_rebase, ← Int64.toInt_sub, Int64.lt_iff_toInt_lt, hzero]
    omega
  · have hcut : (rebase first.dts b.dts).toInt = 0 := rebase_of_far (by omega)
    have hpos : 0 ≤ (rebase first.dts a.dts).toInt ∧ 0 ≤ (rebase first.pts a.pts).toInt := by
      simp only [toInt_rebase]
      omega
    omega

end Coded

/-- A packet of a stream of the media type whose time base the output keeps. -/
def Layout.Keeps (layout : Layout) (mediaType : MediaType) (pkt : Stamped) : Prop :=
  layout.Carries mediaType pkt ∧
    ∀ route ∈ layout.route pkt, route.outTimeBase = route.inTimeBase

namespace RealTimeStreamRecorder

variable (muxer : Muxer) (layout : Layout) (mediaType : MediaType)

/-- Packets of one media type, processed one after the other. -/
def processAll (s : RealTimeStreamRecorder) (packets : List (Coded × Answers)) :
    RealTimeStreamRecorder :=
  packets.foldl (fun s p => (s.processPacket muxer layout mediaType p.1.toStamped p.2).2) s

/-- The decoding stamps handed to the muxer. -/
def handedDts (s : RealTimeStreamRecorder) : List Int64 := s.handed.filterMap (·.output.dts)

/-- Recording of the media type is under way and started with `first`. -/
structure StartedWith (first : Coded) (s : RealTimeStreamRecorder) : Prop where
  firstPts_eq : s.firstPts mediaType = some first.pts
  firstDts_eq : s.firstDts mediaType = some first.dts
  gate_open : mediaType = .audio ∨ s.hasKeyFrame = true

variable {layout mediaType}

theorem convert_dts {route : Layout.Route} (hroute : route.outTimeBase = route.inTimeBase)
    (first pkt : Coded) :
    (convert muxer route first.pts first.dts pkt.toStamped).dts
      = some (Coded.recordedDts first pkt) := by
  simp only [convert, Coded.toStamped, Option.map_some, hroute, muxer.rescale_self, gt_iff_lt,
    Coded.recordedDts]

theorem passes_of_carries {s : RealTimeStreamRecorder} {pkt : Coded}
    (hcarries : layout.Carries mediaType pkt.toStamped)
    (hgate : mediaType = .audio ∨ s.hasKeyFrame = true ∨ pkt.key = true) :
    s.passes layout mediaType pkt.toStamped = true := by
  have hindex := layout.lt_streamCount_of_carries hcarries
  rcases hgate with haudio | hkey | hkey
  · simp [passes, hindex, haudio]
  · simp [passes, hindex, hkey]
  · rw [passes, decide_eq_true hindex]
    simp [Coded.toStamped, hkey]

/-- One packet: once `first` is the first packet, it stays so, and a copied packet is handed over
with its recorded stamp. -/
theorem processPacket_coded {s : RealTimeStreamRecorder} (first : Coded) {pkt : Coded}
    (answers : Answers)
    (hkeeps : layout.Keeps mediaType pkt.toStamped)
    (hpass : s.passes layout mediaType pkt.toStamped = true)
    (hpts : (s.saveFirst mediaType pkt.toStamped).firstPts mediaType = some first.pts)
    (hdts : (s.saveFirst mediaType pkt.toStamped).firstDts mediaType = some first.dts) :
    let next := (s.processPacket muxer layout mediaType pkt.toStamped answers).2
    StartedWith mediaType first next ∧
      next.handedDts = s.handedDts ++
        if answers.copies then [Coded.recordedDts first pkt] else [] := by
  rcases layout.route_of_carries hkeeps.1 with ⟨route, hroute⟩
  rcases processPacket_of_takes muxer layout hpass hroute answers with ⟨hp, hd, hkey, hhanded⟩
  constructor
  · constructor
    · rw [hp, hpts]
    · rw [hd, hdts]
    · rw [hkey]
      cases mediaType with
      | video => exact .inr (by simp)
      | audio => exact .inl rfl
  · rw [handedDts, hhanded]
    cases answers.copies with
    | false => simp [handedDts]
    | true =>
      simp [handedDts, handOver, hpts, hdts, convert_dts muxer (hkeeps.2 route hroute)]

theorem saveFirst_of_startedWith {first : Coded} {s : RealTimeStreamRecorder}
    (h : StartedWith mediaType first s) (pkt : Stamped) : s.saveFirst mediaType pkt = s := by
  simp [saveFirst, h.firstPts_eq]

/-- A whole recording: the copied packets are handed over in order. -/
theorem processAll_handedDts {first : Coded} {s : RealTimeStreamRecorder}
    (h : StartedWith mediaType first s) (packets : List (Coded × Answers))
    (hkeeps : ∀ p ∈ packets, layout.Keeps mediaType p.1.toStamped) :
    (s.processAll muxer layout mediaType packets).handedDts =
      s.handedDts ++ (packets.filter (·.2.copies)).map (fun p => Coded.recordedDts first p.1) := by
  induction packets generalizing s with
  | nil => simp [processAll]
  | cons p packets ih =>
    have hp := hkeeps p (by simp)
    have hpass : s.passes layout mediaType p.1.toStamped = true := by
      apply passes_of_carries hp.1
      exact h.gate_open.imp_right Or.inl
    have hsave := saveFirst_of_startedWith h p.1.toStamped
    rcases processPacket_coded muxer first p.2 hp hpass
      (by rw [hsave]; exact h.firstPts_eq) (by rw [hsave]; exact h.firstDts_eq)
      with ⟨hnext, hdts⟩
    have hrest := ih hnext fun q hq => hkeeps q (by simp [hq])
    rw [processAll, List.foldl_cons]
    rw [processAll] at hrest
    rw [hrest, hdts]
    cases hcopy : p.2.copies with
    | false => simp [hcopy]
    | true => simp [hcopy]

/-- The first packet opens the gate and saves its own stamps. -/
theorem processPacket_first (outputPath : String) {first : Coded} (answers : Answers)
    (hkeeps : layout.Keeps mediaType first.toStamped) (hkey : first.key = true) :
    let next := ((start outputPath).processPacket muxer layout mediaType first.toStamped answers).2
    StartedWith mediaType first next ∧
      next.handedDts = if answers.copies then [Coded.recordedDts first first] else [] := by
  have hpass : (start outputPath).passes layout mediaType first.toStamped = true :=
    passes_of_carries hkeeps.1 (.inr (.inr hkey))
  have h := processPacket_coded muxer first answers hkeeps hpass
    (by simp [saveFirst, start, Coded.toStamped]) (by simp [saveFirst, start, Coded.toStamped])
  simpa [handedDts, start] using h

/-- For packets of one media type that start with a key frame and are in decoding order, the
muxer gets strictly increasing decoding stamps exactly when every pair that reaches it is
roomy. -/
theorem handedDts_increasing_iff (outputPath : String) (first : Coded × Answers)
    (rest : List (Coded × Answers)) (hkey : first.1.key = true)
    (hkeeps : ∀ p ∈ first :: rest, layout.Keeps mediaType p.1.toStamped)
    (hdts : (first :: rest).Pairwise fun a b => a.1.dts < b.1.dts) :
    ((start outputPath).processAll muxer layout mediaType (first :: rest)).handedDts.Pairwise
        (· < ·) ↔
      ((first :: rest).filter (·.2.copies)).Pairwise fun a b => Coded.Roomy first.1 a.1 b.1 := by
  rcases processPacket_first muxer outputPath first.2 (hkeeps first (by simp)) hkey
    with ⟨hstarted, hfirst⟩
  have hall : ((start outputPath).processAll muxer layout mediaType (first :: rest)).handedDts =
      ((first :: rest).filter (·.2.copies)).map (fun p => Coded.recordedDts first.1 p.1) := by
    have hrest := processAll_handedDts muxer hstarted rest fun p hp => hkeeps p (by simp [hp])
    rw [processAll, List.foldl_cons]
    rw [processAll] at hrest
    rw [hrest, hfirst]
    cases hcopy : first.2.copies with
    | false => simp [hcopy]
    | true => simp [hcopy]
  have hordered : (first :: rest).Pairwise fun a b =>
      first.1.dts ≤ a.1.dts ∧ a.1.dts < b.1.dts := by
    rw [List.pairwise_cons] at hdts ⊢
    constructor
    · intro b hb
      exact ⟨Int64.le_refl _, hdts.1 b hb⟩
    · apply hdts.2.imp_of_mem
      intro a b ha _ hab
      exact ⟨Int64.le_of_lt (hdts.1 a ha), hab⟩
  have hcopied := hordered.filter (·.2.copies)
  rw [hall, List.pairwise_map]
  constructor
  · intro h
    apply (hcopied.and h).imp
    rintro a b ⟨⟨hle, hlt⟩, hab⟩
    exact (Coded.recordedDts_lt_iff hle hlt).mp hab
  · intro h
    apply (hcopied.and h).imp
    rintro a b ⟨⟨hle, hlt⟩, hab⟩
    exact (Coded.recordedDts_lt_iff hle hlt).mpr hab

/-- One video stream of 25 ticks a second, recorded in its own time base. -/
def videoOnly : Layout :=
  ⟨[⟨some .video, .perSecond 25⟩], [.perSecond 25], rfl⟩

/-- FFmpeg grants everything. -/
def granted : Answers := ⟨true, 0, 0⟩

/-- A key frame, the frame after the reordered one, and the reordered frame. -/
def reordered : Coded × Coded × Coded :=
  (⟨0, true, 2, 0, 1, by decide⟩, ⟨0, false, 5, 1, 1, by decide⟩, ⟨0, false, 3, 2, 1, by decide⟩)

theorem videoOnly_keeps {pkt : Coded} (h : pkt.streamIndex = 0) :
    videoOnly.Keeps .video pkt.toStamped := by
  constructor
  · exact ⟨⟨some .video, .perSecond 25⟩, by simp [Coded.toStamped, h, videoOnly], rfl⟩
  · intro route hroute
    simp [Layout.route, Layout.streamMapping, createStreamMapping, videoOnly, Coded.toStamped,
      h] at hroute
    rw [← hroute]

/-- Without reordering every packet keeps its place. -/
theorem handedDts_increasing_in_order :
    ((start "out.mp4").processAll .rounding videoOnly .video
      [(⟨0, true, 2, 0, 1, by decide⟩, granted), (⟨0, false, 3, 1, 1, by decide⟩, granted)]
      ).handedDts.Pairwise (· < ·) := by
  rw [handedDts_increasing_iff .rounding "out.mp4" _ _ rfl]
  · simp [granted, Answers.copies, Coded.Roomy]
  · intro p hp
    simp only [List.mem_cons, List.not_mem_nil, or_false] at hp
    rcases hp with rfl | rfl
    · exact videoOnly_keeps rfl
    · exact videoOnly_keeps rfl
  · simp

/-- The stamps 0, 1, 2 of a reordered group are handed over as 0, 1, 1. -/
theorem handedDts_increasing_fails :
    let packets := [(reordered.1, granted), (reordered.2.1, granted), (reordered.2.2, granted)]
    reordered.1.key = true ∧ (∀ p ∈ packets, videoOnly.Keeps .video p.1.toStamped) ∧
      (packets.Pairwise fun a b => a.1.dts < b.1.dts) ∧
      ((start "out.mp4").processAll .rounding videoOnly .video packets).handedDts = [0, 1, 1] ∧
      ¬((start "out.mp4").processAll .rounding videoOnly .video packets).handedDts.Pairwise
        (· < ·) := by
  refine ⟨rfl, ?_, by decide, by decide, by decide⟩
  intro p hp
  simp only [List.mem_cons, List.not_mem_nil, or_false] at hp
  rcases hp with rfl | rfl | rfl
  · exact videoOnly_keeps rfl
  · exact videoOnly_keeps rfl
  · exact videoOnly_keeps rfl

end RealTimeStreamRecorder

end DecoderSDK.Recorder
