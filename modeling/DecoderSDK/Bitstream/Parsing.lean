import DecoderSDK.Bytes.Slices
import DecoderSDK.Bitstream.Sei

/-! # Parsing untrusted packets

Whatever the bytes of a packet are, the parser ends, reads only inside the
buffer it was given, and what it returns was cut out of the packet: units
out of the buffer, identifiers and payloads out of the stripped unit.
-/
namespace DecoderSDK.Bitstream
open Bytes

/-- A search ends with the sentinel or at a start code that is not before the position asked for. -/
theorem findStartCodeFrom_cases (data : Bytes) (d fuel p : ℕ) (hd : data.length ≤ p + d)
    (hfuel : d < fuel) :
    ∃ q, findStartCodeFrom data fuel p = some q ∧ (q = sizeMax ∨ p ≤ q ∧ StartCodeAt data q) := by
  classical
  induction d generalizing fuel p with
  | zero =>
    obtain ⟨fuel, rfl⟩ : ∃ k, fuel = k + 1 := ⟨fuel - 1, by omega⟩
    have hnone : ¬StartCodeAt data p := fun h => by
      have := h.add_three_le
      omega
    rw [findStartCodeFrom_succ, if_neg hnone, if_neg (by omega)]
    exact ⟨sizeMax, rfl, Or.inl rfl⟩
  | succ d ih =>
    obtain ⟨fuel, rfl⟩ : ∃ k, fuel = k + 1 := ⟨fuel - 1, by omega⟩
    rw [findStartCodeFrom_succ]
    split_ifs with hat hlen
    · exact ⟨p, rfl, Or.inr ⟨le_rfl, hat⟩⟩
    · obtain ⟨q, hq, hcases⟩ := ih fuel (p + 1) (by omega) (by omega)
      exact ⟨q, hq, hcases.imp id fun h => ⟨by omega, h.2⟩⟩
    · exact ⟨sizeMax, rfl, Or.inl rfl⟩

theorem findStartCode_cases (data : Bytes) (pos : ℕ) :
    ∃ q, findStartCode data pos = some q ∧ (q = sizeMax ∨ pos ≤ q ∧ StartCodeAt data q) :=
  findStartCodeFrom_cases data data.length _ pos (by omega) (by omega)

theorem splitAnnexBFrom_slices {data : Bytes} (hsize : data.length < sizeMax) (d fuel pos : ℕ)
    (nalus : List Bytes) (hd : data.length ≤ pos + d) (hfuel : d < fuel)
    (hpos : pos = sizeMax ∨ StartCodeAt data pos) (hnalus : SlicesUpTo data pos nalus) :
    ∃ out, splitAnnexBFrom data fuel pos nalus = some out ∧ Slices data out := by
  induction d using Nat.strong_induction_on generalizing fuel pos nalus with
  | _ d ih =>
    obtain ⟨fuel, rfl⟩ : ∃ k, fuel = k + 1 := ⟨fuel - 1, by omega⟩
    rw [splitAnnexBFrom]
    by_cases hlt : pos < data.length
    · have hat : StartCodeAt data pos := hpos.resolve_left (by omega)
      have hlen := hat.add_three_le
      have hfound : (if decide (StartCode4At data pos) = true then some true
          else some (decide (StartCode3At data pos))) = some true := by
        by_cases h4 : StartCode4At data pos
        · simp [h4]
        · simp [h4, hat.resolve_left h4]
      rw [if_pos hlt, startCode4_eq, Option.bind_some, startCode3_eq hlen, hfound,
        Option.bind_some, if_pos rfl]
      obtain ⟨scLen, hscLen, hge⟩ : ∃ scLen,
          (if decide (StartCode4At data pos) = true then 4 else 3) = scLen ∧ 3 ≤ scLen := by
        refine ⟨_, rfl, ?_⟩
        split_ifs <;> omega
      obtain ⟨next, hnext, hcases⟩ := findStartCode_cases data (pos + scLen)
      simp only [hscLen, hnext, Option.bind_some, not_lt_zero, if_false]
      have hfinish (nalus' : List Bytes) (h' : SlicesUpTo data next nalus') :
          ∃ out, splitAnnexBFrom data fuel next nalus' = some out ∧ Slices data out := by
        rcases hcases with hnone | ⟨hle, hat'⟩
        · exact ih 0 (by omega) fuel next nalus' (by omega) (by omega) (Or.inl hnone) h'
        · exact ih (d - (next - pos)) (by omega) fuel next nalus' (by omega) (by omega)
            (Or.inr hat') h'
      have hmono : pos ≤ next := by
        rcases hcases with hnone | ⟨hle, -⟩ <;> omega
      split_ifs with hrange
      · obtain ⟨nalu, hnalu⟩ : ∃ nalu, range data (pos + scLen) next = some nalu :=
          ⟨_, if_pos ⟨hrange.1.le, hrange.2⟩⟩
        rw [hnalu, Option.map_some, Option.bind_some]
        exact hfinish _ (hnalus.concat (by omega) hnalu)
      · rw [Option.bind_some]
        exact hfinish nalus (hnalus.mono hmono)
    · rw [if_neg hlt]
      exact ⟨nalus, rfl, hnalus.slices⟩

theorem splitAnnexBNalus_slices {data : Bytes} (hsize : data.length < sizeMax) :
    ∃ nalus, splitAnnexBNalus data = some nalus ∧ Slices data nalus := by
  obtain ⟨start, hstart, hcases⟩ := findStartCode_cases data 0
  simp only [splitAnnexBNalus, hstart, Option.bind_some, not_lt_zero, if_false]
  exact splitAnnexBFrom_slices hsize data.length _ start [] (by omega) (by omega)
    (hcases.imp id And.right) (slicesUpTo_nil data start)

theorem nalSizeAt_isSome {data : Bytes} {pos : ℕ} (h : pos + 4 ≤ data.length) :
    ∃ nalSize, nalSizeAt data pos = some nalSize := by
  have hread (i : ℕ) (hi : i < data.length) : readAt data i = some data[i] := by simp [readAt, hi]
  rw [nalSizeAt, hread pos (by omega), hread (pos + 1) (by omega), hread (pos + 2) (by omega),
    hread (pos + 3) (by omega)]
  exact ⟨_, rfl⟩

theorem splitAvccFrom_slices (data : Bytes) (d fuel pos : ℕ) (nalus : List Bytes)
    (hd : data.length ≤ pos + d) (hfuel : d < fuel) (hnalus : SlicesUpTo data pos nalus) :
    ∃ out, splitAvccFrom data fuel pos nalus = some out ∧ Slices data out := by
  induction d using Nat.strong_induction_on generalizing fuel pos nalus with
  | _ d ih =>
    obtain ⟨fuel, rfl⟩ : ∃ k, fuel = k + 1 := ⟨fuel - 1, by omega⟩
    rw [splitAvccFrom]
    split_ifs with hpos
    · obtain ⟨nalSize, hnalSize⟩ := nalSizeAt_isSome hpos
      rw [hnalSize, Option.bind_some]
      split_ifs with hbig
      · exact ⟨nalus, rfl, hnalus.slices⟩
      · obtain ⟨nalu, hnalu⟩ : ∃ nalu,
            range data (pos + 4) (pos + 4 + nalSize) = some nalu := ⟨_, if_pos (by omega)⟩
        rw [hnalu, Option.bind_some]
        exact ih (d - (4 + nalSize)) (by omega) fuel _ _ (by omega) (by omega)
          (hnalus.concat (by omega) hnalu)
    · exact ⟨nalus, rfl, hnalus.slices⟩

theorem splitAvccNalus_slices (data : Bytes) :
    ∃ nalus, splitAvccNalus data = some nalus ∧ Slices data nalus :=
  splitAvccFrom_slices data data.length _ 0 [] (by omega) (by omega) (slicesUpTo_nil data 0)

/-- The identifier and the payload of a message lie next to each other in the stripped unit. -/
def MessageIn (rbsp : Bytes) (sei : UserSEIData) : Prop :=
  ∃ off payloadSize, range rbsp off (off + 16) = some sei.uuid ∧
    range rbsp (off + 16) (off + payloadSize) = some sei.payload

theorem userSEIDataAt_messageIn {rbsp : Bytes} {off payloadSize : ℕ} {sei : UserSEIData}
    (h : userSEIDataAt rbsp off payloadSize = some sei) : MessageIn rbsp sei := by
  unfold userSEIDataAt at h
  split_ifs at h with hfits
  simp only [Option.some.injEq] at h
  rw [← h]
  refine ⟨off, payloadSize, ?_, ?_⟩
  · rw [range, if_pos (by omega), Nat.add_sub_cancel_left]
  · rw [range, if_pos (by omega), show off + payloadSize - (off + 16) = payloadSize - 16 by omega]

/-- A message is stored only after its range has been checked. -/
theorem seiMessagesFrom_messageIn {rbsp : Bytes} (fuel off : ℕ) (results seis : List UserSEIData)
    (hresults : ∀ sei ∈ results, MessageIn rbsp sei)
    (h : seiMessagesFrom rbsp fuel off results = some seis) : ∀ sei ∈ seis, MessageIn rbsp sei := by
  induction fuel generalizing off results with
  | zero => simp [seiMessagesFrom] at h
  | succ fuel ih =>
    rw [seiMessagesFrom] at h
    split_ifs at h with hoff
    · obtain ⟨type, -, h⟩ := Option.bind_eq_some_iff.mp h
      obtain ⟨size, -, h⟩ := Option.bind_eq_some_iff.mp h
      split_ifs at h with hbig huser
      · rw [← Option.some.inj h]
        exact hresults
      · obtain ⟨stored, hstored, h⟩ := Option.bind_eq_some_iff.mp h
        obtain ⟨sei, hsei, rfl⟩ := Option.map_eq_some_iff.mp hstored
        apply ih _ _ _ h
        intro sei' hsei'
        rcases List.mem_append.mp hsei' with hsei' | hsei'
        · exact hresults sei' hsei'
        · rw [List.mem_singleton.mp hsei']
          exact userSEIDataAt_messageIn hsei
      · exact ih _ _ hresults h
    · rw [← Option.some.inj h]
      exact hresults

/-- The unit without its header and its emulation prevention bytes. -/
def strippedNal (nal : Bytes) (codecIsHevc : Bool) : Option Bytes :=
  removeEPB (nal.drop (if codecIsHevc then 2 else 1))

theorem seiHeaderSize_eq {nal : Bytes} {codecIsHevc : Bool} {headerSize : ℕ}
    (h : seiHeaderSize nal codecIsHevc = some (some headerSize)) :
    headerSize = if codecIsHevc then 2 else 1 := by
  unfold seiHeaderSize at h
  split_ifs at h with hhevc hshort
  · simp at h
  · obtain ⟨b, -, hb⟩ := Option.map_eq_some_iff.mp h
    split_ifs at hb with htype
    rw [if_pos hhevc, Option.some.inj hb]
  · obtain ⟨b, -, hb⟩ := Option.map_eq_some_iff.mp h
    split_ifs at hb with htype
    rw [if_neg hhevc, Option.some.inj hb]

theorem seiOfNal_messageIn {nal : Bytes} {codecIsHevc : Bool} {sei : UserSEIData}
    (h : sei ∈ seiOfNal nal codecIsHevc) :
    ∃ rbsp, strippedNal nal codecIsHevc = some rbsp ∧ MessageIn rbsp sei := by
  have hparse := parseSeiFromNal_eq nal codecIsHevc
  rw [parseSeiFromNal] at hparse
  split_ifs at hparse with hlen
  · rw [← Option.some.inj hparse] at h
    simp at h
  · obtain ⟨header, hheader, hparse⟩ := Option.bind_eq_some_iff.mp hparse
    cases header with
    | none =>
      rw [← Option.some.inj hparse] at h
      simp at h
    | some headerSize =>
      obtain ⟨rbsp, hrbsp, hparse⟩ := Option.bind_eq_some_iff.mp hparse
      rw [seiHeaderSize_eq hheader] at hrbsp
      refine ⟨rbsp, hrbsp, ?_⟩
      split_ifs at hparse
      · rw [← Option.some.inj hparse] at h
        simp at h
      · exact seiMessagesFrom_messageIn _ 0 [] _ (by simp) hparse sei h

/-- On any packet the parser ends with all its reads in bounds, both splitters cut the packet
into slices in order, and every message returned lies in a unit, without its header and its
emulation prevention bytes, that the splitter of the packet's format has cut. -/
theorem parseSEIFromPacket_safe (packet : Packet) (codecIsHevc : Bool) :
    (∀ data ∈ packet.packet.bind AVPacket.data, (isAnnexBFormat data).isSome ∧
      (∃ nalus, splitAnnexBNalus data = some nalus ∧ Slices data nalus) ∧
      (∃ nalus, splitAvccNalus data = some nalus ∧ Slices data nalus)) ∧
    (∀ nal : Bytes, (removeEPB nal).isSome ∧ (parseSeiFromNal nal codecIsHevc).isSome) ∧
    ∃ seis, parseSEIFromPacket packet codecIsHevc = some seis ∧
      ∀ sei ∈ seis, ∃ data ∈ packet.packet.bind AVPacket.data, ∃ annexB nalus,
        isAnnexBFormat data = some annexB ∧
        (if annexB then splitAnnexBNalus data else splitAvccNalus data) = some nalus ∧
        ∃ nal ∈ nalus, ∃ first last rbsp, range data first last = some nal ∧
          strippedNal nal codecIsHevc = some rbsp ∧ MessageIn rbsp sei := by
  have hsplit (data : Bytes) (hdata : packet.packet.bind AVPacket.data = some data) :
      (∃ nalus, splitAnnexBNalus data = some nalus ∧ Slices data nalus) ∧
      (∃ nalus, splitAvccNalus data = some nalus ∧ Slices data nalus) := by
    obtain ⟨pkt, -, hpkt⟩ := Option.bind_eq_some_iff.mp hdata
    have hsize := pkt.size_le data hpkt
    exact ⟨splitAnnexBNalus_slices (by unfold sizeMax; omega), splitAvccNalus_slices data⟩
  refine ⟨?_, ?_, ?_⟩
  · intro data hdata
    refine ⟨?_, hsplit data hdata⟩
    rw [isAnnexBFormat_eq, Option.isSome_some]
  · intro nal
    exact ⟨removeEPB_isSome nal, parseSeiFromNal_isSome nal codecIsHevc⟩
  · cases hdata : packet.packet.bind AVPacket.data with
    | none =>
      refine ⟨[], ?_, by simp⟩
      rw [parseSEIFromPacket, hdata]
    | some data =>
      by_cases hne : data = []
      · refine ⟨[], ?_, by simp⟩
        simp [parseSEIFromPacket, hdata, hne]
      · obtain ⟨⟨annexB, hannexB, hannexBslices⟩, avcc, havcc, havccslices⟩ := hsplit data hdata
        obtain ⟨isAnnexB, hformat⟩ : ∃ b, isAnnexBFormat data = some b := ⟨_, isAnnexBFormat_eq data⟩
        obtain ⟨nalus, hnalus, hslices⟩ : ∃ nalus,
            (if isAnnexB then splitAnnexBNalus data else splitAvccNalus data) = some nalus ∧
              Slices data nalus := by
          cases isAnnexB with
          | true => exact ⟨annexB, hannexB, hannexBslices⟩
          | false => exact ⟨avcc, havcc, havccslices⟩
        refine ⟨_, parseSEIFromPacket_eq codecIsHevc hdata hne hformat hnalus, ?_⟩
        intro sei hsei
        obtain ⟨nal, hnal, hsei⟩ := List.mem_flatMap.mp hsei
        obtain ⟨first, last, hrange⟩ := hslices.exists_range hnal
        obtain ⟨rbsp, hrbsp, hmessage⟩ := seiOfNal_messageIn hsei
        exact ⟨data, rfl, isAnnexB, nalus, hformat, hnalus, nal, hnal, first, last, rbsp, hrange,
          hrbsp, hmessage⟩

end DecoderSDK.Bitstream
