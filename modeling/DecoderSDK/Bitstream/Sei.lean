import DecoderSDK.Bitstream.StartCodes
import DecoderSDK.Bitstream.Avcc

/-! # SEI messages of a NAL unit and of a packet

Emulation prevention bytes are removed from the payload of an SEI unit, and
the messages are read in order. Types and sizes are accumulated in 32-bit
counters. Only `user_data_unregistered` messages with a complete identifier
are returned.
-/
namespace DecoderSDK.Bitstream
open Bytes

structure UserSEIData where
  uuid : Bytes
  payload : Bytes
  uuid_length : uuid.length = 16
  deriving DecidableEq

def removeEPBFrom (data : Bytes) : ℕ → ℕ → Bytes → Option Bytes
  | 0, _, _ => none
  | fuel + 1, i, out =>
    if i < data.length then
      (both (some (decide (i + 2 < data.length))) (both (test data i 0)
        (both (test data (i + 1) 0) (test data (i + 2) 3)))).bind fun epb =>
          if epb then removeEPBFrom data fuel (i + 3) (out ++ [0, 0])
          else (readAt data i).bind fun b => removeEPBFrom data fuel (i + 1) (out ++ [b])
    else some out

def removeEPB (data : Bytes) : Option Bytes := removeEPBFrom data (data.length + 1) 0 []

/-- The `0xFF`-terminated accumulation used for payload types and sizes. -/
def readCoded (rbsp : Bytes) : ℕ → ℕ → ℕ → Option (ℕ × ℕ)
  | 0, _, _ => none
  | fuel + 1, off, value =>
    if off < rbsp.length then
      (readAt rbsp off).bind fun b =>
        if b ≠ 0xFF then some ((value + b.toNat) % 2 ^ 32, off + 1)
        else readCoded rbsp fuel (off + 1) ((value + b.toNat) % 2 ^ 32)
    else some (value, off)

/-- Copy the identifier and the rest of a `user_data_unregistered` payload. -/
def userSEIDataAt (rbsp : Bytes) (off payloadSize : ℕ) : Option UserSEIData :=
  if h : 16 ≤ payloadSize ∧ off + payloadSize ≤ rbsp.length then
    some ⟨(rbsp.drop off).take 16, (rbsp.drop (off + 16)).take (payloadSize - 16), by
      simp only [List.length_take, List.length_drop]
      omega⟩
  else none

def seiMessagesFrom (rbsp : Bytes) : ℕ → ℕ → List UserSEIData → Option (List UserSEIData)
  | 0, _, _ => none
  | fuel + 1, off, results =>
    if off + 2 < rbsp.length then
      (readCoded rbsp (rbsp.length + 1) off 0).bind fun type =>
        (readCoded rbsp (rbsp.length + 1) type.2 0).bind fun size =>
          if rbsp.length < size.2 + size.1 then some results
          else (if type.1 = 5 ∧ 16 ≤ size.1 then
              (userSEIDataAt rbsp size.2 size.1).map fun sei => results ++ [sei]
            else some results).bind fun results =>
              seiMessagesFrom rbsp fuel (size.2 + size.1) results
    else some results

/-- Header length of an SEI unit, or nothing for any other unit. -/
def seiHeaderSize (nal : Bytes) (codecIsHevc : Bool) : Option (Option ℕ) :=
  if codecIsHevc then
    if nal.length < 2 then some none
    else (readAt nal 0).map fun (b : UInt8) =>
      if (b >>> 1) &&& 0x3F ≠ 39 ∧ (b >>> 1) &&& 0x3F ≠ 40 then none else some 2
  else (readAt nal 0).map fun (b : UInt8) => if b &&& 0x1F ≠ 6 then none else some 1

def parseSeiFromNal (nal : Bytes) (codecIsHevc : Bool) : Option (List UserSEIData) :=
  if nal.length = 0 then some []
  else (seiHeaderSize nal codecIsHevc).bind fun header =>
    match header with
    | none => some []
    | some headerSize => (removeEPB (nal.drop headerSize)).bind fun rbsp =>
        if rbsp = [] then some [] else seiMessagesFrom rbsp (rbsp.length + 1) 0 []

def parseNalus (codecIsHevc : Bool) : List Bytes → List UserSEIData → Option (List UserSEIData)
  | [], results => some results
  | nalu :: nalus, results =>
    (parseSeiFromNal nalu codecIsHevc).bind fun seis => parseNalus codecIsHevc nalus (results ++ seis)

def parseSEIFromPacket (packet : Packet) (codecIsHevc : Bool) : Option (List UserSEIData) :=
  match packet.packet.bind AVPacket.data with
  | none => some []
  | some data =>
    if data.length = 0 then some []
    else (isAnnexBFormat data).bind fun isAnnexB =>
      (if isAnnexB then splitAnnexBNalus data else splitAvccNalus data).bind fun nalus =>
        parseNalus codecIsHevc nalus []

theorem removeEPBFrom_isSome (data : Bytes) (d fuel i : ℕ) (out : Bytes)
    (hd : data.length ≤ i + d) (hfuel : d < fuel) : (removeEPBFrom data fuel i out).isSome := by
  induction d using Nat.strong_induction_on generalizing fuel i out with
  | _ d ih =>
    obtain ⟨fuel, rfl⟩ : ∃ k, fuel = k + 1 := ⟨fuel - 1, by omega⟩
    rw [removeEPBFrom]
    split_ifs with hi
    · have hstep (k : ℕ) (out' : Bytes) (hk : 0 < k) :
          (removeEPBFrom data fuel (i + k) out').isSome :=
        ih (d - k) (by omega) fuel (i + k) out' (by omega) (by omega)
      have hread : readAt data i = some data[i] := by simp [readAt, hi]
      by_cases h2 : i + 2 < data.length
      · simp only [h2, decide_true, both_some, if_true]
        rw [test_eq _ hi, test_eq _ (by omega), test_eq _ (by omega),
          both_decide fun _ => both_decide fun _ => rfl, Option.bind_some, hread]
        split_ifs
        · exact hstep 3 _ (by omega)
        · exact hstep 1 _ (by omega)
      · simp only [h2, decide_false, both_some, Bool.false_eq_true, if_false, Option.bind_some, hread]
        exact hstep 1 _ (by omega)
    · rfl

theorem removeEPB_isSome (data : Bytes) : (removeEPB data).isSome :=
  removeEPBFrom_isSome data data.length _ 0 [] (by omega) (by omega)

theorem readCoded_spec (rbsp : Bytes) (d fuel off value : ℕ) (hd : rbsp.length ≤ off + d)
    (hfuel : d < fuel) :
    ∃ r, readCoded rbsp fuel off value = some r ∧ off ≤ r.2 ∧ (off < rbsp.length → off < r.2) := by
  induction d generalizing fuel off value with
  | zero =>
    obtain ⟨fuel, rfl⟩ : ∃ k, fuel = k + 1 := ⟨fuel - 1, by omega⟩
    refine ⟨(value, off), ?_, le_rfl, by omega⟩
    rw [readCoded, if_neg (by omega)]
  | succ d ih =>
    obtain ⟨fuel, rfl⟩ : ∃ k, fuel = k + 1 := ⟨fuel - 1, by omega⟩
    rw [readCoded]
    by_cases hoff : off < rbsp.length
    · have hread : readAt rbsp off = some rbsp[off] := by simp [readAt, hoff]
      rw [if_pos hoff, hread, Option.bind_some]
      split_ifs with hb
      · exact ⟨_, rfl, by simp, by simp⟩
      · obtain ⟨r, hr, hle, -⟩ := ih fuel (off + 1) ((value + rbsp[off].toNat) % 2 ^ 32)
          (by omega) (by omega)
        exact ⟨r, hr, by omega, by omega⟩
    · rw [if_neg hoff]
      exact ⟨(value, off), rfl, le_rfl, by omega⟩

theorem seiMessagesFrom_isSome (rbsp : Bytes) (d fuel off : ℕ) (results : List UserSEIData)
    (hd : rbsp.length ≤ off + d) (hfuel : d < fuel) :
    (seiMessagesFrom rbsp fuel off results).isSome := by
  induction d using Nat.strong_induction_on generalizing fuel off results with
  | _ d ih =>
    obtain ⟨fuel, rfl⟩ : ∃ k, fuel = k + 1 := ⟨fuel - 1, by omega⟩
    rw [seiMessagesFrom]
    split_ifs with hoff
    · obtain ⟨type, htype, -, hlt⟩ := readCoded_spec rbsp rbsp.length (rbsp.length + 1) off 0
        (by omega) (by omega)
      obtain ⟨size, hsize, hle, -⟩ := readCoded_spec rbsp rbsp.length (rbsp.length + 1) type.2 0
        (by omega) (by omega)
      have hgt := hlt (by omega)
      rw [htype, Option.bind_some, hsize, Option.bind_some]
      split_ifs with hbig huser
      · rfl
      · rw [userSEIDataAt, dif_pos ⟨huser.2, by omega⟩, Option.map_some, Option.bind_some]
        exact ih (d - (size.2 + size.1 - off)) (by omega) fuel _ _ (by omega) (by omega)
      · rw [Option.bind_some]
        exact ih (d - (size.2 + size.1 - off)) (by omega) fuel _ _ (by omega) (by omega)
    · rfl

/-- On every unit the parser ends, and all its reads are inside the unit. -/
theorem parseSeiFromNal_isSome (nal : Bytes) (codecIsHevc : Bool) :
    (parseSeiFromNal nal codecIsHevc).isSome := by
  rw [parseSeiFromNal]
  split_ifs with hlen
  · rfl
  · have hread : readAt nal 0 = some nal[0] := by simp [readAt]
    obtain ⟨header, hheader⟩ : ∃ header, seiHeaderSize nal codecIsHevc = some header := by
      cases codecIsHevc with
      | false => simp [seiHeaderSize, hread]
      | true =>
        by_cases h2 : nal.length < 2
        · simp [seiHeaderSize, h2]
        · simp [seiHeaderSize, h2, hread]
    rw [hheader, Option.bind_some]
    cases header with
    | none => rfl
    | some headerSize =>
      obtain ⟨rbsp, hrbsp⟩ := Option.isSome_iff_exists.mp (removeEPB_isSome (nal.drop headerSize))
      simp only [hrbsp, Option.bind_some]
      split_ifs
      · rfl
      · exact seiMessagesFrom_isSome rbsp rbsp.length _ 0 [] (by omega) (by omega)

/-- The messages that `parseSeiFromNal` returns for a unit. -/
def seiOfNal (nal : Bytes) (codecIsHevc : Bool) : List UserSEIData :=
  (parseSeiFromNal nal codecIsHevc).get (parseSeiFromNal_isSome nal codecIsHevc)

@[simp] theorem parseSeiFromNal_eq (nal : Bytes) (codecIsHevc : Bool) :
    parseSeiFromNal nal codecIsHevc = some (seiOfNal nal codecIsHevc) :=
  (Option.some_get _).symm

theorem parseNalus_eq (codecIsHevc : Bool) (nalus : List Bytes) (results : List UserSEIData) :
    parseNalus codecIsHevc nalus results =
      some (results ++ nalus.flatMap fun nalu => seiOfNal nalu codecIsHevc) := by
  induction nalus generalizing results with
  | nil => simp [parseNalus]
  | cons nalu nalus ih => simp [parseNalus, ih]

/-- What the packet parser returns once the framing is decided and the packet split. -/
theorem parseSEIFromPacket_eq {packet : Packet} {data : Bytes} {nalus : List Bytes} {isAnnexB : Bool}
    (codecIsHevc : Bool) (hdata : packet.packet.bind AVPacket.data = some data) (hne : data ≠ [])
    (hformat : isAnnexBFormat data = some isAnnexB)
    (hsplit : (if isAnnexB then splitAnnexBNalus data else splitAvccNalus data) = some nalus) :
    parseSEIFromPacket packet codecIsHevc =
      some (nalus.flatMap fun nalu => seiOfNal nalu codecIsHevc) := by
  rw [parseSEIFromPacket, hdata]
  simp only [List.length_eq_zero_iff, hne, if_false, hformat, Option.bind_some, hsplit,
    parseNalus_eq, List.nil_append]

end DecoderSDK.Bitstream
