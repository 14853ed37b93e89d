import DecoderSDK.Bitstream.Sei

/-! # What a framed packet gives back

A NAL unit carries the three conditions of the Annex-B syntax, so a start
code can neither occur inside it nor straddle its end. The splitter then
visits the units one by one, and the last one is the unit it does not
store. A length-prefixed packet is split exactly, provided its first length
field does not itself look like a start code.
-/
namespace DecoderSDK.Bitstream
open Bytes

structure NalUnit where
  bytes : Bytes
  ne_nil : bytes ≠ []
  no_startCode : ∀ p, ¬StartCode3At bytes p
  last_ne_zero : bytes.getLast? ≠ some 0

/-- The three- or four-byte start code. -/
def startCode (long : Bool) : Bytes := if long then [0, 0, 0, 1] else [0, 0, 1]

/-- Every unit behind its start code. -/
def annexB (units : List (Bool × NalUnit)) : Bytes :=
  units.flatMap fun unit => startCode unit.1 ++ unit.2.bytes

@[simp] theorem annexB_nil : annexB [] = [] := rfl

@[simp] theorem annexB_cons (unit : Bool × NalUnit) (units : List (Bool × NalUnit)) :
    annexB (unit :: units) = startCode unit.1 ++ (unit.2.bytes ++ annexB units) := by
  simp [annexB]

theorem startCode_length (long : Bool) : (startCode long).length = if long then 4 else 3 := by
  cases long <;> rfl

theorem getElem?_shift (pre rest : Bytes) (p k : ℕ) :
    (pre ++ rest)[pre.length + p + k]? = rest[p + k]? := by
  rw [List.getElem?_append_right (by omega)]
  congr 1
  omega

theorem startCode3At_shift (pre rest : Bytes) (p : ℕ) :
    StartCode3At (pre ++ rest) (pre.length + p) ↔ StartCode3At rest p := by
  have h0 := getElem?_shift pre rest p 0
  simp only [Nat.add_zero] at h0
  simp only [StartCode3At, h0, getElem?_shift]

theorem startCode4At_shift (pre rest : Bytes) (p : ℕ) :
    StartCode4At (pre ++ rest) (pre.length + p) ↔ StartCode4At rest p := by
  have h0 := getElem?_shift pre rest p 0
  simp only [Nat.add_zero] at h0
  simp only [StartCode4At, h0, getElem?_shift]

theorem startCodeAt_shift (pre rest : Bytes) (p : ℕ) :
    StartCodeAt (pre ++ rest) (pre.length + p) ↔ StartCodeAt rest p := by
  simp only [StartCodeAt, startCode3At_shift, startCode4At_shift]

theorem startCodeAt_startCode (long : Bool) (rest : Bytes) : StartCodeAt (startCode long ++ rest) 0 := by
  cases long
  · exact Or.inr ⟨rfl, rfl, rfl⟩
  · exact Or.inl ⟨rfl, rfl, rfl, rfl⟩

theorem startCode4At_startCode (long : Bool) (rest : Bytes) :
    StartCode4At (startCode long ++ rest) 0 ↔ long = true := by
  cases long <;> simp [StartCode4At, startCode]

namespace NalUnit

theorem last_getElem? (u : NalUnit) (rest : Bytes) :
    (u.bytes ++ rest)[u.bytes.length - 1]? ≠ some 0 := by
  have hpos : 0 < u.bytes.length := List.length_pos_iff.mpr u.ne_nil
  rw [List.getElem?_append_left (by omega), ← List.getLast?_eq_getElem?]
  exact u.last_ne_zero

/-- Whatever follows the unit, no start code begins inside it. -/
theorem not_startCodeAt (u : NalUnit) (rest : Bytes) (p : ℕ) (hp : p < u.bytes.length) :
    ¬StartCodeAt (u.bytes ++ rest) p := by
  have hlast := u.last_getElem? rest
  have hin (k : ℕ) (hk : p + k < u.bytes.length) : (u.bytes ++ rest)[p + k]? = u.bytes[p + k]? :=
    List.getElem?_append_left hk
  have hend (k : ℕ) (hk : p + k = u.bytes.length - 1) (h : (u.bytes ++ rest)[p + k]? = some 0) :
      False := by
    rw [hk] at h
    exact hlast h
  rintro (⟨h0, h1, h2, h3⟩ | ⟨h0, h1, h2⟩)
  · by_cases hfit : p + 3 < u.bytes.length
    · rw [hin 1 (by omega)] at h1
      rw [hin 2 (by omega)] at h2
      rw [hin 3 hfit] at h3
      exact u.no_startCode (p + 1) ⟨h1, h2, h3⟩
    · have hcases : p + 0 = u.bytes.length - 1 ∨ p + 1 = u.bytes.length - 1 ∨
          p + 2 = u.bytes.length - 1 := by omega
      rcases hcases with h | h | h
      · exact hend 0 h h0
      · exact hend 1 h h1
      · exact hend 2 h h2
  · by_cases hfit : p + 2 < u.bytes.length
    · rw [← Nat.add_zero p, hin 0 (by omega)] at h0
      rw [hin 1 (by omega)] at h1
      rw [hin 2 hfit] at h2
      exact u.no_startCode p ⟨h0, h1, h2⟩
    · have hcases : p + 0 = u.bytes.length - 1 ∨ p + 1 = u.bytes.length - 1 := by omega
      rcases hcases with h | h
      · exact hend 0 h h0
      · exact hend 1 h h1

end NalUnit

theorem startCodeAt_annexB (pre : Bytes) (unit : Bool × NalUnit) (units : List (Bool × NalUnit)) :
    StartCodeAt (pre ++ annexB (unit :: units)) pre.length := by
  rw [← Nat.add_zero pre.length, startCodeAt_shift, annexB_cons]
  exact startCodeAt_startCode _ _

theorem startCode_length_annexB (pre : Bytes) (unit : Bool × NalUnit)
    (units : List (Bool × NalUnit)) : (startCode unit.1).length =
      if StartCode4At (pre ++ annexB (unit :: units)) pre.length then 4 else 3 := by
  have h : StartCode4At (pre ++ annexB (unit :: units)) pre.length ↔ unit.1 = true := by
    rw [← Nat.add_zero pre.length, startCode4At_shift, annexB_cons]
    exact startCode4At_startCode _ _
  simp only [h]
  exact startCode_length _

/-- No start code begins inside the first unit behind its own start code. -/
theorem not_startCodeAt_unit {pre : Bytes} {unit : Bool × NalUnit} {units : List (Bool × NalUnit)}
    {i : ℕ} (hi : pre.length + (startCode unit.1).length ≤ i)
    (hlt : i < pre.length + (startCode unit.1).length + unit.2.bytes.length) :
    ¬StartCodeAt (pre ++ annexB (unit :: units)) i := by
  have hsplit : pre ++ annexB (unit :: units) =
      (pre ++ startCode unit.1) ++ (unit.2.bytes ++ annexB units) := by
    simp only [annexB_cons, List.append_assoc]
  obtain ⟨j, rfl⟩ : ∃ j, i = (pre ++ startCode unit.1).length + j :=
    ⟨i - (pre ++ startCode unit.1).length, by simp only [List.length_append]; omega⟩
  rw [hsplit, startCodeAt_shift]
  exact unit.2.not_startCodeAt _ j (by simp only [List.length_append] at hlt; omega)

theorem findStartCode_annexB_last (pre : Bytes) (unit : Bool × NalUnit) :
    findStartCode (pre ++ annexB [unit]) (pre.length + (startCode unit.1).length) =
      some sizeMax := by
  apply findStartCode_none
  intro i hi h
  by_cases hlt : i < pre.length + (startCode unit.1).length + unit.2.bytes.length
  · exact not_startCodeAt_unit hi hlt h
  · have hlen := h.add_three_le
    simp only [annexB_cons, annexB_nil, List.append_nil, List.length_append] at hlen
    omega

theorem findStartCode_annexB_next (pre : Bytes) (unit next : Bool × NalUnit)
    (units : List (Bool × NalUnit)) :
    findStartCode (pre ++ annexB (unit :: next :: units))
        (pre.length + (startCode unit.1).length) =
      some (pre ++ startCode unit.1 ++ unit.2.bytes).length := by
  have hsplit : pre ++ annexB (unit :: next :: units) =
      (pre ++ startCode unit.1 ++ unit.2.bytes) ++ annexB (next :: units) := by
    simp only [annexB_cons, List.append_assoc]
  apply findStartCode_first
  · rw [hsplit]
    exact startCodeAt_annexB _ _ _
  · simp only [List.length_append]
    omega
  · intro i hi hlt
    simp only [List.length_append] at hlt
    exact not_startCodeAt_unit hi hlt

/-- From the start code of a unit up to the end of the packet, every unit but the last is stored. -/
theorem splitAnnexBFrom_annexB (units : List (Bool × NalUnit)) (unit : Bool × NalUnit) (pre : Bytes)
    (nalus : List Bytes) (fuel : ℕ) (hfuel : units.length + 1 < fuel)
    (hsize : (pre ++ annexB (unit :: units)).length < sizeMax) :
    splitAnnexBFrom (pre ++ annexB (unit :: units)) fuel pre.length nalus =
      some (nalus ++ (unit :: units).dropLast.map fun x => x.2.bytes) := by
  induction units generalizing unit pre nalus fuel with
  | nil =>
    obtain ⟨fuel, rfl⟩ : ∃ k, fuel = k + 2 := ⟨fuel - 2, by simp at hfuel; omega⟩
    rw [splitAnnexBFrom_last fuel nalus hsize (startCodeAt_annexB _ _ _) _
      (startCode_length_annexB _ _ _) (findStartCode_annexB_last _ _)]
    simp
  | cons next units ih =>
    obtain ⟨fuel, rfl⟩ : ∃ k, fuel = k + 1 := ⟨fuel - 1, by omega⟩
    have hsplit : pre ++ annexB (unit :: next :: units) =
        (pre ++ startCode unit.1 ++ unit.2.bytes) ++ annexB (next :: units) := by
      simp only [annexB_cons, List.append_assoc]
    have hpos : 0 < unit.2.bytes.length := List.length_pos_iff.mpr unit.2.ne_nil
    have hrange : range (pre ++ annexB (unit :: next :: units))
        (pre.length + (startCode unit.1).length)
        (pre ++ startCode unit.1 ++ unit.2.bytes).length = some unit.2.bytes := by
      rw [hsplit, List.append_assoc]
      exact range_eq_of_append (by simp) (by simp only [List.length_append])
    rw [splitAnnexBFrom_next fuel nalus (startCodeAt_annexB _ _ _) _
      (startCode_length_annexB _ _ _) (findStartCode_annexB_next _ _ _ _)
      (by simp only [List.length_append]; omega) hrange
      (by simp only [hsplit, List.length_append]; omega)]
    rw [hsplit] at hsize ⊢
    rw [ih next _ (nalus ++ [unit.2.bytes]) fuel (by simp at hfuel; omega) hsize]
    simp

theorem length_le_annexB_length (units : List (Bool × NalUnit)) :
    units.length ≤ (annexB units).length := by
  induction units with
  | nil => simp
  | cons unit units ih =>
    have hpos : 0 < unit.2.bytes.length := List.length_pos_iff.mpr unit.2.ne_nil
    simp only [annexB_cons, List.length_append, List.length_cons]
    omega

/-- The splitter returns all units of a packet except the last one. -/
theorem splitAnnexBNalus_annexB (units : List (Bool × NalUnit)) (hne : units ≠ [])
    (hsize : (annexB units).length < sizeMax) :
    splitAnnexBNalus (annexB units) = some (units.dropLast.map fun x => x.2.bytes) := by
  cases units with
  | nil => exact absurd rfl hne
  | cons unit units =>
    have hstart : findStartCode (annexB (unit :: units)) 0 = some 0 := by
      apply findStartCode_first
      · rw [annexB_cons]
        exact startCodeAt_startCode _ _
      · exact le_rfl
      · intro i _ hi
        omega
    have hfuel := length_le_annexB_length (unit :: units)
    have hpos : 0 < unit.2.bytes.length := List.length_pos_iff.mpr unit.2.ne_nil
    have hmore : units.length + 1 < (annexB (unit :: units)).length + 1 := by
      simp only [List.length_cons] at hfuel
      omega
    have h := splitAnnexBFrom_annexB units unit [] [] _ hmore (by simpa using hsize)
    rw [splitAnnexBNalus, hstart, Option.bind_some]
    simpa using h

theorem isAnnexBFormat_annexB (units : List (Bool × NalUnit)) (hne : units ≠ []) :
    isAnnexBFormat (annexB units) = some true := by
  cases units with
  | nil => exact absurd rfl hne
  | cons unit units =>
    have hpos : 0 < unit.2.bytes.length := List.length_pos_iff.mpr unit.2.ne_nil
    have hlen : 4 ≤ (annexB (unit :: units)).length := by
      simp only [annexB_cons, List.length_append, startCode_length]
      split_ifs <;> omega
    rw [isAnnexBFormat_eq]
    simp only [hlen, true_and]
    rw [annexB_cons]
    cases unit.1 <;> simp [startCode]

theorem data_length_lt {packet : Packet} {data : Bytes}
    (hdata : packet.packet.bind AVPacket.data = some data) : data.length < 2 ^ 31 := by
  obtain ⟨avPacket, -, hav⟩ := Option.bind_eq_some_iff.mp hdata
  have := avPacket.size_le data hav
  omega

/-- A packet in Annex-B framing: the last unit is never split off, so the SEI list is
complete exactly when the last unit carries no user message. -/
theorem annexB_packet_sei (packet : Packet) (codecIsHevc : Bool) (units : List (Bool × NalUnit))
    (hne : units ≠ []) (hdata : packet.packet.bind AVPacket.data = some (annexB units)) :
    splitAnnexBNalus (annexB units) ≠ some (units.map fun x => x.2.bytes) ∧
      (parseSEIFromPacket packet codecIsHevc =
          some (units.flatMap fun x => seiOfNal x.2.bytes codecIsHevc) ↔
        seiOfNal (units.getLast hne).2.bytes codecIsHevc = []) := by
  have hlt : (annexB units).length < sizeMax := (data_length_lt hdata).trans (by decide)
  have hsplit := splitAnnexBNalus_annexB units hne hlt
  have hlen := length_le_annexB_length units
  have hpos : 0 < units.length := List.length_pos_iff.mpr hne
  refine ⟨?_, ?_⟩
  · rw [hsplit]
    intro h
    have hl := congrArg List.length (Option.some.inj h)
    simp only [List.length_map, List.length_dropLast] at hl
    omega
  · have hnil : annexB units ≠ [] := List.ne_nil_of_length_pos (by omega)
    rw [parseSEIFromPacket_eq codecIsHevc hdata hnil (isAnnexBFormat_annexB units hne) hsplit]
    have hall : units.flatMap (fun x => seiOfNal x.2.bytes codecIsHevc) =
        units.dropLast.flatMap (fun x => seiOfNal x.2.bytes codecIsHevc) ++
          seiOfNal (units.getLast hne).2.bytes codecIsHevc := by
      conv_lhs => rw [← List.dropLast_append_getLast hne]
      simp only [List.flatMap_append, List.flatMap_singleton]
    rw [hall, List.flatMap_map, Option.some.injEq, List.self_eq_append_right]

/-- Bytes without a zero form a unit. -/
def NalUnit.ofNonzero (bytes : Bytes) (hne : bytes ≠ []) (hzero : 0 ∉ bytes) : NalUnit where
  bytes := bytes
  ne_nil := hne
  no_startCode _ h := hzero (List.mem_of_getElem? h.1)
  last_ne_zero h := hzero (List.mem_of_getLast? h)

/-- A key packet with the given bytes. -/
def keyPacket (data : Bytes) (hsize : data.length ≤ 2 ^ 31 - 1) : Packet :=
  ⟨some ⟨some data, true, 0, AVPacket.size_le_some hsize⟩, 1⟩

/-- An H.264 SEI unit with one user message, whose identifier is sixteen times `0x41` and whose
payload repeats the same byte `n` times. -/
def userSei (n : ℕ) : Bytes :=
  [0x06, 0x05, UInt8.ofNat (16 + n)] ++ List.replicate (16 + n) 0x41 ++ [0x80]

def userSeiUnit : NalUnit := .ofNonzero (userSei 0) (by decide) (by decide)

def sliceUnit : NalUnit := .ofNonzero [0x65, 0x88, 0x84] (by decide) (by decide)

/-- A packet that consists of one SEI unit: the message is lost. -/
theorem annexB_packet_sei_fails :
    parseSEIFromPacket (keyPacket (annexB [(true, userSeiUnit)]) (by decide)) false ≠
        some ([(true, userSeiUnit)].flatMap fun x => seiOfNal x.2.bytes false) ∧
      splitAnnexBNalus (annexB [(true, userSeiUnit)]) ≠ some [userSeiUnit.bytes] := by
  decide

/-- The SEI unit in front of a slice is found. -/
theorem annexB_packet_sei_slice :
    seiOfNal userSeiUnit.bytes false ≠ [] ∧
      parseSEIFromPacket
          (keyPacket (annexB [(true, userSeiUnit), (false, sliceUnit)]) (by decide)) false =
        some ([(true, userSeiUnit), (false, sliceUnit)].flatMap
          fun x => seiOfNal x.2.bytes false) :=
  ⟨by decide, (annexB_packet_sei _ false [(true, userSeiUnit), (false, sliceUnit)] (by decide)
    rfl).2.mpr (by decide)⟩

/-- The first length field reads as a start code for the lengths 1 and 256 to 511. -/
theorem isAnnexBFormat_avcc (units : List Bytes) (hlen : ∀ u ∈ units, u.length < 2 ^ 32) :
    isAnnexBFormat (avcc units) =
      some (decide (∃ u ∈ units.head?, u.length = 1 ∨ (256 ≤ u.length ∧ u.length ≤ 511))) := by
  cases units with
  | nil => rfl
  | cons u units =>
    have hu := hlen u (by simp)
    have htotal : 4 ≤ (avcc (u :: units)).length := by
      simp only [avcc_cons, List.length_append, lengthField_length]
      omega
    rw [isAnnexBFormat_eq]
    simp only [htotal, true_and]
    simp only [avcc_cons, lengthField, List.cons_append, List.getElem?_cons_zero,
      List.getElem?_cons_succ, Option.some.injEq, List.head?_cons, Option.mem_def,
      exists_eq_left', decide_eq_decide, ← UInt8.toNat_inj, UInt8.toNat_ofNat']
    simp only [UInt8.reduceToNat]
    omega

/-- A length-prefixed packet: detection and SEI list are right exactly when the first unit
has a length that does not look like a start code. -/
theorem avcc_packet_sei (packet : Packet) (codecIsHevc : Bool) (units : List Bytes)
    (hdata : packet.packet.bind AVPacket.data = some (avcc units)) :
    (isAnnexBFormat (avcc units) = some false ∧ parseSEIFromPacket packet codecIsHevc =
        some (units.flatMap fun u => seiOfNal u codecIsHevc)) ↔
      ∀ u ∈ units.head?, u.length ≠ 1 ∧ ¬(256 ≤ u.length ∧ u.length ≤ 511) := by
  have hlen : ∀ u ∈ units, u.length < 2 ^ 32 := by
    intro u hu
    have h1 := mem_length_le_avcc_length hu
    have h2 := data_length_lt hdata
    omega
  have hformat := isAnnexBFormat_avcc units hlen
  constructor
  · rintro ⟨hfalse, -⟩ u hu
    rw [hformat, Option.some.injEq, decide_eq_false_iff_not] at hfalse
    exact ⟨fun h => hfalse ⟨u, hu, Or.inl h⟩, fun h => hfalse ⟨u, hu, Or.inr h⟩⟩
  · intro hok
    have hfalse : isAnnexBFormat (avcc units) = some false := by
      rw [hformat, Option.some.injEq, decide_eq_false_iff_not]
      rintro ⟨u, hu, h | h⟩
      · exact (hok u hu).1 h
      · exact (hok u hu).2 h
    refine ⟨hfalse, ?_⟩
    by_cases hnil : units = []
    · subst hnil
      simp [parseSEIFromPacket, hdata]
    · have hbytes : avcc units ≠ [] := List.ne_nil_of_length_pos
        ((List.length_pos_iff.mpr hnil).trans_le (length_le_avcc_length units))
      exact parseSEIFromPacket_eq codecIsHevc hdata hbytes hfalse
        (by simpa using splitAvccNalus_avcc units hlen)

/-- The unit has 257 bytes, and its length field `00 00 01 01` is taken for a start code. -/
theorem avcc_packet_sei_fails :
    isAnnexBFormat (avcc [userSei 237]) = some true ∧
      parseSEIFromPacket (keyPacket (avcc [userSei 237]) (by decide +kernel)) false ≠
        some ([userSei 237].flatMap fun u => seiOfNal u false) := by
  have hformat : isAnnexBFormat (avcc [userSei 237]) = some true := by decide +kernel
  refine ⟨hformat, ?_⟩
  -- The rest of the length field and the unit are taken for one unit, which is the last.
  let unit : NalUnit := .ofNonzero (0x01 :: userSei 237) (by simp) (by decide +kernel)
  have hbytes : avcc [userSei 237] = annexB [(false, unit)] := by decide +kernel
  have hsplit : splitAnnexBNalus (avcc [userSei 237]) = some [] := by
    rw [hbytes]
    exact splitAnnexBNalus_annexB [(false, unit)] (by simp) (by decide +kernel)
  rw [parseSEIFromPacket_eq false rfl (by simp [hbytes, annexB, startCode]) hformat hsplit]
  have hmessage : seiOfNal (userSei 237) false ≠ [] := by decide +kernel
  simpa using hmessage.symm

theorem avcc_packet_sei_slice :
    seiOfNal (userSei 0) false ≠ [] ∧
      parseSEIFromPacket (keyPacket (avcc [userSei 0, [0x65, 0x88, 0x84]]) (by decide)) false =
        some ([userSei 0, [0x65, 0x88, 0x84]].flatMap fun u => seiOfNal u false) :=
  ⟨by decide, ((avcc_packet_sei _ false [userSei 0, [0x65, 0x88, 0x84]] rfl).mpr (by decide)).2⟩

end DecoderSDK.Bitstream
