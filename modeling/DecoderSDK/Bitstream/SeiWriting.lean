import DecoderSDK.Bitstream.Sei

/-! # SEI units as the standard writes them

A message is its type and its payload; a unit holds messages one after the
other and a trailing byte. Reading a written unit gives back the user messages
in order, whatever stands between them.
-/
namespace DecoderSDK.Bitstream
open Bytes

/-- Emulation prevention: after two zero bytes, a byte up to three is preceded by a three. The
number counts the zero bytes just written. -/
def escapeFrom : ℕ → Bytes → Bytes
  | _, [] => []
  | zeros, b :: rest =>
    if zeros = 2 ∧ b ≤ 3 then 3 :: b :: escapeFrom (if b = 0 then 1 else 0) rest
    else b :: escapeFrom (if b = 0 then zeros + 1 else 0) rest

def escape (bytes : Bytes) : Bytes := escapeFrom 0 bytes

/-- A type or a size: bytes `0xFF`, then a byte below `0xFF`. -/
def coded (n : ℕ) : Bytes := List.replicate (n / 255) 0xFF ++ [UInt8.ofNat (n % 255)]

structure SeiMessage where
  type : ℕ
  payload : Bytes
  type_lt : type < 2 ^ 32

namespace SeiMessage

def bytes (m : SeiMessage) : Bytes := coded m.type ++ coded m.payload.length ++ m.payload

/-- The user data of a message of type 5 with a complete identifier. -/
def userData (m : SeiMessage) : Option UserSEIData :=
  if h : m.type = 5 ∧ 16 ≤ m.payload.length then
    some ⟨m.payload.take 16, m.payload.drop 16, by
      rw [List.length_take, min_eq_left h.2]⟩
  else none

end SeiMessage

/-- The messages and the trailing byte. -/
def seiRbsp (messages : List SeiMessage) : Bytes := messages.flatMap SeiMessage.bytes ++ [0x80]

/-- The header bytes make the unit an SEI unit. -/
def IsSeiHeader : Bool → Bytes → Prop
  | false, header => ∃ b : UInt8, header = [b] ∧ b &&& 0x1F = 6
  | true, header => ∃ b c : UInt8, header = [b, c] ∧
      ((b >>> 1) &&& 0x3F = 39 ∨ (b >>> 1) &&& 0x3F = 40) ∧ c ≠ 0

/-- The first byte gives the unit another type. -/
def IsOtherUnit (codecIsHevc : Bool) (nal : Bytes) : Prop :=
  ∀ b ∈ nal.head?, if codecIsHevc then (b >>> 1) &&& 0x3F ≠ 39 ∧ (b >>> 1) &&& 0x3F ≠ 40
    else b &&& 0x1F ≠ 6

/-- What `removeEPB` computes, on the rest of the unit. -/
def unescape : Bytes → Bytes
  | 0 :: 0 :: 3 :: rest => 0 :: 0 :: unescape rest
  | b :: rest => b :: unescape rest
  | [] => []

theorem unescape_cons {b : UInt8} (hb : b ≠ 0) (rest : Bytes) :
    unescape (b :: rest) = b :: unescape rest := by
  rw [unescape]
  intro rest' h
  exact absurd h hb

theorem unescape_zero_cons {b : UInt8} (hb : b ≠ 0) (rest : Bytes) :
    unescape (0 :: b :: rest) = 0 :: b :: unescape rest := by
  rw [unescape, unescape_cons hb]
  intro rest' _ h
  rw [List.cons.injEq] at h
  exact absurd h.1 hb

theorem unescape_zeros_cons {b : UInt8} (hb : b ≠ 0) (hb' : b ≠ 3) (rest : Bytes) :
    unescape (0 :: 0 :: b :: rest) = 0 :: 0 :: b :: unescape rest := by
  rw [unescape, unescape_zero_cons hb]
  intro rest' _ h
  rw [List.cons.injEq, List.cons.injEq] at h
  exact absurd h.2.1 hb'

/-- The zero bytes that `escapeFrom` has counted stand in front of what it writes. -/
theorem unescape_escapeFrom (zeros : ℕ) (bytes : Bytes) (h : zeros ≤ 2) :
    unescape (List.replicate zeros 0 ++ escapeFrom zeros bytes) =
      List.replicate zeros 0 ++ bytes := by
  induction bytes generalizing zeros with
  | nil =>
    have hcases : zeros = 0 ∨ zeros = 1 ∨ zeros = 2 := by omega
    rcases hcases with rfl | rfl | rfl
    · rfl
    · rfl
    · rfl
  | cons b rest ih =>
    rw [escapeFrom]
    by_cases hb : b = 0
    · subst hb
      by_cases hzeros : zeros = 2
      · subst hzeros
        have hrest := ih 1 (by omega)
        simp only [List.replicate, List.cons_append, List.nil_append] at hrest
        simp [List.replicate, unescape, hrest]
      · have hrest := ih (zeros + 1) (by omega)
        rw [List.replicate_succ', List.append_assoc, List.append_assoc] at hrest
        simpa [hzeros] using hrest
    · have hrest := ih 0 (by omega)
      rw [List.replicate_zero, List.nil_append, List.nil_append] at hrest
      have hcases : zeros = 0 ∨ zeros = 1 ∨ zeros = 2 := by omega
      rcases hcases with rfl | rfl | rfl
      · simp [hb, unescape_cons hb, hrest]
      · simp [hb, unescape_zero_cons hb, hrest]
      · by_cases hsmall : b ≤ 3
        · simp [hb, hsmall, List.replicate, unescape, unescape_cons hb, hrest]
        · have hthree : b ≠ 3 := by
            rintro rfl
            exact hsmall (by decide)
          simp [hb, hsmall, List.replicate, unescape_zeros_cons hb hthree, hrest]

/-- The test for an emulation prevention byte at a place of the unit. -/
def epbAt (data : Bytes) (i : ℕ) : Option Bool :=
  both (some (decide (i + 2 < data.length))) (both (test data i 0)
    (both (test data (i + 1) 0) (test data (i + 2) 3)))

theorem epbAt_true {data rest : Bytes} {i : ℕ} (h : data.drop i = 0 :: 0 :: 3 :: rest) :
    epbAt data i = some true := by
  have hlength := congrArg List.length h
  simp only [List.length_drop, List.length_cons] at hlength
  have hat (k : ℕ) : data[i + k]? = (0 :: 0 :: 3 :: rest)[k]? := by
    rw [← h, List.getElem?_drop]
  have h0 := hat 0
  have h1 := hat 1
  have h2 := hat 2
  simp only [Nat.add_zero, List.getElem?_cons_zero, List.getElem?_cons_succ] at h0 h1 h2
  have hbound : i + 2 < data.length := by omega
  simp only [epbAt, hbound, test, readAt, h0, h1, h2, decide_true, Option.map_some, both_some,
    if_true]

theorem epbAt_false {data : Bytes} {i : ℕ} (hi : i < data.length)
    (h : ∀ rest, data.drop i ≠ 0 :: 0 :: 3 :: rest) : epbAt data i = some false := by
  by_cases h2 : i + 2 < data.length
  · have hdrop : data.drop i = data[i] :: data[i + 1] :: data[i + 2] :: data.drop (i + 3) := by
      rw [List.drop_eq_getElem_cons hi, List.drop_eq_getElem_cons (by omega : i + 1 < data.length),
        List.drop_eq_getElem_cons h2]
    rw [epbAt, test_eq _ hi, test_eq _ (by omega), test_eq _ h2,
      both_decide fun _ => both_decide fun _ => both_decide fun _ => rfl, Option.some.injEq,
      decide_eq_false_iff_not]
    rintro ⟨-, h0, h1, h3⟩
    rw [List.getElem?_eq_getElem hi, Option.some.injEq] at h0
    rw [List.getElem?_eq_getElem (by omega), Option.some.injEq] at h1
    rw [List.getElem?_eq_getElem h2, Option.some.injEq] at h3
    rw [h0, h1, h3] at hdrop
    exact h _ hdrop
  · simp [epbAt, h2]

theorem unescape_of_not_epb {b : UInt8} {rest : Bytes}
    (h : ∀ rest', b :: rest ≠ 0 :: 0 :: 3 :: rest') :
    unescape (b :: rest) = b :: unescape rest := by
  rw [unescape]
  rintro rest' rfl rfl
  exact h rest' rfl

/-- `removeEPBFrom` copies the rest of the unit without its emulation prevention bytes. -/
theorem removeEPBFrom_eq (data : Bytes) (d fuel i : ℕ) (out : Bytes)
    (hd : data.length ≤ i + d) (hfuel : d < fuel) :
    removeEPBFrom data fuel i out = some (out ++ unescape (data.drop i)) := by
  induction d using Nat.strong_induction_on generalizing fuel i out with
  | _ d ih =>
    obtain ⟨fuel, rfl⟩ : ∃ k, fuel = k + 1 := ⟨fuel - 1, by omega⟩
    rw [removeEPBFrom]
    change (if i < data.length then (epbAt data i).bind _ else _) = _
    by_cases hi : i < data.length
    · rw [if_pos hi]
      by_cases hepb : ∃ rest, data.drop i = 0 :: 0 :: 3 :: rest
      · rcases hepb with ⟨rest, hrest⟩
        have hlength := congrArg List.length hrest
        simp only [List.length_drop, List.length_cons] at hlength
        have hafter : data.drop (i + 3) = rest := by
          rw [← List.drop_drop, hrest]
          rfl
        rw [epbAt_true hrest, Option.bind_some, if_pos rfl,
          ih (d - 3) (by omega) fuel (i + 3) _ (by omega) (by omega), hafter, hrest, unescape]
        simp
      · rw [not_exists] at hepb
        have hcons : data.drop i = data[i] :: data.drop (i + 1) := List.drop_eq_getElem_cons hi
        have hread : readAt data i = some data[i] := by simp [readAt, hi]
        rw [epbAt_false hi hepb, Option.bind_some, if_neg Bool.false_ne_true, hread,
          Option.bind_some, ih (d - 1) (by omega) fuel (i + 1) _ (by omega) (by omega), hcons,
          unescape_of_not_epb (by rw [← hcons]; exact hepb)]
        simp
    · have hnil : data.drop i = [] := List.drop_eq_nil_of_le (by omega)
      rw [if_neg hi, hnil, unescape, List.append_nil]

theorem removeEPB_eq (data : Bytes) : removeEPB data = some (unescape data) := by
  rw [removeEPB, removeEPBFrom_eq data data.length _ 0 [] (by omega) (by omega)]
  rfl

theorem removeEPB_escape (bytes : Bytes) : removeEPB (escape bytes) = some bytes := by
  rw [removeEPB_eq]
  exact congrArg some (unescape_escapeFrom 0 bytes (by omega))

theorem length_le_escapeFrom (zeros : ℕ) (bytes : Bytes) :
    bytes.length ≤ (escapeFrom zeros bytes).length := by
  induction bytes generalizing zeros with
  | nil => exact Nat.zero_le _
  | cons b rest ih =>
    rw [escapeFrom]
    split
    · have hrest := ih (if b = 0 then 1 else 0)
      simp only [List.length_cons]
      omega
    · have hrest := ih (if b = 0 then zeros + 1 else 0)
      simp only [List.length_cons]
      omega

theorem coded_length_pos (n : ℕ) : 0 < (coded n).length := by
  simp [coded]

/-- The accumulation runs over the bytes `0xFF` and ends with the next one. -/
theorem readCoded_replicate {rbsp post : Bytes} {b : UInt8} (hb : b ≠ 0xFF) (k fuel off value : ℕ)
    (hrbsp : rbsp.drop off = List.replicate k 0xFF ++ b :: post) (hfuel : k < fuel)
    (hlt : value + 255 * k + b.toNat < 2 ^ 32) :
    readCoded rbsp fuel off value = some (value + 255 * k + b.toNat, off + k + 1) := by
  induction k generalizing fuel off value with
  | zero =>
    obtain ⟨fuel, rfl⟩ : ∃ n, fuel = n + 1 := ⟨fuel - 1, by omega⟩
    rw [List.replicate_zero, List.nil_append] at hrbsp
    have hoff : off < rbsp.length := by
      by_contra hnot
      rw [List.drop_eq_nil_of_le (by omega)] at hrbsp
      cases hrbsp
    have hread : readAt rbsp off = some b := by
      rw [readAt, ← List.head?_drop, hrbsp, List.head?_cons]
    rw [readCoded, if_pos hoff, hread, Option.bind_some, if_pos hb, Nat.mod_eq_of_lt (by omega)]
    simp
  | succ k ih =>
    obtain ⟨fuel, rfl⟩ : ∃ n, fuel = n + 1 := ⟨fuel - 1, by omega⟩
    rw [List.replicate_succ, List.cons_append] at hrbsp
    have hoff : off < rbsp.length := by
      by_contra hnot
      rw [List.drop_eq_nil_of_le (by omega)] at hrbsp
      cases hrbsp
    have hread : readAt rbsp off = some 0xFF := by
      rw [readAt, ← List.head?_drop, hrbsp, List.head?_cons]
    have hnext : rbsp.drop (off + 1) = List.replicate k 0xFF ++ b :: post := by
      rw [← List.drop_drop, hrbsp]
      rfl
    have h255 : (0xFF : UInt8).toNat = 255 := rfl
    rw [readCoded, if_pos hoff, hread, Option.bind_some, if_neg (not_not.mpr rfl), h255,
      Nat.mod_eq_of_lt (by omega), ih fuel (off + 1) (value + 255) hnext (by omega) (by omega)]
    congr 2
    · omega
    · omega

/-- A coded number is read back, and the offset goes behind it. -/
theorem readCoded_coded {rbsp post : Bytes} {n off fuel : ℕ}
    (hrbsp : rbsp.drop off = coded n ++ post) (hfuel : n / 255 < fuel) (hn : n < 2 ^ 32) :
    readCoded rbsp fuel off 0 = some (n, off + (coded n).length) := by
  have hlast : (UInt8.ofNat (n % 255)).toNat = n % 255 := by
    rw [UInt8.toNat_ofNat', Nat.mod_eq_of_lt (by omega)]
  have hne : UInt8.ofNat (n % 255) ≠ 0xFF := by
    intro h
    have h255 := congrArg UInt8.toNat h
    rw [hlast] at h255
    have hff : (0xFF : UInt8).toNat = 255 := rfl
    omega
  rw [coded, List.append_assoc, List.singleton_append] at hrbsp
  have hvalue : 0 + 255 * (n / 255) + n % 255 = n := by omega
  have hread := readCoded_replicate hne (n / 255) fuel off 0 hrbsp hfuel (by rw [hlast]; omega)
  rw [hread, hlast, hvalue]
  simp [coded, Nat.add_assoc]

/-- The rest of a unit behind what was read. -/
theorem drop_append_length {rbsp mid post : Bytes} {off : ℕ} (h : rbsp.drop off = mid ++ post) :
    rbsp.drop (off + mid.length) = post := by
  rw [← List.drop_drop, h, List.drop_left]

theorem userSEIDataAt_payload {rbsp post : Bytes} {m : SeiMessage} {off : ℕ}
    (hrbsp : rbsp.drop off = m.payload ++ post) (h : m.type = 5 ∧ 16 ≤ m.payload.length) :
    userSEIDataAt rbsp off m.payload.length = m.userData := by
  have hlength := congrArg List.length hrbsp
  simp only [List.length_drop, List.length_append] at hlength
  have htake : (rbsp.drop off).take 16 = m.payload.take 16 := by
    rw [hrbsp, List.take_append_of_le_length h.2]
  have hdrop : (rbsp.drop (off + 16)).take (m.payload.length - 16) = m.payload.drop 16 := by
    rw [← List.drop_drop, hrbsp, List.drop_append_of_le_length h.2, ← List.length_drop,
      List.take_left]
  rw [userSEIDataAt, dif_pos ⟨h.2, by omega⟩, SeiMessage.userData, dif_pos h]
  simp only [htake, hdrop]

/-- One message is read, and the offset goes behind it. -/
theorem seiMessagesFrom_cons {rbsp post : Bytes} {m : SeiMessage} {off : ℕ} (fuel : ℕ)
    (results : List UserSEIData) (hrbsp : rbsp.drop off = m.bytes ++ post)
    (hpost : 0 < post.length) (hlength : rbsp.length < 2 ^ 31) :
    seiMessagesFrom rbsp (fuel + 1) off results =
      seiMessagesFrom rbsp fuel (off + m.bytes.length) (results ++ m.userData.toList) := by
  have htotal := congrArg List.length hrbsp
  rw [SeiMessage.bytes, List.append_assoc, List.append_assoc] at hrbsp
  have hsize := drop_append_length hrbsp
  have hpayload := drop_append_length hsize
  simp only [SeiMessage.bytes, List.length_drop, List.length_append] at htotal
  have htype : (coded m.type).length = m.type / 255 + 1 := by simp [coded]
  have hcode : (coded m.payload.length).length = m.payload.length / 255 + 1 := by simp [coded]
  have hbound : off + 2 < rbsp.length := by omega
  have hfits : ¬rbsp.length < off + (coded m.type).length + (coded m.payload.length).length +
      m.payload.length := by omega
  have hoff : off + (coded m.type).length + (coded m.payload.length).length + m.payload.length =
      off + m.bytes.length := by
    simp only [SeiMessage.bytes, List.length_append]
    omega
  rw [seiMessagesFrom, if_pos hbound, readCoded_coded hrbsp (by omega) m.type_lt,
    Option.bind_some, readCoded_coded hsize (by omega) (by omega), Option.bind_some,
    if_neg hfits, hoff]
  by_cases huser : m.type = 5 ∧ 16 ≤ m.payload.length
  · have hdata := userSEIDataAt_payload hpayload huser
    rw [SeiMessage.userData, dif_pos huser] at hdata ⊢
    rw [if_pos huser, hdata]
    rfl
  · rw [if_neg huser, SeiMessage.userData, dif_neg huser, Option.bind_some, Option.toList_none,
      List.append_nil]

theorem seiMessagesFrom_seiRbsp {rbsp : Bytes} (messages : List SeiMessage) {fuel off : ℕ}
    (results : List UserSEIData) (hrbsp : rbsp.drop off = seiRbsp messages)
    (hfuel : messages.length < fuel) (hlength : rbsp.length < 2 ^ 31) :
    seiMessagesFrom rbsp fuel off results =
      some (results ++ messages.filterMap SeiMessage.userData) := by
  induction messages generalizing fuel off results with
  | nil =>
    obtain ⟨fuel, rfl⟩ : ∃ n, fuel = n + 1 := ⟨fuel - 1, by omega⟩
    have hone := congrArg List.length hrbsp
    simp only [seiRbsp, List.flatMap_nil, List.nil_append, List.length_drop,
      List.length_singleton] at hone
    rw [seiMessagesFrom, if_neg (by omega), List.filterMap_nil, List.append_nil]
  | cons m messages ih =>
    obtain ⟨fuel, rfl⟩ : ∃ n, fuel = n + 1 := ⟨fuel - 1, by omega⟩
    have hcons : rbsp.drop off = m.bytes ++ seiRbsp messages := by
      rw [hrbsp, seiRbsp, List.flatMap_cons, List.append_assoc, seiRbsp]
    rw [seiMessagesFrom_cons fuel results hcons (by simp [seiRbsp]) hlength,
      ih _ (drop_append_length hcons) (Nat.lt_of_succ_lt_succ hfuel)]
    cases huser : m.userData with
    | none => rw [List.filterMap_cons_none huser, Option.toList_none, List.append_nil]
    | some sei =>
      rw [List.filterMap_cons_some huser, Option.toList_some, List.append_assoc,
        List.singleton_append]

theorem length_lt_seiRbsp (messages : List SeiMessage) :
    messages.length < (seiRbsp messages).length := by
  induction messages with
  | nil => decide
  | cons m messages ih =>
    have hpos : 0 < m.bytes.length := by
      have htype := coded_length_pos m.type
      simp only [SeiMessage.bytes, List.length_append]
      omega
    simp only [seiRbsp, List.flatMap_cons, List.length_append, List.length_cons] at ih ⊢
    omega

theorem seiHeaderSize_of_isSeiHeader {codecIsHevc : Bool} {header : Bytes} (rest : Bytes)
    (h : IsSeiHeader codecIsHevc header) :
    seiHeaderSize (header ++ rest) codecIsHevc = some (some header.length) := by
  cases codecIsHevc with
  | false =>
    rcases h with ⟨b, rfl, hb⟩
    simp [seiHeaderSize, readAt, hb]
  | true =>
    rcases h with ⟨b, c, rfl, hb, -⟩
    rcases hb with hb | hb
    · simp [seiHeaderSize, readAt, hb]
    · simp [seiHeaderSize, readAt, hb]

theorem parseSeiFromNal_seiRbsp {codecIsHevc : Bool} {header : Bytes}
    (hheader : IsSeiHeader codecIsHevc header) (messages : List SeiMessage)
    (hlength : (header ++ escape (seiRbsp messages)).length < 2 ^ 31) :
    parseSeiFromNal (header ++ escape (seiRbsp messages)) codecIsHevc =
      some (messages.filterMap SeiMessage.userData) := by
  have hrbsp : (seiRbsp messages).length < 2 ^ 31 := by
    have hle : (seiRbsp messages).length ≤ (escape (seiRbsp messages)).length :=
      length_le_escapeFrom 0 (seiRbsp messages)
    rw [List.length_append] at hlength
    omega
  have hlt := length_lt_seiRbsp messages
  have hpos : (header ++ escape (seiRbsp messages)).length ≠ 0 := by
    have hle := length_le_escapeFrom 0 (seiRbsp messages)
    simp only [escape, List.length_append]
    omega
  have hne : seiRbsp messages ≠ [] := List.ne_nil_of_length_pos (by omega)
  rw [parseSeiFromNal, if_neg hpos, seiHeaderSize_of_isSeiHeader _ hheader, Option.bind_some]
  simp only [List.drop_left, removeEPB_escape, Option.bind_some, hne, if_false]
  exact seiMessagesFrom_seiRbsp messages [] (List.drop_zero) (by omega) hrbsp

theorem parseSeiFromNal_other {codecIsHevc : Bool} {nal : Bytes}
    (h : IsOtherUnit codecIsHevc nal) : parseSeiFromNal nal codecIsHevc = some [] := by
  cases nal with
  | nil => rfl
  | cons b rest =>
    have hb := h b rfl
    rw [parseSeiFromNal, if_neg (by simp)]
    have hheader : seiHeaderSize (b :: rest) codecIsHevc = some none := by
      cases codecIsHevc with
      | false =>
        have hb' : b &&& 0x1F ≠ 6 := by simpa using hb
        simp [seiHeaderSize, readAt, hb']
      | true =>
        have hb' : (b >>> 1) &&& 0x3F ≠ 39 ∧ (b >>> 1) &&& 0x3F ≠ 40 := by simpa using hb
        by_cases hone : (b :: rest).length < 2
        · rw [seiHeaderSize, if_pos rfl, if_pos hone]
        · rw [seiHeaderSize, if_pos rfl, if_neg hone]
          simp [readAt, hb']
    rw [hheader, Option.bind_some]

/-- An SEI unit written as the standard prescribes is read back: the user messages with a
complete identifier, in order. A unit of another type gives nothing. -/
theorem parseSeiFromNal_written (codecIsHevc : Bool) {header : Bytes}
    (hheader : IsSeiHeader codecIsHevc header) (messages : List SeiMessage)
    (hlength : (header ++ escape (seiRbsp messages)).length < 2 ^ 31) {other : Bytes}
    (hother : IsOtherUnit codecIsHevc other) :
    parseSeiFromNal (header ++ escape (seiRbsp messages)) codecIsHevc =
        some (messages.filterMap SeiMessage.userData) ∧
      parseSeiFromNal other codecIsHevc = some [] := by
  constructor
  · exact parseSeiFromNal_seiRbsp hheader messages hlength
  · exact parseSeiFromNal_other hother

/-- A foreign message without a payload, then a user message of zero bytes that have to be
escaped. -/
def zeroMessages : List SeiMessage :=
  [⟨255, [], by decide⟩, ⟨5, List.replicate 18 0, by decide⟩]

theorem parseSeiFromNal_written_zeros :
    parseSeiFromNal ([0x06] ++ escape (seiRbsp zeroMessages)) false =
        some (zeroMessages.filterMap SeiMessage.userData) ∧
      zeroMessages.filterMap SeiMessage.userData ≠ [] ∧
      parseSeiFromNal [0x65, 0x88] false = some [] := by
  have hheader : IsSeiHeader false [0x06] := ⟨0x06, rfl, by decide⟩
  have hother : IsOtherUnit false [0x65, 0x88] := by
    intro b hb
    rw [List.head?_cons, Option.mem_def, Option.some.injEq] at hb
    subst hb
    decide
  have hwritten := parseSeiFromNal_written false hheader zeroMessages (by decide) hother
  exact ⟨hwritten.1, by decide, hwritten.2⟩

end DecoderSDK.Bitstream
