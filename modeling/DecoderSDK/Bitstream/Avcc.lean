import DecoderSDK.Bytes.Checked
import DecoderSDK.Base.Packet
import DecoderSDK.Framing.LengthPrefixed

/-! # Length-prefixed splitting

The four length bytes are combined by shifts into a `uint32_t`; a unit is
stored when it fits into the rest of the buffer. The loop finds the one way in
which a buffer is made of units and a rest without a complete unit.
-/
namespace DecoderSDK.Bitstream
open Bytes

/-- The big-endian length field at `pos`. -/
def nalSizeAt (data : Bytes) (pos : ℕ) : Option ℕ :=
  (readAt data pos).bind fun b0 => (readAt data (pos + 1)).bind fun b1 =>
    (readAt data (pos + 2)).bind fun b2 => (readAt data (pos + 3)).map fun b3 =>
      (b0.toNat <<< 24 ||| b1.toNat <<< 16 ||| b2.toNat <<< 8 ||| b3.toNat) % 2 ^ 32

def splitAvccFrom (data : Bytes) : ℕ → ℕ → List Bytes → Option (List Bytes)
  | 0, _, _ => none
  | fuel + 1, pos, nalus =>
    if pos + 4 ≤ data.length then
      (nalSizeAt data pos).bind fun nalSize =>
        if data.length < pos + 4 + nalSize then some nalus
        else (range data (pos + 4) (pos + 4 + nalSize)).bind fun nalu =>
          splitAvccFrom data fuel (pos + 4 + nalSize) (nalus ++ [nalu])
    else some nalus

def splitAvccNalus (data : Bytes) : Option (List Bytes) :=
  splitAvccFrom data (data.length + 1) 0 []

/-- The four big-endian bytes of a length. -/
def lengthField (n : ℕ) : Bytes :=
  [UInt8.ofNat (n / 2 ^ 24), UInt8.ofNat (n / 2 ^ 16), UInt8.ofNat (n / 2 ^ 8), UInt8.ofNat n]

/-- Every unit prefixed by its length. -/
def avcc (units : List Bytes) : Bytes := units.flatMap fun u => lengthField u.length ++ u

@[simp] theorem lengthField_length (n : ℕ) : (lengthField n).length = 4 := rfl

@[simp] theorem avcc_nil : avcc [] = [] := rfl

@[simp] theorem avcc_cons (u : Bytes) (units : List Bytes) :
    avcc (u :: units) = lengthField u.length ++ (u ++ avcc units) := by
  simp [avcc]

/-- The number that a big-endian field stands for. -/
def beValue (word : Bytes) : ℕ := word.foldl (fun n b => n * 256 + b.toNat) 0

theorem beValue_lengthField (n : ℕ) (hn : n < 2 ^ 32) : beValue (lengthField n) = n := by
  simp only [beValue, lengthField, List.foldl_cons, List.foldl_nil, UInt8.toNat_ofNat']
  omega

theorem lengthField_beValue (word : Bytes) (hword : word.length = 4) :
    lengthField (beValue word) = word := by
  obtain ⟨b0, b1, b2, b3, rfl⟩ := List.length_eq_four.mp hword
  have h0 := b0.toNat_lt
  have h1 := b1.toNat_lt
  have h2 := b2.toNat_lt
  have h3 := b3.toNat_lt
  simp only [beValue, lengthField, List.foldl_cons, List.foldl_nil, List.cons.injEq,
    ← UInt8.toNat_inj, UInt8.toNat_ofNat', and_true]
  omega

/-- Every four bytes are the length field of a length below `2 ^ 32`. -/
def avccCode : Framing.LengthCode UInt8 where
  width := 4
  limit := 2 ^ 32
  field := lengthField
  value := beValue
  field_length := lengthField_length
  value_field := beValue_lengthField
  field_value := lengthField_beValue

theorem shifts_eq (a b c d : ℕ) (hb : b < 256) (hc : c < 256) (hd : d < 256) :
    a <<< 24 ||| b <<< 16 ||| c <<< 8 ||| d = a * 2 ^ 24 + b * 2 ^ 16 + c * 2 ^ 8 + d := by
  have hab : a <<< 24 ||| b <<< 16 = (a * 2 ^ 8 + b) <<< 16 := by
    rw [← Nat.shiftLeft_add_eq_or_of_lt (by simp only [Nat.shiftLeft_eq]; omega)]
    simp only [Nat.shiftLeft_eq]
    omega
  have habc : (a * 2 ^ 8 + b) <<< 16 ||| c <<< 8 = (a * 2 ^ 16 + b * 2 ^ 8 + c) <<< 8 := by
    rw [← Nat.shiftLeft_add_eq_or_of_lt (by simp only [Nat.shiftLeft_eq]; omega)]
    simp only [Nat.shiftLeft_eq]
    omega
  rw [hab, habc, ← Nat.shiftLeft_add_eq_or_of_lt (by omega)]
  simp only [Nat.shiftLeft_eq]
  omega

/-- The shifts read the big-endian field: its top bit ends up as the top bit of the size. -/
theorem nalSizeAt_eq {pre rest : Bytes} (h : 4 ≤ rest.length) :
    nalSizeAt (pre ++ rest) pre.length = some (beValue (rest.take 4)) := by
  have hat (i : ℕ) : (pre ++ rest)[pre.length + i]? = rest[i]? := by
    rw [List.getElem?_append_right (Nat.le_add_right _ _), Nat.add_sub_cancel_left]
  have hat0 := hat 0
  rw [Nat.add_zero] at hat0
  have hfour : (rest.take 4).length = 4 := by
    rw [List.length_take, min_eq_left h]
  obtain ⟨b0, b1, b2, b3, hword⟩ := List.length_eq_four.mp hfour
  have hbyte (i : ℕ) (hi : i < 4) : rest[i]? = (rest.take 4)[i]? := by
    rw [List.getElem?_take_of_lt hi]
  have h0 := b0.toNat_lt
  have h1 := b1.toNat_lt
  have h2 := b2.toNat_lt
  have h3 := b3.toNat_lt
  simp only [nalSizeAt, readAt, hat0, hat, hbyte 0 (by omega), hbyte 1 (by omega),
    hbyte 2 (by omega), hbyte 3 (by omega), hword]
  simp only [List.getElem?_cons_zero, List.getElem?_cons_succ, Option.bind_some, Option.map_some,
    beValue, List.foldl_cons, List.foldl_nil]
  rw [shifts_eq _ _ _ _ (by omega) (by omega) (by omega)]
  congr 1
  omega

theorem stuck_iff (rest : Bytes) :
    avccCode.Stuck rest ↔ rest.length < 4 ∨ rest.length < 4 + beValue (rest.take 4) := by
  change rest.length < 4 ∨ (rest.drop 4).length < beValue (rest.take 4) ↔ _
  rw [List.length_drop]
  omega

/-- Nothing is stored where no further unit is complete. -/
theorem splitAvccFrom_stuck {pre rest : Bytes} (hrest : avccCode.Stuck rest) (fuel : ℕ)
    (nalus : List Bytes) :
    splitAvccFrom (pre ++ rest) (fuel + 1) pre.length nalus = some nalus := by
  rw [splitAvccFrom, List.length_append]
  by_cases h : pre.length + 4 ≤ pre.length + rest.length
  · have hfour : 4 ≤ rest.length := by omega
    rw [stuck_iff] at hrest
    rw [if_pos h, nalSizeAt_eq hfour, Option.bind_some, if_pos (by omega)]
  · rw [if_neg h]

/-- One turn of the loop stores the unit that the buffer continues with. -/
theorem splitAvccFrom_unit {u : Bytes} (hu : u.length < 2 ^ 32) (pre rest : Bytes) (fuel : ℕ)
    (nalus : List Bytes) :
    splitAvccFrom (pre ++ (lengthField u.length ++ (u ++ rest))) (fuel + 1) pre.length nalus =
      splitAvccFrom ((pre ++ lengthField u.length ++ u) ++ rest) fuel
        (pre ++ lengthField u.length ++ u).length (nalus ++ [u]) := by
  have hassoc : pre ++ (lengthField u.length ++ (u ++ rest)) =
      (pre ++ lengthField u.length) ++ (u ++ rest) := by simp
  have hpos : (pre ++ lengthField u.length ++ u).length = pre.length + 4 + u.length := by
    simp only [List.length_append, lengthField_length]
  have htotal : (pre ++ (lengthField u.length ++ (u ++ rest))).length =
      pre.length + 4 + u.length + rest.length := by
    simp only [List.length_append, lengthField_length]
    omega
  have hsize : nalSizeAt (pre ++ (lengthField u.length ++ (u ++ rest))) pre.length =
      some u.length := by
    have htake : (lengthField u.length ++ (u ++ rest)).take 4 = lengthField u.length :=
      avccCode.take_field u.length (u ++ rest)
    rw [nalSizeAt_eq (by simp), htake, beValue_lengthField _ hu]
  have hrange : range (pre ++ (lengthField u.length ++ (u ++ rest))) (pre.length + 4)
      (pre.length + 4 + u.length) = some u := by
    rw [hassoc]
    exact range_eq_of_append (by simp) (by simp)
  rw [splitAvccFrom, if_pos (by omega), hsize, Option.bind_some, if_neg (by omega), hrange,
    Option.bind_some, hpos, ← List.append_assoc, ← List.append_assoc]

/-- The loop finds the units from any position, units of every length included. -/
theorem splitAvccFrom_frames (units : List Bytes) (hlen : ∀ u ∈ units, u.length < 2 ^ 32)
    {rest : Bytes} (hrest : avccCode.Stuck rest) (pre : Bytes) (nalus : List Bytes) (fuel : ℕ)
    (hfuel : units.length < fuel) :
    splitAvccFrom (pre ++ (avcc units ++ rest)) fuel pre.length nalus = some (nalus ++ units) := by
  obtain ⟨fuel, rfl⟩ : ∃ k, fuel = k + 1 := ⟨fuel - 1, by omega⟩
  induction units generalizing pre nalus fuel with
  | nil =>
    rw [List.append_nil]
    exact splitAvccFrom_stuck hrest fuel nalus
  | cons u units ih =>
    rw [List.length_cons] at hfuel
    obtain ⟨fuel, rfl⟩ : ∃ k, fuel = k + 1 := ⟨fuel - 1, by omega⟩
    rw [avcc_cons, List.append_assoc, List.append_assoc,
      splitAvccFrom_unit (hlen u List.mem_cons_self),
      ih (fun v hv => hlen v (List.mem_cons_of_mem u hv)) _ _ _ (by omega), List.append_assoc]
    rfl

theorem length_le_avcc_length (units : List Bytes) : units.length ≤ (avcc units).length :=
  avccCode.length_le_frames (by decide) units

theorem mem_length_le_avcc_length {units : List Bytes} {u : Bytes} (hu : u ∈ units) :
    u.length ≤ (avcc units).length :=
  avccCode.length_le_of_mem hu

theorem splitAvccNalus_frames {data rest : Bytes} {units : List Bytes}
    (hdata : data = avcc units ++ rest) (hlen : ∀ u ∈ units, u.length < 2 ^ 32)
    (hrest : avccCode.Stuck rest) : splitAvccNalus data = some units := by
  have hfuel := length_le_avcc_length units
  have h := splitAvccFrom_frames units hlen hrest [] [] (data.length + 1) (by
    rw [hdata, List.length_append]
    omega)
  rw [List.nil_append, ← hdata] at h
  exact h

theorem splitAvccNalus_avcc (units : List Bytes) (hlen : ∀ u ∈ units, u.length < 2 ^ 32) :
    splitAvccNalus (avcc units) = some units :=
  splitAvccNalus_frames (List.append_nil (avcc units)).symm hlen (.inl (by decide))

theorem length_lt_of_frames {data rest : Bytes} {units : List Bytes}
    (hdata : data = avcc units ++ rest) (hlen : data.length < 2 ^ 32) :
    ∀ u ∈ units, u.length < 2 ^ 32 := by
  intro u hu
  have hle := mem_length_le_avcc_length hu
  rw [hdata, List.length_append] at hlen
  omega

/-- A field with its top bit set asks for more than a buffer below `2 ^ 31` bytes holds. -/
theorem stuck_of_top_bit {b : UInt8} {rest : Bytes} (hb : 128 ≤ b)
    (hlen : (b :: rest).length ≤ 2 ^ 31 - 1) : avccCode.Stuck (b :: rest) := by
  rw [stuck_iff]
  by_cases hfour : (b :: rest).length < 4
  · exact .inl hfour
  · have hthree : (rest.take 3).length = 3 := by
      rw [List.length_cons] at hfour
      rw [List.length_take]
      omega
    obtain ⟨b1, b2, b3, hword⟩ := List.length_eq_three.mp hthree
    have htop : 128 ≤ b.toNat := UInt8.le_iff_toNat_le.mp hb
    right
    rw [List.take_succ_cons, hword]
    simp only [beValue, List.foldl_cons, List.foldl_nil]
    omega

/-- The units found are the only ones with a rest in which no further unit is complete. Written
units are found again, and a length with its top bit set ends the loop. -/
theorem splitAvccNalus_exact (data : Bytes) (hdata : data.length ≤ 2 ^ 31 - 1) :
    (∃ units, splitAvccNalus data = some units ∧ avccCode.Splits data units ∧
      ∀ units', avccCode.Splits data units' → units' = units) ∧
    (∀ units, data = avcc units → splitAvccNalus data = some units) ∧
    ∀ units b rest, data = avcc units ++ b :: rest → 128 ≤ b →
      splitAvccNalus data = some units := by
  have hlimit : data.length < 2 ^ 32 := by omega
  refine ⟨?_, ?_, ?_⟩
  · have hwidth : 0 < avccCode.width := by decide
    obtain ⟨units, hunits⟩ := Framing.LengthCode.exists_splits hwidth data
    obtain ⟨rest, hsplit, hstuck⟩ := id hunits
    exact ⟨units, splitAvccNalus_frames hsplit (length_lt_of_frames hsplit hlimit) hstuck, hunits,
      fun units' hunits' => hunits'.unique hlimit hunits⟩
  · rintro units rfl
    exact splitAvccNalus_avcc units
      (length_lt_of_frames (List.append_nil (avcc units)).symm hlimit)
  · intro units b rest hsplit hb
    apply splitAvccNalus_frames hsplit (length_lt_of_frames hsplit hlimit)
    apply stuck_of_top_bit hb
    rw [hsplit, List.length_append] at hdata
    omega

/-- Two units, one of them empty, then a field `80 00 00 00`. -/
theorem splitAvccNalus_exact_top_bit :
    splitAvccNalus [0, 0, 0, 2, 7, 8, 0, 0, 0, 0, 0x80, 0, 0, 0, 9] = some [[7, 8], []] :=
  (splitAvccNalus_exact [0, 0, 0, 2, 7, 8, 0, 0, 0, 0, 0x80, 0, 0, 0, 9] (by decide)).2.2
    [[7, 8], []] 0x80 [0, 0, 0, 9] (by decide) (by decide)

end DecoderSDK.Bitstream
