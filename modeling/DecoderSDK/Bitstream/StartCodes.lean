import DecoderSDK.Bytes.Checked
import DecoderSDK.Base.Packet

/-! # Start codes and Annex-B splitting

`findStartCode` reports "not found" as the unsigned value of `-1`, and its
callers test the result with `< 0`. Both are kept as they stand. Positions
are `size_t` values; a packet is far shorter than the wrap-around.
-/
namespace DecoderSDK.Bitstream
open Bytes

/-- The value of `(size_t)-1`. -/
def sizeMax : ℕ := 2 ^ 64 - 1

/-- The first four bytes look like a three- or four-byte start code. -/
def isAnnexBFormat (data : Bytes) : Option Bool :=
  if 4 ≤ data.length then
    both (test data 0 0) (both (test data 1 0)
      (either (both (test data 2 0) (test data 3 1)) (test data 2 1)))
  else some false

def startCode3 (data : Bytes) (p : ℕ) : Option Bool :=
  both (test data p 0) (both (test data (p + 1) 0) (test data (p + 2) 1))

def startCode4 (data : Bytes) (p : ℕ) : Option Bool :=
  both (some (decide (p + 4 ≤ data.length))) (both (test data p 0)
    (both (test data (p + 1) 0) (both (test data (p + 2) 0) (test data (p + 3) 1))))

def findStartCodeFrom (data : Bytes) : ℕ → ℕ → Option ℕ
  | 0, _ => none
  | fuel + 1, p =>
    if p + 3 ≤ data.length then
      (startCode4 data p).bind fun four =>
        if four then some p else (startCode3 data p).bind fun three =>
          if three then some p else findStartCodeFrom data fuel (p + 1)
    else some sizeMax

def findStartCode (data : Bytes) (pos : ℕ) : Option ℕ :=
  findStartCodeFrom data (data.length + 1) pos

/-- The splitting loop, from the start code at `pos`. The comparisons with zero are
those of the source, on unsigned values. -/
def splitAnnexBFrom (data : Bytes) : ℕ → ℕ → List Bytes → Option (List Bytes)
  | 0, _, _ => none
  | fuel + 1, pos, nalus =>
    if pos < data.length then
      (startCode4 data pos).bind fun four =>
        (if four then some true else startCode3 data pos).bind fun found =>
          if found then
            let nalStart := pos + if four then 4 else 3
            (findStartCode data nalStart).bind fun next =>
              let nalEnd := if next < 0 then data.length else next
              (if nalStart < nalEnd ∧ nalEnd ≤ data.length then
                (range data nalStart nalEnd).map fun nalu => nalus ++ [nalu]
              else some nalus).bind fun nalus =>
                if next < 0 then some nalus else splitAnnexBFrom data fuel next nalus
          else some nalus
    else some nalus

def splitAnnexBNalus (data : Bytes) : Option (List Bytes) :=
  (findStartCode data 0).bind fun start =>
    if start < 0 then some [data] else splitAnnexBFrom data (data.length + 1) start []

/-- Bytes `00 00 01` at position `p`. -/
def StartCode3At (data : Bytes) (p : ℕ) : Prop :=
  data[p]? = some 0 ∧ data[p + 1]? = some 0 ∧ data[p + 2]? = some 1

/-- Bytes `00 00 00 01` at position `p`. -/
def StartCode4At (data : Bytes) (p : ℕ) : Prop :=
  data[p]? = some 0 ∧ data[p + 1]? = some 0 ∧ data[p + 2]? = some 0 ∧ data[p + 3]? = some 1

instance (data : Bytes) (p : ℕ) : Decidable (StartCode3At data p) :=
  inferInstanceAs (Decidable (_ ∧ _ ∧ _))

instance (data : Bytes) (p : ℕ) : Decidable (StartCode4At data p) :=
  inferInstanceAs (Decidable (_ ∧ _ ∧ _ ∧ _))

def StartCodeAt (data : Bytes) (p : ℕ) : Prop := StartCode4At data p ∨ StartCode3At data p

theorem lt_length_of_getElem?_eq_some {data : Bytes} {p : ℕ} {b : UInt8} (h : data[p]? = some b) :
    p < data.length := (List.getElem?_eq_some_iff.mp h).1

theorem startCode3_eq {data : Bytes} {p : ℕ} (h : p + 3 ≤ data.length) :
    startCode3 data p = some (decide (StartCode3At data p)) := by
  rw [startCode3, test_eq _ (by omega), test_eq _ (by omega), test_eq _ (by omega)]
  exact both_decide fun _ => both_decide fun _ => rfl

theorem startCode4_eq (data : Bytes) (p : ℕ) :
    startCode4 data p = some (decide (StartCode4At data p)) := by
  by_cases h : p + 4 ≤ data.length
  · rw [startCode4, test_eq _ (by omega), test_eq _ (by omega), test_eq _ (by omega),
      test_eq _ (by omega)]
    simp only [h, decide_true, both_some, if_true]
    exact both_decide fun _ => both_decide fun _ => both_decide fun _ => rfl
  · have hn : ¬StartCode4At data p := fun hs => h (by
      have := lt_length_of_getElem?_eq_some hs.2.2.2
      omega)
    simp [startCode4, h, hn]

theorem StartCodeAt.add_three_le {data : Bytes} {p : ℕ} (h : StartCodeAt data p) :
    p + 3 ≤ data.length := by
  rcases h with h | h
  · have := lt_length_of_getElem?_eq_some h.2.2.2
    omega
  · have := lt_length_of_getElem?_eq_some h.2.2
    omega

theorem findStartCodeFrom_succ (data : Bytes) (fuel p : ℕ) [Decidable (StartCodeAt data p)] :
    findStartCodeFrom data (fuel + 1) p =
      if StartCodeAt data p then some p
      else if p + 3 ≤ data.length then findStartCodeFrom data fuel (p + 1) else some sizeMax := by
  rw [findStartCodeFrom]
  by_cases hp : p + 3 ≤ data.length
  · rw [if_pos hp, if_pos hp, startCode4_eq, startCode3_eq hp]
    by_cases h4 : StartCode4At data p <;> by_cases h3 : StartCode3At data p <;>
      simp [StartCodeAt, h4, h3]
  · have hn : ¬StartCodeAt data p := fun h => hp h.add_three_le
    simp [hp, hn]

/-- The search stops at the first start code. -/
theorem findStartCodeFrom_first {data : Bytes} {q : ℕ} (hq : StartCodeAt data q) (d fuel p : ℕ)
    (hd : p + d = q) (hfuel : d < fuel) (hmin : ∀ i, p ≤ i → i < q → ¬StartCodeAt data i) :
    findStartCodeFrom data fuel p = some q := by
  classical
  induction d generalizing fuel p with
  | zero =>
    obtain ⟨fuel, rfl⟩ : ∃ k, fuel = k + 1 := ⟨fuel - 1, by omega⟩
    have hpq : p = q := by omega
    rw [findStartCodeFrom_succ, hpq, if_pos hq]
  | succ d ih =>
    obtain ⟨fuel, rfl⟩ : ∃ k, fuel = k + 1 := ⟨fuel - 1, by omega⟩
    have hlen := hq.add_three_le
    rw [findStartCodeFrom_succ, if_neg (hmin p le_rfl (by omega)), if_pos (by omega)]
    exact ih fuel (p + 1) (by omega) (by omega) (fun i hi => hmin i (by omega))

theorem findStartCode_first {data : Bytes} {pos q : ℕ} (hq : StartCodeAt data q) (hpos : pos ≤ q)
    (hmin : ∀ i, pos ≤ i → i < q → ¬StartCodeAt data i) : findStartCode data pos = some q := by
  have hlen := hq.add_three_le
  exact findStartCodeFrom_first hq (q - pos) _ pos (by omega) (by omega) hmin

theorem findStartCodeFrom_none {data : Bytes} (d fuel p : ℕ) (hd : data.length ≤ p + d)
    (hfuel : d < fuel) (hnone : ∀ i, p ≤ i → ¬StartCodeAt data i) :
    findStartCodeFrom data fuel p = some sizeMax := by
  classical
  induction d generalizing fuel p with
  | zero =>
    obtain ⟨fuel, rfl⟩ : ∃ k, fuel = k + 1 := ⟨fuel - 1, by omega⟩
    rw [findStartCodeFrom_succ, if_neg (hnone p le_rfl), if_neg (by omega)]
  | succ d ih =>
    obtain ⟨fuel, rfl⟩ : ∃ k, fuel = k + 1 := ⟨fuel - 1, by omega⟩
    rw [findStartCodeFrom_succ, if_neg (hnone p le_rfl)]
    split_ifs
    · exact ih fuel (p + 1) (by omega) (by omega) (fun i hi => hnone i (by omega))
    · rfl

/-- Without a further start code the search answers the unsigned value of `-1`. -/
theorem findStartCode_none {data : Bytes} {pos : ℕ}
    (hnone : ∀ i, pos ≤ i → ¬StartCodeAt data i) : findStartCode data pos = some sizeMax :=
  findStartCodeFrom_none data.length _ pos (by omega) (by omega) hnone

theorem isAnnexBFormat_eq (data : Bytes) :
    isAnnexBFormat data = some (decide (4 ≤ data.length ∧ data[0]? = some 0 ∧ data[1]? = some 0 ∧
      ((data[2]? = some 0 ∧ data[3]? = some 1) ∨ data[2]? = some 1))) := by
  by_cases h : 4 ≤ data.length
  · rw [isAnnexBFormat, if_pos h, test_eq _ (by omega), test_eq _ (by omega), test_eq _ (by omega),
      test_eq _ (by omega), test_eq _ (by omega)]
    simp only [h, true_and]
    exact both_decide fun _ => both_decide fun _ => by
      rw [both_decide fun _ => rfl]
      exact either_decide fun _ => rfl
  · simp [isAnnexBFormat, h]

/-- One turn of the splitting loop when another start code follows. -/
theorem splitAnnexBFrom_next {data : Bytes} {pos next : ℕ} {nalu : Bytes} (fuel : ℕ)
    (nalus : List Bytes) (hat : StartCodeAt data pos) (scLen : ℕ)
    (hsc : scLen = if StartCode4At data pos then 4 else 3)
    (hnext : findStartCode data (pos + scLen) = some next) (hlt : pos + scLen < next)
    (hrange : range data (pos + scLen) next = some nalu) (hle : next ≤ data.length) :
    splitAnnexBFrom data (fuel + 1) pos nalus = splitAnnexBFrom data fuel next (nalus ++ [nalu]) := by
  have hlen := hat.add_three_le
  rw [splitAnnexBFrom, if_pos (by omega), startCode4_eq, startCode3_eq hlen]
  by_cases h4 : StartCode4At data pos
  · rw [if_pos h4] at hsc
    subst hsc
    simp [h4, hnext, hlt, hle, hrange]
  · have h3 : StartCode3At data pos := hat.resolve_left h4
    rw [if_neg h4] at hsc
    subst hsc
    simp [h4, h3, hnext, hlt, hle, hrange]

/-- The turn after which no start code follows: the sentinel is above the packet size, so
the unit that runs up to the end of the packet is not stored. -/
theorem splitAnnexBFrom_last {data : Bytes} {pos : ℕ} (fuel : ℕ) (nalus : List Bytes)
    (hsize : data.length < sizeMax) (hat : StartCodeAt data pos) (scLen : ℕ)
    (hsc : scLen = if StartCode4At data pos then 4 else 3)
    (hnext : findStartCode data (pos + scLen) = some sizeMax) :
    splitAnnexBFrom data (fuel + 2) pos nalus = some nalus := by
  have hlen := hat.add_three_le
  have hend : splitAnnexBFrom data (fuel + 1) sizeMax nalus = some nalus := by
    rw [splitAnnexBFrom, if_neg (by omega)]
  rw [splitAnnexBFrom, if_pos (by omega), startCode4_eq, startCode3_eq hlen]
  have hno : ¬sizeMax ≤ data.length := by omega
  by_cases h4 : StartCode4At data pos
  · rw [if_pos h4] at hsc
    subst hsc
    simp [h4, hnext, hno, hend]
  · have h3 : StartCode3At data pos := hat.resolve_left h4
    rw [if_neg h4] at hsc
    subst hsc
    simp [h4, h3, hnext, hno, hend]

end DecoderSDK.Bitstream
