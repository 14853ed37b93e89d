import DecoderSDK.Bitstream.Sps

/-! # The first parameter set of a packet

The scan of an Annex-B packet jumps over start codes and stops four bytes
before the end. It still finds the first sequence parameter set, and the two
bytes it overwrites there never look like a part of a start code.
-/
namespace DecoderSDK.Bitstream
open Bytes

/-- A start code at `i`, followed by the header of a sequence parameter set, its profile and
its constraint flags. -/
def SpsAt (data : Bytes) (i : ℕ) : Prop :=
  StartCode3At data i ∧ i + 5 < data.length ∧ ∃ b ∈ data[i + 3]?, b &&& 0x1F = 7

instance (data : Bytes) (i : ℕ) : Decidable (SpsAt data i) :=
  inferInstanceAs (Decidable (_ ∧ _ ∧ _))

def FirstSpsAt (data : Bytes) (i : ℕ) : Prop := SpsAt data i ∧ ∀ j < i, ¬SpsAt data j

instance (data : Bytes) (i : ℕ) : Decidable (FirstSpsAt data i) :=
  inferInstanceAs (Decidable (_ ∧ ∀ j < i, _))

theorem FirstSpsAt.unique {data : Bytes} {i j : ℕ} (hi : FirstSpsAt data i)
    (hj : FirstSpsAt data j) : i = j := by
  rcases lt_trichotomy i j with hlt | heq | hgt
  · exact absurd hi.1 (hj.2 i hlt)
  · exact heq
  · exact absurd hj.1 (hi.2 j hgt)

/-- Inside a start code no other one begins. -/
theorem StartCode3At.not_next {data : Bytes} {i j : ℕ} (hi : StartCode3At data i) (hlt : i < j)
    (hj : j < i + 3) : ¬StartCode3At data j := by
  intro h
  rcases (by omega : j = i + 1 ∨ j = i + 2) with rfl | rfl
  · have hone := h.2.1
    rw [show i + 1 + 1 = i + 2 by omega, hi.2.2] at hone
    simp at hone
  · have hone := h.1
    rw [hi.2.2] at hone
    simp at hone

/-- The scan reads a start code of three or of four bytes; either way three bytes of it lie
before the unit, and none is passed over. -/
theorem exists_startCode3At {data : Bytes} {current : ℕ}
    (h : data[current]? = some 0 ∧ data[current + 1]? = some 0 ∧
      (data[current + 2]? = some 1 ∨ data[current + 2]? = some 0 ∧ data[current + 3]? = some 1)) :
    ∃ i, (current + if decide (data[current + 2]? = some 1) = true then 3 else 4) = i + 3 ∧
      current ≤ i ∧ StartCode3At data i ∧ ∀ j, current ≤ j → j < i → ¬StartCode3At data j := by
  obtain ⟨h0, h1, h2⟩ := h
  by_cases hshort : data[current + 2]? = some 1
  · refine ⟨current, ?_, le_rfl, ⟨h0, h1, hshort⟩, ?_⟩
    · simp [hshort]
    · intro j hle hlt
      omega
  · obtain ⟨hzero, hone⟩ := h2.resolve_left hshort
    refine ⟨current + 1, ?_, by omega, ⟨h1, hzero, hone⟩, ?_⟩
    · simp only [hshort, decide_false, Bool.false_eq_true, if_false]
    · intro j hle hlt hcode
      obtain rfl : j = current := by omega
      exact hshort hcode.2.2

/-- From a position before which there is no parameter set the scan finds the first one. -/
theorem findSPSFrom_first (data : Bytes) (d fuel current : ℕ) (hd : data.length ≤ current + d)
    (hfuel : d < fuel) (hbefore : ∀ j < current, ¬SpsAt data j) :
    (findSPSFrom data fuel current = some none ∧ ∀ i, ¬SpsAt data i) ∨
      ∃ i, findSPSFrom data fuel current = some (some (i + 4)) ∧ FirstSpsAt data i := by
  induction d using Nat.strong_induction_on generalizing fuel current with
  | _ d ih =>
    obtain ⟨fuel, rfl⟩ : ∃ k, fuel = k + 1 := ⟨fuel - 1, by omega⟩
    have hnone (hend : data.length ≤ current + 5) : ∀ i, ¬SpsAt data i := by
      intro i hsps
      by_cases hlt : i < current
      · exact hbefore i hlt hsps
      · have := hsps.2.1
        omega
    rw [findSPSFrom]
    by_cases hcurrent : current + 4 < data.length
    · rw [if_pos hcurrent, test_eq _ (by omega : current < data.length),
        test_eq _ (by omega : current + 1 < data.length),
        test_eq _ (by omega : current + 2 < data.length),
        test_eq _ (by omega : current + 2 < data.length),
        test_eq _ (by omega : current + 3 < data.length),
        both_decide fun _ => both_decide fun _ => either_decide fun _ => both_decide fun _ => rfl,
        Option.bind_some]
      by_cases hcode : data[current]? = some 0 ∧ data[current + 1]? = some 0 ∧
          (data[current + 2]? = some 1 ∨ data[current + 2]? = some 0 ∧ data[current + 3]? = some 1)
      · obtain ⟨i, hi, hle, hat, hskipped⟩ := exists_startCode3At hcode
        have hlt : i + 3 < data.length := by
          rw [← hi]
          split_ifs <;> omega
        have hread : readAt data (i + 3) = some data[i + 3] := by simp [readAt, hlt]
        have hbefore' : ∀ j < i, ¬SpsAt data j := by
          intro j hj hsps
          by_cases hlt : j < current
          · exact hbefore j hlt hsps
          · exact hskipped j (by omega) hj hsps.1
        rw [if_pos (decide_eq_true hcode), Option.bind_some]
        simp only [hi]
        rw [if_neg (by omega), hread, Option.bind_some]
        split_ifs with hsps
        · right
          refine ⟨i, rfl, ⟨hat, by omega, data[i + 3], ?_, hsps.1⟩, hbefore'⟩
          rw [Option.mem_def, List.getElem?_eq_getElem]
        · apply ih (d - (i + 3 - current)) (by omega) fuel (i + 3) (by omega) (by omega)
          intro j hj hsps'
          rcases lt_trichotomy j i with hji | rfl | hji
          · exact hbefore' j hji hsps'
          · obtain ⟨-, hlen, b, hb, htype⟩ := hsps'
            rw [Option.mem_def, List.getElem?_eq_getElem hlt, Option.some.injEq] at hb
            rw [hb] at hsps
            exact hsps ⟨htype, by omega⟩
          · exact hat.not_next hji hj hsps'.1
      · rw [if_neg (by simpa using hcode)]
        apply ih (d - 1) (by omega) fuel (current + 1) (by omega) (by omega)
        intro j hj hsps
        rcases Nat.lt_succ_iff_lt_or_eq.mp hj with hlt | rfl
        · exact hbefore j hlt hsps
        · exact hcode ⟨hsps.1.1, hsps.1.2.1, Or.inl hsps.1.2.2⟩
    · rw [if_neg hcurrent]
      exact Or.inl ⟨rfl, hnone (by omega)⟩

theorem findSPSInAnnexB_first {data : Bytes} (hlen : 8 ≤ data.length) :
    (findSPSInAnnexB data = some none ∧ ∀ i, ¬SpsAt data i) ∨
      ∃ i, findSPSInAnnexB data = some (some (i + 4)) ∧ FirstSpsAt data i := by
  rw [findSPSInAnnexB, if_neg (by omega)]
  exact findSPSFrom_first data data.length _ 0 (by omega) (by omega) (by simp)

/-- The bytes of the repaired profile and constraint flags. -/
def withBaseline (data : Bytes) (i : ℕ) : Bytes := (data.set (i + 4) 66).set (i + 5) 0xC0

@[simp] theorem withBaseline_length (data : Bytes) (i : ℕ) :
    (withBaseline data i).length = data.length := by
  simp [withBaseline]

theorem withBaseline_getElem? {data : Bytes} {i j : ℕ} (h4 : j ≠ i + 4) (h5 : j ≠ i + 5) :
    (withBaseline data i)[j]? = data[j]? := by
  rw [withBaseline, List.getElem?_set_ne (by omega), List.getElem?_set_ne (by omega)]

theorem withBaseline_profile {data : Bytes} {i : ℕ} (h : i + 4 < data.length) :
    (withBaseline data i)[i + 4]? = some 66 := by
  rw [withBaseline, List.getElem?_set_ne (by omega), List.getElem?_set_self h]

/-- Neither of the two bytes written is a byte of a start code. -/
theorem withBaseline_startCode3At {data : Bytes} {i j : ℕ} (hi : i + 5 < data.length)
    (h : StartCode3At (withBaseline data i) j) : StartCode3At data j ∧ (j + 2 < i + 4 ∨ i + 5 < j) := by
  have h4 : (withBaseline data i)[i + 4]? = some 66 := withBaseline_profile (by omega)
  have h5 : (withBaseline data i)[i + 5]? = some 0xC0 := by
    rw [withBaseline, List.getElem?_set_self (by simpa using hi)]
  have hout (k : ℕ) (b : UInt8) (hb : b = 0 ∨ b = 1)
      (hk : (withBaseline data i)[k]? = some b) : k ≠ i + 4 ∧ k ≠ i + 5 := by
    constructor
    · rintro rfl
      rw [h4] at hk
      rcases hb with rfl | rfl <;> simp at hk
    · rintro rfl
      rw [h5] at hk
      rcases hb with rfl | rfl <;> simp at hk
  obtain ⟨h0, h1, h2⟩ := h
  have hj0 := hout _ 0 (Or.inl rfl) h0
  have hj1 := hout _ 0 (Or.inl rfl) h1
  have hj2 := hout _ 1 (Or.inr rfl) h2
  rw [withBaseline_getElem? hj0.1 hj0.2] at h0
  rw [withBaseline_getElem? hj1.1 hj1.2] at h1
  rw [withBaseline_getElem? hj2.1 hj2.2] at h2
  exact ⟨⟨h0, h1, h2⟩, by omega⟩

/-- The repair neither creates nor moves the first parameter set. -/
theorem FirstSpsAt.withBaseline {data : Bytes} {i : ℕ} (h : FirstSpsAt data i) :
    FirstSpsAt (withBaseline data i) i := by
  obtain ⟨⟨⟨h0, h1, h2⟩, hlen, b, hb, htype⟩, hfirst⟩ := h
  constructor
  · refine ⟨⟨?_, ?_, ?_⟩, by simpa using hlen, b, ?_, htype⟩
    · rwa [withBaseline_getElem? (by omega) (by omega)]
    · rwa [withBaseline_getElem? (by omega) (by omega)]
    · rwa [withBaseline_getElem? (by omega) (by omega)]
    · rwa [withBaseline_getElem? (by omega) (by omega)]
  · rintro j hj ⟨hcode, hlen', b', hb', htype'⟩
    obtain ⟨hcode', hbefore⟩ := withBaseline_startCode3At hlen hcode
    apply hfirst j hj
    refine ⟨hcode', by simpa using hlen', b', ?_, htype'⟩
    rwa [withBaseline_getElem? (by omega) (by omega)] at hb'

/-- A profile of the list stands at `p`. -/
def ProfileValidAt (data : Bytes) (p : ℕ) : Prop := ∃ profile ∈ data[p]?, profile ∈ validProfiles

instance (data : Bytes) (p : ℕ) : Decidable (ProfileValidAt data p) :=
  match h : data[p]? with
  | none => isFalse (by simp [ProfileValidAt, h])
  | some profile => decidable_of_iff (profile ∈ validProfiles) (by simp [ProfileValidAt, h])

/-- What the two writers of the profile do at a position inside the buffer. -/
theorem fixH264ProfileCommon_eq {data : Bytes} {p : ℕ} (hp : p < data.length) :
    fixH264ProfileCommon data data[p] p =
      if ProfileValidAt data p then (false, data) else (true, (data.set p 66).set (p + 1) 0xC0) := by
  have hvalid : ProfileValidAt data p ↔ data[p] ∈ validProfiles := by
    simp [ProfileValidAt, List.getElem?_eq_getElem hp]
  rw [fixH264ProfileCommon]
  by_cases h : data[p] ∈ validProfiles
  · rw [if_pos h, if_pos (hvalid.mpr h)]
  · rw [if_neg h, if_neg fun hv => h (hvalid.mp hv)]

/-- The packet repair in terms of the first parameter set. -/
theorem fixAnnexBSPSProfileInPacket_cases {pkt : AVPacket} {data : Bytes}
    (hdata : pkt.data = some data) (hlen : 8 ≤ data.length) :
    (fixAnnexBSPSProfileInPacket pkt = some (false, pkt) ∧
        ∀ i, FirstSpsAt data i → ProfileValidAt data (i + 4)) ∨
      ∃ i r, fixAnnexBSPSProfileInPacket pkt = some (true, r) ∧ FirstSpsAt data i ∧
        ¬ProfileValidAt data (i + 4) ∧ r.data = some (withBaseline data i) ∧ r.key = pkt.key ∧
          r.duration = pkt.duration := by
  obtain ⟨bytes, key, duration, hsize⟩ := pkt
  subst hdata
  have hnot : ¬AVPacket.size ⟨some data, key, duration, hsize⟩ < 8 := by
    simpa [AVPacket.size] using hlen
  rw [fixAnnexBSPSProfileInPacket]
  simp only [hnot, if_false]
  rcases findSPSInAnnexB_first hlen with ⟨hfound, hnone⟩ | ⟨i, hfound, hfirst⟩
  · left
    simp only [hfound, Option.bind_some, true_and]
    intro i hi
    exact absurd hi.1 (hnone i)
  · have hlt : i + 4 < data.length := by
      have := hfirst.1.2.1
      omega
    have hread : readAt data (i + 4) = some data[i + 4] := by simp [readAt, hlt]
    simp only [hfound, Option.bind_some, hread, Option.map_some, fixH264ProfileCommon_eq hlt]
    by_cases hvalid : ProfileValidAt data (i + 4)
    · left
      simp only [if_pos hvalid, AVPacket.withBytes, true_and]
      intro j hj
      rwa [hj.unique hfirst]
    · right
      have hle : (withBaseline data i).length ≤ 2 ^ 31 - 1 := by
        rw [withBaseline_length]
        exact hsize data rfl
      refine ⟨i, AVPacket.withBytes ⟨some data, key, duration, hsize⟩ (withBaseline data i) hle, ?_,
        hfirst, hvalid, rfl, rfl, rfl⟩
      simp only [if_neg hvalid, withBaseline]

/-- The repair overwrites the profile and the flags of the first parameter set when its
profile is not in the list, does nothing otherwise, and has nothing to do a second time. -/
theorem fixAnnexBSPSProfileInPacket_first (pkt : AVPacket) (data : Bytes)
    (hdata : pkt.data = some data) (hlen : 8 ≤ data.length) :
    ∃ r, fixAnnexBSPSProfileInPacket pkt = some r ∧
      (∀ i, FirstSpsAt data i → ¬ProfileValidAt data (i + 4) → r.1 = true ∧
        r.2.data = some ((data.set (i + 4) 66).set (i + 5) 0xC0) ∧ r.2.key = pkt.key ∧
          r.2.duration = pkt.duration) ∧
      ((¬∃ i, FirstSpsAt data i ∧ ¬ProfileValidAt data (i + 4)) → r = (false, pkt)) ∧
      fixAnnexBSPSProfileInPacket r.2 = some (false, r.2) := by
  rcases fixAnnexBSPSProfileInPacket_cases hdata hlen with
    ⟨hfix, hvalid⟩ | ⟨i, r, hfix, hfirst, hinvalid, hbytes, hkey, hduration⟩
  · refine ⟨_, hfix, ?_, fun _ => rfl, hfix⟩
    intro i hi hno
    exact absurd (hvalid i hi) hno
  · refine ⟨_, hfix, ?_, ?_, ?_⟩
    · intro j hj _
      rw [hj.unique hfirst]
      exact ⟨rfl, hbytes, hkey, hduration⟩
    · intro hno
      exact absurd ⟨i, hfirst, hinvalid⟩ hno
    · rcases fixAnnexBSPSProfileInPacket_cases hbytes (by simpa using hlen) with
        ⟨hagain, -⟩ | ⟨j, -, -, hj, hwrong, -⟩
      · exact hagain
      · rw [hj.unique hfirst.withBaseline] at hwrong
        have hlt := hfirst.1.2.1
        exact absurd ⟨66, withBaseline_profile (by omega), by decide⟩ hwrong

/-- A start code of four bytes, a parameter set with the unknown profile 99. -/
theorem fixAnnexBSPSProfileInPacket_first_unknown :
    ∃ pkt data, pkt.data = some data ∧ FirstSpsAt data 1 ∧ ¬ProfileValidAt data 5 ∧
      ∃ r, fixAnnexBSPSProfileInPacket pkt = some r ∧ r.1 = true ∧
        r.2.data = some [0, 0, 0, 1, 0x67, 66, 0xC0, 30] := by
  let pkt : AVPacket := ⟨some [0, 0, 0, 1, 0x67, 99, 0, 30], true, 40, AVPacket.size_le_some (by decide)⟩
  obtain ⟨r, hr, hfirst, -⟩ := fixAnnexBSPSProfileInPacket_first pkt _ rfl (by decide)
  have hrepair := hfirst 1 (by decide) (by decide)
  exact ⟨pkt, _, rfl, by decide, by decide, r, hr, hrepair.1, hrepair.2.1⟩

end DecoderSDK.Bitstream
