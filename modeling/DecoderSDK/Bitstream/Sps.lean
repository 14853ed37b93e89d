import DecoderSDK.Bitstream.StartCodes

/-! # Repair of the H.264 profile in a packet

The first sequence parameter set of an Annex-B packet is looked up, and a
profile outside the known list is overwritten with the baseline profile.
-/
namespace DecoderSDK.Bitstream
open Bytes

def validProfiles : List UInt8 := [66, 77, 88, 100, 110, 118, 122, 128, 144, 244, 44]

/-- The scan of `findSPSInAnnexB`; the result is the index of `profile_idc`. -/
def findSPSFrom (data : Bytes) : ℕ → ℕ → Option (Option ℕ)
  | 0, _ => none
  | fuel + 1, current =>
    if current + 4 < data.length then
      (both (test data current 0) (both (test data (current + 1) 0)
        (either (test data (current + 2) 1)
          (both (test data (current + 2) 0) (test data (current + 3) 1))))).bind fun startCode =>
        if startCode then
          (test data (current + 2) 1).bind fun short =>
            let nalStart := current + if short then 3 else 4
            if data.length ≤ nalStart then some none
            else (readAt data nalStart).bind fun (b : UInt8) =>
              if b &&& 0x1F = 7 ∧ nalStart + 2 < data.length then some (some (nalStart + 1))
              else findSPSFrom data fuel nalStart
        else findSPSFrom data fuel (current + 1)
    else some none

def findSPSInAnnexB (data : Bytes) : Option (Option ℕ) :=
  if data.length < 8 then some none else findSPSFrom data (data.length + 1) 0

/-- Overwrite the profile at `p` and the constraint byte after it, unless the profile is known. -/
def fixH264ProfileCommon (data : Bytes) (profile : UInt8) (p : ℕ) : Bool × Bytes :=
  if profile ∈ validProfiles then (false, data) else (true, (data.set p 66).set (p + 1) 0xC0)

theorem fixH264ProfileCommon_length (data : Bytes) (profile : UInt8) (p : ℕ) :
    (fixH264ProfileCommon data profile p).2.length = data.length := by
  unfold fixH264ProfileCommon
  split_ifs <;> simp

/-- A packet whose buffer was overwritten in place. -/
def AVPacket.withBytes (pkt : AVPacket) (bytes : Bytes) (h : bytes.length ≤ 2 ^ 31 - 1) : AVPacket :=
  { pkt with data := some bytes, size_le := AVPacket.size_le_some h }

def fixAnnexBSPSProfileInPacket (pkt : AVPacket) : Option (Bool × AVPacket) :=
  match hdata : pkt.data with
  | none => some (false, pkt)
  | some data =>
    if pkt.size < 8 then some (false, pkt)
    else (findSPSInAnnexB data).bind fun found => match found with
      | none => some (false, pkt)
      | some p => (readAt data p).map fun profile =>
        ((fixH264ProfileCommon data profile p).1,
          AVPacket.withBytes pkt (fixH264ProfileCommon data profile p).2 (by
            rw [fixH264ProfileCommon_length]
            exact pkt.size_le data hdata))

theorem findSPSFrom_spec (data : Bytes) (d fuel current : ℕ) (hd : data.length ≤ current + d)
    (hfuel : d < fuel) :
    ∃ found, findSPSFrom data fuel current = some found ∧ ∀ p ∈ found, p + 1 < data.length := by
  induction d using Nat.strong_induction_on generalizing fuel current with
  | _ d ih =>
    obtain ⟨fuel, rfl⟩ : ∃ k, fuel = k + 1 := ⟨fuel - 1, by omega⟩
    rw [findSPSFrom]
    split_ifs with hcurrent
    · rw [test_eq _ (by omega : current < data.length),
        test_eq _ (by omega : current + 1 < data.length),
        test_eq _ (by omega : current + 2 < data.length),
        test_eq _ (by omega : current + 2 < data.length),
        test_eq _ (by omega : current + 3 < data.length),
        both_decide fun _ => both_decide fun _ => either_decide fun _ => both_decide fun _ => rfl,
        Option.bind_some]
      split_ifs with hcode
      · rw [Option.bind_some]
        generalize decide (data[current + 2]? = some 1) = short
        obtain ⟨n, hn, hlt⟩ : ∃ n, (current + if short = true then 3 else 4) = n ∧ current < n := by
          refine ⟨_, rfl, ?_⟩
          split_ifs <;> omega
        simp only [hn]
        split_ifs with hend
        · exact ⟨none, rfl, by simp⟩
        · have hread : readAt data n = some data[n] := by
            rw [readAt, List.getElem?_eq_getElem]
          rw [hread, Option.bind_some]
          split_ifs with hsps
          · exact ⟨some (n + 1), rfl, by simpa using hsps.2⟩
          · exact ih (d - (n - current)) (by omega) fuel n (by omega) (by omega)
      · exact ih (d - 1) (by omega) fuel (current + 1) (by omega) (by omega)
    · exact ⟨none, rfl, by simp⟩

/-- The repair ends on every packet, and all its reads are inside the packet. -/
theorem fixAnnexBSPSProfileInPacket_isSome (pkt : AVPacket) :
    (fixAnnexBSPSProfileInPacket pkt).isSome := by
  unfold fixAnnexBSPSProfileInPacket
  split
  · rfl
  · next data hdata =>
    split_ifs with hsize
    · rfl
    · obtain ⟨found, hfound, hp⟩ : ∃ found, findSPSInAnnexB data = some found ∧
          ∀ p ∈ found, p + 1 < data.length := by
        unfold findSPSInAnnexB
        split_ifs
        · exact ⟨none, rfl, by simp⟩
        · exact findSPSFrom_spec data data.length _ 0 (by omega) (by omega)
      rw [hfound, Option.bind_some]
      cases found with
      | none => rfl
      | some p =>
        have hlt : p < data.length := by
          have := hp p rfl
          omega
        simp [readAt, hlt]

/-- The repair overwrites bytes in place. -/
theorem fixAnnexBSPSProfileInPacket_data {pkt : AVPacket} {r : Bool × AVPacket}
    (h : fixAnnexBSPSProfileInPacket pkt = some r) : r.2.data.isSome = pkt.data.isSome := by
  unfold fixAnnexBSPSProfileInPacket at h
  split at h
  · simp only [Option.some.injEq] at h
    rw [← h]
  · next data hdata =>
    split_ifs at h
    · simp only [Option.some.injEq] at h
      rw [← h]
    · rcases Option.bind_eq_some_iff.mp h with ⟨found, _, h⟩
      cases found with
      | none =>
        simp only [Option.some.injEq] at h
        rw [← h]
      | some p =>
        rcases Option.map_eq_some_iff.mp h with ⟨profile, _, rfl⟩
        simp [AVPacket.withBytes, hdata]

end DecoderSDK.Bitstream
