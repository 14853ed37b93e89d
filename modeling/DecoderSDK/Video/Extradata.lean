import DecoderSDK.Bitstream.SpsRepair
import DecoderSDK.Decode.Loop

/-! # The profile in the extradata

The extradata of an H.264 codec holds its parameter sets behind start codes
or in an avcC record, whose header repeats the profile of the parameter
set. The repair overwrites the parameter set in the first layout and the
copy in the header in the second.
-/
namespace DecoderSDK.Bitstream
open Bytes

structure AVCodecContext where
  codec_id : CodecId
  extradata : Option Bytes
  deriving DecidableEq

def fixH264ProfileIfNeeded (codecCtx : AVCodecContext) : Option (Bool × AVCodecContext) :=
  match codecCtx.extradata with
  | none => some (false, codecCtx)
  | some data =>
    if codecCtx.codec_id ≠ .h264 ∨ data.length < 8 then some (false, codecCtx)
    else (test data 0 1).bind fun isAVCC =>
      (if isAVCC then some (some 1) else findSPSInAnnexB data).bind fun found => match found with
        | none => some (false, codecCtx)
        | some p => (readAt data p).map fun profile_idc =>
          ((fixH264ProfileCommon data profile_idc p).1,
            { codecCtx with extradata := some (fixH264ProfileCommon data profile_idc p).2 })

/-- Every unit prefixed by its length in two bytes. -/
def parameterSets (units : List Bytes) : Bytes :=
  units.flatMap fun u => [UInt8.ofNat (u.length / 2 ^ 8), UInt8.ofNat u.length] ++ u

/-- A decoder configuration record: the parameter sets are counted in five and eight bits, and
every sequence parameter set has its type and its profile. -/
structure AvcC where
  profile : UInt8
  compatibility : UInt8
  level : UInt8
  lengthSize : UInt8
  sps : List Bytes
  pps : List Bytes
  extension : Bytes
  sps_count : sps.length < 2 ^ 5
  pps_count : pps.length < 2 ^ 8
  unit_size : ∀ u ∈ sps ++ pps, u.length < 2 ^ 16
  sps_type : ∀ u ∈ sps, 2 ≤ u.length ∧ ∃ b ∈ u[0]?, b &&& 0x1F = 7

namespace AvcC

def bytes (record : AvcC) : Bytes :=
  [1, record.profile, record.compatibility, record.level, record.lengthSize,
    0xE0 ||| UInt8.ofNat record.sps.length] ++ (parameterSets record.sps ++
      (UInt8.ofNat record.pps.length :: (parameterSets record.pps ++ record.extension)))

/-- Some parameter set has the profile of the header. -/
def Agrees (record : AvcC) : Prop := ∃ u ∈ record.sps, u[1]? = some record.profile

/-- The record with the baseline profile in its header. -/
def withBaseline (record : AvcC) : AvcC := { record with profile := 66, compatibility := 0xC0 }

theorem bytes_set (record : AvcC) :
    (record.bytes.set 1 66).set 2 0xC0 = record.withBaseline.bytes := rfl

/-- Six bytes of header and two of length precede the first parameter set. -/
theorem bytes_sps {record : AvcC} {sps : Bytes} {rest : List Bytes}
    (h : record.sps = sps :: rest) {i : ℕ} (hi : i < sps.length) :
    record.bytes[8 + i]? = sps[i]? := by
  simp only [bytes, parameterSets, h, List.flatMap_cons, List.cons_append, List.nil_append,
    List.append_assoc]
  rw [show 8 + i = i + 1 + 1 + 1 + 1 + 1 + 1 + 1 + 1 by omega]
  simp only [List.getElem?_cons_succ]
  exact List.getElem?_append_left hi

theorem length_le {record : AvcC} {sps : Bytes} {rest : List Bytes}
    (h : record.sps = sps :: rest) : 8 + sps.length ≤ record.bytes.length := by
  simp only [bytes, parameterSets, h, List.flatMap_cons, List.cons_append, List.nil_append,
    List.length_cons, List.length_append]
  omega

end AvcC

/-- The place of the profile of the first parameter set, in either layout. -/
inductive ProfilePlace (data : Bytes) : ℕ → Prop where
  | annexB (i : ℕ) (hformat : data[0]? ≠ some 1) (hfirst : FirstSpsAt data i) :
    ProfilePlace data (i + 4)
  | avcC (record : AvcC) (hbytes : data = record.bytes) (hsps : record.sps ≠ []) :
    ProfilePlace data (8 + 1)

/-- After the repair the profile of the first parameter set is in the list, and the answer
tells whether it was not before. -/
def Repaired (data : Bytes) (p : ℕ) : Prop :=
  ∃ repaired out, fixH264ProfileIfNeeded ⟨.h264, some data⟩ = some (repaired, ⟨.h264, some out⟩) ∧
    ProfilePlace out p ∧ ProfileValidAt out p ∧ (repaired = true ↔ ¬ProfileValidAt data p)

theorem fixH264ProfileIfNeeded_eq {data : Bytes} (hlen : 8 ≤ data.length) {p : ℕ}
    (hp : p < data.length)
    (hfound : (if data[0]? = some 1 then some (some 1) else findSPSInAnnexB data) = some (some p)) :
    fixH264ProfileIfNeeded ⟨.h264, some data⟩ =
      some (if ProfileValidAt data p then (false, ⟨.h264, some data⟩)
        else (true, ⟨.h264, some ((data.set p 66).set (p + 1) 0xC0)⟩)) := by
  have hnot : ¬((CodecId.h264 : CodecId) ≠ .h264 ∨ data.length < 8) := by
    rintro (h | h)
    · exact h rfl
    · omega
  have hread : readAt data p = some data[p] := by simp [readAt, hp]
  rw [fixH264ProfileIfNeeded]
  simp only [hnot, if_false, test_eq 1 (by omega : 0 < data.length), Option.bind_some,
    decide_eq_true_eq, hfound, hread, Option.map_some, fixH264ProfileCommon_eq hp]
  by_cases hvalid : ProfileValidAt data p
  · simp only [if_pos hvalid]
  · simp only [if_neg hvalid]

theorem repaired_annexB {data : Bytes} {i : ℕ} (hlen : 8 ≤ data.length)
    (hformat : data[0]? ≠ some 1) (hfirst : FirstSpsAt data i) : Repaired data (i + 4) := by
  have hi := hfirst.1.2.1
  have hfound : findSPSInAnnexB data = some (some (i + 4)) := by
    rcases findSPSInAnnexB_first hlen with ⟨-, hnone⟩ | ⟨j, hfound, hj⟩
    · exact absurd hfirst.1 (hnone i)
    · rw [hfound, hj.unique hfirst]
  have hfix := fixH264ProfileIfNeeded_eq hlen (p := i + 4) (by omega) (by rw [if_neg hformat, hfound])
  by_cases hvalid : ProfileValidAt data (i + 4)
  · rw [if_pos hvalid] at hfix
    refine ⟨false, data, hfix, .annexB i hformat hfirst, hvalid, ?_⟩
    simp [hvalid]
  · rw [if_neg hvalid] at hfix
    refine ⟨true, withBaseline data i, hfix, .annexB i ?_ hfirst.withBaseline, ?_, ?_⟩
    · rwa [withBaseline_getElem? (by omega) (by omega)]
    · exact ⟨66, withBaseline_profile (by omega), by decide⟩
    · simp [hvalid]

/-- In a record the bytes of the parameter set stay as they are. -/
theorem repaired_avcC_iff {record : AvcC} (hsps : record.sps ≠ []) :
    Repaired record.bytes (8 + 1) ↔
      ProfileValidAt record.bytes 1 ∧ ProfileValidAt record.bytes (8 + 1) := by
  obtain ⟨sps, rest, hrecord⟩ := List.exists_cons_of_ne_nil hsps
  have htype := record.sps_type sps (by rw [hrecord]; exact List.mem_cons_self)
  have hlen := AvcC.length_le hrecord
  have hfix := fixH264ProfileIfNeeded_eq (by omega : 8 ≤ record.bytes.length)
    (by omega : 1 < record.bytes.length) (by rfl)
  have hsame : ProfileValidAt record.withBaseline.bytes (8 + 1) ↔
      ProfileValidAt record.bytes (8 + 1) := by
    rw [ProfileValidAt, ProfileValidAt, AvcC.bytes_sps hrecord (by omega),
      AvcC.bytes_sps (show record.withBaseline.sps = sps :: rest from hrecord) (by omega)]
  by_cases hheader : ProfileValidAt record.bytes 1
  · rw [if_pos hheader] at hfix
    constructor
    · rintro ⟨repaired, out, hout, -, hvalid, -⟩
      rw [hfix] at hout
      cases hout
      exact ⟨hheader, hvalid⟩
    · rintro ⟨-, hvalid⟩
      refine ⟨false, _, hfix, .avcC record rfl hsps, hvalid, ?_⟩
      simp [hvalid]
  · rw [if_neg hheader, AvcC.bytes_set] at hfix
    constructor
    · rintro ⟨repaired, out, hout, -, hvalid, hanswer⟩
      rw [hfix] at hout
      cases hout
      exact absurd (hsame.mp hvalid) (hanswer.mp rfl)
    · rintro ⟨hvalid, -⟩
      exact absurd hvalid hheader

/-- The repair reaches the first parameter set except in a record with something to repair. -/
theorem extradata_repaired_iff (data : Bytes) (p : ℕ) (hlen : 8 ≤ data.length)
    (hplace : ProfilePlace data p) :
    Repaired data p ↔ (data[0]? = some 1 → ProfileValidAt data 1 ∧ ProfileValidAt data p) := by
  cases hplace with
  | annexB i hformat hfirst =>
    constructor
    · intro _ hone
      exact absurd hone hformat
    · intro _
      exact repaired_annexB hlen hformat hfirst
  | avcC record hbytes hsps =>
    subst hbytes
    rw [repaired_avcC_iff hsps]
    constructor
    · intro h _
      exact h
    · intro h
      exact h rfl

/-- A record with one parameter set of the profile given, and one picture parameter set. -/
def oneSps (profile : UInt8) : AvcC where
  profile := profile
  compatibility := 0
  level := 30
  lengthSize := 0xFF
  sps := [[0x67, profile, 0, 30]]
  pps := [[0x68, 0xCE]]
  extension := []
  sps_count := by simp
  pps_count := by simp
  unit_size := by simp
  sps_type := by
    intro u hu
    rw [List.mem_singleton.mp hu]
    exact ⟨by simp, 0x67, rfl, by decide⟩

/-- Behind a start code the parameter set of the unknown profile 99 becomes baseline. -/
theorem extradata_repaired_iff_annexB :
    Repaired [0, 0, 0, 1, 0x67, 99, 0, 30] 5 ∧
      ¬ProfileValidAt [0, 0, 0, 1, 0x67, 99, 0, 30] 5 :=
  ⟨(extradata_repaired_iff [0, 0, 0, 1, 0x67, 99, 0, 30] 5 (by decide)
    (.annexB 1 (by decide) (by decide))).mpr fun hone => absurd hone (by decide), by decide⟩

/-- The header of a record with the unknown profile 99 is repaired, its parameter set is not. -/
theorem extradata_not_repaired_unknown :
    (oneSps 99).Agrees ∧ ProfilePlace (oneSps 99).bytes 9 ∧ ¬Repaired (oneSps 99).bytes 9 := by
  refine ⟨⟨_, List.mem_cons_self, rfl⟩, .avcC (oneSps 99) rfl (by decide), ?_⟩
  rintro ⟨repaired, out, hout, -, hvalid, -⟩
  have hfix : fixH264ProfileIfNeeded ⟨.h264, some (oneSps 99).bytes⟩ =
      some (true, ⟨.h264, some (oneSps 99).withBaseline.bytes⟩) := by decide
  rw [hfix] at hout
  cases hout
  revert hvalid
  decide

end DecoderSDK.Bitstream
