import DecoderSDK.Bitstream.SeiWriting

/-! # Emulation prevention

The insertion looks back at the bytes it has written, the removal looks ahead at
three bytes and skips the third. They are kept aligned by the zero bytes at the
end of what has been written since the last inserted byte, never more than two.
-/
namespace DecoderSDK.Bitstream
open Bytes

/-- A byte up to three is preceded by a three when two zero bytes stand before it. The first list
holds the bytes written since the last inserted one, the newest first. -/
def insertEPBFrom : Bytes → Bytes → Bytes
  | _, [] => []
  | emitted, b :: rest =>
    if emitted.take 2 = [0, 0] ∧ b ≤ 3 then 3 :: b :: insertEPBFrom [b] rest
    else b :: insertEPBFrom (b :: emitted) rest

def insertEPB (bytes : Bytes) : Bytes := insertEPBFrom [] bytes

/-- The zero bytes that have just been written. -/
def zerosWritten (emitted : Bytes) : ℕ := (emitted.takeWhile (· = 0)).length

theorem zerosWritten_cons (b : UInt8) (emitted : Bytes) :
    zerosWritten (b :: emitted) = if b = 0 then zerosWritten emitted + 1 else 0 := by
  by_cases hb : b = 0
  · simp [zerosWritten, hb]
  · simp [zerosWritten, hb]

theorem two_le_zerosWritten (emitted : Bytes) :
    2 ≤ zerosWritten emitted ↔ emitted.take 2 = [0, 0] := by
  match emitted with
  | [] => simp [zerosWritten]
  | [b] =>
    rw [zerosWritten_cons]
    split_ifs <;> simp [zerosWritten]
  | b :: c :: emitted =>
    rw [zerosWritten_cons, zerosWritten_cons]
    by_cases hb : b = 0
    · by_cases hc : c = 0
      · simp [hb, hc]
      · simp [hb, hc]
    · simp [hb]

/-- Only the number of zero bytes matters of what has been written, and an insertion comes before
it exceeds two. -/
theorem insertEPBFrom_eq (emitted bytes : Bytes) (h : zerosWritten emitted ≤ 2) :
    insertEPBFrom emitted bytes = escapeFrom (zerosWritten emitted) bytes := by
  induction bytes generalizing emitted with
  | nil => rfl
  | cons b rest ih =>
    have htwo : emitted.take 2 = [0, 0] ↔ zerosWritten emitted = 2 := by
      rw [← two_le_zerosWritten]
      omega
    rw [insertEPBFrom, escapeFrom]
    simp only [htwo]
    by_cases hinsert : zerosWritten emitted = 2 ∧ b ≤ 3
    · have hnext : zerosWritten [b] = if b = 0 then 1 else 0 := zerosWritten_cons b []
      have hle : zerosWritten [b] ≤ 2 := by
        rw [hnext]
        split_ifs <;> omega
      rw [if_pos hinsert, if_pos hinsert, ih [b] hle, hnext]
    · have hle : zerosWritten (b :: emitted) ≤ 2 := by
        rw [zerosWritten_cons]
        split_ifs with hb
        · have hsmall : b ≤ 3 := by
            rw [hb]
            decide
          have hne : zerosWritten emitted ≠ 2 := fun htwo => hinsert ⟨htwo, hsmall⟩
          omega
        · exact Nat.zero_le 2
      rw [if_neg hinsert, if_neg hinsert, ih (b :: emitted) hle, zerosWritten_cons]

/-- The removal gives back every sequence of bytes. -/
theorem removeEPB_insertEPB (bytes : Bytes) : removeEPB (insertEPB bytes) = some bytes := by
  have hescape : insertEPB bytes = escape bytes := insertEPBFrom_eq [] bytes (Nat.zero_le 2)
  rw [hescape, removeEPB_escape]

/-- A run of zero bytes and a three after zero bytes both get an inserted byte. -/
example : insertEPB [0, 0, 0, 0, 3, 0, 0] = [0, 0, 3, 0, 0, 3, 3, 0, 0] := by decide

end DecoderSDK.Bitstream
