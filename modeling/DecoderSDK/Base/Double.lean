import Mathlib

/-! # Double precision numbers

`Float` is the double: its operations round, and it has infinities and a value
that is not a number. Equal doubles are the same but for the sign of zero.
-/
namespace DecoderSDK.Double

/-- The number that a double stands for, if it is one. -/
def value (x : Float) : Option ℚ :=
  match x.toModel.unpack with
  | .finite s m e _ => some (s.apply m * 2 ^ e)
  | .zero _ => some 0
  | .infinity _ => none
  | .notANumber => none

/-- Equal doubles stand for the same number. -/
theorem value_congr {a b : Float} (h : (a == b) = true) : value a = value b := by
  rcases Float.beq_iff_ne_nan_and_eq.mp h with ⟨-, -, rfl | ⟨rfl, rfl⟩ | ⟨rfl, rfl⟩⟩
  · rfl
  · rfl
  · rfl

/-- What equals a double other than zero is the same double. -/
theorem eq_of_beq {a b : Float} (h : (a == b) = true) (hb : (b == 0) = false) : a = b := by
  rcases Float.beq_iff_ne_nan_and_eq.mp h with ⟨-, -, hsame | ⟨-, rfl⟩ | ⟨-, rfl⟩⟩
  · exact hsame
  · exact absurd hb (by decide)
  · exact absurd hb (by decide)

theorem not_lt_nan (a : Float) : ¬a < Float.nan := by
  change ¬decide ((a.toModel.unpack.compare .notANumber == some .lt) = true) = true
  cases a.toModel.unpack <;> simp [Float.Model.UnpackedFloat.compare]

/-- What is greater than a double is a number or infinite. -/
theorem beq_self_of_lt {a b : Float} (h : b < a) : (a == a) = true := by
  rw [Float.beq_self_iff]
  rintro rfl
  exact not_lt_nan b h

end DecoderSDK.Double
