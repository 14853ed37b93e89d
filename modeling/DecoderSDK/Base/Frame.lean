import DecoderSDK.Bitstream.Sei

/-! # Frames

A `Frame` owns at most one `AVFrame`. Moving out of a frame takes the
`AVFrame` and the SEI list and leaves the other members; dropping the
reference keeps an empty `AVFrame`.
-/
namespace DecoderSDK
open Bitstream

/-- The owned `AVFrame`: no object, an object without data, or a picture. -/
inductive AVFrame (π : Type*) where
  | null
  | blank
  | data (picture : π)
  deriving DecidableEq

structure Frame (π : Type*) where
  frame : AVFrame π
  serial : ℕ
  duration : ℚ
  pts : ℚ
  mediaType : Option MediaType
  userSEIDataList : List UserSEIData
  deriving DecidableEq

namespace Frame
variable {π : Type*}

/-- A new frame: nothing is allocated before it is needed. -/
def new : Frame π := ⟨.null, 0, 0, 0, none, []⟩

def ensureAllocated (f : Frame π) : Frame π :=
  match f.frame with
  | .null => { f with frame := .blank }
  | _ => f

def unref (f : Frame π) : Frame π :=
  match f.frame with
  | .null => f
  | _ => { f with frame := .blank }

/-- What a move leaves behind. -/
def moved (f : Frame π) : Frame π := { f with frame := .null, userSEIDataList := [] }

/-- A copy: only a picture is copied, and only if a reference can be taken. -/
def copied (f : Frame π) (ref : Bool) : Frame π :=
  { f with frame := match f.frame with
      | .data p => if ref then .data p else .null
      | _ => .null }

end Frame

end DecoderSDK
