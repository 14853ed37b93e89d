import DecoderSDK.Interleaving.Runs
import DecoderSDK.Ownership.Ledger

/-! # The conversion of pictures

A decoded picture is copied to the host when it has to be there and converted
when its format is not the one that was asked for. Either takes a buffer, in a
frame that the decoder keeps until the copy succeeds. Every call of FFmpeg may
fail; the picture that goes on to the queue and the buffers that were taken
are accounted for. A frame that could not be allocated and an accelerator that
is gone are null pointers, and some of them are followed.
-/
namespace DecoderSDK.Video
open Ownership Interleaving

/-- A buffer of the codec, or one that was taken for a conversion. -/
inductive Buffer where
  | codec (n : ℕ)
  | taken (n : ℕ)
  deriving DecidableEq

/-- A picture; `props` is what `av_frame_copy_props` copies. -/
structure FramePicture (π : Type*) where
  hardware : Bool
  pixelFormat : ℤ
  width : ℕ
  height : ℕ
  props : π
  buffer : Buffer

def AV_PIX_FMT_NV12 : ℤ := 23

/-- `av_frame_get_buffer` takes a buffer, refuses the parameters, or finds no memory and leaves
the frame blank. What the frame held before is lost unless it is refused. -/
inductive GetBuffer where
  | taken
  | refused
  | exhausted

/-- The answers of FFmpeg during the conversion of one picture: `frameAlloc`, `swsFrameAlloc` and
`copyAlloc` are those of `av_frame_alloc` for the two kept frames and for a copy of the picture. -/
structure ConversionAnswers where
  frameAlloc : Bool
  getBuffer : Bool
  transferData : Bool
  swsFrameAlloc : Bool
  cachedContext : Bool
  swsGetBuffer : GetBuffer
  scale : Bool
  copyAlloc : Bool
  ref : Bool

/-- The part of the video decoder that converts. A kept frame is absent, blank or holds a
buffer; the accelerator is absent, or its `hwPixFmt` is unless it is initialised. -/
structure FrameConverter where
  softPixelFormat : ℤ
  requireFrameInMemory : Bool
  hwAccel : Option (Option ℤ)
  memoryFrame : Option (Option ℕ)
  swsFrame : Option (Option ℕ)
  buffers : Ledger
  decodeErrors : ℕ
  failedScales : ℕ

namespace FrameConverter
variable {π : Type*}

def new (softPixelFormat : ℤ) (requireFrameInMemory : Bool) : FrameConverter :=
  ⟨softPixelFormat, requireFrameInMemory, none, none, none, .empty, 0, 0⟩

/-- The buffers that the kept frames hold. -/
def held (c : FrameConverter) : List ℕ := c.memoryFrame.join.toList ++ c.swsFrame.join.toList

def handleDecodeError (c : FrameConverter) : FrameConverter :=
  { c with decodeErrors := c.decodeErrors + 1 }

/-- `HardwareAccel::transferFrameToHost` into an allocated frame. -/
def transferFrameToHost (c : FrameConverter) (hwPixFmt : Option ℤ) (kept : Option ℕ)
    (hwFrame : FramePicture π) (a : ConversionAnswers) :
    Option (FramePicture π) × FrameConverter :=
  if hwPixFmt = some hwFrame.pixelFormat then
    let l := c.buffers.free kept.toList
    if a.getBuffer then
      let c := { c with
        memoryFrame := some (some l.taken)
        buffers := l.take }
      if a.transferData then
        (some ⟨false, AV_PIX_FMT_NV12, hwFrame.width, hwFrame.height, hwFrame.props,
          .taken l.taken⟩, c)
      else (none, c)
    else
      (none, { c with
        memoryFrame := some none
        buffers := l })
  else (none, { c with memoryFrame := some kept })

/-- The outer option is for a null pointer that is followed. -/
def transferHardwareFrame (c : FrameConverter) (hwFrame : FramePicture π)
    (a : ConversionAnswers) : Option (Option (FramePicture π) × FrameConverter) :=
  c.hwAccel.map fun hwPixFmt =>
    match if c.memoryFrame.isNone && a.frameAlloc then some none else c.memoryFrame with
    | none => (none, c.handleDecodeError)
    | some kept =>
      match c.transferFrameToHost hwPixFmt kept hwFrame a with
      | (none, c) => (none, c.handleDecodeError)
      | (some p, c) => (some p, { c with memoryFrame := none })

/-- The scaling into an allocated frame, with a context. -/
def scale (c : FrameConverter) (kept : Option ℕ) (frame : FramePicture π)
    (a : ConversionAnswers) : Option (FramePicture π) × FrameConverter :=
  match a.swsGetBuffer with
  | .refused => (none, handleDecodeError { c with swsFrame := some kept })
  | .exhausted =>
    (none, handleDecodeError { c with
      swsFrame := some none
      buffers := c.buffers.lose kept.toList })
  | .taken =>
    let l := c.buffers.lose kept.toList
    if a.scale then
      (some ⟨false, c.softPixelFormat, frame.width, frame.height, frame.props, .taken l.taken⟩,
        { c with
          swsFrame := none
          buffers := l.take })
    else
      (none, handleDecodeError { c with
        swsFrame := some (some l.taken)
        buffers := l.take
        failedScales := c.failedScales + 1 })

/-- `av_frame_get_buffer` follows the pointer to a frame that was not allocated. -/
def convertSoftwareFrame (c : FrameConverter) (frame : FramePicture π) (a : ConversionAnswers) :
    Option (Option (FramePicture π) × FrameConverter) :=
  match if c.swsFrame.isNone && a.swsFrameAlloc then some none else c.swsFrame with
  | none => if a.cachedContext then none else some (none, c.handleDecodeError)
  | some kept =>
    if a.cachedContext then some (c.scale kept frame a)
    else some (none, handleDecodeError { c with swsFrame := some kept })

/-- A copy of the picture, whose reference may fail; the pointer to its frame is followed. -/
def copyFrame (inputFrame : FramePicture π) (a : ConversionAnswers) :
    Option (Option (FramePicture π)) :=
  if a.copyAlloc then some (if a.ref then some inputFrame else none) else none

/-- The buffer of a converted picture. -/
def flight (p : Option (FramePicture π)) : List ℕ :=
  match p.map FramePicture.buffer with
  | some (.taken b) => [b]
  | _ => []

/-- A converted picture goes on to the queue, or is destroyed. -/
def dispose (c : FrameConverter) (p : Option (FramePicture π)) (goesOn : Bool) : FrameConverter :=
  { c with
    buffers := if goesOn then c.buffers.hand (flight p) else c.buffers.free (flight p) }

/-- The picture that goes on, or none. -/
def processFrameConversion (c : FrameConverter) (inputFrame : FramePicture π)
    (a : ConversionAnswers) : Option (Option (FramePicture π) × FrameConverter) :=
  if !inputFrame.hardware && !c.requireFrameInMemory &&
      decide (inputFrame.pixelFormat = c.softPixelFormat) then
    (copyFrame inputFrame a).map fun copy => (copy, c)
  else if inputFrame.hardware && c.requireFrameInMemory then
    (c.transferHardwareFrame inputFrame a).bind fun
      | (none, c) => some (none, c)
      | (some memoryFrame, c) =>
        if memoryFrame.pixelFormat ≠ c.softPixelFormat then
          (c.convertSoftwareFrame memoryFrame a).map fun r =>
            (r.1, (r.2.dispose r.1 true).dispose (some memoryFrame) false)
        else some (some memoryFrame, c.dispose (some memoryFrame) true)
  else if !inputFrame.hardware && decide (inputFrame.pixelFormat ≠ c.softPixelFormat) then
    (c.convertSoftwareFrame inputFrame a).map fun r => (r.1, r.2.dispose r.1 true)
  else (copyFrame inputFrame a).map fun copy => (copy, c)

/-- A decoder is set up anew, told where frames have to be, given or deprived of an accelerator,
or converts a picture of the codec. -/
inductive Op (π : Type*) where
  | init (softPixelFormat : ℤ) (requireFrameInMemory : Bool)
  | requireFrameInSystemMemory (required : Bool)
  | setHardware (hwAccel : Option (Option ℤ))
  | convert (inputFrame : FramePicture π) (a : ConversionAnswers)

def step (c : FrameConverter) : Op π → Option FrameConverter
  | .init softPixelFormat requireFrameInMemory =>
    some { c with
      softPixelFormat := softPixelFormat
      requireFrameInMemory := requireFrameInMemory }
  | .requireFrameInSystemMemory required => some { c with requireFrameInMemory := required }
  | .setHardware hwAccel => some { c with hwAccel := hwAccel }
  | .convert inputFrame a => (c.processFrameConversion inputFrame a).map Prod.snd

/-- The picture is copied to the host. -/
def Transfers (c : FrameConverter) (inputFrame : FramePicture π) (a : ConversionAnswers) : Prop :=
  c.hwAccel = some (some inputFrame.pixelFormat) ∧
    (c.memoryFrame.isSome = true ∨ a.frameAlloc = true) ∧ a.getBuffer = true ∧
    a.transferData = true

/-- A conversion takes a frame that is not there, for a context that is. -/
def ScalesNull (c : FrameConverter) (a : ConversionAnswers) : Prop :=
  c.swsFrame = none ∧ a.swsFrameAlloc = false ∧ a.cachedContext = true

/-- When a null pointer is followed: a copy of the picture has no frame, a conversion has none, or
a picture has to be transferred without an accelerator. -/
def FollowsNull (c : FrameConverter) (inputFrame : FramePicture π) (a : ConversionAnswers) : Prop :=
  if inputFrame.hardware then
    if c.requireFrameInMemory then
      c.hwAccel = none ∨
        c.Transfers inputFrame a ∧ AV_PIX_FMT_NV12 ≠ c.softPixelFormat ∧ c.ScalesNull a
    else a.copyAlloc = false
  else if inputFrame.pixelFormat = c.softPixelFormat then a.copyAlloc = false
  else c.ScalesNull a

/-- The destructor releases the kept frames. -/
def destroy (c : FrameConverter) : FrameConverter :=
  { c with
    memoryFrame := none
    swsFrame := none
    buffers := c.buffers.free c.held }

/-- Every buffer is accounted for, some of them in pictures on their way, and each buffer that is
lost was left by a scaling that failed. -/
structure Carries (c : FrameConverter) (onWay : List ℕ) : Prop where
  accounts : c.buffers.Accounts (onWay ++ c.held)
  lost : c.buffers.lost.length + c.swsFrame.join.toList.length = c.failedScales

variable {c : FrameConverter} {onWay : List ℕ}

theorem new_carries (softPixelFormat : ℤ) (requireFrameInMemory : Bool) :
    (new softPixelFormat requireFrameInMemory).Carries [] :=
  ⟨Ledger.empty_accounts, rfl⟩

theorem Carries.handleDecodeError (h : c.Carries onWay) : c.handleDecodeError.Carries onWay :=
  ⟨h.accounts, h.lost⟩

theorem Carries.dispose {p : Option (FramePicture π)} (h : c.Carries (flight p ++ onWay))
    (goesOn : Bool) : (c.dispose p goesOn).Carries onWay := by
  have haccounts : c.buffers.Accounts (flight p ++ (onWay ++ c.held)) := by
    rw [← List.append_assoc]
    exact h.accounts
  cases goesOn with
  | false => exact ⟨haccounts.free, h.lost⟩
  | true => exact ⟨haccounts.hand, h.lost⟩

/-- What a copy to the host can do: the buffer of the copy before is given back first. -/
inductive Transferred (c : FrameConverter) (hwFrame : FramePicture π) :
    Option (FramePicture π) × FrameConverter → Prop where
  | noFrame : Transferred c hwFrame (none, c.handleDecodeError)
  | refused : Transferred c hwFrame
      (none, handleDecodeError { c with memoryFrame := some c.memoryFrame.join })
  | exhausted : Transferred c hwFrame
      (none, handleDecodeError { c with
        memoryFrame := some none
        buffers := c.buffers.free c.memoryFrame.join.toList })
  | notCopied : Transferred c hwFrame
      (none, handleDecodeError { c with
        memoryFrame := some (some c.buffers.taken)
        buffers := (c.buffers.free c.memoryFrame.join.toList).take })
  | copied : Transferred c hwFrame
      (some ⟨false, AV_PIX_FMT_NV12, hwFrame.width, hwFrame.height, hwFrame.props,
        .taken c.buffers.taken⟩,
        { c with
          memoryFrame := none
          buffers := (c.buffers.free c.memoryFrame.join.toList).take })

theorem transferred (c : FrameConverter) (hwFrame : FramePicture π) (a : ConversionAnswers)
    {r : Option (FramePicture π) × FrameConverter}
    (hr : c.transferHardwareFrame hwFrame a = some r) : Transferred c hwFrame r := by
  rw [transferHardwareFrame, Option.map_eq_some_iff] at hr
  rcases hr with ⟨hwPixFmt, -, rfl⟩
  split
  · exact .noFrame
  · rename_i kept hkept
    have hjoin : kept = c.memoryFrame.join := by
      split_ifs at hkept with hnone
      · rw [Bool.and_eq_true, Option.isNone_iff_eq_none] at hnone
        rw [hnone.1, ← Option.some.inj hkept]
        rfl
      · rw [hkept]
        rfl
    rw [hjoin]
    unfold transferFrameToHost
    by_cases hformat : hwPixFmt = some hwFrame.pixelFormat
    · cases hbuffer : a.getBuffer with
      | false =>
        simp only [if_pos hformat]
        exact .exhausted
      | true =>
        cases hdata : a.transferData with
        | false =>
          simp only [if_pos hformat]
          exact .notCopied
        | true =>
          simp only [if_pos hformat]
          exact .copied
    · simp only [if_neg hformat]
      exact .refused

/-- What a conversion can do: the buffer that a failed scaling has left is lost. -/
inductive Converted (c : FrameConverter) (frame : FramePicture π) :
    Option (FramePicture π) × FrameConverter → Prop where
  | noFrame : Converted c frame (none, c.handleDecodeError)
  | refused : Converted c frame
      (none, handleDecodeError { c with swsFrame := some c.swsFrame.join })
  | exhausted : Converted c frame
      (none, handleDecodeError { c with
        swsFrame := some none
        buffers := c.buffers.lose c.swsFrame.join.toList })
  | notScaled : Converted c frame
      (none, handleDecodeError { c with
        swsFrame := some (some c.buffers.taken)
        buffers := (c.buffers.lose c.swsFrame.join.toList).take
        failedScales := c.failedScales + 1 })
  | scaled : Converted c frame
      (some ⟨false, c.softPixelFormat, frame.width, frame.height, frame.props,
        .taken c.buffers.taken⟩,
        { c with
          swsFrame := none
          buffers := (c.buffers.lose c.swsFrame.join.toList).take })

theorem scaled (c : FrameConverter) (frame : FramePicture π) (a : ConversionAnswers) :
    Converted c frame (c.scale c.swsFrame.join frame a) := by
  unfold scale
  cases a.swsGetBuffer with
  | refused => exact .refused
  | exhausted => exact .exhausted
  | taken =>
    cases a.scale with
    | false => exact .notScaled
    | true => exact .scaled

/-- A frame that is allocated when it is needed. -/
theorem allocated_cases (frame : Option (Option ℕ)) (alloc : Bool) :
    (frame = none ∧ alloc = false ∧ (if frame.isNone && alloc then some none else frame) = none) ∨
      (if frame.isNone && alloc then some none else frame) = some frame.join := by
  cases frame with
  | none =>
    cases alloc with
    | false => exact .inl ⟨rfl, rfl, rfl⟩
    | true => exact .inr rfl
  | some kept => exact .inr rfl

theorem converted (c : FrameConverter) (frame : FramePicture π) (a : ConversionAnswers)
    {r : Option (FramePicture π) × FrameConverter}
    (hr : c.convertSoftwareFrame frame a = some r) : Converted c frame r := by
  rw [convertSoftwareFrame] at hr
  rcases allocated_cases c.swsFrame a.swsFrameAlloc with ⟨-, -, hframe⟩ | hframe
  · rw [hframe] at hr
    cases hcontext : a.cachedContext with
    | false =>
      simp only [hcontext, Bool.false_eq_true, if_false, Option.some.injEq] at hr
      exact hr ▸ .noFrame
    | true => simp [hcontext] at hr
  · rw [hframe] at hr
    cases hcontext : a.cachedContext with
    | false =>
      simp only [hcontext, Bool.false_eq_true, if_false, Option.some.injEq] at hr
      exact hr ▸ .refused
    | true =>
      simp only [hcontext, if_true, Option.some.injEq] at hr
      exact hr ▸ c.scaled frame a

/-- What becomes of a picture: it goes on as it is, or is transferred, converted, or both. -/
inductive Processed (c : FrameConverter) (inputFrame : FramePicture π) :
    Option (FramePicture π) × FrameConverter → Prop where
  | passed (a : ConversionAnswers)
      (hmemory : inputFrame.hardware = true → c.requireFrameInMemory = false)
      (hformat : inputFrame.hardware = false → inputFrame.pixelFormat = c.softPixelFormat) :
      Processed c inputFrame (if a.ref then some inputFrame else none, c)
  | converted (r : Option (FramePicture π) × FrameConverter) (hr : Converted c inputFrame r) :
      Processed c inputFrame (r.1, r.2.dispose r.1 true)
  | notTransferred (c' : FrameConverter) (hr : Transferred c inputFrame (none, c')) :
      Processed c inputFrame (none, c')
  | transferred (p : FramePicture π) (c' : FrameConverter)
      (hr : Transferred c inputFrame (some p, c')) (hformat : p.pixelFormat = c'.softPixelFormat) :
      Processed c inputFrame (some p, c'.dispose (some p) true)
  | both (p : FramePicture π) (c' : FrameConverter) (r : Option (FramePicture π) × FrameConverter)
      (hr : Transferred c inputFrame (some p, c')) (hr' : Converted c' p r) :
      Processed c inputFrame (r.1, (r.2.dispose r.1 true).dispose (some p) false)

theorem copyFrame_cases {inputFrame : FramePicture π} {a : ConversionAnswers}
    {r : Option (FramePicture π) × FrameConverter}
    (hr : ((copyFrame inputFrame a).map fun copy => (copy, c)) = some r) :
    r = (if a.ref then some inputFrame else none, c) := by
  rw [Option.map_eq_some_iff] at hr
  rcases hr with ⟨copy, hcopy, rfl⟩
  rw [copyFrame, Option.ite_none_right_eq_some, Option.some.injEq] at hcopy
  rw [hcopy.2]

theorem processed (c : FrameConverter) (inputFrame : FramePicture π) (a : ConversionAnswers)
    {r : Option (FramePicture π) × FrameConverter}
    (hr : c.processFrameConversion inputFrame a = some r) : Processed c inputFrame r := by
  unfold processFrameConversion at hr
  split at hr
  · rename_i hplain
    simp only [Bool.and_eq_true, Bool.not_eq_true', decide_eq_true_eq] at hplain
    rw [copyFrame_cases hr]
    refine .passed a ?_ fun _ => hplain.2
    intro hhardware
    exact absurd (hhardware.symm.trans hplain.1.1) (by decide)
  · split at hr
    · rw [Option.bind_eq_some_iff] at hr
      rcases hr with ⟨⟨p, c'⟩, htransfer, hr⟩
      have htransferred := c.transferred inputFrame a htransfer
      cases p with
      | none => exact Option.some.inj hr ▸ .notTransferred c' htransferred
      | some p =>
        dsimp only at hr
        split at hr
        · rw [Option.map_eq_some_iff] at hr
          rcases hr with ⟨r', hconvert, rfl⟩
          exact .both p c' r' htransferred (c'.converted p a hconvert)
        · rename_i hformat
          exact Option.some.inj hr ▸ .transferred p c' htransferred (not_not.mp hformat)
    · rename_i hmemory
      simp only [Bool.and_eq_true, not_and, Bool.not_eq_true] at hmemory
      split at hr
      · rw [Option.map_eq_some_iff] at hr
        rcases hr with ⟨r', hconvert, rfl⟩
        exact .converted r' (c.converted inputFrame a hconvert)
      · rename_i hformat
        simp only [Bool.and_eq_true, Bool.not_eq_true', decide_eq_true_eq, not_and,
          not_not] at hformat
        rw [copyFrame_cases hr]
        exact .passed a hmemory hformat

theorem convertSoftwareFrame_eq_none (c : FrameConverter) (frame : FramePicture π)
    (a : ConversionAnswers) : c.convertSoftwareFrame frame a = none ↔ c.ScalesNull a := by
  rw [convertSoftwareFrame, ScalesNull]
  rcases allocated_cases c.swsFrame a.swsFrameAlloc with ⟨hnone, halloc, hframe⟩ | hframe
  · rw [hframe]
    simp [hnone, halloc]
  · rw [hframe]
    cases a.cachedContext with
    | false => simp
    | true =>
      have hthere : ¬(c.swsFrame = none ∧ a.swsFrameAlloc = false) := by
        rintro ⟨hnone, halloc⟩
        rw [hnone, halloc] at hframe
        cases hframe
      simpa using hthere

/-- What a transfer that is possible gives. -/
theorem transferHardwareFrame_of_transfers {inputFrame : FramePicture π} {a : ConversionAnswers}
    (h : c.Transfers inputFrame a) : ∃ p c', c.transferHardwareFrame inputFrame a =
      some (some p, c') ∧ p.pixelFormat = AV_PIX_FMT_NV12 ∧
      c'.softPixelFormat = c.softPixelFormat ∧ c'.swsFrame = c.swsFrame := by
  rcases h with ⟨haccel, hframe, hbuffer, hdata⟩
  rcases allocated_cases c.memoryFrame a.frameAlloc with ⟨hnone, halloc, -⟩ | hkept
  · rw [hnone, halloc] at hframe
    simp at hframe
  · have htransfer : c.transferHardwareFrame inputFrame a =
        some (some ⟨false, AV_PIX_FMT_NV12, inputFrame.width, inputFrame.height, inputFrame.props,
          .taken c.buffers.taken⟩,
          { c with
            memoryFrame := none
            buffers := (c.buffers.free c.memoryFrame.join.toList).take }) := by
      rw [transferHardwareFrame, haccel, Option.map_some, hkept]
      simp only [transferFrameToHost, hbuffer, hdata, if_true, haccel]
      rfl
    exact ⟨_, _, htransfer, rfl, rfl, rfl⟩

theorem transferHardwareFrame_of_not_transfers {inputFrame : FramePicture π}
    {a : ConversionAnswers} {hwPixFmt : Option ℤ} (haccel : c.hwAccel = some hwPixFmt)
    (h : ¬c.Transfers inputFrame a) :
    ∃ c', c.transferHardwareFrame inputFrame a = some (none, c') := by
  rw [transferHardwareFrame, haccel, Option.map_some]
  rcases allocated_cases c.memoryFrame a.frameAlloc with ⟨-, -, hkept⟩ | hkept
  · exact ⟨_, by rw [hkept]⟩
  · rw [hkept]
    simp only [transferFrameToHost]
    by_cases hformat : hwPixFmt = some inputFrame.pixelFormat
    · rw [if_pos hformat]
      cases hbuffer : a.getBuffer with
      | false => exact ⟨_, rfl⟩
      | true =>
        cases hdata : a.transferData with
        | false => exact ⟨_, rfl⟩
        | true =>
          refine absurd ⟨hformat ▸ haccel, ?_, hbuffer, hdata⟩ h
          cases hframe : c.memoryFrame with
          | none =>
            rw [hframe] at hkept
            cases halloc : a.frameAlloc with
            | false =>
              rw [halloc] at hkept
              cases hkept
            | true => exact .inr rfl
          | some kept => exact .inl rfl
    · rw [if_neg hformat]
      exact ⟨_, rfl⟩

theorem copyFrame_eq_none (inputFrame : FramePicture π) (a : ConversionAnswers) :
    copyFrame inputFrame a = none ↔ a.copyAlloc = false := by
  simp [copyFrame]

/-- A null pointer is followed exactly in these cases. -/
theorem processFrameConversion_eq_none (c : FrameConverter) (inputFrame : FramePicture π)
    (a : ConversionAnswers) :
    c.processFrameConversion inputFrame a = none ↔ c.FollowsNull inputFrame a := by
  unfold processFrameConversion FollowsNull
  cases hhardware : inputFrame.hardware with
  | false =>
    by_cases hformat : inputFrame.pixelFormat = c.softPixelFormat
    · cases c.requireFrameInMemory <;> simp [hformat, copyFrame_eq_none]
    · simp [hformat, convertSoftwareFrame_eq_none]
  | true =>
    cases hmemory : c.requireFrameInMemory with
    | false => simp [copyFrame_eq_none]
    | true =>
      simp only [Bool.not_true, Bool.false_and, Bool.false_eq_true, if_false, Bool.and_self,
        if_true]
      by_cases htransfers : c.Transfers inputFrame a
      · rcases transferHardwareFrame_of_transfers htransfers with ⟨p, c', htransfer, hp, hc', hsws⟩
        have haccel : c.hwAccel ≠ none := by simp [htransfers.1]
        rw [htransfer, Option.bind_some]
        dsimp only
        rw [hp, hc']
        by_cases hformat : AV_PIX_FMT_NV12 = c.softPixelFormat
        · simp [hformat, haccel]
        · have hscales : c'.ScalesNull a ↔ c.ScalesNull a := by simp only [ScalesNull, hsws]
          simp [hformat, haccel, htransfers, convertSoftwareFrame_eq_none, hscales]
      · cases haccel : c.hwAccel with
        | none => simp [transferHardwareFrame, haccel]
        | some hwPixFmt =>
          rcases transferHardwareFrame_of_not_transfers haccel htransfers with ⟨c', htransfer⟩
          simp [htransfer, htransfers]

theorem Carries.transferred (h : c.Carries onWay) {hwFrame : FramePicture π}
    {r : Option (FramePicture π) × FrameConverter} (hr : Transferred c hwFrame r) :
    r.2.Carries (flight r.1 ++ onWay) := by
  have hfree : (c.buffers.free c.memoryFrame.join.toList).Accounts
      (onWay ++ c.swsFrame.join.toList) :=
    (h.accounts.perm (List.perm_append_comm_assoc _ _ _)).free
  cases hr with
  | noFrame => exact h.handleDecodeError
  | refused => exact ⟨h.accounts, h.lost⟩
  | exhausted => exact ⟨hfree, h.lost⟩
  | notCopied => exact ⟨hfree.take.perm (List.perm_append_comm_assoc _ [_] _), h.lost⟩
  | copied => exact ⟨hfree.take, h.lost⟩

theorem Carries.converted (h : c.Carries onWay) {frame : FramePicture π}
    {r : Option (FramePicture π) × FrameConverter} (hr : Converted c frame r) :
    r.2.Carries (flight r.1 ++ onWay) := by
  have hlose : (c.buffers.lose c.swsFrame.join.toList).Accounts
      (onWay ++ c.memoryFrame.join.toList) := by
    refine (h.accounts.perm ?_).lose
    rw [held, ← List.append_assoc onWay]
    exact List.perm_append_comm
  have hlost : (c.buffers.lose c.swsFrame.join.toList).lost.length = c.failedScales := by
    rw [Ledger.lose, List.length_append, add_comm]
    exact h.lost
  cases hr with
  | noFrame => exact h.handleDecodeError
  | refused => exact ⟨h.accounts, h.lost⟩
  | exhausted =>
    refine ⟨hlose.perm ?_, hlost⟩
    simp [held, FrameConverter.handleDecodeError, flight]
  | notScaled =>
    refine ⟨hlose.take.perm ?_, congrArg (· + 1) hlost⟩
    have hlast : ((onWay ++ c.memoryFrame.join.toList) ++ [c.buffers.taken]).Perm
        (c.buffers.taken :: (onWay ++ c.memoryFrame.join.toList)) :=
      List.perm_append_singleton _ _
    rw [List.append_assoc] at hlast
    exact hlast
  | scaled =>
    refine ⟨hlose.take.perm ?_, hlost⟩
    simp [held, flight, Ledger.lose]

theorem Carries.processed (h : c.Carries []) {inputFrame : FramePicture π}
    {r : Option (FramePicture π) × FrameConverter} (hr : Processed c inputFrame r) :
    r.2.Carries [] := by
  cases hr with
  | passed a _ _ => exact h
  | converted r hr => exact (h.converted hr).dispose true
  | notTransferred c' hr => exact h.transferred hr
  | transferred p c' hr _ => exact (h.transferred hr).dispose true
  | both p c' r hr hr' => exact (((h.transferred hr).converted hr').dispose true).dispose false

theorem Carries.step (h : c.Carries []) {op : Op π} {c' : FrameConverter}
    (hstep : c.step op = some c') : c'.Carries [] := by
  cases op with
  | convert inputFrame a =>
    rw [FrameConverter.step, Option.map_eq_some_iff] at hstep
    rcases hstep with ⟨r, hr, rfl⟩
    exact h.processed (c.processed inputFrame a hr)
  | _ => exact Option.some.inj hstep ▸ ⟨h.accounts, h.lost⟩

theorem run_carries {c' : FrameConverter} {ops : List (Op π)} (h : c.Carries [])
    (hrun : run step c ops = some c') : c'.Carries [] := by
  have hinvariant := run_invariant
    (fun (c : FrameConverter) (_ : Op π) _ (h : c.Carries []) hstep => h.step hstep) h hrun
  exact hinvariant

theorem Carries.destroy (h : c.Carries []) : c.destroy.buffers.Accounts [] :=
  Ledger.Accounts.free ((List.append_nil c.held).symm ▸ h.accounts)

/-- A picture that goes on is where it has to be and in the format asked for, and otherwise the
picture that came in; it is in no buffer that was there before unless it is that picture. One
error is reported for each picture that could not be converted. -/
structure Kept (c : FrameConverter) (inputFrame : FramePicture π)
    (r : Option (FramePicture π) × FrameConverter) : Prop where
  inMemory : ∀ p, r.1 = some p → p.hardware = true → c.requireFrameInMemory = false
  inFormat : ∀ p, r.1 = some p → p.hardware = false → p.pixelFormat = c.softPixelFormat
  same : ∀ p, r.1 = some p → p.width = inputFrame.width ∧ p.height = inputFrame.height ∧
    p.props = inputFrame.props
  fresh : ∀ p, r.1 = some p → p = inputFrame ∨
    ∃ b, p.buffer = .taken b ∧ c.buffers.taken ≤ b ∧ b ∈ r.2.buffers.handed
  reported : r.1 = none ∧ r.2.decodeErrors = c.decodeErrors + 1 ∨
    r.2.decodeErrors = c.decodeErrors ∧ (r.1 = none → r.2 = c)

variable {inputFrame : FramePicture π}

theorem kept_of_none {c' : FrameConverter} (h : c'.decodeErrors = c.decodeErrors + 1) :
    Kept c inputFrame (none, c') :=
  ⟨nofun, nofun, nofun, nofun, .inl ⟨rfl, h⟩⟩

/-- A picture in a buffer that was taken for it. -/
theorem kept_of_some {p : FramePicture π} {c' : FrameConverter} {b : ℕ}
    (hhardware : p.hardware = false) (hformat : p.pixelFormat = c.softPixelFormat)
    (hsame : p.width = inputFrame.width ∧ p.height = inputFrame.height ∧
      p.props = inputFrame.props)
    (hbuffer : p.buffer = .taken b) (hfresh : c.buffers.taken ≤ b)
    (hhanded : b ∈ c'.buffers.handed) (herrors : c'.decodeErrors = c.decodeErrors) :
    Kept c inputFrame (some p, c') where
  inMemory q hq hq' := by
    rw [← Option.some.inj hq, hhardware] at hq'
    contradiction
  inFormat q hq _ := (Option.some.inj hq) ▸ hformat
  same q hq := (Option.some.inj hq) ▸ hsame
  fresh q hq := (Option.some.inj hq) ▸ .inr ⟨b, hbuffer, hfresh, hhanded⟩
  reported := .inr ⟨herrors, nofun⟩

theorem Processed.kept {r : Option (FramePicture π) × FrameConverter}
    (h : Processed c inputFrame r) : Kept c inputFrame r := by
  cases h with
  | passed a hmemory hformat =>
    cases a.ref with
    | false => exact ⟨nofun, nofun, nofun, nofun, .inr ⟨rfl, fun _ => rfl⟩⟩
    | true =>
      refine ⟨?_, ?_, ?_, ?_, .inr ⟨rfl, fun _ => rfl⟩⟩
      · rintro p ⟨rfl⟩ hhardware
        exact hmemory hhardware
      · rintro p ⟨rfl⟩ hsoftware
        exact hformat hsoftware
      · rintro p ⟨rfl⟩
        exact ⟨rfl, rfl, rfl⟩
      · rintro p ⟨rfl⟩
        exact .inl rfl
  | converted r hr =>
    cases hr with
    | noFrame | refused | exhausted | notScaled => exact kept_of_none rfl
    | scaled => exact kept_of_some rfl rfl ⟨rfl, rfl, rfl⟩ rfl le_rfl List.mem_cons_self rfl
  | notTransferred c' hr =>
    cases hr with
    | _ => exact kept_of_none rfl
  | transferred p c' hr hformat =>
    cases hr with
    | copied =>
      exact kept_of_some rfl hformat ⟨rfl, rfl, rfl⟩ rfl le_rfl List.mem_cons_self rfl
  | both p c' r hr hr' =>
    cases hr with
    | copied =>
      cases hr' with
      | noFrame | refused | exhausted | notScaled => exact kept_of_none rfl
      | scaled =>
        exact kept_of_some rfl rfl ⟨rfl, rfl, rfl⟩ rfl (Nat.le_succ _) List.mem_cons_self rfl

/-- A picture whose scaling fails each time. -/
def unscalable : Op Unit :=
  .convert ⟨false, 1, 640, 360, (), .codec 0⟩
    ⟨true, true, true, true, true, .taken, false, true, true⟩

end FrameConverter

end DecoderSDK.Video
