import DecoderSDK.Base.Packet
import Mathlib.Tactic

/-! # Codec contexts of a decoder

Opening a decoder allocates a codec context, and a video decoder may set up a
hardware accelerator for it. Closing frees both, but only when the decoder is
open. A decoder is opened and closed any number of times, as a reconnect does,
and every answer of FFmpeg is an input of the call.
-/
namespace DecoderSDK.Contexts

/-- A codec context by the number it was allocated with; `hwDevice` says that its
`hw_device_ctx` is set. -/
structure CodecContext where
  number : ℕ
  hwDevice : Bool
  deriving DecidableEq

inductive DecoderEvent where
  | createDecoderSuccess (useHw : Bool)
  | createDecoderFailed
  | destoryDecoder (useHw : Bool)
  deriving DecidableEq

/-- A decoder that was never started. The counters are of all the contexts it allocated and
freed. -/
structure DecoderBase where
  type : MediaType
  codecCtx : Option CodecContext
  hwAccel : Bool
  isOpened : Bool
  allocated : ℕ
  freed : ℕ
  events : List DecoderEvent
  deriving DecidableEq

/-- What the factory and the accelerator answer: no accelerator, one of type `kNone`, one that
cannot set up the decoder, or one that can. -/
inductive HardwareAnswer where
  | notCreated
  | none
  | setupFails
  | ready
  deriving DecidableEq

/-- The answers to one open, in the order in which they are asked for. -/
structure OpenAnswer where
  formatContext : Bool
  streamIndex : ℤ
  findDecoder : Bool
  allocContext : Bool
  parametersToContext : ℤ
  hardware : HardwareAnswer
  open2 : ℤ
  deriving DecidableEq

namespace DecoderBase

def new (type : MediaType) : DecoderBase := ⟨type, none, false, false, 0, 0, []⟩

def triggerEvent (d : DecoderBase) (event : DecoderEvent) : DecoderBase :=
  { d with events := d.events ++ [event] }

/-- The audio decoder has the defaults of the base class, which do nothing. -/
def setupHardwareDecode (d : DecoderBase) (answer : HardwareAnswer) : Bool × DecoderBase :=
  match d.type with
  | .audio => (false, d)
  | .video => match answer with
    | .notCreated => (false, { d with hwAccel := false })
    | .none => (false, { d with hwAccel := false })
    | .setupFails => (false, { d with hwAccel := false })
    | .ready =>
      (true, { d with
        hwAccel := true
        codecCtx := d.codecCtx.map fun c => { c with hwDevice := true } })

def removeHardwareDecode (d : DecoderBase) : DecoderBase :=
  match d.type with
  | .audio => d
  | .video => { d with hwAccel := false }

def closeInternal (d : DecoderBase) : DecoderBase :=
  if !d.isOpened then d
  else
    let useHw := d.codecCtx.any CodecContext.hwDevice
    let d := if d.codecCtx.isSome then { d with codecCtx := none, freed := d.freed + 1 } else d
    let d := d.removeHardwareDecode
    { d with isOpened := false }.triggerEvent (.destoryDecoder useHw)

def openInternal (d : DecoderBase) (a : OpenAnswer) : Bool × DecoderBase :=
  let d := if d.isOpened then d.closeInternal else d
  if !a.formatContext then (false, d.triggerEvent .createDecoderFailed)
  else if a.streamIndex < 0 then (false, d.triggerEvent .createDecoderFailed)
  else if !a.findDecoder then (false, d.triggerEvent .createDecoderFailed)
  else if !a.allocContext then
    (false, { d with codecCtx := none }.triggerEvent .createDecoderFailed)
  else
    let d := { d with codecCtx := some ⟨d.allocated, false⟩, allocated := d.allocated + 1 }
    if a.parametersToContext < 0 then (false, d.triggerEvent .createDecoderFailed)
    else
      let useHw := d.setupHardwareDecode a.hardware
      if a.open2 < 0 then (false, useHw.2.triggerEvent .createDecoderFailed)
      else
        (true, { useHw.2.triggerEvent (.createDecoderSuccess useHw.1) with isOpened := true })

end DecoderBase

inductive Call where
  | open (a : OpenAnswer)
  | close
  deriving DecidableEq

namespace DecoderBase

def call (d : DecoderBase) : Call → DecoderBase
  | .open a => (d.openInternal a).2
  | .close => d.closeInternal

/-- The decoder after the calls. -/
def after (type : MediaType) (calls : List Call) : DecoderBase := calls.foldl call (new type)

/-- The decoder holds a codec context exactly while it is open, only an open video decoder has an
accelerator, and every other context it allocated is freed. -/
structure Balanced (d : DecoderBase) : Prop where
  codecCtx : d.codecCtx.isSome = d.isOpened
  hwAccel : d.hwAccel = true → d.isOpened = true ∧ d.type = .video
  count : d.allocated = d.freed + if d.isOpened then 1 else 0

end DecoderBase

/-- The open gets a codec context and fails after that. -/
def OpenAnswer.failsLate (a : OpenAnswer) : Bool :=
  a.formatContext && decide (0 ≤ a.streamIndex) && a.findDecoder && a.allocContext &&
    (decide (a.parametersToContext < 0) || decide (a.open2 < 0))

def Call.failsLate : Call → Bool
  | .open a => a.failsLate
  | .close => false

namespace DecoderBase

theorem new_balanced (type : MediaType) : (new type).Balanced where
  codecCtx := rfl
  hwAccel := by
    intro h
    cases h
  count := rfl

/-- Closing a balanced decoder leaves nothing. -/
theorem Balanced.closeInternal {d : DecoderBase} (h : d.Balanced) :
    d.closeInternal.Balanced ∧ d.closeInternal.isOpened = false := by
  obtain ⟨hctx, haccel, hcount⟩ := h
  unfold DecoderBase.closeInternal
  cases hopened : d.isOpened with
  | false =>
    rw [Bool.not_false, if_pos rfl]
    exact ⟨⟨hctx, haccel, hcount⟩, hopened⟩
  | true =>
    rw [hopened] at hctx hcount
    simp only [hctx, Bool.not_true, Bool.false_eq_true, if_false, if_true, removeHardwareDecode,
      triggerEvent]
    cases htype : d.type with
    | audio =>
      refine ⟨⟨rfl, ?_, hcount⟩, trivial⟩
      intro hw
      rw [(haccel hw).2] at htype
      cases htype
    | video =>
      refine ⟨⟨rfl, ?_, hcount⟩, trivial⟩
      intro hw
      cases hw

/-- Setting up the hardware changes only the accelerator and the context that is there. -/
theorem setupHardwareDecode_snd (d : DecoderBase) (answer : HardwareAnswer) :
    (d.setupHardwareDecode answer).2.codecCtx.isSome = d.codecCtx.isSome ∧
      (d.setupHardwareDecode answer).2.allocated = d.allocated ∧
      (d.setupHardwareDecode answer).2.freed = d.freed ∧
      (d.setupHardwareDecode answer).2.type = d.type ∧
      ((d.setupHardwareDecode answer).2.hwAccel = true → d.hwAccel = true ∨ d.type = .video) := by
  unfold setupHardwareDecode
  cases htype : d.type with
  | audio => exact ⟨rfl, rfl, rfl, htype, fun h => .inl h⟩
  | video => cases answer <;> simp

theorem setupHardwareDecode_isOpened (d : DecoderBase) (answer : HardwareAnswer) :
    (d.setupHardwareDecode answer).2.isOpened = d.isOpened := by
  unfold setupHardwareDecode
  cases d.type with
  | audio => rfl
  | video => cases answer <;> rfl

/-- A context that a closed decoder still holds. -/
theorem not_balanced_of_held {d : DecoderBase} (hctx : d.codecCtx.isSome = true)
    (hclosed : d.isOpened = false) : ¬d.Balanced := by
  intro h
  have hsame := h.codecCtx
  rw [hctx, hclosed] at hsame
  cases hsame

/-- A closed decoder that is balanced holds nothing. -/
theorem Balanced.of_closed {d : DecoderBase} (h : d.Balanced) (hclosed : d.isOpened = false) :
    d.codecCtx = none ∧ d.hwAccel = false ∧ d.allocated = d.freed := by
  obtain ⟨hctx, haccel, hcount⟩ := h
  rw [hclosed] at hctx hcount
  refine ⟨by simpa using hctx, ?_, hcount⟩
  rw [← Bool.not_eq_true]
  intro hw
  rw [(haccel hw).1] at hclosed
  cases hclosed

theorem Balanced.triggerEvent {d : DecoderBase} (h : d.Balanced) (event : DecoderEvent) :
    (d.triggerEvent event).Balanced where
  codecCtx := h.codecCtx
  hwAccel := h.hwAccel
  count := h.count

/-- An open leaves the decoder balanced unless it gets a context and fails after that: the
context stays behind then. -/
theorem Balanced.openInternal_iff {d : DecoderBase} (h : d.Balanced) (a : OpenAnswer) :
    (d.openInternal a).2.Balanced ↔ a.failsLate = false := by
  obtain ⟨d', hd', hbalanced, hclosed⟩ : ∃ d', (if d.isOpened then d.closeInternal else d) = d' ∧
      d'.Balanced ∧ d'.isOpened = false := by
    refine ⟨_, rfl, ?_⟩
    split_ifs with hopened
    · exact h.closeInternal
    · exact ⟨h, by simpa using hopened⟩
  obtain ⟨hnull, hnone, hcount⟩ := hbalanced.of_closed hclosed
  have hfailed := hbalanced.triggerEvent .createDecoderFailed
  simp only [openInternal, hd', OpenAnswer.failsLate]
  by_cases hformat : a.formatContext = true
  swap
  · simp [hformat, hfailed]
  by_cases hindex : a.streamIndex < 0
  · simp [hformat, hindex, not_le.mpr hindex, hfailed]
  by_cases hcodec : a.findDecoder = true
  swap
  · simp [hformat, hindex, hcodec, hfailed]
  by_cases halloc : a.allocContext = true
  swap
  · simp only [hformat, hindex, hcodec, halloc, Bool.not_true, Bool.false_eq_true, if_false,
      Bool.not_false, if_true, Bool.and_false, Bool.false_and, iff_true, ← hnull]
    exact hfailed
  -- from here on the decoder holds a context
  simp only [hformat, hindex, hcodec, halloc, Bool.not_true, Bool.false_eq_true, if_false,
    not_lt.mp hindex, decide_true, Bool.and_self, Bool.true_and]
  obtain ⟨hsome, halloc', hfreed, htype, hhw⟩ := setupHardwareDecode_snd
    { d' with codecCtx := some ⟨d'.allocated, false⟩, allocated := d'.allocated + 1 } a.hardware
  by_cases hparameters : a.parametersToContext < 0
  · simp only [hparameters, if_true, decide_true, Bool.true_or, Bool.true_eq_false, iff_false]
    exact not_balanced_of_held rfl hclosed
  by_cases hopen : a.open2 < 0
  · simp only [hparameters, hopen, if_false, if_true, decide_true, decide_false, Bool.or_true,
      Bool.true_eq_false, iff_false]
    apply not_balanced_of_held
    · exact hsome
    · exact (setupHardwareDecode_isOpened _ _).trans hclosed
  · simp only [hparameters, hopen, if_false, decide_false, Bool.or_self, iff_true]
    refine ⟨hsome, ?_, ?_⟩
    · intro hw
      refine ⟨rfl, htype.trans ?_⟩
      rcases hhw hw with hold | hvideo
      · rw [hnone] at hold
        cases hold
      · exact hvideo
    · simp only [DecoderBase.triggerEvent, halloc', hfreed, if_true]
      rw [hcount]

theorem Balanced.call_iff {d : DecoderBase} (h : d.Balanced) (c : Call) :
    (d.call c).Balanced ↔ c.failsLate = false := by
  cases c with
  | «open» a => exact h.openInternal_iff a
  | close =>
    simp only [Call.failsLate, iff_true]
    exact h.closeInternal.1

theorem after_concat (type : MediaType) (calls : List Call) (c : Call) :
    after type (calls ++ [c]) = (after type calls).call c := by
  simp [after]

/-- Between any two calls the decoder is balanced exactly when no open fails after it has got a
codec context. -/
theorem balanced_iff (type : MediaType) (calls : List Call) :
    (∀ before, before <+: calls → (after type before).Balanced) ↔
      ∀ c ∈ calls, c.failsLate = false := by
  constructor
  · intro h c hc
    obtain ⟨before, rest, rfl⟩ := List.append_of_mem hc
    have hbefore := h before (List.prefix_append _ _)
    have hnext := h (before ++ [c]) ⟨rest, by simp⟩
    rw [after_concat] at hnext
    exact (hbefore.call_iff c).mp hnext
  · intro h before hinit
    induction before using List.reverseRecOn with
    | nil => exact new_balanced type
    | append_singleton before c ih =>
      have hbefore := ih ((List.prefix_append before [c]).trans hinit)
      rw [after_concat]
      exact (hbefore.call_iff c).mpr (h c (hinit.subset (by simp)))

/-- FFmpeg finds the codec, and `avcodec_open2` answers as given. -/
def answering (open2 : ℤ) : OpenAnswer := ⟨true, 0, true, true, 0, .ready, open2⟩

/-- Three opens that fail in `avcodec_open2`: three contexts are allocated, none is freed, and the
decoder still holds the last one and its accelerator. -/
theorem balanced_fails :
    let d := after .video (List.replicate 3 (.open (answering (-1))))
    d.isOpened = false ∧ d.codecCtx.isSome = true ∧ d.hwAccel = true ∧ d.allocated = 3 ∧
      d.freed = 0 ∧ ¬d.Balanced := by
  refine ⟨rfl, rfl, rfl, rfl, rfl, ?_⟩
  exact not_balanced_of_held rfl rfl

end DecoderBase

end DecoderSDK.Contexts
