import Mathlib.Tactic

/-! # Packets

`AVPacket` keeps the fields the library reads. Its `int` size bounds the
buffer, so the bound travels with the packet. A `Packet` owns at most one
`AVPacket` and carries the serial it was stamped with.
-/
namespace DecoderSDK

abbrev Bytes := List UInt8

inductive MediaType where
  | video
  | audio
  deriving DecidableEq, Repr

theorem MediaType.forall_iff {P : MediaType → Prop} : (∀ m, P m) ↔ P .video ∧ P .audio := by
  constructor
  · intro h
    exact ⟨h .video, h .audio⟩
  · rintro ⟨hvideo, haudio⟩ m
    cases m with
    | video => exact hvideo
    | audio => exact haudio

instance MediaType.decidableForall {P : MediaType → Prop} [DecidablePred P] :
    Decidable (∀ m, P m) := decidable_of_iff _ MediaType.forall_iff.symm

structure AVPacket where
  data : Option Bytes
  key : Bool
  duration : ℤ
  size_le : ∀ bytes ∈ data, bytes.length ≤ 2 ^ 31 - 1
  deriving DecidableEq

namespace AVPacket

/-- The blank packet that marks the end of a stream. -/
def blank : AVPacket := ⟨none, false, 0, by simp⟩

def size (pkt : AVPacket) : ℕ := (pkt.data.getD []).length

theorem size_le_some {data : Bytes} (h : data.length ≤ 2 ^ 31 - 1) :
    ∀ bytes ∈ some data, bytes.length ≤ 2 ^ 31 - 1 := by
  intro bytes hbytes
  rw [← Option.some.inj hbytes]
  exact h

/-- `av_packet_ref`: the copy of a packet without a buffer gets one of its own. -/
def ref (pkt : AVPacket) : AVPacket where
  data := some (pkt.data.getD [])
  key := pkt.key
  duration := pkt.duration
  size_le := by
    apply size_le_some
    cases hdata : pkt.data with
    | none => simp
    | some data => exact pkt.size_le data hdata

@[simp] theorem ref_size (pkt : AVPacket) : pkt.ref.size = pkt.size := rfl

/-- A key frame of one byte. -/
def keyFrame : AVPacket := ⟨some [0], true, 40, size_le_some (by decide)⟩

end AVPacket

structure Packet where
  packet : Option AVPacket
  serial : ℕ
  deriving DecidableEq

namespace Packet

def isValid (pkt : Packet) : Bool := pkt.packet.isSome

def size (pkt : Packet) : ℕ := pkt.packet.elim 0 AVPacket.size

def isEmpty (pkt : Packet) : Bool :=
  pkt.packet.elim true fun packet => packet.data.isNone || packet.size = 0

def duration (pkt : Packet) : ℤ := pkt.packet.elim 0 AVPacket.duration

/-- The copy constructor: the copy always owns an `AVPacket`, a blank one if there was none. -/
def copy (pkt : Packet) : Packet :=
  { pkt with packet := some (pkt.packet.elim .blank AVPacket.ref) }

/-- The packet has its key-frame flag set. -/
def key (pkt : Packet) : Bool := pkt.packet.elim false AVPacket.key

theorem size_lt (pkt : Packet) : pkt.size < 2 ^ 31 := by
  unfold size
  cases hpkt : pkt.packet with
  | none => simp
  | some packet =>
    simp only [Option.elim_some, AVPacket.size]
    cases hdata : packet.data with
    | none => simp
    | some data =>
      have := packet.size_le data hdata
      simp only [Option.getD_some]
      omega

@[simp] theorem copy_size (pkt : Packet) : pkt.copy.size = pkt.size := by
  unfold copy size
  cases pkt.packet <;> rfl

@[simp] theorem copy_duration (pkt : Packet) : pkt.copy.duration = pkt.duration := by
  unfold copy duration
  cases pkt.packet <;> rfl

theorem isEmpty_iff (pkt : Packet) : pkt.isEmpty = true ↔ pkt.size = 0 := by
  unfold isEmpty size
  cases pkt.packet with
  | none => simp
  | some packet =>
    cases hdata : packet.data with
    | none => simp [AVPacket.size, hdata]
    | some data => simp [hdata]

@[simp] theorem copy_isEmpty (pkt : Packet) : pkt.copy.isEmpty = pkt.isEmpty := by
  rw [Bool.eq_iff_iff, isEmpty_iff, isEmpty_iff, copy_size]

/-- A packet that owns nothing adds nothing to the totals. -/
theorem size_eq_zero {pkt : Packet} (h : pkt.isValid = false) : pkt.size = 0 ∧ pkt.duration = 0 := by
  simp only [isValid, Option.isSome_eq_false_iff, Option.isNone_iff_eq_none] at h
  simp [size, duration, h]

end Packet

end DecoderSDK
