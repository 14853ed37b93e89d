import DecoderSDK.Base.Packet
import DecoderSDK.Interleaving.Runs
import DecoderSDK.Ownership.Handles

/-! # The class `Packet` over counted buffers

Every constructor, assignment and setter of `Packet` in terms of the calls it
makes on its `AVPacket *`. The allocation of an `AVPacket` and the reference
taken by `av_packet_ref` may fail. The bytes lie in the buffers, where they
can be written through any packet that refers to the buffer. A program is a
list of such operations on any number of variables, mixed with what the
demuxer and the codec do to a packet they are given.
-/
namespace DecoderSDK.Memory
open Ownership Interleaving

/-- The fields of an `AVPacket` that the library sets or reads; `data` is the buffer that its
bytes lie in. -/
structure AVPacket where
  data : Option ℕ
  key : Bool
  duration : ℤ
  pts : ℤ
  dts : ℤ
  stream_index : ℤ
  deriving DecidableEq

def AV_NOPTS_VALUE : ℤ := -2 ^ 63

namespace AVPacket

def blank : AVPacket := ⟨none, false, 0, AV_NOPTS_VALUE, AV_NOPTS_VALUE, 0⟩

/-- What `av_packet_ref` makes of a packet: without data it refers to a new buffer. -/
def copied (p : AVPacket) (b : ℕ) : AVPacket := { p with data := some (p.data.getD b) }

theorem copied_eq {p : AVPacket} (h : p.data.isSome) (b : ℕ) : p.copied b = p := by
  rcases p with ⟨data, key, duration, pts, dts, stream_index⟩
  rw [Option.isSome_iff_exists] at h
  rcases h with ⟨c, hc⟩
  dsimp only at hc
  subst hc
  rfl

/-- The setters of `Packet`, by the field each writes. -/
inductive Field where
  | pts (value : ℤ)
  | dts (value : ℤ)
  | duration (value : ℤ)
  | stream_index (value : ℤ)
  | key (value : Bool)
  deriving DecidableEq

def set (p : AVPacket) : Field → AVPacket
  | .pts n => { p with pts := n }
  | .dts n => { p with dts := n }
  | .duration n => { p with duration := n }
  | .stream_index n => { p with stream_index := n }
  | .key b => { p with key := b }

@[simp] theorem set_data (p : AVPacket) (f : Field) : (p.set f).data = p.data := by
  cases f <;> rfl

end AVPacket

/-- `AVPacket`s as heap objects. -/
def packetKind : Kind AVPacket := ⟨fun x => x.data.toList, .blank, rfl⟩

/-- The variables by name: what each owns, and its serial while it is alive. A buffer is empty
until something is read into it. -/
structure Packets (ι : Type*) where
  owners : Owners ι AVPacket
  serial : ι → Option ℕ
  bytes : ℕ → Bytes

/-- What the outcome of a call decides is part of the operation. -/
inductive PacketOp (ι : Type*) where
  | construct (v : ι) (alloc : Bool)
  | wrap (v w : ι) (alloc ref : Bool)
  | copy (v w : ι) (alloc ref : Bool)
  | copyAssign (v w : ι) (alloc ref : Bool)
  | move (v w : ι)
  | moveAssign (v w : ι)
  | destroy (v : ι)
  | unref (v : ι)
  | setSerial (v : ι) (serial : ℕ)
  | set (v : ι) (field : AVPacket.Field)
  | read (v : ι) (packet : AVPacket) (bytes : Bytes)
  | write (v : ι) (i : ℕ) (byte : UInt8)
  | send (v : ι)
  | drop (b : ℕ)

namespace Packets
variable {ι : Type*} [DecidableEq ι]

def init : Packets ι := ⟨.empty, fun _ => none, fun _ => []⟩

/-- `av_packet_ref` into a blank packet; it leaves it blank when it fails. -/
def av_packet_ref (s : Owners ι AVPacket) (dst src : ι) (ref : Bool) : Option (Owners ι AVPacket) :=
  (s.value src).bind fun x =>
    if ref then
      if x.data.isSome then s.refer packetKind dst x else s.fill packetKind dst x.copied
    else s.refer packetKind dst .blank

/-- `Packet()` -/
def construct (s : Packets ι) (v : ι) (alloc : Bool) : Packets ι :=
  { s with owners := s.owners.acquire packetKind v alloc
           serial := Function.update s.serial v (some 0) }

/-- `Packet(AVPacket *)` -/
def wrap (s : Packets ι) (v w : ι) (alloc ref : Bool) : Option (Packets ι) :=
  let owners := s.owners.acquire packetKind v alloc
  (if (s.owners.pointer w).isSome then av_packet_ref owners v w ref else some owners).map
    fun owners => { s with owners := owners, serial := Function.update s.serial v (some 0) }

/-- `Packet(const Packet &)` -/
def copy (s : Packets ι) (v w : ι) (alloc ref : Bool) : Option (Packets ι) :=
  let owners := s.owners.acquire packetKind v alloc
  (if (owners.pointer w).isSome then
      (av_packet_ref owners v w ref).bind fun owners =>
        if ref then some owners else owners.discard packetKind v
    else some owners).map fun owners =>
      { s with owners := owners, serial := Function.update s.serial v (s.serial w) }

/-- `operator=(const Packet &)` -/
def copyAssign (s : Packets ι) (v w : ι) (alloc ref : Bool) : Option (Packets ι) :=
  if v = w then some s
  else
    ((if (s.owners.pointer v).isSome then s.owners.unref packetKind v
      else some (s.owners.acquire packetKind v alloc)).bind fun owners =>
        if (owners.pointer w).isSome then av_packet_ref owners v w ref else some owners).map
      fun owners => { s with owners := owners, serial := Function.update s.serial v (s.serial w) }

/-- `Packet(Packet &&)` -/
def move (s : Packets ι) (v w : ι) : Packets ι :=
  { s with owners := s.owners.transfer v w
           serial := Function.update (Function.update s.serial v (s.serial w)) w (some 0) }

/-- `operator=(Packet &&)` -/
def moveAssign (s : Packets ι) (v w : ι) : Option (Packets ι) :=
  if v = w then some s
  else (s.owners.discard packetKind v).map fun owners =>
    { s with owners := owners.transfer v w
             serial := Function.update (Function.update s.serial v (s.serial w)) w (some 0) }

/-- `~Packet()` -/
def destroy (s : Packets ι) (v : ι) : Option (Packets ι) :=
  (s.owners.discard packetKind v).map fun owners =>
    { s with owners := owners, serial := Function.update s.serial v none }

/-- `unref()` -/
def unref (s : Packets ι) (v : ι) : Option (Packets ι) :=
  (s.owners.unref packetKind v).map fun owners => { s with owners := owners }

/-- `av_read_frame` into a blank packet. -/
def read (s : Packets ι) (v : ι) (p : AVPacket) (bytes : Bytes) : Option (Packets ι) :=
  (s.owners.fill packetKind v fun b => { p with data := some b }).map fun owners =>
    { s with owners := owners, bytes := Function.update s.bytes s.owners.heap.fresh bytes }

/-- A byte is written through the pointer that `data()` returns. -/
def write (s : Packets ι) (v : ι) (i : ℕ) (byte : UInt8) : Option (Packets ι) :=
  (s.owners.value v).bind fun x => x.data.map fun b =>
    { s with bytes := Function.update s.bytes b ((s.bytes b).set i byte) }

/-- `avcodec_send_packet`: the codec takes a reference to the data. -/
def send (s : Packets ι) (v : ι) : Option (Packets ι) :=
  (s.owners.value v).bind fun x => (s.owners.heap.lend (packetKind.refs x)).map fun h =>
    { s with owners := { s.owners with heap := h } }

/-- What the calls of an operation do; `none` when one of them follows a null or a freed pointer. -/
def exec (s : Packets ι) : PacketOp ι → Option (Packets ι)
  | .construct v alloc => some (s.construct v alloc)
  | .wrap v w alloc ref => s.wrap v w alloc ref
  | .copy v w alloc ref => s.copy v w alloc ref
  | .copyAssign v w alloc ref => s.copyAssign v w alloc ref
  | .move v w => some (s.move v w)
  | .moveAssign v w => s.moveAssign v w
  | .destroy v => s.destroy v
  | .unref v => s.unref v
  | .setSerial v n => some { s with serial := Function.update s.serial v (some n) }
  | .set v f => some { s with owners := s.owners.edit v (·.set f) }
  | .read v p bytes => s.read v p bytes
  | .write v i byte => s.write v i byte
  | .send v => s.send v
  | .drop b => (s.owners.heap.giveBack b).map fun h =>
      { s with owners := { s.owners with heap := h } }

def alive (s : Packets ι) (v : ι) : Bool := (s.serial v).isSome

/-- A variable is constructed once and used while it is alive; a packet is read into and sent only
if there is one, read into only when it is blank, and written to only within its data. -/
def enabled (s : Packets ι) : PacketOp ι → Bool
  | .construct v _ => !s.alive v
  | .wrap v w _ _ | .copy v w _ _ | .move v w => !s.alive v && s.alive w
  | .copyAssign v w _ _ | .moveAssign v w => s.alive v && s.alive w
  | .destroy v | .unref v | .setSerial v _ | .set v _ => s.alive v
  | .read v _ _ => s.alive v && (s.owners.value v).any (·.data.isNone)
  | .write v i _ => s.alive v &&
      (s.owners.value v).any fun x => x.data.any fun b => decide (i < (s.bytes b).length)
  | .send v => s.alive v && (s.owners.value v).isSome
  | .drop b => 0 < s.owners.heap.outside b

def step (s : Packets ι) (op : PacketOp ι) : Option (Packets ι) :=
  if s.enabled op then s.exec op else none

end Packets

/-- The allocations after which a reference is taken succeed. -/
def PacketOp.allocated {ι : Type*} : PacketOp ι → Bool
  | .wrap _ _ alloc _ | .copy _ _ alloc _ | .copyAssign _ _ alloc _ => alloc
  | _ => true

/-! ## Packets as plain values -/

/-- What a `Packet` is to its users: the fields of its packet, one of which names an array of
bytes, and its serial. -/
structure PacketValue where
  packet : Option AVPacket
  serial : ℕ
  deriving DecidableEq

namespace PacketValue

/-- A copy whose reference could not be taken has no packet. -/
def copy (p : PacketValue) (ref : Bool) (b : ℕ) : PacketValue :=
  match p.packet with
  | none => { p with packet := some .blank }
  | some x => { p with packet := if ref then some (x.copied b) else none }

/-- An assignment whose reference could not be taken leaves a blank packet. -/
def assigned (p : PacketValue) (ref : Bool) (b : ℕ) : PacketValue :=
  match p.packet with
  | none => { p with packet := some .blank }
  | some x => { p with packet := some (if ref then x.copied b else .blank) }

/-- How many arrays a copy of the value makes. -/
def makes (p : PacketValue) (ref : Bool) : ℕ :=
  p.packet.elim 0 fun x => if ref && x.data.isNone then 1 else 0

def moved : PacketValue := ⟨none, 0⟩

end PacketValue

/-- Variables that hold plain values; `none` is a variable that is not alive. The arrays are named
one after the other, and stay. -/
structure PacketValues (ι : Type*) where
  value : ι → Option PacketValue
  bytes : ℕ → Bytes
  next : ℕ

namespace PacketValues
variable {ι : Type*} [DecidableEq ι]

def init : PacketValues ι := ⟨fun _ => none, fun _ => [], 0⟩

def set (t : PacketValues ι) (v : ι) (p : Option PacketValue) : PacketValues ι :=
  { t with value := Function.update t.value v p }

/-- A variable is set to what is made of the value of another. -/
def take (t : PacketValues ι) (v w : ι) (ref : Bool) (f : PacketValue → PacketValue) :
    PacketValues ι :=
  { t with value := Function.update t.value v ((t.value w).map f)
           next := t.next + (t.value w).elim 0 (·.makes ref) }

end PacketValues

/-- The operations on variables that hold plain values. -/
def PacketOp.onValues {ι : Type*} [DecidableEq ι] (t : PacketValues ι) :
    PacketOp ι → PacketValues ι
  | .construct v alloc => t.set v (some ⟨if alloc then some .blank else none, 0⟩)
  | .wrap v w _ ref => t.take v w ref fun p => { p.assigned ref t.next with serial := 0 }
  | .copy v w _ ref => t.take v w ref (·.copy ref t.next)
  | .copyAssign v w _ ref => if v = w then t else t.take v w ref (·.assigned ref t.next)
  | .move v w => (t.set v (t.value w)).set w (some .moved)
  | .moveAssign v w => if v = w then t else (t.set v (t.value w)).set w (some .moved)
  | .destroy v => t.set v none
  | .unref v => t.set v ((t.value v).map fun p => { p with packet := p.packet.map fun _ => .blank })
  | .setSerial v n => t.set v ((t.value v).map fun p => { p with serial := n })
  | .set v f => t.set v ((t.value v).map fun p => { p with packet := p.packet.map (·.set f) })
  | .read v x bytes =>
      { t.set v ((t.value v).map fun p => { p with packet := some { x with data := some t.next } })
        with bytes := Function.update t.bytes t.next bytes, next := t.next + 1 }
  | .write v i byte =>
      (((t.value v).bind (·.packet)).bind (·.data)).elim t fun b =>
        { t with bytes := Function.update t.bytes b ((t.bytes b).set i byte) }
  | .send _ => t
  | .drop _ => t

namespace Packets
variable {ι : Type*} [DecidableEq ι]

/-- What the variables hold. -/
def values (s : Packets ι) : PacketValues ι :=
  ⟨living PacketValue.mk s.owners.value s.serial, s.bytes, s.owners.heap.fresh⟩

/-- Every `AVPacket` belongs to one variable that is alive. -/
structure Good (s : Packets ι) : Prop where
  owned : s.owners.Owned packetKind
  dead : ∀ v, s.serial v = none → s.owners.value v = none

omit [DecidableEq ι] in
theorem Good.init : Good (init : Packets ι) := ⟨.empty, fun _ _ => rfl⟩

omit [DecidableEq ι] in
/-- A packet without data refers to no buffer. -/
theorem refs_nil {x : AVPacket} (h : x.data = none) : packetKind.refs x = [] := by
  change x.data.toList = []
  rw [h, Option.toList_none]

/-- The objects of the variables, and the name of the next buffer. -/
def Becomes (s s' : Owners ι AVPacket) (v : ι) (p : Option AVPacket) (n : ℕ) : Prop :=
  s'.Owned packetKind ∧ s'.value = Function.update s.value v p ∧ s'.heap.fresh = s.heap.fresh + n

theorem acquire_becomes {s : Owners ι AVPacket} (hs : s.Owned packetKind) {v : ι}
    (hv : s.value v = none) (ok : Bool) :
    Becomes s (s.acquire packetKind v ok) v (if ok then some .blank else none) 0 := by
  rcases hs.acquire hv ok with ⟨howned, hvalue⟩
  refine ⟨howned, hvalue, ?_⟩
  cases ok <;> rfl

theorem discard_becomes {s : Owners ι AVPacket} (hs : s.Owned packetKind) (v : ι) :
    ∃ s', s.discard packetKind v = some s' ∧ Becomes s s' v none 0 := by
  rcases hs.discard v with ⟨s', hs', howned, hvalue⟩
  exact ⟨s', hs', howned, hvalue, (hs.discard_count hs').2.2⟩

theorem unref_becomes {s : Owners ι AVPacket} (hs : s.Owned packetKind) (v : ι) :
    ∃ s', s.unref packetKind v = some s' ∧
      Becomes s s' v ((s.value v).map fun _ => .blank) 0 := by
  rcases hs.unref v with ⟨s', hs', howned, hvalue⟩
  exact ⟨s', hs', howned, hvalue, Owners.unref_fresh hs'⟩

/-- A new reference makes the target a copy of the source and leaves all else alone. -/
theorem ref_becomes {s : Owners ι AVPacket} (hs : s.Owned packetKind) {v w : ι} {p : AVPacket}
    (hv : s.value v = some .blank) (hw : s.value w = some p) (ref : Bool) :
    ∃ s', av_packet_ref s v w ref = some s' ∧
      Becomes s s' v (some (if ref then p.copied s.heap.fresh else .blank))
        (if ref && p.data.isNone then 1 else 0) := by
  have hempty : packetKind.refs .blank = [] := refs_nil rfl
  rw [av_packet_ref, hw, Option.bind_some]
  cases ref with
  | false =>
    have hlive : ∀ b ∈ packetKind.refs .blank, 0 < s.heap.count b := by simp [hempty]
    rcases hs.refer hv hempty hlive with ⟨s', hs', howned, hvalue⟩
    exact ⟨s', hs', howned, hvalue, (Owners.refer_count hlive hs').2.2⟩
  | true =>
    cases hdata : p.data with
    | some b =>
      have hlive := hs.ref_pos hw
      rcases hs.refer hv hempty hlive with ⟨s', hs', howned, hvalue⟩
      refine ⟨s', hs', howned, ?_, (Owners.refer_count hlive hs').2.2⟩
      rw [hvalue, if_pos rfl, AVPacket.copied_eq (by rw [hdata, Option.isSome_some])]
    | none =>
      have hnew : ∀ b, packetKind.refs (p.copied b) = [b] := by
        intro b
        change (some (p.data.getD b)).toList = [b]
        rw [hdata, Option.getD_none, Option.toList_some]
      rcases hs.fill (x := p.copied) hv hempty hnew with ⟨s', hs', howned, hvalue⟩
      exact ⟨s', hs', howned, hvalue, (Owners.fill_count hnew hs').2⟩

theorem Becomes.trans {s t u : Owners ι AVPacket} {v : ι} {p q : Option AVPacket} {n m : ℕ}
    (h : Becomes s t v p n) (h' : Becomes t u v q m) : Becomes s u v q (n + m) := by
  rcases h with ⟨-, hvalue, hfresh⟩
  rcases h' with ⟨howned, hvalue', hfresh'⟩
  refine ⟨howned, ?_, by omega⟩
  rw [hvalue', hvalue, Function.update_idem]

omit [DecidableEq ι] in
theorem alive_iff {s : Packets ι} {v : ι} : s.alive v = true ↔ ∃ n, s.serial v = some n := by
  rw [alive, Option.isSome_iff_exists]

omit [DecidableEq ι] in
theorem not_alive_iff {s : Packets ι} {v : ι} : (!s.alive v) = true ↔ s.serial v = none := by
  rw [alive, Bool.not_eq_true', Option.isSome_eq_false_iff, Option.isNone_iff_eq_none]

omit [DecidableEq ι] in
theorem values_some {s : Packets ι} {v : ι} {n : ℕ} (h : s.serial v = some n) :
    s.values.value v = some ⟨s.owners.value v, n⟩ := by
  change living PacketValue.mk s.owners.value s.serial v = _
  rw [living, h, Option.map_some]

/-- An operation is carried out: it reaches a state in good order that holds these values. -/
def Done (r : Option (Packets ι)) (t : PacketValues ι) : Prop :=
  ∃ s, r = some s ∧ s.Good ∧ s.values = t

/-- A variable gets another packet and another serial. -/
theorem Becomes.done {s : Packets ι} (hs : s.Good) {owners : Owners ι AVPacket} {v : ι}
    {p : Option AVPacket} {n : ℕ} (h : Becomes s.owners owners v p n) (m : Option ℕ)
    (hm : m = none → p = none) :
    Done (some { s with owners := owners, serial := Function.update s.serial v m })
      { s.values with value := Function.update s.values.value v (m.map (PacketValue.mk p))
                      next := s.values.next + n } := by
  rcases h with ⟨howned, hvalue, hfresh⟩
  refine ⟨_, rfl, ⟨howned, ?_⟩, ?_⟩
  · change ∀ u, _ → owners.value u = none
    rw [hvalue]
    exact dead_update hs.dead v hm
  · change PacketValues.mk (living PacketValue.mk owners.value _) s.bytes owners.heap.fresh = _
    rw [hvalue, hfresh, living_update]
    rfl

/-- A variable gets another packet. -/
theorem Becomes.rewritten {s : Packets ι} (hs : s.Good) {owners : Owners ι AVPacket} {v : ι}
    {p : Option AVPacket} {n : ℕ} (h : Becomes s.owners owners v p n)
    (hnone : s.serial v = none → p = none) :
    Done (some { s with owners := owners })
      { s.values with
        value := Function.update s.values.value v
          ((s.values.value v).map fun q => { q with packet := p })
        next := s.values.next + n } := by
  have hdone := h.done hs (s.serial v) hnone
  have hmap : (s.serial v).map (PacketValue.mk p) =
      (s.values.value v).map fun q => { q with packet := p } := by
    change _ = (living PacketValue.mk s.owners.value s.serial v).map _
    rw [living, Option.map_map]
    rfl
  rw [Function.update_eq_self, hmap] at hdone
  exact hdone

/-- The packet of a variable is changed, if it has one. -/
theorem Becomes.mapped {s : Packets ι} (hs : s.Good) {owners : Owners ι AVPacket} {v : ι}
    {f : AVPacket → AVPacket} (h : Becomes s.owners owners v ((s.owners.value v).map f) 0) :
    Done (some { s with owners := owners })
      (s.values.set v ((s.values.value v).map fun q => { q with packet := q.packet.map f })) := by
  have hdone := h.rewritten hs fun hv => by rw [hs.dead v hv, Option.map_none]
  have hmap : ((s.values.value v).map fun q => { q with packet := (s.owners.value v).map f }) =
      (s.values.value v).map fun q => { q with packet := q.packet.map f } := by
    change (living PacketValue.mk s.owners.value s.serial v).map _ =
      (living PacketValue.mk s.owners.value s.serial v).map _
    rw [living, Option.map_map, Option.map_map]
    rfl
  rw [hmap] at hdone
  exact hdone

theorem construct_done {s : Packets ι} (hs : s.Good) {v : ι} (hv : s.serial v = none)
    (alloc : Bool) : Done (some (s.construct v alloc))
      (s.values.set v (some ⟨if alloc then some .blank else none, 0⟩)) :=
  (acquire_becomes hs.owned (hs.dead v hv) alloc).done hs (some 0) (by simp)

/-- A packet is allocated where there was none and takes a reference, if there is one to take. -/
theorem acquire_ref_becomes {s : Owners ι AVPacket} (hs : s.Owned packetKind) {v w : ι}
    (hvw : w ≠ v) (hv : s.value v = none) (ref : Bool) :
    ∃ s', (if ((s.acquire packetKind v true).pointer w).isSome
        then av_packet_ref (s.acquire packetKind v true) v w ref
        else some (s.acquire packetKind v true)) = some s' ∧
      Becomes s s' v (some ((s.value w).elim .blank fun p =>
          if ref then p.copied s.heap.fresh else .blank))
        ((s.value w).elim 0 fun p => if ref && p.data.isNone then 1 else 0) := by
  have hacquire := acquire_becomes hs hv true
  rw [if_pos rfl] at hacquire
  rcases hacquire with ⟨howned, hvalue, hfresh⟩
  have hw : (s.acquire packetKind v true).value w = s.value w := by
    rw [hvalue, Function.update_of_ne hvw]
  rw [howned.isSome_pointer, hw]
  cases hcase : s.value w with
  | none => exact ⟨_, rfl, howned, hvalue, hfresh⟩
  | some p =>
    have hblank : (s.acquire packetKind v true).value v = some .blank := by
      rw [hvalue, Function.update_self]
    rcases ref_becomes howned hblank (hw.trans hcase) ref with ⟨s', hs', hbecomes⟩
    refine ⟨s', by rw [if_pos Option.isSome_some, hs'], ?_⟩
    have htrans := Becomes.trans ⟨howned, hvalue, hfresh⟩ hbecomes
    rw [hfresh, add_zero, zero_add] at htrans
    exact htrans

theorem wrap_done {s : Packets ι} (hs : s.Good) {v w : ι} (hv : s.serial v = none) {n : ℕ}
    (hw : s.serial w = some n) (ref : Bool) : Done (s.wrap v w true ref)
      (s.values.take v w ref fun p => { p.assigned ref s.values.next with serial := 0 }) := by
  have hwv : w ≠ v := by
    intro hwv
    rw [hwv, hv] at hw
    contradiction
  have hpointer : (s.owners.acquire packetKind v true).pointer w = s.owners.pointer w :=
    Function.update_of_ne hwv _ _
  rcases acquire_ref_becomes hs.owned hwv (hs.dead v hv) ref with ⟨owners, hrun, hbecomes⟩
  rw [hpointer] at hrun
  rw [wrap, hrun, Option.map_some, PacketValues.take, values_some hw]
  have hdone := hbecomes.done hs (some 0) (by simp)
  cases hcase : s.owners.value w <;> cases ref <;> rw [hcase] at hdone <;> exact hdone

theorem copy_done {s : Packets ι} (hs : s.Good) {v w : ι} (hv : s.serial v = none) {n : ℕ}
    (hw : s.serial w = some n) (ref : Bool) : Done (s.copy v w true ref)
      (s.values.take v w ref (·.copy ref s.values.next)) := by
  have hwv : w ≠ v := by
    intro hwv
    rw [hwv, hv] at hw
    contradiction
  have hacquire := acquire_becomes hs.owned (hs.dead v hv) true
  rw [if_pos rfl] at hacquire
  rcases hacquire with ⟨howned, hvalue, hfresh⟩
  have hsame : (s.owners.acquire packetKind v true).value w = s.owners.value w := by
    rw [hvalue, Function.update_of_ne hwv]
  -- the packet that the new variable ends up with
  have hrun : ∃ owners, (if ((s.owners.acquire packetKind v true).pointer w).isSome then
      (av_packet_ref (s.owners.acquire packetKind v true) v w ref).bind fun owners =>
        if ref then some owners else owners.discard packetKind v
      else some (s.owners.acquire packetKind v true)) = some owners ∧
      Becomes s.owners owners v
        ((s.owners.value w).elim (some .blank) fun p =>
          if ref then some (p.copied s.owners.heap.fresh) else none)
        ((s.owners.value w).elim 0 fun p => if ref && p.data.isNone then 1 else 0) := by
    rw [howned.isSome_pointer, hsame]
    cases hcase : s.owners.value w with
    | none => exact ⟨_, rfl, howned, hvalue, hfresh⟩
    | some p =>
      have hblank : (s.owners.acquire packetKind v true).value v = some .blank := by
        rw [hvalue, Function.update_self]
      rcases ref_becomes howned hblank (hsame.trans hcase) ref with ⟨s', hs', hbecomes⟩
      have htrans := Becomes.trans ⟨howned, hvalue, hfresh⟩ hbecomes
      rw [hfresh, add_zero, zero_add] at htrans
      rw [if_pos Option.isSome_some, hs', Option.bind_some]
      cases ref with
      | true => exact ⟨s', rfl, htrans⟩
      | false =>
        rcases discard_becomes htrans.1 v with ⟨s'', hs'', hgone⟩
        exact ⟨s'', hs'', htrans.trans hgone⟩
  rcases hrun with ⟨owners, hrun, hbecomes⟩
  rw [copy, hrun, Option.map_some, PacketValues.take, values_some hw, hw]
  have hdone := hbecomes.done hs (some n) (by simp)
  cases hcase : s.owners.value w <;> cases ref <;> rw [hcase] at hdone <;> exact hdone

theorem copyAssign_done {s : Packets ι} (hs : s.Good) {v w : ι} {n : ℕ}
    (hw : s.serial w = some n) (ref : Bool) :
    Done (s.copyAssign v w true ref)
      (if v = w then s.values else s.values.take v w ref (·.assigned ref s.values.next)) := by
  by_cases hvw : v = w
  · rw [copyAssign, if_pos hvw, if_pos hvw]
    exact ⟨s, rfl, hs, rfl⟩
  · -- the target is blank before the reference is taken, whatever it was
    have hclear : ∃ owners, (if (s.owners.pointer v).isSome then s.owners.unref packetKind v
        else some (s.owners.acquire packetKind v true)) = some owners ∧
        Becomes s.owners owners v (some .blank) 0 := by
      rw [hs.owned.isSome_pointer]
      cases hcase : s.owners.value v with
      | none => exact ⟨_, rfl, acquire_becomes hs.owned hcase true⟩
      | some p =>
        rcases unref_becomes hs.owned v with ⟨owners, hrun, hbecomes⟩
        rw [hcase, Option.map_some] at hbecomes
        exact ⟨owners, by rw [if_pos Option.isSome_some, hrun], hbecomes⟩
    rcases hclear with ⟨owners, hrun, howned, hvalue, hfresh⟩
    have hsame : owners.value w = s.owners.value w := by
      rw [hvalue, Function.update_of_ne (Ne.symm hvw)]
    have hassign : ∃ owners', (if (owners.pointer w).isSome then av_packet_ref owners v w ref
        else some owners) = some owners' ∧
        Becomes s.owners owners' v (some ((s.owners.value w).elim .blank fun p =>
            if ref then p.copied s.owners.heap.fresh else .blank))
          ((s.owners.value w).elim 0 fun p => if ref && p.data.isNone then 1 else 0) := by
      rw [howned.isSome_pointer, hsame]
      cases hcase : s.owners.value w with
      | none => exact ⟨owners, rfl, howned, hvalue, hfresh⟩
      | some p =>
        have hblank : owners.value v = some .blank := by rw [hvalue, Function.update_self]
        rcases ref_becomes howned hblank (hsame.trans hcase) ref with ⟨s', hs', hbecomes⟩
        have htrans := Becomes.trans ⟨howned, hvalue, hfresh⟩ hbecomes
        rw [hfresh, add_zero, zero_add] at htrans
        exact ⟨s', by rw [if_pos Option.isSome_some, hs'], htrans⟩
    rcases hassign with ⟨owners', hrun', hbecomes⟩
    rw [copyAssign, if_neg hvw, if_neg hvw, hrun, Option.bind_some, hrun', Option.map_some,
      PacketValues.take, values_some hw, hw]
    have hdone := hbecomes.done hs (some n) (by simp)
    cases hcase : s.owners.value w <;> cases ref <;> rw [hcase] at hdone <;> exact hdone

/-- The owner and the serial pass from one variable to another that owns nothing. -/
theorem transfer_done {s : Packets ι} {owners : Owners ι AVPacket}
    (howned : owners.Owned packetKind) (hfresh : owners.heap.fresh = s.owners.heap.fresh)
    {v w : ι} (hvw : v ≠ w) (hv : owners.value v = none) {n : ℕ} (hw : s.serial w = some n)
    (hdead : ∀ u, s.serial u = none → owners.value u = none) {vals : ι → Option PacketValue}
    (hvals : living PacketValue.mk (Function.update owners.value v (owners.value w))
      (Function.update s.serial v (s.serial w)) = vals) :
    Done (some { s with
        owners := owners.transfer v w
        serial := Function.update (Function.update s.serial v (s.serial w)) w (some 0) })
      { s.values with value := Function.update vals w (some .moved) } := by
  rcases howned.transfer hvw hv with ⟨howned', hvalue⟩
  refine ⟨_, rfl, ⟨howned', ?_⟩, ?_⟩
  · change ∀ u, Function.update (Function.update s.serial v (s.serial w)) w (some 0) u = none →
      (owners.transfer v w).value u = none
    rw [hvalue]
    apply dead_update _ w (by simp)
    apply dead_update hdead v
    rw [hw]
    simp
  · change PacketValues.mk (living PacketValue.mk (owners.transfer v w).value _) s.bytes
      owners.heap.fresh = _
    rw [hvalue, living_update, hvals, hfresh]
    rfl

theorem move_done {s : Packets ι} (hs : s.Good) {v w : ι} (hv : s.serial v = none) {n : ℕ}
    (hw : s.serial w = some n) : Done (some (s.move v w))
      ((s.values.set v (s.values.value w)).set w (some .moved)) := by
  have hvw : v ≠ w := by
    intro hvw
    rw [← hvw, hv] at hw
    contradiction
  apply transfer_done hs.owned rfl hvw (hs.dead v hv) hw hs.dead
  rw [living_update]
  rfl

theorem moveAssign_done {s : Packets ι} (hs : s.Good) {v w : ι} {n : ℕ}
    (hw : s.serial w = some n) : Done (s.moveAssign v w)
      (if v = w then s.values
        else (s.values.set v (s.values.value w)).set w (some .moved)) := by
  by_cases hvw : v = w
  · rw [moveAssign, if_pos hvw, if_pos hvw]
    exact ⟨s, rfl, hs, rfl⟩
  · rcases discard_becomes hs.owned v with ⟨owners, hrun, howned, hvalue, hfresh⟩
    rw [moveAssign, if_neg hvw, if_neg hvw, hrun, Option.map_some]
    have hv : owners.value v = none := by rw [hvalue, Function.update_self]
    have hsource : owners.value w = s.owners.value w := by
      rw [hvalue, Function.update_of_ne (Ne.symm hvw)]
    apply transfer_done howned hfresh hvw hv hw
    · intro u hu
      rw [hvalue, Function.update_apply]
      split
      · rfl
      · exact hs.dead u hu
    · rw [hsource, hvalue, Function.update_idem, living_update]
      rfl

theorem destroy_done {s : Packets ι} (hs : s.Good) (v : ι) :
    Done (s.destroy v) (s.values.set v none) := by
  rcases discard_becomes hs.owned v with ⟨owners, hrun, hbecomes⟩
  rw [destroy, hrun, Option.map_some]
  exact hbecomes.done hs none fun _ => rfl

theorem unref_done {s : Packets ι} (hs : s.Good) (v : ι) : Done (s.unref v)
    (s.values.set v ((s.values.value v).map fun q =>
      { q with packet := q.packet.map fun _ => .blank })) := by
  rcases unref_becomes hs.owned v with ⟨owners, hrun, hbecomes⟩
  rw [unref, hrun, Option.map_some]
  exact hbecomes.mapped hs

theorem set_done {s : Packets ι} (hs : s.Good) (v : ι) (f : AVPacket.Field) :
    Done (some { s with owners := s.owners.edit v (·.set f) })
      (s.values.set v ((s.values.value v).map fun q =>
        { q with packet := q.packet.map (·.set f) })) := by
  have hrefs : ∀ x : AVPacket, packetKind.refs (x.set f) = packetKind.refs x := by
    intro x
    change (x.set f).data.toList = x.data.toList
    rw [AVPacket.set_data]
  rcases hs.owned.edit v hrefs with ⟨howned, hvalue⟩
  have hbecomes : Becomes s.owners (s.owners.edit v (·.set f)) v
      ((s.owners.value v).map (·.set f)) 0 := ⟨howned, hvalue, Owners.edit_fresh s.owners v _⟩
  exact hbecomes.mapped hs

theorem setSerial_done {s : Packets ι} (hs : s.Good) {v : ι} {m : ℕ} (hv : s.serial v = some m)
    (n : ℕ) : Done (some { s with serial := Function.update s.serial v (some n) })
      (s.values.set v ((s.values.value v).map fun q => { q with serial := n })) := by
  refine ⟨_, rfl, ⟨hs.owned, dead_members hs.dead v (by simp)⟩, ?_⟩
  change PacketValues.mk (living PacketValue.mk s.owners.value _) s.bytes _ = _
  rw [living_members, values_some hv]
  rfl

theorem read_done {s : Packets ι} (hs : s.Good) {v : ι} {m : ℕ} (hv : s.serial v = some m)
    {old : AVPacket} (hold : s.owners.value v = some old) (hblank : old.data = none)
    (p : AVPacket) (bytes : Bytes) :
    Done (s.read v p bytes) (PacketOp.onValues s.values (.read v p bytes)) := by
  have hnew : ∀ b, packetKind.refs { p with data := some b } = [b] := fun _ => rfl
  rcases hs.owned.fill (x := fun b => { p with data := some b }) hold (refs_nil hblank) hnew with
    ⟨owners, hrun, howned, hvalue⟩
  have hbecomes : Becomes s.owners owners v (some { p with data := some s.owners.heap.fresh }) 1 :=
    ⟨howned, hvalue, (Owners.fill_count hnew hrun).2⟩
  rcases hbecomes.rewritten hs (by simp [hv]) with ⟨t, ht, hgood, hvalues⟩
  rw [read, hrun, Option.map_some]
  refine ⟨_, rfl, ⟨howned, ?_⟩, ?_⟩
  · rw [← Option.some.inj ht] at hgood
    exact hgood.dead
  · rw [← Option.some.inj ht] at hvalues
    have hvalue' := congrArg PacketValues.value hvalues
    have hnext := congrArg PacketValues.next hvalues
    change PacketValues.mk (living PacketValue.mk owners.value s.serial) _ owners.heap.fresh = _
    rw [show living PacketValue.mk owners.value s.serial = _ from hvalue',
      show owners.heap.fresh = _ from hnext]
    rfl

omit [DecidableEq ι] in
theorem write_done {s : Packets ι} (hs : s.Good) {v : ι} {x : AVPacket}
    (hx : s.owners.value v = some x) {b : ℕ} (hb : x.data = some b) (i : ℕ) (byte : UInt8) :
    Done (s.write v i byte)
      { s.values with bytes := Function.update s.bytes b ((s.bytes b).set i byte) } := by
  rw [write, hx, Option.bind_some, hb, Option.map_some]
  exact ⟨_, rfl, ⟨hs.owned, hs.dead⟩, rfl⟩

omit [DecidableEq ι] in
/-- What others do to the counts is not seen through the variables. -/
theorem outside_done {s : Packets ι} (hs : s.Good) {h : Heap AVPacket}
    (hc : Heap.Counted packetKind h) (hobject : h.object = s.owners.heap.object)
    (hfresh : h.fresh = s.owners.heap.fresh) :
    Done (some { s with owners := { s.owners with heap := h } }) s.values := by
  rcases hs.owned.outside hc hobject with ⟨howned, hvalue⟩
  refine ⟨_, rfl, ⟨howned, ?_⟩, ?_⟩
  · intro u hu
    rw [hvalue]
    exact hs.dead u hu
  · change PacketValues.mk (living PacketValue.mk _ s.serial) s.bytes h.fresh = _
    rw [hvalue, hfresh]
    rfl

omit [DecidableEq ι] in
theorem send_done {s : Packets ι} (hs : s.Good) {v : ι} {x : AVPacket}
    (hx : s.owners.value v = some x) : Done (s.send v) s.values := by
  rcases hs.owned.counted.lend (hs.owned.ref_pos hx) with ⟨h, hrun, hc, -, hobject⟩
  rw [send, hx, Option.bind_some, hrun, Option.map_some]
  exact outside_done hs hc hobject (Heap.lend_count (hs.owned.ref_pos hx) hrun).2

omit [DecidableEq ι] in
theorem drop_done {s : Packets ι} (hs : s.Good) {b : ℕ} (hb : 0 < s.owners.heap.outside b) :
    Done ((s.owners.heap.giveBack b).map fun h =>
      { s with owners := { s.owners with heap := h } }) s.values := by
  rcases hs.owned.counted.giveBack hb with ⟨h, hrun, hc, -, hobject⟩
  have hcount := hs.owned.counted.count_eq b
  rw [hrun, Option.map_some]
  exact outside_done hs hc hobject (Heap.giveBack_count (by omega) hrun).2

/-- An operation that is enabled is carried out, and acts on the variables as on plain values. -/
theorem exec_done {s : Packets ι} (hs : s.Good) {op : PacketOp ι} (hen : s.enabled op = true)
    (halloc : op.allocated = true) : Done (s.exec op) (op.onValues s.values) := by
  cases op with
  | construct v alloc => exact construct_done hs (not_alive_iff.mp hen) alloc
  | wrap v w alloc ref =>
    rw [enabled, Bool.and_eq_true, not_alive_iff, alive_iff] at hen
    rcases hen with ⟨hv, n, hw⟩
    change alloc = true at halloc
    rw [halloc]
    exact wrap_done hs hv hw ref
  | copy v w alloc ref =>
    rw [enabled, Bool.and_eq_true, not_alive_iff, alive_iff] at hen
    rcases hen with ⟨hv, n, hw⟩
    change alloc = true at halloc
    rw [halloc]
    exact copy_done hs hv hw ref
  | copyAssign v w alloc ref =>
    rw [enabled, Bool.and_eq_true, alive_iff, alive_iff] at hen
    rcases hen with ⟨-, n, hw⟩
    change alloc = true at halloc
    rw [halloc]
    exact copyAssign_done hs hw ref
  | move v w =>
    rw [enabled, Bool.and_eq_true, not_alive_iff, alive_iff] at hen
    rcases hen with ⟨hv, n, hw⟩
    exact move_done hs hv hw
  | moveAssign v w =>
    rw [enabled, Bool.and_eq_true, alive_iff, alive_iff] at hen
    rcases hen with ⟨-, n, hw⟩
    exact moveAssign_done hs hw
  | destroy v => exact destroy_done hs v
  | unref v => exact unref_done hs v
  | setSerial v n =>
    rcases alive_iff.mp hen with ⟨m, hv⟩
    exact setSerial_done hs hv n
  | set v f => exact set_done hs v f
  | read v p bytes =>
    rw [enabled, Bool.and_eq_true, alive_iff, Option.any_eq_true] at hen
    rcases hen with ⟨⟨m, hv⟩, old, hold, hnone⟩
    exact read_done hs hv hold (Option.isNone_iff_eq_none.mp hnone) p bytes
  | write v i byte =>
    rw [enabled, Bool.and_eq_true, alive_iff, Option.any_eq_true] at hen
    rcases hen with ⟨⟨m, hv⟩, x, hx, hdata⟩
    rw [Option.any_eq_true] at hdata
    rcases hdata with ⟨b, hb, -⟩
    have hvalue : ((s.values.value v).bind (·.packet)).bind (·.data) = some b := by
      rw [values_some hv, Option.bind_some, hx, Option.bind_some, hb]
    rw [PacketOp.onValues, hvalue, Option.elim_some]
    exact write_done hs hx hb i byte
  | send v =>
    rw [enabled, Bool.and_eq_true, Option.isSome_iff_exists] at hen
    rcases hen with ⟨-, x, hx⟩
    exact send_done hs hx
  | drop b => exact drop_done hs (of_decide_eq_true hen)

theorem step_done {s t : Packets ι} (hs : s.Good) {op : PacketOp ι}
    (halloc : op.allocated = true) (hstep : s.step op = some t) :
    t.Good ∧ t.values = op.onValues s.values := by
  rw [step] at hstep
  split at hstep
  · rename_i hen
    rcases exec_done hs hen halloc with ⟨t', ht', hgood, hvalues⟩
    rw [ht', Option.some.injEq] at hstep
    rw [← hstep]
    exact ⟨hgood, hvalues⟩
  · contradiction

theorem run_done {s t : Packets ι} (hs : s.Good) {prog : List (PacketOp ι)}
    (halloc : ∀ op ∈ prog, op.allocated = true) (hrun : run step s prog = some t) :
    t.Good ∧ t.values = prog.foldl PacketOp.onValues s.values :=
  run_refines (fun _ _ _ hs halloc hstep => step_done hs halloc hstep) hs halloc hrun

/-- In every program no operation follows a null or freed pointer, the count of a buffer is the
number of packets and codecs that refer to it, and what the variables owned is gone with them. -/
theorem program_safe {s : Packets ι} {prog : List (PacketOp ι)}
    (halloc : ∀ op ∈ prog, op.allocated = true) (hrun : run step init prog = some s) :
    (∀ op, s.enabled op = true → op.allocated = true → (s.exec op).isSome) ∧
    (∀ b, s.owners.heap.count b =
      s.owners.heap.references packetKind b + s.owners.heap.outside b) ∧
    (∀ b, 0 < s.owners.heap.count b ↔
      (∃ v x, s.owners.value v = some x ∧ x.data = some b) ∨ 0 < s.owners.heap.outside b) ∧
    ((∀ v, s.alive v = false) → (∀ a, s.owners.heap.object a = none) ∧
      ∀ b, s.owners.heap.count b = s.owners.heap.outside b) := by
  have hgood := (run_done Good.init halloc hrun).1
  refine ⟨?_, hgood.owned.counted.count_eq, ?_, ?_⟩
  · intro op hen hop
    rcases exec_done hgood hen hop with ⟨t, ht, -⟩
    rw [ht, Option.isSome_some]
  · intro b
    have hrefs : ∀ x : AVPacket, b ∈ packetKind.refs x ↔ x.data = some b :=
      fun x => Option.mem_toList
    rw [hgood.owned.count_pos_iff]
    simp only [hrefs]
  · intro hdead
    apply hgood.owned.no_leak
    intro v
    apply hgood.dead v
    have := hdead v
    rwa [alive, Option.isSome_eq_false_iff, Option.isNone_iff_eq_none] at this

/-- A variable goes through its life on one packet: it is read, handed to the codec, copied into a
queue, written to, and everything is destroyed while the codec still holds the data. -/
def roundTrip : List (PacketOp ℕ) :=
  [.construct 0 true, .read 0 ⟨none, true, 40, 7, 7, 1⟩ [0], .wrap 1 0 true true, .unref 0,
    .copy 2 1 true true, .send 2, .write 1 0 3, .moveAssign 0 2, .copyAssign 2 0 true true,
    .destroy 0, .destroy 1, .destroy 2]

theorem roundTrip_runs : (run step init roundTrip).isSome = true := by decide

theorem roundTrip_safe :
    let s := (run step init roundTrip).get roundTrip_runs
    ∀ b, s.owners.heap.count b =
      s.owners.heap.references packetKind b + s.owners.heap.outside b :=
  (program_safe (by decide) (Option.some_get roundTrip_runs).symm).2.1

/-- The buffer that the data of a variable lie in. -/
def buffer (s : Packets ι) (v : ι) : Option ℕ := (s.owners.value v).bind (·.data)

/-- What is read at the data of a variable; nothing when the buffer is gone. -/
def data (s : Packets ι) (v : ι) : Option Bytes :=
  (s.buffer v).bind fun b => if 0 < s.owners.heap.count b then some (s.bytes b) else none

omit [DecidableEq ι] in
theorem Good.data_eq {s : Packets ι} (hs : s.Good) (v : ι) : s.data v = (s.buffer v).map s.bytes := by
  cases hb : s.buffer v with
  | none => rw [data, hb, Option.bind_none, Option.map_none]
  | some b =>
    rcases Option.bind_eq_some_iff.mp hb with ⟨x, hx, hdata⟩
    have hlive : 0 < s.owners.heap.count b := hs.owned.ref_pos hx b (Option.mem_toList.mpr hdata)
    rw [data, hb, Option.bind_some, if_pos hlive, Option.map_some]

theorem write_data {s s' : Packets ι} (hs : s.Good) {v : ι} {i : ℕ} {byte : UInt8}
    (h : s.step (.write v i byte) = some s') (w : ι) :
    s'.data w = if s.buffer w = s.buffer v then (s.data w).map (·.set i byte) else s.data w := by
  have hs' := (step_done hs rfl h).1
  rw [step] at h
  split at h
  · rcases Option.bind_eq_some_iff.mp h with ⟨x, hx, h⟩
    rcases Option.map_eq_some_iff.mp h with ⟨b, hb, rfl⟩
    have hv : s.buffer v = some b := by rw [buffer, hx, Option.bind_some, hb]
    rw [hs'.data_eq, hs.data_eq, hv]
    change (s.buffer w).map (Function.update s.bytes b _) = _
    cases hw : s.buffer w with
    | none => rfl
    | some c =>
      by_cases hcb : c = b
      · rw [hcb, Option.map_some, if_pos rfl, Option.map_some, Option.map_some,
          Function.update_self]
      · rw [Option.map_some, Function.update_of_ne hcb,
          if_neg fun h => hcb (Option.some.inj h), Option.map_some]
  · contradiction

/-- Programs treat packets as plain values that name arrays of bytes: counting and freeing the
buffers is not seen, and a write is seen through the variables that share the buffer and through
no other. -/
theorem program_values {s : Packets ι} {prog : List (PacketOp ι)}
    (halloc : ∀ op ∈ prog, op.allocated = true) (hrun : run step init prog = some s) :
    s.values = prog.foldl PacketOp.onValues .init ∧
      (∀ v, s.data v = (s.buffer v).map s.bytes) ∧
      ∀ v i byte s', s.step (.write v i byte) = some s' → ∀ w,
        s'.data w = if s.buffer w = s.buffer v then (s.data w).map (·.set i byte) else s.data w := by
  rcases run_done Good.init halloc hrun with ⟨hgood, hvalues⟩
  exact ⟨hvalues, hgood.data_eq, fun v i byte s' h w => write_data hgood h w⟩

theorem roundTrip_values :
    ((run step init roundTrip).get roundTrip_runs).values =
      roundTrip.foldl PacketOp.onValues .init :=
  (program_values (by decide) (Option.some_get roundTrip_runs).symm).1

end Packets

end DecoderSDK.Memory
