import DecoderSDK.Base.Frame
import DecoderSDK.Interleaving.Runs
import DecoderSDK.Ownership.Handles

/-! # The class `Frame` over counted buffers

A `Frame` allocates its `AVFrame` when it needs one and gives it up when a
reference cannot be taken. A picture may lie in several buffers, which the
decoder allocates and keeps references to. Programs run on any number of
frames, and on the decoder that fills them.
-/
namespace DecoderSDK.Frame
variable {π : Type*}

def edit (f : Frame π) (g : π → π) : Frame π :=
  { f with frame := match f.frame with
      | .data p => .data (g p)
      | other => other }

end DecoderSDK.Frame

namespace DecoderSDK.Memory
open Bitstream Ownership Interleaving

/-- An `AVFrame` on the heap: it refers to buffers exactly when it has a picture. -/
structure FrameCell (π : Type*) where
  bufs : List ℕ
  picture : Option π
  bufs_nil : bufs = [] ↔ picture = none

namespace FrameCell
variable {π : Type*}

def blank : FrameCell π := ⟨[], none, by simp⟩

/-- The frame as its users see it. -/
def frame (x : FrameCell π) : AVFrame π := x.picture.elim .blank .data

def edit (f : π → π) (x : FrameCell π) : FrameCell π :=
  ⟨x.bufs, x.picture.map f, by rw [x.bufs_nil, Option.map_eq_none_iff]⟩

end FrameCell

/-- `AVFrame`s as heap objects. -/
def frameKind (π : Type*) : Kind (FrameCell π) := ⟨FrameCell.bufs, .blank, rfl⟩

/-- The members of a `Frame` besides its `AVFrame`. -/
structure FrameMembers where
  serial : ℕ
  duration : ℚ
  pts : ℚ
  mediaType : Option MediaType
  userSEIDataList : List UserSEIData
  deriving DecidableEq

namespace FrameMembers

def new : FrameMembers := ⟨0, 0, 0, none, []⟩

/-- The members that a move leaves behind. -/
def moved (m : FrameMembers) : FrameMembers := { m with userSEIDataList := [] }

/-- The setters of `Frame`, by the member each writes. -/
inductive Field where
  | serial (value : ℕ)
  | durationByFps (value : ℚ)
  | secPts (value : ℚ)
  | mediaType (value : Option MediaType)
  | userSEIDataList (value : List UserSEIData)

def set (m : FrameMembers) : Field → FrameMembers
  | .serial n => { m with serial := n }
  | .durationByFps d => { m with duration := d }
  | .secPts t => { m with pts := t }
  | .mediaType t => { m with mediaType := t }
  | .userSEIDataList l => { m with userSEIDataList := l }

end FrameMembers

/-- A `Frame` put together from its parts. -/
def frameValue {π : Type*} (f : AVFrame π) (m : FrameMembers) : Frame π :=
  ⟨f, m.serial, m.duration, m.pts, m.mediaType, m.userSEIDataList⟩

def frameMembers {π : Type*} (f : Frame π) : FrameMembers :=
  ⟨f.serial, f.duration, f.pts, f.mediaType, f.userSEIDataList⟩

/-- The frames by name: what each owns, and its members while it is alive. -/
structure Frames (ι π : Type*) where
  owners : Owners ι (FrameCell π)
  members : ι → Option FrameMembers

inductive FrameOp (ι π : Type*) where
  | construct (v : ι)
  | wrap (v w : ι) (alloc ref : Bool)
  | copy (v w : ι) (alloc ref : Bool)
  | copyAssign (v w : ι) (alloc ref : Bool)
  | move (v w : ι)
  | moveAssign (v w : ι)
  | destroy (v : ι)
  | ensureAllocated (v : ι) (alloc : Bool)
  | release (v : ι)
  | unref (v : ι)
  | set (v : ι) (field : FrameMembers.Field)
  | edit (v : ι) (f : π → π)
  | create
  | receive (v : ι) (bufs : List ℕ) (picture : π)
  | drop (b : ℕ)

namespace Frames
variable {ι π : Type*} [DecidableEq ι]

def init : Frames ι π := ⟨.empty, fun _ => none⟩

/-- The `AVFrame` seen through each variable. -/
def frame (s : Owners ι (FrameCell π)) (v : ι) : AVFrame π :=
  (s.value v).elim .null FrameCell.frame

/-- `av_frame_ref` into a blank frame, with whether it succeeds: a frame without buffers has no
format to allocate any for, and a failure leaves the target blank. -/
def av_frame_ref (s : Owners ι (FrameCell π)) (dst src : ι) (ref : Bool) :
    Option (Owners ι (FrameCell π) × Bool) :=
  (s.value src).bind fun x =>
    if ref && !x.bufs.isEmpty then (s.refer (frameKind π) dst x).map fun s => (s, true)
    else (s.refer (frameKind π) dst .blank).map fun s => (s, false)

/-- `ensureAllocated()` -/
def allocate (s : Owners ι (FrameCell π)) (v : ι) (alloc : Bool) : Owners ι (FrameCell π) :=
  if (s.pointer v).isSome then s else s.acquire (frameKind π) v alloc

/-- `release()` -/
def discard (s : Owners ι (FrameCell π)) (v : ι) : Option (Owners ι (FrameCell π)) :=
  if (s.pointer v).isSome then
    (s.unref (frameKind π) v).bind fun s => s.discard (frameKind π) v
  else some s

/-- A variable that owns nothing takes a reference to the frame of another, if it has one, and
owns nothing again when that fails. -/
def take (s : Owners ι (FrameCell π)) (v w : ι) (alloc ref : Bool) :
    Option (Owners ι (FrameCell π)) :=
  if (s.pointer w).isSome then
    (av_frame_ref (allocate s v alloc) v w ref).bind fun (s, ok) =>
      if ok then some s else discard s v
  else some s

/-- `Frame(AVFrame *)` -/
def wrap (s : Frames ι π) (v w : ι) (alloc ref : Bool) : Option (Frames ι π) :=
  (take s.owners v w alloc ref).map fun owners =>
    ⟨owners, Function.update s.members v (some .new)⟩

/-- `Frame(const Frame &)` -/
def copy (s : Frames ι π) (v w : ι) (alloc ref : Bool) : Option (Frames ι π) :=
  (take s.owners v w alloc ref).map fun owners =>
    ⟨owners, Function.update s.members v (s.members w)⟩

/-- `operator=(const Frame &)` -/
def copyAssign (s : Frames ι π) (v w : ι) (alloc ref : Bool) : Option (Frames ι π) :=
  if v = w then some s
  else ((discard s.owners v).bind fun owners => take owners v w alloc ref).map fun owners =>
    ⟨owners, Function.update s.members v (s.members w)⟩

/-- `Frame(Frame &&)`: the members of the source stay, but for the list that is moved. -/
def move (s : Frames ι π) (v w : ι) : Frames ι π :=
  ⟨s.owners.transfer v w,
    Function.update (Function.update s.members v (s.members w)) w
      ((s.members w).map FrameMembers.moved)⟩

/-- `operator=(Frame &&)` -/
def moveAssign (s : Frames ι π) (v w : ι) : Option (Frames ι π) :=
  if v = w then some s
  else (discard s.owners v).map fun owners =>
    ⟨owners.transfer v w,
      Function.update (Function.update s.members v (s.members w)) w
        ((s.members w).map FrameMembers.moved)⟩

/-- `avcodec_receive_frame`: the frame drops what it holds and refers to buffers of the decoder. -/
def receive (s : Owners ι (FrameCell π)) (v : ι) (bufs : List ℕ) (p : π) :
    Option (Owners ι (FrameCell π)) :=
  if h : bufs = [] then none
  else (s.unref (frameKind π) v).bind fun s =>
    s.refer (frameKind π) v ⟨bufs, some p, by simp [h]⟩

/-- What the calls of an operation do; `none` when one of them follows a null or a freed pointer. -/
def exec (s : Frames ι π) : FrameOp ι π → Option (Frames ι π)
  | .construct v => some { s with members := Function.update s.members v (some .new) }
  | .wrap v w alloc ref => s.wrap v w alloc ref
  | .copy v w alloc ref => s.copy v w alloc ref
  | .copyAssign v w alloc ref => s.copyAssign v w alloc ref
  | .move v w => some (s.move v w)
  | .moveAssign v w => s.moveAssign v w
  | .destroy v => (discard s.owners v).map fun owners =>
      ⟨owners, Function.update s.members v none⟩
  | .ensureAllocated v alloc => some { s with owners := allocate s.owners v alloc }
  | .release v => (discard s.owners v).map fun owners => { s with owners := owners }
  | .unref v => (s.owners.unref (frameKind π) v).map fun owners => { s with owners := owners }
  | .set v f => some
      { s with members := Function.update s.members v ((s.members v).map (·.set f)) }
  | .edit v f => some { s with owners := s.owners.edit v (FrameCell.edit f) }
  | .create => some { s with owners := { s.owners with heap := s.owners.heap.create } }
  | .receive v bufs p => (receive s.owners v bufs p).map fun owners => { s with owners := owners }
  | .drop b => (s.owners.heap.giveBack b).map fun h =>
      { s with owners := { s.owners with heap := h } }

def alive (s : Frames ι π) (v : ι) : Bool := (s.members v).isSome

/-- A frame is constructed once and used while it is alive; the decoder fills an allocated frame
with buffers that it holds itself. -/
def enabled (s : Frames ι π) : FrameOp ι π → Bool
  | .construct v => !s.alive v
  | .wrap v w _ _ | .copy v w _ _ | .move v w => !s.alive v && s.alive w
  | .copyAssign v w _ _ | .moveAssign v w => s.alive v && s.alive w
  | .destroy v | .ensureAllocated v _ | .release v | .unref v | .set v _ | .edit v _ => s.alive v
  | .create => true
  | .receive v bufs _ => s.alive v && (s.owners.value v).isSome && !bufs.isEmpty &&
      bufs.all fun b => 0 < s.owners.heap.outside b
  | .drop b => 0 < s.owners.heap.outside b

def step (s : Frames ι π) (op : FrameOp ι π) : Option (Frames ι π) :=
  if s.enabled op then s.exec op else none

end Frames

/-- The allocations after which a frame is filled succeed. -/
def FrameOp.allocated {ι π : Type*} : FrameOp ι π → Bool
  | .wrap _ _ alloc _ | .copy _ _ alloc _ | .copyAssign _ _ alloc _ | .ensureAllocated _ alloc => alloc
  | _ => true

/-- The operations on variables that hold plain frames: `none` is a variable that is not alive. -/
def FrameOp.onValues {ι π : Type*} [DecidableEq ι] (vals : ι → Option (Frame π)) :
    FrameOp ι π → ι → Option (Frame π)
  | .construct v => Function.update vals v (some .new)
  | .wrap v w _ ref =>
      Function.update vals v
        ((vals w).map fun f => { (Frame.new : Frame π) with frame := (f.copied ref).frame })
  | .copy v w _ ref => Function.update vals v ((vals w).map (·.copied ref))
  | .copyAssign v w _ ref =>
      if v = w then vals else Function.update vals v ((vals w).map (·.copied ref))
  | .move v w => Function.update (Function.update vals v (vals w)) w ((vals w).map Frame.moved)
  | .moveAssign v w =>
      if v = w then vals
      else Function.update (Function.update vals v (vals w)) w ((vals w).map Frame.moved)
  | .destroy v => Function.update vals v none
  | .ensureAllocated v _ => Function.update vals v ((vals v).map Frame.ensureAllocated)
  | .release v => Function.update vals v ((vals v).map fun f => { f with frame := .null })
  | .unref v => Function.update vals v ((vals v).map Frame.unref)
  | .set v field => Function.update vals v ((vals v).map fun f =>
      frameValue f.frame ((frameMembers f).set field))
  | .edit v g => Function.update vals v ((vals v).map (·.edit g))
  | .create => vals
  | .receive v _ p => Function.update vals v ((vals v).map fun f => { f with frame := .data p })
  | .drop _ => vals

namespace Frames
variable {ι π : Type*} [DecidableEq ι]

/-- What the variables hold. -/
def values (s : Frames ι π) : ι → Option (Frame π) := living frameValue (frame s.owners) s.members

/-- Every `AVFrame` belongs to one variable that is alive. -/
structure Good (s : Frames ι π) : Prop where
  owned : s.owners.Owned (frameKind π)
  dead : ∀ v, s.members v = none → frame s.owners v = .null

omit [DecidableEq ι] in
theorem Good.init : Good (init : Frames ι π) := ⟨.empty, fun _ _ => rfl⟩

omit [DecidableEq ι] in
theorem frame_eq_null {s : Owners ι (FrameCell π)} {v : ι} :
    frame s v = .null ↔ s.value v = none := by
  rw [frame]
  cases s.value v with
  | none => simp
  | some x =>
    rcases x with ⟨bufs, picture, hnil⟩
    cases picture <;> simp [FrameCell.frame]

omit [DecidableEq ι] in
/-- A frame without a picture refers to no buffer. -/
theorem frame_refs_nil {x : FrameCell π} (h : x.frame = .blank) : (frameKind π).refs x = [] := by
  rcases x with ⟨bufs, picture, hnil⟩
  cases picture with
  | none => exact hnil.mpr rfl
  | some p => contradiction

theorem frame_update {s s' : Owners ι (FrameCell π)} {v : ι} {o : Option (FrameCell π)}
    (h : s'.value = Function.update s.value v o) :
    frame s' = Function.update (frame s) v (o.elim .null FrameCell.frame) := by
  ext1 u
  rw [frame, h, Function.apply_update fun _ (o : Option (FrameCell π)) => o.elim .null FrameCell.frame]
  rfl

/-- An allocated frame stays as it is, a missing one becomes blank. -/
theorem frame_allocate {s : Owners ι (FrameCell π)} (hs : s.Owned (frameKind π)) (v : ι) :
    (allocate s v true).Owned (frameKind π) ∧ frame (allocate s v true) =
      Function.update (frame s) v (match frame s v with | .null => .blank | f => f) := by
  rw [allocate, hs.isSome_pointer]
  cases hv : s.value v with
  | none =>
    rcases hs.acquire hv true with ⟨howned, hvalue⟩
    have hnull : frame s v = .null := frame_eq_null.mpr hv
    refine ⟨howned, ?_⟩
    rw [hnull]
    exact frame_update hvalue
  | some x =>
    refine ⟨hs, ?_⟩
    have hsome : frame s v = x.frame := by rw [frame, hv, Option.elim_some]
    have hself : (match frame s v with | .null => .blank | f => f) = frame s v := by
      rw [hsome]
      rcases x with ⟨bufs, picture, hnil⟩
      cases picture <;> rfl
    rw [hself, Function.update_eq_self, if_pos Option.isSome_some]

theorem frame_discard {s : Owners ι (FrameCell π)} (hs : s.Owned (frameKind π)) (v : ι) :
    ∃ s', discard s v = some s' ∧ s'.Owned (frameKind π) ∧
      frame s' = Function.update (frame s) v .null := by
  rw [discard, hs.isSome_pointer]
  cases hv : s.value v with
  | none =>
    refine ⟨s, by simp, hs, ?_⟩
    rw [← frame_eq_null.mpr hv, Function.update_eq_self]
  | some x =>
    rcases hs.unref v with ⟨s', hs', howned, hvalue⟩
    rcases howned.discard v with ⟨s'', hs'', howned', hvalue'⟩
    refine ⟨s'', ?_, howned', ?_⟩
    · rw [if_pos Option.isSome_some, hs', Option.bind_some, hs'']
    · rw [frame_update hvalue', frame_update hvalue, Function.update_idem]
      rfl

theorem frame_unref {s : Owners ι (FrameCell π)} (hs : s.Owned (frameKind π)) (v : ι) :
    ∃ s', s.unref (frameKind π) v = some s' ∧ s'.Owned (frameKind π) ∧
      frame s' = Function.update (frame s) v
        (match frame s v with | .null => .null | _ => .blank) := by
  rcases hs.unref v with ⟨s', hs', howned, hvalue⟩
  refine ⟨s', hs', howned, ?_⟩
  rw [frame_update hvalue]
  congr 1
  rw [frame]
  cases s.value v with
  | none => rfl
  | some x =>
    rcases x with ⟨bufs, picture, hnil⟩
    cases picture <;> rfl

theorem frame_transfer {s : Owners ι (FrameCell π)} (hs : s.Owned (frameKind π)) {v w : ι}
    (hvw : v ≠ w) (hv : frame s v = .null) : (s.transfer v w).Owned (frameKind π) ∧
      frame (s.transfer v w) =
        Function.update (Function.update (frame s) v (frame s w)) w .null := by
  rcases hs.transfer hvw (frame_eq_null.mp hv) with ⟨howned, hvalue⟩
  refine ⟨howned, ?_⟩
  ext1 u
  rw [frame, hvalue,
    Function.apply_update fun _ (o : Option (FrameCell π)) => o.elim .null FrameCell.frame]
  congr 1
  ext1 u
  rw [Function.apply_update fun _ (o : Option (FrameCell π)) => o.elim .null FrameCell.frame]
  rfl

/-- A variable without a frame becomes a copy of another, or stays without one. -/
theorem frame_take {s : Owners ι (FrameCell π)} (hs : s.Owned (frameKind π)) {v w : ι}
    (hwv : w ≠ v) (hv : frame s v = .null) (ref : Bool) :
    ∃ s', take s v w true ref = some s' ∧ s'.Owned (frameKind π) ∧
      frame s' = Function.update (frame s) v
        (match frame s w with | .data p => if ref then .data p else .null | _ => .null) := by
  rw [take, hs.isSome_pointer]
  cases hw : s.value w with
  | none =>
    refine ⟨s, by simp, hs, ?_⟩
    have hself := Function.update_eq_self v (frame s)
    rw [hv] at hself
    rw [frame_eq_null.mpr hw, hself]
  | some x =>
    rcases frame_allocate hs v with ⟨howned, hframe⟩
    rw [hv] at hframe
    have hblank : frame (allocate s v true) v = .blank := by rw [hframe, Function.update_self]
    have hsource : (allocate s v true).value w = some x := by
      rw [allocate, hs.isSome_pointer, frame_eq_null.mp hv, Option.isSome_none,
        if_neg Bool.false_ne_true]
      rw [(hs.acquire (frame_eq_null.mp hv) true).2, Function.update_of_ne hwv, hw]
    rcases hold : (allocate s v true).value v with _ | old
    · rw [frame, hold] at hblank
      contradiction
    rw [frame, hold, Option.elim_some] at hblank
    have hempty := frame_refs_nil hblank
    have hsame : frame s w = x.frame := by rw [frame, hw, Option.elim_some]
    rw [if_pos Option.isSome_some, av_frame_ref, hsource, Option.bind_some, hsame]
    by_cases hok : (ref && !x.bufs.isEmpty) = true
    · rcases howned.refer hold hempty (howned.ref_pos hsource) with ⟨s', hs', howned', hvalue⟩
      rw [if_pos hok, hs']
      refine ⟨s', rfl, howned', ?_⟩
      rw [frame_update hvalue, hframe, Function.update_idem, Option.elim_some]
      rw [Bool.and_eq_true, Bool.not_eq_true', List.isEmpty_eq_false_iff] at hok
      rcases x with ⟨bufs, picture, hnil⟩
      cases picture with
      | none => exact absurd (hnil.mpr rfl) hok.2
      | some p =>
        rw [hok.1]
        rfl
    · rcases howned.refer (x := .blank) hold hempty (by simp [frameKind, FrameCell.blank]) with
        ⟨s', hs', howned', hvalue⟩
      rcases frame_discard howned' v with ⟨s'', hs'', howned'', hframe'⟩
      rw [if_neg hok, hs']
      refine ⟨s'', hs'', howned'', ?_⟩
      rw [hframe', frame_update hvalue, hframe, Function.update_idem, Function.update_idem]
      congr 1
      rcases x with ⟨bufs, picture, hnil⟩
      cases picture with
      | none => rfl
      | some p =>
        have hbufs : bufs.isEmpty = false := by
          rw [List.isEmpty_eq_false_iff]
          intro h
          exact absurd (hnil.mp h) (by simp)
        rw [hbufs, Bool.not_false, Bool.and_true] at hok
        rw [FrameCell.frame, Option.elim_some]
        exact (if_neg hok).symm

omit [DecidableEq ι] in
theorem frames_alive_iff {s : Frames ι π} {v : ι} :
    s.alive v = true ↔ ∃ m, s.members v = some m := by
  rw [alive, Option.isSome_iff_exists]

omit [DecidableEq ι] in
theorem frames_not_alive_iff {s : Frames ι π} {v : ι} :
    (!s.alive v) = true ↔ s.members v = none := by
  rw [alive, Bool.not_eq_true', Option.isSome_eq_false_iff, Option.isNone_iff_eq_none]

omit [DecidableEq ι] in
theorem values_eq {s : Frames ι π} {v : ι} {m : FrameMembers} (h : s.members v = some m) :
    s.values v = some (frameValue (frame s.owners v) m) := by
  rw [values, living, h, Option.map_some]

omit [DecidableEq ι] in
theorem ne_of_dead {s : Frames ι π} {v w : ι} {m : FrameMembers} (hv : s.members v = none)
    (hw : s.members w = some m) : w ≠ v := by
  intro hwv
  rw [hwv, hv] at hw
  contradiction

/-- An operation is carried out: it reaches a state in good order that holds these values. -/
def Done (r : Option (Frames ι π)) (vals : ι → Option (Frame π)) : Prop :=
  ∃ s, r = some s ∧ s.Good ∧ s.values = vals

/-- The frame and the members of one variable are written. -/
theorem written_done {s : Frames ι π} (hs : s.Good) {v : ι} {owners : Owners ι (FrameCell π)}
    (howned : owners.Owned (frameKind π)) {f : AVFrame π}
    (hframe : frame owners = Function.update (frame s.owners) v f) {m : Option FrameMembers}
    (hm : m = none → f = .null) : Done (some ⟨owners, Function.update s.members v m⟩)
      (Function.update s.values v (m.map (frameValue f))) := by
  refine ⟨_, rfl, ⟨howned, ?_⟩, ?_⟩
  · change ∀ u, _ → frame owners u = .null
    rw [hframe]
    exact dead_update hs.dead v hm
  · change living frameValue (frame owners) _ = _
    rw [hframe]
    exact living_update _ _ _ v f m

/-- Only the frame of a variable is written. -/
theorem frame_done {s : Frames ι π} (hs : s.Good) {v : ι} {owners : Owners ι (FrameCell π)}
    (howned : owners.Owned (frameKind π)) {f : AVFrame π}
    (hframe : frame owners = Function.update (frame s.owners) v f)
    (hf : s.members v = none → f = .null) : Done (some { s with owners := owners })
      (Function.update s.values v ((s.members v).map (frameValue f))) := by
  have hdone := written_done hs howned hframe hf
  rwa [Function.update_eq_self] at hdone

theorem wrap_done {s : Frames ι π} (hs : s.Good) {v w : ι} (hv : s.members v = none)
    {m : FrameMembers} (hw : s.members w = some m) (ref : Bool) : Done (s.wrap v w true ref)
      (Function.update s.values v ((s.values w).map fun f =>
        { (Frame.new : Frame π) with frame := (f.copied ref).frame })) := by
  rcases frame_take hs.owned (ne_of_dead hv hw) (hs.dead v hv) ref with
    ⟨owners, hrun, howned, hframe⟩
  rw [wrap, hrun, Option.map_some, values_eq hw]
  exact written_done hs howned hframe (m := some .new) (by simp)

theorem copy_done {s : Frames ι π} (hs : s.Good) {v w : ι} (hv : s.members v = none)
    {m : FrameMembers} (hw : s.members w = some m) (ref : Bool) : Done (s.copy v w true ref)
      (Function.update s.values v ((s.values w).map (·.copied ref))) := by
  rcases frame_take hs.owned (ne_of_dead hv hw) (hs.dead v hv) ref with
    ⟨owners, hrun, howned, hframe⟩
  rw [copy, hrun, Option.map_some, values_eq hw, hw]
  exact written_done hs howned hframe (m := some m) (by simp)

theorem copyAssign_done {s : Frames ι π} (hs : s.Good) {v w : ι} {m : FrameMembers}
    (hw : s.members w = some m) (ref : Bool) : Done (s.copyAssign v w true ref)
      (if v = w then s.values
        else Function.update s.values v ((s.values w).map (·.copied ref))) := by
  by_cases hvw : v = w
  · rw [copyAssign, if_pos hvw, if_pos hvw]
    exact ⟨s, rfl, hs, rfl⟩
  · have hwv : w ≠ v := Ne.symm hvw
    rcases frame_discard hs.owned v with ⟨owners, hrun, howned, hframe⟩
    have hnull : frame owners v = .null := by rw [hframe, Function.update_self]
    have hsource : frame owners w = frame s.owners w := by
      rw [hframe, Function.update_of_ne hwv]
    rcases frame_take howned hwv hnull ref with ⟨owners', hrun', howned', hframe'⟩
    rw [hframe, Function.update_idem, Function.update_of_ne hwv] at hframe'
    rw [copyAssign, if_neg hvw, if_neg hvw, hrun, Option.bind_some, hrun', Option.map_some,
      values_eq hw, hw]
    exact written_done hs howned' hframe' (m := some m) (by simp)

/-- The owner and the members pass from one variable to another that owns nothing. -/
theorem transfer_done {s : Frames ι π} (hs : s.Good) {owners : Owners ι (FrameCell π)}
    (howned : owners.Owned (frameKind π)) {v w : ι} (hvw : v ≠ w)
    (hframe : frame owners = Function.update (frame s.owners) v .null) {m : FrameMembers}
    (hw : s.members w = some m) :
    Done (some ⟨owners.transfer v w,
        Function.update (Function.update s.members v (s.members w)) w
          ((s.members w).map FrameMembers.moved)⟩)
      (Function.update (Function.update s.values v (s.values w)) w
        ((s.values w).map Frame.moved)) := by
  have hnull : frame owners v = .null := by rw [hframe, Function.update_self]
  have hsource : frame owners w = frame s.owners w := by
    rw [hframe, Function.update_of_ne (Ne.symm hvw)]
  rcases frame_transfer howned hvw hnull with ⟨howned', hframe'⟩
  rw [hsource, hframe, Function.update_idem] at hframe'
  refine ⟨_, rfl, ⟨howned', ?_⟩, ?_⟩
  · change ∀ u, Function.update (Function.update s.members v (s.members w)) w
      ((s.members w).map FrameMembers.moved) u = none → frame (owners.transfer v w) u = .null
    rw [hframe', hw]
    apply dead_update _ w (by simp)
    exact dead_update hs.dead v (by simp)
  · change living frameValue (frame (owners.transfer v w)) _ = _
    rw [hframe', living_update, living_update, values_eq hw, hw]
    rfl

theorem move_done {s : Frames ι π} (hs : s.Good) {v w : ι} (hv : s.members v = none)
    {m : FrameMembers} (hw : s.members w = some m) : Done (some (s.move v w))
      (Function.update (Function.update s.values v (s.values w)) w
        ((s.values w).map Frame.moved)) := by
  have hself := Function.update_eq_self v (frame s.owners)
  rw [hs.dead v hv] at hself
  exact transfer_done hs hs.owned (Ne.symm (ne_of_dead hv hw)) hself.symm hw

theorem moveAssign_done {s : Frames ι π} (hs : s.Good) {v w : ι} {m : FrameMembers}
    (hw : s.members w = some m) : Done (s.moveAssign v w)
      (if v = w then s.values
        else Function.update (Function.update s.values v (s.values w)) w
          ((s.values w).map Frame.moved)) := by
  by_cases hvw : v = w
  · rw [moveAssign, if_pos hvw, if_pos hvw]
    exact ⟨s, rfl, hs, rfl⟩
  · rcases frame_discard hs.owned v with ⟨owners, hrun, howned, hframe⟩
    rw [moveAssign, if_neg hvw, if_neg hvw, hrun, Option.map_some]
    exact transfer_done hs howned hvw hframe hw

theorem receive_done {s : Frames ι π} (hs : s.Good) {v : ι} {m : FrameMembers}
    (hv : s.members v = some m) {x : FrameCell π} (hx : s.owners.value v = some x)
    {bufs : List ℕ} (hne : bufs ≠ []) (hbufs : ∀ b ∈ bufs, 0 < s.owners.heap.outside b) (p : π) :
    Done ((receive s.owners v bufs p).map fun owners => { s with owners := owners })
      (Function.update s.values v ((s.values v).map fun f => { f with frame := .data p })) := by
  rcases Owners.Owned.pointer_some hx with ⟨a, ha, hobj⟩
  rcases hs.owned.counted.unref hobj with ⟨h, hunref, hc, -, hout, hobject⟩
  rcases hs.owned.rewrite ha hc hobject with ⟨howned, hvalue⟩
  have hblank : (⟨h, s.owners.pointer⟩ : Owners ι (FrameCell π)).value v =
      some (frameKind π).blank := by rw [hvalue, Function.update_self]
  -- the buffers of the decoder outlive what the frame drops
  have hlive : ∀ b ∈ bufs, 0 < h.count b := by
    intro b hb
    have := hbufs b hb
    rw [hc.count_eq b, hout]
    omega
  rcases howned.refer (x := ⟨bufs, some p, by simp [hne]⟩) hblank (frameKind π).refs_blank hlive with
    ⟨owners, hrefer, howned', hvalue'⟩
  have hrun : receive s.owners v bufs p = some owners := by
    rw [receive, dif_neg hne, Owners.unref]
    simp only [ha, hunref, Option.map_some, Option.bind_some]
    exact hrefer
  have hframe : frame owners = Function.update (frame s.owners) v (.data p) := by
    rw [frame_update hvalue', frame_update hvalue, Function.update_idem]
    rfl
  rw [hrun, Option.map_some, values_eq hv]
  have hdone := frame_done hs howned' hframe (by simp [hv])
  rwa [hv] at hdone

omit [DecidableEq ι] in
/-- What the decoder does to its buffers is not seen through the variables. -/
theorem outside_done {s : Frames ι π} (hs : s.Good) {h : Heap (FrameCell π)}
    (hc : Heap.Counted (frameKind π) h) (hobject : h.object = s.owners.heap.object) :
    Done (some { s with owners := { s.owners with heap := h } }) s.values := by
  rcases hs.owned.outside hc hobject with ⟨howned, hvalue⟩
  have hframe : frame { s.owners with heap := h } = frame s.owners := by
    ext1 u
    rw [frame, hvalue, frame]
  refine ⟨_, rfl, ⟨howned, ?_⟩, ?_⟩
  · change ∀ u, _ → frame { s.owners with heap := h } u = .null
    rw [hframe]
    exact hs.dead
  · change living frameValue (frame { s.owners with heap := h }) s.members = _
    rw [hframe]
    rfl

/-- Setting a field of an allocated frame edits its picture. -/
theorem edit_done {s : Frames ι π} (hs : s.Good) {v : ι} {m : FrameMembers}
    (hv : s.members v = some m) (g : π → π) :
    Done (some { s with owners := s.owners.edit v (FrameCell.edit g) })
      (Function.update s.values v ((s.values v).map (·.edit g))) := by
  rcases hs.owned.edit v (f := FrameCell.edit g) (fun _ => rfl) with ⟨howned, hvalue⟩
  have hdone := frame_done hs howned (frame_update hvalue) (by simp [hv])
  rw [hv, Option.map_some] at hdone
  rw [values_eq hv, Option.map_some]
  suffices heq : frameValue (((s.owners.value v).map (FrameCell.edit g)).elim .null FrameCell.frame) m =
      (frameValue (frame s.owners v) m).edit g by rwa [heq] at hdone
  rw [frame]
  cases s.owners.value v with
  | none => rfl
  | some x =>
    rcases x with ⟨bufs, picture, hnil⟩
    cases picture <;> rfl

/-- An operation that is enabled is carried out, and acts on the variables as on plain frames. -/
theorem exec_done {s : Frames ι π} (hs : s.Good) {op : FrameOp ι π} (hen : s.enabled op = true)
    (halloc : op.allocated = true) : Done (s.exec op) (op.onValues s.values) := by
  cases op with
  | construct v =>
    have hself := Function.update_eq_self v (frame s.owners)
    rw [hs.dead v (frames_not_alive_iff.mp hen)] at hself
    exact written_done hs hs.owned hself.symm (m := some .new) (by simp)
  | wrap v w alloc ref =>
    rw [enabled, Bool.and_eq_true, frames_not_alive_iff, frames_alive_iff] at hen
    rcases hen with ⟨hv, m, hw⟩
    change alloc = true at halloc
    rw [halloc]
    exact wrap_done hs hv hw ref
  | copy v w alloc ref =>
    rw [enabled, Bool.and_eq_true, frames_not_alive_iff, frames_alive_iff] at hen
    rcases hen with ⟨hv, m, hw⟩
    change alloc = true at halloc
    rw [halloc]
    exact copy_done hs hv hw ref
  | copyAssign v w alloc ref =>
    rw [enabled, Bool.and_eq_true, frames_alive_iff, frames_alive_iff] at hen
    rcases hen with ⟨-, m, hw⟩
    change alloc = true at halloc
    rw [halloc]
    exact copyAssign_done hs hw ref
  | move v w =>
    rw [enabled, Bool.and_eq_true, frames_not_alive_iff, frames_alive_iff] at hen
    rcases hen with ⟨hv, m, hw⟩
    exact move_done hs hv hw
  | moveAssign v w =>
    rw [enabled, Bool.and_eq_true, frames_alive_iff, frames_alive_iff] at hen
    rcases hen with ⟨-, m, hw⟩
    exact moveAssign_done hs hw
  | destroy v =>
    rcases frame_discard hs.owned v with ⟨owners, hrun, howned, hframe⟩
    rw [exec, hrun, Option.map_some]
    exact written_done hs howned hframe (m := none) (fun _ => rfl)
  | ensureAllocated v alloc =>
    rcases frames_alive_iff.mp hen with ⟨m, hv⟩
    change alloc = true at halloc
    rw [halloc]
    rcases frame_allocate hs.owned v with ⟨howned, hframe⟩
    have hdone := frame_done hs howned hframe (by simp [hv])
    rw [hv, Option.map_some] at hdone
    rw [FrameOp.onValues, values_eq hv, Option.map_some, exec]
    cases hcase : frame s.owners v <;> rw [hcase] at hdone <;> exact hdone
  | release v =>
    rcases frames_alive_iff.mp hen with ⟨m, hv⟩
    rcases frame_discard hs.owned v with ⟨owners, hrun, howned, hframe⟩
    have hdone := frame_done hs howned hframe (fun _ => rfl)
    rw [hv, Option.map_some] at hdone
    rw [FrameOp.onValues, values_eq hv, exec, hrun, Option.map_some]
    exact hdone
  | unref v =>
    rcases frames_alive_iff.mp hen with ⟨m, hv⟩
    rcases frame_unref hs.owned v with ⟨owners, hrun, howned, hframe⟩
    have hdone := frame_done hs howned hframe (by simp [hv])
    rw [hv, Option.map_some] at hdone
    rw [FrameOp.onValues, values_eq hv, Option.map_some, exec, hrun, Option.map_some]
    cases hcase : frame s.owners v <;> rw [hcase] at hdone <;> exact hdone
  | set v field =>
    rcases frames_alive_iff.mp hen with ⟨m, hv⟩
    have hdone := written_done hs hs.owned (Function.update_eq_self v (frame s.owners)).symm
      (m := some (m.set field)) (by simp)
    rw [exec, FrameOp.onValues, values_eq hv, hv]
    exact hdone
  | edit v g =>
    rcases frames_alive_iff.mp hen with ⟨m, hv⟩
    exact edit_done hs hv g
  | create => exact outside_done hs hs.owned.counted.create rfl
  | receive v bufs p =>
    simp only [enabled, Bool.and_eq_true, frames_alive_iff, Option.isSome_iff_exists,
      Bool.not_eq_true', List.isEmpty_eq_false_iff, List.all_eq_true, decide_eq_true_eq] at hen
    rcases hen with ⟨⟨⟨⟨m, hv⟩, x, hx⟩, hne⟩, hbufs⟩
    exact receive_done hs hv hx hne hbufs p
  | drop b =>
    rcases hs.owned.counted.giveBack (of_decide_eq_true hen) with ⟨h, hrun, hc, -, hobject⟩
    rw [exec, hrun, Option.map_some]
    exact outside_done hs hc hobject

theorem step_done {s t : Frames ι π} (hs : s.Good) {op : FrameOp ι π}
    (halloc : op.allocated = true) (hstep : s.step op = some t) :
    t.Good ∧ t.values = op.onValues s.values := by
  rw [step] at hstep
  split at hstep
  · rename_i hen
    rcases exec_done hs hen halloc with ⟨t', ht', hgood, hvalues⟩
    rw [ht', Option.some.injEq] at hstep
    rw [← hstep]
    exact ⟨hgood, hvalues⟩
  · contradiction

theorem run_done {s t : Frames ι π} (hs : s.Good) {prog : List (FrameOp ι π)}
    (halloc : ∀ op ∈ prog, op.allocated = true) (hrun : run step s prog = some t) :
    t.Good ∧ t.values = prog.foldl FrameOp.onValues s.values :=
  run_refines (fun _ _ _ hs halloc hstep => step_done hs halloc hstep) hs halloc hrun

/-- In every program the frames behave as plain values, no operation follows a null or freed
pointer, a buffer lives as long as a frame or the decoder refers to it, and nothing is left of
frames that are gone. -/
theorem frames_program {s : Frames ι π} {prog : List (FrameOp ι π)}
    (halloc : ∀ op ∈ prog, op.allocated = true) (hrun : run step init prog = some s) :
    s.values = prog.foldl FrameOp.onValues (fun _ => none) ∧
    (∀ op, s.enabled op = true → op.allocated = true → (s.exec op).isSome) ∧
    (∀ b, 0 < s.owners.heap.count b ↔
      (∃ v x, s.owners.value v = some x ∧ b ∈ x.bufs) ∨ 0 < s.owners.heap.outside b) ∧
    ((∀ v, s.alive v = false) → (∀ a, s.owners.heap.object a = none) ∧
      ∀ b, s.owners.heap.count b = s.owners.heap.outside b) := by
  rcases run_done Good.init halloc hrun with ⟨hgood, hvalues⟩
  refine ⟨hvalues, ?_, hgood.owned.count_pos_iff, ?_⟩
  · intro op hen hop
    rcases exec_done hgood hen hop with ⟨t, ht, -⟩
    rw [ht, Option.isSome_some]
  · intro hdead
    apply hgood.owned.no_leak
    intro v
    have hv := hdead v
    rw [alive, Option.isSome_eq_false_iff, Option.isNone_iff_eq_none] at hv
    exact frame_eq_null.mp (hgood.dead v hv)

/-- A picture of two buffers is decoded, copied, moved and dropped, once with a failing copy. -/
def playPicture : List (FrameOp ℕ ℕ) :=
  [.construct 0, .ensureAllocated 0 true, .create, .create, .receive 0 [0, 1] 5, .drop 0,
    .copy 1 0 true true, .unref 0, .copy 2 0 true true, .moveAssign 0 1, .copyAssign 2 0 true true,
    .edit 2 (· + 1), .copy 3 2 true false, .release 0, .destroy 0, .destroy 1, .destroy 2]

theorem playPicture_runs : (run step init playPicture).isSome = true := by decide

theorem playPicture_values :
    ((run step init playPicture).get playPicture_runs).values =
      playPicture.foldl FrameOp.onValues (fun _ => none) :=
  (frames_program (by decide) (Option.some_get playPicture_runs).symm).1

end Frames

end DecoderSDK.Memory
