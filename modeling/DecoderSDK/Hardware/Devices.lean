import DecoderSDK.Hardware.Types
import DecoderSDK.Ownership.Handles

/-! # The contexts of hardware devices

A device context is reference counted: the accelerator that made it holds a
reference, each codec context it sets up another, and so do the surface pools
of the codecs. What the user handed over for a device is given back through a
callback of the device context when its last reference goes.
-/
namespace DecoderSDK.Hardware
open Ownership

/-- What a device context keeps for the user's callback. -/
structure FreeHWContext where
  type : HWAccelType
  userHwContext : ℕ
  deriving DecidableEq

/-- The owners of references: accelerators and codec contexts. -/
inductive Holder where
  | accel (h : ℕ)
  | codec (c : ℕ)
  deriving DecidableEq

/-- An `AVBufferRef` is an object with one reference. -/
def refKind : Kind (Option ℕ) := ⟨Option.toList, none, rfl⟩

/-- The device contexts by buffer. `registered` remembers the user contexts that were ever
attached, `calls` the calls of the user's callback. -/
structure Devices where
  owners : Owners Holder (Option ℕ)
  deviceType : ℕ → AVHWDeviceType
  freeContext : ℕ → Option FreeHWContext
  registered : ℕ → Option FreeHWContext
  calls : List (ℕ × FreeHWContext)

namespace Devices

def empty : Devices := ⟨.empty, fun _ => .none, fun _ => none, fun _ => none, []⟩

/-- The device context that a holder refers to. -/
def context (d : Devices) (i : Holder) : Option ℕ := (d.owners.value i).join

def freeHWContextCallback (d : Devices) (b : ℕ) : Devices :=
  match d.freeContext b with
  | none => d
  | some f =>
    { d with
      freeContext := Function.update d.freeContext b none
      calls := d.calls ++ [(b, f)] }

/-- A device context is freed with its last reference. -/
def freeUnused (d : Devices) (b : ℕ) : Devices :=
  if d.owners.heap.count b = 0 then d.freeHWContextCallback b else d

def av_buffer_unref (d : Devices) (i : Holder) : Option Devices :=
  (d.owners.discard refKind i).map fun owners =>
    match d.context i with
    | none => { d with owners := owners }
    | some b => freeUnused { d with owners := owners } b

/-- A new device context, the holder's pointer is null if there is none. -/
def av_hwdevice_ctx_alloc (d : Devices) (i : Holder) (t : AVHWDeviceType) (ok : Bool) :
    Option Devices :=
  if ok then
    ((d.owners.acquire refKind i true).fill refKind i some).map fun owners =>
      { d with owners := owners, deviceType := Function.update d.deviceType d.owners.heap.fresh t }
  else some { d with owners := d.owners.acquire refKind i false }

/-- One more reference to the device context of another holder, null if there is none. -/
def av_buffer_ref (d : Devices) (i j : Holder) (ok : Bool) : Option Devices :=
  (d.context j).bind fun b =>
    if ok then
      ((d.owners.acquire refKind i true).refer refKind i (some b)).map fun owners =>
        { d with owners := owners }
    else some { d with owners := d.owners.acquire refKind i false }

/-- The user's context is attached to a device context. -/
def attach (d : Devices) (i : Holder) (f : FreeHWContext) : Option Devices :=
  (d.context i).map fun b =>
    { d with
      freeContext := Function.update d.freeContext b (some f)
      registered := Function.update d.registered b (some f) }

/-- A surface pool takes a reference. -/
def lend (d : Devices) (b : ℕ) : Option Devices :=
  (d.owners.heap.lend [b]).map fun h => { d with owners := { d.owners with heap := h } }

/-- A surface pool drops its reference. -/
def giveBack (d : Devices) (b : ℕ) : Option Devices :=
  (d.owners.heap.giveBack b).map fun h =>
    freeUnused { d with owners := { d.owners with heap := h } } b

end Devices

namespace Devices

/-- A context that was attached has been given back once if its device context is gone, and
never while it lives. -/
def Settled (d : Devices) : Prop :=
  ∀ b, d.calls.filter (fun call => call.1 = b) =
      (if d.owners.heap.count b = 0 then (d.registered b).toList.map (Prod.mk b) else []) ∧
    d.freeContext b = if d.owners.heap.count b = 0 then none else d.registered b

structure Good (d : Devices) : Prop where
  owned : d.owners.Owned refKind
  whole : ∀ i, d.owners.value i ≠ some none
  unused : ∀ b, d.owners.heap.fresh ≤ b → d.registered b = none
  settled : d.Settled

theorem Good.empty : Good empty :=
  ⟨.empty, by simp [Devices.empty], fun _ _ => rfl, fun _ => ⟨rfl, rfl⟩⟩

/-- A pointer is null or refers to a device context. -/
theorem Good.value_eq {d : Devices} (hd : d.Good) (i : Holder) :
    d.owners.value i = (d.context i).map some := by
  rw [context]
  cases hi : d.owners.value i with
  | none => rfl
  | some o =>
    cases o with
    | none => exact absurd hi (hd.whole i)
    | some b => rfl

theorem Good.context_none {d : Devices} (hd : d.Good) {i : Holder} :
    d.context i = none ↔ d.owners.value i = none := by
  rw [hd.value_eq, Option.map_eq_none_iff]

theorem refs_some (b : ℕ) : refKind.refs (some b) = [b] := rfl

theorem Good.refs_eq {d : Devices} (hd : d.Good) (i : Holder) :
    (d.owners.value i).elim [] refKind.refs = (d.context i).toList := by
  rw [hd.value_eq]
  cases d.context i <;> rfl

theorem context_update (d : Devices) {owners : Owners Holder (Option ℕ)} {i : Holder}
    {o : Option (Option ℕ)} (h : owners.value = Function.update d.owners.value i o) :
    context { d with owners := owners } = Function.update d.context i o.join := by
  ext1 j
  rw [context, h, Function.apply_update fun _ => Option.join]
  rfl

theorem whole_update {d : Devices} (hd : d.Good) {owners : Owners Holder (Option ℕ)} {i : Holder}
    {o : Option (Option ℕ)} (h : owners.value = Function.update d.owners.value i o)
    (ho : o ≠ some none) : ∀ j, owners.value j ≠ some none := by
  intro j
  rw [h, Function.update_apply]
  split
  · exact ho
  · exact hd.whole j

/-- A device context is alive as long as an accelerator, a codec context or a surface pool refers
to it. -/
theorem Good.count_pos_iff {d : Devices} (hd : d.Good) (b : ℕ) :
    0 < d.owners.heap.count b ↔ (∃ i, d.context i = some b) ∨ 0 < d.owners.heap.outside b := by
  rw [hd.owned.count_pos_iff]
  constructor
  · rintro (⟨i, x, hi, hb⟩ | hout)
    · rw [hd.value_eq, Option.map_eq_some_iff] at hi
      rcases hi with ⟨c, hc, rfl⟩
      rw [refs_some, List.mem_singleton] at hb
      exact Or.inl ⟨i, hb ▸ hc⟩
    · exact Or.inr hout
  · rintro (⟨i, hi⟩ | hout)
    · refine Or.inl ⟨i, some b, ?_, List.mem_singleton.mpr rfl⟩
      rw [hd.value_eq, hi, Option.map_some]
    · exact Or.inr hout

theorem Good.context_pos {d : Devices} (hd : d.Good) {i : Holder} {b : ℕ}
    (hi : d.context i = some b) : 0 < d.owners.heap.count b :=
  (hd.count_pos_iff b).mpr (Or.inl ⟨i, hi⟩)

theorem Good.context_lt {d : Devices} (hd : d.Good) {i : Holder} {b : ℕ}
    (hi : d.context i = some b) : b < d.owners.heap.fresh := by
  by_contra hle
  have := hd.context_pos hi
  rw [hd.owned.counted.count_fresh b (by omega)] at this
  omega

/-- Counts that stay positive, or zero, settle nothing. -/
theorem Settled.congr {d : Devices} (h : d.Settled) {owners : Owners Holder (Option ℕ)}
    (hcount : ∀ b, owners.heap.count b = 0 ↔ d.owners.heap.count b = 0) :
    Settled { d with owners := owners } := by
  intro b
  simp only [hcount]
  exact h b

@[simp] theorem freeUnused_owners (d : Devices) (b : ℕ) : (d.freeUnused b).owners = d.owners := by
  rw [freeUnused, freeHWContextCallback]
  split
  · split <;> rfl
  · rfl

@[simp] theorem freeUnused_registered (d : Devices) (b : ℕ) :
    (d.freeUnused b).registered = d.registered := by
  rw [freeUnused, freeHWContextCallback]
  split
  · split <;> rfl
  · rfl

@[simp] theorem freeUnused_deviceType (d : Devices) (b : ℕ) :
    (d.freeUnused b).deviceType = d.deviceType := by
  rw [freeUnused, freeHWContextCallback]
  split
  · split <;> rfl
  · rfl

theorem freeUnused_context (d : Devices) (b : ℕ) : (d.freeUnused b).context = d.context := by
  ext1 i
  rw [context, freeUnused_owners, context]

/-- One device context loses a reference; its callback is called if that was the last one. -/
theorem Settled.freeUnused {d : Devices} (h : d.Settled) {owners : Owners Holder (Option ℕ)}
    {b : ℕ} (hpos : 0 < d.owners.heap.count b)
    (hcount : ∀ c, c ≠ b → (owners.heap.count c = 0 ↔ d.owners.heap.count c = 0)) :
    (Devices.freeUnused { d with owners := owners } b).Settled := by
  have hb := h b
  rw [if_neg (by omega), if_neg (by omega)] at hb
  rw [Devices.freeUnused]
  by_cases hzero : owners.heap.count b = 0
  · rw [if_pos hzero, freeHWContextCallback]
    intro c
    dsimp only
    rw [hb.2]
    by_cases hcb : c = b
    · subst hcb
      cases hreg : d.registered c with
      | none =>
        dsimp only
        rw [if_pos hzero, if_pos hzero, hreg, hb.1, hb.2, hreg]
        exact ⟨rfl, rfl⟩
      | some f =>
        dsimp only
        rw [if_pos hzero, if_pos hzero, hreg, List.filter_append, hb.1, Function.update_self]
        exact ⟨by simp, rfl⟩
    · have hc := h c
      simp only [← hcount c hcb] at hc
      cases d.registered b with
      | none => exact hc
      | some f =>
        dsimp only
        have hbc : (decide (b = c)) = false := decide_eq_false (fun hbc => hcb hbc.symm)
        rw [List.filter_append, hc.1, Function.update_of_ne hcb, hc.2]
        simp [hbc]
  · rw [if_neg hzero]
    apply h.congr
    intro c
    by_cases hcb : c = b
    · rw [hcb]
      omega
    · exact hcount c hcb

/-- A reference is dropped. -/
theorem Good.unref {d : Devices} (hd : d.Good) (i : Holder) :
    ∃ d', d.av_buffer_unref i = some d' ∧ d'.Good ∧
      d'.context = Function.update d.context i none ∧ d'.registered = d.registered ∧
      d'.deviceType = d.deviceType := by
  rcases hd.owned.discard i with ⟨owners, hrun, howned, hvalue⟩
  have hwhole := whole_update hd hvalue (by simp)
  have hcontext := context_update d hvalue
  rcases hd.owned.discard_count hrun with ⟨hcount, hout, hfresh⟩
  rw [hd.refs_eq] at hcount
  have hunused : ∀ b, owners.heap.fresh ≤ b → d.registered b = none := by
    rw [hfresh]
    exact hd.unused
  rw [av_buffer_unref, hrun, Option.map_some]
  cases hi : d.context i with
  | none =>
    refine ⟨_, rfl, ⟨howned, hwhole, hunused, ?_⟩, hcontext, rfl, rfl⟩
    apply hd.settled.congr
    intro b
    rw [hcount, hi]
    simp
  | some b =>
    refine ⟨_, rfl, ⟨by simpa using howned, by simpa using hwhole, by simpa using hunused, ?_⟩, ?_,
      freeUnused_registered _ _, freeUnused_deviceType _ _⟩
    · apply hd.settled.freeUnused (hd.context_pos hi)
      intro c hcb
      have hbc : [b].count c = 0 := List.count_eq_zero.mpr (by simpa using hcb)
      rw [hcount, hi, Option.toList_some, hbc, Nat.sub_zero]
    · exact (freeUnused_context _ _).trans hcontext

/-- A device context is made, for a holder whose pointer is null. -/
theorem Good.alloc {d : Devices} (hd : d.Good) {i : Holder} (hi : d.context i = none)
    (t : AVHWDeviceType) (ok : Bool) :
    ∃ d', d.av_hwdevice_ctx_alloc i t ok = some d' ∧ d'.Good ∧
      d'.context = Function.update d.context i (if ok then some d.owners.heap.fresh else none) ∧
      d'.registered = d.registered ∧
      (∀ b, b < d.owners.heap.fresh → d'.deviceType b = d.deviceType b) ∧
      (ok = true → d'.deviceType d.owners.heap.fresh = t) := by
  have hnull := hd.context_none.mp hi
  rcases hd.owned.acquire hnull ok with ⟨howned, hvalue⟩
  cases ok with
  | false =>
    have hself := Function.update_eq_self i d.context
    rw [hi] at hself
    refine ⟨{ d with owners := d.owners.acquire refKind i false }, rfl,
      ⟨howned, whole_update hd hvalue (by simp), hd.unused, hd.settled.congr fun _ => Iff.rfl⟩,
      context_update d hvalue, rfl, fun _ _ => rfl, by simp⟩
  | true =>
    have hblank : (d.owners.acquire refKind i true).value i = some refKind.blank := by
      rw [hvalue, Function.update_self, if_pos rfl]
    rcases howned.fill (x := some) hblank rfl (fun _ => rfl) with ⟨owners, hrun, howned', hvalue'⟩
    have hfresh : (d.owners.acquire refKind i true).heap.fresh = d.owners.heap.fresh := rfl
    rcases Owners.fill_count (x := some) (fun _ => rfl) hrun with ⟨hcount, hnext⟩
    rw [hvalue, Function.update_idem, hfresh] at hvalue'
    rw [hfresh] at hcount hnext
    have hsame : (d.owners.acquire refKind i true).heap.count = d.owners.heap.count := rfl
    rw [hsame] at hcount
    refine ⟨⟨owners, Function.update d.deviceType d.owners.heap.fresh t, d.freeContext, d.registered,
      d.calls⟩, ?_, ⟨howned', whole_update hd hvalue' (by simp), ?_, ?_⟩,
      context_update d hvalue', rfl, ?_, fun _ => Function.update_self _ _ _⟩
    · rw [av_hwdevice_ctx_alloc, if_pos rfl, hrun, Option.map_some]
    · intro b hb
      change owners.heap.fresh ≤ b at hb
      exact hd.unused b (by omega)
    · intro b
      have hb := hd.settled b
      change d.calls.filter _ = (if owners.heap.count b = 0 then _ else _) ∧
        d.freeContext b = if owners.heap.count b = 0 then none else d.registered b
      rw [hcount]
      by_cases hbf : b = d.owners.heap.fresh
      · -- nothing was attached yet to the new device context
        subst hbf
        rw [hd.unused _ le_rfl, hd.owned.counted.count_fresh _ le_rfl] at hb
        rw [Function.update_self, hd.unused _ le_rfl]
        simpa using hb
      · rw [Function.update_of_ne hbf]
        exact hb
    · intro b hb
      exact Function.update_of_ne (by omega) _ _

/-- A holder whose pointer is null takes a reference to the device context of another. -/
theorem Good.ref {d : Devices} (hd : d.Good) {i j : Holder} (hi : d.context i = none) {b : ℕ}
    (hj : d.context j = some b) (ok : Bool) :
    ∃ d', d.av_buffer_ref i j ok = some d' ∧ d'.Good ∧
      d'.context = Function.update d.context i (if ok then some b else none) ∧
      d'.registered = d.registered ∧ d'.deviceType = d.deviceType := by
  have hnull := hd.context_none.mp hi
  rcases hd.owned.acquire hnull ok with ⟨howned, hvalue⟩
  rw [av_buffer_ref, hj, Option.bind_some]
  cases ok with
  | false =>
    refine ⟨{ d with owners := d.owners.acquire refKind i false }, rfl,
      ⟨howned, whole_update hd hvalue (by simp), hd.unused, hd.settled.congr fun _ => Iff.rfl⟩,
      context_update d hvalue, rfl, rfl⟩
  | true =>
    have hblank : (d.owners.acquire refKind i true).value i = some refKind.blank := by
      rw [hvalue, Function.update_self, if_pos rfl]
    have hpos : ∀ c ∈ refKind.refs (some b), 0 < (d.owners.acquire refKind i true).heap.count c := by
      intro c hc
      rw [refs_some, List.mem_singleton] at hc
      rw [hc]
      exact hd.context_pos hj
    rcases howned.refer (x := some b) hblank rfl hpos with ⟨owners, hrun, howned', hvalue'⟩
    rcases Owners.refer_count hpos hrun with ⟨hcount, -, hfresh⟩
    rw [hvalue, Function.update_idem] at hvalue'
    refine ⟨{ d with owners := owners }, ?_, ⟨howned', whole_update hd hvalue' (by simp), ?_, ?_⟩,
      context_update d hvalue', rfl, rfl⟩
    · rw [if_pos rfl, hrun, Option.map_some]
    · intro c hc
      change owners.heap.fresh ≤ c at hc
      rw [hfresh] at hc
      exact hd.unused c hc
    · apply hd.settled.congr
      intro c
      have hsame : (d.owners.acquire refKind i true).heap.count = d.owners.heap.count := rfl
      have := hd.context_pos hj
      rw [hcount, refs_some, hsame]
      by_cases hcb : c = b
      · rw [hcb]
        simp
        omega
      · have hbc : [b].count c = 0 := List.count_eq_zero.mpr (by simpa using hcb)
        rw [hbc, add_zero]

/-- The user's context is attached to the device context of a holder, which has none yet. -/
theorem Good.attach {d : Devices} (hd : d.Good) {i : Holder} {b : ℕ} (hi : d.context i = some b)
    (hnone : d.registered b = none) (f : FreeHWContext) :
    ∃ d', d.attach i f = some d' ∧ d'.Good ∧ d'.context = d.context ∧
      d'.registered = Function.update d.registered b (some f) ∧ d'.deviceType = d.deviceType := by
  refine ⟨{ d with
    freeContext := Function.update d.freeContext b (some f)
    registered := Function.update d.registered b (some f) }, ?_, ⟨hd.owned, hd.whole, ?_, ?_⟩,
    rfl, rfl, rfl⟩
  · rw [Devices.attach, hi, Option.map_some]
  · intro c hc
    have := hd.context_lt hi
    change d.owners.heap.fresh ≤ c at hc
    exact (Function.update_of_ne (by omega) _ _).trans (hd.unused c hc)
  · intro c
    have hc := hd.settled c
    have hpos := hd.context_pos hi
    dsimp only
    by_cases hcb : c = b
    · subst hcb
      rw [if_neg (by omega)] at hc
      rw [if_neg (by omega), if_neg (by omega), Function.update_self, Function.update_self]
      exact ⟨hc.1, rfl⟩
    · rw [Function.update_of_ne hcb, Function.update_of_ne hcb]
      exact hc

theorem Good.outside {d : Devices} (hd : d.Good) {h : Heap (Option ℕ)}
    (hc : Heap.Counted refKind h) (hobject : h.object = d.owners.heap.object)
    (hfresh : h.fresh = d.owners.heap.fresh) :
    (⟨h, d.owners.pointer⟩ : Owners Holder (Option ℕ)).Owned refKind ∧
      (∀ i, (⟨h, d.owners.pointer⟩ : Owners Holder (Option ℕ)).value i ≠ some none) ∧
      (∀ b, h.fresh ≤ b → d.registered b = none) ∧
      context { d with owners := ⟨h, d.owners.pointer⟩ } = d.context := by
  rcases hd.owned.outside hc hobject with ⟨howned, hvalue⟩
  refine ⟨howned, ?_, ?_, ?_⟩
  · rw [hvalue]
    exact hd.whole
  · rw [hfresh]
    exact hd.unused
  · ext1 i
    rw [context, hvalue, context]

theorem Good.lend {d : Devices} (hd : d.Good) {b : ℕ} (hb : 0 < d.owners.heap.count b) :
    ∃ d', d.lend b = some d' ∧ d'.Good ∧ d'.context = d.context ∧
      d'.registered = d.registered ∧ d'.deviceType = d.deviceType := by
  have hlive : ∀ c ∈ [b], 0 < d.owners.heap.count c := by simpa using hb
  rcases hd.owned.counted.lend hlive with ⟨h, hrun, hc, -, hobject⟩
  rcases Heap.lend_count hlive hrun with ⟨hcount, hfresh⟩
  rcases hd.outside hc hobject hfresh with ⟨howned, hwhole, hunused, hcontext⟩
  refine ⟨{ d with owners := ⟨h, d.owners.pointer⟩ }, ?_, ⟨howned, hwhole, hunused, ?_⟩, hcontext, rfl,
    rfl⟩
  · rw [Devices.lend, hrun, Option.map_some]
  · apply hd.settled.congr
    intro c
    change h.count c = 0 ↔ _
    rw [hcount]
    by_cases hcb : c = b
    · rw [hcb]
      simp
      omega
    · have hbc : [b].count c = 0 := List.count_eq_zero.mpr (by simpa using hcb)
      rw [hbc, add_zero]

theorem Good.giveBack {d : Devices} (hd : d.Good) {b : ℕ} (hb : 0 < d.owners.heap.outside b) :
    ∃ d', d.giveBack b = some d' ∧ d'.Good ∧ d'.context = d.context ∧
      d'.registered = d.registered ∧ d'.deviceType = d.deviceType := by
  have hpos : 0 < d.owners.heap.count b := (hd.count_pos_iff b).mpr (Or.inr hb)
  rcases hd.owned.counted.giveBack hb with ⟨h, hrun, hc, -, hobject⟩
  rcases Heap.giveBack_count hpos hrun with ⟨hcount, hfresh⟩
  rcases hd.outside hc hobject hfresh with ⟨howned, hwhole, hunused, hcontext⟩
  refine ⟨Devices.freeUnused { d with owners := ⟨h, d.owners.pointer⟩ } b, ?_,
    ⟨by simpa using howned, by simpa using hwhole, by simpa using hunused, ?_⟩,
    (freeUnused_context _ _).trans hcontext, freeUnused_registered _ _, freeUnused_deviceType _ _⟩
  · rw [Devices.giveBack, hrun, Option.map_some]
  · apply hd.settled.freeUnused hpos
    intro c hcb
    change h.count c = 0 ↔ _
    rw [hcount, Function.update_of_ne hcb]

end Devices

end DecoderSDK.Hardware
