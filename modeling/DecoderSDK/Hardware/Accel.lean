import DecoderSDK.Hardware.Devices
import DecoderSDK.Interleaving.Runs

/-! # Hardware accelerators

Accelerators make device contexts, from a context of the user or by
themselves, and set up codec contexts with them. A static map finds the
accelerator of a codec context that asks for its surface format.
-/
namespace DecoderSDK.Hardware
open Ownership Interleaving

/-- The members of an accelerator besides its reference. -/
structure HardwareAccel where
  type : HWAccelType
  deviceIndex : ℤ
  hwPixFmt : AVPixelFormat
  initialized : Bool
  isUserContext : Bool
  deriving DecidableEq

namespace HardwareAccel

def new : HardwareAccel := ⟨.none, 0, .none, false, false⟩

end HardwareAccel

/-- The platform: which device types the library was built to take contexts for, and what the
detection found. -/
structure Platform where
  d3d11va : Bool
  dxva2 : Bool
  cuda : Bool
  vaapi : Bool
  types : List AVHWDeviceType
  create : AVHWDeviceType → Bool

namespace Platform

def takesContext (p : Platform) : AVHWDeviceType → Bool
  | .d3d11va => p.d3d11va
  | .dxva2 => p.dxva2
  | .cuda => p.cuda
  | .vaapi => p.vaapi
  | _ => false

def infos (p : Platform) : List HWAccelInfo := getSupportedHWAccelTypes p.types p.create

def isAvailable (p : Platform) (type : HWAccelType) : Bool := isAvailableHWAccelType p.infos type

end Platform

/-- The outcomes that one initialisation asks for: what the user's callback returns, whether it
is valid, whether there is a callback to free it, and the calls of the codec library. -/
structure InitAnswer where
  userContext : Option ℕ
  valid : Bool
  freeCallback : Bool
  alloc : Bool
  init : Bool
  create : Bool
  deriving DecidableEq

/-- The accelerators, the codec contexts that exist, and the static map between them. -/
structure System where
  devices : Devices
  accels : ℕ → Option HardwareAccel
  codecs : ℕ → Bool
  hwAccelMap : ℕ → Option ℕ

namespace Devices
variable (p : Platform)

/-- The result says whether the device context was made from the user's context. -/
def createHWDeviceFromUserContext (d : Devices) (h ctx : ℕ) (t : AVHWDeviceType)
    (a : InitAnswer) : Option (Bool × Devices) :=
  (d.av_hwdevice_ctx_alloc (.accel h) t a.alloc).bind fun d =>
    if !a.alloc then some (false, d)
    else if !p.takesContext t then (d.av_buffer_unref (.accel h)).map fun d => (false, d)
    else
      (if a.freeCallback then d.attach (.accel h) ⟨fromAVHWDeviceType t, ctx⟩ else some d).bind fun d =>
        if !a.init then (d.av_buffer_unref (.accel h)).map fun d => (false, d)
        else some (true, d)

/-- The result says whether there is a device, and whether it is the user's. -/
def initHWDevice (d : Devices) (h : ℕ) (t : AVHWDeviceType) (a : InitAnswer) :
    Option ((Bool × Bool) × Devices) :=
  if t = .none then some ((false, false), d)
  else
    (match a.userContext with
      | some ctx => if a.valid then createHWDeviceFromUserContext p d h ctx t a else some (false, d)
      | none => some (false, d)).bind fun r =>
        if r.1 then some ((true, true), r.2)
        else (r.2.av_hwdevice_ctx_alloc (.accel h) t a.create).map fun d => ((a.create, false), d)

end Devices

namespace System
variable (p : Platform)

def start : System := ⟨.empty, fun _ => none, fun _ => false, fun _ => none⟩

def setAccel (s : System) (h : ℕ) (d : Devices) (accel : HardwareAccel) : System :=
  { s with devices := d, accels := Function.update s.accels h (some accel) }

/-- The part of `init` from the choice of the device type on. -/
def initDevice (s : System) (h : ℕ) (accel : HardwareAccel) (d : Devices) (t : AVHWDeviceType)
    (a : InitAnswer) : Option (Bool × System) :=
  (d.initHWDevice p h t a).bind fun r =>
    let accel := if r.1.2 then { accel with isUserContext := true } else accel
    if !r.1.1 then some (false, s.setAccel h r.2 accel)
    else
      let accel := { accel with hwPixFmt := getHWPixelFormatForDevice t }
      if accel.hwPixFmt = .none then
        (r.2.av_buffer_unref (.accel h)).map fun d => (false, s.setAccel h d accel)
      else some (true, s.setAccel h r.2 { accel with initialized := true })

def init (s : System) (h : ℕ) (old : HardwareAccel) (type : HWAccelType) (deviceIndex : ℤ)
    (a : InitAnswer) : Option (Bool × System) :=
  (s.devices.av_buffer_unref (.accel h)).bind fun d =>
    let accel := { old with type := type, deviceIndex := deviceIndex, initialized := false }
    if type = .none then some (true, s.setAccel h d accel)
    else if type = .auto then
      let t := findBestHWAccelType p.infos
      if t = .none then some (false, s.setAccel h d accel)
      else s.initDevice p h { accel with type := fromAVHWDeviceType t } d t a
    else if !p.isAvailable type then some (true, s.setAccel h d { accel with type := .none })
    else s.initDevice p h accel d (toAVHWDeviceType type) a

def setupDecoder (s : System) (h c : ℕ) (accel : HardwareAccel) (ref : Bool) :
    Option (Bool × System) :=
  if !accel.initialized || (s.devices.context (.accel h)).isNone then some (false, s)
  else (s.devices.av_buffer_ref (.codec c) (.accel h) ref).map fun d =>
    if !ref then (false, { s with devices := d })
    else (true, { s with devices := d, hwAccelMap := Function.update s.hwAccelMap c (some h) })

/-- `get_format` of a codec context: the surface format, if it is among the offered ones. -/
def getHWPixelFormat (s : System) (c : ℕ) (pix_fmts : List AVPixelFormat) : AVPixelFormat :=
  match (s.hwAccelMap c).bind s.accels with
  | none => .none
  | some accel =>
    if !accel.initialized then .none
    else if accel.hwPixFmt ∈ pix_fmts then accel.hwPixFmt else .none

def destroy (s : System) (h : ℕ) : Option System :=
  (s.devices.av_buffer_unref (.accel h)).map fun d =>
    { s with
      devices := d
      accels := Function.update s.accels h none
      hwAccelMap := fun c => if s.hwAccelMap c = some h then none else s.hwAccelMap c }

/-- `avcodec_free_context` -/
def freeCodec (s : System) (c : ℕ) : Option System :=
  (s.devices.av_buffer_unref (.codec c)).map fun d =>
    { s with devices := d, codecs := Function.update s.codecs c false }

inductive Action where
  | construct (h : ℕ)
  | init (h : ℕ) (type : HWAccelType) (deviceIndex : ℤ) (a : InitAnswer)
  | setupDecoder (h c : ℕ) (ref : Bool)
  | destroy (h : ℕ)
  | allocCodec (c : ℕ)
  | freeCodec (c : ℕ)
  | lend (b : ℕ)
  | giveBack (b : ℕ)
  deriving DecidableEq

/-- What an action does; `none` when it follows a null or freed pointer. -/
def exec (s : System) : Action → Option System
  | .construct h => some { s with accels := Function.update s.accels h (some .new) }
  | .init h type deviceIndex a =>
    (s.accels h).bind fun old => (s.init p h old type deviceIndex a).map Prod.snd
  | .setupDecoder h c ref =>
    (s.accels h).bind fun accel => (s.setupDecoder h c accel ref).map Prod.snd
  | .destroy h => s.destroy h
  | .allocCodec c => some { s with codecs := Function.update s.codecs c true }
  | .freeCodec c => s.freeCodec c
  | .lend b => (s.devices.lend b).map fun d => { s with devices := d }
  | .giveBack b => (s.devices.giveBack b).map fun d => { s with devices := d }

/-- Objects are used while they exist, and a codec context is set up while it is new. -/
def enabled (s : System) : Action → Bool
  | .construct h => (s.accels h).isNone
  | .init h _ _ _ | .destroy h => (s.accels h).isSome
  | .setupDecoder h c _ =>
    (s.accels h).isSome && s.codecs c && (s.devices.context (.codec c)).isNone
  | .allocCodec c => !s.codecs c
  | .freeCodec c => s.codecs c
  | .lend b => 0 < s.devices.owners.heap.count b
  | .giveBack b => 0 < s.devices.owners.heap.outside b

def step (s : System) (a : Action) : Option System := if s.enabled a then s.exec p a else none

end System

namespace Devices

/-- Only one holder changes, and no device context changes its type while it is referred to. -/
def Keeps (d d' : Devices) (i : Holder) : Prop :=
  ∀ j, j ≠ i → d'.context j = d.context j ∧
    ∀ b, d.context j = some b → d'.deviceType b = d.deviceType b

theorem Keeps.refl (d : Devices) (i : Holder) : Keeps d d i := fun _ _ => ⟨rfl, fun _ _ => rfl⟩

theorem Keeps.trans {d d' d'' : Devices} {i : Holder} (h : Keeps d d' i) (h' : Keeps d' d'' i) :
    Keeps d d'' i := by
  intro j hj
  rcases h j hj with ⟨hcontext, htype⟩
  rcases h' j hj with ⟨hcontext', htype'⟩
  refine ⟨hcontext'.trans hcontext, ?_⟩
  intro b hb
  rw [htype' b (hcontext.trans hb), htype b hb]

theorem Keeps.of_update {d d' : Devices} {i : Holder} {o : Option ℕ}
    (hcontext : d'.context = Function.update d.context i o) (htype : d'.deviceType = d.deviceType) :
    Keeps d d' i := by
  intro j hj
  rw [hcontext, Function.update_of_ne hj, htype]
  exact ⟨rfl, fun _ _ => rfl⟩

variable (p : Platform)

/-- The holder ends up with a device context of the type asked for, or with none. -/
def Settles (d : Devices) (h : ℕ) (t : AVHWDeviceType) (ok : Bool) (d' : Devices) : Prop :=
  d'.Good ∧ Keeps d d' (.accel h) ∧
    if ok then ∃ b, d'.context (.accel h) = some b ∧ d'.deviceType b = t
    else d'.context (.accel h) = none

theorem Good.alloc_settles {d : Devices} (hd : d.Good) {h : ℕ} (hh : d.context (.accel h) = none)
    (t : AVHWDeviceType) (ok : Bool) :
    ∃ d', d.av_hwdevice_ctx_alloc (.accel h) t ok = some d' ∧ Settles d h t ok d' ∧
      d'.registered = d.registered ∧
      d'.context (.accel h) = if ok then some d.owners.heap.fresh else none := by
  rcases hd.alloc hh t ok with ⟨d', hrun, hgood, hcontext, hreg, htype, hnew⟩
  have hself : d'.context (.accel h) = if ok then some d.owners.heap.fresh else none := by
    rw [hcontext, Function.update_self]
  refine ⟨d', hrun, ⟨hgood, ?_, ?_⟩, hreg, hself⟩
  · intro j hj
    rw [hcontext, Function.update_of_ne hj]
    exact ⟨rfl, fun b hb => htype b (hd.context_lt hb)⟩
  · cases ok with
    | false => exact hself
    | true => exact ⟨d.owners.heap.fresh, hself, hnew rfl⟩

theorem Settles.unref {d d' : Devices} {h : ℕ} {t u : AVHWDeviceType} {ok : Bool}
    (hset : Settles d h t ok d') :
    ∃ d'', d'.av_buffer_unref (.accel h) = some d'' ∧ Settles d h u false d'' := by
  rcases hset.1.unref (.accel h) with ⟨d'', hrun, hgood, hcontext, -, htype⟩
  refine ⟨d'', hrun, hgood, hset.2.1.trans (Keeps.of_update hcontext htype), ?_⟩
  rw [if_neg Bool.false_ne_true, hcontext, Function.update_self]

theorem Good.createHWDeviceFromUserContext {d : Devices} (hd : d.Good) {h : ℕ}
    (hh : d.context (.accel h) = none) (ctx : ℕ) (t : AVHWDeviceType) (a : InitAnswer) :
    ∃ r, d.createHWDeviceFromUserContext p h ctx t a = some r ∧ Settles d h t r.1 r.2 := by
  rcases hd.alloc_settles hh t a.alloc with ⟨d', hrun, hset, hreg, hself⟩
  rw [Devices.createHWDeviceFromUserContext, hrun, Option.bind_some]
  cases halloc : a.alloc with
  | false =>
    rw [halloc] at hset
    exact ⟨(false, d'), rfl, hset⟩
  | true =>
    rw [halloc] at hset hself
    rw [if_pos rfl] at hself
    rw [Bool.not_true, if_neg Bool.false_ne_true]
    by_cases htakes : p.takesContext t = true
    · rw [if_neg (by simp [htakes])]
      -- a new device context has nothing attached to it
      have hnone : d'.registered d.owners.heap.fresh = none := by
        rw [hreg]
        exact hd.unused _ le_rfl
      have hattach : ∃ d'', (if a.freeCallback then
          d'.attach (.accel h) ⟨fromAVHWDeviceType t, ctx⟩ else some d') = some d'' ∧
          Settles d h t true d'' := by
        cases a.freeCallback with
        | false => exact ⟨d', rfl, hset⟩
        | true =>
          rcases hset.1.attach hself hnone ⟨fromAVHWDeviceType t, ctx⟩ with
            ⟨d'', hrun', hgood, hcontext, -, htype⟩
          refine ⟨d'', hrun', hgood, hset.2.1.trans ?_, ?_⟩
          · intro j _
            rw [hcontext, htype]
            exact ⟨rfl, fun _ _ => rfl⟩
          · rw [hcontext, htype]
            exact hset.2.2
      rcases hattach with ⟨d'', hrun', hset'⟩
      rw [hrun', Option.bind_some]
      cases a.init with
      | true => exact ⟨(true, d''), rfl, hset'⟩
      | false =>
        rcases hset'.unref (u := t) with ⟨d₃, hrun₃, hset₃⟩
        rw [Bool.not_false, if_pos rfl, hrun₃, Option.map_some]
        exact ⟨(false, d₃), rfl, hset₃⟩
    · rw [if_pos (by simp [htakes])]
      rcases hset.unref (u := t) with ⟨d'', hrun', hset'⟩
      rw [hrun', Option.map_some]
      exact ⟨(false, d''), rfl, hset'⟩

theorem Good.initHWDevice {d : Devices} (hd : d.Good) {h : ℕ} (hh : d.context (.accel h) = none)
    {t : AVHWDeviceType} (ht : t ≠ .none) (a : InitAnswer) :
    ∃ r, d.initHWDevice p h t a = some r ∧ Settles d h t r.1.1 r.2 := by
  rw [Devices.initHWDevice, if_neg ht]
  have huser : ∃ r, (match a.userContext with
      | some ctx => if a.valid then d.createHWDeviceFromUserContext p h ctx t a else some (false, d)
      | none => some (false, d)) = some r ∧ Settles d h t r.1 r.2 := by
    cases a.userContext with
    | none => exact ⟨(false, d), rfl, hd, Keeps.refl d _, hh⟩
    | some ctx =>
      cases a.valid with
      | false => exact ⟨(false, d), rfl, hd, Keeps.refl d _, hh⟩
      | true => exact hd.createHWDeviceFromUserContext p hh ctx t a
  rcases huser with ⟨r, hrun, hset⟩
  rw [hrun, Option.bind_some]
  cases hr : r.1 with
  | true =>
    rw [hr] at hset
    exact ⟨((true, true), r.2), rfl, hset⟩
  | false =>
    rw [hr] at hset
    rcases hset.1.alloc_settles hset.2.2 t a.create with ⟨d', hrun', hset', -, -⟩
    rw [if_neg Bool.false_ne_true, hrun', Option.map_some]
    exact ⟨((a.create, false), d'), rfl, hset'.1, hset.2.1.trans hset'.2.1, hset'.2.2⟩

end Devices

namespace System
variable (p : Platform)

/-- An initialised accelerator has a device of its type, which is available, and hands out the
surface format of that type; any other has no device. -/
def Consistent (d : Devices) (h : ℕ) (a : HardwareAccel) : Prop :=
  if a.initialized then
    p.isAvailable a.type = true ∧ a.hwPixFmt = getHWPixelFormatForDevice (toAVHWDeviceType a.type) ∧
      ∃ b, d.context (.accel h) = some b ∧ d.deviceType b = toAVHWDeviceType a.type
  else d.context (.accel h) = none

structure Good (s : System) : Prop where
  devices : s.devices.Good
  noAccel : ∀ h, s.accels h = none → s.devices.context (.accel h) = none
  noCodec : ∀ c, s.codecs c = false → s.devices.context (.codec c) = none
  consistent : ∀ h a, s.accels h = some a → Consistent p s.devices h a
  map : ∀ c h, s.hwAccelMap c = some h → (s.accels h).isSome

theorem Good.start : Good p start := ⟨.empty, fun _ _ => rfl, fun _ _ => rfl, by simp [System.start],
  by simp [System.start]⟩

variable {p}

theorem Consistent.keeps {d d' : Devices} {i : Holder} {h : ℕ} {a : HardwareAccel}
    (hc : Consistent p d h a) (hk : Devices.Keeps d d' i) (hi : Holder.accel h ≠ i) :
    Consistent p d' h a := by
  rcases hk _ hi with ⟨hcontext, htype⟩
  rw [Consistent, hcontext]
  rw [Consistent] at hc
  split at hc
  · rename_i hinit
    rcases hc with ⟨havail, hfmt, b, hb, hdevice⟩
    rw [if_pos hinit]
    exact ⟨havail, hfmt, b, hb, (htype b hb).trans hdevice⟩
  · rename_i hinit
    rw [if_neg hinit]
    exact hc

/-- One accelerator and its reference change. -/
theorem Good.setAccel {s : System} (hs : s.Good p) {h : ℕ} {d : Devices} (hd : d.Good)
    (hk : Devices.Keeps s.devices d (.accel h)) {a : HardwareAccel} (ha : Consistent p d h a) :
    (s.setAccel h d a).Good p := by
  refine ⟨hd, ?_, ?_, ?_, ?_⟩
  · intro g hg
    change Function.update s.accels h (some a) g = none at hg
    by_cases hgh : g = h
    · rw [hgh, Function.update_self] at hg
      contradiction
    · rw [Function.update_of_ne hgh] at hg
      exact ((hk (.accel g) (by simpa using hgh)).1).trans (hs.noAccel g hg)
  · intro c hc
    exact ((hk (.codec c) (by simp)).1).trans (hs.noCodec c hc)
  · intro g b hg
    change Function.update s.accels h (some a) g = some b at hg
    by_cases hgh : g = h
    · rw [hgh, Function.update_self, Option.some.injEq] at hg
      rw [hgh, ← hg]
      exact ha
    · rw [Function.update_of_ne hgh] at hg
      exact (hs.consistent g b hg).keeps hk (by simpa using hgh)
  · intro c g hg
    change (Function.update s.accels h (some a) g).isSome
    rw [Function.update_apply]
    split
    · rfl
    · exact hs.map c g hg

/-- An accelerator that an initialisation left with a device has the type asked for, or for an
automatic choice one that no available type is preferred to. -/
def Chosen (p : Platform) (type : HWAccelType) (a : HardwareAccel) : Prop :=
  a.initialized = true → type ≠ .none ∧ (type ≠ .auto → a.type = type) ∧
    (type = .auto → ∃ worse better, priorityList = better ++ toAVHWDeviceType a.type :: worse ∧
      ∀ t ∈ better, p.isAvailable (fromAVHWDeviceType t) = false)

theorem Good.initDevice {s : System} (hs : s.Good p) {h : ℕ} (accel : HardwareAccel) {d : Devices}
    (hd : d.Good) (hk : Devices.Keeps s.devices d (.accel h)) (hh : d.context (.accel h) = none)
    (hinit : accel.initialized = false) (havail : p.isAvailable accel.type = true) (a : InitAnswer) :
    ∃ r accel', s.initDevice p h accel d (toAVHWDeviceType accel.type) a = some r ∧ r.2.Good p ∧
      r.2.accels = Function.update s.accels h (some accel') ∧ accel'.type = accel.type := by
  have hconcrete := available_concrete havail
  have htype : toAVHWDeviceType accel.type ≠ .none := by
    intro hnone
    have := fromAV_toAV hconcrete
    rw [hnone] at this
    exact hconcrete.1 this.symm
  rcases hd.initHWDevice p hh htype a with ⟨r, hrun, hgood, hkeeps, hcontext⟩
  rw [System.initDevice, hrun, Option.bind_some]
  dsimp only
  generalize haccel : (if r.1.2 = true then { accel with isUserContext := true } else accel) = accel₁
  have hsame : accel₁.type = accel.type ∧ accel₁.initialized = false := by
    rw [← haccel]
    split
    · exact ⟨rfl, hinit⟩
    · exact ⟨rfl, hinit⟩
  cases hok : r.1.1 with
  | false =>
    rw [hok, if_neg Bool.false_ne_true] at hcontext
    refine ⟨_, accel₁, rfl, ?_, rfl, hsame.1⟩
    apply hs.setAccel hgood (hk.trans hkeeps)
    rw [Consistent, hsame.2, if_neg Bool.false_ne_true]
    exact hcontext
  | true =>
    rw [hok, if_pos rfl] at hcontext
    have hfmt : getHWPixelFormatForDevice (toAVHWDeviceType accel.type) ≠ .none := by
      rw [Ne, pixelFormat_eq_none_iff, fromAV_toAV hconcrete]
      exact hconcrete.1
    rw [Bool.not_true, if_neg Bool.false_ne_true, if_neg hfmt]
    refine ⟨_, _, rfl, ?_, rfl, hsame.1⟩
    apply hs.setAccel hgood (hk.trans hkeeps)
    rw [Consistent, if_pos rfl]
    dsimp only
    rw [hsame.1]
    exact ⟨havail, rfl, hcontext⟩

theorem Good.init {s : System} (hs : s.Good p) {h : ℕ} (old : HardwareAccel) (type : HWAccelType)
    (deviceIndex : ℤ) (a : InitAnswer) :
    ∃ r accel, s.init p h old type deviceIndex a = some r ∧ r.2.Good p ∧
      r.2.accels = Function.update s.accels h (some accel) ∧ Chosen p type accel := by
  rcases hs.devices.unref (.accel h) with ⟨d, hrun, hgood, hcontext, -, hdtype⟩
  have hk := Devices.Keeps.of_update hcontext hdtype
  have hh : d.context (.accel h) = none := by rw [hcontext, Function.update_self]
  rw [System.init, hrun, Option.bind_some]
  dsimp only
  by_cases hnone : type = .none
  · rw [if_pos hnone]
    refine ⟨_, _, rfl, hs.setAccel hgood hk hh, rfl, ?_⟩
    intro hinit
    contradiction
  rw [if_neg hnone]
  by_cases hauto : type = .auto
  · rw [if_pos hauto]
    by_cases hbest : findBestHWAccelType p.infos = .none
    · rw [if_pos hbest]
      refine ⟨_, _, rfl, hs.setAccel hgood hk hh, rfl, ?_⟩
      intro hinit
      contradiction
    · rw [if_neg hbest]
      rcases findBest_spec hbest with ⟨worse, better, hlist, havail, hbefore⟩
      have hmem : findBestHWAccelType p.infos ∈ priorityList := by
        rw [hlist]
        simp
      have hback := toAV_fromAV (priorityList_concrete hmem).1
      rcases hs.initDevice { old with
          type := fromAVHWDeviceType (findBestHWAccelType p.infos)
          deviceIndex := deviceIndex
          initialized := false } hgood hk hh rfl havail a with ⟨r, accel, hr, hgood', haccels, htype⟩
      rw [hback] at hr
      refine ⟨r, accel, hr, hgood', haccels, ?_⟩
      intro _
      refine ⟨hnone, fun hne => absurd hauto hne, fun _ => ⟨worse, better, ?_, hbefore⟩⟩
      rw [htype]
      dsimp only
      rw [hback, ← hlist]
  · rw [if_neg hauto]
    by_cases havail : p.isAvailable type = true
    · rw [if_neg (by simp [havail])]
      rcases hs.initDevice { old with
          type := type, deviceIndex := deviceIndex, initialized := false } hgood hk hh rfl havail a with
        ⟨r, accel, hr, hgood', haccels, htype⟩
      refine ⟨r, accel, hr, hgood', haccels, ?_⟩
      intro _
      exact ⟨hnone, fun _ => htype, fun heq => absurd heq hauto⟩
    · rw [if_pos (by simp [havail])]
      refine ⟨_, _, rfl, hs.setAccel hgood hk hh, rfl, ?_⟩
      intro hinit
      contradiction

/-- An action is carried out and leaves the system in good order. -/
def Done (p : Platform) (r : Option System) : Prop := ∃ s, r = some s ∧ s.Good p

theorem Good.construct {s : System} (hs : s.Good p) {h : ℕ} (hh : s.accels h = none) :
    (s.setAccel h s.devices .new).Good p :=
  hs.setAccel hs.devices (Devices.Keeps.refl _ _) (hs.noAccel h hh)

/-- The reference of a codec context changes. -/
theorem Good.setCodec {s : System} (hs : s.Good p) {c : ℕ} {d : Devices} (hd : d.Good)
    (hk : Devices.Keeps s.devices d (.codec c)) {codecs : ℕ → Bool}
    (hcodecs : ∀ g, codecs g = false → g = c ∧ d.context (.codec c) = none ∨ s.codecs g = false ∧ g ≠ c)
    {hwAccelMap : ℕ → Option ℕ} (hmap : ∀ g h, hwAccelMap g = some h → (s.accels h).isSome) :
    Good p ⟨d, s.accels, codecs, hwAccelMap⟩ := by
  refine ⟨hd, ?_, ?_, ?_, hmap⟩
  · intro h hh
    exact ((hk (.accel h) (by simp)).1).trans (hs.noAccel h hh)
  · intro g hg
    rcases hcodecs g hg with ⟨hgc, hnone⟩ | ⟨hg, hgc⟩
    · rw [hgc]
      exact hnone
    · exact ((hk (.codec g) (by simpa using hgc)).1).trans (hs.noCodec g hg)
  · intro h a ha
    exact (hs.consistent h a ha).keeps hk (by simp)

theorem Good.setupDecoder {s : System} (hs : s.Good p) {h c : ℕ} {accel : HardwareAccel}
    (hh : s.accels h = some accel) (hc : s.codecs c = true)
    (hnew : s.devices.context (.codec c) = none) (ref : Bool) :
    ∃ r, s.setupDecoder h c accel ref = some r ∧ r.2.Good p := by
  rw [System.setupDecoder]
  split
  · exact ⟨_, rfl, hs⟩
  · rename_i hready
    have hcontext : ∃ b, s.devices.context (.accel h) = some b := by
      rw [← Option.isSome_iff_exists, ← Option.not_isNone]
      simp only [Bool.or_eq_true, not_or, Bool.not_eq_true] at hready
      simp [hready.2]
    rcases hcontext with ⟨b, hb⟩
    rcases hs.devices.ref hnew hb ref with ⟨d, hrun, hgood, hcontext, -, htype⟩
    have hk := Devices.Keeps.of_update hcontext htype
    have hcodecs : ∀ g, s.codecs g = false →
        g = c ∧ d.context (.codec c) = none ∨ s.codecs g = false ∧ g ≠ c := by
      intro g hg
      refine Or.inr ⟨hg, ?_⟩
      intro hgc
      rw [hgc, hc] at hg
      contradiction
    rw [hrun, Option.map_some]
    cases ref with
    | false => exact ⟨_, rfl, hs.setCodec hgood hk hcodecs hs.map⟩
    | true =>
      refine ⟨_, rfl, hs.setCodec hgood hk hcodecs ?_⟩
      intro g i hg
      rw [Function.update_apply] at hg
      split at hg
      · rw [Option.some.injEq] at hg
        rw [← hg, hh, Option.isSome_some]
      · exact hs.map g i hg

theorem Good.destroy {s : System} (hs : s.Good p) (h : ℕ) : Done p (s.destroy h) := by
  rcases hs.devices.unref (.accel h) with ⟨d, hrun, hgood, hcontext, -, htype⟩
  have hk := Devices.Keeps.of_update hcontext htype
  rw [System.destroy, hrun, Option.map_some]
  refine ⟨_, rfl, hgood, ?_, ?_, ?_, ?_⟩
  · intro g hg
    by_cases hgh : g = h
    · rw [hgh]
      exact (congrFun hcontext _).trans (Function.update_self _ _ _)
    · change Function.update s.accels h none g = none at hg
      rw [Function.update_of_ne hgh] at hg
      exact ((hk (.accel g) (by simpa using hgh)).1).trans (hs.noAccel g hg)
  · intro c hc
    exact ((hk (.codec c) (by simp)).1).trans (hs.noCodec c hc)
  · intro g a hg
    change Function.update s.accels h none g = some a at hg
    by_cases hgh : g = h
    · rw [hgh, Function.update_self] at hg
      contradiction
    · rw [Function.update_of_ne hgh] at hg
      exact (hs.consistent g a hg).keeps hk (by simpa using hgh)
  · intro c g hg
    dsimp only at hg ⊢
    split at hg
    · contradiction
    · rename_i hne
      have hgh : g ≠ h := by
        intro hgh
        rw [hgh] at hg
        exact hne hg
      rw [Function.update_of_ne hgh]
      exact hs.map c g hg

theorem Good.freeCodec {s : System} (hs : s.Good p) (c : ℕ) : Done p (s.freeCodec c) := by
  rcases hs.devices.unref (.codec c) with ⟨d, hrun, hgood, hcontext, -, htype⟩
  have hnone : d.context (.codec c) = none := by rw [hcontext, Function.update_self]
  rw [System.freeCodec, hrun, Option.map_some]
  refine ⟨_, rfl, hs.setCodec hgood (Devices.Keeps.of_update hcontext htype) ?_ hs.map⟩
  intro g hg
  by_cases hgc : g = c
  · exact Or.inl ⟨hgc, hnone⟩
  · rw [Function.update_of_ne hgc] at hg
    exact Or.inr ⟨hg, hgc⟩

/-- Only the surface pools change. -/
theorem Good.setDevices {s : System} (hs : s.Good p) {d : Devices} (hd : d.Good)
    (hcontext : d.context = s.devices.context) (htype : d.deviceType = s.devices.deviceType) :
    Good p { s with devices := d } := by
  refine ⟨hd, ?_, ?_, ?_, hs.map⟩
  · intro h hh
    exact (congrFun hcontext _).trans (hs.noAccel h hh)
  · intro c hc
    exact (congrFun hcontext _).trans (hs.noCodec c hc)
  · intro h a ha
    have hc := hs.consistent h a ha
    rw [Consistent] at hc ⊢
    dsimp only
    rwa [hcontext, htype]

theorem Good.exec {s : System} (hs : s.Good p) {a : Action} (ha : s.enabled a = true) :
    Done p (s.exec p a) := by
  cases a with
  | construct h => exact ⟨_, rfl, hs.construct (Option.isNone_iff_eq_none.mp ha)⟩
  | init h type deviceIndex a =>
    rcases Option.isSome_iff_exists.mp ha with ⟨old, hold⟩
    rcases hs.init (h := h) old type deviceIndex a with ⟨r, accel, hrun, hgood, -, -⟩
    exact ⟨r.2, by rw [System.exec, hold, Option.bind_some, hrun, Option.map_some], hgood⟩
  | setupDecoder h c ref =>
    simp only [enabled, Bool.and_eq_true, Option.isSome_iff_exists, Option.isNone_iff_eq_none] at ha
    rcases ha with ⟨⟨⟨accel, hh⟩, hc⟩, hnew⟩
    rcases hs.setupDecoder hh hc hnew ref with ⟨r, hrun, hgood⟩
    exact ⟨r.2, by rw [System.exec, hh, Option.bind_some, hrun, Option.map_some], hgood⟩
  | destroy h => exact hs.destroy h
  | allocCodec c =>
    refine ⟨_, rfl, hs.setCodec (c := c) hs.devices (Devices.Keeps.refl _ _) ?_ hs.map⟩
    intro g hg
    by_cases hgc : g = c
    · rw [hgc, Function.update_self] at hg
      contradiction
    · rw [Function.update_of_ne hgc] at hg
      exact Or.inr ⟨hg, hgc⟩
  | freeCodec c => exact hs.freeCodec c
  | lend b =>
    rcases hs.devices.lend (of_decide_eq_true ha) with ⟨d, hrun, hgood, hcontext, -, htype⟩
    exact ⟨_, by rw [System.exec, hrun, Option.map_some], hs.setDevices hgood hcontext htype⟩
  | giveBack b =>
    rcases hs.devices.giveBack (of_decide_eq_true ha) with ⟨d, hrun, hgood, hcontext, -, htype⟩
    exact ⟨_, by rw [System.exec, hrun, Option.map_some], hs.setDevices hgood hcontext htype⟩

theorem good_of_run {s : System} {as : List Action} (hrun : run (step p) start as = some s) :
    s.Good p := by
  apply run_invariant _ (Good.start p) hrun
  intro t a t' ht hstep
  rw [step] at hstep
  split at hstep
  · rename_i ha
    rcases ht.exec ha with ⟨u, hu, hgood⟩
    rw [hu, Option.some.injEq] at hstep
    rwa [← hstep]
  · contradiction

/-- Something still refers to a device context. -/
def InUse (s : System) (b : ℕ) : Prop :=
  (∃ i, s.devices.context i = some b) ∨ 0 < s.devices.owners.heap.outside b

/-- In every run the user's callback is called exactly once for each context that was attached to
a device, when the last accelerator, codec or surface pool lets go of the device, and no call
before that follows a null or freed pointer. -/
theorem contexts_given_back {s : System} {as : List Action}
    (hrun : run (step p) start as = some s) :
    (∀ b f, s.InUse b → (b, f) ∉ s.devices.calls) ∧
    (∀ b f, s.devices.registered b = some f → ¬ s.InUse b → s.devices.calls.count (b, f) = 1) ∧
    (∀ b f, (b, f) ∈ s.devices.calls →
      s.devices.registered b = some f ∧ s.devices.calls.count (b, f) = 1) ∧
    ∀ a, s.enabled a = true → (s.exec p a).isSome := by
  have hgood := good_of_run hrun
  have hmem : ∀ b f, (b, f) ∈ s.devices.calls ↔
      (b, f) ∈ s.devices.calls.filter fun call => call.1 = b := by simp
  have hcount : ∀ b f, s.devices.calls.count (b, f) =
      (s.devices.calls.filter fun call => call.1 = b).count (b, f) := by
    intro b f
    rw [List.count_filter (by simp)]
  have hzero : ∀ b, s.devices.owners.heap.count b = 0 ↔ ¬ s.InUse b := by
    intro b
    rw [InUse, ← hgood.devices.count_pos_iff b]
    omega
  have hcalled : ∀ b f, s.devices.registered b = some f → ¬ s.InUse b →
      s.devices.calls.count (b, f) = 1 := by
    intro b f hreg huse
    rw [hcount, (hgood.devices.settled b).1, if_pos ((hzero b).mpr huse), hreg]
    simp
  refine ⟨?_, hcalled, ?_, ?_⟩
  · intro b f huse
    rw [hmem, (hgood.devices.settled b).1, if_neg (by rw [hzero]; exact not_not_intro huse)]
    exact List.not_mem_nil
  · intro b f hcall
    rw [hmem, (hgood.devices.settled b).1] at hcall
    split at hcall
    · rename_i hnone
      rw [List.mem_map] at hcall
      rcases hcall with ⟨g, hg, heq⟩
      rw [Prod.mk.injEq] at heq
      rw [heq.2, Option.mem_toList] at hg
      exact ⟨hg, hcalled b f hg ((hzero b).mp hnone)⟩
    · exact absurd hcall List.not_mem_nil
  · intro a ha
    rcases hgood.exec ha with ⟨t, ht, -⟩
    rw [ht, Option.isSome_some]

/-- In every run the map refers to accelerators that exist, an accelerator that is initialised has
a device of an available type, the type asked for or the first available one in the order of
preference, and what the codec is told to decode into is the surface format of that device. -/
theorem accelerators_consistent {s : System} {as : List Action}
    (hrun : run (step p) start as = some s) :
    (∀ c h, s.hwAccelMap c = some h → (s.accels h).isSome) ∧
    (∀ h a, s.accels h = some a → Consistent p s.devices h a) ∧
    (∀ c pix_fmts, s.getHWPixelFormat c pix_fmts ≠ .none →
      s.getHWPixelFormat c pix_fmts ∈ pix_fmts ∧
      ∃ h b, s.hwAccelMap c = some h ∧ s.devices.context (.accel h) = some b ∧
        s.getHWPixelFormat c pix_fmts = getHWPixelFormatForDevice (s.devices.deviceType b)) ∧
    (∀ h old type deviceIndex a, ∃ r accel, s.init p h old type deviceIndex a = some r ∧
      r.2.accels h = some accel ∧ Chosen p type accel) := by
  have hgood := good_of_run hrun
  refine ⟨hgood.map, hgood.consistent, ?_, ?_⟩
  · intro c pix_fmts
    rw [getHWPixelFormat]
    cases hmap : s.hwAccelMap c with
    | none => simp
    | some h =>
      rcases Option.isSome_iff_exists.mp (hgood.map c h hmap) with ⟨a, ha⟩
      rw [Option.bind_some, ha]
      dsimp only
      cases hinit : a.initialized with
      | false => simp
      | true =>
        rw [Bool.not_true, if_neg Bool.false_ne_true]
        intro hne
        have hoffered : a.hwPixFmt ∈ pix_fmts := by
          by_contra hnot
          rw [if_neg hnot] at hne
          exact hne rfl
        have hc := hgood.consistent h a ha
        rw [Consistent, if_pos hinit] at hc
        rcases hc with ⟨-, hfmt, b, hb, hdevice⟩
        rw [if_pos hoffered]
        exact ⟨hoffered, h, b, rfl, hb, by rw [hdevice, hfmt]⟩
  · intro h old type deviceIndex a
    rcases hgood.init (h := h) old type deviceIndex a with ⟨r, accel, hr, -, haccels, hchosen⟩
    exact ⟨r, accel, hr, by rw [haccels, Function.update_self], hchosen⟩

/-- A platform with the surfaces of one vendor. -/
def vendor : Platform := ⟨false, false, true, true, [.vdpau, .cuda, .vaapi, .drm], fun t => t ≠ .vdpau⟩

/-- A decoder is set up with a context of the user and torn down while a surface is still out. -/
def oneDecoder : List Action :=
  [.construct 0, .init 0 .auto 0 ⟨some 77, true, true, true, true, true⟩, .allocCodec 0,
    .setupDecoder 0 0 true, .lend 0, .freeCodec 0, .destroy 0, .giveBack 0]

theorem oneDecoder_runs : (run (step vendor) start oneDecoder).isSome = true := by decide

theorem oneDecoder_given_back :
    let s := (run (step vendor) start oneDecoder).get oneDecoder_runs
    ∀ b f, (b, f) ∈ s.devices.calls →
      s.devices.registered b = some f ∧ s.devices.calls.count (b, f) = 1 :=
  (contexts_given_back (Option.some_get oneDecoder_runs).symm).2.2.1

example : ((run (step vendor) start oneDecoder).get oneDecoder_runs).devices.calls =
    [(0, ⟨.cuda, 77⟩)] := by decide

theorem oneDecoder_consistent :
    let s := (run (step vendor) start oneDecoder).get oneDecoder_runs
    ∀ c h, s.hwAccelMap c = some h → (s.accels h).isSome :=
  (accelerators_consistent (Option.some_get oneDecoder_runs).symm).1

end System

end DecoderSDK.Hardware
