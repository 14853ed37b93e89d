import Mathlib.Tactic

/-! # Types of hardware acceleration

The types that the library offers, the device types of the codec library,
and the surface format of each. Detection lists the device types that the
library has a name for, with whether a device could be created; an automatic
choice takes the first available one of a fixed order.
-/
namespace DecoderSDK.Hardware

inductive HWAccelType where
  | none
  | auto
  | dxva2
  | d3d11va
  | cuda
  | vaapi
  | vdpau
  | qsv
  | videoToolBox
  deriving DecidableEq

inductive AVHWDeviceType where
  | none
  | vdpau
  | cuda
  | vaapi
  | dxva2
  | qsv
  | videotoolbox
  | d3d11va
  | drm
  | opencl
  | mediacodec
  | vulkan
  | d3d12va
  deriving DecidableEq

/-- Surface formats, and the others by number. -/
inductive AVPixelFormat where
  | none
  | dxva2Vld
  | d3d11
  | cuda
  | vaapi
  | vdpau
  | qsv
  | videotoolbox
  | software (format : ℕ)
  deriving DecidableEq

def fromAVHWDeviceType : AVHWDeviceType → HWAccelType
  | .none => .none
  | .dxva2 => .dxva2
  | .d3d11va => .d3d11va
  | .cuda => .cuda
  | .vaapi => .vaapi
  | .vdpau => .vdpau
  | .qsv => .qsv
  | .videotoolbox => .videoToolBox
  | _ => .none

def toAVHWDeviceType : HWAccelType → AVHWDeviceType
  | .none => .none
  | .dxva2 => .dxva2
  | .d3d11va => .d3d11va
  | .cuda => .cuda
  | .vaapi => .vaapi
  | .vdpau => .vdpau
  | .qsv => .qsv
  | .videoToolBox => .videotoolbox
  | .auto => .none

def getHWPixelFormatForDevice : AVHWDeviceType → AVPixelFormat
  | .dxva2 => .dxva2Vld
  | .d3d11va => .d3d11
  | .cuda => .cuda
  | .vaapi => .vaapi
  | .vdpau => .vdpau
  | .qsv => .qsv
  | .videotoolbox => .videotoolbox
  | _ => .none

/-- A type that names a device. -/
def HWAccelType.concrete (type : HWAccelType) : Prop := type ≠ .none ∧ type ≠ .auto

theorem fromAV_toAV {type : HWAccelType} (h : type.concrete) :
    fromAVHWDeviceType (toAVHWDeviceType type) = type := by
  rcases h with ⟨hnone, hauto⟩
  cases type <;> first | rfl | contradiction

theorem toAV_fromAV {t : AVHWDeviceType} (h : fromAVHWDeviceType t ≠ .none) :
    toAVHWDeviceType (fromAVHWDeviceType t) = t := by
  cases t <;> first | rfl | exact absurd rfl h

theorem fromAV_ne_auto (t : AVHWDeviceType) : fromAVHWDeviceType t ≠ .auto := by
  cases t <;> simp [fromAVHWDeviceType]

/-- The device types with a surface format are those that the library has a name for. -/
theorem pixelFormat_eq_none_iff (t : AVHWDeviceType) :
    getHWPixelFormatForDevice t = .none ↔ fromAVHWDeviceType t = .none := by
  cases t <;> simp [getHWPixelFormatForDevice, fromAVHWDeviceType]

structure HWAccelInfo where
  type : HWAccelType
  available : Bool
  deriving DecidableEq

/-- The detection: `types` are the device types that are iterated over, `create` tells for which
of them a device can be created. -/
def getSupportedHWAccelTypes (types : List AVHWDeviceType) (create : AVHWDeviceType → Bool) :
    List HWAccelInfo :=
  types.filterMap fun t =>
    if fromAVHWDeviceType t = .none then none else some ⟨fromAVHWDeviceType t, create t⟩

def isAvailableHWAccelType (infos : List HWAccelInfo) (type : HWAccelType) : Bool :=
  infos.any fun info => info.available && decide (info.type = type)

def priorityList : List AVHWDeviceType :=
  [.cuda, .d3d11va, .dxva2, .qsv, .vaapi, .vdpau, .videotoolbox]

def findBestHWAccelType (infos : List HWAccelInfo) : AVHWDeviceType :=
  (priorityList.find? fun t => isAvailableHWAccelType infos (fromAVHWDeviceType t)).getD .none

/-- Only types that name a device are ever available. -/
theorem available_concrete {types : List AVHWDeviceType} {create : AVHWDeviceType → Bool}
    {type : HWAccelType}
    (h : isAvailableHWAccelType (getSupportedHWAccelTypes types create) type = true) :
    type.concrete := by
  rw [isAvailableHWAccelType, List.any_eq_true] at h
  rcases h with ⟨info, hmem, hinfo⟩
  rw [getSupportedHWAccelTypes, List.mem_filterMap] at hmem
  rcases hmem with ⟨t, -, ht⟩
  rw [Bool.and_eq_true, decide_eq_true_eq] at hinfo
  split at ht
  · contradiction
  · rename_i hne
    rw [Option.some.injEq] at ht
    rw [← hinfo.2, ← ht]
    exact ⟨hne, fromAV_ne_auto t⟩

/-- The order of preference names devices only. -/
theorem priorityList_concrete {t : AVHWDeviceType} (h : t ∈ priorityList) :
    (fromAVHWDeviceType t).concrete := by
  simp only [priorityList, List.mem_cons, List.not_mem_nil, or_false] at h
  rcases h with rfl | rfl | rfl | rfl | rfl | rfl | rfl <;> exact ⟨by decide, by decide⟩

/-- The best type is available, and nothing before it in the order is. -/
theorem findBest_spec {infos : List HWAccelInfo} (h : findBestHWAccelType infos ≠ .none) :
    ∃ worse better, priorityList = better ++ findBestHWAccelType infos :: worse ∧
      isAvailableHWAccelType infos (fromAVHWDeviceType (findBestHWAccelType infos)) = true ∧
      ∀ t ∈ better, isAvailableHWAccelType infos (fromAVHWDeviceType t) = false := by
  cases hfind : priorityList.find? fun t =>
      isAvailableHWAccelType infos (fromAVHWDeviceType t) with
  | none =>
    rw [findBestHWAccelType, hfind] at h
    exact absurd rfl h
  | some t =>
    have hbest : findBestHWAccelType infos = t := by rw [findBestHWAccelType, hfind, Option.getD_some]
    rw [List.find?_eq_some_iff_append] at hfind
    rcases hfind with ⟨havail, better, worse, hlist, hbefore⟩
    rw [hbest]
    refine ⟨worse, better, hlist, havail, ?_⟩
    intro u hu
    simpa using hbefore u hu

end DecoderSDK.Hardware
