import Recode.Device.Platform

/-!
Where encoders expect the chroma of a raw frame. Drivers of different processor families disagree on
its place and on the order of its two components; each family has one rule, and some rules hold only
for the devices of certain makers.
-/

namespace Recode.Device

inductive Family where
  | qcom
  | intel
  | mtk
  | sec
  | ti
  | other
  deriving DecidableEq, Repr, Inhabited

namespace Family

def name : Family → String
  | .qcom => "qcom"
  | .intel => "intel"
  | .mtk => "mtk"
  | .sec => "sec"
  | .ti => "ti"
  | .other => "other"

/-- Two families are known by a part of the codec's name, three by the whole name. -/
def ofCodecName (name : String) : Family :=
  if name.contains "OMX.qcom." then .qcom
  else if name.contains "OMX.Intel." then .intel
  else if name = "OMX.MTK.VIDEO.ENCODER.AVC" then .mtk
  else if name = "OMX.SEC.AVC.Encoder" then .sec
  else if name = "OMX.TI.DUCATI1.VIDEO.H264E" then .ti
  else .other

end Family

/-- How the space before the chroma grows. -/
inductive Padding where
  | none
  /-- Rows are added up to a multiple of sixteen. -/
  | alignHeight
  /-- Rows are added up to the next multiple of sixteen, also at a multiple. -/
  | stepHeight
  /-- Bytes are added up to a multiple of 2048. -/
  | alignChromaOffset
  deriving DecidableEq, Repr, Inhabited

inductive Makers where
  | any
  | only (names : List String)
  | except (names : List String)
  deriving DecidableEq, Repr, Inhabited

def Makers.accepts : Makers → String → Bool
  | .any, _ => true
  | .only names, maker => names.contains maker
  | .except names, maker => !names.contains maker

inductive ChromaSwap where
  | never
  | always
  | onOsVersion (version : Nat) (makers : List String)
  deriving DecidableEq, Repr, Inhabited

structure VendorRule where
  family : Family
  padding : Padding
  appliesTo : Makers
  chromaSwap : ChromaSwap
  deriving DecidableEq, Repr, Inhabited

def otherRule : VendorRule := ⟨.other, .alignHeight, .any, .never⟩

def vendorRules : List VendorRule := [
  ⟨.qcom, .alignChromaOffset, .except ["lge"], .onOsVersion 16 ["lge", "nokia"]⟩,
  ⟨.intel, .none, .any, .never⟩,
  ⟨.mtk, .stepHeight, .only ["baidu"], .never⟩,
  ⟨.sec, .none, .any, .always⟩,
  ⟨.ti, .none, .any, .never⟩,
  otherRule]

def Family.rule (family : Family) : VendorRule :=
  (vendorRules.find? (·.family = family)).getD otherRule

/-- Sizes of a raw frame buffer: rows after alignment, bytes before the chroma, and bytes in all. -/
structure BufferLayout where
  alignedHeight : Nat
  padding : Nat
  bufferSize : Nat
  deriving DecidableEq, Repr, Inhabited

/-- A layout in machine words: rows are counted in 32 bits, and bytes in 64. -/
structure WordLayout where
  alignedHeight : UInt32
  padding : UInt64
  bufferSize : UInt64
  deriving DecidableEq, Repr, Inhabited

def WordLayout.toLayout (layout : WordLayout) : BufferLayout :=
  ⟨layout.alignedHeight.toNat, layout.padding.toNat, layout.bufferSize.toNat⟩

namespace VendorRule

def swapsChroma (rule : VendorRule) (platform : Platform) : Bool :=
  match rule.chromaSwap with
  | .never => false
  | .always => true
  | .onOsVersion version makers =>
      platform.osVersion == version && makers.contains platform.maker

/-- The bytes of a frame without padding: one of luma and half a byte of chroma for each pixel. -/
def plainSize (width height : Nat) : Nat := width * height * 3 / 2

def raised (width height alignedHeight : Nat) : BufferLayout :=
  let padding := width * (alignedHeight - height)
  ⟨alignedHeight, padding, plainSize width height + padding * 5 / 4⟩

def layout (rule : VendorRule) (width height : Nat) (platform : Platform) : BufferLayout :=
  let plain : BufferLayout := ⟨height, 0, plainSize width height⟩
  if rule.appliesTo.accepts platform.maker then
    match rule.padding with
    | .none => plain
    | .alignHeight =>
        if height % 16 = 0 then plain else raised width height (height + (16 - height % 16))
    | .stepHeight => raised width height (height + (16 - height % 16))
    | .alignChromaOffset =>
        let padding := (width * height + 2047) / 2048 * 2048 - width * height
        ⟨height, padding, plainSize width height + padding⟩
  else plain

def raisedInWords (width height alignedHeight : UInt32) : WordLayout :=
  let padding := width.toUInt64 * (alignedHeight - height).toUInt64
  ⟨alignedHeight, padding, width.toUInt64 * height.toUInt64 * 3 / 2 + padding * 5 / 4⟩

/-- `layout` as machine words compute it: they wrap around, and the place of the chroma is raised to a
multiple of 2048 by clearing its low eleven bits. -/
def layoutInWords (rule : VendorRule) (width height : UInt32) (platform : Platform) : WordLayout :=
  let area := width.toUInt64 * height.toUInt64
  let plain : WordLayout := ⟨height, 0, area * 3 / 2⟩
  if rule.appliesTo.accepts platform.maker then
    match rule.padding with
    | .none => plain
    | .alignHeight =>
        if height % 16 = 0 then plain else raisedInWords width height (height + (16 - height % 16))
    | .stepHeight => raisedInWords width height (height + (16 - height % 16))
    | .alignChromaOffset =>
        let padding := ((area + 2047) &&& ~~~2047) - area
        ⟨height, padding, area * 3 / 2 + padding⟩
  else plain

end VendorRule

end Recode.Device
