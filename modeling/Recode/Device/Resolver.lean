import Recode.Error
import Recode.Device.Codec
import Recode.Device.Vendor

/-!
The choice of an encoder on a device, and of the way in which frames reach it: through its input
surface where the device and the encoder both allow it, and otherwise as raw buffers.
-/

namespace Recode.Device
open Recode.Media

inductive Fault where
  | noEncoder (mime : String)
  | noColorFormat (codec : String)
  | codecCreation (text : String)
  | conversion (text : String)
  | config (text : String)
  deriving DecidableEq, Repr, Inhabited

namespace Fault

def message : Fault → String
  | .noEncoder mime => s!"No encoder available for {mime}"
  | .noColorFormat codec => s!"Encoder {codec} advertises no supported color format"
  | .codecCreation text => s!"Failed to create codec {text}"
  | .conversion text => s!"Pixel conversion failed: {text}"
  | .config text => s!"Invalid configuration: {text}"

def toError : Fault → Error
  | fault@(.noEncoder _) | fault@(.noColorFormat _) => .unsupportedFormat fault.message
  | .codecCreation text => CodecError.config text
  | .conversion text => CodecError.surface text
  | .config text => .config text

end Fault

/-- How frames are handed to the chosen encoder. -/
structure Profile where
  colorFormat : ColorFormat
  bufferPadding : Nat
  swapChroma : Bool
  family : Family
  alignedHeight : Nat
  bufferSize : Nat
  deriving DecidableEq, Repr, Inhabited

namespace Profile

def surface (family : Family) (width height : Nat) : Profile :=
  ⟨.surface, 0, false, family, height, VendorRule.plainSize width height⟩

def raw (family : Family) (colorFormat : ColorFormat) (width height : Nat) (platform : Platform) :
    Profile :=
  let layout := family.rule.layout width height platform
  ⟨colorFormat, layout.padding, family.rule.swapsChroma platform, family, layout.alignedHeight,
    layout.bufferSize⟩

def usesSurfaceInput (profile : Profile) : Bool := profile.colorFormat == .surface

end Profile

structure ResolvedEncoder where
  codec : CodecInfo
  profile : Profile
  deriving DecidableEq, Repr, Inhabited

/-- An encoder that is taken only if there is no other of its type. -/
def reluctantEncoder : String := "OMX.SEC.avc.enc"

/-- An encoder that takes fully planar frames only if it takes no others. -/
def planarLastEncoder : String := "OMX.SEC.AVC.Encoder"

/-- The raw layouts that frames can be converted to, the preferred ones first. -/
def colorPreference : List ColorFormat :=
  [.yuv420Planar, .yuv420PackedPlanar, .yuv420SemiPlanar, .yuv420PackedSemiPlanar,
    .tiYuv420PackedSemiPlanar]

def fitting (codecs : List CodecInfo) (mime : String) : List (CodecInfo × Nat) :=
  codecs.zipIdx.filter fun (codec, _) => codec.isEncoder && codec.supports mime

def select? (codecs : List CodecInfo) (mime : String) : Option (CodecInfo × Nat) :=
  let candidates := fitting codecs mime
  (candidates.find? (·.1.name ≠ reluctantEncoder)).or candidates.getLast?

def selectColorFormat? (codec : CodecInfo) : Option ColorFormat :=
  let available := colorPreference.filter codec.colorFormats.contains
  if codec.name = planarLastEncoder then
    (available.find? (· ≠ .yuv420Planar)).or available.head?
  else available.head?

def resolve (codecs : List CodecInfo) (platform : Platform) (mime : String) (width height : Nat) :
    Except Fault ResolvedEncoder :=
  match select? codecs mime with
  | none => .error (.noEncoder mime)
  | some (codec, _) =>
      let family := Family.ofCodecName codec.name
      if platform.supportsSurfaceInput && codec.supportsSurfaceInput then
        .ok ⟨codec, .surface family width height⟩
      else
        match selectColorFormat? codec with
        | some colorFormat => .ok ⟨codec, .raw family colorFormat width height platform⟩
        | none => .error (.noColorFormat codec.name)

end Recode.Device
