import Recode.Media.Format
import Recode.Text.Lowercase

/-! What a device says about its codecs, and what a codec answers when it is polled for output. -/

namespace Recode.Device
open Recode.Media Recode.Text

structure CodecInfo where
  name : String
  isEncoder : Bool := true
  types : List String := [videoAvc]
  colorFormats : List ColorFormat := []
  deriving DecidableEq, Repr, Inhabited

namespace CodecInfo

def encoder (name mime : String) (colorFormats : List ColorFormat) : CodecInfo :=
  { name, types := [mime], colorFormats }

def decoder (name mime : String) : CodecInfo := { name, isEncoder := false, types := [mime] }

def supports (info : CodecInfo) (mime : String) : Bool := info.types.any (sameIgnoringCase · mime)

def supportsSurfaceInput (info : CodecInfo) : Bool := info.colorFormats.contains .surface

end CodecInfo

inductive OutputStatus where
  | tryAgainLater
  | buffersChanged
  | formatChanged (format : Format)
  | buffer (index : Nat) (info : SampleInfo)
  deriving DecidableEq, Repr, Inhabited

end Recode.Device
