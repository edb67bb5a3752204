import Recode.Media.Rotation
import Recode.Media.Color
import Recode.Media.Sample

/-!
Formats of tracks and codecs. A format always has a MIME type; everything else is stated only where
it is known.
-/

namespace Recode.Media

def audioMimePrefix : String := "audio/"
def videoMimePrefix : String := "video/"
def videoAvc : String := "video/avc"
def audioAac : String := "audio/mp4a-latm"

structure Format where
  mime : String
  width : Option Nat := none
  height : Option Nat := none
  rotation : Option Rotation := none
  maxInputSize : Option Nat := none
  duration : Option Int := none
  bitrate : Option Nat := none
  frameRate : Option Nat := none
  keyFrameInterval : Option Nat := none
  colorFormat : Option ColorFormat := none
  stride : Option Nat := none
  sliceHeight : Option Nat := none
  sampleRate : Option Nat := none
  channelCount : Option Nat := none
  csd0 : Option Bytes := none
  csd1 : Option Bytes := none
  deriving DecidableEq, Repr, Inhabited

namespace Format

def video (mime : String) (width height : Nat) : Format :=
  { mime, width := some width, height := some height }

def audio (mime : String) (sampleRate channelCount : Nat) : Format :=
  { mime, sampleRate := some sampleRate, channelCount := some channelCount }

def withParameterSets (format : Format) (first second : Bytes) : Format :=
  { format with csd0 := some first, csd1 := some second }

def isAudio (format : Format) : Bool := format.mime.startsWith audioMimePrefix
def isVideo (format : Format) : Bool := format.mime.startsWith videoMimePrefix

def isKind (format : Format) (isAudio : Bool) : Bool :=
  if isAudio then format.isAudio else format.isVideo

end Format

structure Track where
  index : Nat
  isAudio : Bool
  format : Format
  deriving DecidableEq, Repr, Inhabited

end Recode.Media
