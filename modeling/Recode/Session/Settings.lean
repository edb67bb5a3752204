import Recode.Error
import Recode.Media.Format

/-! How the transcode is tuned: polling, and what the encoder is asked for. -/

namespace Recode.Session
open Recode.Media

structure Settings where
  /-- The longest time that one poll of a codec may take, in microseconds. -/
  pollTimeout : Int := 2500
  frameRate : Nat := 40
  /-- Seconds from one key frame to the next. -/
  keyFrameInterval : Nat := 10
  /-- The bitrate where none is asked for. -/
  fallbackBitrate : Nat := 921600
  mime : String := videoAvc
  /-- Bytes by which a raw row is longer than its pixels. -/
  stridePadding : Nat := 32
  deriving DecidableEq, Repr, Inhabited

namespace Settings

def legacy : Settings := { frameRate := 25 }

def validate (settings : Settings) : Except Error Unit :=
  if settings.pollTimeout < 0 then
    .error (.config s!"poll_timeout_us must not be negative, got {settings.pollTimeout}")
  else if settings.frameRate = 0 then .error (.config "frame_rate must be positive")
  else if settings.fallbackBitrate = 0 then .error (.config "fallback_bitrate must be positive")
  else if settings.mime.startsWith videoMimePrefix then .ok ()
  else .error (.config s!"mime_type must be a video type, got {settings.mime}")

end Settings

end Recode.Session
