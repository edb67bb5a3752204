import Recode.Device.Platform
import Recode.Session.Settings
import Recode.Text.Blank

/-! How a compressor works, whatever it compresses. -/

namespace Recode.Job
open Recode.Device Recode.Session Recode.Text

structure Config where
  pipeline : Settings := {}
  platform : Platform := {}
  deleteSourceOnSuccess : Bool := true
  deriving DecidableEq, Repr, Inhabited

namespace Config

def validate (config : Config) : Except Error Unit := do
  config.pipeline.validate
  if isBlankText config.platform.manufacturer then
    throw (.config "platform manufacturer is empty")

def accepted (config : Config) : Except Error Config := do
  config.validate
  return config

end Config

end Recode.Job
