import Recode.Text.Lowercase

/-! The device that a job runs on. -/

namespace Recode.Device
open Recode.Text

def surfaceInputMinVersion : Nat := 18
def rotationRenderMinVersion : Nat := 21

structure Platform where
  manufacturer : String := "generic"
  model : String := "generic"
  osVersion : Nat := rotationRenderMinVersion
  deriving DecidableEq, Repr, Inhabited

namespace Platform

/-- A platform as the system names it; makers are known by their lowercase names. -/
def named (manufacturer model : String) (osVersion : Nat) : Platform :=
  ⟨lowercase manufacturer, model, osVersion⟩

def maker (platform : Platform) : String := lowercase platform.manufacturer

def supportsSurfaceInput (platform : Platform) : Bool :=
  surfaceInputMinVersion ≤ platform.osVersion

def rendersRotation (platform : Platform) : Bool :=
  rotationRenderMinVersion ≤ platform.osVersion

end Platform

end Recode.Device
