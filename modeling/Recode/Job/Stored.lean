import Recode.Container.Metadata
import Recode.Data.Record
import Recode.Disk
import Recode.Job.Config
import Recode.Media.Color
import Recode.Toml.Document

/-!
Settings and facts as data formats store them: which names their fields go by, and which may be left
out. A configuration file is written in TOML.
-/

namespace Recode.Job
open Recode.Container Recode.Data Recode.Device Recode.Media Recode.Session

namespace Stored

def settings (surplus : Surplus) (value : Value) : Option Settings := do
  let [timeout, frameRate, interval, bitrate, mime, padding] ← value.fields surplus
    ["poll_timeout_us", "frame_rate", "i_frame_interval", "fallback_bitrate", "mime_type",
      "stride_padding"] | none
  let base : Settings := {}
  return {
    pollTimeout := ← Value.orDefault base.pollTimeout Value.signed64 timeout
    frameRate := ← Value.orDefault base.frameRate Value.word32 frameRate
    keyFrameInterval := ← Value.orDefault base.keyFrameInterval Value.word32 interval
    fallbackBitrate := ← Value.orDefault base.fallbackBitrate Value.word32 bitrate
    mime := ← Value.orDefault base.mime Value.string mime
    stridePadding := ← Value.orDefault base.stridePadding Value.word32 padding }

def platform (surplus : Surplus) (value : Value) : Option Platform := do
  let [manufacturer, model, version] ← value.fields surplus
    ["manufacturer", "model", "os_version"] | none
  let base : Platform := {}
  return {
    manufacturer := ← Value.orDefault base.manufacturer Value.string manufacturer
    model := ← Value.orDefault base.model Value.string model
    osVersion := ← Value.orDefault base.osVersion Value.word32 version }

def config (surplus : Surplus) (value : Value) : Option Config := do
  let [pipeline, platform, delete] ← value.fields surplus
    ["pipeline", "platform", "delete_source_on_success"] | none
  let base : Config := {}
  return {
    pipeline := ← Value.orDefault base.pipeline (settings surplus) pipeline
    platform := ← Value.orDefault base.platform (Stored.platform surplus) platform
    deleteSourceOnSuccess := ← Value.orDefault base.deleteSourceOnSuccess Value.flag delete }

def rotation (value : Value) : Option Rotation := do
  match ← value.tagged with
  | ("Deg0", .null) => return .deg0
  | ("Deg90", .null) => return .deg90
  | ("Deg180", .null) => return .deg180
  | ("Deg270", .null) => return .deg270
  | _ => none

def rotationName : Rotation → String
  | .deg0 => "Deg0"
  | .deg90 => "Deg90"
  | .deg180 => "Deg180"
  | .deg270 => "Deg270"

def colorNames : List (String × ColorFormat) := [
  ("yuv420_planar", .yuv420Planar),
  ("yuv420_packed_planar", .yuv420PackedPlanar),
  ("yuv420_semi_planar", .yuv420SemiPlanar),
  ("yuv420_packed_semi_planar", .yuv420PackedSemiPlanar),
  ("ti_yuv420_packed_semi_planar", .tiYuv420PackedSemiPlanar),
  ("surface", .surface)]

def colorFormat (value : Value) : Option ColorFormat := do
  match ← value.tagged with
  | ("other", code) => return .other (← code.signed32)
  | (name, .null) => colorNames.lookup name
  | _ => none

def colorName? (format : ColorFormat) : Option String :=
  (colorNames.find? (·.2 = format)).map (·.1)

def metadata (surplus : Surplus) (value : Value) : Option Metadata := do
  let [some width, some height, some turn, some duration] ← value.fields surplus
    ["width", "height", "rotation", "duration_us"] | none
  return ⟨← width.word32, ← height.word32, ← rotation turn, ← duration.signed64⟩

end Stored

/-- Why a configuration cannot be used: its text is not one, or its content is not valid. -/
inductive ConfigFault where
  | malformed
  | error (error : Error)
  deriving DecidableEq, Repr, Inhabited

def Config.ofToml (text : String) : Except ConfigFault Config := do
  match (Toml.document? text).bind (Stored.config .ignored) with
  | none => throw .malformed
  | some config =>
      match config.validate with
      | .ok () => return config
      | .error error => throw (.error error)

def Config.ofFile (disk : Disk) (path : Path) : Except ConfigFault Config :=
  match disk.look path with
  | .error _ => .error (.error (.config s!"{path} not found"))
  | .ok .directory => .error (.error (.io "Is a directory (os error 21)"))
  | .ok (.file content) =>
      match String.fromUTF8? ⟨content⟩ with
      | some text => Config.ofToml text
      | none => .error (.error (.io "stream did not contain valid UTF-8"))

end Recode.Job
