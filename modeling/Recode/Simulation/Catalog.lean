import Recode.Simulation.Decoder
import Recode.Simulation.Encoder

/-! A device's simulated codecs: one decoder for AVC video, and the encoders it is given. -/

namespace Recode.Simulation
open Recode.Media Recode.Device

structure Catalog where
  codecs : List CodecInfo
  faults : CodecFaults := {}
  log : Log := {}
  deriving DecidableEq, Repr, Inhabited

namespace Catalog

def new (encoders : List CodecInfo) (faults : CodecFaults) : Catalog :=
  { codecs := .decoder "OMX.fake.video.decoder.avc" videoAvc :: encoders, faults }

def raw (name : String) (colorFormats : List ColorFormat) (faults : CodecFaults) : Catalog :=
  new [.encoder name videoAvc colorFormats] faults

/-- One encoder with an input surface, which also takes raw frames. -/
def surface (faults : CodecFaults) : Catalog :=
  raw "OMX.qcom.video.encoder.avc" [.surface, .yuv420SemiPlanar] faults

def createEncoder (catalog : Catalog) (name : String) : Except Error Encoder × Catalog :=
  if catalog.faults.failEncoderCreation then
    (.error (CodecError.config s!"cannot instantiate {name}"), catalog)
  else
    match catalog.codecs.find? fun codec => codec.isEncoder && codec.name == name with
    | some codec =>
        let log := { catalog.log with encodersCreated := catalog.log.encodersCreated + 1 }
        (.ok (.new codec.name catalog.faults), { catalog with log })
    | none => (.error (.unsupportedFormat s!"no encoder named {name}"), catalog)

def createDecoder (catalog : Catalog) (mime : String) : Except Error Decoder × Catalog :=
  match catalog.codecs.find? fun codec => !codec.isEncoder && codec.supports mime with
  | some codec =>
      let log := { catalog.log with decodersCreated := catalog.log.decodersCreated + 1 }
      (.ok (.new codec.name catalog.faults), { catalog with log })
  | none => (.error (.unsupportedFormat s!"no decoder for {mime}"), catalog)

end Catalog

end Recode.Simulation
