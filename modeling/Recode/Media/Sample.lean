/-!
What travels beside every buffer: where its bytes lie, when it is shown and what kind it is.
-/

namespace Recode.Media

abbrev Bytes := Array UInt8

/-- A buffer to whose start data was written; behind the data it keeps its earlier bytes. -/
def overlay (data buffer : Bytes) : Bytes := data ++ buffer.extract data.size buffer.size

/-- Markers of a buffer, one bit each; bits without a meaning of their own are kept. -/
structure Flags where
  bits : Nat
  deriving DecidableEq, Repr, Inhabited

namespace Flags

def none : Flags := ⟨0⟩
def keyFrame : Flags := ⟨1⟩
def codecConfig : Flags := ⟨2⟩
def endOfStream : Flags := ⟨4⟩

def isKeyFrame (flags : Flags) : Bool := flags.bits.testBit 0
def isCodecConfig (flags : Flags) : Bool := flags.bits.testBit 1
def isEndOfStream (flags : Flags) : Bool := flags.bits.testBit 2

@[simp] theorem isEndOfStream_none : none.isEndOfStream = false := rfl

@[simp] theorem isCodecConfig_none : none.isCodecConfig = false := rfl

@[simp] theorem isEndOfStream_endOfStream : endOfStream.isEndOfStream = true := rfl

@[simp] theorem isCodecConfig_endOfStream : endOfStream.isCodecConfig = false := rfl

@[simp] theorem isCodecConfig_codecConfig : codecConfig.isCodecConfig = true := rfl

@[simp] theorem isEndOfStream_codecConfig : codecConfig.isEndOfStream = false := rfl

/-- The named markers in ascending order, and then what is left as one hexadecimal number. -/
def describe (flags : Flags) : String :=
  let named := (if flags.isKeyFrame then ["KEY_FRAME"] else [])
    ++ (if flags.isCodecConfig then ["CODEC_CONFIG"] else [])
    ++ (if flags.isEndOfStream then ["END_OF_STREAM"] else [])
  let rest := flags.bits / 8 * 8
  let hex := "0x" ++ String.ofList (Nat.toDigits 16 rest)
  let parts := if rest = 0 ∧ named ≠ [] then named else named ++ [hex]
  "SampleFlags(" ++ " | ".intercalate parts ++ ")"

end Flags

/-- The extent of a buffer within its backing bytes, its time in microseconds and its markers. -/
structure SampleInfo where
  size : Nat
  offset : Nat
  time : Int
  flags : Flags
  deriving DecidableEq, Repr, Inhabited

namespace SampleInfo

def stop (info : SampleInfo) : Nat := info.offset + info.size

/-- The described bytes of `buffer`, if it holds them all. -/
def slice? (info : SampleInfo) (buffer : Bytes) : Option Bytes :=
  if info.stop ≤ buffer.size then some (buffer.extract info.offset info.stop) else none

theorem slice?_overlay (data buffer : Bytes) (time : Int) (flags : Flags) :
    slice? ⟨data.size, 0, time, flags⟩ (overlay data buffer) = some data := by
  simp [slice?, stop, overlay]

def describe (info : SampleInfo) : String :=
  s!"SampleInfo \x7b size: {info.size}, offset: {info.offset}, pts_us: {info.time}, flags: "
    ++ info.flags.describe ++ " \x7d"

end SampleInfo

end Recode.Media
