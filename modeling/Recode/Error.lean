/-!
What can go wrong in a compression. Codecs, containers and muxers have causes of their own, so that
a caller can tell the stage that failed; `Error` joins them with the causes of a whole job.
-/

namespace Recode

inductive CodecError where
  | config (text : String)
  | unexpectedStatus (stage : String) (status : Int)
  | missingBuffer (stage : String) (index : Nat)
  | invalidInputBuffer (index : Nat)
  | notStarted
  | tryAgain
  | surface (text : String)
  | other (text : String)
  deriving DecidableEq, Repr, Inhabited

inductive ContainerError where
  | trackNotFound (index : Nat)
  | trackAlreadySelected (active requested : Nat)
  | bufferTooSmall (needed available : Nat)
  | seekFailed (text : String)
  | missingKey (key : String)
  | other (text : String)
  deriving DecidableEq, Repr, Inhabited

inductive MuxerError where
  | unknownTrack (index : Nat)
  | kindMismatch (index : Nat)
  | alreadyFinalized
  | write (text : String)
  | finalize (text : String)
  | io (text : String)
  deriving DecidableEq, Repr, Inhabited

inductive Error where
  | unreadableSource (text : String)
  | unsupportedFormat (text : String)
  | codec (cause : CodecError)
  | muxer (cause : MuxerError)
  | container (cause : ContainerError)
  | emptyResult
  | invalidParameter (text : String)
  | config (text : String)
  | cancelled
  | workerPanicked (text : String)
  | io (text : String)
  deriving DecidableEq, Repr, Inhabited

def CodecError.message : CodecError → String
  | .config text => s!"Codec configuration error: {text}"
  | .unexpectedStatus stage status => s!"Unexpected status from {stage}: {status}"
  | .missingBuffer stage index => s!"Output buffer {index} was not available from {stage}"
  | .invalidInputBuffer index => s!"Invalid input buffer {index}"
  | .notStarted => "Codec not started"
  | .tryAgain => "Try again later"
  | .surface text => s!"Surface error: {text}"
  | .other text => text

def ContainerError.message : ContainerError → String
  | .trackNotFound index => s!"Track {index} not found"
  | .trackAlreadySelected active requested =>
      s!"Track {requested} selected while track {active} is active"
  | .bufferTooSmall needed available => s!"Buffer too small: need {needed} bytes, have {available}"
  | .seekFailed text => s!"Seek failed: {text}"
  | .missingKey key => s!"Missing format key: {key}"
  | .other text => text

def MuxerError.message : MuxerError → String
  | .unknownTrack index => s!"Track {index} was never added"
  | .kindMismatch index => s!"Track {index} is not of the declared kind"
  | .alreadyFinalized => "Muxer already finalized"
  | .write text => s!"Sample write failed: {text}"
  | .finalize text => s!"Finalize failed: {text}"
  | .io text => s!"I/O error: {text}"

namespace Error

def message : Error → String
  | .unreadableSource text => s!"Unreadable source: {text}"
  | .unsupportedFormat text => s!"Unsupported format: {text}"
  | .codec cause => "Codec failure: " ++ cause.message
  | .muxer cause => "Muxer failure: " ++ cause.message
  | .container cause => "Container error: " ++ cause.message
  | .emptyResult => "Empty result: no video frames fall inside the requested window"
  | .invalidParameter text => s!"Invalid parameter: {text}"
  | .config text => s!"Configuration error: {text}"
  | .cancelled => "Operation cancelled"
  | .workerPanicked text => s!"Worker panicked: {text}"
  | .io text => s!"I/O error: {text}"

/-- An empty result is a warning: a file was written, only without pictures. -/
def isFatal : Error → Bool
  | .emptyResult => false
  | _ => true

/-- A transient fault goes away when the same poll is made again. -/
def isTransient : Error → Bool
  | .codec .tryAgain => true
  | _ => false

def isCancelled : Error → Bool
  | .cancelled => true
  | _ => false

theorem isTransient_iff (error : Error) : error.isTransient = true ↔ error = .codec .tryAgain := by
  cases error with
  | codec cause => cases cause <;> simp [isTransient]
  | _ => simp [isTransient]

end Error

instance : Coe CodecError Error := ⟨.codec⟩
instance : Coe ContainerError Error := ⟨.container⟩
instance : Coe MuxerError Error := ⟨.muxer⟩

end Recode
