import Recode.Device.Resolver
import Recode.Job.Config
import Recode.Job.Parameters
import Recode.Job.Probe
import Recode.Session.Copy
import Recode.Session.Transcode

/-!
One compression from source to destination. The listener is told of its progress and, once, of its
end; the destination is finalized however the writing of its tracks went; and the source is removed
only after a compression that kept something of it.
-/

namespace Recode.Job
open Recode.Media Recode.Container Recode.Device Recode.Progress Recode.Session
open Recode.Session.Work

structure TrackSummary where
  firstVideoTime : Option Int := none
  videoSamples : Nat := 0
  framesDropped : Nat := 0
  audioSamples : Option Nat := none
  deriving DecidableEq, Repr, Inhabited

structure Report where
  parameters : Parameters
  source : Metadata
  tracks : TrackSummary
  outcome : Outcome
  sourceDeleted : Bool
  deriving DecidableEq, Repr, Inhabited

def Report.check (report : Report) : Except Error Unit :=
  match report.outcome with
  | .completed => .ok ()
  | .emptyResult => .error .emptyResult

structure Compression (σ : Type) where
  probe : Path → Work σ Metadata
  config : Config
  source : Path
  destination : Path
  options : Options

/-- What the writing of the tracks goes by. -/
structure Plan where
  parameters : Parameters
  /-- The encoder of a transcode; without one the video samples are copied. -/
  encoder : Option ResolvedEncoder
  window : Window
  deriving DecidableEq, Repr, Inhabited

namespace Compression
variable {σ : Type}

/-- The source is looked at only if it is readable and nothing is wrong with what was asked. -/
def prepare (job : Compression σ) : Work σ Metadata := do
  settle job.config.validate
  settle job.options.validate
  match ← client (.openFile job.source) with
  | .error text => fail (.unreadableSource s!"{job.source}: {text}")
  | .ok () => job.probe job.source

/-- An encoder is looked for only where one is needed. -/
def plan (job : Compression σ) (source : Metadata) : Work σ Plan := do
  let parameters ← settle (Parameters.resolve job.options source job.config.platform)
  let window := job.options.window.clamped source.duration
  if parameters.transcode && !window.isEmpty then
    let codecs ← device .codecs
    let encoder ← settle <|
      (resolve codecs job.config.platform job.config.pipeline.mime parameters.width
        parameters.height).mapError Fault.toError
    return ⟨parameters, some encoder, window⟩
  else return ⟨parameters, none, window⟩

/-- A window that selects nothing leaves tracks without samples. -/
def writeEmpty (job : Compression σ) (plan : Plan) (video : Track) (audio : Option Track) :
    Work σ TrackSummary := do
  let parameters := plan.parameters
  let format :=
    if parameters.transcode then
      .video job.config.pipeline.mime parameters.width parameters.height
    else video.format
  let _ ← settle (← storage (.addTrack format false))
  match audio with
  | some track =>
      let _ ← settle (← storage (.addTrack track.format true))
      return { audioSamples := some 0 }
  | none => return {}

def writeVideo (job : Compression σ) (plan : Plan) (video : Track) : Work σ TrackSummary := do
  match plan.encoder with
  | some encoder =>
      let parameters := plan.parameters
      let request : TranscodeRequest :=
        ⟨parameters.width, parameters.height, parameters.bitrate, parameters.renderRotation,
          plan.window⟩
      let outcome ← transcode ⟨video, encoder, request, job.config.pipeline⟩
      return {
        firstVideoTime := outcome.firstTime
        videoSamples := outcome.written
        framesDropped := outcome.dropped }
  | none =>
      let outcome ← copyTrack video plan.window true
      return { firstVideoTime := outcome.firstTime, videoSamples := outcome.written }

/-- Audio begins with the first picture, so that both tracks stay in step. -/
def audioWindow (window : Window) (firstVideoTime : Option Int) : Window :=
  ⟨firstVideoTime.getD window.start, window.stop?⟩

def writeTracks (job : Compression σ) (plan : Plan) : Work σ TrackSummary := do
  let index ← videoTrack job.source
  let video : Track := ⟨index, false, ← settle (← storage (.trackFormat index))⟩
  let audio : Option Track ←
    match ← findTrack true with
    | some index => pure (some ⟨index, true, ← settle (← storage (.trackFormat index))⟩)
    | none => pure none
  if plan.window.isEmpty then job.writeEmpty plan video audio
  else
    let summary ← job.writeVideo plan video
    match audio with
    | some track =>
        let window := audioWindow plan.window summary.firstVideoTime
        let outcome ← copyTrack track window false
        return { summary with audioSamples := some outcome.written }
    | none => return summary

def withMovie {α : Type} (job : Compression σ) (plan : Plan) (next : Work σ α) : Work σ α := do
  let parameters := plan.parameters
  settle (← storage (.createMovie job.destination
    ⟨parameters.containerRotation, parameters.width, parameters.height⟩))
  next

/-- The destination is finalized in any case, and of two errors the first is told. -/
def writeDestination (job : Compression σ) (plan : Plan) : Work σ TrackSummary :=
  job.withMovie plan do
    let written ← outcome (job.writeTracks plan)
    let finalized ← storage .finalize
    let tracks ← settle written
    settle finalized
    return tracks

/-- Makes the plan, opens the source and goes on from there. -/
def withSource {α : Type} (job : Compression σ) (source : Metadata) (next : Plan → Work σ α) :
    Work σ α := do
  let plan ← job.plan source
  settle (← storage (.openSource job.source))
  next plan

def execute (job : Compression σ) (source : Metadata) : Work σ (Parameters × TrackSummary) :=
  job.withSource source fun plan => do
    let result ← outcome (job.writeDestination plan)
    storage .releaseDemuxer
    return (plan.parameters, ← settle result)

def listen (duration : Int) : Work σ Unit :=
  modify fun desk => { desk with reporter := some (.new duration) }

def withListener {α : Type} (duration : Int) (next : Work σ α) : Work σ α := do
  listen duration
  tell (.report 0)
  next

/-- Ends with the error, which the listener is told as well. -/
def abort {α : Type} (error : Error) : Work σ α := do
  tell (.fail error)
  fail error

/-- Tells the listener of the end, and then removes the source if that is wanted. -/
def conclude (job : Compression σ) (source : Metadata) (parameters : Parameters)
    (tracks : TrackSummary) : Work σ Report := do
  let outcome : Outcome := if tracks.videoSamples = 0 then .emptyResult else .completed
  tell (.complete outcome)
  let sourceDeleted ←
    if outcome = .completed ∧ job.config.deleteSourceOnSuccess then
      client (.removeFile job.source)
    else pure false
  return ⟨parameters, source, tracks, outcome, sourceDeleted⟩

def run (job : Compression σ) : Work σ Report := do
  match ← outcome job.prepare with
  | .error error =>
      listen 0
      abort error
  | .ok source =>
      withListener source.duration do
        match ← outcome (job.execute source) with
        | .error error => abort error
        | .ok (parameters, tracks) => job.conclude source parameters tracks

end Compression

end Recode.Job
