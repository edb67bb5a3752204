import Recode.Proofs.Containers
import Recode.Proofs.RawFrames
import Recode.Proofs.Stage
import Recode.Session.Transcode

/-!
The course of a transcode on a simulated rig. What is still to be read, what the decoder has yet to
put out, what waits for the encoder and what is written add up, from step to step, to the same
pictures; and what is left to do becomes less with each step.
-/

namespace Recode.Session

/-- The times that a window keeps of a sequence: up to the first past its end, without those before
its start. -/
def Window.kept (window : Window) (times : List Int) : List Int :=
  (times.takeWhile (!window.hasEnded ·)).filter (!window.isBeforeStart ·)

namespace Window
variable {window : Window} {time : Int} (times : List Int)

theorem kept_nil (window : Window) : window.kept [] = [] := rfl

theorem kept_cons_of_ended (ended : window.hasEnded time = true) :
    window.kept (time :: times) = [] := by
  simp [kept, ended]

theorem kept_cons_of_before (going : window.hasEnded time = false)
    (before : window.isBeforeStart time = true) :
    window.kept (time :: times) = window.kept times := by
  simp [kept, going, before]

theorem kept_cons_of_admits (admits : window.admits time = true) :
    window.kept (time :: times) = time :: window.kept times := by
  simp only [Window.admits, Bool.and_eq_true, Bool.not_eq_true'] at admits
  simp [kept, admits.1, admits.2]

end Window

end Recode.Session

namespace Recode.Simulation
open Recode.Media Recode.Container Recode.Device Recode.Picture Recode.Progress Recode.Session
open Recode.Session.Work

/-- Raw frames can be converted into the encoder's input buffers, and queued with their stated
size. -/
def Convertible (plan : TranscodePlan) : Prop :=
  let profile := plan.profile
  let room := Encoder.inputCapacity plan.request.width plan.request.height
  plan.surfaceInput = false → profile.bufferSize ≤ room ∧
    ∃ layout, ChromaLayout.of? profile.colorFormat = some layout ∧
      convertedSize layout plan.request.width plan.request.height profile.bufferPadding ≤ room

theorem Convertible.of_resolve {plan : TranscodePlan} {codecs : List CodecInfo}
    {platform : Platform} {mime : String}
    (resolved : resolve codecs platform mime plan.request.width plan.request.height =
      .ok plan.encoder) : Convertible plan := by
  intro raw
  obtain ⟨family, format, preferred, same⟩ := resolve_raw resolved raw
  have fits := @Profile.raw_fits family format preferred plan.request.width plan.request.height
    platform
  obtain ⟨⟨layout, found, converted⟩, size⟩ := fits
  rw [← same] at converted size
  refine ⟨size, layout, ?_, converted⟩
  show ChromaLayout.of? plan.encoder.profile.colorFormat = some layout
  rw [same]
  exact found

/-- What a transcode goes through, and what it is to come to. -/
structure Course where
  plan : TranscodePlan
  source : Source
  /-- The failures that the muxer is told to produce. -/
  faults : MuxerFaults
  /-- The room in the decoder's input buffers. -/
  capacity : Nat
  /-- How many pictures the encoder will have no room for. -/
  lost : Nat
  /-- The times of all pictures that are to be drawn. -/
  whole : List Int

namespace Course

def ahead (course : Course) (stage : Stage) : List Int :=
  (stage.demuxer.upcoming.filter (·.track = course.plan.track.index)).map (·.time)

/-- Between two steps everything on the stage is ready for use. -/
structure Ready (course : Course) (stage : Stage) : Prop where
  reads : stage.demuxer.Reads course.plan.track.index
  reading : stage.demuxer.source = course.source
  room : ∀ sample ∈ stage.demuxer.upcoming, sample.track = course.plan.track.index →
    sample.data.size ≤ course.capacity
  decoder : stage.decoder.Idle course.capacity
  encoder : stage.encoder.Idle course.plan.request.width course.plan.request.height
  hasSurface : stage.encoder.hasSurface = course.plan.surfaceInput
  surface : course.plan.surfaceInput = true → ∃ surface, stage.surface = some surface ∧
    surface.Takes course.plan.request.width course.plan.request.height
  transform : stage.transform.released = false
  width : stage.transform.spec.width = course.plan.request.width
  height : stage.transform.spec.height = course.plan.request.height
  convertible : Convertible course.plan
  accepts : stage.muxer.Accepts
  faults : stage.muxer.faults = course.faults
  presents : ∀ time ∈ course.whole, course.plan.Presents time

/-- The pictures up to the decoder's output: `handled` were to be drawn and are dealt with, and the
samples of the times in `waiting` are in the decoder. -/
structure Inflow (course : Course) (handled waiting : List Int) (session : Standing)
    (stage : Stage) : Prop where
  feeding : session.feeding = true → session.decoder.isDone = false
  coming : session.decoder.isDone = false →
    course.whole = handled ++ course.plan.window.kept (waiting ++ course.ahead stage)
  pending : session.decoder.isDone = false → stage.decoder.pending =
    waiting.map (·, false) ++ (if session.feeding then [] else [(0, true)])
  exhausted : session.decoder.isDone = false → session.feeding = false → course.ahead stage = []
  drained : session.decoder.isDone = true → course.whole = handled

/-- The pictures from there to the encoder: the first of them are lost where the encoder has no room
for them, and all others are its frames. -/
structure Drawn (course : Course) (handled : List Int) (session : Standing) (stage : Stage) :
    Prop where
  frames : stage.log.encoderFrames = handled.drop course.lost
  rendered : session.rendered = stage.log.encoderFrames.length
  dropped : session.dropped = min course.lost handled.length
  firstTime : session.firstTime = stage.log.encoderFrames.head?
  again : course.plan.surfaceInput = false → session.decoder.isDone = false →
    stage.encoder.inputTryAgain = course.lost - handled.length
  none_lost : course.plan.surfaceInput = true → course.lost = 0

/-- The movie has no track before the encoder has told its configuration, and one afterwards, with
samples of the given times. -/
def Muxed (times : List Int) (session : Standing) (stage : Stage) : Prop :=
  match stage.encoder.configSent with
  | false => session.destination = none ∧ stage.muxer.movie.tracks = [] ∧ times = []
  | true => session.destination = some 0 ∧ ∃ track, stage.muxer.movie.tracks = [track] ∧
      track.isAudio = false ∧ track.samples.map (·.time) = times

structure Outflow (muxed : List Int) (session : Standing) (stage : Stage) : Prop where
  told : session.encoder.inputEnded = (session.decoder.isDone && !session.endPending)
  pending : session.endPending = true → session.decoder.isDone = true
  queue : session.encoder.isDone = false →
    muxed.map EncoderInput.frame ++ stage.encoder.queue =
      stage.log.encoderFrames.map EncoderInput.frame ++
        (if session.encoder.inputEnded then [.endOfStream] else [])
  ended : session.encoder.isDone = true → session.encoder.inputEnded = true
  finished : session.encoder.isDone = true → muxed = stage.log.encoderFrames
  movie : Muxed muxed session stage
  written : session.written = muxed.length

/-- All that came of a session so far: it is ready for the next step, and its pictures are where the
course says. -/
structure Follows (course : Course) (handled waiting muxed : List Int) (session : Standing)
    (stage : Stage) : Prop where
  ready : course.Ready stage
  inflow : course.Inflow handled waiting session stage
  drawn : course.Drawn handled session stage
  outflow : Outflow muxed session stage
  seen : stage.transform.queue = []

section
variable {course : Course} {handled waiting muxed times : List Int} {session next : Standing}
  {stage after : Stage}

/-- What the decoder's slot holds is of no account. -/
theorem Follows.decoderFilled (follows : course.Follows handled waiting muxed session stage)
    (written : Bytes) : course.Follows handled waiting muxed session
      { stage with decoder := stage.decoder.filled written } :=
  ⟨{ follows.ready with decoder := follows.ready.decoder.filled written },
    { follows.inflow with }, { follows.drawn with }, { follows.outflow with }, follows.seen⟩

theorem Follows.encoderFilled (follows : course.Follows handled waiting muxed session stage)
    (written : Bytes) : course.Follows handled waiting muxed session
      { stage with encoder := stage.encoder.filled written } :=
  ⟨{ follows.ready with encoder := follows.ready.encoder.filled written },
    { follows.inflow with }, { follows.drawn with }, { follows.outflow with }, follows.seen⟩

theorem Muxed.unopened (muxed : Muxed times session stage)
    (unsent : stage.encoder.configSent = false) :
    session.destination = none ∧ stage.muxer.movie.tracks = [] ∧ times = [] := by
  unfold Muxed at muxed
  rwa [unsent] at muxed

theorem Muxed.opened (muxed : Muxed times session stage) (sent : stage.encoder.configSent = true) :
    session.destination = some 0 ∧ ∃ track, stage.muxer.movie.tracks = [track] ∧
      track.isAudio = false ∧ track.samples.map (·.time) = times := by
  unfold Muxed at muxed
  rwa [sent] at muxed

theorem Inflow.oldest {time : Int} (inflow : course.Inflow handled (time :: waiting) session stage)
    (running : session.decoder.isDone = false) :
    ∃ later, stage.decoder.pending = (time, false) :: later :=
  ⟨_, inflow.pending running⟩

theorem Inflow.past {time : Int} {new : List Int}
    (inflow : course.Inflow handled (time :: waiting) session stage)
    (running : session.decoder.isDone = false)
    (kept : ∀ later, course.plan.window.kept (time :: later) =
      new ++ course.plan.window.kept later)
    (feeding : next.feeding = session.feeding) (decoder : next.decoder = session.decoder)
    (demuxer : after.demuxer = stage.demuxer) (past : after.decoder = stage.decoder.past) :
    course.Inflow (handled ++ new) waiting next after := by
  have same : course.ahead after = course.ahead stage := by simp only [ahead, demuxer]
  refine ⟨?_, ?_, ?_, ?_, ?_⟩ <;> simp only [decoder, feeding, same]
  · exact inflow.feeding
  · intro _
    rw [inflow.coming running, List.cons_append, kept, List.append_assoc]
  · intro _
    rw [past, Decoder.past, inflow.pending running]
    rfl
  · exact inflow.exhausted
  · intro isDone
    exact absurd isDone (by simp [running])

theorem Outflow.untold (outflow : Outflow muxed session stage)
    (running : session.decoder.isDone = false) : session.encoder.inputEnded = false := by
  rw [outflow.told, running, Bool.false_and]

theorem Outflow.running (outflow : Outflow muxed session stage)
    (untold : session.encoder.inputEnded = false) : session.encoder.isDone = false := by
  cases ended : session.encoder.isDone with
  | false => rfl
  | true =>
    rw [outflow.ended ended] at untold
    exact nomatch untold

theorem Outflow.frames_eq (outflow : Outflow muxed session stage)
    (untold : session.encoder.inputEnded = false) :
    muxed.map EncoderInput.frame ++ stage.encoder.queue =
      stage.log.encoderFrames.map EncoderInput.frame := by
  have queue := outflow.queue (outflow.running untold)
  rw [untold] at queue
  simpa only [Bool.false_eq_true, if_false, List.append_nil] using queue

end

end Course

def Decoder.load (decoder : Decoder) : Nat :=
  6 * decoder.pending.length + 3 * decoder.inputTryAgain + 3 * decoder.outputTryAgain
    + (if decoder.formatReported then 0 else 2)

theorem Decoder.load_append (decoder : Decoder) (sample : Int × Bool) :
    { decoder with pending := decoder.pending ++ [sample] }.load = decoder.load + 6 := by
  simp only [load, List.length_append, List.length_singleton]
  omega

theorem Decoder.load_past {decoder : Decoder} {first : Int × Bool} {later : List (Int × Bool)}
    (oldest : decoder.pending = first :: later) : decoder.load = decoder.past.load + 6 := by
  simp only [load, past, oldest, List.length_cons, List.tail_cons]
  omega

def Encoder.load (encoder : Encoder) : Nat :=
  encoder.queue.length + 3 * encoder.inputTryAgain + 3 * encoder.outputTryAgain
    + (if encoder.configSent then 0 else 1)

theorem Encoder.load_append (encoder : Encoder) (more : List EncoderInput) :
    { encoder with queue := encoder.queue ++ more }.load = encoder.load + more.length := by
  simp only [load, List.length_append]
  omega

theorem Encoder.load_enqueueEnd (encoder : Encoder) (log : Log) :
    (encoder.enqueueEnd log).1.load = encoder.load + 1 :=
  encoder.load_append [.endOfStream]

theorem Encoder.load_enqueueFrame (encoder : Encoder) (time : Int) (log : Log) :
    (encoder.enqueueFrame time log).1.load = encoder.load + 1 :=
  encoder.load_append [.frame time]

/-- A poll that finds nothing is allowed for as long as samples are fed, and before the others once. -/
def respite (session : Standing) (decoder : Decoder) : Nat :=
  if session.decoder.isDone then 0 else if session.feeding || decoder.skips then 3 else 0

theorem respite_le (session : Standing) (decoder : Decoder) : respite session decoder ≤ 3 := by
  unfold respite
  split
  · omega
  · split <;> omega

theorem respite_feeding {session : Standing} (decoding : session.decoder.isDone = false)
    (feeding : session.feeding = true) (decoder : Decoder) : respite session decoder = 3 := by
  simp [respite, decoding, feeding]

theorem respite_of_skips {session : Standing} (decoding : session.decoder.isDone = false)
    {decoder : Decoder} {skips : Bool} (same : decoder.skips = skips) :
    respite session decoder = if session.feeding || skips then 3 else 0 := by
  subst same
  exact if_neg (by simp [decoding])

theorem respite_done {session : Standing} (isDone : session.decoder.isDone = true)
    (decoder : Decoder) : respite session decoder = 0 := by
  simp [respite, isDone]

/-- What is left to do, apart from where the two machines stand. -/
def load (session : Standing) (stage : Stage) : Nat :=
  9 * stage.demuxer.upcoming.length + stage.decoder.load + stage.encoder.load
    + (if session.feeding then 9 else 0) + (if session.endPending then 3 else 0)
    + respite session stage.decoder

def decoding (session : Standing) : Nat :=
  if session.decoder.isDone then 0
  else if session.decoder.state = .hasOutput then 1 else if session.feeding then 0 else 3

def encoding (session : Standing) : Nat :=
  if session.encoder.isDone then 0
  else if session.encoder.state = .hasOutput then 1 else if session.encoder.inputEnded then 2 else 0

theorem encoding_le (session : Standing) : encoding session ≤ 2 := by
  unfold encoding
  split
  · omega
  · split
    · omega
    · split <;> omega

theorem decoding_of_hasOutput {session : Standing} (turn : session.decoder.state = .hasOutput) :
    decoding session = 1 := by
  simp [decoding, Machine.isDone, turn]

theorem encoding_of_hasOutput {session : Standing} (turn : session.encoder.state = .hasOutput) :
    encoding session = 1 := by
  simp [encoding, Machine.isDone, turn]

theorem decoding_of_done {session : Standing} (isDone : session.decoder.isDone = true) :
    decoding session = 0 := by
  simp [decoding, isDone]

theorem encoding_of_done {session : Standing} (isDone : session.encoder.isDone = true) :
    encoding session = 0 := by
  simp [encoding, isDone]

def effort (session : Standing) (stage : Stage) : Nat :=
  load session stage + decoding session + encoding session

end Recode.Simulation
