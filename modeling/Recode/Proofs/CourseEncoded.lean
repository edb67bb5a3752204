import Recode.Proofs.CourseSteps

/-!
What the encoder puts out reaches the movie: its configuration first, which opens the movie's track,
then every frame, and last the end.
-/

namespace Recode.Simulation
open Recode.Media Recode.Container Recode.Device Recode.Picture Recode.Progress Recode.Session
open Recode.Session.Work

namespace Course
variable {course : Course} {backdrop : Backdrop} {handled waiting muxed : List Int}
  {session : Standing} {stage : Stage}

theorem run_register (backdrop : Backdrop) (stage : Stage) (accepts : stage.muxer.Accepts)
    (unknown : session.destination = none) (empty : stage.muxer.movie.tracks = [])
    (format : Format) :
    (TranscodePlan.register session format).run backdrop.world (backdrop.desk stage) =
      (.ok { session with destination := some 0 }, backdrop.desk { stage with
        muxer := { stage.muxer with
          movie := { stage.muxer.movie with tracks := [⟨format, false, []⟩] } }
        adds := stage.adds + 1 }) := by
  have added := accepts.addTrack format false
  rw [empty, List.length_nil, List.nil_append] at added
  unfold TranscodePlan.register
  rw [unknown]
  dsimp only
  rw [run_bind, backdrop.run_addTrack stage, added]
  rfl

theorem Follows.configured (follows : course.Follows handled waiting muxed session stage)
    (unsent : stage.encoder.configSent = false) (outputs adds : Nat) (format : Format) :
    course.Follows handled waiting muxed { session with destination := some 0 } { stage with
      encoder := { stage.encoder with configSent := true, nextOutput := outputs }
      muxer := { stage.muxer with
        movie := { stage.muxer.movie with tracks := [⟨format, false, []⟩] } }
      adds } := by
  obtain ⟨-, -, nothing⟩ := follows.outflow.movie.unopened unsent
  refine ⟨{ follows.ready with
        encoder := { follows.ready.encoder with }
        accepts := { follows.ready.accepts with } }, { follows.inflow with }, { follows.drawn with },
    { follows.outflow with movie := ?_ }, follows.seen⟩
  exact ⟨rfl, ⟨format, false, []⟩, rfl, rfl, nothing.symm⟩

theorem Follows.frameWritten (follows : course.Follows handled waiting muxed session stage)
    (sent : stage.encoder.configSent = true) (running : session.encoder.isDone = false)
    {track : MuxedTrack} (only : stage.muxer.movie.tracks = [track]) {time : Int}
    {queue : List EncoderInput} (next : stage.encoder.queue = .frame time :: queue)
    (outputs writes : Nat) (sample : MuxedSample) (same : sample.time = time) :
    course.Follows handled waiting (muxed ++ [time])
      { session with written := session.written + 1 } { stage with
        encoder := { stage.encoder with queue, nextOutput := outputs }
        muxer := { stage.muxer with
          movie := { stage.muxer.movie with
            tracks := [{ track with samples := track.samples ++ [sample] }] }
          written := stage.muxer.written + 1 }
        writes } := by
  obtain ⟨known, other, found, isVideo, times⟩ := follows.outflow.movie.opened sent
  rw [only] at found
  cases found
  refine ⟨{ follows.ready with
        encoder := { follows.ready.encoder with }
        accepts := { follows.ready.accepts with } }, { follows.inflow with }, { follows.drawn with },
    { follows.outflow with queue := ?_, finished := ?_, movie := ?_, written := ?_ }, follows.seen⟩
  · intro _
    have before := follows.outflow.queue running
    rw [next] at before
    rw [← before, List.map_append, List.append_assoc]
    rfl
  · intro isDone
    exact absurd isDone (by simp [running])
  · unfold Muxed
    simp only [sent]
    exact ⟨known, _, rfl, isVideo, by simp [times, same]⟩
  · rw [follows.outflow.written, List.length_append, List.length_singleton]

/-- The end comes out of the encoder only after it was told, and then every frame was written. -/
theorem end_of_queue {written frames : List Int} {queue : List EncoderInput} {told : Bool}
    (same : written.map EncoderInput.frame ++ .endOfStream :: queue =
      frames.map EncoderInput.frame ++ (if told then [.endOfStream] else [])) :
    told = true ∧ written = frames := by
  induction written generalizing frames with
  | nil =>
    cases frames with
    | nil => cases told <;> simp_all
    | cons time later => simp at same
  | cons first rest ih =>
    cases frames with
    | nil => cases told <;> simp at same
    | cons time later =>
      simp only [List.map_cons, List.cons_append, List.cons.injEq, EncoderInput.frame.injEq] at same
      obtain ⟨rfl, same⟩ := same
      obtain ⟨told, rfl⟩ := ih same
      exact ⟨told, rfl⟩

theorem untold_of_empty {written frames : List Int} {told : Bool}
    (same : written.map EncoderInput.frame ++ [] =
      frames.map EncoderInput.frame ++ (if told then [.endOfStream] else [])) : told = false := by
  cases told with
  | false => rfl
  | true =>
    have member : EncoderInput.endOfStream ∈ written.map EncoderInput.frame ++ [] := by
      rw [same]
      simp
    simp at member

theorem effort_encoder {next : Standing} {after : Stage}
    (turn : session.encoder.state = .hasOutput) (decoder : next.decoder = session.decoder)
    (feeding : next.feeding = session.feeding) (pending : next.endPending = session.endPending)
    (demuxer : after.demuxer = stage.demuxer) (same : after.decoder = stage.decoder)
    (lighter : after.encoder.load + encoding next ≤ stage.encoder.load) :
    effort next after < effort session stage := by
  have before := encoding_of_hasOutput turn
  simp only [effort, load, decoding, respite, decoder, feeding, pending, demuxer, same]
  omega

theorem drainEncoder_again (follows : course.Follows handled waiting muxed session stage)
    (turn : session.encoder.state = .hasOutput) (again : 0 < stage.encoder.outputTryAgain) :
    (course.plan.drainEncoder session).Reaches backdrop.world (backdrop.desk stage)
      (course.Proceeds backdrop (effort session stage)) := by
  have idle := follows.ready.encoder
  have polled := run_dequeueOutput
    (backdrop.run_dequeueOutput_encoder stage (idle.dequeueOutput_again again) course.plan.timeout) rfl
  refine reaches_after polled (reaches_pure ⟨_, handled, waiting, muxed, rfl, ?_, ?_⟩)
  · have moved := follows.machines session.decoder session.encoder.onTryAgain rfl
      (Machine.isDone_onTryAgain _) (Machine.inputEnded_onTryAgain _)
    exact ⟨{ moved.ready with encoder := { idle with } }, { moved.inflow with },
      { moved.drawn with }, { moved.outflow with }, moved.seen⟩
  · refine effort_encoder turn rfl rfl rfl rfl rfl ?_
    have after := encoding_le { session with encoder := session.encoder.onTryAgain }
    simp only [Encoder.load]
    omega

theorem run_drainEncoder_buffer (backdrop : Backdrop) {plan : TranscodePlan} {next : Encoder}
    {width height : Nat} (idle : next.Idle width height) {index : Nat} {info : SampleInfo}
    {data : Bytes}
    (answered : stage.encoder.dequeueOutput =
      (.ok (.buffer index info), next.holding index data))
    {stored : Standing} {muxer : Muxer} {adds writes : Nat}
    (ran : (if 1 < info.size then plan.storeEncoded session index info else pure session).run
        backdrop.world (backdrop.desk { stage with encoder := next.holding index data }) =
      (.ok stored, backdrop.desk { stage with
        encoder := next.holding index data, muxer, adds, writes })) :
    (plan.drainEncoder session).run backdrop.world (backdrop.desk stage) =
      (.ok { stored with encoder :=
          if info.flags.isEndOfStream then stored.encoder.onEndOfStream
          else stored.encoder.onOutput },
        backdrop.desk { stage with encoder := next, muxer, adds, writes }) := by
  unfold TranscodePlan.drainEncoder
  rw [run_bind, run_dequeueOutput
    (backdrop.run_dequeueOutput_encoder stage answered plan.timeout) rfl]
  simp only [ite_bind]
  rw [run_bind, ran]
  dsimp only
  rw [run_bind, backdrop.run_releaseOutput_encoder
    { stage with encoder := next.holding index data, muxer, adds, writes }
    (idle.releaseOutput_held index data)]
  rfl

theorem run_storeEncoded_configuration (backdrop : Backdrop) (plan : TranscodePlan)
    (accepts : stage.muxer.Accepts) (unknown : session.destination = none)
    (empty : stage.muxer.movie.tracks = []) (next : Encoder) (index : Nat) :
    ∃ format, (plan.storeEncoded session index ⟨16, 0, 0, .codecConfig⟩).run backdrop.world
        (backdrop.desk { stage with encoder := next.holding index simulatedConfiguration }) =
      (.ok { session with destination := some 0 }, backdrop.desk { stage with
        encoder := next.holding index simulatedConfiguration
        muxer := { stage.muxer with
          movie := { stage.muxer.movie with tracks := [⟨format, false, []⟩] } }
        adds := stage.adds + 1 }) := by
  have whole : (⟨16, 0, 0, .codecConfig⟩ : SampleInfo).slice? simulatedConfiguration =
      some simulatedConfiguration := by decide
  unfold TranscodePlan.storeEncoded
  rw [run_bind, backdrop.run_encodedBuffer
    { stage with encoder := next.holding index simulatedConfiguration }
    (next.outputBuffer_holding index simulatedConfiguration)]
  dsimp only
  rw [run_bind, run_settle_ok]
  simp only [Flags.isCodecConfig_codecConfig, if_true, unknown, Option.isSome_none,
    Bool.false_eq_true, if_false, whole]
  exact ⟨_, run_register backdrop
    { stage with encoder := next.holding index simulatedConfiguration } accepts unknown empty _⟩

theorem drainEncoder_configuration (follows : course.Follows handled waiting muxed session stage)
    (turn : session.encoder.state = .hasOutput) (now : stage.encoder.outputTryAgain = 0)
    (unsent : stage.encoder.configSent = false) :
    (course.plan.drainEncoder session).Reaches backdrop.world (backdrop.desk stage)
      (course.Proceeds backdrop (effort session stage)) := by
  have idle := follows.ready.encoder
  have accepts := follows.ready.accepts
  obtain ⟨unknown, empty, -⟩ := follows.outflow.movie.unopened unsent
  have proceeds (outputs : Nat) (format : Format) :
      course.Proceeds backdrop (effort session stage)
        { session with destination := some 0, encoder := session.encoder.onOutput }
        (backdrop.desk { stage with
          encoder := { stage.encoder with configSent := true, nextOutput := outputs }
          muxer := { stage.muxer with
            movie := { stage.muxer.movie with tracks := [⟨format, false, []⟩] } }
          adds := stage.adds + 1 }) := by
    refine ⟨_, handled, waiting, muxed, rfl, ?_, ?_⟩
    · exact (follows.configured unsent outputs (stage.adds + 1) format).machines session.decoder
        session.encoder.onOutput rfl (Machine.isDone_onOutput _) (Machine.inputEnded_onOutput _)
    · refine effort_encoder turn rfl rfl rfl rfl rfl ?_
      have after := encoding_rearm
        { session with destination := some 0, encoder := session.encoder.onOutput } _ rfl
      simp only [Encoder.load, unsent, Bool.false_eq_true, if_false, if_true]
      omega
  cases first : stage.encoder.faults.formatChangeFirst with
  | true =>
    obtain ⟨format, answered⟩ := idle.dequeueOutput_format now unsent first
    refine reaches_after (run_dequeueOutput
      (backdrop.run_dequeueOutput_encoder stage answered course.plan.timeout) rfl) ?_
    refine reaches_after (run_register backdrop
      { stage with encoder := { stage.encoder with configSent := true } } accepts unknown empty
      format) ?_
    exact reaches_pure (proceeds stage.encoder.nextOutput format)
  | false =>
    have told : { stage.encoder with
        configSent := true, nextOutput := stage.encoder.nextOutput + 1 }.Idle
        course.plan.request.width course.plan.request.height := { idle with }
    obtain ⟨format, stored⟩ := run_storeEncoded_configuration backdrop course.plan accepts unknown
      empty _ stage.encoder.nextOutput
    exact ⟨_, _, run_drainEncoder_buffer backdrop told
      (idle.dequeueOutput_configuration now unsent first) stored,
      proceeds (stage.encoder.nextOutput + 1) format⟩

theorem run_storeEncoded_frame (backdrop : Backdrop) (plan : TranscodePlan)
    (accepts : stage.muxer.Accepts) (known : session.destination = some 0) {track : MuxedTrack}
    (only : stage.muxer.movie.tracks = [track]) (isVideo : track.isAudio = false) {data : Bytes}
    (size : data.size = 13) {flags : Flags} (plain : flags.isCodecConfig = false) (time : Int)
    (next : Encoder) (index : Nat) :
    ∃ sample : MuxedSample, sample.time = time ∧
      (plan.storeEncoded session index ⟨13, 0, time, flags⟩).run backdrop.world
        (backdrop.desk { stage with encoder := next.holding index data }) =
      (.ok { session with written := session.written + 1 }, backdrop.desk { stage with
        encoder := next.holding index data
        muxer := { stage.muxer with
          movie := { stage.muxer.movie with
            tracks := [{ track with samples := track.samples ++ [sample] }] }
          written := stage.muxer.written + 1 }
        writes := stage.writes + 1 }) := by
  have within : (⟨13, 0, time, flags⟩ : SampleInfo).slice? data = some (data.extract 0 13) := by
    unfold SampleInfo.slice?
    exact if_pos (by simp only [SampleInfo.stop]; omega)
  have found : stage.muxer.movie.tracks[0]? = some track := by rw [only]; rfl
  have written := accepts.write found isVideo (Nat.succ_pos 12) within
  rw [only] at written
  refine ⟨⟨time, flags, data.extract 0 13⟩, rfl, ?_⟩
  unfold TranscodePlan.storeEncoded
  rw [run_bind, backdrop.run_encodedBuffer { stage with encoder := next.holding index data }
    (next.outputBuffer_holding index data)]
  dsimp only
  rw [run_bind, run_settle_ok]
  simp only [plain, Bool.false_eq_true, if_false, known]
  rw [run_bind, backdrop.run_write { stage with encoder := next.holding index data }, written]
  rfl

theorem drainEncoder_frame (follows : course.Follows handled waiting muxed session stage)
    (turn : session.encoder.state = .hasOutput) (now : stage.encoder.outputTryAgain = 0)
    (sent : stage.encoder.configSent = true) {time : Int} {queue : List EncoderInput}
    (next : stage.encoder.queue = .frame time :: queue) :
    (course.plan.drainEncoder session).Reaches backdrop.world (backdrop.desk stage)
      (course.Proceeds backdrop (effort session stage)) := by
  have idle := follows.ready.encoder
  have running := Machine.isDone_of_hasOutput turn
  obtain ⟨known, track, only, isVideo, -⟩ := follows.outflow.movie.opened sent
  have shorter : { stage.encoder with
      queue, nextOutput := stage.encoder.nextOutput + 1 }.Idle
      course.plan.request.width course.plan.request.height := { idle with }
  obtain ⟨data, flags, size, plain, goesOn, answered⟩ := idle.dequeueOutput_frame now sent next
  obtain ⟨sample, same, stored⟩ := run_storeEncoded_frame backdrop course.plan
    follows.ready.accepts known only isVideo size plain time _ stage.encoder.nextOutput
  refine ⟨_, _, run_drainEncoder_buffer backdrop shorter answered stored, _, handled, waiting,
    muxed ++ [time], rfl, ?_, ?_⟩
  · simp only [goesOn, Bool.false_eq_true, if_false]
    exact (follows.frameWritten sent running only next (stage.encoder.nextOutput + 1)
      (stage.writes + 1) sample same).machines session.decoder session.encoder.onOutput rfl
        (Machine.isDone_onOutput _) (Machine.inputEnded_onOutput _)
  · simp only [goesOn, Bool.false_eq_true, if_false]
    refine effort_encoder turn rfl rfl rfl rfl rfl ?_
    have after := encoding_rearm { session with
      written := session.written + 1, encoder := session.encoder.onOutput } _ rfl
    simp only [Encoder.load, next, List.length_cons]
    omega

theorem drainEncoder_end (follows : course.Follows handled waiting muxed session stage)
    (turn : session.encoder.state = .hasOutput) (now : stage.encoder.outputTryAgain = 0)
    (sent : stage.encoder.configSent = true) {queue : List EncoderInput}
    (next : stage.encoder.queue = .endOfStream :: queue) :
    (course.plan.drainEncoder session).Reaches backdrop.world (backdrop.desk stage)
      (course.Proceeds backdrop (effort session stage)) := by
  have idle := follows.ready.encoder
  have running := Machine.isDone_of_hasOutput turn
  have outflow := follows.outflow
  obtain ⟨inputEnded, all⟩ := end_of_queue (next ▸ outflow.queue running)
  have shorter : { stage.encoder with
      queue, nextOutput := stage.encoder.nextOutput + 1 }.Idle
      course.plan.request.width course.plan.request.height := { idle with }
  refine ⟨_, _, run_drainEncoder_buffer backdrop shorter (idle.dequeueOutput_end now sent next)
    rfl, _, handled, waiting, muxed, rfl, ?_, ?_⟩
  · refine ⟨{ follows.ready with encoder := shorter }, { follows.inflow with },
      { follows.drawn with }, ?_, follows.seen⟩
    refine { outflow with told := ?_, queue := nofun, ended := fun _ => rfl, finished := ?_ }
    · exact inputEnded.symm.trans outflow.told
    · exact fun _ => all
  · refine effort_encoder turn rfl rfl rfl rfl rfl ?_
    have after : encoding { session with encoder := session.encoder.onEndOfStream } = 0 :=
      encoding_of_done rfl
    simp only [Flags.isEndOfStream_endOfStream, if_true, Encoder.load, next, List.length_cons]
    omega

theorem drainEncoder_empty (follows : course.Follows handled waiting muxed session stage)
    (turn : session.encoder.state = .hasOutput) (now : stage.encoder.outputTryAgain = 0)
    (sent : stage.encoder.configSent = true) (empty : stage.encoder.queue = []) :
    (course.plan.drainEncoder session).Reaches backdrop.world (backdrop.desk stage)
      (course.Proceeds backdrop (effort session stage)) := by
  have idle := follows.ready.encoder
  have running := Machine.isDone_of_hasOutput turn
  have untold := untold_of_empty (empty ▸ follows.outflow.queue running)
  refine reaches_after (run_dequeueOutput (backdrop.run_dequeueOutput_encoder stage
    (idle.dequeueOutput_empty now sent empty) course.plan.timeout) rfl) ?_
  refine reaches_pure ⟨stage, handled, waiting, muxed, rfl, ?_, ?_⟩
  · exact follows.machines session.decoder session.encoder.onTryAgain rfl
      (Machine.isDone_onTryAgain _) (Machine.inputEnded_onTryAgain _)
  · refine effort_encoder turn rfl rfl rfl rfl rfl ?_
    have waits := Machine.state_onTryAgain running
    simp [encoding, untold, waits]

theorem drainEncoder_proceeds (follows : course.Follows handled waiting muxed session stage)
    (turn : session.encoder.state = .hasOutput) :
    (course.plan.drainEncoder session).Reaches backdrop.world (backdrop.desk stage)
      (course.Proceeds backdrop (effort session stage)) := by
  by_cases again : 0 < stage.encoder.outputTryAgain
  · exact drainEncoder_again follows turn again
  · have now : stage.encoder.outputTryAgain = 0 := by omega
    cases sent : stage.encoder.configSent with
    | false => exact drainEncoder_configuration follows turn now sent
    | true =>
      cases next : stage.encoder.queue with
      | nil => exact drainEncoder_empty follows turn now sent next
      | cons input queue =>
        cases input with
        | frame time => exact drainEncoder_frame follows turn now sent next
        | endOfStream => exact drainEncoder_end follows turn now sent next

end Course

end Recode.Simulation
