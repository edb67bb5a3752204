import Recode.Proofs.CourseSteps

/-!
What the decoder puts out is drawn and given to the encoder, if the window keeps it. A picture is
lost only where a raw encoder has no buffer for it, and is counted then.
-/

namespace Recode.Picture

theorem Transform.await_waiting {transform : Transform} (unreleased : transform.released = false)
    (image : Image) (queue : List Image) :
    { transform with queue := image :: queue }.await =
      (.ok (), { transform with queue, latched := some image }) := by
  unfold await
  exact if_neg (by simp [unreleased])

theorem Transform.drawLatched_ok {transform : Transform} {image : Image}
    (latched : transform.latched = some image) (whole : image.isWhole = true) :
    transform.drawLatched = .ok ⟨transform.spec.width, transform.spec.height,
      drawnPixels image transform.spec.width transform.spec.height transform.spec.rotation⟩ := by
  unfold drawLatched
  rw [latched]
  exact if_pos whole

end Recode.Picture

namespace Recode.Simulation
open Recode.Media Recode.Container Recode.Device Recode.Picture Recode.Progress Recode.Session
open Recode.Session.Work

namespace Course
variable {course : Course} {backdrop : Backdrop} {handled waiting muxed : List Int} {time : Int}
  {session : Standing} {stage : Stage}

theorem run_submit_surface (backdrop : Backdrop) (ready : course.Ready stage)
    (surfaceInput : course.plan.surfaceInput = true) {image : Image}
    (latched : stage.transform.latched = some image) (whole : image.isWhole = true)
    (presents : course.plan.Presents time) :
    ∃ log surface, log.encoderFrames = stage.log.encoderFrames ∧
      surface.Takes course.plan.request.width course.plan.request.height ∧
      (course.plan.submit time).run backdrop.world (backdrop.desk stage) =
        (.ok true, backdrop.desk { stage with
          encoder := (stage.encoder.enqueueFrame time log).1
          surface := some surface
          log := (stage.encoder.enqueueFrame time log).2 }) := by
  obtain ⟨surface, drawnOn, takes⟩ := ready.surface surfaceInput
  have drawn := Transform.drawLatched_ok latched whole
  rw [ready.width, ready.height] at drawn
  have presented : (stage.surface.map (·.presentAt (nanoseconds time))) =
      some (surface.presentAt (nanoseconds time)) := by
    rw [drawnOn]
    rfl
  have swapped (pixels : Bytes) := takes.swap stage.encoder pixels (nanoseconds time) stage.log
  simp only [(presents surfaceInput).tdiv_nanoseconds] at swapped
  let size := (course.plan.request.width, course.plan.request.height)
  refine ⟨{ stage.log with lastSurfaceFrame := some size }, _, rfl,
    takes.presentAt (nanoseconds time), ?_⟩
  unfold TranscodePlan.submit
  rw [if_pos surfaceInput, run_bind, backdrop.run_drawImage, drawn]
  dsimp only
  rw [run_bind, run_settle_ok]
  dsimp only
  rw [run_bind, backdrop.run_presentAt]
  dsimp only
  rw [run_bind, backdrop.run_swap
    { stage with surface := stage.surface.map (·.presentAt (nanoseconds time)) } presented
    (swapped _)]
  dsimp only
  rw [presented]
  rfl

theorem run_submit_raw_again (backdrop : Backdrop) (ready : course.Ready stage)
    (raw : course.plan.surfaceInput = false) (again : 0 < stage.encoder.inputTryAgain)
    (time : Int) :
    (course.plan.submit time).run backdrop.world (backdrop.desk stage) =
      (.ok false, backdrop.desk { stage with
        encoder := { stage.encoder with inputTryAgain := stage.encoder.inputTryAgain - 1 } }) := by
  unfold TranscodePlan.submit
  rw [if_neg (by simp [raw])]
  rcases dequeueInput_encoder backdrop ready raw with ⟨-, polled⟩ | ⟨now, -⟩
  · rw [run_bind, polled]
    rfl
  · exact absurd again (by omega)

theorem run_submit_raw (backdrop : Backdrop) (ready : course.Ready stage)
    (raw : course.plan.surfaceInput = false) (now : stage.encoder.inputTryAgain = 0)
    {image : Image} (latched : stage.transform.latched = some image)
    (whole : image.isWhole = true) (time : Int) :
    ∃ log written, log.encoderFrames = stage.log.encoderFrames ∧
      (course.plan.submit time).run backdrop.world (backdrop.desk stage) =
        (.ok true, backdrop.desk { stage with
          encoder := ((stage.encoder.filled written).enqueueFrame time log).1
          log := ((stage.encoder.filled written).enqueueFrame time log).2 }) := by
  have idle := ready.encoder
  obtain ⟨size, layout, format, fits⟩ := ready.convertible raw
  have drawn := Transform.drawLatched_ok latched whole
  rw [ready.width, ready.height] at drawn
  have room := (stage.encoder.slots.size_content 0).trans idle.capacity
  obtain ⟨⟨written, content⟩, converted⟩ := convert_ok course.plan.profile.swapChroma
    (size_drawnPixels image course.plan.request.width course.plan.request.height
      stage.transform.spec.rotation) format (room ▸ fits)
  refine ⟨{ stage.log with rawInputSizes :=
    stage.log.rawInputSizes ++ [course.plan.profile.bufferSize] }, content, rfl, ?_⟩
  unfold TranscodePlan.submit
  rw [if_neg (by simp [raw])]
  rcases dequeueInput_encoder backdrop ready raw with ⟨again, -⟩ | ⟨-, polled⟩
  · exact absurd now (by omega)
  · rw [run_bind, polled]
    dsimp only
    rw [run_bind, backdrop.run_drawImage, drawn]
    dsimp only
    rw [run_bind, run_settle_ok]
    dsimp only
    rw [run_bind, backdrop.run_inputBuffer_encoder
      { stage with encoder := stage.encoder.lent } idle.inputBuffer_lent]
    dsimp only
    rw [run_bind, run_settle_ok]
    dsimp only
    rw [converted]
    show (settle (Except.ok (written, content)) >>= _).run _ _ = _
    rw [run_bind, run_settle_ok]
    dsimp only
    rw [run_bind, backdrop.run_queueInput_encoder { stage with encoder := stage.encoder.lent }
      (idle.queueInput_frame content ⟨course.plan.profile.bufferSize, 0, time, .none⟩ size
        Flags.isEndOfStream_none stage.log)]
    rfl

theorem Follows.passed (follows : course.Follows handled (time :: waiting) muxed session stage)
    (running : session.decoder.isDone = false) (going : course.plan.window.hasEnded time = false)
    (before : course.plan.window.isBeforeStart time = true) :
    course.Follows handled waiting muxed { session with decodedTime := time }
      { stage with decoder := stage.decoder.past } := by
  have inflow : course.Inflow (handled ++ []) waiting { session with decodedTime := time }
      { stage with decoder := stage.decoder.past } :=
    follows.inflow.past running (fun later => Window.kept_cons_of_before later going before)
      rfl rfl rfl rfl
  rw [List.append_nil] at inflow
  exact ⟨{ follows.ready with decoder := follows.ready.decoder.past }, inflow,
    { follows.drawn with }, { follows.outflow with }, follows.seen⟩

theorem Follows.presents (follows : course.Follows handled (time :: waiting) muxed session stage)
    (running : session.decoder.isDone = false) (admits : course.plan.window.admits time = true) :
    course.plan.Presents time := by
  apply follows.ready.presents
  rw [follows.inflow.coming running, List.cons_append, Window.kept_cons_of_admits _ admits]
  exact List.mem_append_right _ List.mem_cons_self

theorem Follows.rendered (follows : course.Follows handled (time :: waiting) muxed session stage)
    (running : session.decoder.isDone = false) (admits : course.plan.window.admits time = true)
    (enough : course.lost ≤ handled.length) {log : Log}
    (same : log.encoderFrames = stage.log.encoderFrames) {surface : Option Surface}
    (takes : course.plan.surfaceInput = true → ∃ next, surface = some next ∧
      next.Takes course.plan.request.width course.plan.request.height) (latched : Option Image) :
    course.Follows (handled ++ [time]) waiting muxed
      { session with
        decodedTime := time
        firstTime := session.firstTime.or (some time)
        rendered := session.rendered + 1 }
      { stage with
        decoder := stage.decoder.past
        encoder := (stage.encoder.enqueueFrame time log).1
        surface
        transform := { stage.transform with queue := [], latched }
        log := (stage.encoder.enqueueFrame time log).2 } := by
  have drawn := follows.drawn
  have outflow := follows.outflow
  have untold := outflow.untold running
  have undone := outflow.running untold
  refine ⟨{ follows.ready with
      decoder := follows.ready.decoder.past
      encoder := { follows.ready.encoder with }
      surface := takes },
    follows.inflow.past running (fun later => Window.kept_cons_of_admits later admits) rfl rfl rfl
      rfl,
    ⟨?_, ?_, ?_, ?_, ?_, drawn.none_lost⟩,
    { outflow with queue := ?_, finished := ?_ }, rfl⟩
  · show log.encoderFrames ++ [time] = (handled ++ [time]).drop course.lost
    rw [same, drawn.frames, List.drop_append_of_le_length enough]
  · show session.rendered + 1 = (log.encoderFrames ++ [time]).length
    rw [same, drawn.rendered, List.length_append, List.length_singleton]
  · show session.dropped = min course.lost (handled ++ [time]).length
    rw [drawn.dropped, List.length_append]
    omega
  · show session.firstTime.or (some time) = (log.encoderFrames ++ [time]).head?
    rw [same, drawn.firstTime, List.head?_append]
    rfl
  · intro raw _
    have again := drawn.again raw running
    show stage.encoder.inputTryAgain = course.lost - (handled ++ [time]).length
    rw [List.length_append]
    omega
  · intro _
    have frames := outflow.frames_eq untold
    show _ ++ (stage.encoder.queue ++ [.frame time]) = (log.encoderFrames ++ [time]).map _ ++ _
    rw [← List.append_assoc, frames, same, untold]
    simp
  · intro isDone
    exact absurd isDone (by simp [undone])

theorem Follows.dropped (follows : course.Follows handled (time :: waiting) muxed session stage)
    (running : session.decoder.isDone = false) (admits : course.plan.window.admits time = true)
    (raw : course.plan.surfaceInput = false) (again : 0 < stage.encoder.inputTryAgain)
    (latched : Option Image) :
    course.Follows (handled ++ [time]) waiting muxed
      { session with decodedTime := time, dropped := session.dropped + 1 }
      { stage with
        decoder := stage.decoder.past
        encoder := { stage.encoder with inputTryAgain := stage.encoder.inputTryAgain - 1 }
        transform := { stage.transform with queue := [], latched } } := by
  have drawn := follows.drawn
  have left := drawn.again raw running
  refine ⟨{ follows.ready with
      decoder := follows.ready.decoder.past
      encoder := { follows.ready.encoder with } },
    follows.inflow.past running (fun later => Window.kept_cons_of_admits later admits) rfl rfl rfl
      rfl,
    ⟨?_, drawn.rendered, ?_, drawn.firstTime, ?_, drawn.none_lost⟩,
    { follows.outflow with }, rfl⟩
  · rw [drawn.frames, List.drop_eq_nil_of_le (by omega), List.drop_eq_nil_of_le]
    rw [List.length_append, List.length_singleton]
    omega
  · show session.dropped + 1 = min course.lost (handled ++ [time]).length
    rw [drawn.dropped, List.length_append, List.length_singleton]
    omega
  · intro _ _
    show stage.encoder.inputTryAgain - 1 = course.lost - (handled ++ [time]).length
    rw [List.length_append, List.length_singleton]
    omega

theorem Follows.decoderEnded (follows : course.Follows handled waiting muxed session stage)
    (running : session.decoder.isDone = false) (all : course.whole = handled) (time : Int) :
    course.Follows handled waiting muxed
      { session with
        decoder := session.decoder.onEndOfStream
        feeding := false
        endPending := true
        decodedTime := time }
      { stage with decoder := stage.decoder.past } := by
  exact ⟨{ follows.ready with decoder := follows.ready.decoder.past },
    ⟨nofun, nofun, nofun, nofun, fun _ => all⟩,
    { follows.drawn with again := nofun },
    { follows.outflow with
      told := follows.outflow.untold running, pending := fun _ => rfl }, follows.seen⟩

/-- A picture that came out makes up for what its frame costs the encoder. -/
theorem load_past {first : Int × Bool} {later : List (Int × Bool)}
    (oldest : stage.decoder.pending = first :: later) {next : Standing} {after : Stage}
    (feeding : next.feeding = session.feeding) (pending : next.endPending = session.endPending)
    (demuxer : after.demuxer = stage.demuxer) (past : after.decoder = stage.decoder.past)
    (encoder : after.encoder.load ≤ stage.encoder.load + 1) :
    load next after + 2 ≤ load session stage := by
  have respite := respite_le next stage.decoder.past
  have lighter := Decoder.load_past oldest
  simp only [load, feeding, pending, demuxer, past, lighter]
  omega

theorem renderFrame_shows (follows : course.Follows handled (time :: waiting) muxed session stage)
    (running : session.decoder.isDone = false) (admits : course.plan.window.admits time = true) :
    (course.plan.renderFrame { session with decodedTime := time } time).Reaches backdrop.world
      (backdrop.desk { stage with
        decoder := stage.decoder.past
        transform := { stage.transform with queue := [stage.decoder.picture time] } })
      (course.Shows backdrop 2 (load session stage)) := by
  obtain ⟨later, oldest⟩ := follows.inflow.oldest running
  have whole := follows.ready.decoder.isWhole_picture time
  have awaited := Transform.await_waiting follows.ready.transform (stage.decoder.picture time) []
  have ready : course.Ready { stage with
      decoder := stage.decoder.past
      transform := { stage.transform with
        queue := [], latched := some (stage.decoder.picture time) } } :=
    { follows.ready with decoder := follows.ready.decoder.past }
  unfold TranscodePlan.renderFrame
  refine reaches_after (backdrop.run_awaitImage { stage with
    decoder := stage.decoder.past
    transform := { stage.transform with queue := [stage.decoder.picture time] } }) ?_
  rw [awaited]
  dsimp only
  cases raw : course.plan.surfaceInput with
  | true =>
    obtain ⟨log, surface, same, takes, ran⟩ :=
      run_submit_surface backdrop ready raw rfl whole (follows.presents running admits)
    have enough : course.lost ≤ handled.length := by
      have none_lost := follows.drawn.none_lost raw
      omega
    exact reaches_after ran (reaches_pure ⟨_, handled ++ [time], waiting, muxed, rfl,
      follows.rendered running admits enough same (fun _ => ⟨surface, rfl, takes⟩) _,
      load_past oldest rfl rfl rfl rfl (Nat.le_of_eq (stage.encoder.load_enqueueFrame time log))⟩)
  | false =>
    by_cases again : 0 < stage.encoder.inputTryAgain
    · refine reaches_after (run_submit_raw_again backdrop ready raw again time)
        (reaches_pure ⟨_, handled ++ [time], waiting, muxed, rfl,
          follows.dropped running admits raw again _, load_past oldest rfl rfl rfl rfl ?_⟩)
      simp only [Encoder.load]
      omega
    · have now : stage.encoder.inputTryAgain = 0 := by omega
      obtain ⟨log, written, same, ran⟩ := run_submit_raw backdrop ready raw now rfl whole time
      have enough : course.lost ≤ handled.length := by
        have left := follows.drawn.again raw running
        omega
      exact reaches_after ran (reaches_pure ⟨_, handled ++ [time], waiting, muxed, rfl,
        (follows.encoderFilled written).rendered running admits enough same
          follows.ready.surface _,
        load_past oldest rfl rfl rfl rfl (Nat.le_of_eq (stage.encoder.load_enqueueFrame time log))⟩)

theorem load_decoderEnded (session : Standing) {first : Int × Bool} {later : List (Int × Bool)}
    (oldest : stage.decoder.pending = first :: later) (time : Int) :
    load { session with
        decoder := session.decoder.onEndOfStream
        feeding := false
        endPending := true
        decodedTime := time } { stage with decoder := stage.decoder.past } + 3 ≤
      load session stage := by
  have lighter := Decoder.load_past oldest
  have silent : respite { session with
      decoder := session.decoder.onEndOfStream
      feeding := false
      endPending := true
      decodedTime := time } stage.decoder.past = 0 := respite_done rfl _
  simp only [load, lighter, silent, Bool.false_eq_true, if_false, if_true]
  omega

theorem run_release_unseen (backdrop : Backdrop) {next : Decoder} {capacity : Nat}
    (idle : next.Idle capacity) (stage : Stage) (index : Nat) (time : Int) :
    (device (.releaseOutput .decoder index false)).run backdrop.world
        (backdrop.desk { stage with decoder := next.holding index time }) =
      (.ok (.ok ()), backdrop.desk { stage with decoder := next }) := by
  have released := backdrop.run_releaseOutput_decoder
    { stage with decoder := next.holding index time } (idle.releaseOutput_held index time false)
  simpa using released

theorem handleDecoded_end (follows : course.Follows handled waiting muxed session stage)
    (running : session.decoder.isDone = false) (all : course.whole = handled)
    {first : Int × Bool} {later : List (Int × Bool)}
    (oldest : stage.decoder.pending = first :: later) (index : Nat) (held : Int)
    {info : SampleInfo}
    (unseen : (course.plan.isPicture info && course.plan.window.admits info.time) = false)
    (feeding : (session.feeding && !course.plan.window.hasEnded info.time) = false)
    (last : (course.plan.window.hasEnded info.time || info.flags.isEndOfStream) = true) :
    (course.plan.handleDecoded session index info).Reaches backdrop.world
      (backdrop.desk { stage with decoder := stage.decoder.past.holding index held })
      fun next left => next.decoder = session.decoder.onEndOfStream ∧
        course.Shows backdrop 5 (load session stage) next left := by
  unfold TranscodePlan.handleDecoded
  dsimp only
  rw [unseen]
  apply reaches_after (run_release_unseen backdrop follows.ready.decoder.past stage index held)
  apply reaches_settle rfl
  rw [if_neg (by simp), pure_bind, if_pos last, feeding]
  have ended := follows.decoderEnded running all info.time
  apply (signalEnd_shows ended rfl).imp
  intro next left told
  obtain ⟨decoder, -, after, handled, waiting, muxed, same, later, light⟩ := told
  have before := load_decoderEnded session oldest info.time
  exact ⟨decoder, after, handled, waiting, muxed, same, later, by omega⟩

theorem handleDecoded_admitted
    (follows : course.Follows handled (time :: waiting) muxed session stage)
    (running : session.decoder.isDone = false) (admits : course.plan.window.admits time = true)
    (index : Nat) {info : SampleInfo} (at_time : info.time = time) (full : info.size ≠ 0)
    (goesOn : info.flags.isEndOfStream = false) :
    (course.plan.handleDecoded session index info).Reaches backdrop.world
      (backdrop.desk { stage with decoder := stage.decoder.past.holding index time })
      fun next left => ∃ rendered, next = { rendered with decoder := rendered.decoder.onOutput } ∧
        course.Shows backdrop 2 (load session stage) rendered left := by
  subst at_time
  have going : course.plan.window.hasEnded info.time = false := by
    simp only [Window.admits, Bool.and_eq_true, Bool.not_eq_true'] at admits
    exact admits.2
  have seen : course.plan.isPicture info = true := by
    simp [TranscodePlan.isPicture, full]
  have released := backdrop.run_releaseOutput_decoder
    { stage with decoder := stage.decoder.past.holding index info.time }
    (follows.ready.decoder.past.releaseOutput_held index info.time true)
  simp only [if_true, follows.seen, Option.toList_some, List.nil_append] at released
  unfold TranscodePlan.handleDecoded
  dsimp only
  rw [seen, admits, Bool.and_true]
  simp only [going, goesOn, Bool.not_false, Bool.and_true, Bool.or_self, Bool.false_eq_true,
    if_true, if_false]
  refine reaches_after released (reaches_settle rfl (reaches_bind ?_))
  exact (renderFrame_shows follows running admits).imp fun rendered left shows =>
    reaches_pure ⟨rendered, rfl, shows⟩

theorem handleDecoded_before
    (follows : course.Follows handled (time :: waiting) muxed session stage)
    (running : session.decoder.isDone = false) (going : course.plan.window.hasEnded time = false)
    (before : course.plan.window.isBeforeStart time = true)
    (index : Nat) {info : SampleInfo} (at_time : info.time = time)
    (goesOn : info.flags.isEndOfStream = false) :
    (course.plan.handleDecoded session index info).Reaches backdrop.world
      (backdrop.desk { stage with decoder := stage.decoder.past.holding index time })
      fun next left => ∃ passed, next = { passed with decoder := passed.decoder.onOutput } ∧
        course.Shows backdrop 2 (load session stage) passed left := by
  subst at_time
  obtain ⟨later, oldest⟩ := follows.inflow.oldest running
  have unseen : course.plan.window.admits info.time = false := by
    simp [Window.admits, before]
  unfold TranscodePlan.handleDecoded
  dsimp only
  rw [unseen, Bool.and_false]
  simp only [going, goesOn, Bool.not_false, Bool.and_true, Bool.or_self, Bool.false_eq_true,
    if_false, pure_bind]
  refine reaches_after (run_release_unseen backdrop follows.ready.decoder.past stage index info.time)
    (reaches_settle rfl ?_)
  exact reaches_pure ⟨_, rfl, _, handled, waiting, muxed, rfl,
    follows.passed running going before, load_past oldest rfl rfl rfl rfl (Nat.le_succ _)⟩

theorem decoding_onTryAgain (running : session.decoder.isDone = false) :
    decoding { session with decoder := session.decoder.onTryAgain } =
      if session.feeding then 0 else 3 := by
  have waits := Machine.state_onTryAgain running
  simp [decoding, running, waits]

theorem drainDecoder_nothing (follows : course.Follows handled waiting muxed session stage)
    (turn : session.decoder.state = .hasOutput) {answer : Except Error OutputStatus} {next : Decoder}
    (polled : stage.decoder.dequeueOutput = (answer, next))
    (granted : retried .tryAgainLater answer = .ok .tryAgainLater)
    (idle : next.Idle course.capacity) (pending : next.pending = stage.decoder.pending)
    (lighter : next.load + respite session next + (if session.feeding then 0 else 3) ≤
      stage.decoder.load + respite session stage.decoder) :
    (course.plan.drainDecoder session).Reaches backdrop.world (backdrop.desk stage)
      (course.Proceeds backdrop (effort session stage)) := by
  have running := Machine.isDone_of_hasOutput turn
  refine reaches_after (run_dequeueOutput
    (backdrop.run_dequeueOutput_decoder stage polled course.plan.timeout) granted) ?_
  refine reaches_pure ⟨_, handled, waiting, muxed, rfl, ?_, ?_⟩
  · have moved := follows.machines session.decoder.onTryAgain session.encoder
      (Machine.isDone_onTryAgain _) rfl rfl
    refine ⟨{ moved.ready with decoder := idle }, { moved.inflow with pending := ?_ },
      { moved.drawn with }, { moved.outflow with }, moved.seen⟩
    intro still
    exact pending.trans (moved.inflow.pending still)
  · have before := decoding_of_hasOutput turn
    have after := decoding_onTryAgain running
    have same : respite { session with decoder := session.decoder.onTryAgain } next =
        respite session next := by simp [respite]
    have encoder : encoding { session with decoder := session.decoder.onTryAgain } =
        encoding session := rfl
    simp only [effort, load, after, same, encoder]
    omega

theorem drainDecoder_format (follows : course.Follows handled waiting muxed session stage)
    (turn : session.decoder.state = .hasOutput) (now : stage.decoder.outputTryAgain = 0)
    (unreported : stage.decoder.formatReported = false) :
    (course.plan.drainDecoder session).Reaches backdrop.world (backdrop.desk stage)
      (course.Proceeds backdrop (effort session stage)) := by
  have idle := follows.ready.decoder
  have shows : course.Shows backdrop 2 (load session stage) session (backdrop.desk { stage with
      decoder := { stage.decoder with formatReported := true } }) := by
    refine ⟨_, handled, waiting, muxed, rfl, ⟨{ follows.ready with decoder := { idle with } },
      { follows.inflow with }, { follows.drawn with }, { follows.outflow with }, follows.seen⟩, ?_⟩
    have same : respite session { stage.decoder with formatReported := true } =
      respite session stage.decoder := rfl
    simp only [load, Decoder.load, same, unreported, Bool.false_eq_true, if_false, if_true]
    omega
  refine reaches_after (run_dequeueOutput (backdrop.run_dequeueOutput_decoder stage
    (idle.dequeueOutput_format now unreported) course.plan.timeout) rfl) ?_
  refine reaches_pure (shows.rearm ?_)
  have before := decoding_of_hasOutput turn
  unfold effort
  split <;> omega

theorem ended_proceeds (turn : session.decoder.state = .hasOutput) (next : Standing)
    (left : Desk (Rig Bench)) (dealt : next.decoder = session.decoder.onEndOfStream ∧
      course.Shows backdrop 5 (load session stage) next left) :
    (pure { next with encoder := next.encoder.rearm } : Work _ _).Reaches backdrop.world left
      (course.Proceeds backdrop (effort session stage)) := by
  obtain ⟨ended, shows⟩ := dealt
  have before := decoding_of_hasOutput turn
  have after : decoding next = 0 := decoding_of_done (by rw [ended]; rfl)
  refine reaches_pure (shows.proceeds next.decoder rfl ?_)
  show load session stage + decoding next + 1 < _
  unfold effort
  omega

theorem drainDecoder_picture
    (follows : course.Follows handled (time :: waiting) muxed session stage)
    (turn : session.decoder.state = .hasOutput) (now : stage.decoder.outputTryAgain = 0)
    (reported : stage.decoder.formatReported = true) (speaks : stage.decoder.skips = false) :
    (course.plan.drainDecoder session).Reaches backdrop.world (backdrop.desk stage)
      (course.Proceeds backdrop (effort session stage)) := by
  have idle := follows.ready.decoder
  have running := Machine.isDone_of_hasOutput turn
  have before := decoding_of_hasOutput turn
  obtain ⟨later, oldest⟩ := follows.inflow.oldest running
  have full := idle.pictureSize_ne_zero
  have drawn (next : Standing) (left : Desk (Rig Bench)) (dealt : ∃ after,
      next = { after with decoder := after.decoder.onOutput } ∧
        course.Shows backdrop 2 (load session stage) after left) :
      (pure { next with encoder := next.encoder.rearm } : Work _ _).Reaches backdrop.world left
        (course.Proceeds backdrop (effort session stage)) := by
    obtain ⟨after, rfl, shows⟩ := dealt
    refine reaches_pure (shows.rearm ?_)
    unfold effort
    split <;> omega
  refine reaches_after (run_dequeueOutput (backdrop.run_dequeueOutput_decoder stage
    (idle.dequeueOutput_buffer now reported speaks oldest) course.plan.timeout) rfl)
    (reaches_bind ?_)
  cases ended : course.plan.window.hasEnded time with
  | true =>
    have all : course.whole = handled := by
      rw [follows.inflow.coming running, List.cons_append, Window.kept_cons_of_ended _ ended,
        List.append_nil]
    refine (handleDecoded_end follows running all oldest stage.decoder.nextOutput time ?_ ?_
      ?_).imp (ended_proceeds turn)
    · simp [Window.admits, ended]
    · simp [ended]
    · simp [ended]
  | false =>
    cases early : course.plan.window.isBeforeStart time with
    | true =>
      exact (handleDecoded_before follows running ended early stage.decoder.nextOutput rfl
        Flags.isEndOfStream_none).imp drawn
    | false =>
      have admits : course.plan.window.admits time = true := by
        simp [Window.admits, early, ended]
      exact (handleDecoded_admitted follows running admits stage.decoder.nextOutput rfl full
        Flags.isEndOfStream_none).imp drawn

theorem drainDecoder_end (follows : course.Follows handled [] muxed session stage)
    (turn : session.decoder.state = .hasOutput) (fed : session.feeding = false)
    (now : stage.decoder.outputTryAgain = 0) (reported : stage.decoder.formatReported = true)
    (speaks : stage.decoder.skips = false) :
    (course.plan.drainDecoder session).Reaches backdrop.world (backdrop.desk stage)
      (course.Proceeds backdrop (effort session stage)) := by
  have idle := follows.ready.decoder
  have inflow := follows.inflow
  have running := Machine.isDone_of_hasOutput turn
  have oldest : stage.decoder.pending = (0, true) :: [] := by
    rw [inflow.pending running, fed]
    rfl
  have all : course.whole = handled := by
    rw [inflow.coming running, inflow.exhausted running fed, List.append_nil, Window.kept_nil,
      List.append_nil]
  refine reaches_after (run_dequeueOutput (backdrop.run_dequeueOutput_decoder stage
    (idle.dequeueOutput_buffer now reported speaks oldest) course.plan.timeout) rfl)
    (reaches_bind ?_)
  refine (handleDecoded_end follows running all oldest stage.decoder.nextOutput 0 ?_ ?_ ?_).imp
    (ended_proceeds turn)
  · simp [TranscodePlan.isPicture]
  · simp [fed]
  · simp

theorem drainDecoder_proceeds (follows : course.Follows handled waiting muxed session stage)
    (turn : session.decoder.state = .hasOutput) :
    (course.plan.drainDecoder session).Reaches backdrop.world (backdrop.desk stage)
      (course.Proceeds backdrop (effort session stage)) := by
  have idle := follows.ready.decoder
  have running := Machine.isDone_of_hasOutput turn
  by_cases again : 0 < stage.decoder.outputTryAgain
  · apply drainDecoder_nothing follows turn (idle.dequeueOutput_again again) rfl { idle with } rfl
    have same : respite session { stage.decoder with
        outputTryAgain := stage.decoder.outputTryAgain - 1 } = respite session stage.decoder := rfl
    have few : (if session.feeding then 0 else 3) ≤ 3 := by split <;> omega
    simp only [Decoder.load, same]
    omega
  have now : stage.decoder.outputTryAgain = 0 := by omega
  cases reported : stage.decoder.formatReported with
  | false => exact drainDecoder_format follows turn now reported
  | true =>
    cases speaks : stage.decoder.skips with
    | true =>
      refine drainDecoder_nothing follows turn (idle.dequeueOutput_skip now reported speaks) rfl
        { idle with } rfl ?_
      have next := Decoder.skips_next speaks
      have same : { stage.decoder with polls := stage.decoder.polls + 1 }.load =
        stage.decoder.load := rfl
      rw [same, respite_of_skips running next, respite_of_skips running speaks]
      cases session.feeding <;> simp
    | false =>
      cases waiting with
      | cons time waiting => exact drainDecoder_picture follows turn now reported speaks
      | nil =>
        cases feeding : session.feeding with
        | false => exact drainDecoder_end follows turn feeding now reported speaks
        | true =>
          have empty : stage.decoder.pending = [] := by
            rw [follows.inflow.pending running, feeding]
            rfl
          refine drainDecoder_nothing follows turn
            (idle.dequeueOutput_nothing now reported speaks empty) rfl { idle with } rfl ?_
          have same : { stage.decoder with polls := stage.decoder.polls + 1 }.load =
            stage.decoder.load := rfl
          rw [same, feeding, respite_feeding running feeding, respite_feeding running feeding]
          simp

end Course

end Recode.Simulation
