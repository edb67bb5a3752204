import Recode.Proofs.Course

/-!
The steps of a transcode on a simulated rig go through, keep the course and leave less to do. Here a
cycle begins: the decoder is fed, or the encoder is told of the end, and both are to be polled again.
-/

namespace Recode.Simulation
open Recode.Media Recode.Container Recode.Device Recode.Picture Recode.Progress Recode.Session
open Recode.Session.Work

section
variable {σ : Type} {world : World σ} {desk left : Desk σ} {plan : TranscodePlan} {side : Side}

theorem run_dequeueInput {answer : Except Error (Option Nat)} {slot : Option Nat}
    (ran : (device (.dequeueInput side plan.timeout)).run world desk = (.ok answer, left))
    (granted : retried none answer = .ok slot) :
    (plan.dequeueInput side).run world desk = (.ok slot, left) := by
  unfold TranscodePlan.dequeueInput
  rw [run_bind, ran]
  simp only [granted, run_settle_ok]

theorem run_dequeueOutput {answer : Except Error OutputStatus} {status : OutputStatus}
    (ran : (device (.dequeueOutput side plan.timeout)).run world desk = (.ok answer, left))
    (granted : retried .tryAgainLater answer = .ok status) :
    (plan.dequeueOutput side).run world desk = (.ok status, left) := by
  unfold TranscodePlan.dequeueOutput
  rw [run_bind, ran]
  simp only [granted, run_settle_ok]

end

namespace Course
variable {course : Course} {backdrop : Backdrop} {handled waiting muxed : List Int}
  {session : Standing} {stage : Stage}

/-- The desk shows a session on its course, with a load that `spent` has been taken from. -/
def Shows (course : Course) (backdrop : Backdrop) (spent before : Nat) (session : Standing)
    (desk : Desk (Rig Bench)) : Prop :=
  ∃ stage handled waiting muxed, desk = backdrop.desk stage ∧
    course.Follows handled waiting muxed session stage ∧ load session stage + spent ≤ before

theorem endFeeding_shows (follows : course.Follows handled waiting muxed session stage)
    (feeding : session.feeding = true) (nothing : stage.demuxer.upcoming = []) (reads : Nat)
    (content : Bytes) :
    (TranscodePlan.endFeeding session 0 content).Reaches backdrop.world
      (backdrop.desk { stage with decoder := stage.decoder.lent, reads })
      fun next left => next.decoder.isDone = session.decoder.isDone ∧
        next.encoder = session.encoder ∧ course.Shows backdrop 3 (load session stage) next left := by
  have idle := follows.ready.decoder
  have decoding := follows.inflow.feeding feeding
  have nothing_ahead : course.ahead stage = [] := by simp [ahead, nothing]
  have queued := backdrop.run_queueInput_decoder
    { stage with decoder := stage.decoder.lent, reads }
    (idle.queueInput_lent content ⟨0, 0, 0, .endOfStream⟩ (Nat.zero_le _)
      Flags.isEndOfStream_endOfStream stage.log)
  refine reaches_after queued (reaches_settle rfl (reaches_pure ⟨?_, rfl, ?_⟩))
  · exact Machine.isDone_endInput _
  refine ⟨_, handled, waiting, muxed, rfl,
    ⟨{ follows.ready with decoder := { idle with } }, ?_, ?_, ?_, follows.seen⟩, ?_⟩
  · refine ⟨fun ended => absurd ended Bool.false_ne_true, fun _ => follows.inflow.coming decoding, fun _ => ?_, fun _ _ => nothing_ahead, ?_⟩
    · have pending := follows.inflow.pending decoding
      rw [if_pos feeding, List.append_nil] at pending
      simp [pending]
    · intro isDone
      rw [Machine.isDone_endInput] at isDone
      exact follows.inflow.drained isDone
  · exact { follows.drawn with again := fun raw _ => follows.drawn.again raw decoding }
  · refine { follows.outflow with told := ?_, pending := ?_ }
    · simpa only [Machine.isDone_endInput] using follows.outflow.told
    · simpa only [Machine.isDone_endInput] using follows.outflow.pending
  · have before := respite_feeding decoding feeding stage.decoder
    have queued : Decoder.load { stage.decoder.filled content with
        pending := stage.decoder.pending ++ [(0, true)] } = stage.decoder.load + 6 :=
      (stage.decoder.filled content).load_append (0, true)
    apply Nat.le_trans (Nat.add_le_add_right (Nat.add_le_add_left (respite_le _ _) _) 3)
    simp only [load, queued, feeding, before, Bool.false_eq_true, if_false, if_true]
    omega

theorem decoder_again_shows (follows : course.Follows handled waiting muxed session stage)
    (again : 0 < stage.decoder.inputTryAgain) :
    course.Shows backdrop 3 (load session stage) session (backdrop.desk { stage with
      decoder := { stage.decoder with inputTryAgain := stage.decoder.inputTryAgain - 1 } }) := by
  refine ⟨_, handled, waiting, muxed, rfl,
    ⟨{ follows.ready with decoder := { follows.ready.decoder with } }, { follows.inflow with },
      { follows.drawn with }, { follows.outflow with }, follows.seen⟩, ?_⟩
  have same : respite session { stage.decoder with
      inputTryAgain := stage.decoder.inputTryAgain - 1 } = respite session stage.decoder := rfl
  simp only [load, Decoder.load, same]
  omega

theorem passOver_shows (follows : course.Follows handled waiting muxed session stage)
    {sample : Sample} {later : List Sample} (next : stage.demuxer.upcoming = sample :: later)
    (foreign : sample.track ≠ course.plan.track.index) :
    course.Shows backdrop 3 (load session stage) session
      (backdrop.desk { stage with demuxer := stage.demuxer.advance.2 }) := by
  have rest := follows.ready.reads.upcoming_advance next
  have same : course.ahead { stage with demuxer := stage.demuxer.advance.2 } =
      course.ahead stage := by
    simp [ahead, rest, next, foreign]
  refine ⟨_, handled, waiting, muxed, rfl,
    ⟨{ follows.ready with
        reads := follows.ready.reads.advance, room := ?_
        reading := stage.demuxer.source_advance.trans follows.ready.reading },
      { follows.inflow with coming := ?_, exhausted := ?_ },
      { follows.drawn with }, { follows.outflow with }, follows.seen⟩, ?_⟩
  · intro other member own
    have member : other ∈ later := rest ▸ member
    exact follows.ready.room other (next ▸ List.mem_cons_of_mem _ member) own
  · rw [same]
    exact follows.inflow.coming
  · rw [same]
    exact follows.inflow.exhausted
  · simp only [load, rest, next, List.length_cons]
    omega

theorem takeSample_shows (follows : course.Follows handled waiting muxed session stage)
    (feeding : session.feeding = true) {sample : Sample} {later : List Sample}
    (next : stage.demuxer.upcoming = sample :: later)
    (own : sample.track = course.plan.track.index) (reads : Nat) (log : Log)
    (frames : log.encoderFrames = stage.log.encoderFrames) (audience : Audience) :
    course.Shows backdrop 3 (load session stage) session
      (backdrop.desk { stage with
        demuxer := stage.demuxer.advance.2
        decoder := { stage.decoder with pending := stage.decoder.pending ++ [(sample.time, false)] }
        log, reads, audience }) := by
  have decoding := follows.inflow.feeding feeding
  have rest := follows.ready.reads.upcoming_advance next
  have first : course.ahead stage = sample.time :: course.ahead { stage with
      demuxer := stage.demuxer.advance.2
      decoder := { stage.decoder with pending := stage.decoder.pending ++ [(sample.time, false)] }
      log, reads, audience } := by
    simp [ahead, rest, next, own]
  refine ⟨_, handled, waiting ++ [sample.time], muxed, rfl,
    ⟨{ follows.ready with
        reads := follows.ready.reads.advance, room := ?_
        reading := stage.demuxer.source_advance.trans follows.ready.reading
        decoder := { follows.ready.decoder with } },
      ⟨follows.inflow.feeding, fun _ => ?_, fun _ => ?_, fun _ ended => ?_, follows.inflow.drained⟩,
      ⟨?_, ?_, follows.drawn.dropped, ?_, follows.drawn.again, follows.drawn.none_lost⟩,
      { follows.outflow with queue := ?_, finished := ?_ }, follows.seen⟩, ?_⟩
  · intro other member own
    have member : other ∈ later := rest ▸ member
    exact follows.ready.room other (next ▸ List.mem_cons_of_mem _ member) own
  · rw [follows.inflow.coming decoding, first, List.append_assoc]
    rfl
  · simp only [follows.inflow.pending decoding, feeding, if_true, List.append_nil, List.map_append,
      List.map_cons, List.map_nil]
  · simp [feeding] at ended
  · exact frames.trans follows.drawn.frames
  · exact follows.drawn.rendered.trans (congrArg List.length frames.symm)
  · exact follows.drawn.firstTime.trans (congrArg List.head? frames.symm)
  · simpa only [frames] using follows.outflow.queue
  · simpa only [frames] using follows.outflow.finished
  · have same : respite session { stage.decoder with
        pending := stage.decoder.pending ++ [(sample.time, false)] } = respite session stage.decoder := rfl
    simp only [load, Decoder.load, rest, next, same, List.length_cons, List.length_append,
      List.length_nil]
    omega

theorem dequeueInput_decoder (backdrop : Backdrop)
    (follows : course.Follows handled waiting muxed session stage) :
    (0 < stage.decoder.inputTryAgain ∧
      (course.plan.dequeueInput .decoder).run backdrop.world (backdrop.desk stage) =
        (.ok none, backdrop.desk { stage with
          decoder := { stage.decoder with inputTryAgain := stage.decoder.inputTryAgain - 1 } })) ∨
    (course.plan.dequeueInput .decoder).run backdrop.world (backdrop.desk stage) =
      (.ok (some 0), backdrop.desk { stage with decoder := stage.decoder.lent }) := by
  have idle := follows.ready.decoder
  by_cases again : 0 < stage.decoder.inputTryAgain
  · left
    exact ⟨again, run_dequeueInput
      (backdrop.run_dequeueInput_decoder stage (idle.dequeueInput_again again) _) rfl⟩
  · right
    exact run_dequeueInput
      (backdrop.run_dequeueInput_decoder stage (idle.dequeueInput_lends (by omega)) _) rfl

theorem feed_shows (follows : course.Follows handled waiting muxed session stage)
    (feeding : session.feeding = true) :
    (course.plan.feed session).Reaches backdrop.world (backdrop.desk stage) fun next left =>
      next.decoder.isDone = session.decoder.isDone ∧ next.encoder = session.encoder ∧
        course.Shows backdrop 3 (load session stage) next left := by
  have reads := follows.ready.reads
  unfold TranscodePlan.feed
  apply reaches_after (backdrop.run_currentTrack stage)
  cases ahead : stage.demuxer.upcoming with
  | nil =>
    rw [reads.currentTrack?_nil ahead]
    rcases dequeueInput_decoder backdrop follows with ⟨again, polled⟩ | polled
    · exact reaches_after polled (reaches_pure ⟨rfl, rfl, decoder_again_shows follows again⟩)
    · exact reaches_after polled (endFeeding_shows follows feeding ahead stage.reads #[])
  | cons sample later =>
    rw [reads.currentTrack?_cons ahead]
    dsimp only
    split
    next foreign =>
      refine reaches_after (backdrop.run_advance stage) (reaches_pure ⟨rfl, rfl, ?_⟩)
      exact passOver_shows follows ahead foreign
    next known =>
      have own : sample.track = course.plan.track.index := not_not.mp known
      have fits := follows.ready.room sample (ahead ▸ List.mem_cons_self) own
      rcases dequeueInput_decoder backdrop follows with ⟨again, polled⟩ | polled
      · exact reaches_after polled (reaches_pure ⟨rfl, rfl, decoder_again_shows follows again⟩)
      · have idle := follows.ready.decoder
        have room := (stage.decoder.slots.size_content 0).trans idle.capacity
        refine reaches_after polled (reaches_after (backdrop.run_inputBuffer_decoder
          { stage with decoder := stage.decoder.lent } idle.inputBuffer_lent) ?_)
        apply reaches_settle rfl
        rw [room]
        refine reaches_after (backdrop.run_read { stage with decoder := stage.decoder.lent }
          course.capacity) (reaches_settle (reads.read_cons ahead fits) ?_)
        refine reaches_after (backdrop.run_currentTime
          { stage with decoder := stage.decoder.lent, reads := stage.reads + 1 }) ?_
        dsimp only
        rw [reads.currentTime?_cons ahead]
        let written := overlay sample.data (stage.decoder.slots.content 0)
        refine reaches_after (backdrop.run_queueInput_decoder
          { stage with decoder := stage.decoder.lent, reads := stage.reads + 1 }
          (idle.queueInput_lent written ⟨sample.data.size, 0, sample.time, .none⟩ fits
            Flags.isEndOfStream_none stage.log)) ?_
        apply reaches_settle rfl
        refine reaches_after (backdrop.run_advance { stage with
          decoder := { stage.decoder.filled written with
            pending := stage.decoder.pending ++ [(sample.time, false)] }
          log := { stage.log with decoderInputs := stage.log.decoderInputs + 1 }
          reads := stage.reads + 1 }) ?_
        obtain ⟨audience, told⟩ := backdrop.run_tell { stage with
          demuxer := stage.demuxer.advance.2
          decoder := { stage.decoder.filled written with
            pending := stage.decoder.pending ++ [(sample.time, false)] }
          log := { stage.log with decoderInputs := stage.log.decoderInputs + 1 }
          reads := stage.reads + 1 } (.report sample.time)
        refine reaches_after told (reaches_pure ⟨rfl, rfl, ?_⟩)
        exact takeSample_shows (follows.decoderFilled written) feeding ahead own (stage.reads + 1)
          { stage.log with decoderInputs := stage.log.decoderInputs + 1 } rfl audience

theorem told_shows (follows : course.Follows handled waiting muxed session stage)
    (pending : session.endPending = true) :
    course.Shows backdrop 2 (load session stage)
      { session with endPending := false, encoder := session.encoder.endInput }
      (backdrop.desk { stage with
        encoder := (stage.encoder.enqueueEnd stage.log).1
        log := (stage.encoder.enqueueEnd stage.log).2 }) := by
  have outflow := follows.outflow
  have isDone := outflow.pending pending
  have untold : session.encoder.inputEnded = false := by
    rw [outflow.told, pending, Bool.not_true, Bool.and_false]
  have running := outflow.running untold
  refine ⟨_, handled, waiting, muxed, rfl,
    ⟨{ follows.ready with encoder := { follows.ready.encoder with } },
      { follows.inflow with }, { follows.drawn with },
      { outflow with told := ?_, pending := nofun, queue := ?_, ended := fun _ => rfl, finished := ?_ },
      follows.seen⟩, ?_⟩
  · simp only [Machine.inputEnded_endInput, isDone, Bool.not_false, Bool.and_self]
  · intro _
    have frames := outflow.frames_eq untold
    simp only [Encoder.enqueueEnd, Machine.inputEnded_endInput, if_true, ← List.append_assoc, frames]
  · intro ended
    rw [Machine.isDone_endInput, running] at ended
    exact nomatch ended
  · have same : respite { session with endPending := false, encoder := session.encoder.endInput }
        stage.decoder = respite session stage.decoder := rfl
    simp only [load, Encoder.load_enqueueEnd, pending, same, Bool.false_eq_true, if_false, if_true]
    omega

theorem dequeueInput_encoder (backdrop : Backdrop) (ready : course.Ready stage)
    (raw : course.plan.surfaceInput = false) :
    (0 < stage.encoder.inputTryAgain ∧
      (course.plan.dequeueInput .encoder).run backdrop.world (backdrop.desk stage) =
        (.ok none, backdrop.desk { stage with
          encoder := { stage.encoder with inputTryAgain := stage.encoder.inputTryAgain - 1 } })) ∨
    (stage.encoder.inputTryAgain = 0 ∧
      (course.plan.dequeueInput .encoder).run backdrop.world (backdrop.desk stage) =
        (.ok (some 0), backdrop.desk { stage with encoder := stage.encoder.lent })) := by
  have idle := ready.encoder
  have hasNone := ready.hasSurface.trans raw
  by_cases again : 0 < stage.encoder.inputTryAgain
  · left
    exact ⟨again, run_dequeueInput
      (backdrop.run_dequeueInput_encoder stage (idle.dequeueInput_again hasNone again) _) rfl⟩
  · right
    have now : stage.encoder.inputTryAgain = 0 := by omega
    exact ⟨now, run_dequeueInput
      (backdrop.run_dequeueInput_encoder stage (idle.dequeueInput_lends hasNone now) _) rfl⟩

theorem signalEnd_shows (follows : course.Follows handled waiting muxed session stage)
    (pending : session.endPending = true) :
    (course.plan.signalEnd session).Reaches backdrop.world (backdrop.desk stage) fun next left =>
      next.decoder = session.decoder ∧ next.encoder.isDone = session.encoder.isDone ∧
        course.Shows backdrop 2 (load session stage) next left := by
  have idle := follows.ready.encoder
  have isDone := follows.outflow.pending pending
  unfold TranscodePlan.signalEnd
  dsimp only
  split
  next surface =>
    refine reaches_after (backdrop.run_signalEnd stage
      (idle.signalEnd (follows.ready.hasSurface.trans surface) stage.log)) (reaches_settle rfl ?_)
    exact reaches_pure ⟨rfl, Machine.isDone_endInput _, told_shows follows pending⟩
  next other =>
    have raw := Bool.eq_false_iff.mpr other
    rcases dequeueInput_encoder backdrop follows.ready raw with ⟨again, polled⟩ | ⟨now, polled⟩
    · refine reaches_after polled (reaches_pure ⟨rfl, rfl, ?_⟩)
      refine ⟨_, handled, waiting, muxed, rfl, ⟨{ follows.ready with encoder := { idle with } },
        { follows.inflow with }, { follows.drawn with again := ?_ }, { follows.outflow with },
        follows.seen⟩, ?_⟩
      · intro _ decoding
        exact absurd isDone (by simp [decoding])
      · simp only [load, Encoder.load]
        omega
    · refine reaches_after polled (reaches_after (backdrop.run_queueInput_encoder
        { stage with encoder := stage.encoder.lent } (idle.queueInput_end
          #[] ⟨0, 0, session.decodedTime, .endOfStream⟩ (Nat.zero_le _)
          Flags.isEndOfStream_endOfStream stage.log)) (reaches_settle rfl ?_))
      exact reaches_pure ⟨rfl, Machine.isDone_endInput _,
        told_shows (follows.encoderFilled #[]) pending⟩

/-- Where the machines stand is of no account, as long as they have not come to their ends. -/
theorem Follows.machines (follows : course.Follows handled waiting muxed session stage)
    (decoder encoder : Machine) (decoderDone : decoder.isDone = session.decoder.isDone)
    (encoderDone : encoder.isDone = session.encoder.isDone)
    (ended : encoder.inputEnded = session.encoder.inputEnded) :
    course.Follows handled waiting muxed { session with decoder, encoder } stage := by
  obtain ⟨ready, inflow, drawn, outflow, seen⟩ := follows
  refine ⟨ready, ?_, ?_, ?_, seen⟩
  · refine ⟨?_, ?_, ?_, ?_, ?_⟩ <;> simp only [decoderDone]
    · exact inflow.feeding
    · exact inflow.coming
    · exact inflow.pending
    · exact inflow.exhausted
    · exact inflow.drained
  · refine { drawn with again := ?_ }
    simpa only [decoderDone] using drawn.again
  · refine ⟨?_, ?_, ?_, ?_, ?_, outflow.movie, outflow.written⟩ <;>
      simp only [decoderDone, encoderDone, ended]
    · exact outflow.told
    · exact outflow.pending
    · exact outflow.queue
    · exact outflow.ended
    · exact outflow.finished

theorem load_machines {decoder encoder : Machine}
    (decoderDone : decoder.isDone = session.decoder.isDone) :
    load { session with decoder, encoder } stage = load session stage := by
  simp only [load, respite, decoderDone]

def Proceeds (course : Course) (backdrop : Backdrop) (before : Nat) (session : Standing)
    (desk : Desk (Rig Bench)) : Prop :=
  ∃ stage handled waiting muxed, desk = backdrop.desk stage ∧
    course.Follows handled waiting muxed session stage ∧ effort session stage < before

theorem encoding_rearm (session : Standing) (machine : Machine)
    (same : session.encoder = machine.rearm) : encoding session ≤ 1 := by
  cases isDone : machine.isDone with
  | true =>
    have ended := encoding_of_done (by rw [same, Machine.isDone_rearm, isDone])
    omega
  | false => exact Nat.le_of_eq (encoding_of_hasOutput (by rw [same, Machine.state_rearm isDone]))

/-- Once both machines are polled again, what is left to do must have become less by as much. -/
theorem Shows.proceeds {spent before limit : Nat} {desk : Desk (Rig Bench)}
    (shows : course.Shows backdrop spent before session desk) (decoder : Machine)
    (sameDone : decoder.isDone = session.decoder.isDone)
    (less : before + decoding { session with decoder } + 1 < limit + spent) :
    course.Proceeds backdrop limit
      { session with decoder, encoder := session.encoder.rearm } desk := by
  obtain ⟨stage, handled, waiting, muxed, same, follows, light⟩ := shows
  refine ⟨stage, handled, waiting, muxed, same, follows.machines _ _ sameDone
    (Machine.isDone_rearm _) (Machine.inputEnded_rearm _), ?_⟩
  have after : decoding { session with decoder, encoder := session.encoder.rearm } =
    decoding { session with decoder } := rfl
  have encoder := encoding_rearm
    { session with decoder, encoder := session.encoder.rearm } session.encoder rfl
  unfold effort
  rw [load_machines sameDone]
  omega

theorem decoding_rearm (session : Standing) :
    decoding { session with decoder := session.decoder.rearm } =
      if session.decoder.isDone then 0 else 1 := by
  split
  next isDone => exact decoding_of_done ((Machine.isDone_rearm _).trans isDone)
  next running =>
    exact decoding_of_hasOutput (Machine.state_rearm (Bool.eq_false_iff.mpr running))

theorem Shows.rearm {spent before limit : Nat} {desk : Desk (Rig Bench)}
    (shows : course.Shows backdrop spent before session desk)
    (less : before + (if session.decoder.isDone then 0 else 1) + 1 < limit + spent) :
    course.Proceeds backdrop limit
      { session with decoder := session.decoder.rearm, encoder := session.encoder.rearm } desk :=
  shows.proceeds session.decoder.rearm (Machine.isDone_rearm _)
    (by rw [decoding_rearm]; exact less)

theorem beginCycle_proceeds (follows : course.Follows handled waiting muxed session stage)
    (turn : nextStep session.decoder.state session.encoder.state = .idle) :
    (course.plan.beginCycle session).Reaches backdrop.world (backdrop.desk stage)
      (course.Proceeds backdrop (effort session stage)) := by
  obtain ⟨decoderPolled, encoderRuns, encoderPolled⟩ := nextStep_eq_idle.mp turn
  have running : session.encoder.isDone = false := by simp [Machine.isDone, encoderRuns]
  simp only [TranscodePlan.beginCycle, ite_bind]
  apply reaches_after (backdrop.run_checkCancelled stage)
  cases feeding : session.feeding with
  | true =>
    have decoding := follows.inflow.feeding feeding
    rw [if_pos rfl]
    refine reaches_bind ((feed_shows follows feeding).imp fun next left fed => reaches_bind ?_)
    obtain ⟨sameDecoder, sameEncoder, shows⟩ := fed
    have unpending : next.endPending = false := by
      obtain ⟨_, _, _, _, -, later, -⟩ := shows
      cases pending : next.endPending with
      | false => rfl
      | true => exact absurd (later.outflow.pending pending) (by simp [sameDecoder, decoding])
    rw [if_neg (by simp [unpending])]
    refine reaches_pure (reaches_pure (shows.rearm ?_))
    rw [if_neg (by simp [sameDecoder, decoding])]
    unfold effort
    omega
  | false =>
    rw [if_neg (by simp)]
    refine reaches_bind (reaches_pure (reaches_bind ?_))
    cases pending : session.endPending with
    | true =>
      have isDone := follows.outflow.pending pending
      rw [if_pos rfl]
      apply (signalEnd_shows follows pending).imp
      intro next left told
      apply reaches_pure
      obtain ⟨sameDecoder, sameEncoder, shows⟩ := told
      apply shows.rearm
      rw [if_pos (by rw [sameDecoder, isDone])]
      unfold effort
      omega
    | false =>
      rw [if_neg (by simp)]
      have shows : course.Shows backdrop 0 (load session stage) session (backdrop.desk stage) :=
        ⟨stage, handled, waiting, muxed, rfl, follows, Nat.le_refl _⟩
      refine reaches_pure (reaches_pure (shows.rearm ?_))
      have told := follows.outflow.told
      rw [pending, Bool.not_false, Bool.and_true] at told
      cases isDone : session.decoder.isDone with
      | true => simp [effort, decoding, encoding, running, encoderPolled, told, isDone]
      | false => simp [effort, decoding, feeding, decoderPolled, isDone]; omega

end Course

end Recode.Simulation
