import Recode.Proofs.Containers
import Recode.Proofs.MovieGrowth

/-!
What is on its way through a simulated world in a session: samples that wait in the decoder, frames
that wait in the encoder, and the tracks that were written. Few calls bring anything on its way, so
what is known of all that came is known of all that comes out.
-/

namespace Recode.Container

def Source.Shows (source : Source) (track : Nat) (time : Int) : Prop :=
  ∃ sample ∈ source.trackSamples track, sample.time = time

theorem Demuxer.shows_current {demuxer : Demuxer} {track : Nat}
    (here : demuxer.currentTrack? = some track) :
    demuxer.source.Shows track (demuxer.currentTime?.getD 0) := by
  obtain ⟨sample, current, rfl⟩ := Option.map_eq_some_iff.mp here
  have time : demuxer.currentTime? = some sample.time := by rw [currentTime?, current]; rfl
  rw [time]
  unfold current? at current
  split at current
  next released => cases current
  next unreleased =>
    have stored := List.mem_of_getElem? (Option.filter_eq_some_iff.mp current).1
    exact ⟨sample, List.mem_filter.mpr ⟨stored, decide_eq_true rfl⟩, rfl⟩

theorem Demuxer.source_select (demuxer : Demuxer) (index : Nat) :
    (demuxer.select index).2.source = demuxer.source := by
  unfold select
  split
  next inside =>
    split
    next active selected => split <;> rfl
    next unselected => rfl
  next outside => rfl

theorem Demuxer.source_unselect (demuxer : Demuxer) (index : Nat) :
    (demuxer.unselect index).2.source = demuxer.source := by
  unfold unselect
  split
  next inside => dsimp only; split <;> rfl
  next outside => rfl

theorem Demuxer.source_release (demuxer : Demuxer) : demuxer.release.source = demuxer.source := by
  unfold release
  split <;> rfl

def Library.content (library : Library) : Option Source × Option (List MuxedTrack) :=
  (library.demuxers.head?.map (·.source), library.muxers.head?.map (·.2.movie.tracks))

end Recode.Container

namespace Recode.Session

/-- Calls that bring neither a source nor a movie, and to those that there are neither samples nor
frames. -/
def Call.BringsNothing : Call → Prop
  | .storage (.openSource _) | .storage (.createMovie _ _) | .storage (.addTrack _ _)
  | .storage (.write _ _ _ _) | .device (.swap _) => False
  | .device (.queueInput _ _ _ info) => info.flags.isEndOfStream = true
  | _ => True

end Recode.Session

namespace Recode.Simulation
open Recode.Media Recode.Container Recode.Device Recode.Picture Recode.Progress Recode.Session

namespace Storage
variable {α : Type}

theorem onDemuxer_content {storage : Storage} {absent : α} {act : Demuxer → α × Demuxer}
    (keeps : ∀ demuxer, (act demuxer).2.source = demuxer.source) :
    (storage.onDemuxer absent act).2.library.content = storage.library.content := by
  obtain ⟨⟨sources, leaks, faults, _ | ⟨newest, older⟩, muxers⟩, script, reads, adds, writes⟩ := storage
  · rfl
  · exact congrArg (fun source => (some source, _)) (keeps newest)

theorem onMuxer_content {storage : Storage} {absent : α} {act : Muxer → α × Muxer}
    (keeps : ∀ muxer, (act muxer).2.movie.tracks = muxer.movie.tracks) :
    (storage.onMuxer absent act).2.library.content = storage.library.content := by
  obtain ⟨⟨sources, leaks, faults, demuxers, _ | ⟨⟨path, newest⟩, older⟩⟩, script, reads, adds,
    writes⟩ := storage
  · rfl
  · exact congrArg (fun tracks => (_, some tracks)) (keeps newest)

theorem barring_content {storage : Storage} {error? : Option Error}
    {act : Except Error α × Storage} (same : act.2.library.content = storage.library.content) :
    (storage.barring error? act).2.library.content = storage.library.content := by
  cases error? with
  | some error => rfl
  | none => exact same

theorem answer_content (storage : Storage) {call : StorageCall}
    (brings : Call.BringsNothing (.storage call)) :
    (answer call storage).2.library.content = storage.library.content := by
  have looks {α : Type} (absent : α) (look : Demuxer → α) :
      (storage.view absent look).2.library.content = storage.library.content :=
    onDemuxer_content fun _ => rfl
  cases call with
  | openSource path => exact brings.elim
  | createMovie path settings => exact brings.elim
  | trackCount => exact looks _ _
  | trackFormat index => exact barring_content (looks _ _)
  | select index =>
    exact barring_content (onDemuxer_content fun demuxer => demuxer.source_select index)
  | unselect index =>
    exact barring_content (onDemuxer_content fun demuxer => demuxer.source_unselect index)
  | seek time mode => exact barring_content (onDemuxer_content fun demuxer => demuxer.source_seek _ _)
  | currentTrack => exact looks _ _
  | currentTime => exact looks _ _
  | currentFlags => exact looks _ _
  | read room =>
    refine barring_content ?_
    dsimp only
    split
    next ends => rfl
    next goesOn => exact onDemuxer_content fun _ => rfl
  | advance => exact onDemuxer_content Demuxer.source_advance
  | releaseDemuxer => exact onDemuxer_content Demuxer.source_release
  | addTrack format isAudio => exact brings.elim
  | write track buffer info isAudio => exact brings.elim
  | finalize => exact barring_content (onMuxer_content fun muxer => muxer.finalize_tracks.2)

end Storage

/-- All samples that wait in the decoder were fed, and all frames that wait in the encoder are kept. -/
structure Bench.Holds (fed kept : Int → Prop) (bench : Bench) : Prop where
  decoding : ∀ decoder, bench.decoder = some decoder →
    ∀ time, (time, false) ∈ decoder.pending → fed time
  encoding : ∀ encoder, bench.encoder = some encoder →
    ∀ time, .frame time ∈ encoder.queue → kept time

namespace Bench.Holds
variable {α : Type} {fed kept : Int → Prop} {bench : Bench}

theorem empty (bench : Bench) (undecoded : bench.decoder = none) (unencoded : bench.encoder = none) :
    bench.Holds fed kept :=
  ⟨fun _ found => (nomatch undecoded.symm.trans found),
    fun _ found => (nomatch unencoded.symm.trans found)⟩

theorem onDecoder (holds : bench.Holds fed kept) {absent : α}
    {act : Decoder → Log → α × Decoder × Log}
    (fewer : ∀ decoder log time, (time, false) ∈ (act decoder log).2.1.pending →
      (time, false) ∈ decoder.pending ∨ fed time) :
    (bench.onDecoder absent act).2.Holds fed kept := by
  obtain ⟨catalog, _ | decoder, encoder, surface, transform⟩ := bench
  · exact holds
  · refine ⟨fun next same time waits => ?_, holds.encoding⟩
    cases same
    exact (fewer decoder _ time waits).elim (holds.decoding decoder rfl time) id

theorem onEncoder (holds : bench.Holds fed kept) {absent : α}
    {act : Encoder → Log → α × Encoder × Log}
    (fewer : ∀ encoder log time, .frame time ∈ (act encoder log).2.1.queue →
      .frame time ∈ encoder.queue ∨ kept time) :
    (bench.onEncoder absent act).2.Holds fed kept := by
  obtain ⟨catalog, decoder, _ | encoder, surface, transform⟩ := bench
  · exact holds
  · refine ⟨holds.decoding, fun next same time waits => ?_⟩
    cases same
    exact (fewer encoder _ time waits).elim (holds.encoding encoder rfl time) id

end Bench.Holds

namespace Decoder

theorem configure_pending (decoder : Decoder) (format : Format) (log : Log) :
    (decoder.configure format log).2.1.pending = decoder.pending := by
  unfold configure
  split <;> rfl

theorem start_pending (decoder : Decoder) : decoder.start.2.pending = decoder.pending := by
  unfold start
  split <;> rfl

theorem release_pending (decoder : Decoder) (log : Log) :
    (decoder.release log).1.pending = decoder.pending := by
  unfold release
  split <;> rfl

theorem dequeueInput_pending (decoder : Decoder) :
    decoder.dequeueInput.2.pending = decoder.pending := by
  unfold dequeueInput whenRunning
  split
  next running => split <;> rfl
  next halted => rfl

theorem releaseOutput_pending (decoder : Decoder) (index : Nat) (render : Bool) :
    (decoder.releaseOutput index render).2.pending = decoder.pending := by
  unfold releaseOutput whenRunning
  split
  next running => split <;> rfl
  next halted => rfl

theorem queueInput_pending {decoder : Decoder} {slot : Nat} {written : Bytes} {info : SampleInfo}
    {log : Log} {time : Int}
    (waits : (time, false) ∈ (decoder.queueInput slot written info log).2.1.pending) :
    (time, false) ∈ decoder.pending ∨ info.flags.isEndOfStream = false ∧ info.time = time := by
  unfold queueInput at waits
  split at waits
  next running =>
    split at waits
    next slots lent =>
      rcases List.mem_append.mp waits with before | queued
      · exact .inl before
      · obtain ⟨same, going⟩ := Prod.mk.inj (List.mem_singleton.mp queued)
        exact .inr ⟨going.symm, same.symm⟩
    next error refused => exact .inl waits
  next halted => exact .inl waits

theorem dequeueOutput_pending (decoder : Decoder) :
    (∀ waiting, waiting ∈ decoder.dequeueOutput.2.pending → waiting ∈ decoder.pending) ∧
      ∀ index info, decoder.dequeueOutput.1 = .ok (.buffer index info) →
        (info.time, false) ∈ decoder.pending ∨ info = ⟨0, 0, 0, .endOfStream⟩ := by
  unfold dequeueOutput whenRunning
  split
  next running =>
    split
    next fails => exact ⟨fun _ => id, nofun⟩
    next works =>
      split
      next retries => exact ⟨fun _ => id, nofun⟩
      next serves =>
        split
        next unreported => exact ⟨fun _ => id, nofun⟩
        next reported =>
          dsimp only
          split
          next stutters => exact ⟨fun _ => id, nofun⟩
          next speaks =>
            unfold emit
            dsimp only
            cases waiting : decoder.pending with
            | nil => exact ⟨fun _ => id, nofun⟩
            | cons first later =>
              obtain ⟨time, last⟩ := first
              refine ⟨fun _ => List.mem_cons_of_mem _, fun index info same => ?_⟩
              cases last <;> cases same
              · exact .inl List.mem_cons_self
              · exact .inr rfl
  next halted => exact ⟨fun _ => id, nofun⟩

end Decoder

namespace Encoder

theorem configure_queue (encoder : Encoder) (format : Format) (log : Log) :
    (encoder.configure format log).2.1.queue = encoder.queue := by
  unfold configure
  split
  next width height => split <;> rfl
  next incomplete => rfl

theorem start_queue (encoder : Encoder) : encoder.start.2.queue = encoder.queue := by
  unfold start
  split <;> rfl

theorem release_queue (encoder : Encoder) (log : Log) :
    (encoder.release log).1.queue = encoder.queue := by
  unfold release
  split <;> rfl

theorem createSurface_queue (encoder : Encoder) :
    encoder.createSurface.2.queue = encoder.queue := by
  unfold createSurface
  split
  next unconfigured => rfl
  next format configured => split <;> rfl

theorem dequeueInput_queue (encoder : Encoder) :
    encoder.dequeueInput.2.queue = encoder.queue := by
  unfold dequeueInput whenRunning
  split
  next running =>
    split
    next surface => rfl
    next raw => split <;> rfl
  next halted => rfl

theorem releaseOutput_queue (encoder : Encoder) (index : Nat) :
    (encoder.releaseOutput index).2.queue = encoder.queue := by
  unfold releaseOutput whenRunning
  split
  next running => split <;> rfl
  next halted => rfl

theorem frame_mem_enqueueEnd {encoder : Encoder} {log : Log} {time : Int}
    (waits : .frame time ∈ (encoder.enqueueEnd log).1.queue) : .frame time ∈ encoder.queue := by
  rcases List.mem_append.mp waits with before | queued
  · exact before
  · exact nomatch List.mem_singleton.mp queued

theorem frame_mem_enqueueFrame {encoder : Encoder} {log : Log} {time shown : Int}
    (waits : .frame time ∈ (encoder.enqueueFrame shown log).1.queue) :
    .frame time ∈ encoder.queue ∨ shown = time := by
  rcases List.mem_append.mp waits with before | queued
  · exact .inl before
  · exact .inr (EncoderInput.frame.inj (List.mem_singleton.mp queued)).symm

theorem signalEnd_queue {encoder : Encoder} {log : Log} {time : Int}
    (waits : .frame time ∈ (encoder.signalEnd log).2.1.queue) : .frame time ∈ encoder.queue := by
  unfold signalEnd at waits
  split at waits
  next running =>
    split at waits
    next surface => exact frame_mem_enqueueEnd waits
    next raw => exact waits
  next halted => exact waits

theorem queueInput_queue {encoder : Encoder} {slot : Nat} {written : Bytes} {info : SampleInfo}
    {log : Log} {time : Int}
    (waits : .frame time ∈ (encoder.queueInput slot written info log).2.1.queue) :
    .frame time ∈ encoder.queue ∨ info.flags.isEndOfStream = false ∧ info.time = time := by
  unfold queueInput at waits
  split at waits
  next running =>
    split at waits
    next slots lent =>
      dsimp only at waits
      split at waits
      next ends => exact .inl (@frame_mem_enqueueEnd _ log _ waits)
      next going => exact (frame_mem_enqueueFrame waits).imp id fun same => ⟨by simpa using going, same⟩
    next error refused => exact .inl waits
  next halted => exact .inl waits

theorem swap_queue {surface : Surface} {encoder : Encoder} {frame : Frame} {log : Log} {time : Int}
    (waits : .frame time ∈ (surface.swap encoder frame log).2.1.queue) :
    .frame time ∈ encoder.queue ∨ surface.nanoseconds.tdiv 1000 = time := by
  unfold Surface.swap at waits
  split at waits
  next released => exact .inl waits
  next unreleased =>
    split at waits
    next fits => exact frame_mem_enqueueFrame waits
    next misfits => exact .inl waits

theorem dequeueOutput_queue (encoder : Encoder) :
    (∀ waiting, waiting ∈ encoder.dequeueOutput.2.queue → waiting ∈ encoder.queue) ∧
      ∀ index info, encoder.dequeueOutput.1 = .ok (.buffer index info) → 1 < info.size →
        info.flags.isCodecConfig = true ∨ .frame info.time ∈ encoder.queue := by
  unfold dequeueOutput whenRunning
  split
  next running =>
    split
    next fails => exact ⟨fun _ => id, nofun⟩
    next works =>
      split
      next retries => exact ⟨fun _ => id, nofun⟩
      next serves =>
        dsimp only
        split
        next configured =>
          unfold emitNext
          split
          next empty => exact ⟨fun _ => id, nofun⟩
          next time later waiting =>
            rw [waiting]
            refine ⟨fun _ => List.mem_cons_of_mem _, fun index info same _ => ?_⟩
            cases same
            exact .inr List.mem_cons_self
          next later waiting =>
            rw [waiting]
            refine ⟨fun _ => List.mem_cons_of_mem _, fun index info same long => ?_⟩
            cases same
            exact absurd long (by decide)
        next unconfigured =>
          unfold emitConfiguration
          dsimp only
          split
          next changes => exact ⟨fun _ => id, nofun⟩
          next sends =>
            refine ⟨fun _ => id, fun index info same _ => ?_⟩
            cases same
            exact .inl rfl
  next halted => exact ⟨fun _ => id, nofun⟩

end Encoder

namespace Bench.Holds
variable {α : Type} {fed kept : Int → Prop} {bench : Bench}

theorem congr {other : Bench} (holds : bench.Holds fed kept) (decoder : other.decoder = bench.decoder)
    (encoder : other.encoder = bench.encoder) : other.Holds fed kept :=
  ⟨fun next found => holds.decoding next (decoder ▸ found),
    fun next found => holds.encoding next (encoder ▸ found)⟩

theorem createEncoder (holds : bench.Holds fed kept) (name : String) :
    (bench.createEncoder name).2.Holds fed kept := by
  dsimp only [Bench.createEncoder, Catalog.createEncoder]
  split
  next encoder catalog created =>
    refine ⟨holds.decoding, fun next same time waits => ?_⟩
    cases same
    split at created
    next refuses => exact nomatch created
    next serves =>
      split at created
      next codec found =>
        cases created
        exact nomatch waits
      next unknown => exact nomatch created
  next error catalog refused => exact holds.congr rfl rfl

theorem createDecoder (holds : bench.Holds fed kept) (mime : String) :
    (bench.createDecoder mime).2.Holds fed kept := by
  dsimp only [Bench.createDecoder, Catalog.createDecoder]
  split
  next decoder catalog created =>
    refine ⟨fun next same time waits => ?_, holds.encoding⟩
    cases same
    split at created
    next codec found =>
      cases created
      exact nomatch waits
    next unknown => exact nomatch created
  next error catalog refused => exact holds.congr rfl rfl

theorem releaseOutput (holds : bench.Holds fed kept) (side : Side) (index : Nat) (render : Bool) :
    (bench.releaseOutput side index render).2.Holds fed kept := by
  cases side with
  | encoder =>
    exact holds.onEncoder fun encoder log time waits =>
      .inl (encoder.releaseOutput_queue index ▸ waits)
  | decoder =>
    have released := @onDecoder _ _ _ _ holds (missing : Except Error (Option Image))
      (fun decoder log => ((decoder.releaseOutput index render).1,
        (decoder.releaseOutput index render).2, log))
      fun decoder log time waits => .inl (decoder.releaseOutput_pending index render ▸ waits)
    dsimp only [Bench.releaseOutput]
    split
    next image shown => exact released.congr rfl rfl
    next hidden => exact released
    next error refused => exact released

theorem createSurface (holds : bench.Holds fed kept) : bench.createSurface.2.Holds fed kept := by
  have created := @onEncoder _ _ _ _ holds (missing : Except Error Surface)
    (fun encoder log => (encoder.createSurface.1, encoder.createSurface.2, log))
    fun encoder log time waits => .inl (encoder.createSurface_queue ▸ waits)
  dsimp only [Bench.createSurface]
  split
  next surface granted => exact created.congr rfl rfl
  next error refused => exact created

theorem queueInput (holds : bench.Holds fed kept) {side : Side} (slot : Nat) (written : Bytes)
    {info : SampleInfo}
    (known : info.flags.isEndOfStream = false →
      match side with
      | .decoder => fed info.time
      | .encoder => kept info.time) :
    (bench.queueInput side slot written info).2.Holds fed kept := by
  cases side with
  | decoder =>
    refine holds.onDecoder fun decoder log time waits =>
      (Decoder.queueInput_pending waits).imp id fun ⟨going, same⟩ => same ▸ known going
  | encoder =>
    refine holds.onEncoder fun encoder log time waits =>
      (Encoder.queueInput_queue waits).imp id fun ⟨going, same⟩ => same ▸ known going

theorem swap_presentAt (holds : bench.Holds fed kept) {nanoseconds : Int}
    (keeps : kept (nanoseconds.tdiv 1000)) (frame : Frame) :
    ((bench.presentAt nanoseconds).2.swap frame).2.Holds fed kept := by
  obtain ⟨catalog, decoder, encoder, _ | surface, transform⟩ := bench
  · exact holds
  · have presented : Bench.Holds fed kept
        ⟨catalog, decoder, encoder, some (surface.presentAt nanoseconds), transform⟩ :=
      holds.congr rfl rfl
    refine presented.onEncoder fun encoder log shown waits => ?_
    refine (Encoder.swap_queue waits).imp id fun same => ?_
    exact same ▸ keeps

theorem answer (holds : bench.Holds fed kept) {call : DeviceCall}
    (brings : Call.BringsNothing (.device call)) : (Bench.answer call bench).2.Holds fed kept := by
  cases call with
  | codecs => exact holds
  | createEncoder name => exact holds.createEncoder name
  | createDecoder mime => exact holds.createDecoder mime
  | configure side format =>
    cases side with
    | decoder =>
      exact holds.onDecoder fun decoder log _ waits =>
        .inl (decoder.configure_pending format log ▸ waits)
    | encoder =>
      exact holds.onEncoder fun encoder log _ waits =>
        .inl (encoder.configure_queue format log ▸ waits)
  | start side =>
    cases side with
    | decoder => exact holds.onDecoder fun decoder _ _ waits => .inl (decoder.start_pending ▸ waits)
    | encoder => exact holds.onEncoder fun encoder _ _ waits => .inl (encoder.start_queue ▸ waits)
  | stop side =>
    cases side with
    | decoder => exact holds.onDecoder fun _ _ _ waits => .inl waits
    | encoder => exact holds.onEncoder fun _ _ _ waits => .inl waits
  | release side =>
    cases side with
    | decoder =>
      exact holds.onDecoder fun decoder log _ waits =>
        .inl (decoder.release_pending log ▸ waits)
    | encoder =>
      exact holds.onEncoder fun encoder log _ waits =>
        .inl (encoder.release_queue log ▸ waits)
  | dequeueInput side timeout =>
    cases side with
    | decoder =>
      exact holds.onDecoder fun decoder _ _ waits =>
        .inl (decoder.dequeueInput_pending ▸ waits)
    | encoder =>
      exact holds.onEncoder fun encoder _ _ waits =>
        .inl (encoder.dequeueInput_queue ▸ waits)
  | inputBuffer side slot =>
    cases side with
    | decoder => exact holds.onDecoder fun _ _ _ waits => .inl waits
    | encoder => exact holds.onEncoder fun _ _ _ waits => .inl waits
  | queueInput side slot content info =>
    exact holds.queueInput slot content fun going => nomatch going.symm.trans brings
  | dequeueOutput side timeout =>
    cases side with
    | decoder =>
      exact holds.onDecoder fun decoder _ _ waits =>
        .inl (decoder.dequeueOutput_pending.1 _ waits)
    | encoder =>
      exact holds.onEncoder fun encoder _ _ waits =>
        .inl (encoder.dequeueOutput_queue.1 _ waits)
  | releaseOutput side index render => exact holds.releaseOutput side index render
  | encodedBuffer index => exact holds.onEncoder fun _ _ _ waits => .inl waits
  | signalEnd => exact holds.onEncoder fun _ _ _ waits => .inl (Encoder.signalEnd_queue waits)
  | createSurface => exact holds.createSurface
  | presentAt nanoseconds => exact holds.congr rfl rfl
  | swap frame => exact brings.elim
  | releaseSurface =>
    obtain ⟨catalog, decoder, encoder, _ | surface, transform⟩ := bench
    · exact holds
    · exact holds.congr rfl rfl
  | createTransform spec =>
    dsimp only [Bench.answer, Bench.createTransform]
    split
    next transform created => exact holds.congr rfl rfl
    next error refused => exact holds
  | awaitImage =>
    obtain ⟨catalog, decoder, encoder, surface, _ | transform⟩ := bench
    · exact holds
    · exact holds.congr rfl rfl
  | drawImage =>
    obtain ⟨catalog, decoder, encoder, surface, _ | transform⟩ := bench <;> exact holds
  | releaseTransform => exact holds.congr rfl rfl

/-- What the decoder puts out was fed to it, unless it is the end of the stream. -/
theorem decoded (holds : bench.Holds fed kept) {index : Nat} {info : SampleInfo}
    (polled : (bench.dequeueOutput .decoder).1 = .ok (.buffer index info)) :
    fed info.time ∨ info = ⟨0, 0, 0, .endOfStream⟩ := by
  obtain ⟨catalog, _ | decoder, encoder, surface, transform⟩ := bench
  · exact nomatch polled
  · exact (decoder.dequeueOutput_pending.2 index info polled).imp (holds.decoding decoder rfl _) id

/-- What the encoder puts out, other than its configuration, is a frame that is kept. -/
theorem encoded (holds : bench.Holds fed kept) {index : Nat} {info : SampleInfo}
    (polled : (bench.dequeueOutput .encoder).1 = .ok (.buffer index info)) (long : 1 < info.size) :
    info.flags.isCodecConfig = true ∨ kept info.time := by
  obtain ⟨catalog, decoder, _ | encoder, surface, transform⟩ := bench
  · exact nomatch polled
  · exact (encoder.dequeueOutput_queue.2 index info polled long).imp id
      (holds.encoding encoder rfl _)

end Bench.Holds

end Recode.Simulation
