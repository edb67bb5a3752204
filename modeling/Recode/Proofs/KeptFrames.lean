import Recode.Proofs.InTransit
import Recode.Proofs.SessionConduct

/-!
Transcodes on a rig whose codecs and containers may refuse what they are asked, but do nothing that
they are not asked. Every sample that such a transcode writes shows a picture of its track, at a time
that its window admits.
-/

namespace Recode.Simulation
open Recode.Media Recode.Container Recode.Device Recode.Picture Recode.Progress Recode.Session
open Recode.Session.Work

/-- A picture of the plan's track is shown at the time, and the plan's window admits it. -/
def Wanted (plan : TranscodePlan) (source : Source) (time : Int) : Prop :=
  source.Shows plan.track.index time ∧ plan.window.admits time = true

def Carried (plan : TranscodePlan) (source : Source) (time : Int) : Prop :=
  ∃ shown, Wanted plan source shown ∧ plan.stamped shown = time

theorem Wanted.carried {plan : TranscodePlan} {source : Source} {time : Int}
    (wanted : Wanted plan source time) : Carried plan source (plan.stamped time) :=
  ⟨time, wanted, rfl⟩

/-- The source is read and the tracks are written. What waits in the decoder is the track's, and what
waits in the encoder shows wanted pictures. -/
structure Flowing (plan : TranscodePlan) (source : Source) (tracks : List MuxedTrack)
    (rig : Rig Bench) : Prop where
  content : rig.storage.library.content = (some source, some tracks)
  holds : rig.device.Holds (source.Shows plan.track.index) (Carried plan source)

structure Filled (plan : TranscodePlan) (source : Source) (written : Nat) (track : MuxedTrack) :
    Prop where
  isVideo : track.isAudio = false
  counted : track.samples.length = written
  carried : ∀ sample ∈ track.samples, Carried plan source sample.time

theorem Filled.append {plan : TranscodePlan} {source : Source} {written : Nat} {track : MuxedTrack}
    (filled : Filled plan source written track) {sample : MuxedSample}
    (carried : Carried plan source sample.time) :
    Filled plan source (written + 1) { track with samples := track.samples ++ [sample] } where
  isVideo := filled.isVideo
  counted := by rw [List.length_append, filled.counted, List.length_singleton]
  carried other member :=
    (List.mem_append.mp member).elim (filled.carried other) fun last =>
      List.mem_singleton.mp last ▸ carried

def Filed (plan : TranscodePlan) (source : Source) : Option Nat × Nat → List MuxedTrack → Prop
  | (none, written), tracks => tracks = [] ∧ written = 0
  | (some place, written), tracks =>
      place = 0 ∧ ∃ track, tracks = [track] ∧ Filled plan source written track

theorem filed_sole {plan : TranscodePlan} {source : Source} {session : Standing} {track : MuxedTrack}
    (registered : session.destination = some 0)
    (filled : Filled plan source session.written track) :
    Filed plan source session.output [track] := by
  rw [Standing.output, registered]
  exact ⟨rfl, track, rfl, filled⟩

namespace Storage
variable {storage : Storage} {reading : Option Source}

theorem granted_of_barring {α : Type} {error? : Option Error} {act : Except Error α × Storage}
    {value : α} (granted : (storage.barring error? act).1 = .ok value) :
    storage.barring error? act = act := by
  cases error? with
  | some error => exact nomatch granted
  | none => rfl

theorem addTrack_content {tracks : List MuxedTrack}
    (writing : storage.library.content = (reading, some tracks)) {format : Format} {isAudio : Bool}
    {place : Nat} (added : (storage.addTrack format isAudio).1 = .ok place) :
    place = tracks.length ∧ (storage.addTrack format isAudio).2.library.content =
      (reading, some (tracks ++ [⟨format, isAudio, []⟩])) := by
  obtain ⟨⟨sources, leaks, faults, demuxers, _ | ⟨⟨path, newest⟩, older⟩⟩, script, reads, adds,
    writes⟩ := storage
  · exact nomatch (Prod.mk.inj writing).2
  · obtain ⟨source, written⟩ := Prod.mk.inj writing
    cases written
    dsimp only [addTrack] at added ⊢
    have reached := granted_of_barring added
    rw [reached] at added ⊢
    dsimp only [onMuxer, Library.onMuxer, Muxer.addTrack] at added ⊢
    split at added
    next finalized => exact nomatch added
    next unfinished =>
      cases added
      rw [if_neg unfinished]
      exact ⟨rfl, congrArg (·, _) source⟩

theorem write_content {track : MuxedTrack}
    (writing : storage.library.content = (reading, some [track])) {buffer : Bytes} {info : SampleInfo}
    {isAudio stored : Bool} (written : (storage.write 0 buffer info isAudio).1 = .ok stored) :
    ∃ samples, (storage.write 0 buffer info isAudio).2.library.content =
        (reading, some [{ track with samples }]) ∧
      if stored then ∃ sample, sample.time = info.time ∧ samples = track.samples ++ [sample]
      else samples = track.samples := by
  obtain ⟨⟨sources, leaks, faults, demuxers, _ | ⟨⟨path, newest⟩, older⟩⟩, script, reads, adds,
    writes⟩ := storage
  · exact nomatch (Prod.mk.inj writing).2
  · obtain ⟨source, sole⟩ := Prod.mk.inj writing
    have sole : newest.movie.tracks = [track] := Option.some.inj sole
    dsimp only [write] at written ⊢
    have reached := granted_of_barring written
    rw [reached] at written ⊢
    split at written
    next passed =>
      cases written
      exact ⟨track.samples, writing, rfl⟩
    next taken =>
      dsimp only [onMuxer, Library.onMuxer] at written ⊢
      have grown := Muxer.tracks_write written
      dsimp only [Library.content]
      rw [List.head?_cons, Option.map_some]
      cases stored with
      | false =>
        rw [if_neg Bool.false_ne_true, sole] at grown
        exact ⟨track.samples, grown ▸ congrArg (·, _) source, rfl⟩
      | true =>
        obtain ⟨sample, time, grown⟩ := grown
        rw [sole] at grown
        exact ⟨track.samples ++ [sample], grown ▸ congrArg (·, _) source, sample, time, rfl⟩

end Storage

/-- Calls on the way from the look at a sample to its place in the decoder's queue. -/
def IsGlance : Call → Prop
  | .storage .currentTrack | .storage (.read _) | .device (.dequeueInput .decoder _)
  | .device (.inputBuffer .decoder _) => True
  | _ => False

structure Facing (plan : TranscodePlan) (source : Source) (tracks : List MuxedTrack)
    (rig : Rig Bench) : Prop extends Flowing plan source tracks rig where
  own : ∃ demuxer, rig.storage.library.demuxers.head? = some demuxer ∧
    demuxer.currentTrack? = some plan.track.index

section
variable {plan : TranscodePlan} {source : Source} {tracks : List MuxedTrack} {patience : Nat}
  {rig : Rig Bench}

theorem flowing_answer (call : Call) (rig : Rig Bench) (brings : call.BringsNothing)
    (flows : Flowing plan source tracks rig) :
    Flowing plan source tracks ((Rig.world Bench.answer patience).answer call rig).2 := by
  cases call with
  | storage call => exact ⟨(rig.storage.answer_content brings).trans flows.content, flows.holds⟩
  | device call => exact ⟨flows.content, flows.holds.answer brings⟩
  | client call => exact ⟨flows.content, flows.holds⟩

theorem snd_view {α : Type} (storage : Storage) (absent : α) (look : Demuxer → α) :
    (storage.view absent look).2 = storage := by
  obtain ⟨⟨sources, leaks, faults, demuxers, muxers⟩, script, reads, adds, writes⟩ := storage
  cases demuxers <;> rfl

theorem view_newest {α : Type} {storage : Storage} {demuxer : Demuxer}
    (newest : storage.library.demuxers.head? = some demuxer) (absent : α) (look : Demuxer → α) :
    (storage.view absent look).1 = look demuxer := by
  obtain ⟨⟨sources, leaks, faults, _ | ⟨first, older⟩, muxers⟩, script, reads, adds, writes⟩ :=
    storage
  · exact nomatch newest
  · cases newest
    rfl

theorem demuxers_read (storage : Storage) (room : Nat) :
    (storage.read room).2.library.demuxers = storage.library.demuxers := by
  dsimp only [Storage.read]
  cases storage.script.demuxer.readError.on? storage.reads with
  | some error => rfl
  | none =>
    cases storage.script.demuxer.readNone.on? storage.reads with
    | some _ => rfl
    | none => exact congrArg (·.library.demuxers) (snd_view _ _ _)

theorem facing_answer (call : Call) (rig : Rig Bench) (glances : IsGlance call)
    (faces : Facing plan source tracks rig) :
    Facing plan source tracks ((Rig.world Bench.answer patience).answer call rig).2 := by
  obtain ⟨demuxer, newest, own⟩ := faces.own
  unfold IsGlance at glances
  split at glances
  next =>
    exact ⟨flowing_answer _ rig trivial faces.toFlowing, demuxer,
      (congrArg (·.library.demuxers.head?) (snd_view rig.storage _ _)).trans newest, own⟩
  next room =>
    exact ⟨flowing_answer _ rig trivial faces.toFlowing, demuxer,
      (congrArg List.head? (demuxers_read rig.storage room)).trans newest, own⟩
  next => exact ⟨flowing_answer _ rig trivial faces.toFlowing, demuxer, newest, own⟩
  next => exact ⟨flowing_answer _ rig trivial faces.toFlowing, demuxer, newest, own⟩
  next => exact glances.elim

theorem Facing.shows (faces : Facing plan source tracks rig) :
    source.Shows plan.track.index ((rig.storage.view none (·.currentTime?)).1.getD 0) := by
  obtain ⟨demuxer, newest, own⟩ := faces.own
  have reading := (Prod.mk.inj faces.content).1
  rw [newest] at reading
  cases reading
  rw [view_newest newest]
  exact Demuxer.shows_current own

/-- Where the demuxer says that its sample is of the plan's track, it is. -/
theorem Flowing.faces (flows : Flowing plan source tracks rig)
    (looked : (rig.storage.view none (·.currentTrack?)).1 = some plan.track.index) :
    Facing plan source tracks rig := by
  cases newest : rig.storage.library.demuxers.head? with
  | none =>
    have absent := (Prod.mk.inj flows.content).1
    rw [newest] at absent
    exact nomatch absent
  | some demuxer =>
    rw [view_newest newest] at looked
    exact ⟨flows, demuxer, newest, looked⟩

end

/-- Where a session stands that has written all that it counts, and nothing that is not wanted. -/
def Stands (plan : TranscodePlan) (source : Source) (session : Standing)
    (desk : Desk (Rig Bench)) : Prop :=
  ∃ tracks, Flowing plan source tracks desk.outside ∧ Filed plan source session.output tracks

section
variable {plan : TranscodePlan} {source : Source} {tracks : List MuxedTrack} {patience : Nat}
  {desk : Desk (Rig Bench)} {session : Standing}

theorem Flowing.before {α β : Type} {work : Work (Rig Bench) α} {next : α → Work (Rig Bench) β}
    {reached : β → Desk (Rig Bench) → Prop} (flows : Flowing plan source tracks desk.outside)
    (uses : work.Uses Call.BringsNothing)
    (onward : ∀ value left, Flowing plan source tracks left.outside →
      (next value).Returns (Rig.world Bench.answer patience) left reached fun _ _ => True) :
    (work >>= next).Returns (Rig.world Bench.answer patience) desk reached fun _ _ => True :=
  uses.before flowing_answer flows onward

theorem Flowing.granted {α β : Type} {work : Work (Rig Bench) (Except Error α)}
    {next : α → Work (Rig Bench) β} {reached : β → Desk (Rig Bench) → Prop}
    (flows : Flowing plan source tracks desk.outside) (uses : work.Uses Call.BringsNothing)
    (onward : ∀ value left, Flowing plan source tracks left.outside →
      (next value).Returns (Rig.world Bench.answer patience) left reached fun _ _ => True) :
    (work >>= fun answer => settle answer >>= next).Returns (Rig.world Bench.answer patience) desk
      reached fun _ _ => True :=
  uses.before_settle flowing_answer flows onward

theorem Facing.before {α β : Type} {work : Work (Rig Bench) α} {next : α → Work (Rig Bench) β}
    {reached : β → Desk (Rig Bench) → Prop} (faces : Facing plan source tracks desk.outside)
    (uses : work.Uses IsGlance)
    (onward : ∀ value left, Facing plan source tracks left.outside →
      (next value).Returns (Rig.world Bench.answer patience) left reached fun _ _ => True) :
    (work >>= next).Returns (Rig.world Bench.answer patience) desk reached fun _ _ => True :=
  uses.before facing_answer faces onward

theorem Facing.granted {α β : Type} {work : Work (Rig Bench) (Except Error α)}
    {next : α → Work (Rig Bench) β} {reached : β → Desk (Rig Bench) → Prop}
    (faces : Facing plan source tracks desk.outside) (uses : work.Uses IsGlance)
    (onward : ∀ value left, Facing plan source tracks left.outside →
      (next value).Returns (Rig.world Bench.answer patience) left reached fun _ _ => True) :
    (work >>= fun answer => settle answer >>= next).Returns (Rig.world Bench.answer patience) desk
      reached fun _ _ => True :=
  uses.before_settle facing_answer faces onward

theorem Flowing.queueing {α : Type} {side : Side} {slot : Nat} {content : Bytes} {info : SampleInfo}
    {next : Unit → Work (Rig Bench) α} {reached : α → Desk (Rig Bench) → Prop}
    (flows : Flowing plan source tracks desk.outside)
    (known : info.flags.isEndOfStream = false →
      match side with
      | .decoder => source.Shows plan.track.index info.time
      | .encoder => Carried plan source info.time)
    (onward : ∀ left, Flowing plan source tracks left.outside →
      (next ()).Returns (Rig.world Bench.answer patience) left reached fun _ _ => True) :
    (device (.queueInput side slot content info) >>= fun answer => settle answer >>= next).Returns
      (Rig.world Bench.answer patience) desk reached fun _ _ => True :=
  returns_ask (returns_settle (fun _ _ => trivial) fun _ _ =>
    onward _ ⟨flows.content, flows.holds.queueInput slot content known⟩)

theorem dequeueInput_brings {side : Side} :
    (plan.dequeueInput side : Work (Rig Bench) (Option Nat)).Uses Call.BringsNothing :=
  .bind (.call trivial trivial) fun _ => .settle

theorem endFeeding_stands (flows : Flowing plan source tracks desk.outside)
    (filed : Filed plan source session.output tracks) (slot : Nat) (content : Bytes) :
    (TranscodePlan.endFeeding session slot content).Returns (Rig.world Bench.answer patience) desk
      (Stands plan source) fun _ _ => True :=
  flows.granted (.call rfl trivial) fun _ _ held => returns_pure ⟨tracks, held, filed⟩

theorem feed_stands (stands : Stands plan source session desk) :
    (plan.feed session).Returns (Rig.world Bench.answer patience) desk (Stands plan source)
      fun _ _ => True := by
  obtain ⟨tracks, flows, filed⟩ := stands
  have looked : Flowing plan source tracks _ :=
    @flowing_answer plan source tracks patience (.storage .currentTrack) desk.outside trivial flows
  refine returns_ask ?_
  cases current : ((Rig.world Bench.answer patience).answer (.storage .currentTrack)
      desk.outside).1 with
  | none =>
    refine looked.before dequeueInput_brings fun lent left held => ?_
    cases lent with
    | none => exact returns_pure ⟨tracks, held, filed⟩
    | some slot => exact endFeeding_stands held filed slot #[]
  | some index =>
    dsimp only
    split
    next foreign =>
      exact looked.before (.call trivial trivial) fun _ _ held =>
        returns_pure ⟨tracks, held, filed⟩
    next own =>
      obtain rfl : index = plan.track.index := Decidable.not_not.mp own
      have faces := @facing_answer plan source tracks patience (.storage .currentTrack) desk.outside
        trivial (flows.faces current)
      refine faces.before (.bind (.call trivial trivial) fun _ => .settle) fun lent left held => ?_
      cases lent with
      | none => exact returns_pure ⟨tracks, held.toFlowing, filed⟩
      | some slot =>
        refine held.granted (.call trivial trivial) fun buffer left held => ?_
        refine held.granted (.call trivial trivial) fun found left held => ?_
        cases found with
        | none => exact endFeeding_stands held.toFlowing filed slot buffer
        | some data =>
          have timed := @flowing_answer plan source tracks patience (.storage .currentTime) _ trivial
            held.toFlowing
          refine returns_ask (timed.queueing (fun _ => held.shows) fun left held => ?_)
          refine held.before (.call trivial trivial) fun _ left held => ?_
          refine held.before (.report (fun _ => trivial) _) fun _ left held => ?_
          exact returns_pure ⟨tracks, held, filed⟩

theorem signalEnd_stands (stands : Stands plan source session desk) :
    (plan.signalEnd session).Returns (Rig.world Bench.answer patience) desk (Stands plan source)
      fun _ _ => True := by
  obtain ⟨tracks, flows, filed⟩ := stands
  unfold TranscodePlan.signalEnd
  dsimp only
  split
  next surface =>
    exact flows.granted (.call trivial trivial) fun _ _ held => returns_pure ⟨tracks, held, filed⟩
  next raw =>
    refine flows.before dequeueInput_brings fun lent left held => ?_
    cases lent with
    | none => exact returns_pure ⟨tracks, held, filed⟩
    | some slot =>
      exact held.granted (.call Flags.isEndOfStream_endOfStream trivial) fun _ _ held =>
        returns_pure ⟨tracks, held, filed⟩

theorem register_stands (stands : Stands plan source session desk) (format : Format) :
    (TranscodePlan.register session format).Returns (Rig.world Bench.answer patience) desk
      (fun next left => Stands plan source next left ∧ next.destination = some 0)
      fun _ _ => True := by
  obtain ⟨tracks, flows, filed⟩ := stands
  unfold TranscodePlan.register
  cases known : session.destination with
  | some place =>
    have filed' := filed
    rw [Standing.output, known] at filed'
    obtain ⟨rfl, -⟩ := filed'
    exact returns_pure ⟨⟨tracks, flows, filed⟩, known⟩
  | none =>
    rw [Standing.output, known] at filed
    obtain ⟨rfl, unwritten⟩ := filed
    refine returns_ask (returns_settle (fun _ _ => trivial) fun place added => ?_)
    obtain ⟨rfl, content⟩ := Storage.addTrack_content flows.content added
    exact returns_pure ⟨⟨_, ⟨content, flows.holds⟩, rfl, _, rfl, rfl, unwritten.symm, nofun⟩, rfl⟩

theorem storeEncoded_stands (stands : Stands plan source session desk) (index : Nat) {info : SampleInfo}
    (known : info.flags.isCodecConfig = true ∨ Carried plan source info.time) :
    (plan.storeEncoded session index info).Returns (Rig.world Bench.answer patience) desk
      (Stands plan source) fun _ _ => True := by
  obtain ⟨tracks, flows, filed⟩ := stands
  refine flows.granted (.call trivial trivial) fun buffer left held => ?_
  split
  next isConfig =>
    split
    next registered => exact returns_pure ⟨tracks, held, filed⟩
    next unregistered =>
      split
      next misses => exact returns_fail trivial
      next configuration found =>
        exact (register_stands ⟨tracks, held, filed⟩ _).imp (fun _ _ both => both.1) fun _ _ => id
  next isSample =>
    split
    next unregistered => exact returns_fail trivial
    next place registered =>
      rw [Standing.output, registered] at filed
      obtain ⟨rfl, track, rfl, filled⟩ := filed
      have carried := known.resolve_left isSample
      refine returns_ask (returns_settle (fun _ _ => trivial) fun stored written => ?_)
      obtain ⟨samples, content, added⟩ := Storage.write_content held.content written
      cases stored with
      | true =>
        obtain ⟨sample, shown, rfl⟩ := added
        exact returns_pure ⟨_, ⟨content, held.holds⟩,
          filed_sole registered (filled.append (shown ▸ carried))⟩
      | false =>
        cases added
        exact returns_pure ⟨_, ⟨content, held.holds⟩, filed_sole registered filled⟩

theorem dequeueOutput_holds {side : Side} (flows : Flowing plan source tracks desk.outside) :
    (plan.dequeueOutput side).Returns (Rig.world Bench.answer patience) desk
      (fun status left => Flowing plan source tracks left.outside ∧
        ∀ index info, status = .buffer index info →
          (desk.outside.device.dequeueOutput side).1 = .ok (.buffer index info))
      fun _ _ => True := by
  have polled := @flowing_answer plan source tracks patience
    (.device (.dequeueOutput side plan.timeout)) desk.outside trivial flows
  refine returns_ask ?_
  cases found : retried .tryAgainLater
      ((Rig.world Bench.answer patience).answer (.device (.dequeueOutput side plan.timeout))
        desk.outside).1 with
  | error error => exact returns_fail trivial
  | ok status =>
    refine returns_pure ⟨polled, fun index info same => ?_⟩
    subst same
    exact retried_eq_ok found (nofun)

theorem drainEncoder_stands (stands : Stands plan source session desk) :
    (plan.drainEncoder session).Returns (Rig.world Bench.answer patience) desk (Stands plan source)
      fun _ _ => True := by
  obtain ⟨tracks, flows, filed⟩ := stands
  refine (dequeueOutput_holds flows).bind fun status left polled => ?_
  obtain ⟨held, put⟩ := polled
  have still : Stands plan source session left := ⟨tracks, held, filed⟩
  cases status with
  | tryAgainLater => exact returns_pure still
  | buffersChanged => exact returns_pure still
  | formatChanged format =>
    exact (register_stands still format).bind fun next left both => returns_pure both.1
  | buffer index info =>
    have stored : (if 1 < info.size then plan.storeEncoded session index info
        else pure session).Returns (Rig.world Bench.answer patience) left (Stands plan source)
          fun _ _ => True :=
      returns_ite (fun long =>
        storeEncoded_stands still index (flows.holds.encoded (put index info rfl) long))
        fun short => returns_pure still
    dsimp only
    rw [ite_bind]
    refine stored.bind fun next left stands => ?_
    obtain ⟨tracks, held, filed⟩ := stands
    exact held.granted (.call trivial trivial) fun _ _ held => returns_pure ⟨tracks, held, filed⟩

theorem submit_flows (flows : Flowing plan source tracks desk.outside) {time : Int}
    (wanted : Wanted plan source time) :
    (plan.submit time).Returns (Rig.world Bench.answer patience) desk
      (fun _ left => Flowing plan source tracks left.outside) fun _ _ => True := by
  unfold TranscodePlan.submit
  split
  next surface =>
    refine flows.granted (.call trivial trivial) fun frame left held => ?_
    refine returns_ask (returns_ask (returns_settle (fun _ _ => trivial) fun _ _ => ?_))
    have carried := wanted.carried
    rw [TranscodePlan.stamped_surface surface] at carried
    exact returns_pure ⟨held.content, held.holds.swap_presentAt carried frame⟩
  next raw =>
    have carried := wanted.carried
    rw [TranscodePlan.stamped_raw raw] at carried
    refine flows.before dequeueInput_brings fun lent left held => ?_
    cases lent with
    | none => exact returns_pure held
    | some slot =>
      refine held.granted (.call trivial trivial) fun frame left held => ?_
      refine held.granted (.call trivial trivial) fun buffer left held => ?_
      refine returns_settle (fun _ _ => trivial) fun converted _ => ?_
      exact held.queueing (fun _ => carried) fun left held => returns_pure held

theorem renderFrame_stands (stands : Stands plan source session desk) {time : Int}
    (wanted : Wanted plan source time) :
    (plan.renderFrame session time).Returns (Rig.world Bench.answer patience) desk
      (Stands plan source) fun _ _ => True := by
  obtain ⟨tracks, flows, filed⟩ := stands
  refine flows.before (.call trivial trivial) fun delivered left held => ?_
  cases delivered with
  | error refused => exact returns_pure ⟨tracks, held, filed⟩
  | ok _ =>
    refine (submit_flows held wanted).bind fun taken left held => ?_
    cases taken <;> exact returns_pure ⟨tracks, held, filed⟩

/-- The end of the stream is no picture, and every other buffer is of the track. -/
theorem wanted_of_render {info : SampleInfo}
    (decoded : source.Shows plan.track.index info.time ∨ info = ⟨0, 0, 0, .endOfStream⟩)
    (render : (plan.isPicture info && plan.window.admits info.time) = true) :
    Wanted plan source info.time := by
  obtain ⟨isPicture, admits⟩ := Bool.and_eq_true_iff.mp render
  rcases decoded with shown | rfl
  · exact ⟨shown, admits⟩
  · simp [TranscodePlan.isPicture] at isPicture

theorem handleDecoded_stands (stands : Stands plan source session desk) (index : Nat)
    {info : SampleInfo}
    (decoded : source.Shows plan.track.index info.time ∨ info = ⟨0, 0, 0, .endOfStream⟩) :
    (plan.handleDecoded session index info).Returns (Rig.world Bench.answer patience) desk
      (Stands plan source) fun _ _ => True := by
  obtain ⟨tracks, flows, filed⟩ := stands
  have rendered (next : Standing) (desk : Desk (Rig Bench)) (stands : Stands plan source next desk) :
      (if plan.isPicture info && plan.window.admits info.time then plan.renderFrame next info.time
        else pure next).Returns (Rig.world Bench.answer patience) desk (Stands plan source)
          fun _ _ => True :=
    returns_ite (fun render => renderFrame_stands stands (wanted_of_render decoded render))
      fun skip => returns_pure stands
  simp only [TranscodePlan.handleDecoded, ite_bind]
  refine flows.granted (.call trivial trivial) fun _ left held => ?_
  refine (rendered _ left ?_).bind fun next left stands => ?_
  · exact ⟨tracks, held, filed⟩
  · exact returns_ite (fun ends => signalEnd_stands stands) fun goesOn => returns_pure stands

theorem drainDecoder_stands (stands : Stands plan source session desk) :
    (plan.drainDecoder session).Returns (Rig.world Bench.answer patience) desk (Stands plan source)
      fun _ _ => True := by
  obtain ⟨tracks, flows, filed⟩ := stands
  refine (dequeueOutput_holds flows).bind fun status left polled => ?_
  obtain ⟨held, put⟩ := polled
  have still : Stands plan source session left := ⟨tracks, held, filed⟩
  cases status with
  | tryAgainLater => exact returns_pure still
  | buffersChanged => exact returns_pure still
  | formatChanged format => exact returns_pure still
  | buffer index info =>
    have handled : (plan.handleDecoded session index info).Returns (Rig.world Bench.answer patience)
        left (Stands plan source) fun _ _ => True :=
      handleDecoded_stands still index (flows.holds.decoded (put index info rfl))
    exact handled.bind fun next left stands => returns_pure stands

theorem beginCycle_stands (stands : Stands plan source session desk) :
    (plan.beginCycle session).Returns (Rig.world Bench.answer patience) desk (Stands plan source)
      fun _ _ => True := by
  obtain ⟨tracks, flows, filed⟩ := stands
  have fed (desk : Desk (Rig Bench)) (stands : Stands plan source session desk) :
      (if session.feeding then plan.feed session else pure session).Returns
        (Rig.world Bench.answer patience) desk (Stands plan source) fun _ _ => True :=
    returns_ite (fun feeding => feed_stands stands) fun fed => returns_pure stands
  have told (next : Standing) (desk : Desk (Rig Bench)) (stands : Stands plan source next desk) :
      (if next.endPending then plan.signalEnd next else pure next).Returns
        (Rig.world Bench.answer patience) desk (Stands plan source) fun _ _ => True :=
    returns_ite (fun pending => signalEnd_stands stands) fun told => returns_pure stands
  simp only [TranscodePlan.beginCycle, ite_bind]
  refine flows.before (.check trivial) fun _ left held => ?_
  refine (fed left ⟨tracks, held, filed⟩).bind fun next left stands => ?_
  exact (told next left stands).bind fun next left stands => returns_pure stands

theorem drive_stands (limit : Nat) (stands : Stands plan source session desk) :
    (plan.drive limit session).Returns (Rig.world Bench.answer patience) desk (Stands plan source)
      fun _ _ => True := by
  induction limit generalizing session desk with
  | zero => trivial
  | succ limit ih =>
    unfold TranscodePlan.drive
    split
    next finish => exact returns_pure stands
    next idle =>
      exact (beginCycle_stands stands).bind fun _ _ => ih
    next encoder =>
      exact (drainEncoder_stands stands).bind fun _ _ => ih
    next decoder =>
      exact (drainDecoder_stands stands).bind fun _ _ => ih

end

def Fills (plan : TranscodePlan) (source : Source) (outcome : TranscodeOutcome)
    (desk : Desk (Rig Bench)) : Prop :=
  ∃ track, Flowing plan source [track] desk.outside ∧ Filled plan source outcome.written track

section
variable {plan : TranscodePlan} {source : Source} {patience : Nat} {desk : Desk (Rig Bench)}

theorem finish_fills {session : Standing} (stands : Stands plan source session desk) :
    (plan.finish session).Returns (Rig.world Bench.answer patience) desk (Fills plan source)
      fun _ _ => True := by
  refine (register_stands stands plan.plainFormat).bind fun next left both => ?_
  obtain ⟨⟨tracks, flows, filed⟩, registered⟩ := both
  rw [Standing.output, registered] at filed
  obtain ⟨-, track, rfl, filled⟩ := filed
  exact returns_pure ⟨track, flows, filled⟩

theorem bringsNothing_of_isSetting {call : Call} (setting : call.IsSetting) : call.BringsNothing := by
  unfold Call.IsSetting at setting
  split at setting <;> trivial

theorem runSelected_fills (flows : Flowing plan source [] desk.outside) :
    plan.runSelected.Returns (Rig.world Bench.answer patience) desk (Fills plan source)
      fun _ _ => True := by
  have widens (call : Call) (setting : call.IsCodecSetting) : call.BringsNothing :=
    bringsNothing_of_isSetting setting.isSetting
  refine flows.granted (.call trivial trivial) fun _ left held => ?_
  refine held.granted (.call trivial trivial) fun input left held => ?_
  refine held.before (TranscodePlan.openCodecs_uses.weaken widens) fun _ left held => ?_
  have begun : Stands plan source {} left := ⟨[], held, rfl, rfl⟩
  refine returns_ensuring (returns_patience ((drive_stands _ begun).bind fun session left stands => ?_))
  refine (finish_fills stands).imp (fun outcome left fills => ?_) fun _ _ => id
  obtain ⟨track, held, filled⟩ := fills
  have closes : (plan.closeCodecs : Work (Rig Bench) Unit).Uses Call.BringsNothing :=
    (TranscodePlan.closeCodecs_tidies.weaken widens).uses
  exact ⟨track, closes.keeps_outside flowing_answer left held, filled⟩

/-- A transcode that succeeds has written one track, of as many samples as it counts, each of which
shows a picture of the source's track that the window admits. -/
theorem transcode_fills (flows : Flowing plan source [] desk.outside) :
    (transcode plan).Returns (Rig.world Bench.answer patience) desk (Fills plan source)
      fun _ _ => True := by
  refine flows.granted (.call trivial trivial) fun _ left held => ?_
  refine returns_bind (returns_outcome ((runSelected_fills held).imp (fun outcome left fills => ?_)
    fun error left _ => ?_))
  · obtain ⟨track, held, filled⟩ := fills
    exact held.before (.call trivial trivial) fun _ left held => returns_pure ⟨track, held, filled⟩
  · exact returns_ask (returns_fail trivial)

end

end Recode.Simulation
