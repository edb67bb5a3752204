import Recode.Proofs.MovieUnderWay

/-!
Sessions keep count of the samples that they write, and do so by hand. Whatever the codecs, the
containers and the client do, a session that succeeds has added one track to the movie under way, and
counts as many samples as that track has; a copy also tells the time of the first.
-/

namespace Recode.Simulation
open Recode.Media Recode.Container Recode.Device Recode.Progress Recode.Session
open Recode.Session.Work

variable {σ : Type} {world : World σ} {shelf : σ → Storage} {path : Path}
  {earlier : List MuxedTrack} {desk : Desk σ}

/-- Behind the earlier tracks there is the copy, of which the outcome tells the size and the first
time. -/
def Copied (path : Path) (earlier : List MuxedTrack) (isAudio : Bool) (outcome : CopyOutcome)
    (storage : Storage) : Prop :=
  ∃ track, storage.Writes path (earlier ++ [track]) ∧ track.isAudio = isAudio ∧
    outcome.written = track.samples.length ∧ outcome.firstTime = track.samples.head?.map (·.time)

namespace CopyPlan
variable {plan : CopyPlan} {copying : CopyStanding}

theorem store_counts (houses : Houses world shelf) (last : plan.destination = earlier.length)
    (copied : Copied path earlier plan.track.isAudio copying.toCopyOutcome (shelf desk.outside))
    (size : Nat) (time : Int) :
    (plan.store copying size time).Returns world desk
      (fun next left => Copied path earlier plan.track.isAudio next.toCopyOutcome (shelf left.outside))
      fun _ _ => True := by
  obtain ⟨track, writes, isAudio, written, first⟩ := copied
  unfold CopyPlan.store
  rw [last]
  refine houses.before writes (.call trivial trivial) fun flags left held => ?_
  refine houses.write held fun stored left samples held grown => ?_
  cases stored with
  | false =>
    obtain rfl : samples = track.samples := grown
    exact returns_pure ⟨track, held, isAudio, written, first⟩
  | true =>
    obtain ⟨sample, rfl, rfl⟩ := grown
    have counted (desk : Desk σ) (held : (shelf desk.outside).Writes path
        (earlier ++ [{ track with samples := track.samples ++ [sample] }])) :
        Copied path earlier plan.track.isAudio
          { copying.toCopyOutcome with
            firstTime := copying.firstTime.or (some sample.time), written := copying.written + 1 }
          (shelf desk.outside) := by
      refine ⟨_, held, isAudio, ?_, ?_⟩
      · simp only [written, List.length_append, List.length_singleton]
      · simp only [first]
        cases track.samples <;> rfl
    refine returns_ite (fun written => ?_) fun empty => absurd rfl empty
    refine returns_ite (fun reporting => ?_) fun silent => returns_pure (counted left held)
    exact houses.before held (.report (fun _ => trivial) _) fun _ left held =>
      returns_pure (counted left held)

theorem round_counts (houses : Houses world shelf) (last : plan.destination = earlier.length)
    (copied : Copied path earlier plan.track.isAudio copying.toCopyOutcome (shelf desk.outside)) :
    (plan.round copying).Returns world desk
      (fun next left =>
        Copied path earlier plan.track.isAudio next.1.toCopyOutcome (shelf left.outside))
      fun _ _ => True := by
  obtain ⟨track, writes, facts⟩ := copied
  refine houses.before writes (.check trivial) fun _ left held => ?_
  refine houses.before held (.call trivial trivial) fun current left held => ?_
  cases current with
  | none => exact returns_pure ⟨track, held, facts⟩
  | some index =>
    refine returns_ite (fun foreign => ?_) fun own => ?_
    · exact houses.before held (.call trivial trivial) fun _ left held =>
        returns_pure ⟨track, held, facts⟩
    · refine houses.granted held (.call trivial trivial) fun found left held => ?_
      cases found with
      | none => exact returns_pure ⟨track, held, facts⟩
      | some data =>
        refine houses.before held (.call trivial trivial) fun time left held => ?_
        have copied : Copied path earlier plan.track.isAudio (copying.holding data).toCopyOutcome
            (shelf left.outside) := ⟨track, held, facts⟩
        refine returns_ite (fun ended => returns_pure copied) fun inside => ?_
        refine (store_counts houses last copied data.size _).bind fun next left copied => ?_
        obtain ⟨track, held, facts⟩ := copied
        exact houses.before held (.call trivial trivial) fun _ left held =>
          returns_pure ⟨track, held, facts⟩

theorem rounds_count (houses : Houses world shelf) (last : plan.destination = earlier.length)
    (limit : Nat)
    (copied : Copied path earlier plan.track.isAudio copying.toCopyOutcome (shelf desk.outside)) :
    (plan.rounds limit copying).Returns world desk
      (fun next left => Copied path earlier plan.track.isAudio next.toCopyOutcome (shelf left.outside))
      fun _ _ => True := by
  induction limit generalizing copying desk with
  | zero => trivial
  | succ limit ih =>
    exact (round_counts houses last copied).bind fun next left copied =>
      returns_ite (fun more => ih copied) fun done => returns_pure copied

end CopyPlan

/-- A copy that succeeds has added its track, and tells how much that track has and when it begins. -/
theorem copyTrack_counts (houses : Houses world shelf)
    (writes : (shelf desk.outside).Writes path earlier) {track : Track} {window : Window}
    {reporting : Bool} :
    (copyTrack track window reporting).Returns world desk
      (fun outcome left => Copied path earlier track.isAudio outcome (shelf left.outside))
      fun _ _ => True := by
  refine houses.addTrack writes fun left held => ?_
  cases track.format.maxInputSize with
  | none => exact returns_fail trivial
  | some room =>
    refine houses.granted held (.call trivial trivial) fun _ left held => ?_
    let plan : CopyPlan := ⟨track, earlier.length, window, room, reporting⟩
    have ran : plan.run.Returns world left (fun outcome left =>
        Copied path earlier track.isAudio outcome (shelf left.outside)) fun _ _ => True := by
      refine houses.granted held (.call trivial trivial) fun _ left held => returns_patience ?_
      exact (CopyPlan.rounds_count houses rfl _ ⟨_, held, rfl, rfl, rfl⟩).bind
        fun _ _ copied => returns_pure copied
    refine returns_bind (returns_outcome (ran.imp (fun outcome left copied => ?_) fun error left _ => ?_))
    · obtain ⟨track, held, facts⟩ := copied
      exact houses.before held (.call trivial trivial) fun _ left held =>
        returns_pure ⟨track, held, facts⟩
    · exact returns_ask (returns_fail trivial)

/-- A track of pictures, of as many samples as were counted, is behind the earlier tracks; or there is
none yet, and nothing was counted. -/
def Encoded (path : Path) (earlier : List MuxedTrack) : Option Nat × Nat → Storage → Prop
  | (none, written), storage => storage.Writes path earlier ∧ written = 0
  | (some place, written), storage => place = earlier.length ∧ ∃ track,
      storage.Writes path (earlier ++ [track]) ∧ track.isAudio = false ∧
        written = track.samples.length

theorem Encoded.writes {output : Option Nat × Nat} {storage : Storage}
    (encoded : Encoded path earlier output storage) :
    ∃ tracks, storage.Writes path tracks ∧
      ∀ other : Storage, other.Writes path tracks → Encoded path earlier output other := by
  obtain ⟨_ | place, written⟩ := output
  · exact ⟨earlier, encoded.1, fun other held => ⟨held, encoded.2⟩⟩
  · obtain ⟨same, track, writes, facts⟩ := encoded
    exact ⟨_, writes, fun other held => ⟨same, track, held, facts⟩⟩

namespace TranscodePlan
variable {plan : TranscodePlan} {session : Standing}

theorem upstream_counts (houses : Houses world shelf)
    (encoded : Encoded path earlier session.output (shelf desk.outside)) {work : Work σ Standing}
    (uses : work.Uses Call.IsUpstream) (yields : work.Yields (·.output = session.output)) :
    work.Returns world desk
      (fun next left => Encoded path earlier next.output (shelf left.outside)) fun _ _ => True := by
  obtain ⟨tracks, writes, still⟩ := encoded.writes
  have keeps : work.Keeps world fun desk => (shelf desk.outside).Writes path tracks :=
    houses.keeps_writes (uses.weaken fun _ => Call.IsUpstream.writesNothing)
  refine ((yields world desk).keeping keeps writes).imp (fun next left both => ?_) fun _ _ _ => trivial
  exact both.1 ▸ still _ both.2

theorem register_counts (houses : Houses world shelf)
    (encoded : Encoded path earlier session.output (shelf desk.outside)) (format : Format) :
    (TranscodePlan.register session format).Returns world desk
      (fun next left => Encoded path earlier next.output (shelf left.outside) ∧
        next.destination = some earlier.length ∧ next.written = session.written)
      fun _ _ => True := by
  unfold Standing.output at encoded
  unfold TranscodePlan.register
  cases known : session.destination with
  | some place =>
    rw [known] at encoded
    have registered : session.destination = some earlier.length := encoded.1 ▸ known
    refine returns_pure ⟨?_, registered, rfl⟩
    rw [Standing.output, known]
    exact encoded
  | none =>
    rw [known] at encoded
    exact houses.addTrack encoded.1 fun left held =>
      returns_pure ⟨⟨rfl, _, held, rfl, encoded.2⟩, rfl, rfl⟩

theorem storeEncoded_counts (houses : Houses world shelf)
    (encoded : Encoded path earlier session.output (shelf desk.outside)) (index : Nat)
    (info : SampleInfo) :
    (plan.storeEncoded session index info).Returns world desk
      (fun next left => Encoded path earlier next.output (shelf left.outside)) fun _ _ => True := by
  obtain ⟨tracks, writes, still⟩ := encoded.writes
  refine houses.granted writes (.call trivial trivial) fun buffer left held => ?_
  have encoded := still _ held
  refine returns_ite (fun isConfig => ?_) fun isSample => ?_
  · refine returns_ite (fun known => returns_pure encoded) fun unknown => ?_
    cases info.slice? buffer with
    | none => exact returns_fail trivial
    | some configuration =>
      exact (register_counts houses encoded _).imp (fun _ _ both => both.1) fun _ _ => id
  · cases known : session.destination with
    | none => exact returns_fail trivial
    | some place =>
      rw [Standing.output, known] at encoded
      obtain ⟨rfl, track, held, isVideo, written⟩ := encoded
      refine houses.write held fun stored left samples held grown => ?_
      cases stored with
      | false =>
        obtain rfl : samples = track.samples := grown
        refine returns_pure ?_
        show Encoded path earlier (session.destination, session.written) (shelf left.outside)
        rw [known]
        exact ⟨rfl, track, held, isVideo, written⟩
      | true =>
        obtain ⟨sample, -, rfl⟩ := grown
        refine returns_pure ?_
        show Encoded path earlier (some earlier.length, session.written + 1) (shelf left.outside)
        refine ⟨rfl, _, held, isVideo, ?_⟩
        rw [List.length_append, List.length_singleton, written]

theorem drainEncoder_counts (houses : Houses world shelf)
    (encoded : Encoded path earlier session.output (shelf desk.outside)) :
    (plan.drainEncoder session).Returns world desk
      (fun next left => Encoded path earlier next.output (shelf left.outside)) fun _ _ => True := by
  obtain ⟨tracks, writes, still⟩ := encoded.writes
  have polls : (plan.dequeueOutput .encoder : Work σ OutputStatus).Uses Call.WritesNothing :=
    TranscodePlan.dequeueOutput_uses trivial
  simp only [TranscodePlan.drainEncoder, ite_bind]
  refine houses.before writes polls fun status left held => ?_
  have encoded := still _ held
  cases status with
  | tryAgainLater => exact returns_pure encoded
  | buffersChanged => exact returns_pure encoded
  | formatChanged format =>
    exact (register_counts houses encoded format).bind fun next left both => returns_pure both.1
  | buffer index info =>
    have stored : (if 1 < info.size then plan.storeEncoded session index info
        else pure session).Returns world left
          (fun next left => Encoded path earlier next.output (shelf left.outside)) fun _ _ => True :=
      returns_ite (fun long => storeEncoded_counts houses encoded index info)
        fun short => returns_pure encoded
    refine stored.bind fun next left encoded => ?_
    obtain ⟨tracks, writes, still⟩ := encoded.writes
    exact houses.granted writes (.call trivial trivial) fun _ left held => returns_pure (still _ held)

theorem drive_counts (houses : Houses world shelf) (limit : Nat)
    (encoded : Encoded path earlier session.output (shelf desk.outside)) :
    (plan.drive limit session).Returns world desk
      (fun next left => Encoded path earlier next.output (shelf left.outside)) fun _ _ => True := by
  induction limit generalizing session desk with
  | zero => trivial
  | succ limit ih =>
    unfold TranscodePlan.drive
    split
    next finish => exact returns_pure encoded
    next idle =>
      exact (upstream_counts houses encoded TranscodePlan.beginCycle_uses
        TranscodePlan.beginCycle_yields).bind fun _ _ => ih
    next encoder => exact (drainEncoder_counts houses encoded).bind fun _ _ => ih
    next decoder =>
      exact (upstream_counts houses encoded TranscodePlan.drainDecoder_uses
        TranscodePlan.drainDecoder_yields).bind fun _ _ => ih

end TranscodePlan

theorem transcode_counts (houses : Houses world shelf)
    (writes : (shelf desk.outside).Writes path earlier) {plan : TranscodePlan} :
    (transcode plan).Returns world desk
      (fun outcome left => ∃ track, (shelf left.outside).Writes path (earlier ++ [track]) ∧
        track.isAudio = false ∧ outcome.written = track.samples.length)
      fun _ _ => True := by
  have setting (call : Call) (sets : call.IsCodecSetting) : call.WritesNothing :=
    sets.isSetting.writesNothing
  refine houses.granted writes (.call trivial trivial) fun _ left held => ?_
  have ran : plan.runSelected.Returns world left (fun outcome left => ∃ track,
      (shelf left.outside).Writes path (earlier ++ [track]) ∧ track.isAudio = false ∧
        outcome.written = track.samples.length) fun _ _ => True := by
    refine houses.granted held (.call trivial trivial) fun _ left held => ?_
    refine houses.granted held (.call trivial trivial) fun input left held => ?_
    refine houses.before held (TranscodePlan.openCodecs_uses.weaken setting) fun _ left held => ?_
    have begun : Encoded path earlier (Standing.output {}) (shelf left.outside) := ⟨held, rfl⟩
    refine returns_ensuring (returns_patience ?_)
    refine (TranscodePlan.drive_counts houses _ begun).bind fun session left encoded => ?_
    refine (TranscodePlan.register_counts houses encoded plan.plainFormat).bind fun last left both => ?_
    obtain ⟨encoded, registered, -⟩ := both
    rw [Standing.output, registered] at encoded
    obtain ⟨-, track, held, facts⟩ := encoded
    have closes : (plan.closeCodecs : Work σ Unit).Uses Call.WritesNothing :=
      (TranscodePlan.closeCodecs_tidies.weaken setting).uses
    exact returns_pure ⟨track, houses.keeps_writes closes left held, facts⟩
  refine returns_bind (returns_outcome (ran.imp (fun outcome left counted => ?_) fun error left _ => ?_))
  · obtain ⟨track, held, facts⟩ := counted
    exact houses.before held (.call trivial trivial) fun _ left held => returns_pure ⟨track, held, facts⟩
  · exact returns_ask (returns_fail trivial)

end Recode.Simulation
