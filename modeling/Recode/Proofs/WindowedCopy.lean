import Recode.Proofs.Histories
import Recode.Proofs.MirroredSessions
import Recode.Proofs.SessionConduct
import Recode.Proofs.WholeCopies

/-!
Copies of a window, with nothing left open about what they take. A copy begins with the last sync
sample that is not later than the window's start, or with the first of all sync samples, and takes
everything up to the first sample at the window's end; of that it leaves out what has no bytes.
-/

namespace Recode.Container

namespace Source

/-- Where reading of a track for a time starts: `start` is its last sync sample that is not later, or
its first sync sample if they are all later. -/
structure StartsAt (source : Source) (track : Nat) (time : Int) (passed : List Sample)
    (start : Sample) (later : List Sample) : Prop where
  parted : source.trackSamples track = passed ++ start :: later
  isSync : source.IsSync track start
  nearest :
    (start.time ≤ time ∧ ∀ sample ∈ later, source.IsSync track sample → time < sample.time) ∨
      (∀ sample ∈ source.trackSamples track, source.IsSync track sample → time < sample.time) ∧
        ∀ sample ∈ passed, ¬source.IsSync track sample

end Source

namespace Demuxer
variable {source : Source} {track : Nat}

theorem length_before_mono {first second : Nat} (ordered : first ≤ second) :
    (before source track first).length ≤ (before source track second).length :=
  ((List.take_sublist_take_left ordered).filter _).length_le

theorem startsAt_landing {time : Int} {start : Sample} {place : Nat}
    (found : syncPoint? (syncPoints source track) time .previousSync = some (start, place)) :
    ∃ later, (source.samples.drop place).filter (·.track = track) = start :: later ∧
      source.StartsAt track time (before source track place) start later := by
  have isPoint := mem_of_syncPoint? found
  obtain ⟨own, isSync⟩ := mem_syncPoints.mp isPoint
  obtain ⟨later, ahead, parted⟩ := trackSamples_split own
  have rising := pairwise_syncPoints source track
  refine ⟨later, ahead, parted, isSync, ?_⟩
  rcases Option.or_eq_some_iff.mp found with last | ⟨none_earlier, first⟩
  · refine .inl ⟨by simpa using List.find?_some last, fun sample member syncs => ?_⟩
    by_contra early
    obtain ⟨front, back, rfl⟩ := List.append_of_mem member
    have split : source.trackSamples track =
        (before source track place ++ start :: front) ++ sample :: back := by
      rw [parted, List.append_assoc]
      rfl
    obtain ⟨other, held, comesBefore⟩ := place_of_split split
    -- Were the later sample not later than the time, the seek would not have stopped before it.
    have notBehind : other ≤ place :=
      le_of_find?_reverse rising last (mem_syncPoints.mpr ⟨held, syncs⟩)
        (decide_eq_true (Int.not_lt.mp early))
    have fewer := @length_before_mono source track _ _ notBehind
    rw [comesBefore, List.length_append, List.length_cons] at fewer
    omega
  · refine .inr ⟨fun sample member syncs => ?_, fun sample member syncs => ?_⟩
    · obtain ⟨front, back, split⟩ := List.append_of_mem member
      obtain ⟨other, held, -⟩ := place_of_split split
      have missed := List.find?_eq_none.mp none_earlier (sample, other)
        (List.mem_reverse.mpr (mem_syncPoints.mpr ⟨held, syncs⟩))
      exact Int.not_le.mp fun early => missed (decide_eq_true early)
    · obtain ⟨earlier, isBefore, known⟩ := mem_before.mp member
      have notBefore := le_of_head? rising first (mem_syncPoints.mpr ⟨known, syncs⟩)
      dsimp only at notBefore
      omega

end Demuxer

end Recode.Container

namespace Recode.Session
open Recode.Media Recode.Container Recode.Progress
open Recode.Session.Work

/-- A read that was refused, for lack of room or for another reason. -/
def Exchange.RefusesRead : Exchange → Prop
  | ⟨.storage (.read _), .error _⟩ => True
  | _ => False

namespace History

def Grants (history : History) : Prop := ∀ exchange ∈ history, ¬exchange.RefusesRead

theorem Grants.cons {history : History} (grants : history.Grants) {call : Call} {reply : call.Reply}
    (readsNothing : call.ReadsNothing) : Grants (⟨call, reply⟩ :: history) := by
  intro exchange member refuses
  rcases List.mem_cons.mp member with rfl | earlier
  · unfold Exchange.RefusesRead at refuses
    split at refuses
    next room error same =>
      cases same
      exact readsNothing
    next other => exact refuses
  · exact grants exchange earlier refuses

theorem Grants.read {history : History} (grants : history.Grants) {room : Nat}
    (data? : Option Bytes) : Grants (⟨.storage (.read room), .ok data?⟩ :: history) := by
  intro exchange member refuses
  rcases List.mem_cons.mp member with rfl | earlier
  · exact refuses
  · exact grants exchange earlier refuses

end History

section
variable {σ α β : Type} {history : History} {broken : History → Prop}

theorem Work.Uses.leads_grants {work : Work (History × σ) α} (uses : work.Uses Call.ReadsNothing)
    (grants : history.Grants) : work.Leads history (fun _ => History.Grants) fun _ => True :=
  (uses.leads (fun _ _ _ readsNothing grants => grants.cons readsNothing) grants).imp
    (fun _ _ => id) fun _ _ => trivial

theorem Work.Uses.leads_bind {first : Work (History × σ) α} {next : α → Work (History × σ) β}
    {reached : β → History → Prop} (uses : first.Uses Call.ReadsNothing) (grants : history.Grants)
    (onward : ∀ value left, History.Grants left → (next value).Leads left reached fun _ => True) :
    (first >>= next).Leads history reached fun _ => True :=
  Work.leads_bind ((uses.leads_grants grants).imp onward fun _ => id)

end

section
variable {σ : Type} {history : History}

namespace CopyPlan
variable {plan : CopyPlan}

/-- A refused read ends the copy, so in a round with an outcome none was refused. -/
theorem round_grants (copying : CopyStanding) (grants : history.Grants) :
    (plan.round copying : Work (History × σ) (CopyStanding × Bool)).Leads history
      (fun _ => History.Grants) fun _ => True := by
  refine Uses.leads_bind (.check trivial) grants fun _ left grants =>
    Uses.leads_bind (.call trivial trivial) grants fun current left grants => ?_
  cases current with
  | none => exact leads_pure grants
  | some index =>
    dsimp only
    split
    next foreign => exact Uses.leads_bind (.call trivial trivial) grants fun _ _ grants => leads_pure grants
    next own =>
      refine leads_ask fun answer => leads_settle (fun _ _ => trivial) fun found granted => ?_
      subst granted
      have grants := @History.Grants.read _ grants plan.room found
      exact ((handle_uses found).weaken fun _ => And.right).leads_grants grants

theorem rounds_grants (limit : Nat) (copying : CopyStanding) (grants : history.Grants) :
    (plan.rounds limit copying : Work (History × σ) CopyStanding).Leads history
      (fun _ => History.Grants) fun _ => True := by
  induction limit generalizing copying history with
  | zero => exact leads_stop trivial
  | succ limit ih =>
    refine leads_bind ((round_grants copying grants).imp (fun next left grants => ?_) fun _ => id)
    dsimp only
    split
    next more => exact ih next.1 grants
    next done => exact leads_pure grants

end CopyPlan

theorem copyTrack_grants {track : Track} {window : Window} {reporting : Bool}
    (grants : history.Grants) :
    (copyTrack track window reporting : Work (History × σ) CopyOutcome).Leads history
      (fun _ => History.Grants) fun _ => True := by
  refine Uses.leads_bind (.call trivial trivial) grants fun answer left grants =>
    leads_settle (fun _ _ => trivial) fun destination _ => ?_
  cases track.format.maxInputSize with
  | none => exact leads_fail trivial
  | some room =>
    refine Uses.leads_bind (.call trivial trivial) grants fun answer left grants =>
      leads_settle (fun _ _ => trivial) fun _ _ => ?_
    let plan : CopyPlan := ⟨track, destination, window, room, reporting⟩
    have copied : (plan.run : Work (History × σ) CopyOutcome).Leads left (fun _ => History.Grants)
        fun _ => True := by
      refine Uses.leads_bind (.call trivial trivial) grants fun answer left grants =>
        leads_settle (fun _ _ => trivial) fun _ _ => leads_patience fun limit =>
          leads_bind ((CopyPlan.rounds_grants limit _ grants).imp ?_ fun _ => id)
      exact fun copied left grants => leads_pure grants
    -- Where the copying fails, so does the copy.
    have tried : (Work.outcome plan.run : Work (History × σ) (Except Error CopyOutcome)).Leads left
        (fun result left => ∀ outcome, result = .ok outcome → left.Grants) fun _ => True :=
      leads_outcome (copied.imp (fun _ _ grants _ _ => grants) fun _ _ => ⟨trivial, fun _ _ => nofun⟩)
    refine leads_bind (tried.imp (fun result left grants => ?_) fun _ => id)
    cases result with
    | error error => exact leads_ask fun _ => leads_fail trivial
    | ok outcome =>
      exact Uses.leads_bind (.call trivial trivial) (grants outcome rfl) fun _ _ grants =>
        leads_pure grants

end

end Recode.Session

namespace Recode.Simulation
open Recode.Media Recode.Container Recode.Device Recode.Progress Recode.Session
open Recode.Session.Work

/-- All is ready for a copy: of the demuxer opened last no track is selected, the muxer created last
accepts what it is given, no other failure is to come, and the client neither cancels nor breaks
down. -/
structure Rig.ReadyToCopy (rig : Rig Bench) (demuxer : Demuxer) (path : Path) (muxer : Muxer) :
    Prop where
  opened : rig.storage.library.demuxers.head? = some demuxer
  begun : rig.storage.library.muxers.head? = some (path, muxer)
  unscripted : rig.storage.script = {}
  built : demuxer.source.Built
  unselected : demuxer.selected = none
  unreleased : demuxer.released = false
  accepts : muxer.Accepts
  wanted : rig.client.cancelled = false
  patient : rig.client.cancelAfter = none
  unshaken : rig.client.panicAt = none

section
variable {rig : Rig Bench} {demuxer : Demuxer} {path : Path} {muxer : Muxer}

theorem Rig.ReadyToCopy.staged (ready : rig.ReadyToCopy demuxer path muxer)
    (reporter : Option Reporter) (patience : Nat) :
    ∃ (backdrop : Backdrop) (stage : Stage), backdrop.patience = patience ∧
      backdrop.path = path ∧ backdrop.others = rig.storage.library.muxers.tail ∧
      stage.demuxer = demuxer ∧ stage.muxer = muxer ∧
      ({ reporter, outside := rig } : Desk (Rig Bench)) =
        onBench (backdrop.desk stage) rig.device := by
  obtain ⟨⟨library, script, reads, adds, writes⟩, bench, client⟩ := rig
  obtain ⟨older, opened⟩ := List.head?_eq_some_iff.mp ready.opened
  obtain ⟨others, created⟩ := List.head?_eq_some_iff.mp ready.begun
  obtain ⟨events, cancelAfter, cancelled, panicAt, delivered, disk⟩ := client
  obtain ⟨sources, leaks, faults, demuxers, muxers⟩ := library
  cases ready.unscripted
  cases ready.wanted
  cases ready.patient
  cases ready.unshaken
  cases opened
  cases created
  exact ⟨⟨⟨sources, leaks, faults, [], []⟩, older, path, others, [], {}, disk, patience⟩,
    ⟨demuxer, muxer, default, default, none, default, {}, reads, adds, writes,
      ⟨reporter, false, events, delivered⟩⟩, rfl, rfl, rfl, rfl, rfl, rfl⟩

theorem Trial.copy_ran {reporter : Option Reporter} {track : Track} {window : Window}
    {outcome : CopyOutcome} {left : Desk (Rig Bench)}
    (ran : (copyTrack track window true).run (Rig.world Bench.answer (rig.patienceFor {}))
      { reporter, outside := rig } = (.ok outcome, left)) :
    let trial := Trial.copy rig reporter none track window
    trial.result = .ok outcome ∧ trial.rig = left.outside ∧
      ∀ exchange ∈ trial.history, ¬exchange.RefusesRead := by
  let world := Rig.world Bench.answer (rig.patienceFor {})
  let begun : Desk (History × Rig Bench) := { reporter, outside := ([], rig) }
  have mirrored := copyTrack_mirrors world.recorded_mirrors rfl track window true begun
  have seen : begun.map Prod.snd = { reporter, outside := rig } := rfl
  have ungranted : History.Grants [] := fun _ member => nomatch member
  have granted := @copyTrack_grants _ [] track window true ungranted world begun rfl
  rw [seen, ran] at mirrored
  rcases recorded : (copyTrack track window true).run world.recorded begun with ⟨result, last⟩
  rw [recorded] at mirrored granted
  obtain ⟨rfl, rfl⟩ := Prod.mk.inj mirrored
  have tried : Trial.copy rig reporter none track window =
      ⟨.ok outcome, last.outside.1.reverse, last.outside.2⟩ := by
    unfold Trial.copy Trial.of Trial.begin
    rw [if_pos rfl]
    exact congrArg (fun ran => Trial.mk ran.1 ran.2.outside.1.reverse ran.2.outside.2) recorded
  dsimp only
  rw [tried]
  exact ⟨rfl, rfl, fun exchange member => granted exchange (List.mem_reverse.mp member)⟩

/-- A copy of a track with samples succeeds. It begins where reading for the window's start does, ends
before the first sample at the window's end, and leaves out only samples without bytes: these samples,
unchanged, are the one track that it adds behind the tracks that were there. It tells how many they
are and when the first of them is, and every sample it reads finds room. -/
theorem Trial.copy_takes_window (ready : rig.ReadyToCopy demuxer path muxer) {track : Track}
    (known : demuxer.source.tracks[track.index]? = some track.format)
    (sounds : demuxer.source.trackSamples track.index ≠ []) (window : Window)
    (reporter : Option Reporter) :
    ∃ passed start later,
      demuxer.source.StartsAt track.index (max window.start 0) passed start later ∧
      let taken := ((start :: later).takeWhile (!window.hasEnded ·.time)).filter (·.data.size ≠ 0)
      let trial := Trial.copy rig reporter none track window
      trial.result = .ok ⟨muxer.movie.tracks.length, taken.head?.map (·.time), taken.length⟩ ∧
        (∃ left, trial.rig.storage.library.muxers = (path, left) :: rig.storage.library.muxers.tail ∧
          left.movie.tracks = muxer.movie.tracks ++
            [⟨track.format, track.isAudio, taken.map Sample.muxed⟩]) ∧
        ∀ exchange ∈ trial.history, ¬exchange.RefusesRead := by
  obtain ⟨start, place, found⟩ := Demuxer.exists_previousSync sounds (max window.start 0)
  obtain ⟨later, ahead, starts⟩ := Demuxer.startsAt_landing found
  refine ⟨_, start, later, starts, ?_⟩
  intro taken trial
  have copied : copiedSamples demuxer.source track.index window = taken := by
    unfold copiedSamples Demuxer.landing Window.seekTarget
    rw [found]
    dsimp only
    rw [ahead]
  have hasRoom := ready.built.hasRoom
  obtain ⟨format, room, stored, sized⟩ := hasRoom.promises sounds
  obtain rfl : track.format = format := Option.some.inj (known.symm.trans stored)
  have enough : demuxer.source.samples.length < rig.patienceFor {} := by
    have counted := samples_le_of_opened ready.opened
    unfold Rig.patienceFor
    omega
  obtain ⟨backdrop, stage, patient, rfl, others, rfl, rfl, staged⟩ :=
    ready.staged reporter (rig.patienceFor {})
  have resting : Resting stage.demuxer.source stage.muxer.faults stage :=
    ⟨rfl, ready.unselected, ready.unreleased, ready.accepts, rfl⟩
  obtain ⟨outcome, left, ran, told, after, rfl, -, tracks⟩ :=
    copyTrack_reaches resting hasRoom known sized (patient ▸ enough) rig.device window true
  unfold Backdrop.world at ran
  rw [patient, ← staged] at ran
  obtain ⟨result, same, granted⟩ := Trial.copy_ran ran
  rw [copied] at told tracks
  refine ⟨result.trans (congrArg _ told), ⟨after.muxer, ?_, tracks⟩, granted⟩
  rw [same, ← others]
  rfl

end

/-- The brief source has one key frame, its first sample. -/
theorem briefSource_startsAt {time : Int} {passed later : List Sample} {start : Sample}
    (starts : briefSource.StartsAt 0 time passed start later) : passed = [] := by
  have isKey : start.flags.isKeyFrame = true :=
    starts.isSync.resolve_right fun none => nomatch none ⟨0, 0, .keyFrame, #[1]⟩ List.mem_cons_self
  cases passed with
  | nil => rfl
  | cons first rest =>
    have unkeyed : ∀ sample ∈ (briefSource.trackSamples 0).tail, sample.flags.isKeyFrame = false := by
      decide
    have member : start ∈ (briefSource.trackSamples 0).tail := by
      rw [starts.parted]
      exact List.mem_append_right rest List.mem_cons_self
    rw [unkeyed start member] at isKey
    exact nomatch isKey

/-- Of the middle of the brief source, what comes from its key frame on up to the end is copied. -/
theorem copy_takes_window_brief :
    ∃ format, (Trial.copy (.forSession {} briefSource ⟨.deg0, 4, 4⟩ [] {} {}) none none
      ⟨0, false, format⟩ ⟨30000, some 80000⟩).result = .ok ⟨0, some 0, 3⟩ := by
  have ready : (Rig.forSession {} briefSource ⟨.deg0, 4, 4⟩ [] {} {}).ReadyToCopy
      { source := briefSource } sessionPath (.new ⟨.deg0, 4, 4⟩ {}) :=
    ⟨opened_forSession {} briefSource ⟨.deg0, 4, 4⟩ [] {} {},
      by unfold Rig.forSession; rw [Storage.opened_eq]; rfl,
      by unfold Rig.forSession; rw [Storage.opened_eq],
      (Source.Built.empty.track _).addSamples _, rfl, rfl, ⟨rfl, rfl⟩, rfl, rfl, rfl⟩
  obtain ⟨passed, start, later, starts, result, -⟩ :=
    @Trial.copy_takes_window _ _ _ _ ready ⟨0, false, _⟩ rfl (by decide) ⟨30000, some 80000⟩ none
  obtain rfl := briefSource_startsAt starts
  obtain ⟨rfl, rfl⟩ := List.cons.inj starts.parted
  exact ⟨_, result⟩

end Recode.Simulation
