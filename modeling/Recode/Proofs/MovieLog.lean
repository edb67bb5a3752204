import Recode.Proofs.Containers
import Recode.Proofs.MovieGrowth

/-!
A movie is the log of what its muxer has accepted. Whatever is asked of a muxer, and in whatever
order: what it refuses changes neither tracks nor samples, what it accepts stands behind what it
accepted before, and once it is finalized it accepts nothing more. So the requests and their answers
tell all tracks of the movie and all samples of each.
-/

namespace Recode.Container
open Recode.Media

namespace Muxer

inductive Request where
  | addTrack (format : Format) (isAudio : Bool)
  | write (track : Nat) (buffer : Bytes) (info : SampleInfo) (isAudio : Bool)
  | finalize
  deriving DecidableEq, Repr

inductive Reply where
  | track (index : Nat)
  | stored (whether : Bool)
  | finalized
  deriving DecidableEq, Repr

abbrev Exchange := Request × Except Error Reply

def serve (muxer : Muxer) : Request → Except Error Reply × Muxer
  | .addTrack format isAudio =>
      let (answer, next) := muxer.addTrack format isAudio
      (answer.map .track, next)
  | .write track buffer info isAudio =>
      let (answer, next) := muxer.write track buffer info isAudio
      (answer.map .stored, next)
  | .finalize =>
      let (answer, next) := muxer.finalize
      (answer.map fun _ => .finalized, next)

def serveAll (muxer : Muxer) (requests : List Request) : List Exchange × Muxer :=
  converse serve muxer requests

/-- What even a refused request leaves behind: an attempt to finalize is counted. -/
def counting (muxer : Muxer) (request : Request) : Muxer :=
  { muxer with movie := { muxer.movie with
      finalizeCalls := muxer.movie.finalizeCalls + if request = .finalize then 1 else 0 } }

section
variable (muxer : Muxer) (request : Request)

@[simp] theorem counting_tracks : (muxer.counting request).movie.tracks = muxer.movie.tracks := rfl

@[simp] theorem counting_finalized :
    (muxer.counting request).movie.finalized = muxer.movie.finalized := rfl

@[simp] theorem counting_written : (muxer.counting request).written = muxer.written := rfl

theorem counting_of_ne {request : Request} (other : request ≠ .finalize) :
    muxer.counting request = muxer := by
  simp [counting, other]

end

/-- All that a muxer can do about a request. -/
inductive Serves (muxer : Muxer) : Request → Except Error Reply → Muxer → Prop where
  | refused (request : Request) (error : Error)
      (closed : muxer.movie.finalized = true → error = MuxerError.alreadyFinalized) :
      Serves muxer request (.error error) (muxer.counting request)
  | passedOver (track : Nat) (buffer : Bytes) (info : SampleInfo) (isAudio : Bool)
      (live : muxer.movie.finalized = false) :
      Serves muxer (.write track buffer info isAudio) (.ok (.stored false)) muxer
  | added (format : Format) (isAudio : Bool) (live : muxer.movie.finalized = false) :
      Serves muxer (.addTrack format isAudio) (.ok (.track muxer.movie.tracks.length))
        { muxer with movie := { muxer.movie with
            tracks := muxer.movie.tracks ++ [⟨format, isAudio, []⟩] } }
  | stored (track : Nat) (buffer : Bytes) (info : SampleInfo) (isAudio : Bool)
      (stores : muxer.Stores track buffer info isAudio) :
      Serves muxer (.write track buffer info isAudio) (.ok (.stored true))
        { muxer with
            movie := { muxer.movie with
              tracks := muxer.movie.tracks.modify track fun kept =>
                { kept with samples := kept.samples ++
                  [⟨info.time, info.flags, buffer.extract info.offset info.stop⟩] } }
            written := muxer.written + 1 }
  | finalized (live : muxer.movie.finalized = false) :
      Serves muxer .finalize (.ok .finalized)
        { muxer with movie := { muxer.movie with
            finalizeCalls := muxer.movie.finalizeCalls + 1, finalized := true } }

theorem admit?_finalized {muxer : Muxer} (closed : muxer.movie.finalized = true) (track : Nat)
    (buffer : Bytes) (info : SampleInfo) (isAudio : Bool) :
    muxer.admit? track buffer info isAudio = .error MuxerError.alreadyFinalized := by
  unfold admit?
  rw [if_pos closed]

theorem Serves.of_eq {muxer next : Muxer} {request : Request} {answer : Except Error Reply}
    (served : muxer.Serves request answer next) (same : muxer.serve request = (answer, next)) :
    muxer.Serves request (muxer.serve request).1 (muxer.serve request).2 := by
  rw [same]
  exact served

theorem serves (muxer : Muxer) (request : Request) :
    muxer.Serves request (muxer.serve request).1 (muxer.serve request).2 := by
  cases request with
  | addTrack format isAudio =>
    cases live : muxer.movie.finalized with
    | true =>
      exact (Serves.refused _ _ fun _ => rfl).of_eq
        (by simp [serve, addTrack, live, counting_of_ne, Except.map])
    | false =>
      exact (Serves.added format isAudio live).of_eq (by simp [serve, addTrack, live, Except.map])
  | write track buffer info isAudio =>
    cases admitted : muxer.admit? track buffer info isAudio with
    | error error =>
      refine (Serves.refused _ error fun closed => ?_).of_eq
        (by simp [serve, write, admitted, counting_of_ne, Except.map])
      rw [admit?_finalized closed] at admitted
      exact (Except.error.inj admitted).symm
    | ok sample? =>
      have live : muxer.movie.finalized = false := by
        by_contra closed
        rw [admit?_finalized (by simpa using closed)] at admitted
        exact nomatch admitted
      cases sample? with
      | none =>
        exact (Serves.passedOver track buffer info isAudio live).of_eq
          (by simp [serve, write, admitted, Except.map])
      | some sample =>
        obtain ⟨stores, rfl⟩ := admit?_eq_some_iff.mp admitted
        exact (Serves.stored track buffer info isAudio stores).of_eq
          (by simp [serve, write, admitted, Except.map])
  | finalize =>
    cases live : muxer.movie.finalized with
    | true =>
      exact (Serves.refused _ _ fun _ => rfl).of_eq
        (by simp [serve, finalize, live, counting, Except.map])
    | false =>
      cases fails : muxer.faults.failFinalize with
      | true =>
        refine (Serves.refused _ (MuxerError.finalize "injected failure") fun closed => ?_).of_eq
          (by simp [serve, finalize, live, fails, counting, Except.map])
        exact nomatch live.symm.trans closed
      | false =>
        exact (Serves.finalized live).of_eq (by simp [serve, finalize, live, fails, Except.map])

def addedTrack? : Exchange → Option (Format × Bool)
  | (.addTrack format isAudio, .ok _) => some (format, isAudio)
  | _ => none

def storedSample? (index : Nat) : Exchange → Option MuxedSample
  | (.write track buffer info _, .ok (.stored true)) =>
      if track = index then
        some ⟨info.time, info.flags, buffer.extract info.offset info.stop⟩
      else none
  | _ => none

def isStored : Exchange → Bool
  | (_, .ok (.stored true)) => true
  | _ => false

def logged (history : List Exchange) : List MuxedTrack :=
  (history.filterMap addedTrack?).mapIdx fun index (format, isAudio) =>
    ⟨format, isAudio, history.filterMap (storedSample? index)⟩

section
variable {history : List Exchange}

theorem logged_aside {exchange : Exchange} (adds : addedTrack? exchange = none)
    (stores : ∀ index, storedSample? index exchange = none) :
    logged (history ++ [exchange]) = logged history := by
  simp [logged, adds, stores]

theorem logged_added (format : Format) (isAudio : Bool) (reply : Reply) :
    logged (history ++ [(.addTrack format isAudio, .ok reply)]) = logged history ++
      [⟨format, isAudio, history.filterMap (storedSample? (logged history).length)⟩] := by
  simp [logged, addedTrack?, storedSample?, List.mapIdx_append, List.filterMap_cons]

theorem logged_stored (track : Nat) (buffer : Bytes) (info : SampleInfo) (isAudio : Bool) :
    logged (history ++ [(.write track buffer info isAudio, .ok (.stored true))]) =
      (logged history).modify track fun kept => { kept with samples := kept.samples ++
        [⟨info.time, info.flags, buffer.extract info.offset info.stop⟩] } := by
  apply List.ext_getElem?
  intro index
  rw [List.getElem?_modify]
  by_cases here : track = index
  · simp [logged, addedTrack?, storedSample?, List.filterMap_cons, here, Function.comp_def]
  · simp [logged, addedTrack?, storedSample?, List.filterMap_cons, here]

theorem storedSample?_of_not_stored {exchange : Exchange} (aside : isStored exchange = false)
    (index : Nat) : storedSample? index exchange = none := by
  unfold storedSample?
  split
  next track buffer info isAudio => exact nomatch aside
  next other => rfl

/-- All tracks and samples are those of which the history tells. -/
structure Logs (muxer : Muxer) (history : List Exchange) : Prop where
  tracks : muxer.movie.tracks = logged history
  known : ∀ index, muxer.movie.tracks.length ≤ index → history.filterMap (storedSample? index) = []
  within : ∀ track buffer info isAudio,
    (Request.write track buffer info isAudio, .ok (.stored true)) ∈ history →
      0 < info.size ∧ info.stop ≤ buffer.size

/-- As many samples are stored as writes were answered with yes, and no more than may be. -/
structure Counts (faults : MuxerFaults) (muxer : Muxer) (history : List Exchange) : Prop where
  faults_eq : muxer.faults = faults
  written : muxer.written = history.countP isStored
  samples : muxer.movie.sampleCount = muxer.written
  healthy : ∀ limit, faults.failWriteAfter = some limit → muxer.written ≤ limit

structure Closes (muxer : Muxer) (history : List Exchange) : Prop where
  finalized_iff : muxer.movie.finalized = true ↔ (.finalize, .ok .finalized) ∈ history
  calls : muxer.movie.finalizeCalls = (history.map Prod.fst).count .finalize

variable {muxer next : Muxer} {request : Request} {answer : Except Error Reply}

theorem Logs.aside (logs : muxer.Logs history) (same : next.movie.tracks = muxer.movie.tracks)
    {exchange : Exchange} (adds : addedTrack? exchange = none) (stores : isStored exchange = false) :
    next.Logs (history ++ [exchange]) := by
  have silent := storedSample?_of_not_stored stores
  refine ⟨?_, fun index beyond => ?_, fun track buffer info isAudio told => ?_⟩
  · rw [same, logged_aside adds silent]
    exact logs.tracks
  · rw [List.filterMap_append, logs.known index (same ▸ beyond)]
    simp [silent]
  · rcases List.mem_append.mp told with before | last
    · exact logs.within track buffer info isAudio before
    · rw [← List.mem_singleton.mp last] at stores
      exact nomatch stores

theorem Logs.step (logs : muxer.Logs history) (served : muxer.Serves request answer next) :
    next.Logs (history ++ [(request, answer)]) := by
  cases served with
  | refused request error closed =>
    refine logs.aside (counting_tracks muxer request) ?_ ?_ <;> cases request <;> rfl
  | passedOver track buffer info isAudio live => apply logs.aside <;> rfl
  | finalized live => apply logs.aside <;> rfl
  | added format isAudio live =>
    have silent : ∀ index, storedSample? index
        (.addTrack format isAudio, .ok (.track muxer.movie.tracks.length)) = none :=
      storedSample?_of_not_stored rfl
    refine ⟨?_, fun index beyond => ?_, fun track buffer info isAudio told => ?_⟩
    · rw [logged_added, ← logs.tracks, logs.known _ (Nat.le_refl _)]
    · have beyond : muxer.movie.tracks.length ≤ index := by
        simp only [List.length_append] at beyond
        omega
      rw [List.filterMap_append, logs.known index beyond]
      simp [silent]
    · exact logs.within track buffer info isAudio (by simpa using told)
  | stored track buffer info isAudio stores =>
    refine ⟨?_, fun index beyond => ?_, fun other bytes description kind told => ?_⟩
    · rw [logged_stored, ← logs.tracks]
    · simp only [List.length_modify] at beyond
      rw [List.filterMap_append, logs.known index beyond]
      simp [storedSample?, Nat.ne_of_lt (Nat.lt_of_lt_of_le stores.known beyond)]
    · rcases List.mem_append.mp told with before | last
      · exact logs.within other bytes description kind before
      · cases List.mem_singleton.mp last
        exact ⟨stores.positive, stores.within⟩

theorem length_flatMap_modify {tracks : List MuxedTrack} {track : Nat} (known : track < tracks.length)
    (sample : MuxedSample) :
    ((tracks.modify track fun kept => { kept with samples := kept.samples ++ [sample] }).flatMap
      (·.samples)).length = (tracks.flatMap (·.samples)).length + 1 := by
  induction tracks generalizing track with
  | nil => exact absurd known (Nat.not_lt_zero _)
  | cons first rest ih =>
    cases track with
    | zero => simp; omega
    | succ track =>
      have later := ih (Nat.lt_of_succ_lt_succ known)
      simp only [List.modify_succ_cons, List.flatMap_cons, List.length_append, later]
      omega

theorem Counts.step {faults : MuxerFaults} (counts : muxer.Counts faults history)
    (served : muxer.Serves request answer next) :
    next.Counts faults (history ++ [(request, answer)]) := by
  obtain ⟨faults_eq, written, samples, healthy⟩ := counts
  cases served with
  | refused request error closed =>
    exact ⟨faults_eq, by simpa [isStored] using written, samples, healthy⟩
  | passedOver track buffer info isAudio live =>
    exact ⟨faults_eq, by simpa [isStored] using written, samples, healthy⟩
  | finalized live => exact ⟨faults_eq, by simpa [isStored] using written, samples, healthy⟩
  | added format isAudio live =>
    refine ⟨faults_eq, by simpa [isStored] using written, ?_, healthy⟩
    simpa [Movie.sampleCount] using samples
  | stored track buffer info isAudio stores =>
    refine ⟨faults_eq, by simpa [isStored] using written, ?_, fun limit told => ?_⟩
    · unfold Movie.sampleCount
      rw [length_flatMap_modify stores.known]
      exact congrArg (· + 1) samples
    · exact stores.healthy limit (faults_eq ▸ told)

theorem Closes.step (closes : muxer.Closes history) (served : muxer.Serves request answer next) :
    next.Closes (history ++ [(request, answer)]) := by
  obtain ⟨finalized_iff, calls⟩ := closes
  cases served with
  | refused request error closed =>
    refine ⟨by simpa using finalized_iff, ?_⟩
    rw [List.map_append, List.count_append, ← calls, List.map_singleton, List.count_singleton]
    simp [counting]
  | passedOver track buffer info isAudio live =>
    exact ⟨by simpa using finalized_iff, by simpa using calls⟩
  | finalized live => exact ⟨by simp, by simpa using calls⟩
  | added format isAudio live =>
    exact ⟨by simpa using finalized_iff, by simpa using calls⟩
  | stored track buffer info isAudio stores =>
    exact ⟨by simpa using finalized_iff, by simpa using calls⟩

/-- A request that stores nothing leaves no trace but the count of attempts to finalize. -/
theorem Serves.unchanged (served : muxer.Serves request answer next)
    (stores : (∃ error, answer = .error error) ∨ answer = .ok (.stored false)) :
    next = muxer.counting request := by
  cases served with
  | refused request error closed => rfl
  | passedOver track buffer info isAudio live =>
    exact (counting_of_ne muxer (by simp)).symm
  | added | stored | finalized => simp at stores

theorem Serves.closed (served : muxer.Serves request answer next)
    (closed : muxer.movie.finalized = true) :
    answer = .error MuxerError.alreadyFinalized ∧ next = muxer.counting request := by
  cases served with
  | refused request error told => exact ⟨congrArg _ (told closed), rfl⟩
  | passedOver _ _ _ _ live => exact nomatch live.symm.trans closed
  | added _ _ live => exact nomatch live.symm.trans closed
  | stored _ _ _ _ stores => exact nomatch stores.unfinalized.symm.trans closed
  | finalized live => exact nomatch live.symm.trans closed

end

variable (muxer : Muxer)

theorem serve_addTrack_iff (format : Format) (isAudio : Bool) :
    (muxer.serve (.addTrack format isAudio)).1 = .ok (.track muxer.movie.tracks.length) ↔
      muxer.movie.finalized = false := by
  cases live : muxer.movie.finalized with
  | true => simp [serve, addTrack, live, Except.map]
  | false => simp [serve, addTrack, live, Except.map]

theorem serve_finalize_iff : (muxer.serve .finalize).1 = .ok .finalized ↔
    muxer.movie.finalized = false ∧ muxer.faults.failFinalize = false := by
  cases live : muxer.movie.finalized with
  | true => simp [serve, finalize, live, Except.map]
  | false =>
    cases fails : muxer.faults.failFinalize with
    | true => simp [serve, finalize, live, fails, Except.map]
    | false => simp [serve, finalize, live, fails, Except.map]

theorem serve_write_iff (track : Nat) (buffer : Bytes) (info : SampleInfo) (isAudio : Bool) :
    (muxer.serve (.write track buffer info isAudio)).1 = .ok (.stored true) ↔
      muxer.Stores track buffer info isAudio := by
  unfold serve write
  dsimp only
  constructor
  · intro answered
    split at answered
    next error refused => exact nomatch answered
    next empty => exact nomatch answered
    next sample admitted => exact (admit?_eq_some_iff.mp admitted).1
  · intro stores
    rw [admit?_eq_some_iff.mpr ⟨stores, rfl⟩]
    rfl

theorem isPartOf_serve (request : Request) :
    muxer.movie.IsPartOf (muxer.serve request).2.movie := by
  cases request with
  | addTrack format isAudio => exact muxer.isPartOf_addTrack format isAudio
  | write track buffer info isAudio => exact muxer.isPartOf_write track buffer info isAudio
  | finalize => exact .of_tracks_eq muxer.finalize_tracks.1.symm muxer.finalize_tracks.2.symm

theorem isPartOf_serveAll (requests : List Request) :
    muxer.movie.IsPartOf (muxer.serveAll requests).2.movie := by
  induction requests generalizing muxer with
  | nil => exact .refl _
  | cons request rest ih => exact (muxer.isPartOf_serve request).trans (ih (muxer.serve request).2)

theorem serveAll_finalized {muxer : Muxer} (closed : muxer.movie.finalized = true)
    (requests : List Request) :
    (∀ exchange ∈ (muxer.serveAll requests).1, exchange.2 = .error MuxerError.alreadyFinalized) ∧
      (muxer.serveAll requests).2.movie = { muxer.movie with
        finalizeCalls := muxer.movie.finalizeCalls + requests.count .finalize } := by
  induction requests generalizing muxer with
  | nil => simp [serveAll, converse]
  | cons request rest ih =>
    obtain ⟨refused, counted⟩ := (muxer.serves request).closed closed
    have still : (muxer.serve request).2.movie.finalized = true := by
      rw [counted]
      exact closed
    obtain ⟨later, last⟩ := ih still
    unfold serveAll at later last ⊢
    rw [converse_cons]
    refine ⟨List.forall_mem_cons.mpr ⟨refused, later⟩, ?_⟩
    dsimp only
    rw [last, counted, List.count_cons, Nat.add_comm (rest.count _), ← Nat.add_assoc]
    simp [counting]

/-- Whatever is asked of a new muxer, and whatever faults it is told to have, its movie is the log of
what it has accepted: a track for each that was added, and on each track the described bytes of all
writes to it that were answered with yes. Until it is finalized it adds every track, and it answers a
write with yes if the sample fits the track and the buffer and is not one too many. A request that
fails or stores nothing changes nothing but the count of attempts to finalize, and no request takes
back what is there. The samples are as many as the writes answered with yes, and no more than the
muxer is to store. Once finalized, it refuses everything. -/
theorem movie_is_log (settings : MovieSettings) (faults : MuxerFaults) (requests : List Request) :
    let history := ((new settings faults).serveAll requests).1
    let muxer := ((new settings faults).serveAll requests).2
    (history.map Prod.fst = requests ∧ muxer.movie.tracks = logged history ∧
      ∀ track buffer info isAudio,
        (Request.write track buffer info isAudio, .ok (.stored true)) ∈ history →
          0 < info.size ∧ info.stop ≤ buffer.size) ∧
    ((∀ format isAudio, (muxer.serve (.addTrack format isAudio)).1 =
          .ok (.track muxer.movie.tracks.length) ↔ muxer.movie.finalized = false) ∧
      (∀ track buffer info isAudio, (muxer.serve (.write track buffer info isAudio)).1 =
          .ok (.stored true) ↔ muxer.Stores track buffer info isAudio) ∧
      ((muxer.serve .finalize).1 = .ok .finalized ↔
        muxer.movie.finalized = false ∧ faults.failFinalize = false)) ∧
    (∀ request,
      (∃ error, (muxer.serve request).1 = .error error) ∨
          (muxer.serve request).1 = .ok (.stored false) →
        let next := (muxer.serve request).2
        next.movie = { muxer.movie with finalizeCalls := next.movie.finalizeCalls }) ∧
    (∀ later, muxer.movie.IsPartOf (muxer.serveAll later).2.movie) ∧
    (muxer.movie.sampleCount = history.countP isStored ∧
      ∀ limit, faults.failWriteAfter = some limit → muxer.movie.sampleCount ≤ limit) ∧
    (muxer.movie.finalized = true ↔ (.finalize, .ok .finalized) ∈ history) ∧
    (muxer.movie.finalized = true → ∀ later,
      (∀ exchange ∈ (muxer.serveAll later).1, exchange.2 = .error MuxerError.alreadyFinalized) ∧
      (muxer.serveAll later).2.movie = { muxer.movie with
        finalizeCalls := muxer.movie.finalizeCalls + later.count .finalize }) ∧
    muxer.movie.finalizeCalls = requests.count .finalize := by
  intro history muxer
  have asked : history.map Prod.fst = requests := map_fst_converse _ requests
  have logs : muxer.Logs history :=
    @converse_induction _ _ _ serve Logs (fun state _ request logs => logs.step (state.serves request))
      (new settings faults) ⟨rfl, fun _ _ => rfl, nofun⟩ requests
  have counts : muxer.Counts faults history :=
    @converse_induction _ _ _ serve (Counts faults)
      (fun state _ request counts => counts.step (state.serves request))
      (new settings faults) ⟨rfl, rfl, rfl, fun _ _ => Nat.zero_le _⟩ requests
  have closes : muxer.Closes history :=
    @converse_induction _ _ _ serve Closes
      (fun state _ request closes => closes.step (state.serves request))
      (new settings faults) ⟨by simp [new], rfl⟩ requests
  refine ⟨⟨asked, logs.tracks, logs.within⟩, ⟨muxer.serve_addTrack_iff, muxer.serve_write_iff, ?_⟩,
    fun request stores => ?_, muxer.isPartOf_serveAll,
    ⟨counts.samples.trans counts.written, fun limit told => ?_⟩, closes.finalized_iff,
    serveAll_finalized, asked ▸ closes.calls⟩
  · rw [← counts.faults_eq]
    exact muxer.serve_finalize_iff
  · dsimp only
    rw [(muxer.serves request).unchanged stores]
    rfl
  · exact Nat.le_trans (Nat.le_of_eq counts.samples) (counts.healthy limit told)

/-- The second write is refused, and the movie that is finalized holds what the first described. -/
example :
    let requests : List Request := [.addTrack (.video videoAvc 4 4) false,
      .write 0 #[1, 2, 3] ⟨2, 1, 40, .keyFrame⟩ false, .write 0 #[4] ⟨1, 0, 80, .none⟩ false,
      .finalize, .addTrack (.audio audioAac 44100 2) true]
    ((new ⟨.deg0, 4, 4⟩ { failWriteAfter := some 1 }).serveAll requests).2.movie =
      { settings := ⟨.deg0, 4, 4⟩
        tracks := [⟨.video videoAvc 4 4, false, [⟨40, .keyFrame, #[2, 3]⟩]⟩]
        finalized := true
        finalizeCalls := 1 } := by
  rfl

end Muxer

end Recode.Container
