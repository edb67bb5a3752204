import Recode.Proofs.Agreement
import Recode.Proofs.IdlePolls
import Recode.Proofs.JobConduct
import Recode.Proofs.TwinDemuxers
import Recode.Proofs.WorkingRig

/-!
A rig whose demuxers leak the samples of other tracks, beside one whose demuxers do not. Only at the
newest demuxer can the difference show; the rest of the two worlds is the same, but for how often the
decoder was polled.
-/

namespace Recode.Session.Call

def SparesDemuxers : Call → Prop
  | .storage (.createMovie _ _) | .storage (.addTrack _ _) | .storage (.write _ _ _ _)
  | .storage .finalize => True
  | .storage _ => False
  | .device _ | .client _ => True

def ListsAtMost (call : Call) : Prop := call.SparesDemuxers ∨ call.IsListing

/-- Calls in which a demuxer is at most asked which tracks there are, and what its current sample is. -/
def LooksAtMost : Call → Prop
  | .storage .currentTrack | .storage .currentTime | .storage .currentFlags
  | .storage (.read _) => True
  | call => call.ListsAtMost

end Recode.Session.Call

namespace Recode.Simulation
open Recode.Media Recode.Container Recode.Device Recode.Picture Recode.Progress Recode.Session
open Recode.Session.Work

def NewestAre (leaky tight : Demuxer) (ahead behind : List Demuxer) : Prop :=
  ahead.head? = some leaky ∧ behind.head? = some tight

def OfNewest (paired : Demuxer → Demuxer → Prop) (ahead behind : List Demuxer) : Prop :=
  ∃ leaky tight, NewestAre leaky tight ahead behind ∧ paired leaky tight

def Unpaired (_ _ : List Demuxer) : Prop := True

namespace Storage
variable {α : Type} {faces wider : List Demuxer → List Demuxer → Prop} {count : Nat}
  {ahead behind : Storage} {leaky tight : Demuxer}

/-- The storage with other demuxers, and none that leak to come. -/
def sealed (demuxers : List Demuxer) (storage : Storage) : Storage :=
  { storage with library := { storage.library with leaks := false, demuxers } }

/-- Two storages that differ in their demuxers at most, and are not told to fail. -/
structure Beside (faces : List Demuxer → List Demuxer → Prop) (count : Nat)
    (ahead behind : Storage) : Prop where
  same : ∃ demuxers, behind = ahead.sealed demuxers ∧ faces ahead.library.demuxers demuxers
  script : ahead.script = {}
  few : ∀ entry ∈ ahead.library.sources, entry.2.samples.length ≤ count

theorem Beside.imp (beside : ahead.Beside faces count behind)
    (widens : ∀ first second, faces first second → wider first second) :
    ahead.Beside wider count behind := by
  obtain ⟨⟨demuxers, same, faced⟩, script, few⟩ := beside
  exact ⟨⟨demuxers, same, widens _ _ faced⟩, script, few⟩

def AnswersAlike (act : Storage → α × Storage) (faces : List Demuxer → List Demuxer → Prop)
    (count : Nat) (ahead behind : Storage) : Prop :=
  (act behind).1 = (act ahead).1 ∧ (act ahead).2.Beside faces count (act behind).2

theorem Beside.untold (beside : ahead.Beside faces count behind) {act : Storage → α × Storage}
    (other : Storage → α × Storage)
    (plain : ∀ storage : Storage, storage.script = {} → act storage = other storage)
    (alike : AnswersAlike other wider count ahead behind) :
    AnswersAlike act wider count ahead behind := by
  obtain ⟨demuxers, same, faced⟩ := beside.same
  have told : behind.script = {} := (congrArg (·.script) same).trans beside.script
  unfold AnswersAlike
  rw [plain ahead beside.script, plain behind told]
  exact alike

theorem Beside.spared (beside : ahead.Beside faces count behind) (call : StorageCall)
    (spares : Call.SparesDemuxers (.storage call)) :
    AnswersAlike (Storage.answer call) faces count ahead behind := by
  obtain ⟨⟨demuxers, rfl, faced⟩, script, few⟩ := beside
  obtain ⟨⟨sources, leaks, faults, opened, muxers⟩, _, reads, adds, writes⟩ := ahead
  cases script
  cases call with
  | createMovie path settings => exact ⟨rfl, ⟨demuxers, rfl, faced⟩, rfl, few⟩
  | addTrack format isAudio => cases muxers <;> exact ⟨rfl, ⟨demuxers, rfl, faced⟩, rfl, few⟩
  | write track buffer info isAudio =>
    cases muxers <;> exact ⟨rfl, ⟨demuxers, rfl, faced⟩, rfl, few⟩
  | finalize => cases muxers <;> exact ⟨rfl, ⟨demuxers, rfl, faced⟩, rfl, few⟩
  | _ => exact spares.elim

theorem Beside.openSource (beside : ahead.Beside faces count behind) (path : Path) :
    (∃ error, (Storage.answer (.openSource path) ahead).1 = .error error ∧
      (Storage.answer (.openSource path) behind).1 = .error error ∧
      (Storage.answer (.openSource path) ahead).2.Beside faces count
        (Storage.answer (.openSource path) behind).2) ∨
    ∃ source : Source, source.samples.length ≤ count ∧
      (Storage.answer (.openSource path) ahead).1 = .ok () ∧
      (Storage.answer (.openSource path) behind).1 = .ok () ∧
      (Storage.answer (.openSource path) ahead).2.Beside
        (OfNewest (Demuxer.Twins source none)) count
        (Storage.answer (.openSource path) behind).2 := by
  obtain ⟨⟨demuxers, rfl, faced⟩, script, few⟩ := beside
  obtain ⟨⟨sources, leaks, faults, opened, muxers⟩, _, reads, adds, writes⟩ := ahead
  cases script
  dsimp only [Storage.answer, Storage.openSource, Storage.barring, Library.openSource, sealed,
    Library.source?, Cue.on?]
  cases found : sources.find? (·.1.same path) with
  | none => exact .inl ⟨_, rfl, rfl, ⟨demuxers, rfl, faced⟩, rfl, few⟩
  | some entry =>
    refine .inr ⟨entry.2, few entry (List.mem_of_find?_eq_some found), rfl, rfl, ⟨_, rfl, _, _,
      ⟨rfl, rfl⟩, ?_⟩, rfl, few⟩
    exact ⟨rfl, rfl, rfl, rfl, rfl, rfl, rfl⟩

theorem Beside.released (beside : ahead.Beside faces count behind) :
    AnswersAlike (Storage.answer .releaseDemuxer) Unpaired count ahead behind := by
  obtain ⟨⟨demuxers, rfl, faced⟩, script, few⟩ := beside
  obtain ⟨⟨sources, leaks, faults, opened, muxers⟩, _, reads, adds, writes⟩ := ahead
  cases opened <;> cases demuxers <;> exact ⟨rfl, ⟨_, rfl, trivial⟩, script, few⟩

section
variable (beside : ahead.Beside (NewestAre leaky tight) count behind)
include beside

theorem Beside.onDemuxer {act : Demuxer → α × Demuxer} (absent : α)
    (same : (act tight).1 = (act leaky).1) :
    AnswersAlike (·.onDemuxer absent act) (NewestAre (act leaky).2 (act tight).2) count ahead
      behind := by
  obtain ⟨⟨demuxers, rfl, first, second⟩, script, few⟩ := beside
  obtain ⟨⟨sources, leaks, faults, _ | ⟨newest, older⟩, muxers⟩, told, reads, adds, writes⟩ := ahead
  · exact nomatch first
  obtain _ | ⟨other, rest⟩ := demuxers
  · exact nomatch second
  cases first
  cases second
  exact ⟨same, ⟨_, rfl, rfl, rfl⟩, script, few⟩

theorem Beside.view (absent : α) (look : Demuxer → α) (same : look tight = look leaky) :
    AnswersAlike (·.view absent look) (NewestAre leaky tight) count ahead behind :=
  @onDemuxer _ count ahead behind leaky tight beside (fun demuxer => (look demuxer, demuxer)) absent
    same

theorem Beside.acted {α : Type} {call : Storage → Except Error α × Storage}
    (act : Demuxer → Except Error α × Demuxer)
    (plain : ∀ storage : Storage, storage.script = {} → call storage = storage.onDemuxer missing act)
    (same : (act tight).1 = (act leaky).1) :
    AnswersAlike call (NewestAre (act leaky).2 (act tight).2) count ahead behind :=
  beside.untold (·.onDemuxer missing act) plain (beside.onDemuxer missing same)

theorem Beside.select (index : Nat) (same : (tight.select index).1 = (leaky.select index).1) :
    (Storage.answer (.select index) ahead).1 = (leaky.select index).1 ∧
      AnswersAlike (Storage.answer (.select index))
        (NewestAre (leaky.select index).2 (tight.select index).2) count ahead behind := by
  have plain (storage : Storage) (told : storage.script = {}) :
      Storage.answer (.select index) storage = storage.onDemuxer missing (·.select index) := by
    dsimp only [Storage.answer]
    rw [told]
    rfl
  refine ⟨?_, beside.acted (·.select index) plain same⟩
  obtain ⟨demuxers, -, newest, -⟩ := beside.same
  rw [plain ahead beside.script]
  exact (onDemuxer_newest newest missing (·.select index)).1

theorem Beside.unselect (index : Nat) (same : (tight.unselect index).1 = (leaky.unselect index).1) :
    AnswersAlike (Storage.answer (.unselect index))
      (NewestAre (leaky.unselect index).2 (tight.unselect index).2) count ahead behind := by
  refine beside.acted (·.unselect index) (fun storage told => ?_) same
  dsimp only [Storage.answer]
  rw [told]
  rfl

theorem Beside.seek (time : Int) (mode : SeekMode) :
    AnswersAlike (Storage.answer (.seek time mode))
      (NewestAre (leaky.seek time mode) (tight.seek time mode)) count ahead behind := by
  refine beside.acted (fun demuxer => (.ok (), demuxer.seek time mode)) (fun storage told => ?_) rfl
  dsimp only [Storage.answer]
  rw [told]
  rfl

theorem Beside.advance :
    (Storage.answer .advance ahead).2.Beside (NewestAre leaky.advance.2 tight.advance.2) count
      (Storage.answer .advance behind).2 := by
  obtain ⟨⟨demuxers, rfl, first, second⟩, script, few⟩ := beside
  obtain ⟨⟨sources, leaks, faults, _ | ⟨newest, older⟩, muxers⟩, told, reads, adds, writes⟩ := ahead
  · exact nomatch first
  obtain _ | ⟨other, rest⟩ := demuxers
  · exact nomatch second
  cases first
  cases second
  exact ⟨⟨_, rfl, rfl, rfl⟩, script, few⟩

theorem Beside.pass :
    (Storage.answer .advance ahead).2.Beside (NewestAre leaky.advance.2 tight) count behind := by
  obtain ⟨⟨demuxers, rfl, first, second⟩, script, few⟩ := beside
  obtain ⟨⟨sources, leaks, faults, _ | ⟨newest, older⟩, muxers⟩, told, reads, adds, writes⟩ := ahead
  · exact nomatch first
  cases first
  exact ⟨⟨demuxers, rfl, rfl, second⟩, script, few⟩

theorem Beside.listed {source : Source} {selected : Option Nat}
    (twins : Demuxer.Twins source selected leaky tight) (call : StorageCall)
    (lists : Call.IsListing (.storage call)) :
    AnswersAlike (Storage.answer call) (NewestAre leaky tight) count ahead behind := by
  cases call with
  | trackCount =>
    exact beside.view 0 (·.trackCount) (twins.tightCount.trans twins.leakyCount.symm)
  | trackFormat index =>
    refine beside.untold (·.view missing (·.trackFormat index)) (fun storage told => ?_) <|
      beside.view missing (·.trackFormat index) (twins.trackFormat index)
    dsimp only [Storage.answer]
    rw [told]
    rfl
  | _ => exact lists.elim

theorem Beside.looked {source : Source} {track : Nat}
    (level : Demuxer.TwinsLevel source track leaky tight) (call : StorageCall)
    (looks : Call.LooksAtMost (.storage call)) :
    AnswersAlike (Storage.answer call) (NewestAre leaky tight) count ahead behind := by
  cases call with
  | currentTrack =>
    exact beside.view none (·.currentTrack?) (congrArg (·.map Sample.track) level.current)
  | currentTime =>
    exact beside.view none (·.currentTime?) (congrArg (·.map Sample.time) level.current)
  | currentFlags =>
    exact beside.view .none (·.currentFlags)
      (congrArg (fun current => (current.map Sample.flags).getD Flags.none) level.current)
  | read room =>
    have counted : Beside (NewestAre leaky tight) count { ahead with reads := ahead.reads + 1 }
        { behind with reads := behind.reads + 1 } := by
      obtain ⟨⟨demuxers, rfl, faced⟩, script, few⟩ := beside
      exact ⟨⟨demuxers, rfl, faced⟩, script, few⟩
    have same : tight.read room = leaky.read room := by
      unfold Demuxer.read
      rw [level.current, level.leakyOpen, level.tightOpen]
    refine beside.untold
      (fun storage => Storage.view { storage with reads := storage.reads + 1 } missing (·.read room))
      (fun storage told => ?_) (counted.view missing (·.read room) same)
    dsimp only [Storage.answer, Storage.read]
    rw [told]
    rfl
  | trackCount => exact beside.listed level.toTwins _ trivial
  | trackFormat index => exact beside.listed level.toTwins _ trivial
  | _ => exact beside.spared _ (looks.elim id False.elim)

end

end Storage

structure Client.IsWilling (client : Client) : Prop where
  cancelled : client.cancelled = false
  cancelAfter : client.cancelAfter = none

theorem Client.IsWilling.answer {client : Client} (willing : client.IsWilling) (call : ClientCall) :
    (Client.answer call client).2.IsWilling := by
  obtain ⟨cancelled, never⟩ := willing
  cases call with
  | deliver event =>
    dsimp only [Client.answer, Client.deliver]
    split
    next explodes => exact ⟨cancelled, never⟩
    next takes => exact ⟨by simp [cancelled, never], never⟩
  | isCancelled => exact ⟨cancelled, never⟩
  | openFile path => exact ⟨cancelled, never⟩
  | removeFile path => exact ⟨cancelled, never⟩

/-- Two worlds that differ as is said of their demuxers, and in how often the decoder was polled. -/
structure Rig.Beside (faces : List Demuxer → List Demuxer → Prop) (count : Nat)
    (ahead behind : Rig Bench) : Prop where
  storage : ahead.storage.Beside faces count behind.storage
  device : ahead.device.Overpolls behind.device
  client : behind.client = ahead.client
  willing : ahead.client.IsWilling

abbrev Rig.Twinned (source : Source) (selected : Option Nat) (count : Nat) :
    Rig Bench → Rig Bench → Prop :=
  Rig.Beside (OfNewest (Demuxer.Twins source selected)) count

abbrev Rig.Reading (source : Source) (track count : Nat) : Rig Bench → Rig Bench → Prop :=
  Rig.Beside (OfNewest (Demuxer.TwinsReading source track)) count

abbrev Rig.Apart (count : Nat) : Rig Bench → Rig Bench → Prop :=
  Rig.Beside Unpaired count

namespace Rig
variable {faces wider : List Demuxer → List Demuxer → Prop}
  {count patience : Nat} {ahead behind : Rig Bench}

theorem Beside.imp (beside : ahead.Beside faces count behind)
    (widens : ∀ first second, faces first second → wider first second) :
    ahead.Beside wider count behind :=
  { beside with storage := beside.storage.imp widens }

theorem Beside.stored (beside : ahead.Beside faces count behind) {call : StorageCall}
    (alike : Storage.AnswersAlike (Storage.answer call) wider count ahead.storage behind.storage) :
    let answer := (world Bench.answer patience).answer (.storage call)
    (answer behind).1 = (answer ahead).1 ∧ (answer ahead).2.Beside wider count (answer behind).2 :=
  ⟨alike.1, { beside with storage := alike.2 }⟩

theorem Beside.spared (beside : ahead.Beside faces count behind) {call : Call}
    (spares : call.SparesDemuxers) :
    let answer := (world Bench.answer patience).answer call
    (answer behind).1 = (answer ahead).1 ∧ (answer ahead).2.Beside faces count (answer behind).2 := by
  cases call with
  | storage call => exact beside.stored (beside.storage.spared call spares)
  | device call =>
    obtain ⟨same, device⟩ := beside.device.answer call
    exact ⟨same, { beside with device }⟩
  | client call =>
    dsimp only [world]
    rw [beside.client]
    exact ⟨rfl, { beside with client := rfl, willing := beside.willing.answer call }⟩

end Rig

section
variable {faces : List Demuxer → List Demuxer → Prop} {leaky tight : Demuxer} {source : Source}
  {selected : Option Nat} {track count patience : Nat}

theorem interrupts_sparing :
    Interrupts Call.SparesDemuxers (Rig.world Bench.answer patience)
      (Rig.world Bench.answer patience) (Rig.Beside faces count) fun _ _ => False :=
  interrupts_of_alike rfl fun _ _ _ spares beside => beside.spared spares

theorem interrupts_listing (twins : Demuxer.Twins source selected leaky tight) :
    Interrupts Call.ListsAtMost (Rig.world Bench.answer patience)
      (Rig.world Bench.answer patience) (Rig.Beside (NewestAre leaky tight) count)
      fun _ _ => False := by
  refine interrupts_of_alike rfl fun call ahead behind lists beside => ?_
  rcases lists with spares | lists
  · exact beside.spared spares
  · cases call with
    | storage call => exact beside.stored (beside.storage.listed twins call lists)
    | device call => exact lists.elim
    | client call => exact lists.elim

theorem interrupts_looking (level : Demuxer.TwinsLevel source track leaky tight) :
    Interrupts Call.LooksAtMost (Rig.world Bench.answer patience)
      (Rig.world Bench.answer patience) (Rig.Beside (NewestAre leaky tight) count)
      fun _ _ => False := by
  refine interrupts_of_alike rfl fun call ahead behind looks beside => ?_
  cases call with
  | storage call => exact beside.stored (beside.storage.looked level call looks)
  | device call => exact beside.spared trivial
  | client call => exact beside.spared trivial

end

end Recode.Simulation
