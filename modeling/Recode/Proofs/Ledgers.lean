import Recode.Proofs.Custody
import Recode.Proofs.Selecting
import Recode.Proofs.SimulatedCompression

/-!
What the simulated devices and containers keep count of. Their counts agree with the history of the
calls, so whatever work gives back in the end, they count as released.
-/

namespace Recode.Simulation
open Recode.Media Recode.Container Recode.Device Recode.Picture Recode.Session Recode.Job
open Recode.Session.Work

def Log.counts (log : Log) : Nat × Nat × Nat × Nat × Nat :=
  (log.decodersCreated, log.decodersReleased, log.encodersCreated, log.encodersReleased,
    log.surfacesReleased)

namespace Decoder
variable (decoder : Decoder) (log : Log)

theorem released_whenRunning {α : Type} {decoder : Decoder} {act : Except Error α × Decoder}
    (same : act.2.released = decoder.released) :
    (decoder.whenRunning act).2.released = decoder.released := by
  unfold whenRunning
  split
  next running => exact same
  next idle => rfl

theorem released_configure (format : Format) :
    (decoder.configure format log).2.1.released = decoder.released ∧
      (decoder.configure format log).2.2.counts = log.counts := by
  unfold configure
  split <;> exact ⟨rfl, rfl⟩

theorem released_start : decoder.start.2.released = decoder.released := by
  unfold start
  split <;> rfl

theorem released_dequeueInput : decoder.dequeueInput.2.released = decoder.released := by
  refine released_whenRunning ?_
  split <;> rfl

theorem released_queueInput (slot : Nat) (written : Bytes) (info : SampleInfo) :
    (decoder.queueInput slot written info log).2.1.released = decoder.released ∧
      (decoder.queueInput slot written info log).2.2.counts = log.counts := by
  unfold queueInput
  split
  next running =>
    split
    next slots => exact ⟨rfl, by dsimp only; split <;> rfl⟩
    next error slots => exact ⟨rfl, rfl⟩
  next idle => exact ⟨rfl, rfl⟩

theorem released_emit : decoder.emit.2.released = decoder.released := by
  unfold emit
  split <;> rfl

theorem released_dequeueOutput : decoder.dequeueOutput.2.released = decoder.released := by
  refine released_whenRunning ?_
  split
  next fails => rfl
  next works =>
    split
    next later => rfl
    next ready =>
      split
      next unreported => rfl
      next reported =>
        dsimp only
        split
        next stutters => rfl
        next steady => exact released_emit _

theorem released_releaseOutput (index : Nat) (render : Bool) :
    (decoder.releaseOutput index render).2.released = decoder.released := by
  refine released_whenRunning ?_
  split <;> rfl

end Decoder

namespace Encoder
variable (encoder : Encoder) (log : Log)

theorem released_whenRunning {α : Type} {encoder : Encoder} {act : Except Error α × Encoder}
    (same : act.2.released = encoder.released) :
    (encoder.whenRunning act).2.released = encoder.released := by
  unfold whenRunning
  split
  next running => exact same
  next idle => rfl

theorem released_configure (format : Format) :
    (encoder.configure format log).2.1.released = encoder.released ∧
      (encoder.configure format log).2.2.counts = log.counts := by
  unfold configure
  split
  next width height =>
    split <;> exact ⟨rfl, rfl⟩
  next missing => exact ⟨rfl, rfl⟩

theorem released_start : encoder.start.2.released = encoder.released := by
  unfold start
  split <;> rfl

theorem released_createSurface : encoder.createSurface.2.released = encoder.released := by
  unfold createSurface
  split
  next unconfigured => rfl
  next format configured => split <;> rfl

theorem fresh_createSurface {encoder next : Encoder} {surface : Surface}
    (created : encoder.createSurface = (.ok surface, next)) : surface.released = false := by
  unfold createSurface at created
  split at created
  next unconfigured => exact nomatch created
  next format configured =>
    split at created
    next started => exact nomatch created
    next resting =>
      cases created
      rfl

theorem released_dequeueInput : encoder.dequeueInput.2.released = encoder.released := by
  refine released_whenRunning ?_
  split
  next surface => rfl
  next raw => split <;> rfl

theorem released_queueInput (slot : Nat) (written : Bytes) (info : SampleInfo) :
    (encoder.queueInput slot written info log).2.1.released = encoder.released ∧
      (encoder.queueInput slot written info log).2.2.counts = log.counts := by
  unfold queueInput
  split
  next running =>
    split
    next slots =>
      dsimp only
      split <;> exact ⟨rfl, rfl⟩
    next error slots => exact ⟨rfl, rfl⟩
  next idle => exact ⟨rfl, rfl⟩

theorem released_signalEnd :
    (encoder.signalEnd log).2.1.released = encoder.released ∧
      (encoder.signalEnd log).2.2.counts = log.counts := by
  unfold signalEnd
  split
  next running => split <;> exact ⟨rfl, rfl⟩
  next idle => exact ⟨rfl, rfl⟩

theorem released_dequeueOutput : encoder.dequeueOutput.2.released = encoder.released := by
  have configuration : encoder.emitConfiguration.2.released = encoder.released := by
    unfold emitConfiguration
    dsimp only
    split <;> rfl
  have next : encoder.emitNext.2.released = encoder.released := by
    unfold emitNext
    split <;> rfl
  refine released_whenRunning ?_
  split
  next fails => rfl
  next works =>
    split
    next later => rfl
    next ready =>
      dsimp only
      split
      next sent => exact next
      next unsent => exact configuration

theorem released_releaseOutput (index : Nat) :
    (encoder.releaseOutput index).2.released = encoder.released := by
  refine released_whenRunning ?_
  split <;> rfl

end Encoder

theorem Surface.released_swap (surface : Surface) (encoder : Encoder) (frame : Frame) (log : Log) :
    (surface.swap encoder frame log).2.1.released = encoder.released ∧
      (surface.swap encoder frame log).2.2.counts = log.counts := by
  unfold swap
  split
  next released => exact ⟨rfl, rfl⟩
  next usable => split <;> exact ⟨rfl, rfl⟩

namespace Bench

theorem createSurface_none {bench : Bench} (absent : bench.encoder = none) :
    bench.createSurface = (missing, bench) := by
  unfold createSurface onEncoder
  rw [absent]
  rfl

theorem createSurface_some {bench : Bench} {encoder : Encoder}
    (present : bench.encoder = some encoder) : bench.createSurface =
      match encoder.createSurface with
      | (.ok surface, next) => (.ok (), { bench with encoder := some next, surface := some surface })
      | (.error error, next) => (.error error, { bench with encoder := some next }) := by
  unfold createSurface onEncoder
  rw [present]
  dsimp only
  rcases encoder.createSurface with ⟨error | surface, next⟩ <;> rfl

/-- The counts, and what became of the things that there are. -/
def books (bench : Bench) :
    (Nat × Nat × Nat × Nat × Nat) × Option Bool × Option Bool × Option Bool × Option Bool :=
  (bench.catalog.log.counts, bench.decoder.map (·.released), bench.encoder.map (·.released),
    bench.surface.map (·.released), bench.transform.map (·.released))

variable {α : Type} (bench : Bench)

theorem books_onDecoder {absent : α} {act : Decoder → Log → α × Decoder × Log}
    (same : ∀ decoder log, (act decoder log).2.1.released = decoder.released ∧
      (act decoder log).2.2.counts = log.counts) :
    (bench.onDecoder absent act).2.books = bench.books := by
  unfold onDecoder
  split
  next decoder present =>
    obtain ⟨released, counts⟩ := same decoder bench.catalog.log
    simp only [books, withLog, present, Option.map_some, released, counts]
  next absent => rfl

theorem books_onEncoder {absent : α} {act : Encoder → Log → α × Encoder × Log}
    (same : ∀ encoder log, (act encoder log).2.1.released = encoder.released ∧
      (act encoder log).2.2.counts = log.counts) :
    (bench.onEncoder absent act).2.books = bench.books := by
  unfold onEncoder
  split
  next encoder present =>
    obtain ⟨released, counts⟩ := same encoder bench.catalog.log
    simp only [books, withLog, present, Option.map_some, released, counts]
  next absent => rfl

theorem books_onCodec {side : Side} {absent : α} {decode : Decoder → α × Decoder}
    {encode : Encoder → α × Encoder}
    (decoder : ∀ decoder, (decode decoder).2.released = decoder.released)
    (encoder : ∀ encoder, (encode encoder).2.released = encoder.released) :
    (bench.onCodec side absent decode encode).2.books = bench.books := by
  cases side with
  | decoder => exact bench.books_onDecoder fun one log => ⟨decoder one, rfl⟩
  | encoder => exact bench.books_onEncoder fun one log => ⟨encoder one, rfl⟩

theorem books_render (image : Image) : (bench.render image).books = bench.books := by
  unfold books render
  cases bench.transform <;> rfl

theorem books_answer {call : DeviceCall} (keeps : Call.KeepsHands (.device call)) :
    (Bench.answer call bench).2.books = bench.books := by
  cases call with
  | codecs => rfl
  | configure side format =>
    cases side with
    | decoder => exact bench.books_onDecoder fun decoder log => decoder.released_configure log format
    | encoder => exact bench.books_onEncoder fun encoder log => encoder.released_configure log format
  | start side => exact bench.books_onCodec Decoder.released_start Encoder.released_start
  | stop side => exact bench.books_onCodec (fun _ => rfl) fun _ => rfl
  | dequeueInput side timeout =>
    exact bench.books_onCodec Decoder.released_dequeueInput Encoder.released_dequeueInput
  | inputBuffer side slot => exact bench.books_onCodec (fun _ => rfl) fun _ => rfl
  | queueInput side slot content info =>
    cases side with
    | decoder =>
      exact bench.books_onDecoder fun decoder log => decoder.released_queueInput log slot content info
    | encoder =>
      exact bench.books_onEncoder fun encoder log => encoder.released_queueInput log slot content info
  | dequeueOutput side timeout =>
    exact bench.books_onCodec Decoder.released_dequeueOutput Encoder.released_dequeueOutput
  | releaseOutput side index render =>
    cases side with
    | encoder =>
      exact bench.books_onEncoder fun encoder log => ⟨encoder.released_releaseOutput index, rfl⟩
    | decoder =>
      have returned : (bench.onDecoder (missing : Except Error (Option Image)) fun decoder log =>
          ((decoder.releaseOutput index render).1, (decoder.releaseOutput index render).2,
            log)).2.books = bench.books :=
        bench.books_onDecoder fun decoder log => ⟨decoder.released_releaseOutput index render, rfl⟩
      dsimp only [Bench.answer, releaseOutput]
      split
      next image shown =>
        exact (books_render _ image).trans returned
      next hidden => exact returned
      next error refused => exact returned
  | encodedBuffer index => exact bench.books_onEncoder fun _ _ => ⟨rfl, rfl⟩
  | signalEnd => exact bench.books_onEncoder fun encoder log => encoder.released_signalEnd log
  | presentAt nanoseconds =>
    dsimp only [Bench.answer, presentAt, books]
    cases bench.surface <;> rfl
  | swap frame =>
    dsimp only [Bench.answer, swap]
    split
    next surface present =>
      exact bench.books_onEncoder fun encoder log => surface.released_swap encoder frame log
    next absent => rfl
  | awaitImage =>
    dsimp only [Bench.answer, awaitImage]
    split
    next transform present =>
      have same : transform.await.2.released = transform.released := by
        unfold Transform.await
        split
        next released => rfl
        next unreleased => split <;> rfl
      simp only [books, present, Option.map_some, same]
    next absent => rfl
  | drawImage =>
    dsimp only [Bench.answer, drawImage]
    split <;> rfl
  | _ => exact keeps.elim

end Bench

namespace Storage
variable {α : Type} (storage : Storage)

def books (storage : Storage) : Nat × Nat × Option Bool :=
  (storage.library.opened, storage.library.released, storage.library.demuxers.head?.map (·.released))

theorem books_onDemuxer {absent : α} {act : Demuxer → α × Demuxer}
    (same : ∀ demuxer, (act demuxer).2.released = demuxer.released) :
    (storage.onDemuxer absent act).2.books = storage.books := by
  dsimp only [onDemuxer, Library.onDemuxer]
  split
  next newest older opened =>
    simp only [books, Library.opened, Library.released, opened, List.length_cons, List.countP_cons,
      List.head?_cons, Option.map_some, same]
  next unopened => rfl

end Storage

theorem Storage.books_answer (storage : Storage) {call : StorageCall}
    (keeps : Call.KeepsHands (.storage call)) :
    (Storage.answer call storage).2.books = storage.books := by
  have moving (selects : Call.KeepsSelection (.storage call)) :
      (Storage.answer call storage).2.books = storage.books := by
    obtain ⟨-, cursor, moved⟩ := @moves_answer storage call selects
    simp only [books, Library.opened, Library.released, moved]
    cases storage.library.demuxers <;> rfl
  have choosing {error? : Option Error} {absent : Except Error Unit}
      {act : Demuxer → Except Error Unit × Demuxer}
      (same : ∀ demuxer, (act demuxer).2.released = demuxer.released) :
      (storage.barring error? (storage.onDemuxer absent act)).2.books = storage.books := by
    cases error? with
    | some error => rfl
    | none => exact storage.books_onDemuxer same
  cases call with
  | openSource path => exact keeps.elim
  | releaseDemuxer => exact keeps.elim
  | select index => exact choosing fun demuxer => demuxer.released_select index
  | unselect index => exact choosing fun demuxer => demuxer.released_unselect index
  | _ => exact moving trivial

/-- What is known of an asset: how many were made and given back, as far as that is counted, and
whether the newest is out. -/
structure Account where
  made : Option Nat
  returned : Option Nat
  out : Bool
  deriving DecidableEq, Repr

/-- The account after another exchange. What is not out cannot be given back. -/
def Account.after (asset : Asset) (exchange : Exchange) (account : Account) : Account :=
  if exchange.taken? = some asset then { account with made := account.made.map (· + 1), out := true }
  else if exchange.returned? = some asset ∧ account.out = true then
    { account with returned := account.returned.map (· + 1), out := false }
  else account

/-- Of surfaces only the released are counted, and of transforms none. -/
def Rig.account (rig : Rig Bench) : Asset → Account
  | .codec .decoder =>
      let log := rig.device.catalog.log
      ⟨some log.decodersCreated, some log.decodersReleased,
        rig.device.decoder.map (·.released) == some false⟩
  | .codec .encoder =>
      let log := rig.device.catalog.log
      ⟨some log.encodersCreated, some log.encodersReleased,
        rig.device.encoder.map (·.released) == some false⟩
  | .surface =>
      ⟨none, some rig.device.catalog.log.surfacesReleased,
        rig.device.surface.map (·.released) == some false⟩
  | .transform => ⟨none, none, rig.device.transform.map (·.released) == some false⟩
  | .demuxer =>
      let library := rig.storage.library
      ⟨some library.opened, some library.released,
        library.demuxers.head?.map (·.released) == some false⟩

theorem Rig.account_of_books {rig other : Rig Bench} (bench : other.device.books = rig.device.books)
    (storage : other.storage.books = rig.storage.books) : other.account = rig.account := by
  simp only [Bench.books, Log.counts, Storage.books, Prod.mk.injEq] at bench storage
  obtain ⟨⟨decodersCreated, decodersReleased, encodersCreated, encodersReleased, surfacesReleased⟩,
    decoder, encoder, surface, transform⟩ := bench
  obtain ⟨opened, released, newest⟩ := storage
  funext asset
  rcases asset with (_ | _) | _ | _ | _
  · simp only [account, decodersCreated, decodersReleased, decoder]
  · simp only [account, encodersCreated, encodersReleased, encoder]
  · simp only [account, surfacesReleased, surface]
  · simp only [account, transform]
  · simp only [account, opened, released, newest]

section
variable {patience : Nat}

theorem Account.after_aside {asset : Asset} {exchange : Exchange} {account : Account}
    (aside : exchange.taken? = none ∧ exchange.returned? = none) :
    account.after asset exchange = account := by
  unfold after
  rw [aside.1, aside.2, if_neg nofun, if_neg fun returned => nomatch returned.1]

theorem Rig.account_aside {call : Call} (keeps : call.KeepsHands) (rig : Rig Bench) :
    ((world Bench.answer patience).answer call rig).2.account = rig.account := by
  cases call with
  | storage call => exact account_of_books rfl (rig.storage.books_answer keeps)
  | device call => exact account_of_books (rig.device.books_answer keeps) rfl
  | client call => exact account_of_books rfl rfl

theorem Rig.account_giveBack {rig next : Rig Bench} {returned : Asset} {exchange : Exchange}
    (untaken : exchange.taken? = none) (gives : exchange.returned? = some returned)
    (others : ∀ asset, asset ≠ returned → next.account asset = rig.account asset)
    (given : next.account returned = if (rig.account returned).out = true then
      { rig.account returned with
        returned := (rig.account returned).returned.map (· + 1), out := false }
      else rig.account returned) (asset : Asset) :
    next.account asset = (rig.account asset).after asset exchange := by
  unfold Account.after
  rw [untaken, gives, if_neg nofun]
  by_cases same : asset = returned
  · subst same
    simp only [true_and, given]
  · rw [if_neg fun both => same (Option.some.inj both.1).symm]
    exact others asset same

def Rig.Follows (patience : Nat) (rig : Rig Bench) (asset : Asset) (call : Call) : Prop :=
  ((world Bench.answer patience).answer call rig).2.account asset =
    (rig.account asset).after asset ⟨call, ((world Bench.answer patience).answer call rig).1⟩

namespace Rig
variable (rig : Rig Bench) (asset : Asset)

theorem follows_openSource (path : Path) :
    rig.Follows patience asset (.storage (.openSource path)) := by
  dsimp only [Follows, world, Storage.answer, Storage.openSource, Storage.barring, Library.openSource]
  cases rig.storage.script.openError.on? rig.storage.library.opened with
  | some error => exact (Account.after_aside ⟨rfl, rfl⟩).symm
  | none =>
    cases rig.storage.library.source? path with
    | none => exact (Account.after_aside ⟨rfl, rfl⟩).symm
    | some source => rcases asset with (_ | _) | _ | _ | _ <;> rfl

theorem follows_releaseDemuxer : rig.Follows patience asset (.storage .releaseDemuxer) := by
  refine account_giveBack rfl rfl (fun asset other => ?_) ?_ asset
  · rcases asset with (_ | _) | _ | _ | _ <;> first | rfl | exact absurd rfl other
  · dsimp only [world, Storage.answer, Storage.onDemuxer, Library.onDemuxer]
    split
    next newest older opened =>
      unfold Demuxer.release
      split
      next released => simp [account, opened, released, Library.opened, Library.released]
      next unreleased => simp [account, opened, unreleased, Library.opened, Library.released]
    next unopened => simp [account, unopened]

theorem follows_createEncoder (name : String) :
    rig.Follows patience asset (.device (.createEncoder name)) := by
  dsimp only [Follows, world, Bench.answer, Bench.createEncoder, Catalog.createEncoder]
  cases rig.device.catalog.faults.failEncoderCreation with
  | true => exact (Account.after_aside ⟨rfl, rfl⟩).symm
  | false =>
    cases rig.device.catalog.codecs.find? fun codec => codec.isEncoder && codec.name == name with
    | none => exact (Account.after_aside ⟨rfl, rfl⟩).symm
    | some codec => rcases asset with (_ | _) | _ | _ | _ <;> rfl

theorem follows_createDecoder (mime : String) :
    rig.Follows patience asset (.device (.createDecoder mime)) := by
  dsimp only [Follows, world, Bench.answer, Bench.createDecoder, Catalog.createDecoder]
  cases rig.device.catalog.codecs.find? fun codec => !codec.isEncoder && codec.supports mime with
  | none => exact (Account.after_aside ⟨rfl, rfl⟩).symm
  | some codec => rcases asset with (_ | _) | _ | _ | _ <;> rfl

theorem follows_createSurface : rig.Follows patience asset (.device .createSurface) := by
  dsimp only [Follows, world, Bench.answer]
  cases present : rig.device.encoder with
  | none =>
    rw [Bench.createSurface_none present]
    exact (Account.after_aside ⟨rfl, rfl⟩).symm
  | some encoder =>
    rw [Bench.createSurface_some present]
    have released := encoder.released_createSurface
    rcases created : encoder.createSurface with ⟨error | surface, next⟩ <;>
        rw [created] at released <;> dsimp only at released
    · refine Eq.trans ?_ (Account.after_aside ⟨rfl, rfl⟩).symm
      rcases asset with (_ | _) | _ | _ | _ <;> simp [account, present, released]
    · have fresh := Encoder.fresh_createSurface created
      rcases asset with (_ | _) | _ | _ | _ <;>
        simp [account, Account.after, Exchange.taken?, Exchange.returned?, present, released,
          fresh]

theorem follows_createTransform (spec : TransformSpec) :
    rig.Follows patience asset (.device (.createTransform spec)) := by
  dsimp only [Follows, world, Bench.answer, Bench.createTransform, Transform.create]
  split
  next transform created =>
    split at created
    next empty => exact nomatch created
    next sized =>
      cases created
      rcases asset with (_ | _) | _ | _ | _ <;> rfl
  next error refused => exact (Account.after_aside ⟨rfl, rfl⟩).symm

theorem follows_release (side : Side) : rig.Follows patience asset (.device (.release side)) := by
  cases side with
  | decoder =>
    dsimp only [Follows, world, Bench.answer, Bench.release, Bench.onDecoder]
    cases present : rig.device.decoder with
    | none => exact account_giveBack rfl rfl (fun _ _ => rfl) (by simp [account, present]) asset
    | some decoder =>
      dsimp only [Decoder.release]
      refine account_giveBack rfl rfl (fun asset other => ?_) ?_ asset
      · cases decoder.released <;> rcases asset with (_ | _) | _ | _ | _ <;>
          first | rfl | exact absurd rfl other
      · cases released : decoder.released <;> simp [account, present, released, Bench.withLog]
  | encoder =>
    dsimp only [Follows, world, Bench.answer, Bench.release, Bench.onEncoder]
    cases present : rig.device.encoder with
    | none => exact account_giveBack rfl rfl (fun _ _ => rfl) (by simp [account, present]) asset
    | some encoder =>
      dsimp only [Encoder.release]
      refine account_giveBack rfl rfl (fun asset other => ?_) ?_ asset
      · cases encoder.released <;> rcases asset with (_ | _) | _ | _ | _ <;>
          first | rfl | exact absurd rfl other
      · cases released : encoder.released <;> simp [account, present, released, Bench.withLog]

theorem follows_releaseSurface : rig.Follows patience asset (.device .releaseSurface) := by
  dsimp only [Follows, world, Bench.answer, Bench.releaseSurface]
  cases present : rig.device.surface with
  | none => exact account_giveBack rfl rfl (fun _ _ => rfl) (by simp [account, present]) asset
  | some surface =>
    dsimp only [Surface.release]
    refine account_giveBack rfl rfl (fun asset other => ?_) ?_ asset
    · cases surface.released <;> rcases asset with (_ | _) | _ | _ | _ <;>
        first | rfl | exact absurd rfl other
    · cases released : surface.released <;> simp [account, present, released, Bench.withLog]

theorem follows_releaseTransform : rig.Follows patience asset (.device .releaseTransform) := by
  dsimp only [Follows, world, Bench.answer, Bench.releaseTransform]
  refine account_giveBack rfl rfl (fun asset other => ?_) ?_ asset
  · rcases asset with (_ | _) | _ | _ | _ <;> first | rfl | exact absurd rfl other
  · cases present : rig.device.transform with
    | none => simp [account, present]
    | some transform =>
      cases released : transform.released <;>
        simp [account, present, released, Transform.release]

theorem follows_answer (call : Call) : rig.Follows patience asset call := by
  have aside (keeps : call.KeepsHands) : rig.Follows patience asset call := by
    unfold Follows
    rw [account_aside keeps, Account.after_aside (Exchange.aside_of_keepsHands call keeps _)]
  cases call with
  | client call => exact aside trivial
  | storage call =>
    cases call with
    | openSource path => exact rig.follows_openSource asset path
    | releaseDemuxer => exact rig.follows_releaseDemuxer asset
    | _ => exact aside trivial
  | device call =>
    cases call with
    | createEncoder name => exact rig.follows_createEncoder asset name
    | createDecoder mime => exact rig.follows_createDecoder asset mime
    | createSurface => exact rig.follows_createSurface asset
    | createTransform spec => exact rig.follows_createTransform asset spec
    | release side => exact rig.follows_release asset side
    | releaseSurface => exact rig.follows_releaseSurface asset
    | releaseTransform => exact rig.follows_releaseTransform asset
    | _ => exact aside trivial

end Rig

namespace Account
variable {asset : Asset} {history : History} {account : Account}

def through (asset : Asset) (history : History) (account : Account) : Account :=
  history.foldr (Account.after asset) account

theorem made_through :
    (account.through asset history).made = account.made.map (· + history.takings asset) := by
  induction history with
  | nil => cases account with | mk made => cases made <;> rfl
  | cons latest earlier ih =>
    show ((account.through asset earlier).after asset latest).made = _
    unfold History.takings at ih ⊢
    rw [List.countP_cons]
    unfold after
    split
    next taken =>
      simp only [ih, taken, beq_self_eq_true, if_true, Option.map_map]
      rfl
    next other =>
      have uncounted : (latest.taken? == some asset) = false := beq_false_of_ne other
      rw [uncounted]
      split
      next returned => exact ih
      next aside => exact ih

theorem out_through (fair : history.Always Exchange.Fair) (held : asset ∈ history.inHand) :
    (account.through asset history).out = true := by
  induction history with
  | nil => exact absurd held List.not_mem_nil
  | cons latest earlier ih =>
    show ((account.through asset earlier).after asset latest).out = true
    have once := History.nodup_inHand fair.2
    rw [History.inHand] at held
    unfold after
    split
    next taken => rfl
    next untaken =>
      cases taken : latest.taken? with
      | some other =>
        rw [taken] at held untaken
        have before := (List.mem_cons.mp held).resolve_left fun same => untaken (same ▸ rfl)
        rw [Exchange.returned?_of_taken? taken, if_neg fun both => Option.some_ne_none asset both.1.symm]
        exact ih fair.2 before
      | none =>
        cases returned : latest.returned? with
        | none =>
          rw [taken, returned] at held
          rw [if_neg fun both => Option.some_ne_none asset both.1.symm]
          exact ih fair.2 held
        | some other =>
          rw [taken, returned] at held
          obtain ⟨apart, before⟩ := (once.mem_erase_iff).mp held
          rw [if_neg fun both => apart (Option.some.inj both.1).symm]
          exact ih fair.2 before

/-- In a fair history all that is given back was out, and counts. -/
theorem returned_through (fair : history.Always Exchange.Fair) :
    (account.through asset history).returned = account.returned.map (· + history.returnings asset) := by
  induction history with
  | nil => cases account with | mk made returned => cases returned <;> rfl
  | cons latest earlier ih =>
    have before := ih fair.2
    show ((account.through asset earlier).after asset latest).returned = _
    unfold History.returnings at before ⊢
    rw [List.countP_cons]
    unfold after
    split
    next taken =>
      rw [Exchange.returned?_of_taken? taken]
      exact before
    next untaken =>
      by_cases returned : latest.returned? = some asset
      · have out : (account.through asset earlier).out = true :=
          out_through fair.2 (fair.1.returns asset returned)
        rw [if_pos ⟨returned, out⟩]
        simp only [before, returned, beq_self_eq_true, if_true, Option.map_map]
        rfl
      · rw [if_neg fun both => returned both.1, beq_false_of_ne returned]
        exact before

end Account

namespace Rig

def Tells (before : Rig Bench) (state : History × Rig Bench) : Prop :=
  ∀ asset, state.2.account asset = (before.account asset).through asset state.1

theorem tells_answer {patience : Nat} {before : Rig Bench} (call : Call) (state : History × Rig Bench)
    (tells : before.Tells state) :
    before.Tells ((world Bench.answer patience).recorded.answer call state).2 := by
  intro asset
  have follows : Follows patience state.2 asset call := state.2.follows_answer asset call
  unfold Follows at follows
  rw [tells asset] at follows
  exact follows

structure Balances (before : Rig Bench) (state : History × Rig Bench) : Prop where
  encodersCreated : state.2.device.catalog.log.encodersCreated =
    before.device.catalog.log.encodersCreated + state.1.takings (.codec .encoder)
  encodersReleased : state.2.device.catalog.log.encodersReleased =
    before.device.catalog.log.encodersReleased + state.1.takings (.codec .encoder)
  decodersCreated : state.2.device.catalog.log.decodersCreated =
    before.device.catalog.log.decodersCreated + state.1.takings (.codec .decoder)
  decodersReleased : state.2.device.catalog.log.decodersReleased =
    before.device.catalog.log.decodersReleased + state.1.takings (.codec .decoder)
  surfacesReleased : state.2.device.catalog.log.surfacesReleased =
    before.device.catalog.log.surfacesReleased + state.1.takings .surface

structure BalancesDemuxers (before : Rig Bench) (state : History × Rig Bench) : Prop where
  opened : state.2.storage.library.opened =
    before.storage.library.opened + state.1.takings .demuxer
  released : state.2.storage.library.released =
    before.storage.library.released + state.1.takings .demuxer

section
variable {before : Rig Bench} {state : History × Rig Bench} (tells : before.Tells state)
include tells

theorem Tells.made (asset : Asset) :
    (state.2.account asset).made = (before.account asset).made.map (· + state.1.takings asset) := by
  rw [tells asset]
  exact Account.made_through

theorem Tells.returned {assets : List Asset} (custody : Custody assets state.1) (asset : Asset)
    (given : asset ∉ assets) : (state.2.account asset).returned =
      (before.account asset).returned.map (· + state.1.takings asset) := by
  have absent : asset ∉ state.1.inHand := custody.inHand ▸ given
  rw [tells asset, History.takings_eq custody.fair asset, List.count_eq_zero_of_not_mem absent]
  exact Account.returned_through custody.fair

theorem Tells.balances (dropped : Dropped state.1) : before.Balances state := by
  obtain ⟨assets, sources, custody⟩ := dropped
  have returned (asset : Asset) (other : asset ≠ .demuxer) :=
    tells.returned custody asset fun held => other (sources asset held)
  exact {
    encodersCreated := Option.some.inj (tells.made (.codec .encoder))
    encodersReleased := Option.some.inj (returned (.codec .encoder) nofun)
    decodersCreated := Option.some.inj (tells.made (.codec .decoder))
    decodersReleased := Option.some.inj (returned (.codec .decoder) nofun)
    surfacesReleased := Option.some.inj (returned .surface nofun) }

theorem Tells.balancesDemuxers (custody : Custody [] state.1) : before.BalancesDemuxers state where
  opened := Option.some.inj (tells.made .demuxer)
  released := Option.some.inj (tells.returned custody .demuxer List.not_mem_nil)

end

end Rig

end

/-- Whatever a transcode or a compression takes, it gives back exactly once, on every way out. This
holds in every world, at whichever call something is refused there and whenever the client cancels;
only a compression that is broken off may leave its source open. The simulated codecs count as many
encoders and decoders released as were made, and a surface released for each that was created; of
sources a compression that returns has released as many as it opened, the probe's included. And where
no track was selected, none is when a transcode or a copy returns. -/
theorem everything_is_given_back_once {σ : Type} (world : World σ) (outside : σ) (rig : Rig Bench)
    (patience : Nat) (reporter : Option Progress.Reporter) (plan : TranscodePlan) (track : Track)
    (window : Window) (reporting : Bool) (config : Config) (path destination : Path)
    (options : Options) :
    let job {σ : Type} : Compression (History × σ) := compressing config path destination options
    let bench := (Rig.world Bench.answer patience).recorded
    let session : Desk (History × Rig Bench) := { reporter, outside := ([], rig) }
    let unselected (left : Desk (History × Rig Bench)) : Prop :=
      left.outside.2.storage.selected? = none
    Custody [] ((transcode plan).run world.recorded
      { reporter, outside := ([], outside) }).2.outside.1 ∧
    job.run.Ends world.recorded { outside := ([], outside) }
      (fun _ left => Custody [] left.outside.1) (fun _ left => Custody [] left.outside.1)
      (fun left => Dropped left.outside.1) ∧
    rig.Balances ((transcode plan).run bench session).2.outside ∧
    job.run.Ends bench { outside := ([], rig) }
      (fun _ left => rig.Balances left.outside ∧ rig.BalancesDemuxers left.outside)
      (fun _ left => rig.Balances left.outside ∧ rig.BalancesDemuxers left.outside)
      (fun left => rig.Balances left.outside) ∧
    (rig.storage.script.demuxer.unselectError = none → rig.storage.selected? = none →
      (transcode plan).Returns bench session (fun _ => unselected) (fun _ => unselected) ∧
      (copyTrack track window reporting).Returns bench session (fun _ => unselected)
        (fun _ => unselected)) := by
  intro job bench session unselected
  have transcodes {σ : Type} (world : World σ) :
      (transcode plan).Keeps world.recorded fun desk => Custody [] desk.outside.1 :=
    transcode_keeps_custody (fun _ _ => List.not_mem_nil) world
  have compresses {σ : Type} (world : World σ) : (@job σ).run.EndsEmptyHanded world :=
    Compression.run_endsEmptyHanded probeContainer_endsEmptyHanded
  have houses := (Rig.houses Bench.answer patience).recorded
  refine ⟨transcodes world _ .begin, compresses world _ .begin, ?_, ?_, fun unbarred free =>
    ⟨transcode_unselects houses plan free unbarred, copyTrack_unselects houses free unbarred⟩⟩
  · have told : (transcode plan).Keeps bench fun desk => rig.Tells desk.outside :=
      transcode_uses.keeps_outside fun call state _ => Rig.tells_answer call state
    exact (told session fun _ => rfl).balances (transcodes _ session .begin).dropped
  · have told : job.run.Keeps bench fun desk => rig.Tells desk.outside :=
      Compression.run_keeps_outside (fun _ => probeContainer_uses) rig.Tells Rig.tells_answer
    let begun : Desk (History × Rig Bench) := { outside := ([], rig) }
    have tells : rig.Tells begun.outside := fun _ => rfl
    have ends := (compresses (Rig.world Bench.answer patience) begun .begin).and (told.ends tells)
    have balanced {state : History × Rig Bench} (custody : Custody [] state.1)
        (tells : rig.Tells state) : rig.Balances state ∧ rig.BalancesDemuxers state :=
      ⟨tells.balances custody.dropped, tells.balancesDemuxers custody⟩
    exact ends.imp (fun _ _ ⟨custody, tells⟩ => balanced custody tells)
      (fun _ _ ⟨custody, tells⟩ => balanced custody tells)
      fun _ ⟨dropped, tells⟩ => tells.balances dropped

end Recode.Simulation
