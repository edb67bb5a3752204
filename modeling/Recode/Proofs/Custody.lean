import Recode.Proofs.JobConduct

/-!
What work takes into its hands and gives back: codecs, the encoder's surface, the transform between
the codecs, and the demuxer of a source. All of it is to be seen from the history of the calls, so it
is said of every world, and of every call there at which something can go wrong.
-/

namespace Recode.Session
open Recode.Media Recode.Device
open Recode.Session.Work

/-- What has to be given back by whoever takes it. -/
inductive Asset where
  | codec (side : Side)
  | surface
  | transform
  | demuxer
  deriving DecidableEq, Repr, Inhabited

namespace Exchange

def taken? : Exchange → Option Asset
  | ⟨.device (.createEncoder _), .ok _⟩ => some (.codec .encoder)
  | ⟨.device (.createDecoder _), .ok _⟩ => some (.codec .decoder)
  | ⟨.device .createSurface, .ok _⟩ => some .surface
  | ⟨.device (.createTransform _), .ok _⟩ => some .transform
  | ⟨.storage (.openSource _), .ok _⟩ => some .demuxer
  | _ => none

def returned? : Exchange → Option Asset
  | ⟨.device (.release side), _⟩ => some (.codec side)
  | ⟨.device .releaseSurface, _⟩ => some .surface
  | ⟨.device .releaseTransform, _⟩ => some .transform
  | ⟨.storage .releaseDemuxer, _⟩ => some .demuxer
  | _ => none

end Exchange

namespace History

/-- What was taken and not given back, the latest first. -/
def inHand : History → List Asset
  | [] => []
  | latest :: earlier =>
      match latest.taken?, latest.returned? with
      | some asset, _ => asset :: inHand earlier
      | none, some asset => (inHand earlier).erase asset
      | none, none => inHand earlier

def takings (history : History) (asset : Asset) : Nat := history.countP (·.taken? == some asset)

def returnings (history : History) (asset : Asset) : Nat :=
  history.countP (·.returned? == some asset)

end History

/-- Nothing is taken that is already in hand, and nothing is given back that is not. -/
structure Exchange.Fair (latest : Exchange) (earlier : History) : Prop where
  takes : ∀ asset, latest.taken? = some asset → asset ∉ earlier.inHand
  returns : ∀ asset, latest.returned? = some asset → asset ∈ earlier.inHand

/-- The history is fair, and leaves these assets in hand. -/
structure Custody (assets : List Asset) (history : History) : Prop where
  fair : history.Always Exchange.Fair
  inHand : history.inHand = assets

def Call.KeepsHands : Call → Prop
  | .device (.createEncoder _) | .device (.createDecoder _) | .device .createSurface
  | .device (.createTransform _) | .device (.release _) | .device .releaseSurface
  | .device .releaseTransform | .storage (.openSource _) | .storage .releaseDemuxer => False
  | _ => True

theorem Exchange.aside_of_keepsHands (call : Call) (keeps : call.KeepsHands) (reply : call.Reply) :
    taken? ⟨call, reply⟩ = none ∧ returned? ⟨call, reply⟩ = none := by
  rcases call with call | call | call <;> cases call <;>
    first | exact keeps.elim | exact ⟨rfl, rfl⟩

theorem Exchange.returned?_of_taken? {exchange : Exchange} {asset : Asset}
    (taken : exchange.taken? = some asset) : exchange.returned? = none := by
  unfold taken? at taken
  split at taken <;> first | rfl | exact nomatch taken

section
variable {assets : List Asset} {asset : Asset} {history : History} {exchange : Exchange}

theorem Custody.begin : Custody [] [] := ⟨trivial, rfl⟩

theorem Custody.aside (custody : Custody assets history)
    (aside : exchange.taken? = none ∧ exchange.returned? = none) :
    Custody assets (exchange :: history) := by
  obtain ⟨untaken, unreturned⟩ := aside
  refine ⟨⟨⟨?_, ?_⟩, custody.fair⟩, ?_⟩
  · exact fun asset taken => nomatch untaken.symm.trans taken
  · exact fun asset returned => nomatch unreturned.symm.trans returned
  · rw [History.inHand, untaken, unreturned]
    exact custody.inHand

theorem Custody.take (custody : Custody assets history) (taken : exchange.taken? = some asset)
    (free : asset ∉ assets) : Custody (asset :: assets) (exchange :: history) := by
  have unreturned := Exchange.returned?_of_taken? taken
  refine ⟨⟨⟨?_, ?_⟩, custody.fair⟩, ?_⟩
  · intro other took
    obtain rfl := Option.some.inj (taken.symm.trans took)
    rwa [custody.inHand]
  · exact fun other returned => nomatch unreturned.symm.trans returned
  · rw [History.inHand, taken, custody.inHand]

theorem Custody.giveBack (custody : Custody assets history) (untaken : exchange.taken? = none)
    (returned : exchange.returned? = some asset) (held : asset ∈ assets) :
    Custody (assets.erase asset) (exchange :: history) := by
  refine ⟨⟨⟨?_, ?_⟩, custody.fair⟩, ?_⟩
  · exact fun other taken => nomatch untaken.symm.trans taken
  · intro other gave
    obtain rfl := Option.some.inj (returned.symm.trans gave)
    rwa [custody.inHand]
  · rw [History.inHand, untaken, returned, custody.inHand]

/-- Whatever was taken was given back once, or is still in hand. -/
theorem History.takings_eq (fair : history.Always Exchange.Fair) (asset : Asset) :
    history.takings asset = history.returnings asset + history.inHand.count asset := by
  induction history with
  | nil => rfl
  | cons latest earlier ih =>
    have before := ih fair.2
    unfold takings returnings at before ⊢
    rw [List.countP_cons, List.countP_cons, before, inHand]
    cases taken : latest.taken? with
    | some other =>
      have unreturned := Exchange.returned?_of_taken? taken
      simp only [unreturned, List.count_cons, Option.some_beq_some, reduceCtorEq, beq_iff_eq, if_false]
      omega
    | none =>
      cases returned : latest.returned? with
      | none => simp only [reduceCtorEq, beq_iff_eq, if_false, Nat.add_zero]
      | some other =>
        have held := fair.1.returns other returned
        by_cases same : other = asset
        · subst same
          have positive := List.count_pos_iff.mpr held
          simp only [List.count_erase_self, reduceCtorEq, beq_iff_eq, if_false, beq_self_eq_true,
            if_true]
          omega
        · simp only [List.count_erase_of_ne (Ne.symm same), Option.some_beq_some, beq_iff_eq,
            reduceCtorEq, same, if_false, Nat.add_zero]

theorem History.nodup_inHand (fair : history.Always Exchange.Fair) : history.inHand.Nodup := by
  induction history with
  | nil => exact List.nodup_nil
  | cons latest earlier ih =>
    have before := ih fair.2
    rw [inHand]
    cases taken : latest.taken? with
    | some other => exact List.nodup_cons.mpr ⟨fair.1.takes other taken, before⟩
    | none =>
      cases latest.returned? with
      | none => exact before
      | some other => exact before.erase other

end

namespace Call

theorem IsListing.keepsHands {call : Call} (listing : call.IsListing) : call.KeepsHands := by
  unfold IsListing at listing
  split at listing <;> trivial

theorem IsCopying.keepsHands {isAudio : Bool} {call : Call} (copying : call.IsCopying isAudio) :
    call.KeepsHands := by
  unfold IsCopying at copying
  split at copying <;> trivial

theorem IsStepping.keepsHands {call : Call} (stepping : call.IsStepping) : call.KeepsHands := by
  unfold KeepsHands
  split
  all_goals first
    | exact stepping.elim id id
    | trivial

end Call

namespace Work
variable {σ α β : Type}

theorem Uses.keeps_custody {calls : Call → Prop} {work : Work (History × σ) α}
    (uses : work.Uses calls) (keeps : ∀ call, calls call → call.KeepsHands) (world : World σ) (assets : List Asset) :
    work.Keeps world.recorded fun desk => Custody assets desk.outside.1 :=
  uses.keeps_history (Custody assets) fun call reply _ allowed custody =>
    custody.aside (Exchange.aside_of_keepsHands call (keeps call allowed) reply)

theorem ask_keeps_custody (call : Call) (keeps : call.KeepsHands) (world : World σ)
    (assets : List Asset) :
    (ask call : Work (History × σ) call.Reply).Keeps world.recorded
      fun desk => Custody assets desk.outside.1 :=
  fun _ custody => custody.aside (Exchange.aside_of_keepsHands call keeps _)

/-- Work that takes the assets in hand if it reaches its value, and otherwise leaves nothing behind. -/
def Opens (work : Work (History × σ) α) (taken : List Asset) : Prop :=
  ∀ (world : World σ) (desk : Desk (History × σ)) (base : List Asset),
    (∀ asset ∈ taken, asset ∉ base) → Custody base desk.outside.1 → work.Ends world.recorded desk
      (fun _ left => Custody (taken ++ base) left.outside.1)
      (fun _ left => Custody base left.outside.1) fun left => Custody base left.outside.1

/-- Cleanup that gives the assets back, whatever was taken after and before them. -/
def Gives (cleanup : Work (History × σ) α) (taken : List Asset) : Prop :=
  ∀ (world : World σ) (desk : Desk (History × σ)) (later base : List Asset),
    (∀ asset ∈ taken, asset ∉ later) → Custody (later ++ (taken ++ base)) desk.outside.1 →
      cleanup.Reaches world.recorded desk fun _ left => Custody (later ++ base) left.outside.1

theorem Gives.run {cleanup : Work (History × σ) α} {taken base : List Asset}
    (gives : cleanup.Gives taken) {world : World σ} {desk : Desk (History × σ)}
    (custody : Custody (taken ++ base) desk.outside.1) :
    Custody base (cleanup.run world.recorded desk).2.outside.1 := by
  obtain ⟨_, left, ran, held⟩ := gives world desk [] base (fun _ _ => List.not_mem_nil) custody
  rw [ran]
  exact held

theorem gives_ask {call : Call} {asset : Asset}
    (untaken : ∀ reply, Exchange.taken? ⟨call, reply⟩ = none)
    (returned : ∀ reply, Exchange.returned? ⟨call, reply⟩ = some asset) :
    (ask call : Work (History × σ) call.Reply).Gives [asset] := by
  intro world desk later base apart custody
  have absent : asset ∉ later := apart asset List.mem_cons_self
  have given := custody.giveBack (untaken (world.answer call desk.outside.2).1) (returned _)
    (List.mem_append_right later List.mem_cons_self)
  rw [List.erase_append_right _ absent, List.singleton_append, List.erase_cons_head] at given
  exact ⟨_, _, run_ask call world.recorded desk, given⟩

theorem Uses.opens {calls : Call → Prop} {work : Work (History × σ) α} (uses : work.Uses calls)
    (keeps : ∀ call, calls call → call.KeepsHands) : work.Opens [] :=
  fun world _ base _ custody => (uses.keeps_custody keeps world base).ends custody

theorem Opens.bind {first : Work (History × σ) α} {next : α → Work (History × σ) β}
    {taken : List Asset} (begins : first.Opens []) (opens : ∀ value, (next value).Opens taken) :
    (first >>= next).Opens taken :=
  fun world _ base free custody => Ends.bind (begins world _ base nofun custody)
    fun value left held => opens value world left base free held

theorem aside_opens {asked : Work (History × σ) (Except Error α)} (uses : asked.Uses Call.KeepsHands) :
    (asked >>= settle).Opens [] :=
  (Uses.bind uses fun _ => .settle).opens fun _ => id

/-- What was taken first is given back if what follows does not open. -/
theorem Opens.undoing {first : Work (History × σ) α} {cleanup : Work (History × σ) Unit}
    {inner : Work (History × σ) β} {taken more : List Asset} (takes : first.Opens taken)
    (gives : cleanup.Gives taken) (opens : inner.Opens more) (apart : ∀ asset ∈ more, asset ∉ taken) :
    (first >>= fun _ => Work.undoing cleanup inner).Opens (more ++ taken) := by
  intro world desk base free custody
  have begun := takes world desk base
    (fun asset member => free asset (List.mem_append_right more member)) custody
  refine Ends.bind begun fun _ left held => ends_undoing ?_
  have goesOn := opens world left (taken ++ base) (fun asset member held => ?_) held
  · rw [List.append_assoc]
    exact goesOn.imp (fun _ _ => id) (fun _ _ => gives.run) fun _ => gives.run
  · rcases List.mem_append.mp held with earlier | already
    · exact apart asset member earlier
    · exact free asset (List.mem_append_left taken member) already

theorem opens_ask (call : Call) (asset : Asset) (settles : call.Reply → Except Error Unit)
    (takes : ∀ reply, Exchange.taken? ⟨call, reply⟩ =
      if (settles reply).isOk then some asset else none)
    (plain : ∀ reply, Exchange.returned? ⟨call, reply⟩ = none) :
    (ask call >>= fun reply => settle (settles reply) : Work (History × σ) Unit).Opens [asset] := by
  intro world desk base free custody
  refine ends_recorded fun reply left added => ?_
  have taken := takes reply
  cases settled : settles reply with
  | error error =>
    rw [settled] at taken
    exact ends_fail (added ▸ custody.aside ⟨taken, plain reply⟩)
  | ok _ =>
    rw [settled] at taken
    exact ends_pure (added ▸ custody.take taken (free asset List.mem_cons_self))

end Work

namespace TranscodePlan
variable {σ : Type} {plan : TranscodePlan}

def surfaces (plan : TranscodePlan) : List Asset := if plan.surfaceInput then [.surface] else []

@[simp] theorem mem_surfaces {asset : Asset} :
    asset ∈ plan.surfaces ↔ plan.surfaceInput = true ∧ asset = .surface := by
  unfold surfaces
  split
  next surface => simp [surface]
  next raw => simp [raw]

def opened (plan : TranscodePlan) : List Asset :=
  [.codec .decoder] ++ [.transform] ++ plan.surfaces ++ [.codec .encoder]

theorem shutDown_gives (side : Side) :
    (shutDown side : Work (History × σ) Unit).Gives [.codec side] := by
  intro world desk later base apart custody
  refine reaches_after (run_ask (.device (.stop side)) world.recorded desk) ?_
  exact gives_ask (fun _ => rfl) (fun _ => rfl) world _ later base apart (custody.aside ⟨rfl, rfl⟩)

theorem releaseTransform_gives :
    (device .releaseTransform : Work (History × σ) Unit).Gives [.transform] :=
  gives_ask (fun _ => rfl) fun _ => rfl

theorem releaseSurface_gives :
    (plan.releaseSurface : Work (History × σ) Unit).Gives plan.surfaces := by
  unfold releaseSurface surfaces
  split
  next surface => exact gives_ask (fun _ => rfl) fun _ => rfl
  next raw => exact fun world desk later base _ custody => reaches_pure custody

theorem closeCodecs_gives : (plan.closeCodecs : Work (History × σ) Unit).Gives plan.opened := by
  intro world desk later base apart custody
  let front : List Asset := later ++ [.codec .decoder]
  have behind {asset : Asset} (member : asset ∈ plan.opened) (other : asset ≠ .codec .decoder) :
      asset ∉ front := by
    intro found
    rcases List.mem_append.mp found with earlier | latest
    · exact apart asset member earlier
    · exact other (List.mem_singleton.mp latest)
  have order : later ++ (plan.opened ++ base) =
      front ++ ([.transform] ++ (plan.surfaces ++ ([.codec .encoder] ++ base))) := by
    simp [opened, front]
  rw [order] at custody
  refine reaches_bind ((releaseTransform_gives world desk front _ ?_ custody).imp fun _ left held => ?_)
  · rintro asset member
    obtain rfl := List.mem_singleton.mp member
    exact behind (by simp [opened]) nofun
  refine reaches_bind ((releaseSurface_gives world left front _ ?_ held).imp fun _ left held => ?_)
  · rintro asset member
    obtain ⟨surface, rfl⟩ := mem_surfaces.mp member
    exact behind (by simp [opened, surface]) nofun
  rw [List.append_assoc] at held
  refine reaches_bind ((shutDown_gives .decoder world left later _ ?_ held).imp fun _ left held => ?_)
  · exact fun asset member => apart asset (by simp [opened, List.mem_singleton.mp member])
  refine shutDown_gives .encoder world left later base ?_ held
  exact fun asset member => apart asset (by simp [opened, List.mem_singleton.mp member])

/-- The encoder, its surface, the transform and the decoder are taken in this order, and whatever was
taken is given back if anything that follows fails. -/
theorem openCodecs_opens (input : Media.Format) :
    (plan.openCodecs input : Work (History × σ) Unit).Opens plan.opened := by
  have decoder : (device (.createDecoder input.mime) >>= settle :
      Work (History × σ) Unit).Opens [.codec .decoder] :=
    opens_ask (.device (.createDecoder input.mime)) _ id (fun reply => by cases reply <;> rfl) fun _ => rfl
  have transform : (device (.start .encoder) >>= settle >>= fun _ =>
      device (.createTransform ⟨plan.request.width, plan.request.height, plan.request.rotation,
        plan.surfaceInput⟩) >>= settle : Work (History × σ) Unit).Opens [.transform] :=
    Opens.bind (aside_opens (.call trivial trivial)) fun _ =>
      opens_ask (.device (.createTransform _)) _ id (fun reply => by cases reply <;> rfl) fun _ => rfl
  have surface : (device (.configure .encoder (encoderFormat plan.settings plan.request plan.profile))
      >>= settle >>= fun _ => if plan.surfaceInput then device .createSurface >>= settle else pure () :
      Work (History × σ) Unit).Opens plan.surfaces := by
    refine Opens.bind (aside_opens (.call trivial trivial)) fun _ => ?_
    unfold surfaces
    split
    next surface =>
      exact opens_ask (.device .createSurface) _ id (fun reply => by cases reply <;> rfl) fun _ => rfl
    next raw => exact (Uses.pure ()).opens fun _ => id
  have encoder : (device (.createEncoder plan.encoder.codec.name) >>= settle :
      Work (History × σ) Unit).Opens [.codec .encoder] :=
    opens_ask (.device (.createEncoder _)) _ id (fun reply => by cases reply <;> rfl) fun _ => rfl
  have started : (device (.configure .decoder input) >>= settle >>= fun _ =>
      device (.start .decoder) >>= settle : Work (History × σ) Unit).Opens [] :=
    Opens.bind (aside_opens (.call trivial trivial)) fun _ => aside_opens (.call trivial trivial)
  simp only [openCodecs, ite_settle]
  simp only [← bind_assoc] at transform started ⊢
  refine encoder.undoing (shutDown_gives .encoder) (surface.undoing releaseSurface_gives
    (transform.undoing releaseTransform_gives (decoder.undoing (shutDown_gives .decoder) started ?_) ?_)
    ?_) ?_
  · exact fun _ member => absurd member List.not_mem_nil
  · simp
  · simp
  · simp

theorem demuxer_notMem_opened : .demuxer ∉ plan.opened := by simp [opened]

theorem runSelected_custody {world : World σ} {desk : Desk (History × σ)} {base : List Asset}
    (free : ∀ asset ∈ plan.opened, asset ∉ base) (custody : Custody base desk.outside.1) :
    plan.runSelected.Ends world.recorded desk (fun _ left => Custody base left.outside.1)
      (fun _ left => Custody base left.outside.1) fun left => Custody base left.outside.1 := by
  have looks : (storage (.trackFormat plan.track.index) >>= settle :
      Work (History × σ) Media.Format).Opens [] := aside_opens (.call trivial trivial)
  have opens : (storage (.seek plan.window.seekTarget .previousSync) >>= settle >>= fun _ =>
      storage (.trackFormat plan.track.index) >>= settle >>= plan.openCodecs :
      Work (History × σ) Unit).Opens plan.opened :=
    Opens.bind (aside_opens (.call trivial trivial)) fun _ => looks.bind openCodecs_opens
  have runs : (patience >>= fun limit => plan.drive limit {} >>= plan.finish :
      Work (History × σ) TranscodeOutcome).Uses Call.IsStepping :=
    .bind .patience fun limit => .bind (drive_uses limit {}) fun _ => finish_uses
  unfold runSelected
  simp only [← bind_assoc] at opens runs ⊢
  refine Ends.bind (opens world desk base free custody) fun _ left held => ends_ensuring ?_
  have kept := runs.keeps_custody (fun _ => Call.IsStepping.keepsHands) world (plan.opened ++ base)
  exact (kept.ends held).imp (fun _ _ => closeCodecs_gives.run) (fun _ _ => closeCodecs_gives.run)
    fun _ => closeCodecs_gives.run

end TranscodePlan

section
variable {σ : Type}

theorem transcode_keeps_custody {plan : TranscodePlan} {base : List Asset}
    (free : ∀ asset ∈ plan.opened, asset ∉ base) (world : World σ) :
    (transcode plan).Keeps world.recorded fun desk => Custody base desk.outside.1 := by
  have asks (call : Call) (keeps : call.KeepsHands) := @ask_keeps_custody σ call keeps world base
  have runs : plan.runSelected.Keeps world.recorded fun desk => Custody base desk.outside.1 :=
    fun desk custody => (TranscodePlan.runSelected_custody free custody).always
  refine keeps_bind (asks (.storage (.select plan.track.index)) trivial) fun selected => ?_
  refine keeps_bind (keeps_settle selected) fun _ => keeps_bind (keeps_outcome runs) fun result => ?_
  exact keeps_bind (asks (.storage (.unselect plan.track.index)) trivial) fun _ => keeps_settle result

theorem copyTrack_keeps_custody {track : Track} {window : Window} {reporting : Bool}
    {base : List Asset} (world : World σ) :
    (copyTrack track window reporting).Keeps world.recorded
      fun desk => Custody base desk.outside.1 :=
  copyTrack_uses.keeps_custody (fun _ => Call.IsCopying.keepsHands) world base

end

def Dropped (history : History) : Prop :=
  ∃ assets, (∀ asset ∈ assets, asset = .demuxer) ∧ Custody assets history

theorem Custody.dropped {history : History} (custody : Custody [] history) : Dropped history :=
  ⟨[], nofun, custody⟩

section
variable {σ α β : Type} {world : World σ}

/-- Work that returns with nothing in hand. If it is broken off, at most a source stays open. -/
def Work.EndsEmptyHanded (work : Work (History × σ) α) (world : World σ) : Prop :=
  ∀ desk : Desk (History × σ), Custody [] desk.outside.1 → work.Ends world.recorded desk
    (fun _ left => Custody [] left.outside.1) (fun _ left => Custody [] left.outside.1)
    fun left => Dropped left.outside.1

theorem Work.Keeps.endsEmptyHanded {work : Work (History × σ) α}
    (keeps : work.Keeps world.recorded fun desk => Custody [] desk.outside.1) :
    work.EndsEmptyHanded world :=
  fun _ custody => (keeps.ends custody).imp (fun _ _ => id) (fun _ _ => id) fun _ => Custody.dropped

theorem Work.EndsEmptyHanded.bind {first : Work (History × σ) α} {next : α → Work (History × σ) β}
    (begins : first.EndsEmptyHanded world) (goesOn : ∀ value, (next value).EndsEmptyHanded world) :
    (first >>= next).EndsEmptyHanded world :=
  fun desk custody => Ends.bind (begins desk custody) fun value left held => goesOn value left held

theorem Work.EndsEmptyHanded.outcome {work : Work (History × σ) α}
    (ends : work.EndsEmptyHanded world) : work.outcome.EndsEmptyHanded world :=
  fun desk custody => ends_outcome (ends desk custody)

theorem visit_endsEmptyHanded {path : Container.Path} {work : Work (History × σ) α}
    (keeps : work.Keeps world.recorded fun desk => Custody [.demuxer] desk.outside.1) :
    (storage (.openSource path) >>= fun answer => settle answer >>= fun _ =>
      outcome work >>= fun result => storage .releaseDemuxer >>= fun _ =>
        settle result).EndsEmptyHanded world := by
  intro desk custody
  have released (left : Desk (History × σ)) (held : Custody [.demuxer] left.outside.1)
      (result : Except Error α) :
      (storage .releaseDemuxer >>= fun _ => settle result).Ends world.recorded left
        (fun _ left => Custody [] left.outside.1) (fun _ left => Custody [] left.outside.1)
        fun left => Dropped left.outside.1 := by
    refine ends_recorded fun reply left added => ?_
    have given : Custody [] left.outside.1 := added ▸ held.giveBack rfl rfl List.mem_cons_self
    cases result with
    | error error => exact ends_fail given
    | ok value => exact ends_pure given
  refine ends_recorded fun reply left added => ?_
  cases reply with
  | error error => exact ends_fail (added ▸ custody.aside ⟨rfl, rfl⟩)
  | ok _ =>
    have opened : Custody [.demuxer] left.outside.1 := added ▸ custody.take rfl List.not_mem_nil
    refine ends_settle (fun _ refused => nomatch refused) fun _ _ => ?_
    refine ends_bind (ends_outcome ((keeps.ends opened).imp (fun value left held => ?_)
      (fun error left held => ?_) fun left held => ⟨_, fun _ => List.mem_singleton.mp, held⟩))
    · exact released left held (.ok value)
    · exact released left held (.error error)

end

end Recode.Session

namespace Recode.Job
open Recode.Media Recode.Container Recode.Progress Recode.Session
open Recode.Session.Work

variable {σ : Type} {world : World σ}

theorem probeContainer_endsEmptyHanded {path : Path} :
    (probeContainer path : Work (History × σ) Metadata).EndsEmptyHanded world :=
  visit_endsEmptyHanded (metadataOf_uses.keeps_custody (fun _ => Call.IsListing.keepsHands) world _)

namespace Compression
variable {job : Compression (History × σ)}

theorem writeDestination_keeps_custody {plan : Plan} :
    (job.writeDestination plan).Keeps world.recorded
      fun desk => Custody [.demuxer] desk.outside.1 := by
  have asks (call : Call) (keeps : call.KeepsHands) := @ask_keeps_custody σ call keeps world [.demuxer]
  have free (plan : TranscodePlan) (asset : Asset) (member : asset ∈ plan.opened) :
      asset ∉ [Asset.demuxer] := by
    rintro found
    obtain rfl := List.mem_singleton.mp found
    exact TranscodePlan.demuxer_notMem_opened member
  have writes : (job.writeTracks plan).Keeps world.recorded
      fun desk => Custody [.demuxer] desk.outside.1 :=
    writeTracks_keeps (fun call listing => asks call listing.keepsHands)
      (fun format isAudio => asks (.storage (.addTrack format isAudio)) trivial)
      (fun plan => transcode_keeps_custody (free plan) world)
      fun track window reporting => copyTrack_keeps_custody world
  refine keeps_bind (asks (.storage (.createMovie _ _)) trivial) fun begun => ?_
  refine keeps_bind (keeps_settle begun) fun _ => keeps_bind (keeps_outcome writes) fun written => ?_
  refine keeps_bind (asks (.storage .finalize) trivial) fun finalized => ?_
  exact keeps_bind (keeps_settle written) fun _ => keeps_bind (keeps_settle finalized) fun _ =>
    keeps_pure _

theorem execute_endsEmptyHanded {source : Metadata} :
    (job.execute source).EndsEmptyHanded world := by
  have plans : (job.plan source).Keeps world.recorded fun desk => Custody [] desk.outside.1 :=
    plan_uses.keeps_custody (fun call codecs => codecs ▸ trivial) world []
  refine plans.endsEmptyHanded.bind fun plan => ?_
  have writes : (job.writeDestination plan).Keeps world.recorded
      fun desk => Custody [.demuxer] desk.outside.1 := writeDestination_keeps_custody
  have visits := (@visit_endsEmptyHanded _ _ world job.source _ writes).bind fun tracks =>
    (keeps_pure (plan.parameters, tracks)).endsEmptyHanded
  simpa only [bind_assoc] using visits

/-- A compression that returns has nothing left in hand, if the look into its source leaves nothing. -/
theorem run_endsEmptyHanded (probes : (job.probe job.source).EndsEmptyHanded world) :
    job.run.EndsEmptyHanded world := by
  have asks (call : Call) (keeps : call.KeepsHands) :
      (ask call : Work (History × σ) call.Reply).EndsEmptyHanded world :=
    (ask_keeps_custody call keeps world []).endsEmptyHanded
  have settles {α : Type} (answer : Except Error α) :
      (settle answer : Work (History × σ) α).EndsEmptyHanded world :=
    (keeps_settle answer).endsEmptyHanded
  have stops {α : Type} (error : Error) :
      (fail error : Work (History × σ) α).EndsEmptyHanded world :=
    (keeps_stop (.failed error)).endsEmptyHanded
  have tells (request : Request) :
      (Work.tell request : Work (History × σ) Unit).EndsEmptyHanded world :=
    Keeps.endsEmptyHanded (keeps_tell_history request (Custody []) fun event reply _ custody =>
      custody.aside (Exchange.aside_of_keepsHands (.client (.deliver event)) trivial reply))
  have listens (duration : Int) :
      (listen duration : Work (History × σ) Unit).EndsEmptyHanded world :=
    Keeps.endsEmptyHanded fun _ custody => custody
  have aborts (error : Error) : (abort error : Work (History × σ) Report).EndsEmptyHanded world :=
    (tells _).bind fun _ => stops error
  have prepares : job.prepare.EndsEmptyHanded world := by
    refine (settles _).bind fun _ => (settles _).bind fun _ =>
      (asks (.client (.openFile job.source)) trivial).bind fun answer => ?_
    cases answer with
    | error text => exact stops _
    | ok _ => exact probes
  refine prepares.outcome.bind fun prepared => ?_
  cases prepared with
  | error error => exact (listens 0).bind fun _ => aborts error
  | ok source =>
    refine (listens _).bind fun _ => (tells _).bind fun _ =>
      execute_endsEmptyHanded.outcome.bind fun executed => ?_
    cases executed with
    | error error => exact aborts error
    | ok written =>
      obtain ⟨ended, rest, concludes, uses⟩ :=
        @conclude_eq_tell_bind _ job source written.1 written.2
      have removes := uses (· = .client (.removeFile job.source)) rfl
      have ends := (removes.keeps_custody (fun call same => same ▸ trivial) world []).endsEmptyHanded
      have concluded := (tells (.complete ended)).bind fun _ => ends
      rwa [← concludes] at concluded

end Compression

end Recode.Job
