import Recode.Proofs.InterruptedRig
import Recode.Proofs.JobConduct
import Recode.Proofs.SimulatedCompression

/-!
A compression that is interrupted, beside the same compression that is not. Nothing interrupts it
before its movie is begun, so the interrupted one has made a part of the full movie, and was heard to
say a part of what the other says, but for the word that it failed.
-/

namespace Recode.Session.Call

theorem IsLook.isSteady {call : Call} (look : call.IsLook) : call.IsSteady := by
  unfold IsLook at look
  split at look <;> trivial

end Recode.Session.Call

namespace Recode.Simulation
open Recode.Media Recode.Container Recode.Device Recode.Job Recode.Progress Recode.Session
open Recode.Session.Work

/-- In the other world there may be more of every movie, and more events up to a last failure. -/
structure Rig.FallsShort {δ : Type} (part whole : Rig δ) : Prop where
  movies : part.storage.library.Precedes whole.storage.library
  events : ∃ before, before <+: whole.client.events ∧
    (part.client.events = before ∨ ∃ text, part.client.events = before ++ [.failed text])

theorem Rig.Precedes.fallsShort {δ : Type} {part whole : Rig δ} (precedes : part.Precedes whole) :
    part.FallsShort whole :=
  ⟨precedes.movies, _, precedes.events, .inl rfl⟩

namespace Interruption
variable {interruption : Interruption} {after patience : Nat} {job : Compression (Rig Bench)}
  {α : Type}

def Shadows (interruption : Interruption) (after patience : Nat) (work : Work (Rig Bench) α)
    (parted : Rig Bench → Rig Bench → Prop) : Prop :=
  Work.Shadows work (Rig.world Bench.answer patience) (Rig.world Bench.answer patience)
    (interruption.InStep after) parted

theorem steady_shadows {work : Work (Rig Bench) α} (uses : work.Uses Call.IsSteady) :
    interruption.Shadows after patience work fun _ _ => False :=
  interrupts_steady.uses_shadows uses

theorem tell_shadows (request : Request) :
    interruption.Shadows after patience (tell request) fun _ _ => False :=
  interrupts_steady.tell_shadows (fun _ => trivial) request

theorem writeDestination_shadows {plan : Plan} :
    interruption.Shadows after patience (job.writeDestination plan)
      fun ahead behind => behind.Precedes ahead := by
  refine shadows_after (steady_shadows (.call trivial trivial)) fun begun =>
    shadows_after (steady_shadows .settle) fun _ => ?_
  exact interrupts_movie.uses_shadows <|
    .attempt (Compression.writeTracks_uses.weaken fun _ => Call.WorksOnTracks.staysWithMovie) trivial
      trivial fun finalized tracks => .bind .settle fun _ => .pure tracks

theorem execute_shadows {source : Metadata} :
    interruption.Shadows after patience (job.execute source)
      fun ahead behind => behind.Precedes ahead := by
  refine shadows_after (steady_shadows (Compression.plan_uses.weaken ?_)) fun plan => ?_
  · rintro call rfl
    trivial
  refine shadows_after (steady_shadows (.call trivial trivial)) fun opened =>
    shadows_after (steady_shadows .settle) fun _ => ?_
  have closing : Call.IsClosing (.storage .releaseDemuxer) := trivial
  have stays : Call.StaysWithMovie (.storage .releaseDemuxer) := trivial
  have interrupts := @interrupts_movie interruption after patience
  exact shadows_attempt writeDestination_shadows
    (interrupts.ask_shadows stays closing.isPlain.isSteady)
    (fun _ tracks => shadows_pure (plan.parameters, tracks)) (interrupts.ask_outruns stays)
    (interrupts.ask_trails stays closing) fun _ tracks _ => keeps_pure (plan.parameters, tracks)

theorem listen_shadows (duration : Int) :
    interruption.Shadows after patience (Compression.listen duration) fun _ _ => False :=
  fun _ _ held => .abreast ⟨rfl, held.announced, held.outside⟩

section
variable {source : Metadata} {parted : Rig Bench → Rig Bench → Prop}

def ending (job : Compression (Rig Bench)) (source : Metadata) :
    Except Error (Parameters × TrackSummary) → Work (Rig Bench) Report
  | .error error => Compression.abort error
  | .ok (parameters, tracks) => job.conclude source parameters tracks

theorem abort_shadows (error : Error) :
    interruption.Shadows after patience (Compression.abort error : Work (Rig Bench) α) parted :=
  shadows_after (tell_shadows (.fail error)) fun _ => shadows_stop (.failed error)

theorem ending_shadows (result : Except Error (Parameters × TrackSummary)) :
    interruption.Shadows after patience (ending job source result) parted := by
  cases result with
  | error error => exact abort_shadows error
  | ok written =>
    obtain ⟨ended, rest, same, uses⟩ :=
      @Compression.conclude_eq_tell_bind _ job source written.1 written.2
    show interruption.Shadows after patience (job.conclude source written.1 written.2) parted
    rw [same]
    exact shadows_after (tell_shadows _) fun _ => (steady_shadows (uses _ trivial)).weaken

theorem ending_outruns (result : Except Error (Parameters × TrackSummary)) :
    (ending job source result).Outruns (Rig.world Bench.answer patience)
      fun ahead behind => behind.Precedes ahead := by
  intro behind
  have tells (request : Request) :=
    (@interrupts_movie .decoder 0 patience).tell_outruns (fun _ => trivial) request behind
  cases result with
  | error error => exact keeps_bind (tells _) fun _ => keeps_stop _
  | ok written =>
    obtain ⟨ended, rest, same, uses⟩ :=
      @Compression.conclude_eq_tell_bind _ job source written.1 written.2
    show (job.conclude source written.1 written.2).Keeps _ _
    rw [same]
    exact keeps_bind (tells _) fun _ =>
      (@interrupts_movie .decoder 0 patience).uses_outruns (uses _ trivial) behind

end

theorem tell_failure (error : Error) {ahead : Rig Bench} {behind : Desk (Rig Bench)}
    (precedes : behind.outside.Precedes ahead) :
    ((Work.tell (.fail error)).run (Rig.world Bench.answer patience) behind).2.outside.FallsShort
      ahead := by
  cases has : behind.reporter with
  | none =>
    rw [run_tell_none has]
    exact precedes.fallsShort
  | some reporter =>
    rw [run_tell has]
    dsimp only [Reporter.serve, Reporter.fail]
    split
    next ended => exact precedes.fallsShort
    next underway =>
      have told : ([Event.failed error.message].forM deliver : Work (Rig Bench) PUnit) =
          deliver (.failed error.message) := bind_pure _
      rw [told]
      refine ⟨?_, behind.outside.client.events, precedes.events, ?_⟩ <;> rw [run_deliver]
      · exact precedes.movies
      · dsimp only [Rig.world, Client.answer, Client.deliver]
        split
        next explodes => exact .inl rfl
        next takes => exact .inr ⟨error.message, rfl⟩

theorem abort_stops (error : Error) {ahead : Rig Bench} {behind : Desk (Rig Bench)}
    (precedes : behind.outside.Precedes ahead) :
    ∃ stop left, (Compression.abort error : Work (Rig Bench) α).run
        (Rig.world Bench.answer patience) behind = (.error stop, left) ∧
      left.outside.FallsShort ahead := by
  have told := @tell_failure patience error ahead behind precedes
  unfold Compression.abort
  rw [run_bind]
  rcases ran : (Work.tell (.fail error)).run (Rig.world Bench.answer patience) behind with
    ⟨stop | value, left⟩ <;> rw [ran] at told
  · exact ⟨stop, left, rfl, told⟩
  · exact ⟨.failed error, left, rfl, told⟩

theorem run_shadows (looks : ∀ path, (job.probe path).Uses Call.IsLook) :
    interruption.Shadows after patience job.run fun ahead behind => behind.FallsShort ahead := by
  have prepares : job.prepare.Uses Call.IsSteady :=
    (Compression.prepare_uses looks).weaken fun _ => Call.IsLook.isSteady
  refine shadows_outcome (steady_shadows prepares) (fun prepared => ?_)
    (fun _ _ _ never => never.elim) (fun _ _ _ never => never.elim) fun _ _ never => never.elim
  cases prepared with
  | error error => exact shadows_after (listen_shadows 0) fun _ => abort_shadows error
  | ok source =>
    refine shadows_after (listen_shadows source.duration) fun _ =>
      shadows_after (tell_shadows (.report 0)) fun _ => ?_
    exact shadows_outcome execute_shadows ending_shadows ending_outruns
      (fun error ahead behind precedes => abort_stops error precedes)
      fun ahead behind precedes => precedes.fallsShort

theorem patienceFor_set (interruption : Interruption) (after : Option Nat) (rig : Rig Bench) :
    let met := interruption.set after rig
    met.patienceFor met.device.catalog.faults = rig.patienceFor rig.device.catalog.faults := by
  cases interruption <;> rfl

end Interruption

namespace Trial

/-- A compression that is interrupted, be it that a codec or a write fails after so many of them or
that it is cancelled after so many events, leaves movies that are part of those of the compression
that is not interrupted. It tells a part of the same events, and then at most that it failed. If it
returns a report after all, nothing is missing. -/
theorem compression_interrupted (interruption : Interruption) (after : Nat) (rig : Rig Bench)
    {job : {σ : Type} → Compression σ}
    (looks : ∀ path, ((job : Compression (Rig Bench)).probe path).Uses Call.IsLook) :
    let whole := compression (interruption.set none rig) false false job
    let part := compression (interruption.set (some after) rig) false false job
    (∀ path movie, part.rig.storage.library.movie? path = some movie →
      ∃ full, whole.rig.storage.library.movie? path = some full ∧ movie.IsPartOf full) ∧
    (∃ before, before <+: whole.rig.client.events ∧
      (part.rig.client.events = before ∨ ∃ text, part.rig.client.events = before ++ [.failed text])) ∧
    ∀ report, part.result = .ok report →
      whole.result = .ok report ∧ part.rig.client.events = whole.rig.client.events ∧
        ∀ path, part.rig.storage.library.movie? path = whole.rig.storage.library.movie? path := by
  intro whole part
  let world : World (Rig Bench) :=
    Rig.world Bench.answer (rig.patienceFor rig.device.catalog.faults)
  let ran (after : Option Nat) : Except Stop Report × Desk (Rig Bench) :=
    (job : Compression (Rig Bench)).run.run world { outside := interruption.set after rig }
  have tried (after : Option Nat) : compression (interruption.set after rig) false false job =
      ⟨(ran after).1, [], (ran after).2.outside⟩ := by
    dsimp only [compression, of, ran, world]
    rw [← interruption.patienceFor_set after rig]
    rfl
  have paired : Paired (interruption.InStep after) (fun ahead behind => behind.FallsShort ahead)
      (ran none) (ran (some after)) :=
    Interruption.run_shadows looks _ _ ⟨rfl, rfl, Interruption.inStep_set rig⟩
  dsimp only [whole, part]
  rw [tried, tried]
  revert paired
  generalize ran none = ahead
  generalize ran (some after) = behind
  intro paired
  cases paired with
  | @abreast result ahead behind held =>
    have same := held.outside.2
    have heard : behind.outside.client.events = ahead.outside.client.events :=
      (congrArg (·.client.events) same).trans (interruption.set_events _ _)
    have made (path : Path) : behind.outside.storage.library.movie? path =
        ahead.outside.storage.library.movie? path :=
      (congrArg (·.storage.library.movie? path) same).trans (interruption.set_movie? _ _ path)
    refine ⟨fun path movie found => ⟨movie, made path ▸ found, .refl movie⟩, ?_, ?_⟩
    · exact ⟨_, List.prefix_refl _, .inl heard⟩
    · exact fun report returned => ⟨returned, heard, made⟩
  | parted held =>
    exact ⟨fun path movie found => held.movies.movie? found, held.events, fun _ failed => nomatch failed⟩

/-- An encoder that fails after two outputs leaves a part of the middle of the brief movie. -/
theorem compression_interrupted_brief :
    let codec := CodecInfo.encoder "OMX.qcom.video.encoder.avc" videoAvc [.surface]
    let rig : Rig Bench :=
      ⟨{ library := ({} : Library).insert "in" briefMovie }, { catalog := .new [codec] {} },
        .new none none { kept := some ("in", .file #[]) }⟩
    let whole := compression rig false false (compressing {} "in" "out" briefOptions)
    let part := compression (Interruption.encoder.set (some 2) rig) false false
      (compressing {} "in" "out" briefOptions)
    (∃ report, whole.result = .ok report) ∧
      ∀ movie, part.rig.storage.library.movie? "out" = some movie →
        ∃ full, whole.rig.storage.library.movie? "out" = some full ∧ movie.IsPartOf full := by
  intro codec rig whole part
  have same : Path.same "in" "in" = true := beq_self_eq_true _
  have found : (({} : Library).insert "in" briefMovie).source? "in" = some briefMovie := by
    simp [Library.source?, Library.insert, same]
  have readable : ({ kept := some ("in", .file #[]) } : Disk).look "in" = .ok (.file #[]) := by
    simp [Disk.look, same]
  have counted : briefMovie.samples.length ≤ rig.sampleCount := samples_le_of_source? found _ _
  obtain ⟨report, left, ran, -⟩ := run_reaches briefMovie_playable
    (briefOptions_feasible codec.name) (fun _ => briefMovie_presentable) found rfl readable counted ⟨none, false, [], 0⟩
  obtain ⟨grows, -⟩ := @compression_interrupted .encoder 2 rig
    (compressing {} "in" "out" briefOptions) fun _ => probeContainer_uses
  exact ⟨⟨report, congrArg Trial.result (Trial.compression_eq ran)⟩, grows "out"⟩

end Trial

end Recode.Simulation
