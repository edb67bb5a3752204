import Recode.Proofs.Reel
import Recode.Proofs.SessionConduct
import Recode.Simulation.Scripted
import Recode.Simulation.Trial

/-!
Decoders that render every picture that they are told to, in order and with the time of its buffer, but
perhaps not at once. The session goes on when it has waited for a picture in vain, and takes the next
one that comes for that of the next buffer. So every frame shows a picture that is as many buffers
behind as were waited for in vain.
-/

namespace Recode.Simulation
open Recode.Media Recode.Container Recode.Device Recode.Picture Recode.Session
open Recode.Session.Work Recode.Session.History

/-- What lies between a decoder that may be late and the encoder. -/
structure Studio (σ : Type) where
  /-- Until it is made, it answers as if it were released. -/
  transform : Transform := { spec := default, released := true }
  /-- The indices and times of the buffers that the decoder put out, the latest first. -/
  buffers : List (Nat × Int) := []
  /-- How many pictures were rendered since the transform was made. -/
  count : Nat := 0
  /-- The pictures that were rendered and have not been delivered yet, the oldest first. -/
  owed : List Image := []
  /-- Everything else: codecs, containers and client. -/
  inner : σ

/-- The pictures of buffers with these times, where the `n`-th looks as it does in the gallery. -/
def pictures (gallery : Nat → Image) : List Int → List Image
  | [] => []
  | time :: earlier => { gallery earlier.length with time } :: pictures gallery earlier

def drawn (image : Image) (spec : TransformSpec) : Except Error Frame :=
  draw image spec.width spec.height spec.rotation

namespace Studio
variable {σ : Type}

def act (gallery : Nat → Image) (world : World σ) : (call : Call) → Studio σ → call.Reply × Studio σ
  | .device (.createTransform spec), studio =>
      match Transform.create spec defaultPatience with
      | .ok transform => (.ok (), { studio with transform, count := 0, owed := [] })
      | .error error => (.error error, studio)
  | .device .awaitImage, studio =>
      let (answer, transform) := studio.transform.await
      (answer, { studio with transform })
  | .device .drawImage, studio => (studio.transform.drawLatched, studio)
  | .device .releaseTransform, studio =>
      ((), { studio with transform := studio.transform.release })
  | .device (.dequeueOutput .decoder timeout), studio =>
      match world.answer (.device (.dequeueOutput .decoder timeout)) studio.inner with
      | (.ok (.buffer index info), inner) =>
          (.ok (.buffer index info),
            { studio with buffers := (index, info.time) :: studio.buffers, inner })
      | (answer, inner) => (answer, { studio with inner })
  | .device (.releaseOutput .decoder index true), studio =>
      match world.answer (.device (.releaseOutput .decoder index true)) studio.inner with
      | (.ok (), inner) =>
          let image := { gallery studio.count with time := timeOf studio.buffers index }
          (.ok (), { studio with count := studio.count + 1, owed := studio.owed ++ [image], inner })
      | (.error error, inner) => (.error error, { studio with inner })
  | call, studio =>
      let (reply, inner) := world.answer call studio.inner
      (reply, { studio with inner })

def deliver (studio : Studio σ) (number : Nat) : Studio σ :=
  { studio with
    transform := (studio.owed.take number).foldl Transform.enqueue studio.transform
    owed := studio.owed.drop number }

/-- The world in which, after every call, as many pictures are delivered as `delivers` says. -/
def world (gallery : Nat → Image) (delivers : Call → σ → Nat) (world : World σ) :
    World (Studio σ) where
  answer call studio :=
    let (reply, next) := act gallery world call studio
    (reply, next.deliver (delivers call next.inner))
  patience := world.patience

end Studio

@[simp] theorem length_pictures (gallery : Nat → Image) (times : List Int) :
    (pictures gallery times).length = times.length := by
  induction times with
  | nil => rfl
  | cons time earlier ih => exact congrArg (· + 1) ih

theorem times_pictures (gallery : Nat → Image) (times : List Int) :
    (pictures gallery times).map (·.time) = times := by
  induction times with
  | nil => rfl
  | cons time earlier ih => exact congrArg (time :: ·) ih

theorem foldl_enqueue (images : List Image) (transform : Transform) :
    images.foldl Transform.enqueue transform =
      { transform with queue := transform.queue ++ images } := by
  induction images generalizing transform with
  | nil => simp
  | cons image rest ih => simp [ih, Transform.enqueue]

/-- The studio agrees with what the calls tell of the pictures. Those that were taken are behind, those
that are owed ahead, and what is latched or drawn is the picture that was taken last. -/
structure Studio.Follows {σ : Type} (gallery : Nat → Image) (reel : Reel) (taken : List Image)
    (studio : Studio σ) : Prop where
  spec : studio.transform.spec = reel.spec
  buffers : studio.buffers = reel.buffers
  count : studio.count = reel.rendered.length
  inOrder : (pictures gallery reel.rendered).reverse =
    taken ++ (studio.transform.queue ++ studio.owed)
  length : taken.length = reel.taken
  latched : ∀ image, studio.transform.latched = some image → taken.getLast? = some image
  canvas : ∀ frame, reel.canvas = some frame →
    ∃ image, taken.getLast? = some image ∧ drawn image reel.spec = .ok frame

namespace Studio
variable {σ : Type} {gallery : Nat → Image} {world : World σ} {reel : Reel} {taken : List Image}
  {studio : Studio σ}

theorem follows_begin {inner : σ} : Follows gallery {} [] ({ inner } : Studio σ) :=
  ⟨rfl, rfl, rfl, rfl, rfl, nofun, nofun⟩

theorem Follows.deliver (follows : Follows gallery reel taken studio) (number : Nat) :
    Follows gallery reel taken (studio.deliver number) := by
  unfold Studio.deliver
  rw [foldl_enqueue]
  refine ⟨follows.spec, follows.buffers, follows.count, ?_, follows.length, follows.latched,
    follows.canvas⟩
  rw [follows.inOrder, List.append_assoc studio.transform.queue, List.take_append_drop]

theorem Follows.elsewhere (follows : Follows gallery reel taken studio) (inner : σ) :
    Follows gallery reel taken { studio with inner } :=
  ⟨follows.spec, follows.buffers, follows.count, follows.inOrder, follows.length, follows.latched,
    follows.canvas⟩

theorem Follows.render (follows : Follows gallery reel taken studio) (index : Nat) (inner : σ) :
    Follows gallery { reel with rendered := timeOf reel.buffers index :: reel.rendered } taken
      { studio with
        count := studio.count + 1
        owed := studio.owed ++
          [{ gallery studio.count with time := timeOf studio.buffers index }]
        inner } where
  spec := follows.spec
  buffers := follows.buffers
  count := congrArg (· + 1) follows.count
  inOrder := by
    simp only [pictures, List.reverse_cons, follows.inOrder, follows.count, follows.buffers,
      List.append_assoc]
  length := follows.length
  latched := follows.latched
  canvas := follows.canvas

theorem Follows.await (follows : Follows gallery reel taken studio) :
    ∃ taken, Follows gallery (reel.after ⟨.device .awaitImage, studio.transform.await.1⟩) taken
      { studio with transform := studio.transform.await.2 } := by
  unfold Transform.await
  split
  next released =>
    exact ⟨taken, follows.spec, follows.buffers, follows.count, follows.inOrder, follows.length,
      follows.latched, nofun⟩
  next unreleased =>
    split
    next image queue waiting =>
      refine ⟨taken ++ [image], follows.spec, follows.buffers, follows.count, ?_, ?_, ?_, nofun⟩
      · show (pictures gallery reel.rendered).reverse = _
        rw [follows.inOrder, waiting, List.append_assoc]
        rfl
      · rw [List.length_append, follows.length]
        rfl
      · rintro other ⟨⟩
        exact List.getLast?_concat
    next empty =>
      exact ⟨taken, follows.spec, follows.buffers, follows.count, follows.inOrder, follows.length,
        follows.latched, nofun⟩

theorem Follows.drawImage (follows : Follows gallery reel taken studio) :
    Follows gallery (reel.after ⟨.device .drawImage, studio.transform.drawLatched⟩) taken studio := by
  unfold Transform.drawLatched
  cases latched : studio.transform.latched with
  | none => exact follows
  | some image =>
    have own := follows.latched image latched
    dsimp only
    cases shown : draw image studio.transform.spec.width studio.transform.spec.height
        studio.transform.spec.rotation with
    | error refused => exact follows
    | ok frame =>
      refine ⟨follows.spec, follows.buffers, follows.count, follows.inOrder, follows.length,
        follows.latched, ?_⟩
      rintro other ⟨⟩
      exact ⟨image, own, follows.spec ▸ shown⟩

/-- After every call the studio agrees with what the calls tell. -/
theorem Follows.act (follows : Follows gallery reel taken studio) (world : World σ) (call : Call) :
    ∃ taken, Follows gallery (reel.after ⟨call, (act gallery world call studio).1⟩) taken
      (act gallery world call studio).2 := by
  have aside (reply : call.Reply) (offstage : call.IsOffstage) (inner : σ) :
      ∃ taken, Follows gallery (reel.after ⟨call, reply⟩) taken { studio with inner } :=
    ⟨taken, (Reel.after_offstage offstage reply).symm ▸ follows.elsewhere inner⟩
  cases call with
  | storage call => exact aside _ trivial _
  | client call => exact aside _ trivial _
  | device call =>
    cases call with
    | createTransform spec =>
      dsimp only [Studio.act, Transform.create]
      split
      next transform created =>
        split at created
        next empty => exact nomatch created
        next sized =>
          cases created
          exact ⟨[], rfl, follows.buffers, rfl, rfl, rfl, nofun, nofun⟩
      next error refused => exact ⟨taken, follows⟩
    | awaitImage => exact follows.await
    | drawImage => exact ⟨taken, follows.drawImage⟩
    | releaseTransform =>
      exact ⟨taken, follows.spec, follows.buffers, follows.count, follows.inOrder, follows.length,
        nofun, follows.canvas⟩
    | dequeueOutput side timeout =>
      cases side with
      | encoder => exact aside _ trivial _
      | decoder =>
        dsimp only [Studio.act]
        rcases world.answer (.device (.dequeueOutput .decoder timeout)) studio.inner with
          ⟨error | _ | _ | _ | ⟨index, info⟩, inner⟩
        · exact ⟨taken, follows.elsewhere inner⟩
        · exact ⟨taken, follows.elsewhere inner⟩
        · exact ⟨taken, follows.elsewhere inner⟩
        · exact ⟨taken, follows.elsewhere inner⟩
        · exact ⟨taken, follows.spec, congrArg ((index, info.time) :: ·) follows.buffers,
            follows.count, follows.inOrder, follows.length, follows.latched, follows.canvas⟩
    | releaseOutput side index render =>
      cases side with
      | encoder => exact aside _ trivial _
      | decoder =>
        cases render with
        | false => exact aside _ trivial _
        | true =>
          dsimp only [Studio.act]
          rcases world.answer (.device (.releaseOutput .decoder index true)) studio.inner with
            ⟨error | _, inner⟩
          · exact ⟨taken, follows.elsewhere inner⟩
          · exact ⟨taken, follows.render index inner⟩
    | _ => exact aside _ trivial _

/-- What was drawn shows the picture that is as many behind the latest as were rendered and not
taken. -/
def Shows (gallery : Nat → Image) (reel : Reel) : Prop :=
  ∀ frame, reel.canvas = some frame → ∃ image,
    (pictures gallery reel.rendered)[reel.rendered.length - reel.taken]? = some image ∧
      drawn image reel.spec = .ok frame

theorem Follows.shows (follows : Follows gallery reel taken studio) : Shows gallery reel := by
  intro frame shown
  obtain ⟨image, last, own⟩ := follows.canvas frame shown
  refine ⟨image, ?_, own⟩
  have some : taken ≠ [] := fun none => by simp [none] at last
  have positive : 0 < taken.length := List.length_pos_iff.mpr some
  have total := congrArg List.length follows.inOrder
  rw [List.length_reverse, length_pictures, List.length_append] at total
  have place : reel.rendered.length - reel.taken =
      (pictures gallery reel.rendered).length - 1 - (taken.length - 1) := by
    rw [length_pictures, ← follows.length]
    omega
  have within : taken.length - 1 < (pictures gallery reel.rendered).length := by
    rw [length_pictures]
    omega
  rw [place, ← List.getElem?_reverse within, follows.inOrder,
    List.getElem?_append_left (Nat.sub_one_lt_of_lt positive), ← List.getLast?_eq_getElem?, last]

def Keeps (gallery : Nat → Image) (state : History × Studio σ) : Prop :=
  (∃ taken, Follows gallery state.1.reel taken state.2) ∧
    state.1.Always fun _ earlier => Shows gallery earlier.reel

theorem keeps_answer {delivers : Call → σ → Nat} (call : Call) (state : History × Studio σ)
    (keeps : Keeps gallery state) :
    Keeps gallery ((Studio.world gallery delivers world).recorded.answer call state).2 := by
  obtain ⟨⟨taken, follows⟩, shown⟩ := keeps
  obtain ⟨taken, acted⟩ := follows.act world call
  exact ⟨⟨taken, acted.deliver _⟩, follows.shows, shown⟩

end Studio

/-- Behind a decoder that delivers its pictures late, every frame that is handed to the encoder for
some buffer, and under its time if that can be told, is drawn from a picture that is as many buffers
behind this one as were waited for in vain before. It is the picture of its own time as long as none
was, and, if no two buffers have the same time, only so long. -/
theorem transcode_draws_missed_behind {σ : Type} (world : World σ) (delivers : Call → σ → Nat)
    (gallery : Nat → Image) (plan : TranscodePlan) (reporter : Option Progress.Reporter)
    (inner : σ) :
    let studio := (Studio.world gallery delivers world).recorded
    let (_, left) := (transcode plan).run studio { reporter, outside := ([], { inner }) }
    Always (fun latest earlier => ∀ time, latest.submitted? earlier.presented = some time →
      ∃ due, plan.stamped due = time ∧ (plan.Presents due → due = time) ∧
        earlier.reel.rendered.head? = some due ∧ ∃ image frame,
          (pictures gallery earlier.reel.rendered)[earlier.reel.missed]? = some image ∧
          drawn image earlier.reel.spec = .ok frame ∧ latest.Carries plan frame ∧
          (earlier.reel.missed = 0 → image.time = due) ∧
          (earlier.reel.rendered.Nodup → image.time = due → earlier.reel.missed = 0))
      left.outside.1 := by
  intro studio
  let begun : Desk (History × Studio σ) := { reporter, outside := ([], { inner }) }
  have kept : (transcode plan).Keeps studio fun desk => Studio.Keeps gallery desk.outside :=
    transcode_uses.keeps_outside fun call state _ => Studio.keeps_answer call state
  have shown := (kept begun ⟨⟨[], Studio.follows_begin⟩, trivial⟩).2
  have leads := (TranscodePlan.upholds_reels plan).transcode
    (Studio.world gallery delivers world) begun rfl
  have drawn : Always (Exchange.IsDrawn plan) ((transcode plan).run studio begun).2.outside.1 := by
    revert leads
    cases (transcode plan).run studio begun with
    | mk result left => cases result <;> exact id
  refine (drawn.and shown).imp fun latest earlier ⟨isDrawn, shows⟩ time submitted => ?_
  obtain ⟨due, stamped, current, waited, frame, canvas, carries⟩ := isDrawn time submitted
  obtain ⟨image, place, own⟩ := shows frame canvas
  have behind : earlier.reel.rendered.length - earlier.reel.taken = earlier.reel.missed := by
    rw [← waited]
    omega
  rw [behind] at place
  have timed : earlier.reel.rendered[earlier.reel.missed]? = some image.time := by
    rw [← times_pictures gallery earlier.reel.rendered, List.getElem?_map, place]
    rfl
  rw [List.head?_eq_getElem?] at current
  refine ⟨due, stamped, fun presents => presents.stamped_eq.symm.trans stamped,
    List.head?_eq_getElem?.trans current, image, frame, place, own, carries, ?_, ?_⟩
  · intro none
    rw [none, current] at timed
    exact (Option.some.inj timed).symm
  · intro distinct same
    rw [same] at timed
    obtain ⟨within, -⟩ := List.getElem?_eq_some_iff.mp timed
    exact (List.getElem?_inj within distinct).mp (timed.trans current.symm)

def IsTimely (gallery : Nat → Image) (plan : TranscodePlan) (latest : Exchange)
    (earlier : History) : Prop :=
  ∀ time, latest.submitted? earlier.presented = some time →
    ∃ image ∈ pictures gallery earlier.reel.rendered, image.time = time ∧
      ∃ frame, drawn image earlier.reel.spec = .ok frame ∧ latest.Carries plan frame

def isUntimely (gallery : Nat → Image) : History → Bool
  | ⟨.device (.swap frame), _⟩ :: earlier =>
      (pictures gallery (reel earlier).rendered).all fun image => decide
        (image.time = (presented earlier).tdiv 1000 →
          (drawn image (reel earlier).spec).toOption ≠ some frame)
  | _ => false

theorem not_always_of_isUntimely {gallery : Nat → Image} {plan : TranscodePlan} {history : History}
    (place : Nat) (untimely : isUntimely gallery (history.drop place) = true) :
    ¬Always (IsTimely gallery plan) history := by
  intro always
  have there := always.drop place
  revert there untimely
  generalize history.drop place = shown
  intro untimely timely
  unfold isUntimely at untimely
  split at untimely
  next frame reply earlier =>
    obtain ⟨image, member, time, shown, own, rfl⟩ := timely.1 _ rfl
    exact of_decide_eq_true (List.all_eq_true.mp untimely image member) time
      (congrArg Except.toOption own)
  next => exact nomatch untimely

/-- A gallery of pictures of one pixel, all of different colours. -/
def shades (number : Nat) : Image := ⟨1, 1, 0, #[UInt8.ofNat number, 0, 0, 255]⟩

def twoPictures : Rig ScriptedBench where
  storage := { library := {
    demuxers := [{ source := { tracks := [.video videoAvc 1 1] } }]
    muxers := [(sessionPath, .new ⟨.deg0, 1, 1⟩ {})] } }
  device := {
    decoder := .new { outputs := [.buffer { index := 0, info := ⟨1, 0, 1000, .none⟩ },
      .buffer { index := 0, info := ⟨1, 0, 2000, .none⟩ },
      .buffer { index := 0, info := ⟨0, 0, 3000, .endOfStream⟩ }] } 0
    encoder := .new { outputs := [.status .tryAgainLater, .status .tryAgainLater,
      .status .tryAgainLater, .status .tryAgainLater,
      .buffer { index := 0, info := ⟨0, 0, 3000, .endOfStream⟩ }] } 0 }
  client := {}

def twoPicturesPlan : TranscodePlan where
  track := ⟨0, false, .video videoAvc 1 1⟩
  encoder := ⟨{ name := "encoder" }, .surface .other 1 1⟩
  request := { width := 1, height := 1 }
  settings := {}

/-- One picture is delivered with every poll of the decoder, and so each at the poll after its own. -/
def onePollLate : Call → Rig ScriptedBench → Nat
  | .device (.dequeueOutput .decoder _), _ => 1
  | _, _ => 0

def lateHistory : History :=
  let studio := Studio.world shades onePollLate (Rig.world ScriptedBench.answer 40)
  ((transcode twoPicturesPlan).run studio.recorded
    { outside := ([], { inner := twoPictures }) }).2.outside.1

/-- Under the time of the second picture, the first is shown. -/
theorem late_picture_shown_untimely : ¬Always (IsTimely shades twoPicturesPlan) lateHistory :=
  not_always_of_isUntimely 16 (by decide +kernel)

end Recode.Simulation
