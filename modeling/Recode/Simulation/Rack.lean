import Recode.Simulation.Bench

/-!
Any number of simulated codecs side by side, numbered in the order of their creation, and their
input surfaces, numbered on their own. All decoders render onto one screen. Each codec is served by
putting it on a bench of its own.
-/

namespace Recode.Simulation
open Recode.Device Recode.Picture Recode.Session

inductive Codec where
  | decoder (decoder : Decoder)
  | encoder (encoder : Encoder)
  deriving DecidableEq, Repr, Inhabited

structure Rack where
  catalog : Catalog
  codecs : List Codec := []
  /-- Each surface with the number of its encoder. -/
  surfaces : List (Surface × Nat) := []
  screen : List Image := []
  deriving DecidableEq, Repr, Inhabited

namespace Rack

def name? (rack : Rack) (number : Nat) : Option String :=
  rack.codecs[number]?.map fun
    | .decoder decoder => decoder.name
    | .encoder encoder => encoder.name

def side? (rack : Rack) (number : Nat) : Option Side :=
  rack.codecs[number]?.map fun
    | .decoder _ => .decoder
    | .encoder _ => .encoder

def collector (screen : List Image) : Transform := { spec := ⟨0, 0, .deg0, false⟩, queue := screen }

def bench (rack : Rack) (number : Nat) : Bench :=
  let empty : Bench := { catalog := rack.catalog, transform := some (collector rack.screen) }
  match rack.codecs[number]? with
  | some (.decoder decoder) => { empty with decoder := some decoder }
  | some (.encoder encoder) => { empty with encoder := some encoder }
  | none => empty

def takeBack (rack : Rack) (number : Nat) (bench : Bench) : Rack :=
  let rack := { rack with
    catalog := bench.catalog, screen := (bench.transform.map (·.queue)).getD [] }
  match bench.decoder, bench.encoder with
  | some decoder, _ => { rack with codecs := rack.codecs.set number (.decoder decoder) }
  | none, some encoder => { rack with codecs := rack.codecs.set number (.encoder encoder) }
  | none, none => rack

def ask (rack : Rack) (number : Nat) (call : DeviceCall) : call.Reply × Rack :=
  let (reply, bench) := (rack.bench number).answer call
  (reply, rack.takeBack number bench)

def createEncoder (rack : Rack) (name : String) : Except Error Nat × Rack :=
  match rack.catalog.createEncoder name with
  | (.ok encoder, catalog) =>
      (.ok rack.codecs.length, { rack with catalog, codecs := rack.codecs ++ [.encoder encoder] })
  | (.error error, catalog) => (.error error, { rack with catalog })

def createDecoder (rack : Rack) (mime : String) : Except Error Nat × Rack :=
  match rack.catalog.createDecoder mime with
  | (.ok decoder, catalog) =>
      (.ok rack.codecs.length, { rack with catalog, codecs := rack.codecs ++ [.decoder decoder] })
  | (.error error, catalog) => (.error error, { rack with catalog })

def createSurface (rack : Rack) (number : Nat) : Except Error Nat × Rack :=
  let (answer, bench) := (rack.bench number).createSurface
  let rack := rack.takeBack number bench
  match answer, bench.surface with
  | .ok (), some surface =>
      (.ok rack.surfaces.length, { rack with surfaces := rack.surfaces ++ [(surface, number)] })
  | .ok (), none => (.error CodecError.notStarted, rack)
  | .error error, _ => (.error error, rack)

/-- Serves a surface beside its encoder; a surface that does not exist cannot be served. -/
def askSurface {α : Type} (rack : Rack) (number : Nat) (absent : α)
    (act : Bench → α × Bench) : α × Rack :=
  match rack.surfaces[number]? with
  | none => (absent, rack)
  | some (surface, owner) =>
      let (answer, bench) := act { rack.bench owner with surface := some surface }
      let rack := rack.takeBack owner bench
      let surface := bench.surface.getD surface
      (answer, { rack with surfaces := rack.surfaces.set number (surface, owner) })

def nextImage (rack : Rack) : Option Image × Rack :=
  match rack.screen with
  | image :: screen => (some image, { rack with screen })
  | [] => (none, rack)

end Rack

end Recode.Simulation
