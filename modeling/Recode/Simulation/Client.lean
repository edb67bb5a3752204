import Recode.Disk
import Recode.Session.World

/-!
A client that writes down every event, may cancel after one of them or break down on one of them,
and keeps its movies on a disk.
-/

namespace Recode.Simulation
open Recode.Container Recode.Progress Recode.Session

structure Client where
  /-- The events taken, in order. -/
  events : List Event := []
  /-- The number of events after which the token is cancelled. -/
  cancelAfter : Option Nat := none
  cancelled : Bool := false
  /-- The event, counted from zero, on which the client breaks down. -/
  panicAt : Option Nat := none
  /-- Events handed over, also the one that was not taken. -/
  delivered : Nat := 0
  disk : Disk := {}
  deriving DecidableEq, Repr, Inhabited

namespace Client

/-- A client that cancels after no event has cancelled from the start. -/
def new (cancelAfter panicAt : Option Nat) (disk : Disk) : Client :=
  { cancelAfter, panicAt, disk, cancelled := cancelAfter == some 0 }

def deliver (client : Client) (event : Event) : Except Panic Unit × Client :=
  if client.panicAt = some client.delivered then
    (.error (.saying "sink exploded"), { client with delivered := client.delivered + 1 })
  else
    let events := client.events ++ [event]
    (.ok (), { client with
      events, delivered := client.delivered + 1
      cancelled := client.cancelled || client.cancelAfter == some events.length })

/-- A directory can be opened, but not read as a movie. -/
def openFile (client : Client) (path : Path) : Except String Unit :=
  match client.disk.look path with
  | .ok _ => .ok ()
  | .error refusal => .error refusal.message

def removeFile (client : Client) (path : Path) : Bool × Client :=
  let (removed, disk) := client.disk.remove path
  (removed, { client with disk })

def answer : (call : ClientCall) → Client → call.Reply × Client
  | .deliver event, client => client.deliver event
  | .isCancelled, client => (client.cancelled, client)
  | .openFile path, client => (client.openFile path, client)
  | .removeFile path, client => client.removeFile path

end Client

end Recode.Simulation
