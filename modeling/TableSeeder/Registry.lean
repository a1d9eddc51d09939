import TableSeeder.World

/-! The registry of table clients: one client per region, built when first asked for and kept
until all are closed. -/

namespace TableSeeder

structure Registry where
  clients : Members Nat := []

namespace Registry

def logger : String := "item_loader.infrastructure.dynamo_factory"

def get (r : Registry) (region : String) (w : World) : Except Failure Nat × Registry × World :=
  match r.clients.get? region with
  | some client => (.ok client, r, w)
  | none =>
    match World.createClient region w with
    | (.error f, w) => (.error f, r, w)
    | (.ok client, w) => (.ok client, ⟨r.clients.set region client⟩, w)

def ignored (region : String) : Log.Entry :=
  ⟨logger, Log.Level.debug, "Ignoring error while closing client", [("region", .text region)]⟩

/-- Closes one client after another. A failure is noted and ignored unless it is an interrupt,
which ends the closing. -/
def closeEach : Members Nat → World → Option Failure × World
  | [], w => (none, w)
  | (region, client) :: rest, w =>
    let w := w.emit (.close client region)
    match w.script.close region with
    | none => closeEach rest w
    | some f =>
      if f.isInterrupt then (some f, w)
      else
        match World.log (ignored region) w with
        | (.error g, w) => (some g, w)
        | (.ok _, w) => closeEach rest w

/-- The registry is empty from the moment the closing begins. -/
def closeAll (r : Registry) (w : World) : Option Failure × Registry × World :=
  let (failure, w) := closeEach r.clients w
  (failure, {}, w)

end Registry

end TableSeeder
