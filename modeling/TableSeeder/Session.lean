import TableSeeder.Registry
import TableSeeder.Settings

/-! A session: settings that are read once and kept until they are cleared, and stores on the
clients of the registry. -/

namespace TableSeeder

structure Session where
  environment : Members String := []
  file : Option String := none
  cached : Option (Nat × Settings) := none
  built : Nat := 0
  registry : Registry := {}

namespace Session

def setVariables (s : Session) (changes : Members (Option String)) : Session :=
  { s with environment := changes.foldl (fun env (name, value) =>
      match value with
      | some v => env.set name v
      | none => env.erase name) s.environment }

def setFile (s : Session) (file : Option String) : Session := { s with file }

def clear (s : Session) : Session := { s with cached := none }

def build (s : Session) : Except Failure (Nat × Settings) × Session :=
  match Settings.load { environment := s.environment, file := s.file } with
  | .error f => (.error f, s)
  | .ok settings => (.ok (s.built, settings), { s with built := s.built + 1 })

/-- The cached settings, or new ones, which are cached if they are sound. -/
def settings (s : Session) : Except Failure (Nat × Settings) × Session :=
  match s.cached with
  | some found => (.ok found, s)
  | none =>
    match s.build with
    | (.error f, s) => (.error f, s)
    | (.ok found, s) => (.ok found, { s with cached := some found })

def client (s : Session) (region : String) (w : World) :
    Except Failure Nat × Session × World :=
  let (outcome, registry, w) := s.registry.get region w
  (outcome, { s with registry }, w)

def storeClient (s : Session) (given : Option Settings) (w : World) :
    Except Failure Nat × Session × World :=
  match given with
  | some settings => s.client settings.region w
  | none =>
    match s.settings with
    | (.error f, s) => (.error f, s, w)
    | (.ok (_, settings), s) => s.client settings.region w

def closeAll (s : Session) (w : World) : Option Failure × Session × World :=
  let (failure, registry, w) := s.registry.closeAll w
  (failure, { s with registry }, w)

end Session

end TableSeeder
