import Std.Time
import TableSeeder.Cli.Execution

/-! The program itself. It has no network: every request fails for want of credentials. -/

namespace TableSeeder

def offline : Reply := { failure := some (.incident .noCredentials) }

/-- Random bits in the form of a version 4 identifier. -/
def identifier (bits : Nat) : String :=
  let ds := hexDigits 32 (bits % twoTo 128)
  let part := fun start length => String.ofList ((ds.drop start).take length)
  String.intercalate "-"
    [part 0 8, part 8 4, "4" ++ part 13 3, "a" ++ part 17 3, part 20 12]

def randomBits (seed : Nat) : Nat :=
  let drawn := fun i => (stdNext (mkStdGen (8 * seed + i))).1 % twoTo 16
  (List.range 8).foldl (fun n i => n * twoTo 16 + drawn i) 0

def offlineScript (seed : Nat) : Script where
  id n := .ok (identifier (randomBits (seed + n)))
  write _ := offline
  identity _ := offline
  sleep _ := none
  create _ _ := none
  createIdentity _ _ := none
  close _ := none

def variableNames : List String :=
  Settings.Field.all.flatMap fun f =>
    [f.envName, lowerAscii f.envName, f.name, String.ofList (f.name.toList.map Char.toUpper)]

def readEnvironment : IO (Members String) := do
  let mut found := []
  for name in variableNames do
    if let some value ← IO.getEnv name then
      found := Members.set found name value
  return found

def readBindings : IO (Option String) := do
  try
    return some (← IO.FS.readFile ".env")
  catch _ =>
    return none

def writeEvent (e : Event) : IO Unit :=
  match e with
  | .out text => IO.print text
  | .err text => IO.eprint text
  | _ => pure ()

def finish (exit : Cli.Exit) : IO UInt32 :=
  match exit with
  | .code n => return n.toUInt32
  | .usage e => do
    IO.eprintln e.message
    return 2
  | .escaped f => do
    IO.eprintln f.message
    return 1

end TableSeeder

open TableSeeder

def main (args : List String) : IO UInt32 := do
  let now ← Std.Time.Timestamp.now
  let wall := Float.ofInt now.toSecondsSinceUnixEpoch.val
  let sources : Settings.Sources :=
    { environment := ← readEnvironment, file := ← readBindings }
  let seed ← IO.rand 0 (twoTo 31)
  let (exit, trace) := Cli.runProgram args sources wall { script := offlineScript seed }
  for e in trace do
    writeEvent e
  finish exit
