import TableSeeder.Batch
import TableSeeder.Cli.Arguments
import TableSeeder.Credentials
import TableSeeder.Log.Setup
import TableSeeder.Registry
import TableSeeder.Settings
import TableSeeder.Table.Client

/-! Carrying out a command: its effects, what it writes, and how the program ends. -/

namespace TableSeeder.Cli

def infoLine (s : Settings) : String :=
  "table=" ++ s.table ++ " region=" ++ s.region ++ " | iterations=" ++ toString s.iterations ++
    " interval=" ++ plainNumber s.interval ++ "s batches=" ++ toString s.batches

def checkLine (s : Settings) (account : Value) : String :=
  "Credentials OK (account " ++ account.shown ++ ", region " ++ s.region ++ ")."

def openStore (s : Settings) : Step Store := fun w =>
  match Registry.get {} s.region w with
  | (.error f, _, w) => (.error f, w)
  | (.ok client, _, w) => (.ok (Table.store client), w)

def report : Except Failure Summary × World → Except Failure Unit × World
  | (.error f, w) => (.error f, w)
  | (.ok summary, w) => (.ok (), w.echoError summary.render)

def tableOf (s : Settings) : Option String → String
  | none => s.table
  | some table => if table = "" then s.table else table

/-- A count of zero counts as none. -/
def countOr (given : Option Int) (otherwise : Int) : Int :=
  match given with
  | none => otherwise
  | some n => if n = 0 then otherwise else n

namespace Command

/-- What the command does. How records are shown plays no part in it. -/
def perform (c : Command) (s : Settings) : Step Unit := fun w =>
  match c with
  | .info => (.ok (), w.echo (infoLine s))
  | .check =>
    match Credentials.check s.region none w with
    | (.error f, w) => (.error f, w)
    | (.ok account, w) => (.ok (), w.echo (checkLine s account))
  | .run iterations interval =>
    match openStore s w with
    | (.error f, w) => (.error f, w)
    | (.ok store, w) =>
      report (load store s.table (countOr iterations s.iterations)
        (.real (interval.getD s.interval)) w)
  | .batch table batches =>
    match openStore s w with
    | (.error f, w) => (.error f, w)
    | (.ok store, w) =>
      report (Batch.run store (tableOf s table) (countOr batches s.batches) maxBatchSize w)

def logs : Command → Bool
  | .info => false
  | _ => true

end Command

inductive Exit where
  | code (n : Nat)
  | usage (e : UsageError)
  | escaped (f : Failure)

/-- Where its input ends, the program also says that it has been aborted; that word is not kept. -/
def Exit.ofOutcome : Except Failure Unit → Exit
  | .ok _ => .code 0
  | .error (.incident (.signal .interrupt _)) => .code 130
  | .error (.incident (.signal .endOfInput _)) => .code 1
  | .error f => .escaped f

/-- The trace as it is seen from outside: records appear as what they write, if anything. -/
def present (setup : Log.Setup) (wall : Float) (trace : List Event) : List Event :=
  trace.filterMap fun
    | .log e =>
      match setup.writeEntry wall e with
      | .ok line => if line = "" then none else some (.err line)
      | .error _ => none
    | e => some e

def setupFor (c : Command) (s : Settings) : Except Failure Log.Setup :=
  if c.logs then Log.Setup.configure {} (.text s.logLevel) s.logJson true else .ok {}

def logged (setup : Log.Setup) (wall : Float) (w : World) : World :=
  { w with script := { w.script with log := setup.failure? wall } }

def execute (c : Command) (s : Settings) (wall : Float) (w : World) : Exit × List Event :=
  match setupFor c s with
  | .error f => (.escaped f, [])
  | .ok setup =>
    let (outcome, w) := c.perform s (logged setup wall w)
    (Exit.ofOutcome outcome, present setup wall w.trace.toList)

def complaint (message : String) : Log.Entry :=
  ⟨Log.Setup.rootName, Log.Level.warning, message, []⟩

/-- What is found wrong with the file of bindings is written before logging is set up. -/
def complain (wall : Float) : List String → Option Failure × List Event
  | [] => (none, [])
  | message :: rest =>
    match ({} : Log.Setup).writeEntry wall (complaint message) with
    | .error e => (some (.unlogged e), [])
    | .ok line =>
      let (failure, written) := complain wall rest
      (failure, .err line :: written)

def executeWith (c : Command) (sources : Settings.Sources) (wall : Float) (w : World) :
    Exit × List Event :=
  match Settings.load sources with
  | .error f => (.escaped f, [])
  | .ok s => execute c s wall w

def runProgram (args : List String) (sources : Settings.Sources) (wall : Float) (w : World) :
    Exit × List Event :=
  match parse args with
  | .error e => (.usage e, [])
  | .ok c =>
    match complain wall (Settings.complaints sources) with
    | (some f, written) => (.escaped f, written)
    | (none, written) =>
      let (exit, trace) := executeWith c sources wall w
      (exit, written ++ trace)

/-- The last resort around the program: an interrupt that gets this far is reported. -/
def guard : Option Failure → Exit × List Event
  | none => (.code 0, [])
  | some f =>
    if f.isInterrupt then (.code 130, [.err (echoed "Cancelled by user.")])
    else (.escaped f, [])

end TableSeeder.Cli
