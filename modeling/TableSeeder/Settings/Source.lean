import TableSeeder.Failure
import TableSeeder.Text.Dotenv

/-! Where option values come from: arguments, then the environment, then a file of bindings. Each
option goes by two names, that of its variable and its own, in any case. -/

namespace TableSeeder

namespace Settings

inductive Field where
  | region
  | table
  | iterations
  | interval
  | batches
  | logLevel
  | logJson
  deriving DecidableEq

inductive Naming where
  | outer
  | own
  deriving DecidableEq

namespace Field

def all : List Field := [region, table, iterations, interval, batches, logLevel, logJson]

def envName : Field → String
  | region => "AWS_REGION"
  | table => "ITEM_LOADER_TABLE"
  | iterations => "ITEM_LOADER_ITERATIONS"
  | interval => "ITEM_LOADER_INTERVAL"
  | batches => "ITEM_LOADER_BATCHES"
  | logLevel => "LOG_LEVEL"
  | logJson => "LOG_JSON"

def name : Field → String
  | region => "aws_region"
  | table => "table_name"
  | iterations => "loader_iterations"
  | interval => "loader_interval_s"
  | batches => "batch_count"
  | logLevel => "log_level"
  | logJson => "log_json"

def called (f : Field) : Naming → String
  | .outer => f.envName
  | .own => f.name

end Field

structure Sources where
  arguments : Members Value := []
  environment : Members String := []
  file : Option String := none
  /-- The name that is reported where an argument has each: every process makes its own choice. -/
  favoured : Field → Naming := fun _ => .outer

structure Policy where
  dropsEmpty : Bool := false
  exactCase : Bool := false
  beginning : String := ""
  nullText : Option String := none

def isBindingsPath (path : String) : Bool :=
  path.toList.head? ≠ some '/' &&
    (path.splitOn "/").filter (fun part => part ≠ "" && part ≠ ".") = [".env"]

def pathOf : Value → Except Failure String
  | .text path => .ok path
  | v => .error (.noPath v.typeName)

def pathsOf : List Value → Except Failure (List String)
  | [] => .ok []
  | v :: vs =>
    match pathOf v with
    | .error f => .error f
    | .ok path => (pathsOf vs).map (path :: ·)

def listedPaths : Value → Except Failure (List String)
  | .null => .ok []
  | .text path => .ok [path]
  | .list vs => pathsOf vs
  | .bytes bs => pathsOf (bs.map fun b => .int b.toNat)
  | .object ms => .ok (Members.keys ms)
  | v => .error (.noElements v.typeName)

def Policy.ofArguments (arguments : Members Value) : Policy where
  dropsEmpty := (arguments.get? "_env_ignore_empty").elim false Value.truthy
  exactCase := (arguments.get? "_case_sensitive").elim false Value.truthy
  beginning :=
    match arguments.get? "_env_prefix" with
    | some (.text s) => s
    | _ => ""
  nullText :=
    match arguments.get? "_env_parse_none_str" with
    | some (.text s) => some s
    | _ => none

namespace Policy

def folded (p : Policy) (name : String) : String := if p.exactCase then name else lowerAscii name

def valueOf (p : Policy) (s : String) : Value := if p.nullText = some s then .null else .text s

/-- The variables by their folded names; of names that become equal the later one counts. -/
def variablesOf (p : Policy) (ms : Members (Option String)) : Members Value :=
  let kept := ms.filter fun m => !(p.dropsEmpty && m.2 == some "")
  let named := kept.foldl (fun acc m => Members.set acc (p.folded m.1) m.2) []
  named.filterMap fun m => m.2.map fun s => (m.1, p.valueOf s)

end Policy

structure Layers where
  arguments : Members Value
  policy : Policy
  environment : Members Value
  file : Members Value
  favoured : Field → Naming

/-- The text of the file. Arguments may list other files instead, which are not there. -/
def Sources.bindingsText (s : Sources) : Except Failure (Option String) :=
  match s.arguments.get? "_env_file" with
  | none => .ok s.file
  | some v => (listedPaths v).map fun paths => if paths.any isBindingsPath then s.file else none

def Sources.layers (s : Sources) : Except Failure Layers :=
  let policy := Policy.ofArguments s.arguments
  s.bindingsText.map fun text =>
    { arguments := s.arguments
      policy
      environment := policy.variablesOf (s.environment.mapValues some)
      file := text.elim [] fun text =>
        policy.variablesOf (Dotenv.parse s.environment text)
      favoured := s.favoured }

abbrev Found := String × Value

namespace Layers

def argument? (l : Layers) (name : String) : Option Value :=
  (l.arguments.find? fun m => lowerAscii m.1 = lowerAscii name).map Prod.snd

/-- The field's own name is reported only where an argument has exactly that name. -/
def reported (l : Layers) (f : Field) : Naming :=
  match (l.arguments.get? f.name).isSome, (l.arguments.get? f.envName).isSome with
  | true, true => l.favoured f
  | true, false => .own
  | false, _ => .outer

def setting? (l : Layers) (name : String) : Option Value :=
  (l.environment.get? (l.policy.folded name)).or (l.file.get? (l.policy.folded name))

end Layers

def findArgument (l : Layers) (f : Field) : Option Found :=
  ((l.argument? f.envName).or (l.argument? f.name)).map (f.called (l.reported f), ·)

/-- The variable's name comes first, in whichever source. -/
def findVariable (l : Layers) (f : Field) : Option Found :=
  ((l.setting? f.envName).map (f.envName, ·)).or
    ((l.setting? (l.policy.beginning ++ f.name)).map (f.name, ·))

def find (l : Layers) (f : Field) : Option Found := (findArgument l f).or (findVariable l f)

def complaints (s : Sources) : List String :=
  match s.bindingsText with
  | .ok (some text) => (Dotenv.faultyLines text).map fun line =>
      "python-dotenv could not parse statement starting at line " ++ toString line
  | _ => []

end Settings

end TableSeeder
