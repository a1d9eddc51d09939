import TableSeeder.Settings.Reading
import TableSeeder.Text.Quoted
import TableSeeder.Text.Similar

/-! The command line: a command, its options and its arguments. -/

namespace TableSeeder.Cli

inductive CommandName where
  | info
  | check
  | run
  | batch
  deriving DecidableEq

inductive Flag where
  | iterations
  | interval
  | batches
  deriving DecidableEq

namespace Flag

def long : Flag → String
  | iterations => "--iterations"
  | interval => "--interval"
  | batches => "--batches"

def short : Flag → Char
  | iterations => 'n'
  | interval => 'i'
  | batches => 'b'

def shortName (f : Flag) : String := String.ofList ['-', f.short]

def hint (f : Flag) : String := "'" ++ f.long ++ "' / '" ++ f.shortName ++ "'"

end Flag

def CommandName.table : List (String × CommandName) :=
  [("info", .info), ("check", .check), ("run", .run), ("batch", .batch)]

def CommandName.ofText? (s : String) : Option CommandName := CommandName.table.lookup s

def CommandName.similar (word : String) : List String :=
  Similar.closest word (CommandName.table.map Prod.fst)

def CommandName.flags : CommandName → List Flag
  | info => []
  | check => []
  | run => [.iterations, .interval]
  | batch => [.batches]

inductive UsageError where
  | missingCommand
  | noSuchCommand (name : String) (suggested : List String)
  | noSuchOption (name : String) (suggested : List String)
  | missingValue (name : String)
  | badValue (flag : Flag) (cause : Cause)
  | extraArguments (args : List String)
  deriving DecidableEq

namespace UsageError

def withSuggestions (message : String) (suggested : List String) : String :=
  if suggested.isEmpty then message
  else
    String.ofList (trimRight (· == '.') message.toList) ++ ". Did you mean " ++
      String.intercalate ", " (suggested.map quoted) ++ "?"

def text : UsageError → String
  | missingCommand => "Missing command."
  | noSuchCommand name suggested =>
    withSuggestions ("No such command " ++ quoted name ++ ".") suggested
  | noSuchOption name suggested => withSuggestions ("No such option: " ++ name) suggested
  | missingValue name => "Option " ++ quoted name ++ " requires an argument."
  | badValue flag cause => "Invalid value for " ++ flag.hint ++ ": " ++ cause.message
  | extraArguments args =>
    "Got unexpected extra argument(s) (" ++ String.intercalate " " args ++ ")"

def message (e : UsageError) : String := withoutControls e.text

end UsageError

def isOption (token : String) : Bool :=
  match token.toList with
  | '-' :: _ :: _ => true
  | _ => false

structure Match where
  flag : Flag
  name : String
  value : Option String

def splitValue (cs : List Char) : List Char × Option (List Char) :=
  Reading.cut (· == '=') cs

/-- A long name is matched whole and may carry a value after an equals sign; a short name carries
whatever follows it. -/
def matchOption (flags : List Flag) (token : String) : Except UsageError Match :=
  let (name, value) := splitValue token.toList
  match flags.find? fun f => f.long.toList = name with
  | some f => .ok ⟨f, f.long, value.map String.ofList⟩
  | none =>
    match token.toList with
    | '-' :: '-' :: _ => .error (.noSuchOption (String.ofList name) [])
    | '-' :: c :: rest =>
      match flags.find? fun f => f.short = c with
      | some f => .ok ⟨f, f.shortName, if rest.isEmpty then none else some (String.ofList rest)⟩
      | none => .error (.noSuchOption (String.ofList ['-', c]) [])
    | _ => .error (.noSuchOption token [])

structure Tokens where
  values : List (Flag × String) := []
  arguments : List String := []

/-- Options and arguments may be mixed; after two hyphens all tokens are arguments. -/
def readTokens (flags : List Flag) : List String → Except UsageError Tokens
  | [] => .ok {}
  | token :: rest =>
    if token = "--" then .ok { arguments := rest }
    else if isOption token then
      match matchOption flags token, rest with
      | .error e, _ => .error e
      | .ok ⟨f, _, some v⟩, rest =>
        (readTokens flags rest).map fun t => { t with values := (f, v) :: t.values }
      | .ok ⟨_, name, none⟩, [] => .error (.missingValue name)
      | .ok ⟨f, _, none⟩, v :: rest =>
        (readTokens flags rest).map fun t => { t with values := (f, v) :: t.values }
    else (readTokens flags rest).map fun t => { t with arguments := token :: t.arguments }

inductive Command where
  | info
  | check
  | run (iterations : Option Int) (interval : Option Float)
  | batch (table : Option String) (batches : Option Int)

def readCount (s : String) : Except Cause Int := (Settings.wholeText s).bind (Settings.atLeast 1)

def readSeconds (s : String) : Except Cause Float :=
  (Settings.realText s).bind Settings.nonnegative

def lastValue (values : List (Flag × String)) (f : Flag) : Option String :=
  values.reverse.lookup f

def checkFlag (f : Flag) (s : String) : Except Cause Unit :=
  match f with
  | .interval => (readSeconds s).map fun _ => ()
  | _ => (readCount s).map fun _ => ()

/-- The first faulty value, in the order in which the options were first given. -/
def faultyValue (values : List (Flag × String)) : Option UsageError :=
  (values.map Prod.fst).findSome? fun f =>
    match lastValue values f with
    | none => none
    | some s =>
      match checkFlag f s with
      | .ok _ => none
      | .error cause => some (.badValue f cause)

def countOf (values : List (Flag × String)) (f : Flag) : Option Int :=
  (lastValue values f).bind fun s => (readCount s).toOption

def secondsOf (values : List (Flag × String)) (f : Flag) : Option Float :=
  (lastValue values f).bind fun s => (readSeconds s).toOption

def commandOf (name : CommandName) (t : Tokens) : Command × List String :=
  match name with
  | .info => (.info, t.arguments)
  | .check => (.check, t.arguments)
  | .run => (.run (countOf t.values .iterations) (secondsOf t.values .interval), t.arguments)
  | .batch =>
    (.batch t.arguments.head? (countOf t.values .batches), t.arguments.drop 1)

def readCommand (name : CommandName) (tokens : List String) : Except UsageError Command :=
  match readTokens name.flags tokens with
  | .error e => .error e
  | .ok t =>
    match faultyValue t.values, commandOf name t with
    | some e, _ => .error e
    | none, (command, []) => .ok command
    | none, (_, extra) => .error (.extraArguments extra)

def skipToCommand : List String → Except UsageError (List String)
  | [] => .ok []
  | token :: rest =>
    if token = "--" then .ok rest
    else if isOption token then (matchOption [] token).map fun _ => token :: rest
    else .ok (token :: rest)

/-- A name that is no command is first taken for a misplaced option. Then the suggestions are for
the argument after it. -/
def unknownCommand (token : String) (rest : List String) : UsageError :=
  match skipToCommand (token :: rest) with
  | .error (.noSuchOption name _) =>
    .noSuchOption name (rest.head?.elim [] CommandName.similar)
  | .error e => e
  | .ok _ => .noSuchCommand token (CommandName.similar token)

def parse (args : List String) : Except UsageError Command :=
  match skipToCommand args with
  | .error e => .error e
  | .ok [] => .error .missingCommand
  | .ok (token :: rest) =>
    match CommandName.ofText? token with
    | some name => readCommand name rest
    | none => .error (unknownCommand token rest)

end TableSeeder.Cli
