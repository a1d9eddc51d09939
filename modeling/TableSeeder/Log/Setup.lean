import TableSeeder.Failure
import TableSeeder.Log.Calendar
import TableSeeder.Log.Record

/-! How records reach the error stream: levels, handlers and formats. -/

namespace TableSeeder.Log

inductive Format where
  | console
  | json
  deriving DecidableEq

inductive Handler where
  | stream (level : Int) (format : Format)
  | silent
  deriving DecidableEq

structure Setup where
  level : Int := Level.warning
  handlers : List Handler := []
  /-- The level of the client libraries; zero leaves them to the root. -/
  libraries : Int := 0
  deriving DecidableEq

namespace Setup

def levelOf : Value → Except Failure Int
  | .text name =>
    match Level.ofName? name with
    | some n => .ok n
    | none => .error .unknownLevel
  | .bytes _ => .error .unknownLevel
  | v => .error (.noMember v.typeName "upper")

/-- A single handler at the level and in the format asked for. Without force handlers that are
already there stay as they are; an unknown level changes nothing. -/
def configure (s : Setup) (level : Value) (json force : Bool) : Except Failure Setup :=
  if !force && !s.handlers.isEmpty then .ok s
  else
    match levelOf level with
    | .error f => .error f
    | .ok n => .ok ⟨n, [.stream n (if json then .json else .console)], Level.warning⟩

def rootName : String := "root"

def isRoot (name : String) : Bool := name = "" || name = rootName

def libraryNames : List String := ["botocore", "urllib3"]

/-- The name cut at its last dot, and from there at the last dot that stands at least one
character further left. A dot at the very beginning is no cut. -/
def parentsFrom : Nat → List Char → List (List Char)
  | 0, _ => []
  | fuel + 1, reversed =>
    match reversed.dropWhile (· != '.') with
    | _ :: before =>
      if before.isEmpty then []
      else before.reverse :: parentsFrom fuel (before.drop 1)
    | [] => []

def parents (name : String) : List String :=
  (parentsFrom name.length name.toList.reverse).map String.ofList

def underLibrary (name : String) : Bool :=
  libraryNames.any fun library => name = library || (parents name).contains library

def effectiveLevel (s : Setup) (name : String) : Int :=
  if !isRoot name && underLibrary name && s.libraries != 0 then s.libraries else s.level

def admits (s : Setup) (name : String) (level : Int) : Bool :=
  0 < level && s.effectiveLevel name ≤ level

def formatted (format : Format) (now : Int) (r : Record) : Except Error String :=
  match format with
  | .json => r.jsonLine
  | .console =>
    match r.text, stamp now with
    | .error e, _ => .error e
    | .ok _, .error e => .error (.clock e)
    | .ok message, .ok date =>
      .ok (date ++ " | " ++ r.level.points.render ++ " | " ++ r.logger.points.render ++ " | " ++
        message.render)

/-- A record that cannot be formatted does not stop the program: what went wrong is written in the
place of its line. -/
def written : Except Error String → String
  | .ok line => line ++ "\n"
  | .error e => e.report

def handle (h : Handler) (level : Int) (now : Int) (r : Record) : String :=
  match h with
  | .silent => ""
  | .stream least format => if least ≤ level then written (formatted format now r) else ""

def handleAll (level : Int) (now : Int) (r : Record) : List Handler → String
  | [] => ""
  | h :: rest => handle h level now r ++ handleAll level now r rest

/-- Where there is no handler at all, warnings and worse still come out as bare messages. -/
def writeAdmitted (s : Setup) (level : Int) (now : Int) (r : Record) : String :=
  if s.handlers.isEmpty then
    if Level.warning ≤ level then written (r.text.map fun message => message.render) else ""
  else handleAll level now r s.handlers

/-- What is written under a name and level. A record is made only if it is admitted, and then the
clock is read first; what goes wrong in making it is left to the program. -/
def write (s : Setup) (wall : Float) (name : String) (level : Int) (make : Except Error Record) :
    Except Error String :=
  if !s.admits name level then .ok ""
  else
    match wholeSeconds wall, make with
    | .error e, _ => .error (.clock e)
    | .ok _, .error e => .error e
    | .ok now, .ok r => .ok (s.writeAdmitted level now r)

def writeEntry (s : Setup) (wall : Float) (e : Entry) : Except Error String :=
  s.write wall e.logger e.level (.ok e.record)

def failure? (s : Setup) (wall : Float) (e : Entry) : Option Failure :=
  match s.writeEntry wall e with
  | .error e => some (.unlogged e)
  | .ok _ => none

end Setup

end TableSeeder.Log
