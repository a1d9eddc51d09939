import TableSeeder.Incident
import TableSeeder.Log.Calendar
import TableSeeder.Log.Level
import TableSeeder.Text.Template
import TableSeeder.Value.Json
import TableSeeder.Value.Slot

/-! Log records and the JSON line that shows one. Their texts are kept in code points, since what
is logged may hold surrogates. -/

namespace TableSeeder.Log

def ownAttributes : List String :=
  ["name", "msg", "args", "levelname", "levelno", "pathname", "filename", "module", "exc_info",
    "exc_text", "stack_info", "lineno", "funcName", "created", "msecs", "relativeCreated",
    "thread", "threadName", "processName", "process"]

def hiddenAttributes : List String :=
  ownAttributes ++ ["message", "asctime", "extra", "taskName"]

abbrev Fields := Members (Value Points) Points

inductive Attachment where
  | incidents (is : List Incident)
  | value (v : Value Points)

structure Record where
  level : Value Points
  logger : Value Points
  message : Value Points
  arguments : Arguments := .several []
  attributes : Fields := []
  attachment : Attachment := .incidents []
  stack : Value Points := .null

inductive Error where
  | clock (e : ClockError)
  | takenName (key : String)
  | template (e : Template.Error)
  | notCallable (type : String)
  | notDivisible (type : String)
  | tooFewParts (index : String)
  | noThirdPart
  | noMember (type member : String)
  | slot (e : SlotError)

def Error.title : Error → String
  | clock e => e.title
  | takenName _ | noThirdPart => "KeyError"
  | template e => e.title
  | notCallable _ | notDivisible _ => "TypeError"
  | tooFewParts _ => "IndexError"
  | noMember _ _ => "AttributeError"
  | slot e => e.title

def Error.message : Error → String
  | clock e => e.message
  | takenName key => quoted ("Attempt to overwrite " ++ quoted key ++ " in LogRecord")
  | template e => e.message
  | notCallable type => "'" ++ type ++ "' object is not callable"
  | notDivisible type => "'" ++ type ++ "' object is not subscriptable"
  | tooFewParts index => index ++ " out of range"
  | noThirdPart => "2"
  | noMember type member => "'" ++ type ++ "' object has no attribute '" ++ member ++ "'"
  | slot e => e.message

def reportLine (title message : String) : String :=
  if message = "" then title else title ++ ": " ++ message

/-- What a handler writes about a record that it fails to format. -/
def Error.report (e : Error) : String :=
  "--- Logging error ---\n" ++ reportLine e.title e.message ++ "\n"

/-- The deepest cause comes first. -/
def report (incidents : List Incident) : String :=
  String.intercalate
    "\n\nThe above exception was the direct cause of the following exception:\n\n"
    (incidents.reverse.map fun i => reportLine i.title i.message)

def laterParts : Value Points → Except Error (Value Points × Value Points)
  | .list (_ :: second :: third :: _) => .ok (second, third)
  | .list _ => .error (.tooFewParts "list index")
  | .bytes (_ :: second :: third :: _) => .ok (.int second.toNat, .int third.toNat)
  | .bytes _ => .error (.tooFewParts "index")
  | .text (_ :: second :: third :: _) => .ok (.text [second], .text [third])
  | .text _ => .error (.tooFewParts "string index")
  | .object _ => .error .noThirdPart
  | v => .error (.notDivisible v.typeName)

/-- The only report that a value makes is that of nothing. Its third part would be the place of an
incident and its second part the incident itself. -/
def valueReport (v : Value Points) : Except Error String :=
  match laterParts v with
  | .error e => .error e
  | .ok (.null, .null) => .ok "NoneType: None"
  | .ok (second, .null) => .error (.noMember second.typeName "__suppress_context__")
  | .ok (_, third) => .error (.noMember third.typeName "tb_frame")

def Attachment.fields : Attachment → Except Error Fields
  | incidents [] => .ok []
  | incidents is => .ok [("exc_info", .text (report is))]
  | value v =>
    if v.truthy then (valueReport v).map fun text => [("exc_info", .text text)] else .ok []

namespace Record

/-- A single argument that is a mapping with members serves as one value. -/
def argumentsOf : List (Value Points) → Arguments
  | [.object (m :: ms)] => .one (.object (m :: ms))
  | vs => .several vs

def refusesField (key : Points) : Bool :=
  (["message", "asctime"] ++ ownAttributes).any fun name => key = name

/-- Fields must not take the names of a record's own attributes; the first that does is
reported. -/
def addFields (r : Record) (fields : Fields) : Except Error Record :=
  match fields.keys.find? refusesField with
  | some key => .error (.takenName key.render)
  | none => .ok { r with attributes := r.attributes.merge fields }

def withAttribute (r : Record) (name : String) (v : Value Points) : Record :=
  match name with
  | "levelname" => { r with level := v }
  | "name" => { r with logger := v }
  | "msg" => { r with message := v }
  | "args" => { r with arguments := if v.truthy then .one v else .several [] }
  | "stack_info" => { r with stack := v }
  | "exc_info" => { r with attachment := .value v }
  | name =>
    if ownAttributes.contains name then r
    else { r with attributes := r.attributes.set name v }

/-- Sets an attribute of a finished record, whatever its name. A record that is given all its
attributes anew has none of its own. -/
def assign (r : Record) (name : String) (v : Value Points) : Except Error Record :=
  match SlotError.find? "LogRecord" name v with
  | some e => .error (.slot e)
  | none =>
    if name = "__dict__" then .error (.noMember "LogRecord" "levelname")
    else .ok (r.withAttribute name v)

def assignAll (r : Record) : Members (Value Points) → Except Error Record
  | [] => .ok r
  | (name, v) :: rest =>
    match r.assign name v with
    | .error e => .error e
    | .ok r => assignAll r rest

/-- The message with its arguments filled in; without arguments it is taken as it is. An attribute
can take the place of the way to it. -/
def text (r : Record) : Except Error Points :=
  match r.attributes.get? "getMessage", r.arguments with
  | some v, _ => .error (.notCallable v.typeName)
  | none, .several [] => .ok r.message.points
  | none, args => (Template.render r.message.points args).mapError .template

def hides (key : Points) : Bool := hiddenAttributes.any fun name => key = name

def shownFields (r : Record) : Fields := r.attributes.filter fun m => !hides m.1

def stackFields (r : Record) : Fields :=
  if r.stack.truthy then [("stack_info", r.stack)] else []

def nestedFields (r : Record) : Fields :=
  match r.attributes.get? "extra" with
  | some (.object ms) => ms
  | _ => []

/-- The members of a JSON line in order, each value in the form `write` gives it; a later one of
the same name replaces the value of an earlier one in its place. -/
def payload {α : Type} (write : Value Points → α) (r : Record) (message : α)
    (report : Fields) : Members α Points :=
  let start : Members α Points :=
    [("level", write r.level), ("logger", write r.logger), ("message", message)]
  let fields := ((r.shownFields.merge report).merge r.stackFields).merge r.nestedFields
  Members.merge start (fields.mapValues write)

def jsonLine (r : Record) : Except Error String :=
  match r.text, r.attachment.fields with
  | .ok message, .ok report =>
    .ok (String.ofList (Json.object (r.payload Json.write (Json.text message) report)))
  | .error e, _ => .error e
  | .ok _, .error e => .error e

end Record

structure Entry where
  logger : String
  level : Int
  message : String
  fields : Members Value := []

def Entry.record (e : Entry) : Record where
  level := .text (Level.name e.level)
  logger := .text e.logger
  message := .text e.message
  attributes := Value.mapMembers Points.ofString e.fields

end TableSeeder.Log
