import TableSeeder.Incident
import TableSeeder.Interval
import TableSeeder.Log.Record
import TableSeeder.Validation

/-! What can go wrong, by cause, and the message of each cause. -/

namespace TableSeeder

inductive Phase where
  | notStarted
  | running
  | completed
  | aborted
  deriving DecidableEq

def Phase.name : Phase → String
  | notStarted => "not_started"
  | running => "running"
  | completed => "completed"
  | aborted => "aborted"

/-- A failed request that costs only that request. -/
structure Rejection where
  message : Value
  code : Value := .null
  cause : Option Fault := none

/-- The service's own message unless it is missing or empty; then the text of the fault. -/
def Rejection.ofFault (f : Fault) : Rejection where
  message :=
    match f.detail.get? "Message" with
    | some m => if m.truthy then m else .text f.message
    | none => .text f.message
  code := (f.detail.get? "Code").getD .null
  cause := some f

inductive Unstorable where
  | float
  | overflow
  | inexact
  | rounded
  deriving DecidableEq

def Unstorable.message : Unstorable → String
  | float => "Float types are not supported. Use Decimal types instead."
  | _ => ""

inductive BadArgument where
  | iterations (n : Int)
  | interval (i : Interval)
  | batches (n : Int)
  | batchSize (n : Int)

def maxBatchSize : Nat := 25

def BadArgument.message : BadArgument → String
  | iterations n => "iterations must be positive, got " ++ toString n
  | interval i => "interval must be non-negative, got " ++ i.value.shown
  | batches n => "batches must be positive, got " ++ toString n
  | batchSize n =>
    "batch_size must be between 1 and " ++ toString maxBatchSize ++ ", got " ++ toString n

inductive Failure where
  | incident (i : Incident)
  | rejected (r : Rejection)
  | badArgument (a : BadArgument)
  | alreadyRun (p : Phase)
  | noAccount
  | invalid (issues : List Issue)
  | unknownLevel
  | unstorable (u : Unstorable)
  | endlessPause
  | unlogged (e : Log.Error)
  | badRegion (region : String)
  | badEndpoint (url : String)
  | noMember (type member : String)
  | noLength (type : String)
  | noContents (type : String)
  | noElements (type : String)
  | noPath (type : String)
  | noText (type : String)

namespace Failure

def message : Failure → String
  | incident i => i.message
  | rejected r => r.message.shown
  | badArgument a => a.message
  | alreadyRun p => "loader already " ++ p.name
  | noAccount => "No active AWS credentials"
  | invalid _ => ""
  | unknownLevel => "Unable to configure handler 'default'"
  | unstorable u => u.message
  | endlessPause => "int too large to convert to float"
  | unlogged e => e.message
  | badRegion region =>
    "Provided region_name '" ++ region ++ "' doesn't match a supported format."
  | badEndpoint url => "Invalid endpoint: " ++ url
  | noMember type member => "'" ++ type ++ "' object has no attribute '" ++ member ++ "'"
  | noLength type => "object of type '" ++ type ++ "' has no len()"
  | noContents type => "argument of type '" ++ type ++ "' is not iterable"
  | noElements type => "'" ++ type ++ "' object is not iterable"
  | noPath "bytes" =>
    "argument should be a str object or an os.PathLike object returning str, " ++
      "not <class 'bytes'>"
  | noPath type => "expected str, bytes or os.PathLike object, not " ++ type
  | noText type => "__str__ returned non-string (type " ++ type ++ ")"

/-- The message, unless it is to be that of a rejection which carries something else. -/
def messageText : Failure → Except Failure String
  | rejected r =>
    match r.message with
    | .text s => .ok s
    | v => .error (.noText v.typeName)
  | f => .ok f.message

def isInterrupt : Failure → Bool
  | incident i => i.isInterrupt
  | _ => false

end Failure

namespace Fault

def checkPart (response : Members Value) (key : String) : Except Failure Unit :=
  match response.get? key with
  | none => .ok ()
  | some (.object _) => .ok ()
  | some v => .error (.noMember v.typeName "get")

/-- The fault that a response reports. The metadata are looked at before the error. -/
def ofResponse (operation : String) : Value → Except Failure Fault
  | .object response =>
    match checkPart response "ResponseMetadata", checkPart response "Error" with
    | .error f, _ => .error f
    | .ok _, .error f => .error f
    | .ok _, .ok _ => .ok { response, operation }
  | v =>
    if v.length?.isSome then .error (.noMember v.typeName "get")
    else .error (.noContents v.typeName)

end Fault

end TableSeeder
