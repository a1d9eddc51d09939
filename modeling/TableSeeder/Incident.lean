import TableSeeder.Members
import TableSeeder.Value.Shown

/-! Incidents: what the surroundings of a run may come up with, the service and its outages among
them, and the message of each. -/

namespace TableSeeder

inductive Outage where
  | endpoint
  | connectTimeout
  | readTimeout
  | proxy
  | connectionClosed
  deriving DecidableEq

def Outage.name : Outage → String
  | endpoint => "EndpointConnectionError"
  | connectTimeout => "ConnectTimeoutError"
  | readTimeout => "ReadTimeoutError"
  | proxy => "ProxyConnectionError"
  | connectionClosed => "ConnectionClosedError"

def Outage.message (url : String) : Outage → String
  | endpoint => "Could not connect to the endpoint URL: \"" ++ url ++ "\""
  | connectTimeout => "Connect timeout on endpoint URL: \"" ++ url ++ "\""
  | readTimeout => "Read timeout on endpoint URL: \"" ++ url ++ "\""
  | proxy => "Failed to connect to proxy URL: \"" ++ url ++ "\""
  | connectionClosed =>
    "Connection was closed before we received a valid response from endpoint URL: \"" ++
      url ++ "\"."

inductive Signal where
  | connection
  | value
  | runtime
  | system
  | timeout
  | interrupt
  | endOfInput
  | type
  | other
  deriving DecidableEq

def Signal.name : Signal → String
  | connection => "ConnectionError"
  | value => "ValueError"
  | runtime => "RuntimeError"
  | system => "OSError"
  | timeout => "TimeoutError"
  | interrupt => "KeyboardInterrupt"
  | endOfInput => "EOFError"
  | type => "TypeError"
  | other => "Exception"

/-- A refusal by the service: its structured response to one operation. -/
structure Fault where
  response : Members Value
  operation : String

namespace Fault

def detail (f : Fault) : Members Value :=
  match f.response.get? "Error" with
  | some (.object ms) => ms
  | _ => []

def retries (f : Fault) : String :=
  match f.response.get? "ResponseMetadata" with
  | some (.object ms) =>
    match Members.get? ms "MaxAttemptsReached", Members.get? ms "RetryAttempts" with
    | some reached, some n =>
      if reached.truthy then " (reached max retries: " ++ n.shown ++ ")" else ""
    | _, _ => ""
  | _ => ""

def shownMember (f : Fault) (key : String) : String :=
  (f.detail.get? key).elim "Unknown" Value.shown

def message (f : Fault) : String :=
  "An error occurred (" ++ f.shownMember "Code" ++ ") when calling the " ++ f.operation ++
    " operation" ++ f.retries ++ ": " ++ f.shownMember "Message"

end Fault

inductive Incident where
  | refused (f : Fault)
  | outage (o : Outage) (url : String)
  | noCredentials
  | signal (s : Signal) (text : String)

namespace Incident

def message : Incident → String
  | refused f => f.message
  | outage o url => o.message url
  | noCredentials => "Unable to locate credentials"
  | signal _ text => text

def name : Incident → String
  | refused _ => "ClientError"
  | outage o _ => o.name
  | noCredentials => "NoCredentialsError"
  | signal s _ => s.name

/-- Those of the service are known by a longer name. -/
def title : Incident → String
  | signal s _ => s.name
  | i => "botocore.exceptions." ++ i.name

def isInterrupt : Incident → Bool
  | signal .interrupt _ => true
  | _ => false

end Incident

end TableSeeder
