import TableSeeder.Failure
import TableSeeder.Record
import TableSeeder.Table.Attribute
import TableSeeder.Text.Terminal

/-! The surroundings of a run: what the services will answer, the clock, and the trace of
everything that has been done. Stores act on them. -/

namespace TableSeeder

structure PutRequest where
  row : Row

inductive Event where
  | log (e : Log.Entry)
  | out (text : String)
  | err (text : String)
  | put (table : String) (item : Item)
  | putBatch (table : String) (items : List Item)
  | putItem (client : Nat) (table : String) (row : Row)
  | batchWrite (client : Nat) (requests : Members (List PutRequest))
  | sleep (i : Interval)
  | create (region : String)
  | createIdentity (region : String)
  | callerIdentity (client : Nat)
  | close (client : Nat) (region : String)

/-- The answer to one call: the time it takes, then a failure or a value. -/
structure Reply where
  cost : Float := 0.0
  failure : Option Failure := none
  value : Value := .object []

/-- What happens on the n-th use of each facility, counted from zero. -/
structure Script where
  id : Nat → Except Failure String
  write : Nat → Reply
  identity : Nat → Reply
  sleep : Nat → Option Failure
  create : String → Nat → Option Failure
  createIdentity : String → Nat → Option Failure
  close : String → Option Failure
  log : Log.Entry → Option Failure := fun _ => none

structure World where
  script : Script
  clock : Float := 0.0
  ids : Nat := 0
  writes : Nat := 0
  identities : Nat := 0
  sleeps : Nat := 0
  /-- Regions in which a table client, or an identity client, was to be created. -/
  creations : List String := []
  identityCreations : List String := []
  /-- Clients are numbered from one in the order of their creation. -/
  clients : Nat := 0
  trace : Array Event := #[]

abbrev Step (α : Type) := World → Except Failure α × World

namespace World

def emit (w : World) (e : Event) : World := { w with trace := w.trace.push e }

def log (e : Log.Entry) : Step Unit := fun w =>
  match w.script.log e with
  | some f => (.error f, w)
  | none => (.ok (), w.emit (.log e))

/-- Logs that something has failed; the failure to log it comes first. -/
def logFailing (e : Log.Entry) (f : Failure) (w : World) : Failure × World :=
  match log e w with
  | (.error g, w) => (g, w)
  | (.ok _, w) => (f, w)

def echo (w : World) (text : String) : World := w.emit (.out (echoed text))

def echoError (w : World) (text : String) : World := w.emit (.err (echoed text))

def nextId : Step String := fun w => (w.script.id w.ids, { w with ids := w.ids + 1 })

def nextIds : Nat → Step (List String)
  | 0, w => (.ok [], w)
  | n + 1, w =>
    match nextId w with
    | (.error f, w) => (.error f, w)
    | (.ok id, w) =>
      match nextIds n w with
      | (.error f, w) => (.error f, w)
      | (.ok ids, w) => (.ok (id :: ids), w)

def answer (w : World) (r : Reply) : Except Failure Value × World :=
  let w := { w with clock := w.clock + r.cost }
  match r.failure with
  | some f => (.error f, w)
  | none => (.ok r.value, w)

def nextWrite : Step Value := fun w =>
  answer { w with writes := w.writes + 1 } (w.script.write w.writes)

def nextIdentity : Step Value := fun w =>
  answer { w with identities := w.identities + 1 } (w.script.identity w.identities)

/-- A sleep that fails does not move the clock. -/
def sleep (i : Interval) : Step Unit := fun w =>
  let failure := w.script.sleep w.sleeps
  let w := { w.emit (.sleep i) with sleeps := w.sleeps + 1 }
  match failure, i.seconds? with
  | some f, _ => (.error f, w)
  | none, none => (.error .endlessPause, w)
  | none, some s => (.ok (), { w with clock := w.clock + s })

def created (w : World) : Option Failure → Except Failure Nat × World
  | some f => (.error f, w)
  | none => (.ok (w.clients + 1), { w with clients := w.clients + 1 })

def createClient (region : String) : Step Nat := fun w =>
  let failure := w.script.create region (w.creations.count region)
  created { w.emit (.create region) with creations := region :: w.creations } failure

def createIdentityClient (region : String) : Step Nat := fun w =>
  let failure := w.script.createIdentity region (w.identityCreations.count region)
  created { w.emit (.createIdentity region) with
    identityCreations := region :: w.identityCreations } failure

end World

/-- A batch is answered with what was left unprocessed. -/
structure Store where
  put : String → Item → Step Unit
  putBatch : String → List Item → Step Value

namespace Store

def scripted : Store where
  put table item w :=
    match World.nextWrite (w.emit (.put table item)) with
    | (.error f, w) => (.error f, w)
    | (.ok _, w) => (.ok (), w)
  putBatch table items w := World.nextWrite (w.emit (.putBatch table items))

end Store

end TableSeeder
