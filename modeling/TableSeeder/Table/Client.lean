import TableSeeder.World

/-! The store behind a table client: items become rows, and what the service refuses becomes a
rejection. Outages and missing credentials stay what they are. -/

namespace TableSeeder

namespace Table

def itemOf : Value → Except Failure Item
  | .object ms => .ok ms
  | v => .error (.noMember v.typeName "items")

def rowOf (item : Item) : Except Failure Row :=
  (Attribute.ofMembers item).mapError .unstorable

def rowsOf : List Item → Except Failure (List Row)
  | [] => .ok []
  | item :: items =>
    match rowOf item with
    | .error f => .error f
    | .ok row =>
      match rowsOf items with
      | .error f => .error f
      | .ok rows => .ok (row :: rows)

/-- A refusal by the service costs only its request; no other failure does. -/
def asRejection : Failure → Failure
  | .incident (.refused fault) => .rejected (.ofFault fault)
  | f => f

def countLengths : Members Value → Except Failure Nat
  | [] => .ok 0
  | (_, v) :: ms =>
    match v.length? with
    | none => .error (.noLength v.typeName)
    | some n => (countLengths ms).map (n + ·)

def unprocessed (response : Value) : Except Failure Nat :=
  match response with
  | .object ms =>
    match Members.get? ms "UnprocessedItems" with
    | none => .ok 0
    | some v =>
      if !v.truthy then .ok 0
      else match v with
        | .object tables => countLengths tables
        | v => .error (.noMember v.typeName "values")
  | v => .error (.noMember v.typeName "get")

def put (client : Nat) (table : String) (item : Item) : Step Unit := fun w =>
  match rowOf item with
  | .error f => (.error f, w)
  | .ok row =>
    match World.nextWrite (w.emit (.putItem client table row)) with
    | (.error f, w) => (.error (asRejection f), w)
    | (.ok _, w) => (.ok (), w)

/-- A single request for all items, or none if one of them cannot be stored. -/
def putBatch (client : Nat) (table : String) (items : List Item) : Step Value := fun w =>
  match rowsOf items with
  | .error f => (.error f, w)
  | .ok rows =>
    match World.nextWrite (w.emit (.batchWrite client [(table, rows.map PutRequest.mk)])) with
    | (.error f, w) => (.error (asRejection f), w)
    | (.ok response, w) =>
      match unprocessed response with
      | .error f => (.error f, w)
      | .ok n => (.ok (.int n), w)

def store (client : Nat) : Store where
  put := put client
  putBatch := putBatch client

end Table

end TableSeeder
