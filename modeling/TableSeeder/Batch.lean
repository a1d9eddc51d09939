import TableSeeder.Load

/-! Batch writing: requests of several fresh records each, sent one after another without a
pause. The running count of records includes rejected batches; what a request leaves
unprocessed is reported and not sent again. -/

namespace TableSeeder

namespace Batch

def logger : String := "item_loader.batch"

def leftOver (unprocessed : Value) (table : String) : Log.Entry :=
  ⟨logger, Log.Level.warning, "Batch returned unprocessed items",
    [("unprocessed", unprocessed), ("table", .text table)]⟩

def warnUnprocessed (table : String) (unprocessed : Value) : Step Unit := fun w =>
  if unprocessed.truthy then World.log (leftOver unprocessed table) w else (.ok (), w)

def send (store : Store) (table : String) (ids : List String) (total : Nat) (t : Tally)
    (w : World) : Except Failure Tally × World :=
  match store.putBatch table (ids.map fun id => (Record.batched id).item) w with
  | (.ok unprocessed, w) =>
    match warnUnprocessed table unprocessed w with
    | (.error f, w) => (.error f, w)
    | (.ok _, w) =>
      (.ok { t with succeeded := t.succeeded + 1 },
        w.echo ("Written " ++ toString total ++ " records"))
  | (.error (.rejected r), w) =>
    (.ok { t with failed := t.failed + 1 }, w.echo ("Err: " ++ r.message.shown))
  | (.error f, w) => (.error f, w)

def iterate (store : Store) (table : String) (size : Nat) :
    Nat → Tally → World → Except Failure Tally × World
  | 0, t, w => (.ok t, w)
  | count + 1, t, w =>
    match World.nextIds size w with
    | (.error f, w) => (.error f, w)
    | (.ok ids, w) =>
      let t := { t with attempted := t.attempted + 1 }
      match send store table ids (t.attempted * size) t w with
      | (.error f, w) => (.error f, w)
      | (.ok t, w) => iterate store table size count t w

def defaultBatches : Int := 500

/-- The counters are in batches. -/
def run (store : Store) (table : String) (batches size : Int) : Step Summary := fun w =>
  if batches ≤ 0 then (.error (.badArgument (.batches batches)), w)
  else if size < 1 ∨ maxBatchSize < size then (.error (.badArgument (.batchSize size)), w)
  else
    let start := w.clock
    match iterate store table size.toNat batches.toNat {} w with
    | (.error f, w) => (.error f, w)
    | (.ok t, w) => (.ok ⟨t.attempted, t.succeeded, t.failed, w.clock - start⟩, w)

end Batch

end TableSeeder
