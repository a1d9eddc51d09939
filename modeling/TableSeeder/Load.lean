import TableSeeder.World

/-! Loads: generate a record, write it, pause, and repeat. A rejected write costs only its item;
any other failure ends the load. -/

namespace TableSeeder

structure Summary where
  attempted : Nat
  succeeded : Nat
  failed : Nat
  duration : Float

namespace Summary

def members (s : Summary) : Members Value :=
  [("attempted", .int s.attempted), ("succeeded", .int s.succeeded), ("failed", .int s.failed),
    ("duration_seconds", .float s.duration)]

def render (s : Summary) : String := Json.renderLines s.members

end Summary

structure Tally where
  attempted : Nat := 0
  succeeded : Nat := 0
  failed : Nat := 0
  deriving DecidableEq

/-- What echoing a message shows; nothing for a missing one. -/
def echoText : Value → String
  | .null => ""
  | v => v.shown

namespace Load

def logger : String := "item_loader.loader"

def started (table : String) (iterations : Nat) (interval : Interval) : Log.Entry :=
  ⟨logger, Log.Level.info, "Starting load",
    [("table", .text table), ("iterations", .int iterations), ("interval", interval.value)]⟩

def accepted (n : Nat) : Log.Entry :=
  ⟨logger, Log.Level.debug, "Write accepted", [("iteration", .int n)]⟩

def rejected (n : Nat) (r : Rejection) (table : String) : Log.Entry :=
  ⟨logger, Log.Level.debug, "Write rejected",
    [("iteration", .int n), ("code", r.code), ("table", .text table)]⟩

def aborted (table : String) (t : Tally) : Log.Entry :=
  ⟨logger, Log.Level.error, "Load aborted",
    [("iteration", .int t.attempted), ("table", .text table)]⟩

def completed (s : Summary) : Log.Entry :=
  ⟨logger, Log.Level.info, "Load completed", s.members⟩

def attempt (store : Store) (table : String) (n : Nat) (id : String) (t : Tally) (w : World) :
    Except Failure Tally × World :=
  match store.put table (Record.single id).item w with
  | (.ok _, w) =>
    match World.log (accepted n) w with
    | (.error f, w) => (.error f, w)
    | (.ok _, w) => (.ok { t with succeeded := t.succeeded + 1 }, w)
  | (.error (.rejected r), w) =>
    match World.log (rejected n r table) (w.echo (echoText r.message)) with
    | (.error f, w) => (.error f, w)
    | (.ok _, w) => (.ok { t with failed := t.failed + 1 }, w)
  | (.error f, w) => (.error f, w)

def iterate (store : Store) (table : String) (interval : Interval) :
    Nat → Tally → World → Option Failure × Tally × World
  | 0, t, w => (none, t, w)
  | count + 1, t, w =>
    match World.nextId w with
    | (.error f, w) => (some f, t, w)
    | (.ok id, w) =>
      let n := t.attempted + 1
      let t := { t with attempted := n }
      match attempt store table n id t (w.echo ("Writing item #" ++ toString n)) with
      | (.error f, w) => (some f, t, w)
      | (.ok t, w) =>
        match World.sleep interval w with
        | (.error f, w) => (some f, t, w)
        | (.ok _, w) => iterate store table interval count t w

end Load

structure Loader where
  store : Store
  table : String
  phase : Phase := .notStarted

namespace Loader

def finish (l : Loader) (iterations : Nat) (interval : Interval) (start : Float) (w : World) :
    Except Failure Summary × Loader × World :=
  match Load.iterate l.store l.table interval iterations {} w with
  | (some f, t, w) =>
    let (f, w) := World.logFailing (Load.aborted l.table t) f w
    (.error f, { l with phase := .aborted }, w)
  | (none, t, w) =>
    let summary : Summary := ⟨t.attempted, t.succeeded, t.failed, w.clock - start⟩
    let (logged, w) := World.log (Load.completed summary) w
    (logged.map fun _ => summary, { l with phase := .completed }, w)

/-- The load itself, once its arguments and phase have been found good. Where not even its start
can be logged it remains in the state of running. -/
def execute (l : Loader) (iterations : Nat) (interval : Interval) (w : World) :
    Except Failure Summary × Loader × World :=
  let start := w.clock
  match World.log (Load.started l.table iterations interval) w with
  | (.error f, w) => (.error f, { l with phase := .running }, w)
  | (.ok _, w) => l.finish iterations interval start w

/-- Arguments are checked first and then the phase; a refused run changes nothing. -/
def run (l : Loader) (iterations : Int) (interval : Interval) (w : World) :
    Except Failure Summary × Loader × World :=
  if iterations ≤ 0 then (.error (.badArgument (.iterations iterations)), l, w)
  else if interval.isNegative then (.error (.badArgument (.interval interval)), l, w)
  else if l.phase ≠ .notStarted then (.error (.alreadyRun l.phase), l, w)
  else l.execute iterations.toNat interval w

end Loader

def load (store : Store) (table : String) (iterations : Int) (interval : Interval) :
    Step Summary := fun w =>
  let (outcome, _, w) := Loader.run { store, table } iterations interval w
  (outcome, w)

end TableSeeder
