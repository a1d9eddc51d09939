import TableSeeder.Settings.Reading
import TableSeeder.Settings.Source

/-! The settings of a run: seven options, each resolved by itself. -/

namespace TableSeeder

structure Settings where
  region : String := "us-west-2"
  table : String := "ddb-sync-source"
  iterations : Int := 1000
  interval : Float := 2.0
  batches : Int := 500
  logLevel : String := "INFO"
  logJson : Bool := false

namespace Settings

def resolve {α : Type} (l : Layers) (f : Field) (default : α)
    (read : Value → Except Cause α) : Except Issue α :=
  match find l f with
  | none => .ok default
  | some (place, v) => (read v).mapError fun cause => ⟨[place], cause⟩

def readCount (v : Value) : Except Cause Int := (readWhole v).bind (above 0)

def readInterval (v : Value) : Except Cause Float := (readReal v).bind nonnegative

/-- Every field whose value is faulty is reported, in the order of the fields. -/
def read (l : Layers) : Except (List Issue) Settings :=
  let d : Settings := {}
  match resolve l .region d.region readText, resolve l .table d.table readText,
      resolve l .iterations d.iterations readCount, resolve l .interval d.interval readInterval,
      resolve l .batches d.batches readCount, resolve l .logLevel d.logLevel readText,
      resolve l .logJson d.logJson readBool with
  | .ok region, .ok table, .ok iterations, .ok interval, .ok batches, .ok logLevel,
      .ok logJson => .ok { region, table, iterations, interval, batches, logLevel, logJson }
  | r, t, n, i, b, l, j =>
    .error (issuesOf r ++ issuesOf t ++ issuesOf n ++ issuesOf i ++ issuesOf b ++ issuesOf l ++
      issuesOf j)

def load (s : Sources) : Except Failure Settings :=
  match s.layers with
  | .error f => .error f
  | .ok l => (read l).mapError .invalid

def members (s : Settings) : Members Value :=
  [(Field.region.name, .text s.region), (Field.table.name, .text s.table),
    (Field.iterations.name, .int s.iterations), (Field.interval.name, .float s.interval),
    (Field.batches.name, .int s.batches), (Field.logLevel.name, .text s.logLevel),
    (Field.logJson.name, .bool s.logJson)]

end Settings

end TableSeeder
