/-! Log levels: numbers, some of which have names. -/

namespace TableSeeder.Log

namespace Level

def debug : Int := 10
def info : Int := 20
def warning : Int := 30
def error : Int := 40

def name (level : Int) : String :=
  match level with
  | 0 => "NOTSET"
  | 10 => "DEBUG"
  | 20 => "INFO"
  | 30 => "WARNING"
  | 40 => "ERROR"
  | 50 => "CRITICAL"
  | n => "Level " ++ toString n

/-- Upper case as far as a level name can be reached by it: besides the ASCII letters, the
dotless i and the long s have ASCII capitals. -/
def upper (s : String) : String :=
  String.ofList (s.toList.map fun c =>
    if c = 'ı' then 'I' else if c = 'ſ' then 'S' else c.toUpper)

def ofName? (s : String) : Option Int :=
  [("CRITICAL", 50), ("FATAL", 50), ("ERROR", 40), ("WARN", 30), ("WARNING", 30), ("INFO", 20),
    ("DEBUG", 10), ("NOTSET", 0)].lookup (upper s)

end Level

end TableSeeder.Log
