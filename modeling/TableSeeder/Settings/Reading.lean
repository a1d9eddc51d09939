import TableSeeder.Number.Binary
import TableSeeder.Number.Reading
import TableSeeder.Validation
import TableSeeder.Value

/-! Option values read leniently: numbers and truth values also from text, and from each other
where nothing is lost. -/

namespace TableSeeder

namespace Settings

def floatBound : Int := twoTo 63

def wholeText (s : String) : Except Cause Int :=
  match Reading.whole s.toList with
  | .ok n => .ok n
  | .error .malformed => .error .unreadableInt
  | .error .tooLong => .error .oversizedInt

def wholeFloat (x : Float) : Except Cause Int :=
  match Binary.ofFloat x with
  | .finite negative m e =>
    let n := Binary.truncated negative m e
    if !Binary.isWhole m e then .error .fractionalInt
    else if -floatBound < n ∧ n < floatBound then .ok n
    else .error .oversizedInt
  | _ => .error .notFinite

def readBytes {α : Type} (read : String → Except Cause α) (unreadable : Cause)
    (bs : List UInt8) : Except Cause α :=
  match Value.decoded? bs with
  | some s => read s
  | none => .error unreadable

def readWhole : Value → Except Cause Int
  | .text s => wholeText s
  | .bytes bs => readBytes wholeText .unreadableInt bs
  | .bool b => .ok (if b then 1 else 0)
  | .int n => .ok n
  | .float x => wholeFloat x
  | _ => .error .notInt

def above (bound : Nat) (n : Int) : Except Cause Int :=
  if (bound : Int) < n then .ok n else .error (.notAbove bound)

def atLeast (bound : Nat) (n : Int) : Except Cause Int :=
  if (bound : Int) ≤ n then .ok n else .error (.notAtLeast bound)

def realText (s : String) : Except Cause Float :=
  match Reading.real? s.toList with
  | some x => .ok x
  | none => .error .unreadableReal

def readReal : Value → Except Cause Float
  | .text s => realText s
  | .bytes bs => readBytes realText .unreadableReal bs
  | .bool b => .ok (if b then 1.0 else 0.0)
  | .int n =>
    match Binary.ofFloat (Float.ofInt n) with
    | .infinite _ => .error .notReal
    | _ => .ok (Float.ofInt n)
  | .float x => .ok x
  | _ => .error .notReal

/-- What is not a number is not at least zero; the negative zero is. -/
def nonnegative (x : Float) : Except Cause Float :=
  if 0.0 ≤ x then .ok x else .error (.notAtLeast 0)

def falseWords : List String := ["0", "off", "f", "false", "n", "no"]

def trueWords : List String := ["1", "on", "t", "true", "y", "yes"]

def boolText (s : String) : Except Cause Bool :=
  let word := lowerAscii s
  if falseWords.contains word then .ok false
  else if trueWords.contains word then .ok true
  else .error .unreadableBool

def boolInt (n : Int) : Except Cause Bool :=
  if n = 0 then .ok false else if n = 1 then .ok true else .error .unreadableBool

def readBool : Value → Except Cause Bool
  | .bool b => .ok b
  | .text s => boolText s
  | .bytes bs => readBytes boolText .unreadableBool bs
  | .int n =>
    if -floatBound ≤ n ∧ n < floatBound then boolInt n else .error .notBool
  | .float x =>
    match wholeFloat x with
    | .ok n => boolInt n
    | .error _ => .error .notBool
  | _ => .error .notBool

def readText : Value → Except Cause String
  | .text s => .ok s
  | .bytes bs => readBytes .ok .notUnicode bs
  | _ => .error .notText

end Settings

end TableSeeder
