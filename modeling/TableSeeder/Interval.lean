import TableSeeder.Number.Plain
import TableSeeder.Value

/-! Pauses in seconds: a whole number or a real one. -/

namespace TableSeeder

inductive Interval where
  | whole (n : Int)
  | real (x : Float)

namespace Interval

/-- An interval that is not a number is not negative. -/
def isNegative : Interval → Bool
  | whole n => n < 0
  | real x => x < 0.0

def value : Interval → Value
  | whole n => .int n
  | real x => .float x

/-- Whole numbers too large for a binary number have none. -/
def seconds? : Interval → Option Float
  | whole n =>
    match Binary.ofFloat (Float.ofInt n) with
    | .infinite _ => none
    | _ => some (Float.ofInt n)
  | real x => some x

end Interval

end TableSeeder
