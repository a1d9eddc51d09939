import TableSeeder.Number.Binary

/-! The fewest decimal digits that read back as a given binary number, and of those the nearest. -/

namespace TableSeeder

/-- The number `digits · 10 ^ scale`. -/
structure Decimal where
  digits : Nat
  scale : Int
  deriving DecidableEq

namespace Decimal

def strip (digits : Nat) (scale : Int) : Decimal :=
  if h : 0 < digits ∧ digits % 10 = 0 then strip (digits / 10) (scale + 1)
  else ⟨digits, scale⟩
termination_by digits
decreasing_by omega

def firstPlace (num den : Nat) : Nat → Nat → Nat
  | 0, j => j
  | fuel + 1, j => if den ≤ num * tenTo j then j else firstPlace num den fuel (j + 1)

def magnitude (num den : Nat) : Int :=
  if den ≤ num then ((Nat.repr (num / den)).length : Int) - 1
  else -(firstPlace num den (den.log2 + 1) 1 : Int)

end Decimal

/-- The reals that read back as one binary number, over a common denominator. -/
structure Window where
  low : Nat
  middle : Nat
  high : Nat
  den : Nat
  closed : Bool

namespace Window

/-- The half-way points to both neighbours; they belong to the number with an even mantissa. -/
def around (mantissa : Nat) (exponent : Int) : Window :=
  let low := if mantissa = twoTo 52 ∧ -1074 < exponent then 4 * mantissa - 1 else 4 * mantissa - 2
  let (scale, den) := Binary.ratio 1 (exponent - 2)
  ⟨low * scale, 4 * mantissa * scale, (4 * mantissa + 2) * scale, den, mantissa % 2 == 0⟩

def onGrid (w : Window) (k : Int) : Window :=
  if 0 ≤ k then { w with den := w.den * tenTo k.toNat }
  else
    let s := tenTo (-k).toNat
    { w with low := w.low * s, middle := w.middle * s, high := w.high * s }

def holds (w : Window) (d : Nat) : Bool :=
  if w.closed then decide (w.low ≤ d * w.den) && decide (d * w.den ≤ w.high)
  else decide (w.low < d * w.den) && decide (d * w.den < w.high)

/-- Of the two whole numbers beside the middle that lie in the window the nearer, and of two
equally near the even one. -/
def whole? (w : Window) : Option Nat :=
  let d := w.middle / w.den
  match w.holds d, w.holds (d + 1) with
  | false, false => none
  | true, false => some d
  | false, true => some (d + 1)
  | true, true =>
    let below := w.middle - d * w.den
    let above := (d + 1) * w.den - w.middle
    if below < above ∨ (below = above ∧ d % 2 = 0) then some d else some (d + 1)

end Window

namespace Decimal

def search (w : Window) (top : Int) : Nat → Nat → Decimal
  | 0, count => ⟨(w.onGrid (top - count)).middle / (w.onGrid (top - count)).den, top - count⟩
  | fuel + 1, count =>
    match (w.onGrid (top - count)).whole? with
    | some d => strip d (top - count)
    | none => search w top fuel (count + 1)

/-- Seventeen digits always suffice. -/
def shortest (mantissa : Nat) (exponent : Int) : Decimal :=
  let w := Window.around mantissa exponent
  search w (magnitude w.middle w.den) 17 0

end Decimal

end TableSeeder
