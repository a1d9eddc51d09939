import TableSeeder.Number.Plain

/-! Binary numbers in a given number of decimal places, half going to the even neighbour. -/

namespace TableSeeder

/-- `num / den` to the nearest whole number, a half to the even one. -/
def roundHalfEven (num den : Nat) : Nat :=
  let q := num / den
  let r := num % den
  if den < 2 * r ∨ (2 * r = den ∧ q % 2 = 1) then q + 1 else q

namespace Binary

def scaledRatio (mantissa : Nat) (exponent k : Int) : Nat × Nat :=
  let (num, den) := ratio mantissa exponent
  if 0 ≤ k then (num * tenTo k.toNat, den) else (num, den * tenTo (-k).toNat)

def padded (ds : List Char) (width : Nat) : List Char := Decimal.zeros (width - ds.length) ++ ds

def pointed (whole fraction : List Char) (keepPoint : Bool) : List Char :=
  if fraction.isEmpty && !keepPoint then whole else whole ++ '.' :: fraction

def fixed (mantissa : Nat) (exponent : Int) (places : Nat) : List Char × List Char :=
  let (num, den) := scaledRatio mantissa exponent places
  let ds := padded (Nat.repr (roundHalfEven num den)).toList (places + 1)
  (ds.take (ds.length - places), ds.drop (ds.length - places))

def leading (mantissa : Nat) (exponent : Int) (places : Nat) : List Char × Int :=
  if mantissa = 0 then (Decimal.zeros (places + 1), 0)
  else
    let (num, den) := ratio mantissa exponent
    let top := Decimal.magnitude num den
    let (n, d) := scaledRatio mantissa exponent (places - top)
    let ds := (Nat.repr (roundHalfEven n d)).toList
    if ds.length = places + 2 then (ds.take (places + 1), top + 1) else (ds, top)

def dropZeros (ds : List Char) : List Char := (ds.reverse.dropWhile (· == '0')).reverse

def fixedText (mantissa : Nat) (exponent : Int) (places : Nat) (keepPoint : Bool) : List Char :=
  let (whole, fraction) := fixed mantissa exponent places
  pointed whole fraction keepPoint

def exponentText (mantissa : Nat) (exponent : Int) (places : Nat) (keepPoint : Bool) :
    List Char :=
  let (ds, e) := leading mantissa exponent places
  pointed (ds.take 1) (ds.drop 1) keepPoint ++ Decimal.exponentMark 'e' e

/-- `g`: positional from four places after the point up to the given number of digits, and
without trailing zeros unless the point is kept. -/
def generalText (mantissa : Nat) (exponent : Int) (digits : Nat) (keepPoint : Bool) :
    List Char :=
  let digits := max digits 1
  let (ds, e) := leading mantissa exponent (digits - 1)
  let trim := fun fraction => if keepPoint then fraction else dropZeros fraction
  if Decimal.positionalFrom ≤ e ∧ e < digits then
    let (whole, fraction) := fixed mantissa exponent (digits - 1 - e).toNat
    pointed whole (trim fraction) keepPoint
  else pointed (ds.take 1) (trim (ds.drop 1)) keepPoint ++ Decimal.exponentMark 'e' e

end Binary

end TableSeeder
