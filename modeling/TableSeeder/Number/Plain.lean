import TableSeeder.Number.Shortest

/-! The plain text of a binary number: positional in the middle range and with an exponent
outside it, always in the fewest digits that read back. -/

namespace TableSeeder

namespace Decimal

def positionalFrom : Int := -4
def positionalBelow : Int := 16

def zeros (n : Nat) : List Char := List.replicate n '0'

/-- The digits with the point before the place of `10 ^ -1`. -/
def positional (ds : List Char) (point : Int) : List Char :=
  if point ≤ 0 then '0' :: '.' :: (zeros (-point).toNat ++ ds)
  else if ds.length ≤ point.toNat then ds ++ zeros (point.toNat - ds.length) ++ ['.', '0']
  else ds.take point.toNat ++ '.' :: ds.drop point.toNat

def exponentMark (mark : Char) (e : Int) : List Char :=
  let ds := (Nat.repr e.natAbs).toList
  mark :: (if e < 0 then '-' else '+') :: (zeros (2 - ds.length) ++ ds)

def scientific (ds : List Char) (e : Int) : List Char :=
  let body := match ds with
    | [] => []
    | [d] => [d]
    | d :: rest => d :: '.' :: rest
  body ++ exponentMark 'e' e

def plain (d : Decimal) : List Char :=
  let ds := (Nat.repr d.digits).toList
  let top : Int := d.scale + ds.length - 1
  if positionalFrom ≤ top ∧ top < positionalBelow then positional ds (top + 1)
  else scientific ds top

end Decimal

namespace Binary

def plain : Binary → List Char
  | nan => "nan".toList
  | infinite negative => (if negative then "-" else "").toList ++ "inf".toList
  | finite negative mantissa exponent =>
    (if negative then "-" else "").toList ++
      if mantissa = 0 then "0.0".toList else (Decimal.shortest mantissa exponent).plain

end Binary

def plainNumber (x : Float) : String := String.ofList (Binary.ofFloat x).plain

end TableSeeder
