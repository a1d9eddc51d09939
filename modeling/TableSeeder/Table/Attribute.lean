import TableSeeder.Failure
import TableSeeder.Number.Rounded

/-! Typed attribute values: the form in which a table stores a value. -/

namespace TableSeeder

inductive Attribute where
  | null
  | bool (b : Bool)
  | number (decimal : String)
  | text (s : String)
  | bytes (bs : List UInt8)
  | list (as : List Attribute)
  | map (ms : List (String × Attribute))
  deriving Inhabited

namespace Attribute

def maxDigits : Nat := 38

def maxExponent : Nat := 126

/-- Digits beyond the limit must not be dropped, not even zeros. What is reported depends on the
number rounded to the limit: whether it is out of range, and whether it has changed. -/
def ofInt (n : Int) : Except Unstorable Attribute :=
  let count := (Nat.repr n.natAbs).length
  if count ≤ maxDigits then .ok (number (toString n))
  else
    let unit := tenTo (count - maxDigits)
    let kept := roundHalfEven n.natAbs unit
    if maxExponent < count - 1 ∨ (maxExponent < count ∧ kept = tenTo maxDigits) then
      .error .overflow
    else if n.natAbs % unit ≠ 0 then .error .inexact
    else .error .rounded

mutual

def ofValue : Value → Except Unstorable Attribute
  | .null => .ok null
  | .bool b => .ok (bool b)
  | .int n => ofInt n
  | .float _ => .error .float
  | .text s => .ok (text s)
  | .bytes bs => .ok (bytes bs)
  | .list vs =>
    match ofValues vs with
    | .ok as => .ok (list as)
    | .error e => .error e
  | .object ms =>
    match ofMembers ms with
    | .ok as => .ok (map as)
    | .error e => .error e

/-- The first value that cannot be stored is reported. -/
def ofValues : List Value → Except Unstorable (List Attribute)
  | [] => .ok []
  | v :: vs =>
    match ofValue v with
    | .error e => .error e
    | .ok a =>
      match ofValues vs with
      | .error e => .error e
      | .ok as => .ok (a :: as)

def ofMembers : List (String × Value) → Except Unstorable (List (String × Attribute))
  | [] => .ok []
  | (k, v) :: ms =>
    match ofValue v with
    | .error e => .error e
    | .ok a =>
      match ofMembers ms with
      | .error e => .error e
      | .ok as => .ok ((k, a) :: as)

end

end Attribute

abbrev Row := Members Attribute

end TableSeeder
