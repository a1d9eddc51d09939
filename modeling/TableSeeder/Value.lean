import TableSeeder.Members
import TableSeeder.Text.Characters

/-! Dynamic values: what a reply carries, a log field holds and a table attribute stores. -/

namespace TableSeeder

/-- A value with texts of some form; records of the log have theirs in code points. -/
inductive Value (τ : Type := String) where
  | null
  | bool (b : Bool)
  | int (n : Int)
  | float (x : Float)
  | text (s : τ)
  | bytes (bs : List UInt8)
  | list (vs : List (Value τ))
  | object (ms : List (τ × Value τ))
  deriving Inhabited

namespace Value

variable {τ κ : Type}

mutual

def map (f : τ → κ) : Value τ → Value κ
  | null => null
  | bool b => bool b
  | int n => int n
  | float x => float x
  | text s => text (f s)
  | bytes bs => bytes bs
  | list vs => list (mapAll f vs)
  | object ms => object (mapMembers f ms)

def mapAll (f : τ → κ) : List (Value τ) → List (Value κ)
  | [] => []
  | v :: vs => map f v :: mapAll f vs

def mapMembers (f : τ → κ) : List (τ × Value τ) → List (κ × Value κ)
  | [] => []
  | (k, v) :: ms => (f k, map f v) :: mapMembers f ms

end

/-- Null, false, zeros and everything empty are false. -/
def truthy [Textual τ] : Value τ → Bool
  | null => false
  | bool b => b
  | int n => n ≠ 0
  | float x => x != 0.0
  | text s => !(Textual.points s).isEmpty
  | bytes bs => !bs.isEmpty
  | list vs => !vs.isEmpty
  | object ms => !ms.isEmpty

theorem truthy_text (s : String) : truthy (text s) = decide (s ≠ "") := by
  rw [Bool.eq_iff_iff]
  simp [truthy, Textual.points, Points.ofString, Points.ofChars]

def typeName : Value τ → String
  | null => "NoneType"
  | bool _ => "bool"
  | int _ => "int"
  | float _ => "float"
  | text _ => "str"
  | bytes _ => "bytes"
  | list _ => "list"
  | object _ => "dict"

def decoded? (bs : List UInt8) : Option String := String.fromUTF8? ⟨bs.toArray⟩

def length? [Textual τ] : Value τ → Option Nat
  | text s => some (Textual.points s).length
  | bytes bs => some bs.length
  | list vs => some vs.length
  | object ms => some ms.length
  | _ => none

end Value

end TableSeeder
