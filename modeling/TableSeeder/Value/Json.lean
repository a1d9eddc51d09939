import TableSeeder.Value.Shown

/-! JSON text of values: ASCII only, members in order, a comma and a colon followed by a space. -/

namespace TableSeeder

namespace Json

def unit (n : Nat) : List Char := '\\' :: 'u' :: hexDigits 4 n

/-- Code points beyond the basic plane take two code units. -/
def escape (n : Nat) : List Char :=
  if n = '"'.toNat then ['\\', '"']
  else if n = '\\'.toNat then ['\\', '\\']
  else if n = '\n'.toNat then ['\\', 'n']
  else if n = '\r'.toNat then ['\\', 'r']
  else if n = '\t'.toNat then ['\\', 't']
  else if n = 0x0c then ['\\', 'f']
  else if n = 0x08 then ['\\', 'b']
  else if 0x20 ≤ n ∧ n < 0x7f then [Char.ofNat n]
  else if n < 0x10000 then unit n
  else
    let m := n - 0x10000
    unit (0xd800 + m / 0x400) ++ unit (0xdc00 + m % 0x400)

def text (ps : Points) : List Char := '"' :: (ps.flatMap (fun p => escape p.number) ++ ['"'])

def number : Binary → List Char
  | .nan => "NaN".toList
  | .infinite negative => (if negative then "-" else "").toList ++ "Infinity".toList
  | b => b.plain

variable {τ : Type} [Textual τ]

mutual

/-- Bytes have no JSON form of their own: their literal stands as a text. -/
def write : Value τ → List Char
  | .null => "null".toList
  | .bool true => "true".toList
  | .bool false => "false".toList
  | .int n => (toString n).toList
  | .float x => number (Binary.ofFloat x)
  | .text s => text (Textual.points s)
  | .bytes bs => text (.ofChars (Quoted.bytes bs))
  | .list vs => '[' :: (writeItems vs ++ [']'])
  | .object ms => '{' :: (writeMembers ms ++ ['}'])

def writeItems : List (Value τ) → List Char
  | [] => []
  | v :: vs => write v ++ writeMoreItems vs

def writeMoreItems : List (Value τ) → List Char
  | [] => []
  | v :: vs => ',' :: ' ' :: (write v ++ writeMoreItems vs)

def writeMembers : List (τ × Value τ) → List Char
  | [] => []
  | (k, v) :: ms =>
    text (Textual.points k) ++ ':' :: ' ' :: (write v ++ writeMoreMembers ms)

def writeMoreMembers : List (τ × Value τ) → List Char
  | [] => []
  | (k, v) :: ms =>
    ',' :: ' ' :: (text (Textual.points k) ++ ':' :: ' ' :: (write v ++ writeMoreMembers ms))

end

def render (v : Value τ) : String := String.ofList (write v)

def object (ms : Members (List Char) Points) : List Char :=
  let members := ms.map fun m => text m.1 ++ ':' :: ' ' :: m.2
  '{' :: (List.intercalate [',', ' '] members ++ ['}'])

def renderLines (ms : Members Value) : String :=
  let line := fun (m : String × Value) => "  " ++ String.ofList (text m.1) ++ ": " ++ render m.2
  "\x7b\n" ++ String.intercalate ",\n" (ms.map line) ++ "\n\x7d"

end Json

end TableSeeder
