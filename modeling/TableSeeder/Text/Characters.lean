/-! Characters and code points: blanks, hexadecimal digits, and the surrogates, which a text may
hold though they are no characters. -/

namespace TableSeeder

section Blanks

def isBlank (c : Char) : Bool :=
  let n := c.toNat
  (9 ≤ n && n ≤ 13) || n == 0x20 || n == 0x85 || n == 0xa0 || n == 0x1680 ||
    (0x2000 ≤ n && n ≤ 0x200a) || n == 0x2028 || n == 0x2029 || n == 0x202f || n == 0x205f ||
    n == 0x3000

/-- Blank, or one of the four separators that end a file, group, record or unit. -/
def isSpacing (c : Char) : Bool := isBlank c || (0x1c ≤ c.toNat && c.toNat ≤ 0x1f)

def trimRight (p : Char → Bool) (cs : List Char) : List Char :=
  (cs.reverse.dropWhile p).reverse

def trim (p : Char → Bool) (cs : List Char) : List Char := trimRight p (cs.dropWhile p)

def lowerAscii (s : String) : String := String.ofList (s.toList.map Char.toLower)

end Blanks

section Hexadecimals

def hexDigits (width n : Nat) : List Char :=
  let ds := Nat.toDigits 16 n
  List.replicate (width - ds.length) '0' ++ ds

def hexValue? (c : Char) : Option Nat :=
  if c.isDigit then some (c.toNat - 48)
  else if 'a' ≤ c ∧ c ≤ 'f' then some (c.toNat - 87)
  else none

def hexBytes? : List Char → Option (List UInt8)
  | [] => some []
  | a :: b :: rest =>
    match hexValue? a, hexValue? b, hexBytes? rest with
    | some x, some y, some bs => some (UInt8.ofNat (16 * x + y) :: bs)
    | _, _, _ => none
  | _ => none

end Hexadecimals

/-- A code point. Surrogates are counted from the first of them. -/
inductive CodePoint where
  | char (c : Char)
  | surrogate (n : Fin 0x800)
  deriving DecidableEq

abbrev Points := List CodePoint

namespace CodePoint

def number : CodePoint → Nat
  | char c => c.toNat
  | surrogate n => 0xd800 + n.val

/-- Numbers beyond the last code point stand for the null character. -/
def ofNumber (n : Nat) : CodePoint :=
  if h : 0xd800 ≤ n ∧ n < 0xe000 then surrogate ⟨n - 0xd800, by omega⟩ else char (Char.ofNat n)

def written : CodePoint → List Char
  | char c => [c]
  | surrogate n => '\\' :: 'u' :: hexDigits 4 (surrogate n).number

end CodePoint

namespace Points

def ofChars (cs : List Char) : Points := cs.map .char

def ofString (s : String) : Points := ofChars s.toList

def render (ps : Points) : String := String.ofList (ps.flatMap CodePoint.written)

end Points

instance : Coe Char CodePoint := ⟨.char⟩

instance : Coe String Points := ⟨Points.ofString⟩

/-- A form that texts are kept in. -/
class Textual (τ : Type) where
  points : τ → Points

instance : Textual String := ⟨Points.ofString⟩

instance : Textual Points := ⟨id⟩

@[simp] theorem points_points (ps : Points) : Textual.points ps = ps := rfl

end TableSeeder
