import TableSeeder.Number.Reading

/-! A strict reader of JSON texts. Members keep their order, texts are code points, and numbers are
exact. Nothing in it knows how values are written here. -/

namespace TableSeeder

abbrev Codes := List Nat

namespace Codes

def isHigh (n : Nat) : Bool := 0xd800 ≤ n && n < 0xdc00

def isLow (n : Nat) : Bool := 0xdc00 ≤ n && n < 0xe000

def ofPair (high low : Nat) : Nat := 0x10000 + (high - 0xd800) * 0x400 + (low - 0xdc00)

/-- Every pair of surrogates becomes the code point that it stands for. -/
def joined : Codes → Codes
  | high :: low :: rest =>
    if isHigh high && isLow low then ofPair high low :: joined rest
    else high :: joined (low :: rest)
  | ns => ns

end Codes

namespace Json

inductive Tree where
  | null
  | bool (b : Bool)
  | int (n : Int)
  /-- `digits · 10 ^ scale`, perhaps negated. -/
  | decimal (negative : Bool) (digits : Nat) (scale : Int)
  | text (ns : Codes)
  | list (ts : List Tree)
  | object (ms : List (Codes × Tree))

section Texts

def digit? (c : Char) : Option Nat := hexValue? c.toLower

def unit? : List Char → Option Nat
  | [a, b, c, d] =>
    match digit? a, digit? b, digit? c, digit? d with
    | some a, some b, some c, some d => some (((a * 16 + b) * 16 + c) * 16 + d)
    | _, _, _, _ => none
  | _ => none

def simple? : Char → Option Nat
  | '"' => some 0x22
  | '\\' => some 0x5c
  | '/' => some 0x2f
  | 'b' => some 0x08
  | 'f' => some 0x0c
  | 'n' => some 0x0a
  | 'r' => some 0x0d
  | 't' => some 0x09
  | _ => none

/-- A text up to the quote that closes it, and what follows; surrogates are still apart. -/
def readUnits : List Char → Option (Codes × List Char)
  | '"' :: rest => some ([], rest)
  | '\\' :: 'u' :: a :: b :: c :: d :: rest =>
    match unit? [a, b, c, d], readUnits rest with
    | some n, some (ns, rest) => some (n :: ns, rest)
    | _, _ => none
  | '\\' :: c :: rest =>
    match simple? c, readUnits rest with
    | some n, some (ns, rest) => some (n :: ns, rest)
    | _, _ => none
  | c :: rest =>
    if c.toNat < 0x20 then none
    else (readUnits rest).map fun (ns, rest) => (c.toNat :: ns, rest)
  | [] => none

def readText (cs : List Char) : Option (Codes × List Char) :=
  (readUnits cs).map fun (ns, rest) => (ns.joined, rest)

end Texts

section Scalars

def whole? (cs : List Char) : Option (List Nat) :=
  (Reading.digits? cs).bind fun ds => if ds.head? = some 0 ∧ 1 < ds.length then none else some ds

def number? (cs : List Char) : Option Tree :=
  let (negative, size) := Reading.minus cs
  let (mantissa, tail) := Reading.cut Reading.isExponentMark size
  let (before, after) := Reading.cut Reading.isPoint mantissa
  match whole? before, after, tail with
  | none, _, _ => none
  | some ds, none, none =>
    let n := Reading.number ds
    if Reading.digitLimit < ds.length then none
    else some (.int (if negative then -(n : Int) else n))
  | some ds, after, tail =>
    match after.elim (some []) Reading.digits?, tail.elim (some 0) Reading.exponent? with
    | some fs, some e => some (.decimal negative (Reading.number (ds ++ fs)) (e - fs.length))
    | _, _ => none

def scalar? (cs : List Char) : Option Tree :=
  if cs = "null".toList then some .null
  else if cs = "true".toList then some (.bool true)
  else if cs = "false".toList then some (.bool false)
  else number? cs

def isWord (c : Char) : Bool :=
  c.isDigit || ('a' ≤ c && c ≤ 'z') || ('A' ≤ c && c ≤ 'Z') || c == '-' || c == '+' || c == '.'

end Scalars

def isBlank (c : Char) : Bool := c == ' ' || c == '\t' || c == '\n' || c == '\r'

def skip (cs : List Char) : List Char := cs.dropWhile isBlank

def mark? (c : Char) (cs : List Char) : Option (List Char) :=
  if (skip cs).head? = some c then some (skip cs).tail else none

def readName (cs : List Char) : Option (Codes × List Char) :=
  ((mark? '"' cs).bind readText).bind fun (k, rest) => (mark? ':' rest).map fun rest => (k, rest)

mutual

/-- A value and what follows it. Every call takes from the fuel, and no more than two take none of
the text. -/
def readValue : Nat → List Char → Option (Tree × List Char)
  | 0, _ => none
  | fuel + 1, cs =>
    match skip cs with
    | '"' :: rest => (readText rest).map fun (ns, rest) => (.text ns, rest)
    | '[' :: rest =>
      (mark? ']' rest).elim ((readItems fuel rest).map fun (ts, rest) => (.list ts, rest))
        fun rest => some (.list [], rest)
    | '{' :: rest =>
      (mark? '}' rest).elim ((readMembers fuel rest).map fun (ms, rest) => (.object ms, rest))
        fun rest => some (.object [], rest)
    | cs => (scalar? (cs.takeWhile isWord)).map fun t => (t, cs.dropWhile isWord)

def readItems : Nat → List Char → Option (List Tree × List Char)
  | 0, _ => none
  | fuel + 1, cs =>
    (readValue fuel cs).bind fun (t, rest) =>
      (mark? ']' rest).elim
        ((mark? ',' rest).bind fun rest =>
          (readItems fuel rest).map fun (ts, rest) => (t :: ts, rest))
        fun rest => some ([t], rest)

def readMembers : Nat → List Char → Option (List (Codes × Tree) × List Char)
  | 0, _ => none
  | fuel + 1, cs =>
    (readName cs).bind fun (k, rest) =>
      (readValue fuel rest).bind fun (t, rest) =>
        (mark? '}' rest).elim
          ((mark? ',' rest).bind fun rest =>
            (readMembers fuel rest).map fun (ms, rest) => ((k, t) :: ms, rest))
          fun rest => some ([(k, t)], rest)

end

def read (cs : List Char) : Option Tree :=
  match readValue (2 * cs.length) cs with
  | some (t, rest) => if skip rest = [] then some t else none
  | none => none

end Json

end TableSeeder
