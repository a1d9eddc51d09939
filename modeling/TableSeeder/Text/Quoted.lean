import TableSeeder.Text.Characters
import TableSeeder.Text.Printable

/-! Quoted literals: a text or byte string between quotes, with everything unprintable escaped. -/

namespace TableSeeder

namespace Quoted

def single : Char := '\x27'
def double : Char := '\x22'

/-- Single quotes, unless only double ones save an escape. -/
def delimiter (ps : Points) : Char :=
  if ps.contains (.char single) && !ps.contains (.char double) then double else single

def escapeCode (n : Nat) : List Char :=
  if n < 0x100 then '\\' :: 'x' :: hexDigits 2 n
  else if n < 0x10000 then '\\' :: 'u' :: hexDigits 4 n
  else '\\' :: 'U' :: hexDigits 8 n

def escape (shown : Char → Bool) (quote : Char) : CodePoint → List Char
  | .surrogate n => escapeCode (CodePoint.surrogate n).number
  | .char c =>
    if c = quote ∨ c = '\\' then ['\\', c]
    else if c = '\n' then ['\\', 'n']
    else if c = '\r' then ['\\', 'r']
    else if c = '\t' then ['\\', 't']
    else if shown c then [c]
    else escapeCode c.toNat

def isAsciiPrintable (c : Char) : Bool := 0x20 ≤ c.toNat && c.toNat < 0x7f

def withQuotes (shown : Char → Bool) (ps : Points) : List Char :=
  let quote := delimiter ps
  quote :: (ps.flatMap (escape shown quote) ++ [quote])

def text (ps : Points) : List Char :=
  withQuotes (fun c => if c.toNat < 0x7f then isAsciiPrintable c else isPrintable c) ps

def asciiText (ps : Points) : List Char := withQuotes isAsciiPrintable ps

def bytes (bs : List UInt8) : List Char :=
  'b' :: withQuotes isAsciiPrintable (bs.map fun b => .char (Char.ofNat b.toNat))

def isControl (c : Char) : Bool := c.toNat < 0x20 || (0x7f ≤ c.toNat && c.toNat < 0xa0)

end Quoted

def withoutControls (s : String) : String :=
  String.ofList (s.toList.flatMap fun c =>
    if Quoted.isControl c then Quoted.escapeCode c.toNat else [c])

def quoted (s : String) : String := String.ofList (Quoted.text s)

end TableSeeder
