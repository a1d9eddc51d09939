import TableSeeder.Text.Characters

/-! Numbers read from text: whole numbers of any size and decimals rounded to binary64. -/

namespace TableSeeder

namespace Reading

def digitValue (c : Char) : Nat := c.toNat - '0'.toNat

def digits? (cs : List Char) : Option (List Nat) :=
  if !cs.isEmpty && cs.all Char.isDigit then some (cs.map digitValue) else none

def number (ds : List Nat) : Nat := ds.foldl (fun n d => 10 * n + d) 0

def signed : List Char → Bool × List Char
  | '-' :: rest => (true, rest)
  | '+' :: rest => (false, rest)
  | cs => (false, cs)

def cut (p : Char → Bool) : List Char → List Char × Option (List Char)
  | [] => ([], none)
  | c :: rest =>
    if p c then ([], some rest)
    else
      let (before, after) := cut p rest
      (c :: before, after)

def isPoint (c : Char) : Bool := c == '.'
def isExponentMark (c : Char) : Bool := c == 'e' || c == 'E'

def isUnderscore (c : Char) : Bool := c == '_'

def hasDoubled (p : Char → Bool) : List Char → Bool
  | c :: d :: rest => (p c && p d) || hasDoubled p (d :: rest)
  | _ => false

/-- A text without its underscores, provided that it has some and each of them stands alone
between two other characters. -/
def joined? (cs : List Char) : Option (List Char) :=
  if cs.any isUnderscore && !cs.head?.any isUnderscore && !cs.getLast?.any isUnderscore &&
      !hasDoubled isUnderscore cs then
    some (cs.filter fun c => !isUnderscore c)
  else none

end Reading

inductive WholeError where
  | malformed
  | tooLong
  deriving DecidableEq

namespace Reading

def digitLimit : Nat := 4300

def minus : List Char → Bool × List Char
  | '-' :: rest => (true, rest)
  | cs => (false, cs)

/-- An optional minus sign and digits, of which the first is not a zero unless it is the only one.
Sign and digits are counted; where there are too many it does not matter what follows. -/
def literal (cs : List Char) : Except WholeError Int :=
  let (negative, body) := minus cs
  let ds := body.takeWhile Char.isDigit
  if ds.head? = some '0' ∧ 1 < ds.length then .error .malformed
  else if digitLimit < cs.length - body.length + ds.length then .error .tooLong
  else if ds = [] ∨ ds.length < body.length then .error .malformed
  else
    let n := number (ds.map digitValue)
    .ok (if negative then -(n : Int) else n)

def leads (c : Char) : Bool := c.isDigit || c == '-'

/-- What follows a beginning of zeros and underscores, of which `last` is the last one read. Before
a point it is kept, and also where nothing follows. -/
def afterZeros (last : Char) : List Char → Option (List Char)
  | [] => some [last]
  | c :: rest =>
    if c = '0' ∨ c = '_' then afterZeros c rest
    else if c = '.' then some (last :: c :: rest)
    else if leads c then some (c :: rest)
    else none

def dropZeros : List Char → Option (List Char)
  | [] => none
  | c :: rest =>
    if c = '0' then afterZeros c rest else if leads c then some (c :: rest) else none

def dropFraction (cs : List Char) : List Char :=
  match cut isPoint cs with
  | (before, some after) => if after ≠ [] ∧ after.all (· == '0') then before else cs
  | (_, none) => cs

def withoutLeadingZeros (cs : List Char) : Option (List Char) :=
  match cs with
  | '+' :: '-' :: _ => none
  | '+' :: rest => dropZeros rest
  | '-' :: rest => (dropZeros rest).map ('-' :: ·)
  | cs => dropZeros cs

/-- The text without blanks around it, a plus sign, zeros in front, a fraction of zeros, and
underscores. -/
def cleaned? (cs : List Char) : Option (List Char) :=
  (withoutLeadingZeros (trim isBlank cs)).map fun body =>
    let body := dropFraction body
    (joined? body).getD body

/-- A text that is no literal is cleaned and given a second chance. -/
def whole (cs : List Char) : Except WholeError Int :=
  match literal cs, cleaned? cs with
  | .error .malformed, some body => literal body
  | outcome, _ => outcome

def significand? (cs : List Char) : Option (List Nat × List Nat) :=
  match cut isPoint cs with
  | (before, none) => (digits? before).map (·, [])
  | ([], some after) => (digits? after).map ([], ·)
  | (before, some []) => (digits? before).map (·, [])
  | (before, some after) =>
    match digits? before, digits? after with
    | some ds, some fs => some (ds, fs)
    | _, _ => none

def exponent? (cs : List Char) : Option Int :=
  let (negative, body) := signed cs
  (digits? body).map fun ds => if negative then -(number ds : Int) else number ds

/-- `digits · 10 ^ scale` rounded to nearest; beyond the range of the format the result is
infinite or zero. -/
def rounded (digits : Nat) (count : Nat) (scale : Int) : Float :=
  if digits = 0 ∨ scale + count < -400 then 0.0
  else if 400 < scale + count then 1.0 / 0.0
  else Float.ofScientific digits (decide (scale < 0)) scale.natAbs

def decimal? (cs : List Char) : Option Float :=
  let (body, tail) := cut isExponentMark cs
  match significand? body, tail.elim (some 0) exponent? with
  | some (ds, fs), some e =>
    let all := (ds ++ fs).dropWhile (· == 0)
    some (rounded (number all) all.length (e - fs.length))
  | _, _ => none

def isInfinity (cs : List Char) : Bool :=
  let lower := cs.map Char.toLower
  lower == "inf".toList || lower == "infinity".toList

def isNaN (cs : List Char) : Bool := cs.map Char.toLower == "nan".toList

def plainReal? (cs : List Char) : Option Float :=
  let (negative, body) := signed cs
  let size? :=
    if isNaN body then some (0.0 / 0.0)
    else if isInfinity body then some (1.0 / 0.0)
    else decimal? body
  size?.map fun x => if negative then -x else x

/-- Either blanks around the number or underscores in it are passed over. -/
def real? (cs : List Char) : Option Float :=
  (plainReal? (trim isBlank cs)).or ((joined? cs).bind plainReal?)

end Reading

end TableSeeder
