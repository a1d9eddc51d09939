import TableSeeder.Number.Rounded
import TableSeeder.Text.Template.Directive
import TableSeeder.Value.Shown

/-! Message templates: text with percent directives that are filled from arguments. -/

namespace TableSeeder

namespace Template

inductive Error where
  | mappingRequired
  | openKey
  | missingKey (key : Points)
  | notIndex (type : String)
  | starNotInt
  | hugeWidth
  | hugePrecision
  | hugeStarWidth
  | hugeStarPrecision
  | incomplete
  | tooFewArguments
  | tooManyArguments
  | unsupported (p : CodePoint) (index : Nat)
  | notNumber (c : Char) (type : String)
  | notInteger (c : Char) (type : String)
  | notReal (type : String)
  | notCharacter
  | characterRange
  | wholeNaN
  | wholeInfinity
  | hugeInt
  deriving DecidableEq

def Error.title : Error → String
  | missingKey _ => "KeyError"
  | openKey | hugeWidth | hugePrecision | incomplete | unsupported _ _ | wholeNaN => "ValueError"
  | hugeStarWidth | hugeStarPrecision | characterRange | wholeInfinity | hugeInt => "OverflowError"
  | _ => "TypeError"

def Error.message : Error → String
  | mappingRequired => "format requires a mapping"
  | openKey => "incomplete format key"
  | missingKey key => String.ofList (Quoted.text key)
  | notIndex type => type ++ " indices must be integers or slices, not str"
  | starNotInt => "* wants int"
  | hugeWidth => "width too big"
  | hugePrecision => "precision too big"
  | hugeStarWidth => "Python int too large to convert to C ssize_t"
  | hugeStarPrecision => "Python int too large to convert to C int"
  | incomplete => "incomplete format"
  | tooFewArguments => "not enough arguments for format string"
  | tooManyArguments => "not all arguments converted during string formatting"
  | unsupported p index =>
    let n := p.number
    let shown := if 31 ≤ n ∧ n ≤ 126 then Char.ofNat n else '?'
    "unsupported format character '" ++ shown.toString ++ "' (0x" ++
      String.ofList (Nat.toDigits 16 n) ++ ") at index " ++ toString index
  | notNumber c type =>
    "%" ++ c.toString ++ " format: a real number is required, not " ++ type
  | notInteger c type => "%" ++ c.toString ++ " format: an integer is required, not " ++ type
  | notReal type => "must be real number, not " ++ type
  | notCharacter => "%c requires int or char"
  | characterRange => "%c arg not in range(0x110000)"
  | wholeNaN => "cannot convert float NaN to integer"
  | wholeInfinity => "cannot convert float infinity to integer"
  | hugeInt => "int too large to convert to float"

end Template

/-- What a template is filled from: several arguments in turn, or one value that may also serve
as a mapping. -/
inductive Arguments where
  | several (vs : List (Value Points))
  | one (v : Value Points)

namespace Template

structure Supply where
  remaining : List (Value Points)
  mapping : Option (Value Points)

def Supply.ofArguments : Arguments → Supply
  | .several vs => ⟨vs, none⟩
  | .one (.text s) => ⟨[.text s], none⟩
  | .one v => ⟨[v], if v.length?.isSome then some v else none⟩

def Supply.next (s : Supply) : Except Error (Value Points × Supply) :=
  match s.remaining with
  | [] => .error .tooFewArguments
  | v :: rest => .ok (v, { s with remaining := rest })

/-- A keyed directive is filled from the member of that name alone. -/
def Supply.select (s : Supply) (key : Key) : Except Error Supply :=
  match s.mapping, key with
  | none, _ => .error .mappingRequired
  | some _, .unclosed => .error .openKey
  | some (.object ms), .closed key =>
    match Members.get? ms key with
    | some v => .ok { s with remaining := [v] }
    | none => .error (.missingKey key)
  | some (.bytes _), .closed _ => .error (.notIndex "byte")
  | some v, .closed _ => .error (.notIndex v.typeName)

def Supply.nextInt (s : Supply) : Except Error (Int × Supply) := do
  let (v, s) ← s.next
  match v with
  | .int n => return (n, s)
  | .bool b => return (if b then 1 else 0, s)
  | _ => throw .starNotInt

/-- Sign and marker, then the body; numbers may be filled with zeros between the two. -/
structure Field where
  head : List Char
  body : Points
  numeric : Bool

def Field.layout (f : Field) (flags : Flags) (width : Nat) : Points :=
  let pad := width - (f.head.length + f.body.length)
  let head := Points.ofChars f.head
  let filler := fun c => List.replicate pad (.char c)
  if flags.left then head ++ f.body ++ filler ' '
  else if flags.zero && f.numeric then head ++ filler '0' ++ f.body
  else filler ' ' ++ head ++ f.body

def numberField (head body : List Char) : Field := ⟨head, .ofChars body, true⟩

def characterField (p : CodePoint) : Field := ⟨[], [p], false⟩

def signOf (flags : Flags) (negative : Bool) : List Char :=
  if negative then ['-'] else if flags.plus then ['+'] else if flags.space then [' '] else []

def upper (cs : List Char) : List Char := cs.map Char.toUpper

def wholeBody (base : Nat) (n : Nat) (precision : Option Nat) : List Char :=
  let ds := Nat.toDigits base n
  List.replicate (precision.getD 0 - ds.length) '0' ++ ds

def wholeField (c : Char) (flags : Flags) (precision : Option Nat) (n : Int) : Field :=
  let sign := signOf flags (n < 0)
  let marked := fun marker => if flags.alternate then sign ++ ['0', marker] else sign
  match c with
  | 'o' => numberField (marked 'o') (wholeBody 8 n.natAbs precision)
  | 'x' => numberField (marked 'x') (wholeBody 16 n.natAbs precision)
  | 'X' => numberField (marked 'X') (upper (wholeBody 16 n.natAbs precision))
  | _ => numberField sign (wholeBody 10 n.natAbs precision)

def wholeOf (c : Char) : Value Points → Except Error Int
  | .int n => .ok n
  | .bool b => .ok (if b then 1 else 0)
  | .float x =>
    if c = 'o' ∨ c = 'x' ∨ c = 'X' then .error (.notInteger c "float")
    else match Binary.ofFloat x with
      | .nan => .error .wholeNaN
      | .infinite _ => .error .wholeInfinity
      | .finite negative m e => .ok (Binary.truncated negative m e)
  | v =>
    if c = 'o' ∨ c = 'x' ∨ c = 'X' then .error (.notInteger c v.typeName)
    else .error (.notNumber c v.typeName)

def realOf : Value Points → Except Error Binary
  | .float x => .ok (Binary.ofFloat x)
  | .bool b => .ok (Binary.ofFloat (if b then 1.0 else 0.0))
  | .int n =>
    match Binary.ofFloat (Float.ofInt n) with
    | .infinite _ => .error .hugeInt
    | b => .ok b
  | v => .error (.notReal v.typeName)

def realBody (c : Char) (alternate : Bool) (precision m : Nat) (e : Int) : List Char :=
  if c = 'e' ∨ c = 'E' then Binary.exponentText m e precision alternate
  else if c = 'f' ∨ c = 'F' then Binary.fixedText m e precision alternate
  else Binary.generalText m e precision alternate

def realField (c : Char) (flags : Flags) (precision : Option Nat) (b : Binary) : Field :=
  let (negative, body) := match b with
    | .nan => (false, "nan".toList)
    | .infinite negative => (negative, "inf".toList)
    | .finite negative m e => (negative, realBody c flags.alternate (precision.getD 6) m e)
  numberField (signOf flags negative) (if c.isUpper then upper body else body)

def textField (precision : Option Nat) (ps : Points) : Field :=
  ⟨[], match precision with | some n => ps.take n | none => ps, false⟩

def pointOf : Value Points → Except Error CodePoint
  | .text [p] => .ok p
  | .int n => if 0 ≤ n ∧ n < 0x110000 then .ok (.ofNumber n.toNat) else .error .characterRange
  | .bool b => .ok (.ofNumber (if b then 1 else 0))
  | _ => .error .notCharacter

def convert (p : CodePoint) (index : Nat) (flags : Flags) (precision : Option Nat)
    (v : Value Points) : Except Error Field :=
  match p with
  | .surrogate _ => .error (.unsupported p index)
  | .char c =>
    if c = 's' then .ok (textField precision v.points)
    else if c = 'r' then .ok (textField precision (.ofChars (v.literal Quoted.text)))
    else if c = 'a' then .ok (textField precision (.ofChars (v.literal Quoted.asciiText)))
    else if c = 'c' then (pointOf v).map characterField
    else if "diuoxX".toList.contains c then (wholeOf c v).map (wholeField c flags precision)
    else if "eEfFgG".toList.contains c then (realOf v).map (realField c flags precision)
    else .error (.unsupported p index)

/-- A negative width turns the field to the left. -/
def Supply.width (s : Supply) (flags : Flags) : Option Count →
    Except Error (Flags × Nat × Supply)
  | none => .ok (flags, 0, s)
  | some (.given n) => if twoTo 63 ≤ n then .error .hugeWidth else .ok (flags, n, s)
  | some .star => do
    let (n, s) ← s.nextInt
    if twoTo 63 ≤ n.natAbs then throw .hugeStarWidth
    return ({ flags with left := flags.left || n < 0 }, n.natAbs, s)

def Supply.precision (s : Supply) : Option Count → Except Error (Option Nat × Supply)
  | none => .ok (none, s)
  | some (.given n) => if twoTo 31 ≤ n then .error .hugePrecision else .ok (some n, s)
  | some .star => do
    let (n, s) ← s.nextInt
    if twoTo 31 ≤ n.natAbs then throw .hugeStarPrecision
    return (some n.toNat, s)

def fill (total : Nat) (d : Directive) (s : Supply) : Except Error (Points × Supply) := do
  let s ← match d.key with
    | none => pure s
    | some key => s.select key
  let (flags, width, s) ← s.width d.flags d.width
  let (precision, s) ← s.precision d.precision
  match d.conversion with
  | none => throw .incomplete
  | some p =>
    let (v, s) ← s.next
    let field ← convert p (total - d.left - 1) flags precision v
    return (field.layout flags width, s)

def fillAll (total : Nat) : List Piece → Supply → Except Error (Points × Supply)
  | [], s => .ok ([], s)
  | .plain p :: rest, s => do
    let (out, s) ← fillAll total rest s
    return (p :: out, s)
  | .directive d :: rest, s => do
    let (text, s) ← fill total d s
    let (out, s) ← fillAll total rest s
    return (text ++ out, s)

/-- Arguments left over are an error unless they served as a mapping. -/
def render (template : Points) (args : Arguments) : Except Error Points := do
  let (out, s) ← fillAll template.length (pieces template) (Supply.ofArguments args)
  if s.remaining.isEmpty || s.mapping.isSome then return out else throw .tooManyArguments

end Template

end TableSeeder
