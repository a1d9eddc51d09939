import TableSeeder.Members
import TableSeeder.Text.Characters

/-! Files of variable bindings: one `name=value` after another, with quoted values, comments, and
references to other variables. What cannot be read is skipped to the end of its line. -/

namespace TableSeeder

namespace Dotenv

abbrev Reading (α : Type) := Except (List Char) (α × List Char)

def isInline (c : Char) : Bool := isSpacing c && c != '\n' && c != '\r'

def unifyLines : List Char → List Char
  | [] => []
  | '\r' :: '\n' :: rest => '\n' :: unifyLines rest
  | '\r' :: rest => '\n' :: unifyLines rest
  | c :: rest => c :: unifyLines rest

def dropMark : List Char → List Char
  | '\ufeff' :: rest => rest
  | cs => cs

def dropExport (cs : List Char) : List Char :=
  let word := "export".toList
  if word.isPrefixOf cs then
    match cs.drop word.length with
    | c :: rest => if isInline c then rest.dropWhile isInline else cs
    | [] => cs
  else cs

def isKeyCharacter (c : Char) : Bool := c != '=' && c != '#' && !isSpacing c

def readKey (cs : List Char) : Reading (Option (List Char)) :=
  match cs with
  | '#' :: _ => .ok (none, cs)
  | '\x27' :: rest =>
    match rest.takeWhile (· != '\x27'), rest.dropWhile (· != '\x27') with
    | k :: key, _ :: after => .ok (some (k :: key), after)
    | _, _ => .error cs
  | _ =>
    match cs.takeWhile isKeyCharacter with
    | [] => .error cs
    | key => .ok (some key, cs.dropWhile isKeyCharacter)

/-- Up to the quote that closes the value. A backslash takes the next character along, whatever it
is. -/
def quotedValue? (quote : Char) : List Char → Option (List Char × List Char)
  | [] => none
  | '\\' :: c :: rest => (quotedValue? quote rest).map fun (v, r) => ('\\' :: c :: v, r)
  | c :: rest =>
    if c = quote then some ([], rest)
    else (quotedValue? quote rest).map fun (v, r) => (c :: v, r)

def unescape (table : List (Char × Char)) : List Char → List Char
  | '\\' :: c :: rest =>
    match table.lookup c with
    | some d => d :: unescape table rest
    | none => '\\' :: unescape table (c :: rest)
  | c :: rest => c :: unescape table rest
  | [] => []

def singleEscapes : List (Char × Char) := [('\\', '\\'), ('\x27', '\x27')]

def doubleEscapes : List (Char × Char) :=
  singleEscapes ++ [('"', '"'), ('a', '\x07'), ('b', '\x08'), ('f', '\x0c'), ('n', '\n'),
    ('r', '\r'), ('t', '\t'), ('v', '\x0b')]

def cutComment : List Char → List Char
  | [] => []
  | c :: rest =>
    if isSpacing c && (rest.dropWhile isSpacing).head? == some '#' then []
    else c :: cutComment rest

def isNewline (c : Char) : Bool := c == '\n'

/-- The value after the equals sign and the blanks that follow it. A number sign after such
blanks leaves the value empty. -/
def readValue (blanks : Bool) (cs : List Char) : Reading (List Char) :=
  match cs with
  | '\x27' :: rest =>
    match quotedValue? '\x27' rest with
    | some (v, after) => .ok (unescape singleEscapes v, after)
    | none => .error cs
  | '"' :: rest =>
    match quotedValue? '"' rest with
    | some (v, after) => .ok (unescape doubleEscapes v, after)
    | none => .error cs
  | _ =>
    if blanks && cs.head? == some '#' then .ok ([], cs)
    else
      .ok (trimRight isSpacing (cutComment (cs.takeWhile fun c => !isNewline c)),
        cs.dropWhile fun c => !isNewline c)

def readOptionalValue (cs : List Char) : Reading (Option (List Char)) :=
  match cs with
  | '=' :: rest =>
    (readValue (rest.head?.any isInline) (rest.dropWhile isInline)).map fun (v, r) => (some v, r)
  | _ => .ok (none, cs)

def dropComment (cs : List Char) : List Char :=
  match cs.dropWhile isInline with
  | '#' :: rest => rest.dropWhile fun c => !isNewline c
  | _ => cs

def readLineEnd (cs : List Char) : Reading Unit :=
  match cs.dropWhile isInline with
  | [] => .ok ((), [])
  | c :: rest => if isNewline c then .ok ((), rest) else .error cs

abbrev Binding := Option (List Char) × Option (List Char)

def readBinding (cs : List Char) : Reading Binding :=
  match readKey (dropExport cs) with
  | .error stopped => .error stopped
  | .ok (key, cs) =>
    match readOptionalValue (cs.dropWhile isInline) with
    | .error stopped => .error stopped
    | .ok (value, cs) =>
      (readLineEnd (dropComment cs)).map fun (_, cs) => ((key, value), cs)

def skipLine (cs : List Char) : List Char := (cs.dropWhile fun c => !isNewline c).drop 1

inductive Statement where
  | binding (b : Binding)
  /-- One that cannot be read, as the rest of the text from the end of the statement before it. -/
  | unreadable (rest : List Char)

def readStatements : Nat → List Char → List Statement
  | 0, _ => []
  | fuel + 1, cs =>
    match cs.dropWhile isSpacing with
    | [] => []
    | c :: rest =>
      match readBinding (c :: rest) with
      | .ok (b, after) => .binding b :: readStatements fuel after
      | .error stopped => .unreadable cs :: readStatements fuel (skipLine stopped)

def textOf (s : String) : List Char := dropMark (unifyLines s.toList)

def statements (cs : List Char) : List Statement := readStatements (cs.length + 1) cs

def bindings (cs : List Char) : List (String × Option (List Char)) :=
  (statements cs).filterMap fun
    | .binding (some key, value) => some (String.ofList key, value)
    | _ => none

def lineAt (cs rest : List Char) : Nat := cs.count '\n' - rest.count '\n' + 1

def faultyLines (text : String) : List Nat :=
  let cs := textOf text
  (statements cs).filterMap fun
    | .unreadable rest => some (lineAt cs rest)
    | .binding _ => none

def reference? (cs : List Char) : Option (List Char × Option (List Char) × List Char) :=
  let name := cs.takeWhile fun c => c != '\x7d' && c != ':'
  match cs.dropWhile fun c => c != '\x7d' && c != ':' with
  | '\x7d' :: rest => some (name, none, rest)
  | ':' :: '-' :: rest =>
    match rest.dropWhile (· != '\x7d') with
    | _ :: after => some (name, some (rest.takeWhile (· != '\x7d')), after)
    | [] => none
  | _ => none

def expand (value : String → Option (List Char) → List Char) : Nat → List Char → List Char
  | 0, cs => cs
  | _, [] => []
  | fuel + 1, '$' :: '\x7b' :: rest =>
    match reference? rest with
    | some (name, fallback, after) =>
      value (String.ofList name) fallback ++ expand value fuel after
    | none => '$' :: expand value fuel ('\x7b' :: rest)
  | fuel + 1, c :: rest => c :: expand value fuel rest

/-- Earlier bindings come before the environment; a binding without a value stands for nothing. -/
def valueOf (environment : Members String) (earlier : Members (Option String)) (name : String)
    (fallback : Option (List Char)) : List Char :=
  match earlier.get? name, environment.get? name with
  | some value, _ => (value.getD "").toList
  | none, some value => value.toList
  | none, none => fallback.getD []

def resolve (environment : Members String) (bs : List (String × Option (List Char))) :
    Members (Option String) :=
  bs.foldl (fun earlier (name, value) =>
    earlier.set name (value.map fun cs =>
      String.ofList (expand (valueOf environment earlier) cs.length cs))) []

/-- The variables that a text sets; of equal names the last one counts. -/
def parse (environment : Members String) (text : String) : Members (Option String) :=
  resolve environment (bindings (textOf text))

end Dotenv

end TableSeeder
