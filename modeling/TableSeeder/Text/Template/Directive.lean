import TableSeeder.Text.Characters

/-! Percent directives: optional key, flags, width and precision, and a conversion. A template is
read into plain code points and directives. -/

namespace TableSeeder

namespace Template

structure Flags where
  left : Bool := false
  plus : Bool := false
  space : Bool := false
  alternate : Bool := false
  zero : Bool := false

inductive Count where
  | given (n : Nat)
  | star

inductive Key where
  | closed (key : Points)
  | unclosed

/-- One directive. Without a conversion the template has ended inside it. -/
structure Directive where
  key : Option Key := none
  flags : Flags := {}
  width : Option Count := none
  precision : Option Count := none
  conversion : Option CodePoint := none
  left : Nat := 0

inductive Piece where
  | plain (p : CodePoint)
  | directive (d : Directive)

def Flags.add? (f : Flags) : CodePoint → Option Flags
  | .char '-' => some { f with left := true }
  | .char '+' => some { f with plus := true }
  | .char ' ' => some { f with space := true }
  | .char '#' => some { f with alternate := true }
  | .char '0' => some { f with zero := true }
  | _ => none

def readFlags (f : Flags) : Points → Flags × Points
  | [] => (f, [])
  | p :: rest =>
    match f.add? p with
    | some f' => readFlags f' rest
    | none => (f, p :: rest)

/-- The key up to the bracket that closes it; inner brackets pair up. -/
def readKey (depth : Nat) (key : Points) : Points → Key × Points
  | [] => (.unclosed, [])
  | .char '(' :: rest => readKey (depth + 1) (.char '(' :: key) rest
  | .char ')' :: rest =>
    if depth = 0 then (.closed key.reverse, rest) else readKey (depth - 1) (.char ')' :: key) rest
  | p :: rest => readKey depth (p :: key) rest

def digit? : CodePoint → Option Nat
  | .char c => if c.isDigit then some (c.toNat - 48) else none
  | .surrogate _ => none

def readDigits (n : Nat) : Points → Nat × Points
  | [] => (n, [])
  | p :: rest =>
    match digit? p with
    | some d => readDigits (10 * n + d) rest
    | none => (n, p :: rest)

def readCount : Points → Option Count × Points
  | .char '*' :: rest => (some .star, rest)
  | p :: rest =>
    match digit? p with
    | some _ =>
      let (n, tail) := readDigits 0 (p :: rest)
      (some (.given n), tail)
    | none => (none, p :: rest)
  | [] => (none, [])

/-- A point without digits stands for a precision of zero. -/
def readPrecision : Points → Option Count × Points
  | .char '.' :: rest =>
    let (count, tail) := readCount rest
    (some (count.getD (.given 0)), tail)
  | ps => (none, ps)

def dropSize : Points → Points
  | p :: rest => if p = 'h' ∨ p = 'l' ∨ p = 'L' then rest else p :: rest
  | [] => []

def readOptionalKey : Points → Option Key × Points
  | .char '(' :: rest =>
    let (key, tail) := readKey 0 [] rest
    (some key, tail)
  | ps => (none, ps)

def readDirective (ps : Points) : Directive × Points :=
  let (key, ps) := readOptionalKey ps
  let (flags, ps) := readFlags {} ps
  let (width, ps) := readCount ps
  let (precision, ps) := readPrecision ps
  match dropSize ps with
  | [] => ({ key, flags, width, precision }, [])
  | p :: rest => ({ key, flags, width, precision, conversion := some p, left := rest.length }, rest)

theorem length_readFlags (f : Flags) (ps : Points) :
    (readFlags f ps).2.length ≤ ps.length := by
  induction ps generalizing f with
  | nil => simp [readFlags]
  | cons p ps ih =>
    unfold readFlags
    split
    · exact Nat.le_succ_of_le (ih _)
    · simp

theorem length_readKey (depth : Nat) (key ps : Points) :
    (readKey depth key ps).2.length ≤ ps.length := by
  fun_induction readKey depth key ps with
  | case1 => simp
  | case2 _ _ _ ih => exact Nat.le_succ_of_le ih
  | case3 => simp
  | case4 _ _ _ _ ih => exact Nat.le_succ_of_le ih
  | case5 _ _ _ _ _ _ ih => exact Nat.le_succ_of_le ih

theorem length_readDigits (n : Nat) (ps : Points) :
    (readDigits n ps).2.length ≤ ps.length := by
  induction ps generalizing n with
  | nil => simp [readDigits]
  | cons p ps ih =>
    unfold readDigits
    split
    · exact Nat.le_succ_of_le (ih _)
    · simp

theorem length_readCount (ps : Points) : (readCount ps).2.length ≤ ps.length := by
  unfold readCount
  split
  · simp
  · split
    · exact length_readDigits 0 _
    · simp
  · simp

theorem length_readPrecision (ps : Points) : (readPrecision ps).2.length ≤ ps.length := by
  unfold readPrecision
  split
  · exact Nat.le_succ_of_le (length_readCount _)
  · simp

theorem length_dropSize (ps : Points) : (dropSize ps).length ≤ ps.length := by
  unfold dropSize
  split
  · split <;> simp
  · simp

theorem length_readOptionalKey (ps : Points) :
    (readOptionalKey ps).2.length ≤ ps.length := by
  unfold readOptionalKey
  split
  · exact Nat.le_succ_of_le (length_readKey 0 [] _)
  · simp

theorem length_readDirective (ps : Points) : (readDirective ps).2.length ≤ ps.length := by
  have hk := length_readOptionalKey ps
  have hf := length_readFlags {} (readOptionalKey ps).2
  have hw := length_readCount (readFlags {} (readOptionalKey ps).2).2
  have hp := length_readPrecision (readCount (readFlags {} (readOptionalKey ps).2).2).2
  have hs := length_dropSize
    (readPrecision (readCount (readFlags {} (readOptionalKey ps).2).2).2).2
  unfold readDirective
  dsimp only
  split
  · simp
  · rename_i p rest heq
    rw [heq, List.length_cons] at hs
    dsimp only
    omega

def pieces : Points → List Piece
  | [] => []
  | .char '%' :: .char '%' :: rest => .plain (.char '%') :: pieces rest
  | .char '%' :: rest => .directive (readDirective rest).1 :: pieces (readDirective rest).2
  | p :: rest => .plain p :: pieces rest
termination_by ps => ps.length
decreasing_by
  · simp only [List.length_cons]; omega
  · exact Nat.lt_succ_of_le (length_readDirective rest)
  · simp

end Template

end TableSeeder
