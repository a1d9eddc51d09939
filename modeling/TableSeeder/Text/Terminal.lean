/-! Texts without terminal control sequences: an escape, an opening bracket, parameters made of
digits, semicolons and question marks, and a final letter. -/

namespace TableSeeder

namespace Terminal

def isParameter (c : Char) : Bool := c.isDigit || c == ';' || c == '?'

def afterSequence? : List Char → Option (List Char)
  | '\x1b' :: '[' :: rest =>
    match rest.dropWhile isParameter with
    | c :: tail => if c.isAlpha then some tail else none
    | [] => none
  | _ => none

theorem length_afterSequence {cs tail : List Char} (h : afterSequence? cs = some tail) :
    tail.length < cs.length := by
  unfold afterSequence? at h
  split at h
  case h_1 rest =>
    have hle := (List.dropWhile_suffix (l := rest) isParameter).length_le
    split at h
    case h_1 c after heq =>
      rw [heq] at hle
      split at h
      · obtain rfl := Option.some.inj h
        simp only [List.length_cons] at hle ⊢
        omega
      · simp at h
    case h_2 => simp at h
  case h_2 => simp at h

def strip (cs : List Char) : List Char :=
  match _h : afterSequence? cs with
  | some tail => strip tail
  | none =>
    match cs with
    | [] => []
    | c :: rest => c :: strip rest
termination_by cs.length
decreasing_by
  · exact length_afterSequence ‹_›
  · simp

end Terminal

def echoed (s : String) : String := String.ofList (Terminal.strip s.toList) ++ "\n"

end TableSeeder
