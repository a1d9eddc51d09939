/-! How similar two texts are: by the blocks of characters they share, the longest block first and
then what stands before and after it. -/

namespace TableSeeder

namespace Similar

def commonPrefix : List Char → List Char → Nat
  | a :: as, b :: bs => if a = b then commonPrefix as bs + 1 else 0
  | _, _ => 0

structure Block where
  first : Nat
  second : Nat
  length : Nat

def Block.longer (b later : Block) : Block := if b.length < later.length then later else b

def longestAt (as : List Char) (i : Nat) : Nat → List Char → Block
  | j, [] => ⟨i, j, 0⟩
  | j, b :: bs => Block.longer ⟨i, j, commonPrefix as (b :: bs)⟩ (longestAt as i (j + 1) bs)

def longest (bs : List Char) : Nat → List Char → Block
  | i, [] => ⟨i, 0, 0⟩
  | i, a :: as => (longestAt (a :: as) i 0 bs).longer (longest bs (i + 1) as)

/-- Every block takes at least one character of the first text. -/
def sharedWithin : Nat → List Char → List Char → Nat
  | 0, _, _ => 0
  | fuel + 1, as, bs =>
    let m := longest bs 0 as
    if m.length = 0 then 0
    else
      m.length + sharedWithin fuel (as.take m.first) (bs.take m.second) +
        sharedWithin fuel (as.drop (m.first + m.length)) (bs.drop (m.second + m.length))

def shared (as bs : List Char) : Nat := sharedWithin as.length as bs

structure Score where
  text : String
  shared : Nat
  total : Nat

def Score.of (word text : String) : Score :=
  ⟨text, Similar.shared text.toList word.toList, text.length + word.length⟩

def Score.isClose (s : Score) : Bool := 3 * s.total ≤ 10 * s.shared

/-- A higher share comes first; of equal ones the text that is later in the alphabet. -/
def Score.precedes (s t : Score) : Bool :=
  t.shared * s.total < s.shared * t.total ||
    (t.shared * s.total == s.shared * t.total && decide (t.text ≤ s.text))

def closest (word : String) (candidates : List String) : List String :=
  let close := (candidates.map (Score.of word)).filter Score.isClose
  ((close.mergeSort Score.precedes).take 3).map Score.text

end Similar

end TableSeeder
