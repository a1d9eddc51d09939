import TableSeeder.Number.Plain
import TableSeeder.Text.Quoted
import TableSeeder.Value

/-! Values as they stand in messages: a text as it is, anything else as a literal. -/

namespace TableSeeder

namespace Value

variable {τ : Type} [Textual τ]

mutual

/-- The literal of a value; `quote` writes the texts in it. -/
def literal (quote : Points → List Char) : Value τ → List Char
  | null => "None".toList
  | bool true => "True".toList
  | bool false => "False".toList
  | int n => (toString n).toList
  | float x => (Binary.ofFloat x).plain
  | text s => quote (Textual.points s)
  | bytes bs => Quoted.bytes bs
  | list vs => '[' :: (literalItems quote vs ++ [']'])
  | object ms => '{' :: (literalMembers quote ms ++ ['}'])

def literalItems (quote : Points → List Char) : List (Value τ) → List Char
  | [] => []
  | v :: vs => literal quote v ++ literalMoreItems quote vs

def literalMoreItems (quote : Points → List Char) : List (Value τ) → List Char
  | [] => []
  | v :: vs => ',' :: ' ' :: (literal quote v ++ literalMoreItems quote vs)

def literalMembers (quote : Points → List Char) : List (τ × Value τ) → List Char
  | [] => []
  | (k, v) :: ms =>
    quote (Textual.points k) ++ ':' :: ' ' :: (literal quote v ++ literalMoreMembers quote ms)

def literalMoreMembers (quote : Points → List Char) : List (τ × Value τ) → List Char
  | [] => []
  | (k, v) :: ms =>
    ',' :: ' ' :: (quote (Textual.points k) ++
      ':' :: ' ' :: (literal quote v ++ literalMoreMembers quote ms))

end

def points : Value τ → Points
  | text s => Textual.points s
  | v => .ofChars (literal Quoted.text v)

def shown : Value → String
  | text s => s
  | v => String.ofList (literal Quoted.text v)

end Value

end TableSeeder
