import TableSeeder.Number.Reading

/-! Names of regions: which names there can be, the words in them that ask for validated
cryptography, and the partition of the network that a region belongs to. -/

namespace TableSeeder

structure Partition where
  area : String
  domain : String
  deriving DecidableEq

namespace Partition

def worldwide : Partition := ⟨"", "amazonaws.com"⟩

def government : Partition := ⟨"us-gov-", "amazonaws.com"⟩

def separate : List Partition :=
  [⟨"cn-", "amazonaws.com.cn"⟩, government, ⟨"us-iso-", "c2s.ic.gov"⟩,
    ⟨"us-isob-", "sc2s.sgov.gov"⟩, ⟨"eu-isoe-", "cloud.adc-e.uk"⟩,
    ⟨"us-isof-", "csp.hci.ic.gov"⟩, ⟨"eusc-de-", "amazonaws.eu"⟩]

end Partition

namespace Region

def isHyphen (c : Char) : Bool := c == '-'

def isLabelCharacter (c : Char) : Bool := c.isAlphanum || isHyphen c

/-- A single line feed at the end is overlooked when a name is examined. -/
def examined (name : List Char) : List Char :=
  if name.getLast? = some '\n' then name.dropLast else name

def touchesHyphen (name : List Char) : Bool :=
  name.head?.any isHyphen || name.getLast?.any isHyphen

/-- At most 63 letters, digits and hyphens, with no hyphen at either end, and not only digits. -/
def isName (name : String) : Bool :=
  let cs := examined name.toList
  cs.length ≤ 63 && cs.all isLabelCharacter && !touchesHyphen cs &&
    (cs.isEmpty || !cs.all Char.isDigit)

/-- The text without the word wherever it stands, in one pass; `skip` characters of an occurrence
are still to come. -/
def without (word : List Char) : Nat → List Char → List Char
  | _, [] => []
  | skip + 1, _ :: rest => without word skip rest
  | 0, c :: rest =>
    if word.isPrefixOf (c :: rest) then without word (word.length - 1) rest
    else c :: without word 0 rest

def plain (name : String) : String :=
  String.ofList (without "-fips".toList 0 (without "fips-".toList 0 name.toList))

def asksValidated (name : String) : Bool := plain name ≠ name

def isPlace (cs : List Char) : Bool :=
  match Reading.cut isHyphen cs with
  | (place, some number) => !place.isEmpty && !number.isEmpty && number.all Char.isDigit
  | (_, none) => false

def liesIn (name : String) (p : Partition) : Bool :=
  let cs := examined name.toList
  p.area.toList.isPrefixOf cs && isPlace (cs.drop p.area.length)

def partition (name : String) : Partition :=
  (Partition.separate.find? (liesIn name)).getD .worldwide

end Region

end TableSeeder
