import TableSeeder.Validation
import TableSeeder.Value.Slot

/-! Synthetic records: four texts, none of them empty, under fixed attribute names. -/

namespace TableSeeder

abbrev Item := Members Value

def fillerText : String :=
  "Lorem ipsum dolor sit amet, consectetur adipiscing elit, sed do eiusmod tempor " ++
  "incididunt ut labore et dolore magna aliqua. Ut enim ad minim veniam, quis nostrud " ++
  "exercitation ullamco laboris nisi ut aliquip ex ea commodo consequat. Duis aute irure " ++
  "dolor in reprehenderit in voluptate velit esse cillum dolore eu fugiat nulla pariatur. " ++
  "Excepteur sint occaecat cupidatat non proident, sunt in culpa qui officia deserunt " ++
  "mollit anim id est laborum."

abbrev NonemptyText := { s : String // s ≠ "" }

theorem append_ne_empty {s : String} (h : s ≠ "") (t : String) : s ++ t ≠ "" :=
  fun hst => h (String.append_eq_empty_iff.mp hst).1

namespace NonemptyText

def startingWith (s t : String) (h : s ≠ "" := by decide) : NonemptyText :=
  ⟨s ++ t, append_ne_empty h t⟩

end NonemptyText

structure Record where
  artist : NonemptyText
  songTitle : NonemptyText
  albumTitle : NonemptyText
  payload : NonemptyText
  deriving DecidableEq

namespace Record

inductive Field where
  | artist
  | songTitle
  | albumTitle
  | payload
  deriving DecidableEq

namespace Field

def all : List Field := [artist, songTitle, albumTitle, payload]

def attributeName : Field → String
  | artist => "Artist"
  | songTitle => "SongTitle"
  | albumTitle => "AlbumTitle"
  | payload => "DATA"

def name : Field → String
  | artist => "artist"
  | songTitle => "song_title"
  | albumTitle => "album_title"
  | payload => "payload"

/-- The key under which data holds the field, and its value: the attribute name comes first. -/
def find? (data : Members Value) (f : Field) : Option (String × Value) :=
  match data.get? f.attributeName with
  | some v => some (f.attributeName, v)
  | none => (data.get? f.name).map (f.name, ·)

end Field

def get (r : Record) : Field → NonemptyText
  | .artist => r.artist
  | .songTitle => r.songTitle
  | .albumTitle => r.albumTitle
  | .payload => r.payload

def nonempty (s : String) : Except Cause NonemptyText :=
  if h : s = "" then .error .emptyText else .ok ⟨s, h⟩

def checkText : Value → Except Cause NonemptyText
  | .text s => nonempty s
  | .bytes bs =>
    match Value.decoded? bs with
    | some s => nonempty s
    | none => .error .notUnicode
  | _ => .error .notText

def filler : NonemptyText := ⟨fillerText, by decide⟩

def fallback? : Field → Option NonemptyText
  | .payload => some filler
  | _ => none

def readField (data : Members Value) (f : Field) : Except Issue NonemptyText :=
  match f.find? data, fallback? f with
  | some (key, v), _ => (checkText v).mapError fun cause => ⟨[key], cause⟩
  | none, some t => .ok t
  | none, none => .error ⟨[f.attributeName], .missing⟩

def ofMembers (data : Members Value) : Except (List Issue) Record :=
  match readField data .artist, readField data .songTitle, readField data .albumTitle,
      readField data .payload with
  | .ok a, .ok s, .ok l, .ok p => .ok ⟨a, s, l, p⟩
  | a, s, l, p => .error (issuesOf a ++ issuesOf s ++ issuesOf l ++ issuesOf p)

def ofValue : Value → Except (List Issue) Record
  | .object data => ofMembers data
  | _ => .error [⟨[], .notMapping⟩]

def item (r : Record) : Item := Field.all.map fun f => (f.attributeName, .text (r.get f).val)

inductive AssignError where
  | issue (i : Issue)
  | slot (e : SlotError)
  deriving DecidableEq

/-- Records are fixed. Only private names, which are no part of their data, can be assigned. -/
def assign (name : String) (v : Value) : Except AssignError Unit :=
  if name.toList.head? = some '_' then
    match SlotError.find? "Record" name v with
    | some e => .error (.slot e)
    | none => .ok ()
  else .error (.issue ⟨[name], .immutable⟩)

/-- A record of the put loader: the id stands in the artist alone. -/
def single (id : String) : Record where
  artist := .startingWith "Here's a name " id
  songTitle := ⟨"Here's a title", by decide⟩
  albumTitle := ⟨"Here's an album title", by decide⟩
  payload := filler

/-- A record of the batch writer: every title carries the id. -/
def batched (id : String) : Record where
  artist := .startingWith "Artist like " id
  songTitle := .startingWith "SongTitle like " id
  albumTitle := .startingWith "AlbumTitle like " id
  payload := filler

end Record

end TableSeeder
