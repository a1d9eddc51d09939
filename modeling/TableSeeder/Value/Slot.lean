import TableSeeder.Value

/-! Slots: names that mean something on every object, so that not every value can be assigned to
them. -/

namespace TableSeeder

inductive SlotError where
  | classRequired (type : String)
  | membersRequired (type : String)
  | notWritable (name owner : String)
  deriving DecidableEq

namespace SlotError

def title : SlotError → String
  | notWritable _ _ => "AttributeError"
  | _ => "TypeError"

def message : SlotError → String
  | classRequired type => "__class__ must be set to a class, not '" ++ type ++ "' object"
  | membersRequired type => "__dict__ must be set to a dictionary, not a '" ++ type ++ "'"
  | notWritable name owner =>
    "attribute '" ++ name ++ "' of '" ++ owner ++ "' objects is not writable"

/-- What an object of the type `owner` objects to; other names than those of slots take any
value. -/
def find? {τ : Type} (owner name : String) (v : Value τ) : Option SlotError :=
  match name, v with
  | "__class__", v => some (.classRequired v.typeName)
  | "__dict__", .object _ => none
  | "__dict__", v => some (.membersRequired v.typeName)
  | "__weakref__", _ => some (.notWritable "__weakref__" owner)
  | _, _ => none

end SlotError

end TableSeeder
