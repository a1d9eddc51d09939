/-! What can be wrong with a single input value, and where it stands. -/

namespace TableSeeder

inductive Cause where
  | missing
  | notText
  | notUnicode
  | emptyText
  | notMapping
  | unreadableInt
  | oversizedInt
  | notInt
  | fractionalInt
  | notFinite
  | unreadableReal
  | notReal
  | unreadableBool
  | notBool
  | notAbove (bound : Nat)
  | notAtLeast (bound : Nat)
  | immutable
  deriving DecidableEq

namespace Cause

def code : Cause → String
  | missing => "missing"
  | notText => "string_type"
  | notUnicode => "string_unicode"
  | emptyText => "string_too_short"
  | notMapping => "model_type"
  | unreadableInt => "int_parsing"
  | oversizedInt => "int_parsing_size"
  | notInt => "int_type"
  | fractionalInt => "int_from_float"
  | notFinite => "finite_number"
  | unreadableReal => "float_parsing"
  | notReal => "float_type"
  | unreadableBool => "bool_parsing"
  | notBool => "bool_type"
  | notAbove _ => "greater_than"
  | notAtLeast _ => "greater_than_equal"
  | immutable => "frozen_instance"

def message : Cause → String
  | missing => "Field required"
  | notText => "Input should be a valid string"
  | notUnicode => "Input should be a valid string, unable to parse raw data as a unicode string"
  | emptyText => "String should have at least 1 character"
  | notMapping => "Input should be a valid dictionary or instance of Record"
  | unreadableInt => "Input should be a valid integer, unable to parse string as an integer"
  | oversizedInt => "Unable to parse input string as an integer, exceeded maximum size"
  | notInt => "Input should be a valid integer"
  | fractionalInt => "Input should be a valid integer, got a number with a fractional part"
  | notFinite => "Input should be a finite number"
  | unreadableReal => "Input should be a valid number, unable to parse string as a number"
  | notReal => "Input should be a valid number"
  | unreadableBool => "Input should be a valid boolean, unable to interpret input"
  | notBool => "Input should be a valid boolean"
  | notAbove bound => "Input should be greater than " ++ toString bound
  | notAtLeast bound => "Input should be greater than or equal to " ++ toString bound
  | immutable => "Instance is frozen"

end Cause

structure Issue where
  place : List String
  cause : Cause
  deriving DecidableEq

def issuesOf {α : Type} : Except Issue α → List Issue
  | .error i => [i]
  | .ok _ => []

end TableSeeder
