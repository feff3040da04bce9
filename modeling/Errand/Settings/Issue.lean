import Errand.Value

/-! # What can be wrong with a setting

One issue is found for each value that is no value of its field: the field, for a list also the
place in it, the value, and what was expected. -/

namespace Errand.Settings

/-- What is wrong with the value of a setting. -/
inductive Complaint where
  | notString
  | undecodableString
  | notBool
  | unreadableBool
  | notInt
  | unreadableInt
  | tooLongInt
  | fractionalInt
  | notFinite
  | notPositive
  | notFloat
  | unreadableFloat
  | notList
  deriving DecidableEq, Repr

/-- The short name of a complaint. -/
def Complaint.code : Complaint → String
  | notString => "string_type"
  | undecodableString => "string_unicode"
  | notBool => "bool_type"
  | unreadableBool => "bool_parsing"
  | notInt => "int_type"
  | unreadableInt => "int_parsing"
  | tooLongInt => "int_parsing_size"
  | fractionalInt => "int_from_float"
  | notFinite => "finite_number"
  | notPositive => "greater_than"
  | notFloat => "float_type"
  | unreadableFloat => "float_parsing"
  | notList => "list_type"

/-- What a complaint asks for. -/
def Complaint.message : Complaint → String
  | notString => "Input should be a valid string"
  | undecodableString =>
    "Input should be a valid string, unable to parse raw data as a unicode string"
  | notBool => "Input should be a valid boolean"
  | unreadableBool => "Input should be a valid boolean, unable to interpret input"
  | notInt => "Input should be a valid integer"
  | unreadableInt => "Input should be a valid integer, unable to parse string as an integer"
  | tooLongInt => "Unable to parse input string as an integer, exceeded maximum size"
  | fractionalInt => "Input should be a valid integer, got a number with a fractional part"
  | notFinite => "Input should be a finite number"
  | notPositive => "Input should be greater than 0"
  | notFloat => "Input should be a valid number"
  | unreadableFloat => "Input should be a valid number, unable to parse string as a number"
  | notList => "Input should be a valid list"

/-- A value that is no value of its field. -/
structure Issue where
  field : String
  /-- The place in the field's list, for a member of a list. -/
  index : Option Nat := none
  input : Value
  complaint : Complaint
  deriving Repr

/-- Where settings come from, besides the caller. -/
inductive Source where
  | environment
  | file
  deriving DecidableEq, Repr

/-- The name of a source in an error text. -/
def Source.name : Source → String
  | environment => "EnvSettingsSource"
  | file => "DotEnvSettingsSource"

end Errand.Settings
