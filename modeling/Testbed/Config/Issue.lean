/-!
# Issues with settings

What can be wrong with the value of a field, with the code and the message that name it.
-/

set_option autoImplicit false

namespace Testbed.Config

/-- What is wrong with a value. -/
inductive Problem where
  | notFlag
  | unreadableFlag
  | notNumber
  | unreadableNumber
  | notInteger
  | unreadableInteger
  | fractional
  | notFinite
  | tooLong
  | below (bound : String)
  | notAbove (bound : String)
  | notText
  | emptyText
  | nullInName
  | unknownField
  | frozen
  deriving DecidableEq, Repr

/-- A problem with the value of a field. -/
structure Issue where
  field : String
  problem : Problem
  deriving DecidableEq, Repr

/-- The issues with setting a name of settings that were made already. Their fields do not change,
and nothing else may be set but private names, which have an underscore in front. -/
def assignmentIssues (name : String) : List Issue :=
  if name.toList.head? = some '_' then [] else [⟨name, .frozen⟩]

namespace Problem

/-- The short name of a problem. -/
def code : Problem → String
  | .notFlag => "bool_type"
  | .unreadableFlag => "bool_parsing"
  | .notNumber => "float_type"
  | .unreadableNumber => "float_parsing"
  | .notInteger => "int_type"
  | .unreadableInteger => "int_parsing"
  | .fractional => "int_from_float"
  | .notFinite => "finite_number"
  | .tooLong => "int_parsing_size"
  | .below _ => "greater_than_equal"
  | .notAbove _ => "greater_than"
  | .notText => "string_type"
  | .emptyText => "string_too_short"
  | .nullInName => "value_error"
  | .unknownField => "extra_forbidden"
  | .frozen => "frozen_instance"

/-- What a problem tells the user. -/
def message : Problem → String
  | .notFlag => "Input should be a valid boolean"
  | .unreadableFlag => "Input should be a valid boolean, unable to interpret input"
  | .notNumber => "Input should be a valid number"
  | .unreadableNumber => "Input should be a valid number, unable to parse string as a number"
  | .notInteger => "Input should be a valid integer"
  | .unreadableInteger => "Input should be a valid integer, unable to parse string as an integer"
  | .fractional => "Input should be a valid integer, got a number with a fractional part"
  | .notFinite => "Input should be a finite number"
  | .tooLong => "Unable to parse input string as an integer, exceeded maximum size"
  | .below bound => "Input should be greater than or equal to " ++ bound
  | .notAbove bound => "Input should be greater than " ++ bound
  | .notText => "Input should be a valid string"
  | .emptyText => "String should have at least 1 character"
  | .nullInName => "Value error, embedded null byte"
  | .unknownField => "Extra inputs are not permitted"
  | .frozen => "Instance is frozen"

end Problem

end Testbed.Config
