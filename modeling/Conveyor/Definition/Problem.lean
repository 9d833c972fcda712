/-
**What is wrong with data that should be a definition.**

A problem has a place, the row of keys and indices that leads to it from the root, and a cause.

Main definitions:

* `Conveyor.Place` — a step from a datum to a part of it;
* `Conveyor.Problem.Cause` — the kinds of problems;
* `Conveyor.Problem` — a cause at a place;
* `Conveyor.Problem.Cause.name`, `Conveyor.Problem.Cause.message` — their names and wordings.
-/

set_option autoImplicit false

namespace Conveyor

/-- A step from a datum to a part of it. -/
inductive Place where
  | key (name : String)
  | index (i : Int)
  deriving DecidableEq, Repr

namespace Problem

/-- The kinds of problems. -/
inductive Cause where
  | missing
  | unknownKey
  | keyNotText
  | notRecord (what : String)
  | notTagged
  | tagMissing (tag : String)
  | tagUnknown (tag shown : String) (known : List String)
  | notText
  | notUnicode
  | tooShort (least : Nat)
  | notSequence
  | notWhole
  | notWholeText
  | fractional
  | notFinite
  | tooLarge
  | below (bound : Int)
  | above (bound : Int)
  | notTruth
  | notTruthWord
  | notWord (word : String)
  | refused (reason : String)
  | frozen
  | noAttribute (name : String)
  deriving DecidableEq, Repr

/-- The name of a kind of problem. -/
def Cause.name : Cause → String
  | .missing => "missing"
  | .unknownKey => "extra_forbidden"
  | .keyNotText => "invalid_key"
  | .notRecord _ => "model_type"
  | .notTagged => "model_attributes_type"
  | .tagMissing _ => "union_tag_not_found"
  | .tagUnknown .. => "union_tag_invalid"
  | .notText => "string_type"
  | .notUnicode => "string_unicode"
  | .tooShort _ => "string_too_short"
  | .notSequence => "tuple_type"
  | .notWhole => "int_type"
  | .notWholeText => "int_parsing"
  | .fractional => "int_from_float"
  | .notFinite => "finite_number"
  | .tooLarge => "int_parsing_size"
  | .below _ => "greater_than_equal"
  | .above _ => "less_than_equal"
  | .notTruth => "bool_type"
  | .notTruthWord => "bool_parsing"
  | .notWord _ => "literal_error"
  | .refused _ => "value_error"
  | .frozen => "frozen_instance"
  | .noAttribute _ => "no_such_attribute"

/-- The wording of a problem. -/
def Cause.message : Cause → String
  | .missing => "Field required"
  | .unknownKey => "Extra inputs are not permitted"
  | .keyNotText => "Keys should be strings"
  | .notRecord what => "Input should be a valid dictionary or instance of " ++ what
  | .notTagged => "Input should be a valid dictionary or object to extract fields from"
  | .tagMissing tag => "Unable to extract tag using discriminator '" ++ tag ++ "'"
  | .tagUnknown tag shown known =>
    "Input tag '" ++ shown ++ "' found using '" ++ tag
      ++ "' does not match any of the expected tags: "
      ++ ", ".intercalate (known.map fun k => "'" ++ k ++ "'")
  | .notText => "Input should be a valid string"
  | .notUnicode => "Input should be a valid string, unable to parse raw data as a unicode string"
  | .tooShort n =>
    "String should have at least " ++ toString n ++ (if n = 1 then " character" else " characters")
  | .notSequence => "Input should be a valid tuple"
  | .notWhole => "Input should be a valid integer"
  | .notWholeText => "Input should be a valid integer, unable to parse string as an integer"
  | .fractional => "Input should be a valid integer, got a number with a fractional part"
  | .notFinite => "Input should be a finite number"
  | .tooLarge => "Unable to parse input string as an integer, exceeded maximum size"
  | .below n => "Input should be greater than or equal to " ++ toString n
  | .above n => "Input should be less than or equal to " ++ toString n
  | .notTruth => "Input should be a valid boolean"
  | .notTruthWord => "Input should be a valid boolean, unable to interpret input"
  | .notWord word => "Input should be '" ++ word ++ "'"
  | .refused reason => "Value error, " ++ reason
  | .frozen => "Instance is frozen"
  | .noAttribute name => "Object has no attribute '" ++ name ++ "'"

end Problem

/-- A cause at a place. -/
structure Problem where
  place : List Place
  cause : Problem.Cause
  deriving DecidableEq, Repr

/-- A problem seen from further up. -/
def Problem.within (p : Place) (e : Problem) : Problem := { e with place := p :: e.place }

end Conveyor
