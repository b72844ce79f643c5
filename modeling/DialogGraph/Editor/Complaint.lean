import DialogGraph.Block.Reading

/-!
# Complaints about requests

A request that is not well-formed is turned down with a list of complaints, each with the place in
the request, a tag and a sentence.
-/

namespace DialogGraph

def Problem.tag : Problem → String
  | notText => "string_type"
  | notInteger => "int_type"
  | unreadableInteger => "int_parsing"
  | fractionalInteger => "int_from_float"
  | infiniteInteger => "finite_number"
  | oversizedInteger => "int_parsing_size"
  | notReal => "float_type"
  | unreadableReal => "float_parsing"
  | notTruth => "bool_type"
  | unreadableTruth => "bool_parsing"
  | notAnOption _ => "enum"
  | notAList => "list_type"
  | notARow _ => "model_type"

namespace Editor

/-- A place in a request. -/
inductive Place where
  | body
  /-- A character of the body. -/
  | character (position : Nat)
  | field (name : String)
  | query (name : String)
  deriving Repr, DecidableEq

/-- What is wrong at a place. -/
inductive Objection where
  | missing
  | notJson
  /-- The body has no fields. -/
  | noFields
  | notARecord
  | problem (problem : Problem)
  deriving Repr, DecidableEq

def Objection.tag : Objection → String
  | missing => "missing"
  | notJson => "json_invalid"
  | noFields => "model_attributes_type"
  | notARecord => "dict_type"
  | .problem p => p.tag

def Objection.message : Objection → String
  | missing => "Field required"
  | notJson => "JSON decode error"
  | noFields => "Input should be a valid dictionary or object to extract fields from"
  | notARecord => "Input should be a valid dictionary"
  | .problem p => p.message

structure Complaint where
  place : Place
  objection : Objection
  deriving Repr, DecidableEq

end Editor

end DialogGraph
