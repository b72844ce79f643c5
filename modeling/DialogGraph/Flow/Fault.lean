import DialogGraph.Flow.Basic
import DialogGraph.Json.Parser

/-!
# Rejections and faults

An edit that would break a flow is rejected and changes nothing. A fault is worse: a number that
cannot be read or written, a name that is already taken, a block that is not there.
-/

namespace DialogGraph

open DialogGraph.Number DialogGraph.Text

inductive Rejection where
  | noBlock (id : String)
  | noField (kind : Kind) (field : String)
  | badValue (field : String) (problem : Problem)
  | noSource (id : String)
  | noTarget (id : String)
  | selfConnection
  | entersStart
  | noPort (id port : String)
  | portTaken (id port : String)
  | inputTaken (id : String)
  | noEdge (id : String)
  deriving Repr, DecidableEq

def Rejection.message : Rejection → String
  | noBlock id => "Node '" ++ id ++ "' not found"
  | noField kind field => kind.tag ++ " node has no field '" ++ field ++ "'"
  | badValue field problem => "Invalid value for '" ++ field ++ "': " ++ problem.message
  | noSource id => "Source node '" ++ id ++ "' not found"
  | noTarget id => "Target node '" ++ id ++ "' not found"
  | selfConnection => "A node cannot connect to itself"
  | entersStart => "The start node has no input"
  | noPort id port => "Node '" ++ id ++ "' has no port '" ++ port ++ "'"
  | portTaken id port => "Port '" ++ port ++ "' of '" ++ id ++ "' is already connected"
  | inputTaken id => "Node '" ++ id ++ "' already has an incoming connection"
  | noEdge id => "Connection '" ++ id ++ "' not found"

inductive BlockComplaint where
  | notARecord
  | noType
  | typeNotAText
  | wrongId
  /-- The coordinate `x` or `y` is no number. -/
  | coordinateNotANumber (axis : String)
  | connectionsNotARecord
  | outputsNotARecord
  | unknownKind (shown : String)
  deriving Repr, DecidableEq

inductive ConnectionComplaint where
  | notARecord
  | missing (field : String)
  | notAText (field : String)
  deriving Repr, DecidableEq

inductive SchemaFault where
  | notARecord
  | noBlocks
  | blocksNotARecord
  | connectionsNotAList
  | counterNotAnInteger
  | block (id : String) (complaint : BlockComplaint)
  | connection (index : Nat) (complaint : ConnectionComplaint)
  deriving Repr, DecidableEq

/-- The wording for a block called `place`. -/
def BlockComplaint.message (place : String) : BlockComplaint → String
  | notARecord => place ++ ": each block must be a JSON object"
  | noType => place ++ ": missing required field 'type'"
  | typeNotAText => place ++ ".type must be a string"
  | wrongId => place ++ ".id does not match its key"
  | coordinateNotANumber axis => place ++ "." ++ axis ++ " must be a number"
  | connectionsNotARecord => place ++ ".connections must be an object"
  | outputsNotARecord => place ++ ".connections.outputs must be an object"
  | unknownKind shown => place ++ ": Unknown node kind: " ++ shown

/-- The wording for a connection called `place`. -/
def ConnectionComplaint.message (place : String) : ConnectionComplaint → String
  | notARecord => place ++ ": each connection must be a JSON object"
  | missing field => place ++ ": missing required field '" ++ field ++ "'"
  | notAText field => place ++ "." ++ field ++ " must be a string"

def SchemaFault.message : SchemaFault → String
  | notARecord => "snapshot must be a JSON object at the top level"
  | noBlocks => "snapshot root: missing required field 'blocks'"
  | blocksNotARecord => "blocks must be an object"
  | connectionsNotAList => "connections must be a list"
  | counterNotAnInteger => "blockCounter must be an integer"
  | block id complaint => complaint.message ("blocks[" ++ quote id ++ "]")
  | connection index complaint => complaint.message ("connections[" ++ natText index ++ "]")

/-- What keeps an operation from being carried out. -/
inductive Fault where
  | schema (fault : SchemaFault)
  | json (fault : Json.Fault)
  | kind (fault : Kind.Fault)
  /-- A number in an id cannot be read. -/
  | integer (fault : IntegerFault)
  /-- A number has no text. -/
  | text (fault : TextFault)
  | duplicateBlock (id : String)
  /-- A block that is needed is not there. -/
  | missingBlock (id : String)
  /-- A value cannot be stored in a field. -/
  | invalid (problem : Problem)
  | noAttribute (name : String)
  deriving Repr, DecidableEq

def Fault.message : Fault → String
  | schema fault => fault.message
  | json fault => fault.message
  | kind fault => fault.message
  | integer fault => fault.message
  | text fault => fault.message
  | duplicateBlock id => "Node with id '" ++ id ++ "' already exists"
  | missingBlock id => quote id
  | invalid problem => problem.message
  | noAttribute name => "Object has no attribute '" ++ name ++ "'"

/-- What came of an operation: the flow afterwards, what listeners were told, and the result. Where
the result is a fault the flow holds what was done up to there. -/
structure Outcome (α : Type) where
  flow : Flow
  events : List Event
  result : α

end DialogGraph
