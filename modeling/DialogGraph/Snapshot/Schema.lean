import DialogGraph.Flow.Fault

/-!
# The shape of snapshots

A snapshot is a record of blocks, with an optional list of connections and an optional counter.
Each block has at least a type, each connection its two ends and a port. Faults are reported in the
order blocks, then connections, each from the front.
-/

namespace DialogGraph.Snapshot

def isNumber : Value → Bool
  | .int _ => true
  | .real _ => true
  | _ => false

def isInteger : Value → Bool
  | .int _ => true
  | _ => false

def slotsComplaint? (block : Fields) : Option BlockComplaint :=
  match Assoc.get? block "connections" with
  | none => none
  | some (.record slots) =>
    match Assoc.get? slots "outputs" with
    | none => none
    | some (.record _) => none
    | some _ => some .outputsNotARecord
  | some _ => some .connectionsNotARecord

def coordinateComplaint? (block : Fields) (axis : String) : Option BlockComplaint :=
  match Assoc.get? block axis with
  | none => none
  | some value => if isNumber value then none else some (.coordinateNotANumber axis)

/-- What is wrong with the id of a block that is kept under `key`. -/
def idComplaint? (key : String) (block : Fields) : Option BlockComplaint :=
  match Assoc.get? block "id" with
  | none => none
  | some (.text id) => if id = key then none else some .wrongId
  | some _ => some .wrongId

/-- What is wrong with the kind of a block; only a strict reading minds unknown kinds. -/
def kindComplaint? (strict : Bool) (type : String) : Option BlockComplaint :=
  if strict && (Kind.ofText? type).isNone then some (.unknownKind (Text.quote type)) else none

/-- What is wrong with the block kept under `key`. -/
def blockComplaint? (strict : Bool) (key : String) : Value → Option BlockComplaint
  | .record block =>
    match Assoc.get? block "type" with
    | none => some .noType
    | some (.text type) =>
      (idComplaint? key block).or <|
        (coordinateComplaint? block "x").or <|
          (coordinateComplaint? block "y").or <|
            (slotsComplaint? block).or (kindComplaint? strict type)
    | some _ => some .typeNotAText
  | _ => some .notARecord

/-- The fields that every connection has. -/
def connectionFields : List String := ["from", "fromPort", "to"]

def connectionComplaint? : Value → Option ConnectionComplaint
  | .record connection =>
    match connectionFields.find? (fun field => !Assoc.contains connection field) with
    | some field => some (.missing field)
    | none =>
      (connectionFields ++ ["id"]).findSome? fun field =>
        match Assoc.get? connection field with
        | none => none
        | some (.text _) => none
        | some _ => some (.notAText field)
  | _ => some .notARecord

/-- The first connection that is wrong, counted from `index`. -/
def connectionFault? (index : Nat) : List Value → Option SchemaFault
  | [] => none
  | connection :: rest =>
    match connectionComplaint? connection with
    | some complaint => some (.connection index complaint)
    | none => connectionFault? (index + 1) rest

/-- A snapshot whose outer shape is right. -/
structure Parts where
  blocks : Fields
  connections : List Value
  counter : Int

def parts : Value → Except SchemaFault Parts
  | .record data =>
    match Assoc.get? data "blocks" with
    | none => .error .noBlocks
    | some (.record blocks) =>
      match (Assoc.get? data "connections").getD (.list []) with
      | .list connections =>
        match (Assoc.get? data "blockCounter").getD (.int 0) with
        | .int counter => .ok ⟨blocks, connections, counter⟩
        | _ => .error .counterNotAnInteger
      | _ => .error .connectionsNotAList
    | some _ => .error .blocksNotARecord
  | _ => .error .notARecord

/-- What is wrong with the blocks and connections of a snapshot. -/
def Parts.fault? (strict : Bool) (parts : Parts) : Option SchemaFault :=
  (parts.blocks.findSome? fun entry =>
    (blockComplaint? strict entry.1 entry.2).map (SchemaFault.block entry.1)).or
    (connectionFault? 0 parts.connections)

/-- Checks the shape of a snapshot and gives its parts. -/
def check (strict : Bool) (data : Value) : Except SchemaFault Parts :=
  match parts data with
  | .error fault => .error fault
  | .ok parts =>
    match parts.fault? strict with
    | some fault => .error fault
    | none => .ok parts

end DialogGraph.Snapshot
