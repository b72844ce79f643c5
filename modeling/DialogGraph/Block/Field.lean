import DialogGraph.Block.Reading

/-!
# Fields

A record of settings is described by its fields, each with a name, a way to read it as a value and
a way to set it from one. Everything that is done to settings by name goes through this
description: saving, changing one field, reading a whole record. Fields are independent of each
other, so one that cannot be read never costs another.
-/

namespace DialogGraph

/-- One field of the settings `α`. -/
structure Field (α : Type) where
  name : String
  /-- The field as a value. -/
  get : α → Value
  /-- Checks a value; if it is good, the change that stores it. -/
  set? : Value → Except Problem (α → α)

namespace Field

variable {α β : Type}

/-- A field that is written by `show` and read by `read`. -/
def make (name : String) (read : Value → Except Problem β) (write : β → Value) (get : α → β)
    (set : α → β → α) : Field α where
  name := name
  get a := write (get a)
  set? value := (read value).map fun b a => set a b

def text (name : String) (get : α → String) (set : α → String → α) : Field α :=
  make name Setting.text .text get set

def integer (name : String) (get : α → Int) (set : α → Int → α) : Field α :=
  make name Setting.integer .int get set

def real (name : String) (get : α → Double) (set : α → Double → α) : Field α :=
  make name Setting.real .real get set

def truth (name : String) (get : α → Bool) (set : α → Bool → α) : Field α :=
  make name Setting.truth .bool get set

def option (β : Type) [Tagged β] (name : String) (get : α → β) (set : α → β → α) : Field α :=
  make name (Setting.option β) (fun b => .text (Tagged.tag b)) get set

end Field

/-- A type of settings with its fields in their fixed order. -/
class Settings (α : Type) where
  /-- The settings of a new block. -/
  initial : α
  fields : List (Field α)

namespace Settings

variable {α : Type} [Settings α]

def toFields (a : α) : Fields :=
  (fields : List (Field α)).map fun field => (field.name, field.get a)

def field? (α : Type) [Settings α] (name : String) : Option (Field α) :=
  (fields : List (Field α)).find? fun field => field.name == name

def setField (field : Field α) (value : Value) (a : α) : Except Problem α :=
  (field.set? value).map fun set => set a

/-- Takes over a field from the data if it is there and good. -/
def adopt (data : Fields) (a : α) (field : Field α) : α :=
  match Assoc.get? data field.name with
  | none => a
  | some value =>
    match field.set? value with
    | .ok set => set a
    | .error _ => a

/-- Reads settings from loose data: each field that is there and good is taken over, every other
keeps its initial value, and names that are no field are passed over. -/
def ofFields (data : Fields) : α :=
  (fields : List (Field α)).foldl (adopt data) initial

/-- The names of the fields that are there but cannot be read. -/
def rejectedNames (α : Type) [Settings α] (data : Fields) : List String :=
  ((fields : List (Field α)).filter fun field =>
    match Assoc.get? data field.name with
    | none => false
    | some value =>
      match field.set? value with
      | .ok _ => false
      | .error _ => true).map Field.name

/-- The first thing wrong with the data, in the order of the fields. -/
def firstProblem (α : Type) [Settings α] (data : Fields) : Option Problem :=
  (fields : List (Field α)).findSome? fun field =>
    match Assoc.get? data field.name with
    | none => none
    | some value =>
      match field.set? value with
      | .ok _ => none
      | .error problem => some problem

/-- Reads a row of a list: a record all of whose known fields must be good. -/
def row (name : String) : Value → Except Problem α
  | .record data =>
    match firstProblem α data with
    | some problem => .error problem
    | none => .ok (ofFields data)
  | _ => .error (.notARow name)

end Settings

namespace Field

variable {α β : Type}

def rows (β : Type) [Settings β] (row : String) (name : String) (get : α → List β)
    (set : α → List β → α) : Field α :=
  make name (Setting.list (Settings.row row))
    (fun bs => .list (bs.map fun b => .record (Settings.toFields b))) get set

def texts (name : String) (get : α → List String) (set : α → List String → α) : Field α :=
  make name (Setting.list Setting.text) (fun ss => .list (ss.map .text)) get set

end Field

end DialogGraph
