import DialogGraph.Block.Option
import DialogGraph.Csv
import DialogGraph.Json.Parser
import DialogGraph.Script.Quantity
import DialogGraph.Text.Blank
import DialogGraph.Value.Text

/-!
# Product catalogs

A catalog is a list of products, written as JSON or as rows of comma-separated values under a
header. What is no catalog is an empty one. It is shown page by page, and a product is chosen by
the tag of its button.
-/

namespace DialogGraph.Catalog

open DialogGraph.Text DialogGraph.Number

structure Product where
  name : String
  price : Value
  description : String

/-- Why a catalog cannot be read at all. -/
inductive Fault where
  | tooDeep (container : Json.Container)
  | rows (fault : Csv.Fault)
  | text (fault : TextFault)
  deriving Repr, DecidableEq

def Fault.message : Fault → String
  | tooDeep container => (Json.Fault.tooDeep container).message
  | rows fault => fault.message
  | text fault => fault.message

/-- The product of a row: its name, price and description, each without outer blanks. A row without
a name is none. -/
def ofRow? : List String → Option Product
  | [] => none
  | first :: rest =>
    let name := trim first
    if name.isEmpty then none
    else some {
      name := name
      price := .text ((rest[0]?.map trim).getD "0")
      description := (rest[1]?.map trim).getD "" }

/-- The product of a record, if it has a name. -/
def ofRecord? : Value → Except TextFault (Option Product)
  | .record fields =>
    match Assoc.get? fields "name" with
    | some name =>
      if name.isTruthy then do
        let shown ← name.display
        let description ← ((Assoc.get? fields "description").getD (.text "")).display
        return some {
          name := shown
          price := (Assoc.get? fields "price").getD (.int 0)
          description := description }
      else .ok none
    | none => .ok none
  | _ => .ok none

/-- The list of records in a JSON value: the value itself or what it holds as its products. -/
def records : Value → List Value
  | .list items => items
  | .record fields =>
    match Assoc.get? fields "products" with
    | some (.list items) => items
    | _ => []
  | _ => []

def ofRows (s : String) : Except Fault (List Product) :=
  match Csv.rows s with
  | .ok rows => .ok ((rows.drop 1).filterMap ofRow?)
  | .error fault => .error (.rows fault)

def ofJson (s : String) (depth : Nat) : Except Fault (List Product) :=
  match Json.parse s depth with
  | .ok value =>
    match (records value).mapM ofRecord? with
    | .ok found => .ok (found.filterMap id)
    | .error fault => .error (.text fault)
  | .error (.tooDeep container) => .error (.tooDeep container)
  | .error _ => .ok []

/-- Reads a catalog. Whatever is not marked as comma-separated values is read as JSON. -/
def read (source : Option CatalogSource) (s : String) (depth : Nat := Json.usualDepth) :
    Except Fault (List Product) :=
  let text := trim s
  if text.isEmpty then .ok []
  else if source = some .csv then ofRows text
  else ofJson text depth

def emptyText : String := "The catalog is empty."

/-- How many products a page shows. -/
def pageSize : Nat := 8

/-- How many pages a catalog has; an empty one has one page. -/
def pageCount (size : Nat) : Nat := max 1 ((size + pageSize - 1) / pageSize)

/-- The page that a value stands for, moved into the range of pages. -/
def pageNumber (pages : Nat) (page : Value) : Nat :=
  min (max 0 (page.wholeOr 0)).toNat (pages - 1)

/-- The items of a list with their places, counted from `start`. -/
def numberedFrom {α : Type} (start : Nat) : List α → List (Nat × α)
  | [] => []
  | a :: rest => (start, a) :: numberedFrom (start + 1) rest

/-- The products of one page with their places in the catalog. -/
def pageItems {α : Type} (products : List α) (page : Nat) : List (Nat × α) :=
  numberedFrom (page * pageSize) ((products.drop (page * pageSize)).take pageSize)

def previousTag : String := "catalog_prev"

def nextTag : String := "catalog_next"

/-- What the tags of products begin with. -/
def productTagStart : String := "catalog_product_"

def productTag (index : Nat) : String := productTagStart ++ natText index

/-- The place that a tag names. -/
def tagIndex (tag : String) : Int :=
  (Value.text (String.ofList (tag.toList.drop productTagStart.length))).wholeOr (-1)

/-- The item of a list chosen by a tag, with its place. -/
def chosen? {α : Type} (items : List α) (tag : String) : Option (Nat × α) :=
  let index := tagIndex tag
  if index < 0 then none
  else (items[index.toNat]?).map fun item => (index.toNat, item)

/-- Why a chosen product cannot be bound. -/
inductive ProductFault where
  /-- The price is beyond the range of doubles. -/
  | range (fault : RangeFault)
  /-- The product has no field of this name. -/
  | missing (field : String)
  deriving Repr, DecidableEq

def ProductFault.message : ProductFault → String
  | range fault => fault.message
  | missing field => quote field

def Product.toFields (product : Product) : Fields := [
  ("name", .text product.name), ("price", product.price),
  ("description", .text product.description)]

/-- A field that a product has to have. -/
def fieldOf (product : Fields) (name : String) : Except ProductFault Value :=
  match Assoc.get? product name with
  | some value => .ok value
  | none => .error (.missing name)

def priceOf (product : Fields) : Except ProductFault Float := do
  let price ← fieldOf product "price"
  (price.realOr 0).mapError .range

/-- Binds a chosen product to the variables: its name, its price, its description and its number.
The first of them that cannot be had stops the binding. -/
def bind (index : Nat) (product : Fields) (bindings : Fields) :
    Fields × Except ProductFault Unit :=
  match fieldOf product "name" with
  | .error fault => (bindings, .error fault)
  | .ok name =>
    let bindings := Assoc.insert bindings "product_name" name
    match priceOf product with
    | .error fault => (bindings, .error fault)
    | .ok price =>
      let bindings := Assoc.insert bindings "product_price" (.real price)
      match fieldOf product "description" with
      | .error fault => (bindings, .error fault)
      | .ok description =>
        let bindings := Assoc.insert bindings "product_description" description
        (Assoc.insert bindings "selected_product_number" (.int (index + 1)), .ok ())

/-- Chooses among products given as loose records: whether there is one of the tag, and the
variables afterwards. -/
def selectRecord (products : List Fields) (tag : String) (bindings : Fields) :
    Fields × Except ProductFault Bool :=
  match chosen? products tag with
  | none => (bindings, .ok false)
  | some (index, product) =>
    match bind index product bindings with
    | (bindings, .ok ()) => (bindings, .ok true)
    | (bindings, .error fault) => (bindings, .error fault)

def select (products : List Product) (tag : String) (bindings : Fields) :
    Fields × Except ProductFault Bool :=
  selectRecord (products.map Product.toFields) tag bindings

end DialogGraph.Catalog
