/-!
# Options

Some settings of a block are a choice among a few options. An option is saved as its tag.
-/

namespace DialogGraph

/-- A type of options, each with its own tag. -/
class Tagged (α : Type) where
  /-- The options in their fixed order. -/
  all : List α
  tag : α → String

def Tagged.ofTag? {α : Type} [Tagged α] (s : String) : Option α :=
  (Tagged.all : List α).find? fun option => Tagged.tag option == s

def Tagged.tags (α : Type) [Tagged α] : List String :=
  (Tagged.all : List α).map Tagged.tag

inductive Comparison where
  | equals
  | notEquals
  | contains
  | notEmpty
  deriving Repr, DecidableEq, Inhabited

instance : Tagged Comparison where
  all := [.equals, .notEquals, .contains, .notEmpty]
  tag
    | .equals => "equals"
    | .notEquals => "not_equals"
    | .contains => "contains"
    | .notEmpty => "not_empty"

/-- What a loop runs over. -/
inductive LoopMode where
  | count
  | whilst
  | list
  deriving Repr, DecidableEq, Inhabited

instance : Tagged LoopMode where
  all := [.count, .whilst, .list]
  tag
    | .count => "count"
    | .whilst => "while"
    | .list => "list"

inductive CartAction where
  | add
  | remove
  | show
  | clear
  | count
  deriving Repr, DecidableEq, Inhabited

instance : Tagged CartAction where
  all := [.add, .remove, .show, .clear, .count]
  tag
    | .add => "add"
    | .remove => "remove"
    | .show => "show"
    | .clear => "clear"
    | .count => "count"

inductive StoreOperation where
  | save
  | load
  | delete
  deriving Repr, DecidableEq, Inhabited

instance : Tagged StoreOperation where
  all := [.save, .load, .delete]
  tag
    | .save => "save"
    | .load => "load"
    | .delete => "delete"

/-- The notation of a product catalog. -/
inductive CatalogSource where
  | json
  | csv
  deriving Repr, DecidableEq, Inhabited

instance : Tagged CatalogSource where
  all := [.json, .csv]
  tag
    | .json => "json"
    | .csv => "csv"

inductive NotifyTarget where
  | admin
  | custom
  deriving Repr, DecidableEq, Inhabited

instance : Tagged NotifyTarget where
  all := [.admin, .custom]
  tag
    | .admin => "admin"
    | .custom => "custom"

inductive FormFieldType where
  | name
  | phone
  | email
  | address
  | comment
  deriving Repr, DecidableEq, Inhabited

instance : Tagged FormFieldType where
  all := [.name, .phone, .email, .address, .comment]
  tag
    | .name => "name"
    | .phone => "phone"
    | .email => "email"
    | .address => "address"
    | .comment => "comment"

end DialogGraph
