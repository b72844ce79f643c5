import DialogGraph.Assoc
import DialogGraph.Block.Option
import DialogGraph.Script.Quantity
import DialogGraph.Value.Text

/-!
# The cart

A cart holds quantities of products in the order in which they were first added.
-/

namespace DialogGraph

open DialogGraph.Number

/-- Quantities by product. -/
abbrev Cart := List (String × Int)

namespace Cart

/-- Whether a value can name a product: anything but null and the empty text. -/
def isProduct : Value → Bool
  | .null => false
  | .text s => !s.isEmpty
  | _ => true

/-- The quantity that a value stands for: at least one. -/
def quantity (value : Value) : Int := max 1 (value.wholeOr 1)

/-- Applies an action to a cart; one that only looks at it changes nothing. -/
def update (cart : Cart) (action : Option CartAction) (product amount : Value) :
    Except TextFault Cart :=
  match action with
  | some .add =>
    if isProduct product then do
      let key ← product.display
      return Assoc.insert cart key ((Assoc.get? cart key).getD 0 + quantity amount)
    else .ok cart
  | some .remove =>
    if isProduct product then do
      let key ← product.display
      return Assoc.erase cart key
    else .ok cart
  | some .clear => .ok []
  | _ => .ok cart

def emptyText : String := "🛒 Your cart is empty"

def line (entry : String × Int) : String :=
  "• " ++ entry.1 ++ " × " ++ intText entry.2

def summary (cart : Cart) : String :=
  if cart.isEmpty then emptyText
  else "\n".intercalate ("🛒 Your cart:" :: cart.map line)

end Cart

end DialogGraph
