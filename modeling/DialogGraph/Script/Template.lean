import DialogGraph.Assoc
import DialogGraph.Value.Text

/-!
# Templates

In a template a name between braces stands for the value bound to it. A template is cut into
pieces once, from left to right: a slot is an opening brace, at least one character that is no
brace, and a closing brace. A slot whose name is bound is replaced by the text of its value, every
other character stays, and what was put in is not looked at again.
-/

namespace DialogGraph

namespace Template

inductive Piece where
  | plain (c : Char)
  | slot (name : List Char)
  deriving Repr, DecidableEq

/-- The characters that a piece was cut from. -/
def Piece.source : Piece → List Char
  | plain c => [c]
  | slot name => '\x7b' :: (name ++ ['\x7d'])

/-- Cuts a row of characters into pieces. `held` holds what follows an opening brace, last first;
`done` holds the pieces already cut, last first. -/
def piecesFrom (done : List Piece) (held : Option (List Char)) : List Char → List Piece
  | [] =>
    match held with
    | none => done.reverse
    | some name => ((name.map Piece.plain) ++ (Piece.plain '\x7b' :: done)).reverse
  | c :: rest =>
    match held with
    | none =>
      if c == '\x7b' then piecesFrom done (some []) rest
      else piecesFrom (.plain c :: done) none rest
    | some name =>
      if c == '\x7b' then
        piecesFrom ((name.map Piece.plain) ++ (Piece.plain '\x7b' :: done)) (some []) rest
      else if c == '\x7d' then
        if name.isEmpty then piecesFrom (.plain c :: .plain '\x7b' :: done) none rest
        else piecesFrom (.slot name.reverse :: done) none rest
      else piecesFrom done (some (c :: name)) rest

def pieces (cs : List Char) : List Piece := piecesFrom [] none cs

def Piece.fill (bindings : Fields) (piece : Piece) : Except TextFault (List Char) :=
  match piece with
  | plain c => .ok [c]
  | slot name =>
    match Assoc.get? bindings (String.ofList name) with
    | some value => value.display.map String.toList
    | none => .ok piece.source

def fill (text : String) (bindings : Fields) : Except TextFault String := do
  let parts ← (pieces text.toList).mapM (Piece.fill bindings)
  return String.ofList parts.flatten

/-- Fills in the text of any value; an absent one is the empty text. -/
def fillValue (value : Value) (bindings : Fields) : Except TextFault String :=
  if value.isTruthy then do
    let text ← value.display
    fill text bindings
  else .ok ""

end Template

end DialogGraph
