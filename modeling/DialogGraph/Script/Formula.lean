import DialogGraph.Number.Reading
import DialogGraph.Script.Template

/-!
# Formulas

A formula is arithmetic over numbers with `+ - * / %`, signs and parentheses. Integers are exact;
a quotient is always a double, and a remainder has the sign of its divisor. A formula that is none,
that divides by zero or leaves the range of doubles, or that is nested too deeply counts as 0. A
formula with very many signs or parentheses in front of an operand may exhaust the memory of those
who read it.
-/

namespace DialogGraph.Formula

open DialogGraph.Number DialogGraph.Text

inductive Operand where
  | int (n : Int)
  | real (x : Float)

def Operand.toValue : Operand → Value
  | int n => .int n
  | real x => .real x

/-- A number as a double; `none` beyond the range of doubles. -/
def Operand.toReal? : Operand → Option Float
  | int n => ofInt? n
  | real x => some x

inductive Operation where
  | add
  | subtract
  | multiply
  | divide
  | remainder
  deriving Repr, DecidableEq

inductive Expr where
  | number (operand : Operand)
  | keep (e : Expr)
  | negate (e : Expr)
  | binary (operation : Operation) (left right : Expr)

/-- How many operations and signs are nested in an expression. -/
def Expr.depth : Expr → Nat
  | number _ => 1
  | keep e => e.depth + 1
  | negate e => e.depth + 1
  | binary _ left right => max left.depth right.depth + 1

/-- The double nearest to the quotient of two integers; `none` for a zero divisor or beyond the
range of doubles. -/
def quotient? (m n : Int) : Option Float :=
  if n = 0 then none
  else
    let x := ofRatio ((m < 0) != (n < 0)) m.natAbs n.natAbs
    match decode x with
    | .finite _ => some x
    | _ => none

def Operation.onInts : Operation → Int → Int → Option Operand
  | add, m, n => some (.int (m + n))
  | subtract, m, n => some (.int (m - n))
  | multiply, m, n => some (.int (m * n))
  | divide, m, n => (quotient? m n).map .real
  | remainder, m, n => if n = 0 then none else some (.int (Int.fmod m n))

def Operation.onReals : Operation → Float → Float → Option Operand
  | add, x, y => some (.real (x + y))
  | subtract, x, y => some (.real (x - y))
  | multiply, x, y => some (.real (x * y))
  | divide, x, y => if isZero y then none else some (.real (x / y))
  | remainder, x, y => (remainder? x y).map .real

/-- An operation on two numbers: exact on integers, otherwise on doubles. -/
def Operation.apply (operation : Operation) (a b : Operand) : Option Operand :=
  match a, b with
  | .int m, .int n => operation.onInts m n
  | a, b => do
    let x ← a.toReal?
    let y ← b.toReal?
    operation.onReals x y

def Operand.negate : Operand → Operand
  | int n => .int (-n)
  | real x => .real (-x)

/-- The value of an expression; `none` where it has none. -/
def Expr.value? : Expr → Option Operand
  | number operand => some operand
  | keep e => e.value?
  | negate e => e.value?.map Operand.negate
  | binary operation left right => do
    let a ← left.value?
    let b ← right.value?
    operation.apply a b

inductive Token where
  | number (operand : Operand)
  | plus
  | minus
  | times
  | over
  | percent
  | opening
  | closing

def isNumberChar (c : Char) : Bool := c.isDigit || c == '.'

/-- A number from its digits and points: an integer without a superfluous leading zero, or a
decimal fraction with a digit on at least one side of its point. Zero may be written with any number
of zeros; the digits of another integer are limited. -/
def operand? (cs : List Char) : Option Operand :=
  let whole := cs.takeWhile Char.isDigit
  let values (ds : List Char) : List Nat := ds.map fun d => d.toNat - 48
  match cs.drop whole.length with
  | [] =>
    if whole.isEmpty then none
    else if whole.all (· == '0') then some (.int 0)
    else if whole.head? = some '0' || digitLimit < whole.length then none
    else some (.int (digitsValue (values whole)))
  | _ :: fraction =>
    if fraction.all Char.isDigit && !(whole.isEmpty && fraction.isEmpty) then
      some (.real (ofDecimal false (digitsValue (values (whole ++ fraction)))
        (-(fraction.length : Int))))
    else none

def operator? (c : Char) : Option Token :=
  if c == '+' then some .plus
  else if c == '-' then some .minus
  else if c == '*' then some .times
  else if c == '/' then some .over
  else if c == '%' then some .percent
  else if c == '(' then some .opening
  else if c == ')' then some .closing
  else none

/-- Cuts a row of characters into symbols; `held` holds the number being read, last first, and
`done` the symbols already cut, last first. -/
def tokensFrom (done : List Token) (held : List Char) : List Char → Option (List Token)
  | [] =>
    if held.isEmpty then some done.reverse
    else (operand? held.reverse).map fun operand => (.number operand :: done).reverse
  | c :: rest =>
    if isNumberChar c then tokensFrom done (c :: held) rest
    else do
      let token ← operator? c
      if held.isEmpty then tokensFrom (token :: done) [] rest
      else
        let operand ← operand? held.reverse
        tokensFrom (token :: .number operand :: done) [] rest

def tokens? (cs : List Char) : Option (List Token) := tokensFrom [] [] cs

/-- How deep parentheses may be nested. -/
def parenthesisLimit : Nat := 200

/-- Whether no more parentheses are open at once than allowed; `opened` counts those that are. -/
def withinParentheses (opened : Nat) : List Token → Bool
  | [] => true
  | .opening :: rest => opened < parenthesisLimit && withinParentheses (opened + 1) rest
  | .closing :: rest => withinParentheses (opened - 1) rest
  | _ :: rest => withinParentheses opened rest

def sumOperation? : Token → Option Operation
  | .plus => some .add
  | .minus => some .subtract
  | _ => none

def productOperation? : Token → Option Operation
  | .times => some .multiply
  | .over => some .divide
  | .percent => some .remainder
  | _ => none

mutual

/-- Reads a sum: products joined from the left. Every reader takes a bound on its steps and gives
back the symbols that it leaves. -/
def sum? : Nat → List Token → Option (Expr × List Token)
  | 0, _ => none
  | steps + 1, symbols => do
    let (first, rest) ← product? steps symbols
    sumTail? steps first rest

def sumTail? : Nat → Expr → List Token → Option (Expr × List Token)
  | 0, _, _ => none
  | _ + 1, left, [] => some (left, [])
  | steps + 1, left, token :: rest =>
    match sumOperation? token with
    | none => some (left, token :: rest)
    | some operation => do
      let (right, rest) ← product? steps rest
      sumTail? steps (.binary operation left right) rest

/-- Reads a product: signed factors joined from the left. -/
def product? : Nat → List Token → Option (Expr × List Token)
  | 0, _ => none
  | steps + 1, symbols => do
    let (first, rest) ← factor? steps symbols
    productTail? steps first rest

def productTail? : Nat → Expr → List Token → Option (Expr × List Token)
  | 0, _, _ => none
  | _ + 1, left, [] => some (left, [])
  | steps + 1, left, token :: rest =>
    match productOperation? token with
    | none => some (left, token :: rest)
    | some operation => do
      let (right, rest) ← factor? steps rest
      productTail? steps (.binary operation left right) rest

/-- Reads a number or a parenthesis with any signs in front. -/
def factor? : Nat → List Token → Option (Expr × List Token)
  | steps + 1, .plus :: rest => do
    let (e, rest) ← factor? steps rest
    return (.keep e, rest)
  | steps + 1, .minus :: rest => do
    let (e, rest) ← factor? steps rest
    return (.negate e, rest)
  | _ + 1, .number operand :: rest => some (.number operand, rest)
  | steps + 1, .opening :: rest => do
    match ← sum? steps rest with
    | (e, .closing :: rest) => return (e, rest)
    | _ => none
  | _, _ => none

end

/-- Reads a whole formula. No reader takes more than four steps for a symbol. -/
def parse? (symbols : List Token) : Option Expr :=
  if withinParentheses 0 symbols then
    match sum? (4 * symbols.length + 4) symbols with
    | some (e, []) => some e
    | _ => none
  else none

/-- The value of an expression that is nested no deeper than is allowed. -/
def evaluate? (depth : Nat) (e : Expr) : Option Operand :=
  if e.depth ≤ depth then e.value? else none

/-- A number, an integral double becoming an integer. -/
def Operand.settle : Operand → Operand
  | int n => .int n
  | real x =>
    match exactInt? x with
    | some n => .int n
    | none => .real x

/-- The value of a formula without blanks. -/
def compute? (depth : Nat) (cs : List Char) : Option Operand := do
  let symbols ← tokens? cs
  let e ← parse? symbols
  let result ← evaluate? depth e
  return result.settle

/-- What a text without blanks comes to: 0 if it has no value. -/
def resultOf (depth : Nat) (cs : List Char) : Value :=
  match compute? depth cs with
  | some result => result.toValue
  | none => .int 0

/-- The depth that a usual machine leaves to an evaluation. -/
def usualDepth : Nat := 950

/-- The value of a formula after its variables are filled in and its blanks removed; 0 if it has
none. A fault arises only where a variable has no text. The reader of expressions is taken to follow
the grammar; that it may run out of memory is left to `Room.calculate`. -/
def calculate (formula : Value) (bindings : Fields) (depth : Nat := usualDepth) :
    Except TextFault Value := do
  let text ← Template.fillValue formula bindings
  return resultOf depth (squeeze text)

/-! ### The room for a formula -/

/-- The characters that symbols are spelled with. -/
def alphabet : List Char := "0123456789+-*/%().".toList

/-- What a machine leaves for formulas. Neither is in the hands of those who write them: the one
depends on what else is under way, the other on how the reader of expressions is built. -/
structure Room where
  /-- How deeply an expression may be nested to be evaluated. -/
  depth : Nat
  /-- The texts at which the reader runs out of memory. -/
  exhausts : List Char → Bool

/-- Why a formula is given up. -/
inductive Fault where
  | text (fault : TextFault)
  /-- The reader of expressions has run out of memory. -/
  | memory
  deriving Repr, DecidableEq

/-- The wording of a fault. Nothing is said about memory. -/
def Fault.message : Fault → String
  | text fault => fault.message
  | memory => ""

namespace Room

/-- Whether the reader runs out of memory at a text without blanks. It is given only texts that have
characters, all of them such as formulas have. -/
def runsOut (room : Room) (cs : List Char) : Bool :=
  !cs.isEmpty && cs.all alphabet.contains && room.exhausts cs

/-- The value of a formula, as far as there is room for it. -/
def calculate (room : Room) (formula : Value) (bindings : Fields) : Except Fault Value := do
  let text ← (Template.fillValue formula bindings).mapError .text
  if room.runsOut (squeeze text) then .error .memory
  else .ok (resultOf room.depth (squeeze text))

/-- The levels of its stack that the usual reader takes for an open parenthesis. -/
def parenthesisLevels : Nat := 28

/-- The levels that the usual reader has for signs and parentheses. -/
def usualLevels : Nat := 5975

/-- The levels in use inside of parentheses, each given with the signs in front of it. -/
def levels : List Nat → Nat
  | [] => 0
  | signs :: outer => signs + parenthesisLevels + levels outer

def isSign (c : Char) : Bool := c == '+' || c == '-'

/-- The most levels in use at once while a text is read. A sign in front of an operand takes one
until the operand is read, as `signs` does for the operand to come; `ended` tells that an operand has
just ended, so that a sign joins it to another. The reader stops at a parenthesis that it does not
take. -/
def peak (outer : List Nat) (signs : Nat) (ended : Bool) : List Char → Nat
  | [] => 0
  | c :: rest =>
    if c == '(' then
      if parenthesisLimit ≤ outer.length then 0
      else max (levels (signs :: outer)) (peak (signs :: outer) 0 false rest)
    else if c == ')' then
      if ended && !outer.isEmpty then peak outer.tail 0 true rest else 0
    else if isSign c && !ended then
      max (levels outer + signs + 1) (peak outer (signs + 1) false rest)
    else peak outer 0 (isNumberChar c) rest

/-- The room on a usual machine. Its numbers are measured, not laid down; what is proved of formulas
holds in every room. -/
def usual : Room where
  depth := usualDepth
  exhausts cs := usualLevels < peak [] 0 false cs

end Room

end DialogGraph.Formula
