import DialogGraph.Snapshot.Load
import DialogGraph.Snapshot.Save
import DialogGraph.Value.Equality

/-!
# History

The history of a flow is a bounded row of snapshots with a present among them. Recording after an
undo forgets what could have been redone; when the row is full the oldest snapshot falls off.

Doubles that are no numbers are told apart here: recording marks the new ones, each time with
another mark, so that a flow still equals its own snapshot but not one in which such a double was
set anew.
-/

namespace DialogGraph

/-- A history: the snapshots before the present, nearest first, the present one, and those after
it, nearest first. -/
structure History where
  limit : Nat
  limit_pos : 0 < limit
  past : List Value
  present : Option Value
  future : List Value
  /-- How many marks were used. -/
  marks : Nat

namespace History

def defaultLimit : Nat := 50

def empty (limit : Nat) (limit_pos : 0 < limit) : History := ⟨limit, limit_pos, [], none, [], 0⟩

/-- A history without snapshots, if the limit allows any. -/
def ofLimit? (limit : Int) : Option History :=
  if h : 0 < limit.toNat then some (empty limit.toNat h) else none

def length (history : History) : Nat :=
  history.past.length + history.present.toList.length + history.future.length

def canUndo (history : History) : Bool := !history.past.isEmpty

def canRedo (history : History) : Bool := !history.future.isEmpty

/-- Makes a snapshot the present one. -/
def push (history : History) (snapshot : Value) : History :=
  let past := history.present.toList ++ history.past
  { history with past := past.take (history.limit - 1), present := some snapshot, future := [] }

/-- Records a snapshot, unless it equals the present one. -/
def recordSnapshot (history : History) (snapshot : Value) : History :=
  match history.present with
  | some present => if present.equal snapshot then history else history.push snapshot
  | none => history.push snapshot

/-- Records a flow as it is, and marks what is new in it. -/
def record (history : History) (flow : Flow) : History × Flow :=
  let flow := flow.mark history.marks
  let history := { history with marks := history.marks + 1 }
  (history.recordSnapshot (Snapshot.save flow), flow)

/-- The history one step back, with the snapshot to go back to. -/
def back? (history : History) : Option (History × Value) :=
  match history.past with
  | [] => none
  | snapshot :: past =>
    let future := history.present.toList ++ history.future
    some ({ history with past := past, present := some snapshot, future := future }, snapshot)

/-- The history one step on, with the snapshot to go on to. -/
def forth? (history : History) : Option (History × Value) :=
  match history.future with
  | [] => none
  | snapshot :: future =>
    let past := history.present.toList ++ history.past
    some ({ history with past := past, present := some snapshot, future := future }, snapshot)

def clear (history : History) : History :=
  { history with past := [], present := none, future := [] }

/-- The result of a step through the history: whether there was one, unless the snapshot cannot be
loaded. -/
abbrev Stepped := Except Fault Bool

def restore (step : Option (History × Value)) (history : History) (flow : Flow) :
    History × Outcome Stepped :=
  match step with
  | none => (history, ⟨flow, [], .ok false⟩)
  | some (history, snapshot) =>
    let outcome := (Snapshot.load flow false snapshot).outcome
    (history, ⟨outcome.flow, outcome.events, outcome.result.map fun _ => true⟩)

/-- Goes back to the snapshot before the present one. -/
def undo (history : History) (flow : Flow) : History × Outcome Stepped :=
  restore history.back? history flow

/-- Goes on to the snapshot after the present one. -/
def redo (history : History) (flow : Flow) : History × Outcome Stepped :=
  restore history.forth? history flow

end History

end DialogGraph
