import DialogGraph.Flow.Basic
import DialogGraph.Json.Printer

/-!
# Saving flows

A flow is saved as a record of its blocks, a list of its connections and the block counter. A block
carries its settings flat beside its id, type and place, and its slots last.
-/

namespace DialogGraph.Snapshot

/-- A block id or nothing, as a value. -/
def idValue : Option String → Value
  | none => .null
  | some id => .text id

def slotsValue (block : Block) : Value :=
  .record [
    ("input", idValue block.input),
    ("outputs", .record (block.outputs.map fun slot => (slot.1, idValue slot.2)))]

def blockValue (block : Block) : Value :=
  .record (
    [("id", .text block.id), ("type", .text block.kind.tag), ("x", block.x), ("y", block.y)] ++
      block.config.toFields ++ [("connections", slotsValue block)])

def edgeValue (edge : Edge) : Value :=
  .record [
    ("id", .text edge.id), ("from", .text edge.source), ("fromPort", .text edge.port),
    ("to", .text edge.target)]

def save (flow : Flow) : Value :=
  .record [
    ("blocks", .record (flow.blocks.map fun block => (block.id, blockValue block))),
    ("connections", .list (flow.edges.map edgeValue)),
    ("blockCounter", .int flow.blockCounter)]

/-- Snapshots are written with an indent of two blanks and without escapes for letters. -/
def style : Json.Style where
  indent := some "  "
  escapeUnicode := false
  sortNames := false
  itemSeparator := ","
  nameSeparator := ": "

def write (style : Json.Style) (flow : Flow) : Except TextFault String :=
  Json.write style 0 (save flow)

end DialogGraph.Snapshot
