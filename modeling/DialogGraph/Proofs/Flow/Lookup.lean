import DialogGraph.Flow.Repair
import Mathlib.Data.List.Nodup

/-!
# Looking things up in a flow

A flow keeps its blocks and edges in lists and finds them by search. These lemmas turn each search
into membership, so that the later proofs speak of the blocks and edges that are there and not of
how they are found. The ports of a block are looked at in the same way: no settings give a block the
same port twice.
-/

namespace DialogGraph

open DialogGraph.Text

theorem nodup_map_concat {α β : Type} {g : α → β} {front : List α} {last : α}
    (hfront : (front.map g).Nodup) (hlast : ∀ a ∈ front, g a ≠ g last) :
    ((front ++ [last]).map g).Nodup := by
  rw [List.map_append, List.map_singleton, ← List.concat_eq_append]
  apply hfront.concat
  intro hmem
  obtain ⟨a, ha, hsame⟩ := List.mem_map.1 hmem
  exact hlast a ha hsame

/-! ### Ports -/

theorem nodup_addPort {ports : List String} (hports : ports.Nodup) (port : String) :
    (addPort ports port).Nodup := by
  rw [addPort]
  split
  · exact hports
  · rename_i hnew
    have hfresh : port ∉ ports := by
      intro hmem
      simp [hmem] at hnew
    rw [← List.concat_eq_append]
    exact hports.concat hfresh

theorem nodup_foldl_addPort {ports : List String} (hports : ports.Nodup) (more : List String) :
    (more.foldl addPort ports).Nodup := by
  induction more generalizing ports with
  | nil => exact hports
  | cons port rest ih => exact ih (nodup_addPort hports port)

theorem nodup_orderPorts (settings : OrderConfirmSettings) : (orderPorts settings).Nodup := by
  obtain ⟨_, _, confirm, edit, cancel⟩ := settings
  cases confirm <;> cases edit <;> cases cancel <;> simp [orderPorts]

/-- No settings give a block the same port twice. -/
theorem Config.nodup_ports (config : Config) : config.ports.Nodup := by
  obtain ⟨kind, settings⟩ := config
  cases kind
  case inlineKeyboard => exact nodup_foldl_addPort List.nodup_nil _
  case orderConfirm => exact nodup_orderPorts settings
  case condition => exact (by decide : [truePort, falsePort].Nodup)
  case loop => exact (by decide : [defaultPort, bodyPort].Nodup)
  all_goals exact List.nodup_singleton defaultPort

/-! ### Blocks -/

namespace Block

@[simp]
theorem keys_openSlots (ports : List String) : Assoc.keys (openSlots ports) = ports :=
  Assoc.keys_map_pair ports fun _ => none

@[simp]
theorem get?_openSlots_join (ports : List String) (port : String) :
    (Assoc.get? (openSlots ports) port).join = none := by
  rw [openSlots, Assoc.get?_map_pair]
  split <;> rfl

theorem targetOf_setOutput (block : Block) (port other : String) (target : Option String) :
    (block.setOutput port target).targetOf other =
      if port = other then target else block.targetOf other := by
  rw [targetOf, setOutput, Assoc.get?_insert]
  split <;> rfl

/-- Slots are determined by their ports and by what each port leads to. -/
theorem outputs_eq {block other : Block}
    (hkeys : Assoc.keys block.outputs = Assoc.keys other.outputs)
    (hnodup : (Assoc.keys block.outputs).Nodup)
    (htarget : ∀ port, block.targetOf port = other.targetOf port) :
    block.outputs = other.outputs := by
  apply Assoc.ext_get? hkeys hnodup
  intro port hport
  have hother : port ∈ Assoc.keys other.outputs := hkeys ▸ hport
  rw [← Assoc.contains_iff_mem_keys, Assoc.contains, Option.isSome_iff_exists] at hport hother
  obtain ⟨slot, hslot⟩ := hport
  obtain ⟨otherSlot, hotherSlot⟩ := hother
  have hsame := htarget port
  rw [targetOf, targetOf, hslot, hotherSlot, Option.join_some, Option.join_some] at hsame
  rw [hslot, hotherSlot, hsame]

end Block

namespace Flow

variable {flow : Flow} {id : String}

theorem mem_of_block? {block : Block} (hblock : flow.block? id = some block) :
    block ∈ flow.blocks :=
  List.mem_of_find?_eq_some hblock

theorem id_of_block? {block : Block} (hblock : flow.block? id = some block) : block.id = id := by
  simpa using List.find?_some hblock

theorem block?_eq_none_iff : flow.block? id = none ↔ ∀ block ∈ flow.blocks, block.id ≠ id := by
  simp [block?]

theorem hasBlock_iff : flow.hasBlock id = true ↔ ∃ block ∈ flow.blocks, block.id = id := by
  simp [hasBlock, block?]

theorem hasBlock_eq_false_iff :
    flow.hasBlock id = false ↔ ∀ block ∈ flow.blocks, block.id ≠ id := by
  simp [hasBlock, block?]

/-- Blocks are told apart by their ids. -/
theorem eq_of_id_eq (hnodup : (flow.blocks.map Block.id).Nodup) {block other : Block}
    (hblock : block ∈ flow.blocks) (hother : other ∈ flow.blocks) (hid : block.id = other.id) :
    block = other :=
  List.inj_on_of_nodup_map hnodup hblock hother hid

theorem block?_eq_some_iff (hnodup : (flow.blocks.map Block.id).Nodup) {block : Block} :
    flow.block? id = some block ↔ block ∈ flow.blocks ∧ block.id = id := by
  constructor
  · intro h
    exact ⟨mem_of_block? h, id_of_block? h⟩
  · rintro ⟨hblock, hid⟩
    cases hfound : flow.block? id with
    | none => exact absurd hid (block?_eq_none_iff.1 hfound block hblock)
    | some other =>
      have hother : other.id = block.id := (id_of_block? hfound).trans hid.symm
      rw [eq_of_id_eq hnodup (mem_of_block? hfound) hblock hother]

/-- A change of the blocks that keeps their ids commutes with looking them up. -/
theorem block?_map {g : Block → Block} (hid : ∀ block, (g block).id = block.id) :
    Flow.block? { flow with blocks := flow.blocks.map g } id = (flow.block? id).map g := by
  rw [block?, List.find?_map]
  simp only [Function.comp_def, hid]
  rfl

/-! ### Edges -/

theorem edge?_eq_none_iff : flow.edge? id = none ↔ ∀ edge ∈ flow.edges, edge.id ≠ id := by
  simp [edge?]

theorem mem_of_edge? {edge : Edge} (hedge : flow.edge? id = some edge) : edge ∈ flow.edges :=
  List.mem_of_find?_eq_some hedge

theorem id_of_edge? {edge : Edge} (hedge : flow.edge? id = some edge) : edge.id = id := by
  simpa using List.find?_some hedge

theorem edge?_eq_some_iff (hnodup : (flow.edges.map Edge.id).Nodup) {edge : Edge} :
    flow.edge? id = some edge ↔ edge ∈ flow.edges ∧ edge.id = id := by
  constructor
  · intro h
    exact ⟨mem_of_edge? h, id_of_edge? h⟩
  · rintro ⟨hedge, hid⟩
    cases hfound : flow.edge? id with
    | none => exact absurd hid (edge?_eq_none_iff.1 hfound edge hedge)
    | some other =>
      have hother : other.id = edge.id := (id_of_edge? hfound).trans hid.symm
      rw [List.inj_on_of_nodup_map hnodup (mem_of_edge? hfound) hedge hother]

theorem edgeOnPort?_eq_none_iff {port : String} :
    flow.edgeOnPort? id port = none ↔
      ∀ edge ∈ flow.edges, edge.source = id → edge.port ≠ port := by
  simp [edgeOnPort?]

theorem incoming?_eq_none_iff :
    flow.incoming? id = none ↔ ∀ edge ∈ flow.edges, edge.target ≠ id := by
  simp [incoming?]

end Flow

end DialogGraph
