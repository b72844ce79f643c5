import DialogGraph.Program
import DialogGraph.Proofs.Literal.Spelling
import DialogGraph.Proofs.Program.Closed

/-!
# What the program of a flow depends on

A program is written from the bot of a flow. The bot knows the blocks in their order, with their ids
and settings, and what each port leads to; where blocks stand, how edges are called, in which order
they are listed and what was counted is left behind. Nor does a program show where a double came
from, so doubles may be marked or not.
-/

namespace DialogGraph

open DialogGraph.Number DialogGraph.Text

/-! ### Marks are not written -/

namespace Value

mutual

theorem quoted_unmarked : ∀ value : Value, value.unmarked.quoted = value.quoted
  | null => rfl
  | bool _ => rfl
  | int _ => rfl
  | real _ => rfl
  | text _ => rfl
  | list items => by rw [unmarked, quoted, quoted, quotedItems_unmarkedItems items]
  | record fields => by rw [unmarked, quoted, quoted, quotedFields_unmarkedFields fields]

theorem quotedItems_unmarkedItems :
    ∀ items : List Value, quotedItems (unmarkedItems items) = quotedItems items
  | [] => rfl
  | item :: rest => by
    rw [unmarkedItems, quotedItems, quotedItems, quoted_unmarked item,
      quotedItems_unmarkedItems rest]

theorem quotedFields_unmarkedFields :
    ∀ fields : Fields, quotedFields (unmarkedFields fields) = quotedFields fields
  | [] => rfl
  | (name, value) :: rest => by
    rw [unmarkedFields, quotedFields, quotedFields, quoted_unmarked value,
      quotedFields_unmarkedFields rest]

end

theorem isEmpty_unmarkedItems (items : List Value) :
    (unmarkedItems items).isEmpty = items.isEmpty := by
  cases items <;> rfl

theorem isEmpty_unmarkedFields (fields : Fields) :
    (unmarkedFields fields).isEmpty = fields.isEmpty := by
  cases fields <;> rfl

end Value

namespace Program

open Value

mutual

theorem spread_unmarked (column after : Nat) :
    ∀ value : Value, spread column after value.unmarked = spread column after value
  | .null => rfl
  | .bool _ => rfl
  | .int _ => rfl
  | .real _ => rfl
  | .text _ => rfl
  | .list items => by
    rw [spread, spread, quoted_unmarked, unmarked]
    dsimp only
    rw [spreadItems_unmarkedItems (column + 1) (after + 1) items]
  | .record fields => by
    rw [spread, spread, quoted_unmarked, unmarked]
    dsimp only
    rw [spreadFields_unmarkedFields (column + 1) (after + 1) fields]

theorem spreadItems_unmarkedItems (column after : Nat) :
    ∀ items : List Value,
      spreadItems column after (unmarkedItems items) = spreadItems column after items
  | [] => rfl
  | item :: rest => by
    rw [unmarkedItems, spreadItems, spreadItems, isEmpty_unmarkedItems,
      spread_unmarked column _ item, spreadItems_unmarkedItems column after rest]

theorem spreadFields_unmarkedFields (column after : Nat) :
    ∀ fields : Fields,
      spreadFields column after (unmarkedFields fields) = spreadFields column after fields
  | [] => rfl
  | (name, value) :: rest => by
    rw [unmarkedFields, spreadFields, spreadFields, isEmpty_unmarkedFields,
      spread_unmarked (column + (quote name).length + 2) _ value,
      spreadFields_unmarkedFields column after rest]

end

end Program

/-! ### Settings without marks -/

namespace Config

def unmarked : Config → Config
  | ⟨.llmPrompt, settings⟩ =>
    let settings : LlmPromptSettings := settings
    ⟨.llmPrompt, { settings with temperature := ⟨settings.temperature.value, .fresh⟩ }⟩
  | config => config

variable (config : Config)

@[simp]
theorem kind_unmarked : config.unmarked.kind = config.kind := by
  unfold unmarked
  split <;> rfl

@[simp]
theorem ports_unmarked : config.unmarked.ports = config.ports := by
  unfold unmarked
  split <;> rfl

@[simp]
theorem routes_unmarked (id : String) : config.unmarked.routes id = config.routes id := by
  unfold unmarked
  split <;> rfl

/-- The fields of unmarked settings are the fields, unmarked. -/
theorem unmarkedFields_toFields_unmarked :
    Value.unmarkedFields config.unmarked.toFields = Value.unmarkedFields config.toFields := by
  unfold unmarked
  split <;> rfl

@[simp]
theorem unmarked_mark (n : Nat) : (config.mark n).unmarked = config.unmarked := by
  unfold mark
  split
  · unfold LlmPromptSettings.mark Double.mark unmarked
    dsimp only
    split <;> rfl
  · rfl

end Config

namespace Program

/-! ### Bots without marks -/

def Row.unmarked (row : Row) : Row := { row with config := row.config.unmarked }

def Bot.unmarked (bot : Bot) : Bot := { bot with rows := bot.rows.map Row.unmarked }

theorem Row.unmarked_toValue (row : Row) :
    row.unmarked.toValue.unmarked = row.toValue.unmarked := by
  have hcallbacks : row.unmarked.callbacks = row.callbacks := by
    rw [callbacks, unmarked, Config.routes_unmarked, callbacks]
  have hconfig : (Value.record row.unmarked.config.toFields).unmarked =
      (Value.record row.config.toFields).unmarked := by
    rw [Value.unmarked, Value.unmarked]
    exact congrArg _ row.config.unmarkedFields_toFields_unmarked
  have hkind : row.unmarked.config.kind = row.config.kind := row.config.kind_unmarked
  have hrest : row.unmarked.id = row.id ∧ row.unmarked.outputs = row.outputs := ⟨rfl, rfl⟩
  rw [toValue, toValue, hcallbacks, hkind, hrest.1, hrest.2]
  simp only [Value.unmarked_record, List.map_cons, hconfig]

theorem Bot.unmarked_table (bot : Bot) : bot.unmarked.table.unmarked = bot.table.unmarked := by
  simp only [table, unmarked, Value.unmarked_record, List.map_map]
  congr 1
  apply List.map_congr_left
  intro row _
  exact congrArg (Prod.mk row.id) row.unmarked_toValue

theorem handlers_unmarked (bot : Bot) : handlers bot.unmarked = handlers bot := by
  have hkinds : bot.unmarked.kinds = bot.kinds := by
    simp [Bot.kinds, Bot.unmarked, Row.unmarked, Function.comp_def]
  rw [handlers, hkinds, handlers]

theorem settingLines_unmarked (bot : Bot) : settingLines bot.unmarked = settingLines bot := by
  have htable : spread 0 0 bot.unmarked.table = spread 0 0 bot.table := by
    rw [← spread_unmarked, bot.unmarked_table, spread_unmarked]
  rw [settingLines, settingLines, htable]
  rfl

/-- The text of a program does not show marks. -/
theorem text_unmarked (date : String) (bot : Bot) : text date bot.unmarked = text date bot := by
  have hhandlers := handlers_unmarked bot
  have hheader : headerLines date bot.unmarked = headerLines date bot := by
    rw [headerLines, headerLines, requirements, requirements, hhandlers]
    rfl
  have hhelpers : helperLines bot.unmarked = helperLines bot := by
    rw [helperLines, helperLines, helpersOf, helpersOf, hhandlers]
  have hpreamble : preambleLines bot.unmarked = preambleLines bot := by
    rw [preambleLines, preambleLines, hhandlers]
  have hruntime : runtimeLines bot.unmarked = runtimeLines bot := by
    rw [runtimeLines, runtimeLines, hhandlers]
  rw [text, text, settingLines_unmarked, hheader, hhelpers, hpreamble, hruntime]

end Program

/-! ### Flows that are alike -/

/-- What a program shows of a block by itself: its id, its kind and its settings. -/
def Block.plan (block : Block) : String × Config := (block.id, block.config.unmarked)

/-- Two flows with the same blocks in the same order and the same connections, whatever the places
of the blocks, the ids and the order of the edges, and the counters. -/
structure Flow.Alike (flow other : Flow) : Prop where
  plans : flow.blocks.map Block.plan = other.blocks.map Block.plan
  joins : ∀ source port target, flow.Joins source port target ↔ other.Joins source port target

namespace Program.Bot

variable {flow other : Flow} {block : Block}

def rowOf (block : Block) : Row := ⟨block.id, block.config.unmarked, block.outputs⟩

theorem plan_eq_iff {otherBlock : Block} :
    block.plan = otherBlock.plan ↔
      block.id = otherBlock.id ∧ block.config.unmarked = otherBlock.config.unmarked :=
  Prod.mk_inj

/-- In well-formed flows with the same connections, blocks of one plan have the same slots. -/
theorem rowOf_eq (hflow : flow.WellFormed) (hother : other.WellFormed)
    (hjoins : ∀ source port target, flow.Joins source port target ↔ other.Joins source port target)
    (hblock : block ∈ flow.blocks) {otherBlock : Block} (hotherBlock : otherBlock ∈ other.blocks)
    (hplan : block.plan = otherBlock.plan) : rowOf block = rowOf otherBlock := by
  obtain ⟨hid, hconfig⟩ := plan_eq_iff.1 hplan
  have hports : block.config.ports = otherBlock.config.ports := by
    rw [← block.config.ports_unmarked, hconfig, otherBlock.config.ports_unmarked]
  have houtputs : block.outputs = otherBlock.outputs := by
    apply Block.outputs_eq
    · rw [hflow.keys_outputs block hblock, hother.keys_outputs otherBlock hotherBlock, hports]
    · rw [hflow.keys_outputs block hblock]
      exact block.config.nodup_ports
    · intro port
      refine Option.ext fun target => ?_
      rw [hflow.targetOf_iff block hblock, hother.targetOf_iff otherBlock hotherBlock, hid, hjoins]
  rw [rowOf, rowOf, hid, hconfig, houtputs]

/-- Flows that are alike have the same rows. -/
theorem map_rowOf_eq (hflow : flow.WellFormed) (hother : other.WellFormed)
    (halike : flow.Alike other) : flow.blocks.map rowOf = other.blocks.map rowOf := by
  have hlength : flow.blocks.length = other.blocks.length := by
    simpa using congrArg List.length halike.plans
  apply List.ext_getElem (by simpa using hlength)
  intro i hi hj
  rw [List.length_map] at hi hj
  have hplan : flow.blocks[i].plan = other.blocks[i].plan := by
    have hith := congrArg (fun plans => plans[i]?) halike.plans
    simpa [hi, hj] using hith
  rw [List.getElem_map, List.getElem_map]
  exact rowOf_eq hflow hother halike.joins (List.getElem_mem hi) (List.getElem_mem hj) hplan

theorem map_rowOf_starts (flow : Flow) :
    flow.starts.map rowOf =
      (flow.blocks.map rowOf).filter fun row => row.config.kind == .start := by
  rw [List.filter_map, Flow.starts]
  congr 2
  funext block
  rw [Function.comp_apply, rowOf, Config.kind_unmarked, Block.kind]

/-- The bot that begins at one of the given rows. -/
def ofRows (start : Row) (rows : List Row) (name token : String) : Bot where
  name := name
  token := token
  entry := (Assoc.get? start.outputs defaultPort).join
  greeting := greetingOf start.config
  rows := rows.filter fun row => row.config.kind != .start

theorem greetingOf_unmarked (config : Config) : greetingOf config.unmarked = greetingOf config := by
  unfold Config.unmarked
  split <;> rfl

/-- Without marks a bot is made from the rows of the flow alone. -/
theorem unmarked_beginningAt (start : Block) (flow : Flow) (name token : String) :
    (beginningAt start flow name token).unmarked =
      ofRows (rowOf start) (flow.blocks.map rowOf) name token := by
  have hrows : ((flow.blocks.filter fun block => block.kind != .start).map fun block =>
      (⟨block.id, block.config, block.outputs⟩ : Row)).map Row.unmarked =
        (flow.blocks.map rowOf).filter fun row => row.config.kind != .start := by
    rw [List.map_map, List.filter_map]
    congr 2
    funext block
    rw [Function.comp_apply, rowOf, Config.kind_unmarked, Block.kind]
  have hgreeting : greetingOf (rowOf start).config = greetingOf start.config :=
    greetingOf_unmarked start.config
  rw [unmarked, beginningAt, ofRows, hgreeting, ← hrows]
  rfl

/-- Well-formed flows that are alike come to the same bot, or fail alike to be one. -/
theorem ofFlow_alike (hflow : flow.WellFormed) (hother : other.WellFormed)
    (halike : flow.Alike other) (name token : String) :
    (ofFlow flow name token).map unmarked = (ofFlow other name token).map unmarked := by
  have hrows := map_rowOf_eq hflow hother halike
  have hstarts : flow.starts.map rowOf = other.starts.map rowOf := by
    rw [map_rowOf_starts, map_rowOf_starts, hrows]
  have hone : ∀ {flow : Flow} {start : Block}, flow.WellFormed → flow.starts = [start] →
      ofFlow flow name token = .ok (beginningAt start flow name token) :=
    fun hflow hstart => ofFlow_eq_ok_iff.2 ⟨_, hstart, checked_of_wellFormed hflow, rfl⟩
  rcases hfound : flow.starts with _ | ⟨start, _ | ⟨second, rest⟩⟩ <;>
    rcases hotherFound : other.starts with _ | ⟨otherStart, _ | ⟨otherSecond, otherRest⟩⟩ <;>
    rw [hfound, hotherFound] at hstarts
  case nil.nil => rw [ofFlow, hfound, ofFlow, hotherFound]
  case cons.nil.cons.nil =>
    have hstart : rowOf start = rowOf otherStart := (List.cons.inj hstarts).1
    rw [hone hflow hfound, hone hother hotherFound, Except.map, Except.map, unmarked_beginningAt,
      unmarked_beginningAt, hstart, hrows]
  case cons.cons.cons.cons =>
    have hid : second.id = otherSecond.id :=
      congrArg Row.id (List.cons.inj (List.cons.inj hstarts).2).1
    have hlength : rest.length = otherRest.length := by simpa using congrArg List.length hstarts
    rw [ofFlow, hfound, ofFlow, hotherFound]
    dsimp only
    rw [hid, hlength]
  all_goals simp at hstarts

end Program.Bot

namespace Program

variable {flow other : Flow}

/-- Whether two flows compile to the same program, or cannot be compiled for the same reason, under
every name and token and at every date. -/
def SameProgram (flow other : Flow) : Prop :=
  ∀ date name token, compile date flow name token = compile date other name token

/-- Well-formed flows that are alike compile to the same program. -/
theorem sameProgram_of_alike (hflow : flow.WellFormed) (hother : other.WellFormed)
    (halike : flow.Alike other) : SameProgram flow other := by
  intro date name token
  have hbots := Bot.ofFlow_alike hflow hother halike name token
  rw [compile, compile]
  cases hbot : Bot.ofFlow flow name token with
  | error fault =>
    cases hotherBot : Bot.ofFlow other name token with
    | error otherFault =>
      rw [hbot, hotherBot] at hbots
      rw [Except.error.inj hbots]
    | ok otherBot =>
      rw [hbot, hotherBot] at hbots
      cases hbots
  | ok bot =>
    cases hotherBot : Bot.ofFlow other name token with
    | error otherFault =>
      rw [hbot, hotherBot] at hbots
      cases hbots
    | ok otherBot =>
      rw [hbot, hotherBot] at hbots
      have hunmarked : bot.unmarked = otherBot.unmarked := Except.ok.inj hbots
      dsimp only
      rw [← text_unmarked date bot, hunmarked, text_unmarked]

end Program

end DialogGraph
