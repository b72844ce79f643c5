import DialogGraph.Proofs.Block.Keyed
import DialogGraph.Proofs.Literal.Spreading
import DialogGraph.Proofs.Program.Compiling

/-!
# The data of a bot in its program

A program holds the data of its bot in the literals of its settings: the name, the token, the
greeting, the entry, and the table of the blocks. All of them are read as what they were written
for, with one exception. A double that is infinite or no number is written as a name, and a name is
no literal. So the table is read as the table of the bot when all doubles in the settings of its
blocks are finite, and as nothing otherwise.
-/

namespace DialogGraph.Program

open DialogGraph.Literal DialogGraph.Text

/-! ### The table -/

/-- The data of a block are keyed when no two of its ports are the same. -/
theorem keyed_toValue {row : Row} (hports : (Assoc.keys row.outputs).Nodup) :
    row.toValue.Keyed := by
  have houtputs :
      (Value.record (row.outputs.map fun slot => (slot.1, Row.slotValue slot.2))).Keyed := by
    apply Value.Keyed.record
    · simpa [Assoc.keys, Function.comp_def] using hports
    · intro field hfield
      obtain ⟨⟨port, target⟩, -, rfl⟩ := List.mem_map.1 hfield
      cases target <;> exact .scalar rfl
  have hcallbacks :
      (Value.record (row.callbacks.map fun callback => (callback.1, .text callback.2))).Keyed := by
    apply Value.Keyed.record
    · have hnodup : (Assoc.keys row.callbacks).Nodup := Assoc.nodup_keys_ofList _
      rwa [Assoc.keys, List.map_map]
    · intro field hfield
      obtain ⟨callback, -, rfl⟩ := List.mem_map.1 hfield
      exact .scalar rfl
  apply Value.Keyed.record
  · simp [Assoc.keys]
  · exact List.forall_iff_forall_mem.1
      ⟨.scalar rfl, .scalar rfl, row.config.keyed_toFields, houtputs, hcallbacks⟩

theorem keyed_table {bot : Bot} (hids : (bot.rows.map Row.id).Nodup)
    (hports : ∀ row ∈ bot.rows, (Assoc.keys row.outputs).Nodup) : bot.table.Keyed := by
  apply Value.Keyed.record
  · simpa [Assoc.keys, Function.comp_def] using hids
  · intro field hfield
    obtain ⟨row, hrow, rfl⟩ := List.mem_map.1 hfield
    exact keyed_toValue (hports row hrow)

/-- Of the data of a block only its settings can hold doubles. -/
theorem allFinite_toValue (row : Row) :
    row.toValue.allFinite = (Value.record row.config.toFields).allFinite := by
  have houtputs : ∀ slot : String × Option String, (Row.slotValue slot.2).allFinite = true := by
    rintro ⟨port, target⟩
    cases target <;> rfl
  have hcallbacks : ∀ s : String, (Value.text s).allFinite = true := fun _ => rfl
  simp [Row.toValue, houtputs, hcallbacks]

/-- Whether all doubles in the settings of a bot's blocks are finite. -/
def Bot.Finite (bot : Bot) : Prop :=
  ∀ row ∈ bot.rows, (Value.record row.config.toFields).allFinite = true

instance (bot : Bot) : Decidable bot.Finite :=
  inferInstanceAs (Decidable (∀ row ∈ bot.rows, _))

theorem allFinite_table_iff {bot : Bot} : bot.table.allFinite = true ↔ bot.Finite := by
  rw [Bot.table, Value.allFinite_record, List.all_map, List.all_eq_true]
  simp only [Function.comp_apply, allFinite_toValue, Bot.Finite]

/-! ### The settings of a program -/

/-- The literals in the settings of a program. -/
structure Literals where
  name : String
  token : String
  greeting : String
  entry : String
  table : String

namespace Literals

/-- The settings before the table. -/
def head (literals : Literals) : List String := [
  Writer.headingText "Settings",
  "",
  "BOT_NAME = " ++ literals.name,
  "BOT_TOKEN = os.environ.get(\"BOT_TOKEN\", " ++ literals.token ++ ")",
  "ADMIN_CHAT_ID = os.environ.get(\"ADMIN_CHAT_ID\", \"\")",
  "DATABASE_FILE = os.environ.get(\"BOT_DATABASE\", \"bot_database.json\")",
  "",
  "",
  Writer.headingText "Flow graph",
  "",
  "START_MESSAGE = " ++ literals.greeting,
  "ENTRY_NODE_ID = " ++ literals.entry]

def settings (literals : Literals) : List String :=
  literals.head ++ ["BLOCKS_GRAPH = " ++ literals.table]

/-- Whether the literals are read as the data of a bot. Nothing is read from the table of a bot that
is not finite. -/
structure ReadAs (literals : Literals) (bot : Bot) : Prop where
  name : read? literals.name = some (.text bot.name)
  token : read? literals.token = some (.text bot.token)
  greeting : read? literals.greeting = some (.text bot.greeting)
  entry : read? literals.entry = some (Row.slotValue bot.entry)
  table : read? literals.table = if bot.Finite then some bot.table.unmarked else none

end Literals

/-- The literals of a bot whose table is written in a given way. -/
def literalsOf (bot : Bot) (table : String) : Literals where
  name := quote bot.name
  token := quote bot.token
  greeting := quote bot.greeting
  entry := idLiteral bot.entry
  table := table

theorem indented_zero : Writer.indented 0 = id := by
  funext line
  rw [Writer.indented]
  split_ifs with hempty
  · exact (String.isEmpty_iff.1 hempty).symm
  · exact String.empty_append

theorem settingLines_eq_ok_iff {bot : Bot} {lines : List String} :
    settingLines bot = .ok lines ↔ ∃ table, spread 0 0 bot.table = .ok table ∧
      (literalsOf bot table).head ++ linesOf ("BLOCKS_GRAPH = " ++ table) = lines := by
  rw [settingLines, bind_eq_ok_iff]
  simp [Writer.heading, Writer.extend, Writer.line, indented_zero, Literals.head, literalsOf, pure,
    Except.pure]

/-! ### The lines of a program -/

theorem exists_closed_eq_append (part : List String) : ∃ rest, closed part = part ++ rest := by
  rw [closed]
  split
  · exact ⟨[], (List.append_nil _).symm⟩
  · split_ifs
    · exact ⟨[], (List.append_nil _).symm⟩
    · exact ⟨[""], rfl⟩

/-- Lines stay when a line that is not empty follows them. -/
theorem dropLastBlanks_append (lines : List String) {rest : List String}
    (hrest : ∃ line ∈ rest, line.isEmpty = false) :
    dropLastBlanks (lines ++ rest) = lines ++ dropLastBlanks rest := by
  have hkept : (rest.reverse.dropWhile String.isEmpty).isEmpty = false := by
    obtain ⟨line, hmem, hline⟩ := hrest
    rw [List.isEmpty_eq_false_iff, Ne, List.dropWhile_eq_nil_iff]
    intro hempty
    rw [hempty line (List.mem_reverse.2 hmem)] at hline
    cases hline
  rw [dropLastBlanks, dropLastBlanks, List.reverse_append, List.dropWhile_append, hkept]
  simp

def behindSettings (bot : Bot) (helpers : List String) : List (List String) :=
  [[""], helpers, preambleLines bot, ["", ""], supportLines, ["", ""], runtimeLines bot, ["", ""],
    messengerLines]

theorem exists_line_behind (bot : Bot) (helpers blanks : List String) :
    ∃ line ∈ blanks ++ (behindSettings bot helpers).flatMap closed, line.isEmpty = false := by
  obtain ⟨line, more, hlines, hline⟩ :
      ∃ line more, messengerLines = line :: more ∧ line.isEmpty = false := ⟨_, _, rfl, by simp⟩
  obtain ⟨rest, hrest⟩ := exists_closed_eq_append messengerLines
  refine ⟨line, List.mem_append_right _ (List.mem_flatMap.2 ⟨messengerLines, ?_, ?_⟩), hline⟩
  · simp [behindSettings]
  · rw [hrest, hlines]
    exact List.mem_cons_self

theorem closed_append (lines : List String) {rest : List String} (hrest : rest ≠ []) :
    closed (lines ++ rest) = lines ++ closed rest := by
  rw [closed, List.getLast?_append_of_ne_nil _ hrest, closed]
  split
  · rfl
  · split_ifs
    · rfl
    · exact List.append_assoc _ _ _

/-- The lines of a program from its table on. -/
def linesFromTable (bot : Bot) (table : String) (helpers : List String) : List String :=
  dropLastBlanks (closed (linesOf ("BLOCKS_GRAPH = " ++ table)) ++
    (behindSettings bot helpers).flatMap closed) ++ [""]

theorem linesFromTable_ne_nil (bot : Bot) (table : String) (helpers : List String) :
    linesFromTable bot table helpers ≠ [] :=
  List.append_ne_nil_of_right_ne_nil _ (List.cons_ne_nil _ _)

theorem linesOf_table_ne_nil (table : String) : linesOf ("BLOCKS_GRAPH = " ++ table) ≠ [] :=
  linesOf_ne_nil (by simp)

theorem exists_linesFromTable_eq (bot : Bot) (table : String) (helpers : List String) :
    ∃ rest, linesFromTable bot table helpers =
      linesOf ("BLOCKS_GRAPH = " ++ table) ++ rest := by
  obtain ⟨blanks, hblanks⟩ := exists_closed_eq_append (linesOf ("BLOCKS_GRAPH = " ++ table))
  refine ⟨dropLastBlanks (blanks ++ (behindSettings bot helpers).flatMap closed) ++ [""], ?_⟩
  rw [linesFromTable, hblanks, List.append_assoc,
    dropLastBlanks_append _ (exists_line_behind bot helpers blanks), List.append_assoc]

/-- A program consists of its head, its settings up to the table, and the lines from there on. -/
theorem text_eq_ok_iff {date : String} {bot : Bot} {source : String} :
    text date bot = .ok source ↔ ∃ table helpers, spread 0 0 bot.table = .ok table ∧
      helperLines bot = .ok helpers ∧ "\n".intercalate (closed (headerLines date bot) ++
        (literalsOf bot table).head ++ linesFromTable bot table helpers) = source := by
  have hjoined : ∀ table helpers, "\n".intercalate (dropLastBlanks ((headerLines date bot ::
      ((literalsOf bot table).head ++ linesOf ("BLOCKS_GRAPH = " ++ table)) ::
        behindSettings bot helpers).flatMap closed)) ++ "\n" =
      "\n".intercalate (closed (headerLines date bot) ++ (literalsOf bot table).head ++
        linesFromTable bot table helpers) := by
    intro table helpers
    rw [List.flatMap_cons, List.flatMap_cons, closed_append _ (linesOf_table_ne_nil table),
      List.append_assoc, ← List.append_assoc]
    have hhead : closed (headerLines date bot) ++ (literalsOf bot table).head ≠ [] :=
      List.append_ne_nil_of_right_ne_nil _ (List.cons_ne_nil _ _)
    rw [dropLastBlanks_append _ (exists_line_behind bot helpers _), linesFromTable,
      ← List.append_assoc, String.intercalate_append_of_ne_nil
        (List.append_ne_nil_of_left_ne_nil hhead _) (List.cons_ne_nil _ _),
      String.intercalate_singleton, String.append_empty]
  rw [text, bind_eq_ok_iff]
  constructor
  · rintro ⟨settings, hsettings, htext⟩
    obtain ⟨helpers, hhelpers, htext⟩ := bind_eq_ok_iff.1 htext
    obtain ⟨table, htable, rfl⟩ := settingLines_eq_ok_iff.1 hsettings
    exact ⟨table, helpers, htable, hhelpers,
      (hjoined table helpers).symm.trans (Except.ok.inj htext)⟩
  · rintro ⟨table, helpers, htable, hhelpers, rfl⟩
    refine ⟨_, settingLines_eq_ok_iff.2 ⟨table, htable, rfl⟩, ?_⟩
    refine bind_eq_ok_iff.2 ⟨helpers, hhelpers, ?_⟩
    exact congrArg Except.ok (hjoined table helpers)

/-- Lines that make up the same text may stand for each other among lines. -/
theorem intercalate_congr {separator : String} (before rest : List String)
    {lines others : List String} (hlines : lines ≠ []) (hothers : others ≠ [])
    (hsame : separator.intercalate lines = separator.intercalate others) :
    separator.intercalate (before ++ lines ++ rest) =
      separator.intercalate (before ++ others ++ rest) := by
  have hfront : separator.intercalate (before ++ lines) =
      separator.intercalate (before ++ others) := by
    rcases eq_or_ne before [] with rfl | hbefore
    · exact hsame
    · rw [String.intercalate_append_of_ne_nil hbefore hlines,
        String.intercalate_append_of_ne_nil hbefore hothers, hsame]
  rcases eq_or_ne rest [] with rfl | hrest
  · rwa [List.append_nil, List.append_nil]
  · rw [String.intercalate_append_of_ne_nil (List.append_ne_nil_of_right_ne_nil _ hlines) hrest,
      String.intercalate_append_of_ne_nil (List.append_ne_nil_of_right_ne_nil _ hothers) hrest,
      hfront]

/-- The literal of a record ends with its bracket. -/
theorem getLast?_of_spread {column after : Nat} {fields : Fields} {line : String}
    (hspread : spread column after (.record fields) = .ok line) :
    line.toList.getLast? = some '\x7d' := by
  have hclosed : ∀ s : String, (s ++ closeBrace).toList.getLast? = some '\x7d' := by
    intro s
    simp [closeBrace]
  rcases spread_cases hspread with
    hline | ⟨s, hnone, -⟩ | ⟨items, parts, hnone, -⟩ | ⟨fields, parts, -, -, rfl⟩
  · rw [Value.quoted, bind_eq_ok_iff] at hline
    obtain ⟨parts, -, hsame⟩ := hline
    obtain rfl := Except.ok.inj hsame
    exact hclosed _
  · cases hnone
  · cases hnone
  · exact hclosed _

variable {bot : Bot} {table : String}

/-- Cut into lines, the table is still the same text. -/
theorem intercalate_linesOf_table (hkeyed : bot.table.Keyed)
    (htable : spread 0 0 bot.table = .ok table) :
    "\n".intercalate (linesOf ("BLOCKS_GRAPH = " ++ table)) = "BLOCKS_GRAPH = " ++ table := by
  have hwrites : Writes [] table bot.table.literal? := writes_spread hkeyed (.inr rfl) htable
  apply intercalate_linesOf
  · rw [String.toList_append]
    exact OnlyFeeds.append (by decide) hwrites.feeds
  · have hlast : table.toList.getLast? = some '\x7d' := getLast?_of_spread htable
    rw [String.toList_append, List.getLast?_append, hlast]
    decide

/-- The literals of a bot are read as its data. -/
theorem readAs_literalsOf (hkeyed : bot.table.Keyed) (htable : spread 0 0 bot.table = .ok table) :
    (literalsOf bot table).ReadAs bot where
  name := read?_of_spells (spells_quote bot.name)
  token := read?_of_spells (spells_quote bot.token)
  greeting := read?_of_spells (spells_quote bot.greeting)
  entry := by
    apply read?_of_spells
    have hnone : Spells [] "None".toList (some .null) := spells_word (by decide) (by decide)
    rw [literalsOf]
    cases bot.entry with
    | none => exact hnone
    | some id => exact spells_quote id
  table := by
    have hwrites : Writes [] table bot.table.literal? := writes_spread hkeyed (.inr rfl) htable
    rw [literalsOf, read?_of_spells hwrites.spells, Value.literal?]
    exact if_congr allFinite_table_iff rfl rfl

/-- Whether the program of a bot holds its data in the literals of its settings. -/
def HoldsData (date source : String) (bot : Bot) : Prop :=
  ∃ table rest, spread 0 0 bot.table = .ok table ∧
    source = "\n".intercalate
      (closed (headerLines date bot) ++ (literalsOf bot table).settings ++ rest) ∧
    (literalsOf bot table).ReadAs bot

/-- The program of a bot holds its data. -/
theorem holdsData_of_text (hkeyed : bot.table.Keyed) {date source : String}
    (htext : text date bot = .ok source) : HoldsData date source bot := by
  obtain ⟨table, helpers, htable, -, rfl⟩ := text_eq_ok_iff.1 htext
  obtain ⟨rest, hrest⟩ := exists_linesFromTable_eq bot table helpers
  refine ⟨table, rest, htable, ?_, readAs_literalsOf hkeyed htable⟩
  have hsame : "\n".intercalate (linesOf ("BLOCKS_GRAPH = " ++ table)) =
      "\n".intercalate ["BLOCKS_GRAPH = " ++ table] :=
    (intercalate_linesOf_table hkeyed htable).trans (String.intercalate_singleton).symm
  rw [hrest, Literals.settings, ← List.append_assoc, ← List.append_assoc]
  exact intercalate_congr _ _ (linesOf_table_ne_nil table) (List.cons_ne_nil _ _) hsame

/-- Programs that are the same up to their tables have tables that begin alike. -/
theorem exists_table_append_eq {date source : String} {other : Bot}
    (hbot : HoldsData date source bot) (hother : HoldsData date source other)
    (hheader : headerLines date bot = headerLines date other)
    (hhead : ∀ table, (literalsOf bot table).head = (literalsOf other table).head) :
    ∃ table otherTable tail otherTail, spread 0 0 bot.table = .ok table ∧
      spread 0 0 other.table = .ok otherTable ∧ table ++ tail = otherTable ++ otherTail := by
  have hsplit : ∀ (bot : Bot) (table : String) (rest : List String), ∃ tail,
      "\n".intercalate (closed (headerLines date bot) ++ (literalsOf bot table).settings ++ rest) =
        "\n".intercalate (closed (headerLines date bot) ++ (literalsOf bot table).head) ++
          "\n" ++ "BLOCKS_GRAPH = " ++ (table ++ tail) := by
    intro bot table rest
    obtain ⟨tail, htail⟩ := exists_intercalate_cons "\n" ("BLOCKS_GRAPH = " ++ table) rest
    have hbefore : closed (headerLines date bot) ++ (literalsOf bot table).head ≠ [] :=
      List.append_ne_nil_of_right_ne_nil _ (List.cons_ne_nil _ _)
    refine ⟨tail, ?_⟩
    rw [Literals.settings, ← List.append_assoc, List.append_assoc _ _ rest, List.singleton_append,
      String.intercalate_append_of_ne_nil hbefore (List.cons_ne_nil _ _)]
    change _ ++ "\n".intercalate (("BLOCKS_GRAPH = " ++ table) :: rest) = _
    rw [htail]
    simp only [String.append_assoc]
  obtain ⟨table, rest, htable, hsource, -⟩ := hbot
  obtain ⟨otherTable, otherRest, hotherTable, hotherSource, -⟩ := hother
  obtain ⟨tail, htail⟩ := hsplit bot table rest
  obtain ⟨otherTail, hotherTail⟩ := hsplit other otherTable otherRest
  refine ⟨table, otherTable, tail, otherTail, htable, hotherTable, ?_⟩
  have hsame := hsource.symm.trans hotherSource
  have hheads : (literalsOf bot table).head = (literalsOf other otherTable).head := hhead table
  rw [htail, hotherTail, hheader, hheads] at hsame
  simpa using hsame

/-! ### Flows -/

variable {flow : Flow} {start : Block}

/-- The blocks of a bot from a well-formed flow have different ids, and so have the ports of
each. -/
theorem keyed_table_beginningAt (hflow : flow.WellFormed) (name token : String) :
    (Bot.beginningAt start flow name token).table.Keyed := by
  apply keyed_table
  · have hids : (Bot.beginningAt start flow name token).rows.map Row.id =
        (flow.blocks.filter fun block => block.kind != .start).map Block.id := by
      simp [Bot.beginningAt, Function.comp_def]
    rw [hids]
    exact hflow.nodup_blocks.sublist (List.filter_sublist.map Block.id)
  · intro row hrow
    obtain ⟨block, hblock, -, rfl⟩ := Bot.mem_rows_beginningAt.1 hrow
    dsimp only
    rw [hflow.keys_outputs block hblock]
    exact block.config.nodup_ports

/-- A well-formed flow with one beginning and no integer beyond the digit limit compiles to a
program that holds the data of its bot. -/
theorem holdsData_of_wellFormed (hflow : flow.WellFormed) (hshort : Short flow)
    (hstart : flow.starts = [start]) (date name token : String) :
    ∃ bot source, Bot.ofFlow flow name token = .ok bot ∧
      compile date flow name token = .ok source ∧ HoldsData date source bot := by
  have hbot : Bot.ofFlow flow name token = .ok (Bot.beginningAt start flow name token) :=
    Bot.ofFlow_eq_ok_iff.2 ⟨start, hstart, Bot.checked_of_wellFormed hflow, rfl⟩
  obtain ⟨source, hsource⟩ := exists_text_of_short hshort hbot date
  refine ⟨_, source, hbot, ?_, holdsData_of_text (keyed_table_beginningAt hflow name token) hsource⟩
  rw [compile, hbot]
  exact mapError_eq_ok_iff.2 hsource

/-- Whatever is done in a workspace that starts without blocks: if its flow has one beginning and no
integer beyond the digit limit, it compiles to a program that holds the data of its bot. The name,
the token, the greeting and the entry are read from their literals as they are, and so is the table
when all doubles in it are finite; otherwise nothing is read from the table. -/
theorem holdsData_run (history : History) (edits : List Edit)
    (hshort : Short (Workspace.run ⟨Flow.empty, history⟩ edits).flow)
    (hstart : (Workspace.run ⟨Flow.empty, history⟩ edits).flow.starts = [start])
    (date name token : String) :
    ∃ bot source,
      Bot.ofFlow (Workspace.run ⟨Flow.empty, history⟩ edits).flow name token = .ok bot ∧
        compile date (Workspace.run ⟨Flow.empty, history⟩ edits).flow name token = .ok source ∧
          HoldsData date source bot :=
  holdsData_of_wellFormed (Workspace.run_sound .empty edits).toWellFormed hshort hstart date name
    token

def promptingEdits (temperature : Float) : List Edit :=
  [.create (.named (.text "start")) (some "block_1") (.int 0) (.int 0),
    .create (.named (.text "chatgpt")) (some "block_2") (.int 3) (.int 4),
    .update "block_2" "temperature" (.real ⟨temperature, .fresh⟩)]

def promptingFlow (history : History) (temperature : Float) : Flow :=
  (Workspace.run ⟨Flow.empty, history⟩ (promptingEdits temperature)).flow

def promptConfig (temperature : Float) : Config :=
  ⟨.llmPrompt, ({ temperature := ⟨temperature, .fresh⟩ } : LlmPromptSettings)⟩

variable {history : History} {temperature : Float}

theorem blocks_promptingFlow : (promptingFlow history temperature).blocks =
    [Block.create "block_1" (Config.initial .start) (.int 0) (.int 0),
      Block.create "block_2" (promptConfig temperature) (.int 3) (.int 4)] := rfl

theorem starts_promptingFlow : (promptingFlow history temperature).starts =
    [Block.create "block_1" (Config.initial .start) (.int 0) (.int 0)] := rfl

theorem short_promptingFlow : Short (promptingFlow history temperature) := by
  intro block hblock
  rw [blocks_promptingFlow] at hblock
  apply not_overlong_record
  rcases List.mem_pair.1 hblock with rfl | rfl
  · exact List.forall_mem_singleton.2 nofun
  · exact List.forall_iff_forall_mem.1
      ⟨nofun, nofun, nofun, not_overlong_int (by decide), nofun, nofun⟩

/-- `holdsData_run` at `promptingEdits`. -/
theorem holdsData_run_promptingEdits :
    Short (promptingFlow (History.empty 50 (by decide)) 0) ∧
      (promptingFlow (History.empty 50 (by decide)) 0).starts =
        [Block.create "block_1" (Config.initial .start) (.int 0) (.int 0)] ∧
          ∃ bot source,
            Bot.ofFlow (promptingFlow (History.empty 50 (by decide)) 0) "Greeter" "1:abc" =
              .ok bot ∧
            compile "2024-05-01" (promptingFlow (History.empty 50 (by decide)) 0) "Greeter"
              "1:abc" = .ok source ∧
            HoldsData "2024-05-01" source bot :=
  ⟨short_promptingFlow, starts_promptingFlow,
    holdsData_run (History.empty 50 (by decide)) (promptingEdits 0) short_promptingFlow
      starts_promptingFlow "2024-05-01" "Greeter" "1:abc"⟩

theorem not_finite_of_infinite {name token : String} {bot : Bot}
    (hbot : Bot.ofFlow (promptingFlow history (Number.infinity false)) name token = .ok bot) :
    ¬bot.Finite := by
  obtain ⟨start, -, -, rfl⟩ := Bot.ofFlow_eq_ok_iff.1 hbot
  intro hfinite
  have hprompt : Block.create "block_2" (promptConfig (Number.infinity false)) (.int 3) (.int 4) ∈
      (promptingFlow history (Number.infinity false)).blocks := by
    rw [blocks_promptingFlow]
    exact List.mem_cons_of_mem _ List.mem_cons_self
  have hrow := hfinite _ (Bot.mem_rows_beginningAt.2 ⟨_, hprompt, by decide, rfl⟩)
  have hsettings : (Value.record (promptConfig (Number.infinity false)).toFields).allFinite =
      false := rfl
  exact Bool.false_ne_true (hsettings.symm.trans hrow)

/-- A prompt of infinite temperature compiles to a program with a table that cannot be read. -/
theorem read?_table_infinite : ∃ bot source table,
    Bot.ofFlow (promptingFlow (History.empty 50 (by decide)) (Number.infinity false)) "Greeter"
      "1:abc" = .ok bot ∧
    compile "2024-05-01" (promptingFlow (History.empty 50 (by decide)) (Number.infinity false))
      "Greeter" "1:abc" = .ok source ∧
    HoldsData "2024-05-01" source bot ∧ spread 0 0 bot.table = .ok table ∧
      read? table = none := by
  obtain ⟨bot, source, hbot, hsource, table, rest, htable, hlines, hread⟩ :=
    holdsData_of_wellFormed (Workspace.run_sound .empty _).toWellFormed short_promptingFlow
      starts_promptingFlow "2024-05-01" "Greeter" "1:abc"
  exact ⟨bot, source, table, hbot, hsource, ⟨table, rest, htable, hlines, hread⟩, htable,
    hread.table.trans (if_neg (not_finite_of_infinite hbot))⟩

end DialogGraph.Program
