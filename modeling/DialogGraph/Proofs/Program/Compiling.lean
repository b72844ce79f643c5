import DialogGraph.Program
import DialogGraph.Proofs.Program.Closed
import DialogGraph.Proofs.Script.Overlong

/-!
# Flows that compile

A flow is compiled in two steps: it becomes a bot, and the bot becomes a text. The first step asks
for one beginning and for edges and slots that lead somewhere; a well-formed flow has the latter, so
only the number of its beginnings counts. The second step fails where a value has no text, which is
to say on integers beyond the digit limit. Hence every flow that is reached by edits and holds no
such integer compiles as soon as it has exactly one beginning.
-/

namespace DialogGraph.Program

open DialogGraph.Number

/-! ### Literals -/

mutual

/-- A value can be spread over lines unless it is too long. -/
theorem spread_eq_error_iff (column after : Nat) : ∀ value : Value,
    spread column after value = .error .tooManyDigits ↔ value.Overlong
  | value => by
    rw [spread, bind_eq_error_iff, value.quoted_eq_error_iff]
    refine ⟨?_, .inl⟩
    rintro (hlong | ⟨line, -, hrest⟩)
    · exact hlong
    · split at hrest
      · cases hrest
      · split at hrest
        · cases hrest
        · rename_i items
          rw [bind_pure_eq_error_iff, spreadItems_eq_error_iff _ _ items] at hrest
          obtain ⟨item, hmem, hlong⟩ := hrest
          exact .item hmem hlong
        · rename_i fields
          rw [bind_pure_eq_error_iff, spreadFields_eq_error_iff _ _ fields] at hrest
          obtain ⟨name, item, hmem, hlong⟩ := hrest
          exact .field hmem hlong
        · cases hrest

theorem spreadItems_eq_error_iff (column after : Nat) : ∀ items : List Value,
    spreadItems column after items = .error .tooManyDigits ↔ ∃ value ∈ items, value.Overlong
  | [] => by simp [spreadItems]
  | item :: rest => by
    have hitem := spread_eq_error_iff column (if rest.isEmpty then after else 1) item
    have hrest := spreadItems_eq_error_iff column after rest
    rw [spreadItems, bind_eq_error_iff]
    simp only [bind_pure_eq_error_iff, hrest, List.mem_cons, exists_eq_or_imp]
    cases hfirst : spread column (if rest.isEmpty then after else 1) item with
    | error fault =>
      cases fault
      simp [hitem.1 hfirst]
    | ok first =>
      have hshort : ¬item.Overlong := by
        rw [← hitem, hfirst]
        exact nofun
      simp [hshort]

theorem spreadFields_eq_error_iff (column after : Nat) : ∀ fields : Fields,
    spreadFields column after fields = .error .tooManyDigits ↔
      ∃ name value, (name, value) ∈ fields ∧ value.Overlong
  | [] => by simp [spreadFields]
  | (name, value) :: rest => by
    have hvalue := spread_eq_error_iff (column + (Text.quote name).length + 2)
      (if rest.isEmpty then after else 1) value
    have hrest := spreadFields_eq_error_iff column after rest
    rw [spreadFields, bind_eq_error_iff]
    simp only [bind_pure_eq_error_iff, hrest]
    cases hfirst : spread (column + (Text.quote name).length + 2)
        (if rest.isEmpty then after else 1) value with
    | error fault =>
      cases fault
      simp only [true_or, true_iff]
      exact ⟨name, value, List.mem_cons_self, hvalue.1 hfirst⟩
    | ok first =>
      have hshort : ¬value.Overlong := by
        rw [← hvalue, hfirst]
        exact nofun
      constructor
      · rintro (hnone | ⟨-, -, other, long, hmem, hlong⟩)
        · cases hnone
        · exact ⟨other, long, List.mem_cons_of_mem _ hmem, hlong⟩
      · rintro ⟨other, long, hmem, hlong⟩
        rcases List.mem_cons.1 hmem with hsame | hmem
        · cases hsame
          exact absurd hlong hshort
        · exact .inr ⟨first, rfl, other, long, hmem, hlong⟩

end

/-! ### Bots -/

/-- The fields of a block's settings hold no integer beyond the digit limit. -/
def Short (flow : Flow) : Prop :=
  ∀ block ∈ flow.blocks, ¬(Value.record block.config.toFields).Overlong

theorem not_overlong_record {fields : Fields}
    (hfields : ∀ field ∈ fields, ¬field.2.Overlong) : ¬(Value.record fields).Overlong := by
  rintro (_ | _ | ⟨hmem, hlong⟩)
  exact hfields _ hmem hlong

/-- Of the data of a block only its settings can be too long. -/
theorem not_overlong_toValue {row : Row} (hrow : ¬(Value.record row.config.toFields).Overlong) :
    ¬row.toValue.Overlong := by
  have houtputs : ∀ field ∈ row.outputs.map fun slot => (slot.1, Row.slotValue slot.2),
      ¬field.2.Overlong := by
    intro field hfield
    obtain ⟨⟨port, target⟩, -, rfl⟩ := List.mem_map.1 hfield
    cases target <;> exact nofun
  have hcallbacks : ∀ field ∈ row.callbacks.map fun callback => (callback.1, Value.text callback.2),
      ¬field.2.Overlong := by
    intro field hfield
    obtain ⟨callback, -, rfl⟩ := List.mem_map.1 hfield
    exact nofun
  apply not_overlong_record
  simp only [List.mem_cons, List.not_mem_nil, or_false, forall_eq_or_imp, forall_eq]
  exact ⟨nofun, nofun, hrow, not_overlong_record houtputs, not_overlong_record hcallbacks⟩

theorem not_overlong_table {bot : Bot}
    (hrows : ∀ row ∈ bot.rows, ¬(Value.record row.config.toFields).Overlong) :
    ¬bot.table.Overlong := by
  apply not_overlong_record
  intro field hfield
  obtain ⟨row, hrow, rfl⟩ := List.mem_map.1 hfield
  exact not_overlong_toValue (hrows row hrow)

/-! ### Texts -/

theorem not_overlong_int {n : Nat} (hn : n ≤ digitLimit) : ¬(Value.int n).Overlong := by
  rintro ⟨hlong⟩
  have hlt : digitLimit < 10 ^ digitLimit := Nat.lt_pow_self (by decide)
  rw [Int.natAbs_natCast] at hlong
  omega

theorem not_overlong_constants {constant : String × Value} (hmem : constant ∈ constants) :
    ¬constant.2.Overlong := by
  have hlabels : ¬(Value.record formLabels).Overlong := by
    apply not_overlong_record
    intro field hfield
    obtain ⟨type, -, rfl⟩ := List.mem_map.1 hfield
    exact nofun
  have horder :
      ¬(Value.record (orderLabels.map fun label => (label.1, .text label.2))).Overlong := by
    apply not_overlong_record
    intro field hfield
    obtain ⟨label, -, rfl⟩ := List.mem_map.1 hfield
    exact nofun
  revert constant
  simp only [constants, List.mem_cons, List.not_mem_nil, or_false, forall_eq_or_imp, forall_eq]
  exact ⟨not_overlong_int (by decide), not_overlong_int (by decide), nofun, nofun, nofun, nofun,
    nofun, nofun, nofun, hlabels, horder⟩

/-- The constants of a program are short, so its helper functions can always be written. -/
theorem helperLines_ne_error {bot : Bot} : helperLines bot ≠ .error .tooManyDigits := by
  rw [ne_eq, helperLines, bind_pure_eq_error_iff, mapM_eq_error_iff]
  rintro ⟨constant, hmem, hfault⟩
  rw [constantLine, bind_pure_eq_error_iff, constant.2.quoted_eq_error_iff] at hfault
  exact not_overlong_constants hmem hfault

/-- A bot has a text unless one of its blocks holds an integer beyond the digit limit. -/
theorem text_eq_error_iff {date : String} {bot : Bot} :
    text date bot = .error .tooManyDigits ↔ bot.table.Overlong := by
  have hsettings : settingLines bot = .error .tooManyDigits ↔ bot.table.Overlong := by
    rw [settingLines, bind_pure_eq_error_iff, spread_eq_error_iff]
  rw [text, bind_eq_error_iff, hsettings]
  simp only [bind_pure_eq_error_iff, helperLines_ne_error, and_false, exists_false, or_false]

/-! ### Compiling -/

/-- Every kind of block has a handler, but for the one where a flow begins. -/
theorem isSome_handler?_iff {kind : Kind} : (handler? kind).isSome = true ↔ kind ≠ .start := by
  cases kind <;> simp [handler?]

/-- How a flow compiles whose only flaw can be the number of its beginnings. The checks of its edges
and slots pass, and no handler is missing. -/
structure Compiles (date : String) (flow : Flow) (name token : String) : Prop where
  text_iff : (∃ source, compile date flow name token = .ok source) ↔ ∃ start, flow.starts = [start]
  refused : ∀ fault, compile date flow name token = .error fault →
    ∃ reason : CompileFault, fault = .compile reason ∧ reason.edge? = none ∧
      reason.block? = flow.starts[1]?.map Block.id
  edges : ∀ edge ∈ flow.edges, Bot.checkEdge flow edge = .ok ()
  slots : ∀ block ∈ flow.blocks, ∀ slot ∈ block.outputs, Bot.checkSlot flow block slot = .ok ()
  handled : ∀ bot, Bot.ofFlow flow name token = .ok bot →
    ∀ kind ∈ bot.kinds, (handler? kind).isSome = true

variable {flow : Flow}

theorem handled_of_ofFlow {name token : String} {bot : Bot}
    (hbot : Bot.ofFlow flow name token = .ok bot) :
    ∀ kind ∈ bot.kinds, (handler? kind).isSome = true := by
  intro kind hkind
  obtain ⟨start, -, -, rfl⟩ := Bot.ofFlow_eq_ok_iff.1 hbot
  rw [Bot.kinds, List.mem_eraseDups] at hkind
  obtain ⟨row, hrow, rfl⟩ := List.mem_map.1 hkind
  obtain ⟨block, -, hother, rfl⟩ := Bot.mem_rows_beginningAt.1 hrow
  exact isSome_handler?_iff.2 hother

/-- A well-formed flow is no bot only for the number of its beginnings. -/
theorem ofFlow_eq_error {name token : String} {fault : CompileFault} (hflow : flow.WellFormed)
    (hbot : Bot.ofFlow flow name token = .error fault) :
    fault = .noStart ∨ ∃ count, ∃ second ∈ flow.blocks, fault = .severalStarts count second.id := by
  rcases hstarts : flow.starts with _ | ⟨start, _ | ⟨second, rest⟩⟩
  · rw [Bot.ofFlow, hstarts] at hbot
    exact .inl (Except.error.inj hbot).symm
  · rw [Bot.ofFlow_eq_ok_iff.2 ⟨start, hstarts, Bot.checked_of_wellFormed hflow, rfl⟩] at hbot
    cases hbot
  · rw [Bot.ofFlow, hstarts] at hbot
    have hsecond : second ∈ flow.starts := by simp [hstarts]
    exact .inr ⟨_, second, List.mem_of_mem_filter hsecond, (Except.error.inj hbot).symm⟩

/-- A bot of a flow without integers beyond the digit limit has a text. -/
theorem exists_text_of_short (hshort : Short flow) {name token : String} {bot : Bot}
    (hbot : Bot.ofFlow flow name token = .ok bot) (date : String) :
    ∃ source, text date bot = .ok source := by
  obtain ⟨start, -, -, rfl⟩ := Bot.ofFlow_eq_ok_iff.1 hbot
  cases htext : text date (Bot.beginningAt start flow name token) with
  | ok source => exact ⟨source, rfl⟩
  | error fault =>
    cases fault
    refine absurd (text_eq_error_iff.1 htext) (not_overlong_table fun row hrow => ?_)
    obtain ⟨block, hblock, -, rfl⟩ := Bot.mem_rows_beginningAt.1 hrow
    exact hshort block hblock

/-- A well-formed flow without integers beyond the digit limit compiles when it has exactly one
beginning. -/
theorem compiles_of_wellFormed (hflow : flow.WellFormed) (hshort : Short flow)
    (date name token : String) : Compiles date flow name token := by
  have hchecked := Bot.checked_of_wellFormed hflow
  suffices houtcome : ((∃ source, compile date flow name token = .ok source) ↔
      ∃ start, flow.starts = [start]) ∧
      ∀ fault, compile date flow name token = .error fault →
        ∃ reason : CompileFault, fault = .compile reason ∧ reason.edge? = none ∧
          reason.block? = flow.starts[1]?.map Block.id from
    ⟨houtcome.1, houtcome.2, hchecked.edges, hchecked.slots, fun _ => handled_of_ofFlow⟩
  rcases hstarts : flow.starts with _ | ⟨start, _ | ⟨second, rest⟩⟩
  · have hcompile : compile date flow name token = .error (.compile .noStart) := by
      rw [compile, Bot.ofFlow, hstarts]
    simp [hcompile, CompileFault.edge?, CompileFault.block?]
  · have hbot : Bot.ofFlow flow name token = .ok (Bot.beginningAt start flow name token) :=
      Bot.ofFlow_eq_ok_iff.2 ⟨start, hstarts, hchecked, rfl⟩
    obtain ⟨source, hsource⟩ := exists_text_of_short hshort hbot date
    have hcompile : compile date flow name token = .ok source := by
      rw [compile, hbot]
      exact mapError_eq_ok_iff.2 hsource
    simp [hcompile]
  · have hcompile : compile date flow name token =
        .error (.compile (.severalStarts (rest.length + 2) second.id)) := by
      rw [compile, Bot.ofFlow, hstarts]
    simp [hcompile, CompileFault.edge?, CompileFault.block?]

/-- Whatever is done in a workspace that starts without blocks: unless its flow holds an integer
beyond the digit limit, it compiles when it has exactly one beginning, and is turned down on account
of the number of its beginnings otherwise. -/
theorem compiles_run (history : History) (edits : List Edit)
    (hshort : Short (Workspace.run ⟨Flow.empty, history⟩ edits).flow)
    (date name token : String) :
    Compiles date (Workspace.run ⟨Flow.empty, history⟩ edits).flow name token :=
  compiles_of_wellFormed (Workspace.run_sound .empty edits).toWellFormed hshort date name token

def pausingEdits : List Edit :=
  [.create (.named (.text "start")) (some "block_1") (.int 0) (.int 0),
    .create (.named (.text "delay")) (some "block_2") (.int 3) (.int 4)]

def pausingFlow (history : History) : Flow :=
  (Workspace.run ⟨Flow.empty, history⟩ pausingEdits).flow

theorem blocks_pausingFlow (history : History) : (pausingFlow history).blocks =
    [Block.create "block_1" (Config.initial .start) (.int 0) (.int 0),
      Block.create "block_2" (Config.initial .delay) (.int 3) (.int 4)] := rfl

/-- `compiles_run` at `pausingEdits`: the integer there is short, and there is one beginning. -/
theorem compiles_run_pausingEdits :
    Short (pausingFlow (History.empty 50 (by decide))) ∧
      ∃ source, compile "2024-05-01" (pausingFlow (History.empty 50 (by decide))) "Greeter"
        "1:abc" = .ok source := by
  have hshort : Short (pausingFlow (History.empty 50 (by decide))) := by
    intro block hblock
    rw [blocks_pausingFlow] at hblock
    apply not_overlong_record
    rcases List.mem_pair.1 hblock with rfl | rfl
    · exact List.forall_mem_singleton.2 nofun
    · exact List.forall_mem_singleton.2 (not_overlong_int (by decide))
  have hstarts : (pausingFlow (History.empty 50 (by decide))).starts =
      [Block.create "block_1" (Config.initial .start) (.int 0) (.int 0)] := by
    rw [Flow.starts, blocks_pausingFlow]
    rfl
  have hcompiles :
      Compiles "2024-05-01" (pausingFlow (History.empty 50 (by decide))) "Greeter" "1:abc" :=
    compiles_run (History.empty 50 (by decide)) pausingEdits hshort "2024-05-01" "Greeter" "1:abc"
  exact ⟨hshort, hcompiles.text_iff.2 ⟨_, hstarts⟩⟩

end DialogGraph.Program
