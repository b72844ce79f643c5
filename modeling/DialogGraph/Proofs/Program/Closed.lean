import DialogGraph.Program.Bot
import DialogGraph.Proofs.Result
import DialogGraph.Proofs.Workspace

/-!
# Closed bots

A program looks up the block that a slot names among the blocks of its bot. Before a bot is made the
edges and the slots of the flow are checked, but they are checked apart: an edge must not enter the
block where the flow begins, while a slot may name any block of the flow. The block where the flow
begins is none of the bot's, so a slot that names it passes and is still found nowhere.

Nothing is assumed of the wiring here, so all this also holds of flows whose edges and slots were
changed by hand. Where edges and slots are in step, no slot names the beginning and every bot is
closed.
-/

namespace DialogGraph.Program

namespace Bot

variable {flow : Flow} {name token : String} {bot : Bot}

/-! ### The checks -/

theorem checkEdge_eq_ok_iff {edge : Edge} :
    checkEdge flow edge = .ok () ↔
      ∃ source target, flow.block? edge.source = some source ∧
        flow.block? edge.target = some target ∧ edge.port ∈ source.config.ports ∧
          target.kind ≠ .start := by
  rw [checkEdge]
  cases flow.block? edge.source with
  | none => simp
  | some source =>
    cases flow.block? edge.target with
    | none => simp
    | some target => by_cases hport : edge.port ∈ source.config.ports <;> simp [hport]

theorem checkSlot_eq_ok_iff {block : Block} {slot : String × Option String} :
    checkSlot flow block slot = .ok () ↔
      ∀ target, slot.2 = some target → flow.hasBlock target = true := by
  obtain ⟨port, found⟩ := slot
  cases found <;> simp [checkSlot]

/-- Whether every edge and every slot of a flow passes its check. -/
structure Checked (flow : Flow) : Prop where
  edges : ∀ edge ∈ flow.edges, checkEdge flow edge = .ok ()
  slots : ∀ block ∈ flow.blocks, ∀ slot ∈ block.outputs, checkSlot flow block slot = .ok ()

/-- The bot of a flow that begins at a given block. -/
def beginningAt (start : Block) (flow : Flow) (name token : String) : Bot where
  name := name
  token := token
  entry := start.targetOf defaultPort
  greeting := greetingOf start.config
  rows := (flow.blocks.filter fun block => block.kind != .start).map fun block =>
    ⟨block.id, block.config, block.outputs⟩

/-- A flow is a bot when it has one beginning and passes the checks. -/
theorem ofFlow_eq_ok_iff :
    ofFlow flow name token = .ok bot ↔
      ∃ start, flow.starts = [start] ∧ Checked flow ∧ beginningAt start flow name token = bot := by
  rw [ofFlow]
  split
  · simp_all
  · simp_all
  · rename_i start hstarts
    have hchecks : Checked flow ↔ flow.edges.forM (checkEdge flow) = .ok () ∧
        (flow.blocks.forM fun block => block.outputs.forM (checkSlot flow block)) = .ok () := by
      simp only [forM_eq_ok_iff]
      exact ⟨fun hchecked => ⟨hchecked.edges, hchecked.slots⟩, fun h => ⟨h.1, h.2⟩⟩
    simp only [hstarts, List.cons.injEq, and_true, exists_eq_left', hchecks]
    cases flow.edges.forM (checkEdge flow) with
    | error fault => simp [bind, Except.bind]
    | ok done =>
      cases flow.blocks.forM fun block => block.outputs.forM (checkSlot flow block) with
      | error fault => simp [bind, Except.bind]
      | ok done => simp [bind, Except.bind, pure, Except.pure, beginningAt]

/-! ### What a program looks up -/

def Has (bot : Bot) (id : String) : Prop := ∃ row ∈ bot.rows, row.id = id

/-- Whether a bot begins at a block or has a slot that leads there. -/
def Names (bot : Bot) (id : String) : Prop :=
  bot.entry = some id ∨ ∃ row ∈ bot.rows, ∃ port, (port, some id) ∈ row.outputs

/-- Whether a bot has every block that it names. -/
def Closed (bot : Bot) : Prop := ∀ id, bot.Names id → bot.Has id

/-- The ids that a program comes to: the entry, and whatever a slot of a block leads to that it came
to before. -/
inductive Meets (bot : Bot) : String → Prop
  | entry {id : String} (hentry : bot.entry = some id) : Meets bot id
  | slot {row : Row} {port target : String} (hrow : row ∈ bot.rows) (hmeets : Meets bot row.id)
      (hslot : (port, some target) ∈ row.outputs) : Meets bot target

theorem Meets.names {id : String} (hmeets : bot.Meets id) : bot.Names id := by
  cases hmeets with
  | entry hentry => exact .inl hentry
  | slot hrow _ hslot => exact .inr ⟨_, hrow, _, hslot⟩

theorem mem_starts_iff {block : Block} :
    block ∈ flow.starts ↔ block ∈ flow.blocks ∧ block.kind = .start := by
  simp [Flow.starts]

theorem mem_rows_beginningAt {start : Block} {row : Row} :
    row ∈ (beginningAt start flow name token).rows ↔
      ∃ block ∈ flow.blocks, block.kind ≠ .start ∧
        ⟨block.id, block.config, block.outputs⟩ = row := by
  simp [beginningAt, and_assoc]

variable {start : Block}

theorem mem_of_starts_eq (hstart : flow.starts = [start]) :
    start ∈ flow.blocks ∧ start.kind = .start := by
  rw [← mem_starts_iff, hstart]
  exact List.mem_singleton_self start

/-- The bot has all blocks of the flow but the one where the flow begins. -/
theorem has_beginningAt_iff (hids : (flow.blocks.map Block.id).Nodup)
    (hstart : flow.starts = [start]) {id : String} :
    (beginningAt start flow name token).Has id ↔ flow.hasBlock id = true ∧ id ≠ start.id := by
  obtain ⟨hmem, hbegins⟩ := mem_of_starts_eq hstart
  rw [Flow.hasBlock_iff]
  constructor
  · rintro ⟨row, hrow, rfl⟩
    obtain ⟨block, hblock, hkind, rfl⟩ := mem_rows_beginningAt.1 hrow
    refine ⟨⟨block, hblock, rfl⟩, fun hsame => hkind ?_⟩
    rwa [Flow.eq_of_id_eq hids hblock hmem hsame]
  · rintro ⟨⟨block, hblock, rfl⟩, hother⟩
    refine ⟨_, mem_rows_beginningAt.2 ⟨block, hblock, fun hkind => hother ?_, rfl⟩, rfl⟩
    have hblock : block ∈ flow.starts := mem_starts_iff.2 ⟨hblock, hkind⟩
    rw [hstart, List.mem_singleton] at hblock
    rw [hblock]

/-- Whatever the bot names is a block of the flow. -/
theorem hasBlock_of_names (hchecked : Checked flow) (hstart : start ∈ flow.blocks) {id : String}
    (hnames : (beginningAt start flow name token).Names id) : flow.hasBlock id = true := by
  rcases hnames with hentry | ⟨row, hrow, port, hslot⟩
  · have hslot : (defaultPort, some id) ∈ start.outputs := by
      apply Assoc.mem_of_get?
      have hjoin : (Assoc.get? start.outputs defaultPort).join = some id := hentry
      exact Option.join_eq_some_iff.1 hjoin
    exact checkSlot_eq_ok_iff.1 (hchecked.slots start hstart _ hslot) id rfl
  · obtain ⟨block, hblock, -, rfl⟩ := mem_rows_beginningAt.1 hrow
    exact checkSlot_eq_ok_iff.1 (hchecked.slots block hblock _ hslot) id rfl

/-- What a bot names is among its blocks, or else it is the block where the flow begins. So a bot is
closed unless a slot leads back to the beginning, and then a program finds every block that it comes
to. -/
theorem closed_iff_not_names_start (hids : (flow.blocks.map Block.id).Nodup)
    (hbot : ofFlow flow name token = .ok bot) :
    ∃ start, flow.starts = [start] ∧
      (∀ id, bot.Names id → bot.Has id ∨ id = start.id) ∧
        (bot.Closed ↔ ¬bot.Names start.id) ∧
          (bot.Closed → ∀ id, bot.Meets id → bot.Has id) := by
  obtain ⟨start, hstart, hchecked, rfl⟩ := ofFlow_eq_ok_iff.1 hbot
  obtain ⟨hmem, -⟩ := mem_of_starts_eq hstart
  have hfound : ∀ id, (beginningAt start flow name token).Names id →
      (beginningAt start flow name token).Has id ∨ id = start.id := by
    intro id hnames
    rw [or_iff_not_imp_right, has_beginningAt_iff hids hstart]
    exact fun hother => ⟨hasBlock_of_names hchecked hmem hnames, hother⟩
  refine ⟨start, hstart, hfound, ⟨fun hclosed hnames => ?_, fun hnot id hnames => ?_⟩,
    fun hclosed id hmeets => hclosed id hmeets.names⟩
  · exact ((has_beginningAt_iff hids hstart).1 (hclosed start.id hnames)).2 rfl
  · refine (hfound id hnames).resolve_right ?_
    rintro rfl
    exact hnot hnames

/-- A beginning that leads to a message, whose slot was set by hand to lead back. -/
def loopedFlow : Flow where
  blocks := [
    (Block.create "block_1" (Config.initial .start) (.int 0) (.int 0)).setOutput defaultPort
      (some "block_2"),
    { Block.create "block_2" (Config.initial .message) (.int 0) (.int 0) with
      input := some "block_1"
      outputs := [(defaultPort, some "block_1")] }]
  edges := [⟨"conn_1", "block_1", defaultPort, "block_2"⟩]
  blockCounter := 2
  edgeCounter := 1

def loopedBot : Bot where
  name := defaultName
  token := defaultToken
  entry := some "block_2"
  greeting := ""
  rows := [⟨"block_2", Config.initial .message, [(defaultPort, some "block_1")]⟩]

theorem ofFlow_loopedFlow : ofFlow loopedFlow defaultName defaultToken = .ok loopedBot := rfl

/-- `closed_iff_not_names_start` at `loopedFlow`. -/
theorem closed_iff_not_names_loopedFlow :
    (loopedFlow.blocks.map Block.id).Nodup ∧
      ofFlow loopedFlow defaultName defaultToken = .ok loopedBot ∧
        ∃ start, loopedFlow.starts = [start] ∧
          (∀ id, loopedBot.Names id → loopedBot.Has id ∨ id = start.id) ∧
            (loopedBot.Closed ↔ ¬loopedBot.Names start.id) ∧
              (loopedBot.Closed → ∀ id, loopedBot.Meets id → loopedBot.Has id) :=
  ⟨by decide, ofFlow_loopedFlow, closed_iff_not_names_start (by decide) ofFlow_loopedFlow⟩

/-- The bot of `loopedFlow` is not closed: its program comes to the beginning of the flow and does
not find it. -/
theorem not_closed_loopedFlow :
    ∃ bot, ofFlow loopedFlow defaultName defaultToken = .ok bot ∧ ¬bot.Closed ∧
      bot.Meets "block_1" ∧ ¬bot.Has "block_1" := by
  have hmeets : loopedBot.Meets "block_1" :=
    .slot List.mem_cons_self (.entry rfl) List.mem_cons_self
  have hmissing : ¬loopedBot.Has "block_1" := by simp [Has, loopedBot]
  exact ⟨loopedBot, ofFlow_loopedFlow, fun hclosed => hmissing (hclosed _ hmeets.names), hmeets,
    hmissing⟩

/-! ### Flows whose edges and slots are in step -/

/-- In a consistent flow no edge enters a beginning, hence no slot names one. -/
theorem not_names_start (hflow : flow.Consistent) (hports : ∀ block ∈ flow.blocks,
    (Assoc.keys block.outputs).Nodup) (hstart : start ∈ flow.blocks)
    (hkind : start.kind = .start) :
    ¬(beginningAt start flow name token).Names start.id := by
  have hentered : ∀ block ∈ flow.blocks, ∀ port, block.targetOf port ≠ some start.id := by
    intro block hblock port htarget
    obtain ⟨edge, hedge, -, -, hid⟩ := (hflow.targetOf_iff block hblock port _).1 htarget
    exact hflow.target_ne_start hedge hstart hid.symm hkind
  rintro (hentry | ⟨row, hrow, port, hslot⟩)
  · exact hentered start hstart _ hentry
  · obtain ⟨block, hblock, -, rfl⟩ := mem_rows_beginningAt.1 hrow
    apply hentered block hblock port
    rw [Block.targetOf, Assoc.get?_of_mem (hports block hblock) hslot, Option.join_some]

/-- A well-formed flow passes the checks. -/
theorem checked_of_wellFormed (hflow : flow.WellFormed) : Checked flow where
  edges := by
    intro edge hedge
    obtain ⟨source, hsource, target, htarget, hsourceId, htargetId, -, hkind⟩ :=
      hflow.ends edge hedge
    refine checkEdge_eq_ok_iff.2 ⟨source, target, ?_, ?_, ?_, hkind⟩
    · exact (Flow.block?_eq_some_iff hflow.nodup_blocks).2 ⟨hsource, hsourceId⟩
    · exact (Flow.block?_eq_some_iff hflow.nodup_blocks).2 ⟨htarget, htargetId⟩
    · exact hflow.mem_ports edge hedge source hsource hsourceId
  slots := by
    intro block hblock slot hslot
    refine checkSlot_eq_ok_iff.2 fun target htarget => Flow.hasBlock_iff.2 ?_
    have hnodup : (Assoc.keys block.outputs).Nodup := by
      rw [hflow.keys_outputs block hblock]
      exact block.config.nodup_ports
    have hfound : block.targetOf slot.1 = some target := by
      rw [Block.targetOf, Assoc.get?_of_mem hnodup hslot, htarget, Option.join_some]
    obtain ⟨edge, hedge, -, -, rfl⟩ := (hflow.targetOf_iff block hblock _ _).1 hfound
    obtain ⟨-, -, found, hmem, -, hid, -⟩ := hflow.ends edge hedge
    exact ⟨found, hmem, hid⟩

/-- The bot of a well-formed flow is closed. -/
theorem closed_of_wellFormed (hflow : flow.WellFormed)
    (hbot : ofFlow flow name token = .ok bot) : bot.Closed := by
  obtain ⟨start, hstart, hchecked, rfl⟩ := ofFlow_eq_ok_iff.1 hbot
  obtain ⟨hmem, hkind⟩ := mem_of_starts_eq hstart
  have hnot : ¬(beginningAt start flow name token).Names start.id := by
    refine not_names_start hflow.toConsistent (fun block hblock => ?_) hmem hkind
    rw [hflow.keys_outputs block hblock]
    exact block.config.nodup_ports
  intro id hnames
  rw [has_beginningAt_iff hflow.nodup_blocks hstart]
  refine ⟨hasBlock_of_names hchecked hmem hnames, ?_⟩
  rintro rfl
  exact hnot hnames

end Bot

end DialogGraph.Program
