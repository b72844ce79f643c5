import DialogGraph.Proofs.Preview.Telling
import DialogGraph.Proofs.Program.Closed

/-!
# Buttons and where they lead

The buttons that a block shows, its ports, the routes of its tags and the table of a program are each
made from the settings of the block on their own. They agree: a tag is looked up in the table with
the same result as in the preview, and every button that the preview shows leads through a port.

Only a block with an empty id is not found again in the preview, and a press there is ignored.
-/

namespace DialogGraph

open DialogGraph.Text DialogGraph.Preview

/-! ### Ports and routes -/

theorem mem_addPort_iff {ports : List String} {port other : String} :
    other ∈ addPort ports port ↔ other ∈ ports ∨ other = port ∧ port ≠ "" := by
  rw [addPort]
  by_cases hempty : port = ""
  · simp [hempty]
  · by_cases hmem : port ∈ ports
    · simp only [hmem, List.contains_eq_mem, decide_true, Bool.or_true, if_true]
      exact ⟨.inl, fun h => h.elim id fun hother => hother.1 ▸ hmem⟩
    · simp [hempty, hmem]

theorem mem_foldl_addPort_iff {ports more : List String} {other : String} :
    other ∈ more.foldl addPort ports ↔ other ∈ ports ∨ other ∈ more ∧ other ≠ "" := by
  induction more generalizing ports with
  | nil => simp
  | cons port rest ih =>
    rw [List.foldl_cons, ih, mem_addPort_iff, List.mem_cons]
    constructor
    · rintro ((hmem | ⟨rfl, hsome⟩) | ⟨hmem, hsome⟩)
      · exact .inl hmem
      · exact .inr ⟨.inl rfl, hsome⟩
      · exact .inr ⟨.inr hmem, hsome⟩
    · rintro (hmem | ⟨rfl | hmem, hsome⟩)
      · exact .inl (.inl hmem)
      · exact .inl (.inr ⟨rfl, hsome⟩)
      · exact .inr ⟨hmem, hsome⟩

/-- The ports of a keyboard are the trimmed tags of its buttons. -/
theorem mem_keyboardPorts_iff {buttons : List Button} {port : String} :
    port ∈ keyboardPorts buttons ↔ port ≠ "" ∧ ∃ button ∈ buttons, trim button.tag = port := by
  rw [keyboardPorts, mem_foldl_addPort_iff, List.mem_map]
  simp [and_comm]

theorem orderTag_injective : Function.Injective orderTag := by
  intro port other hsame
  have hchars := congrArg String.toList hsame
  simp only [orderTag, String.toList_append] at hchars
  exact String.toList_injective (List.append_cancel_right hchars)

namespace Config

/-- The ports of a block with buttons each have a tag of their own; other blocks have no routes. -/
theorem routes_cases (id : String) (config : Config) :
    config.routes id = [] ∨ ∃ tag : String → String, Function.Injective tag ∧
      config.routes id = config.ports.map fun port => ⟨id, port, tag port⟩ := by
  obtain ⟨kind, settings⟩ := config
  cases kind
  case inlineKeyboard => exact .inr ⟨fun port => port, Function.injective_id, rfl⟩
  case orderConfirm => exact .inr ⟨orderTag, orderTag_injective, rfl⟩
  all_goals exact .inl rfl

theorem nodup_tags (id : String) (config : Config) :
    ((config.routes id).map Route.tag).Nodup := by
  rcases config.routes_cases id with hroutes | ⟨tag, htag, hroutes⟩
  · rw [hroutes]
    exact List.nodup_nil
  · rw [hroutes, List.map_map]
    exact config.nodup_ports.map htag

theorem nodup_routePorts (id : String) (config : Config) :
    ((config.routes id).map Route.port).Nodup := by
  rcases config.routes_cases id with hroutes | ⟨tag, -, hroutes⟩
  · rw [hroutes]
    exact List.nodup_nil
  · rw [hroutes, List.map_map]
    exact config.nodup_ports.map Function.injective_id

theorem port_mem_of_route {id : String} {config : Config} {route : Route}
    (hroute : route ∈ config.routes id) : route.port ∈ config.ports := by
  rcases config.routes_cases id with hroutes | ⟨tag, -, hroutes⟩
  · rw [hroutes] at hroute
    cases hroute
  · rw [hroutes] at hroute
    obtain ⟨port, hport, rfl⟩ := List.mem_map.1 hroute
    exact hport

end Config

/-! ### The table of a program -/

theorem get?_map_eq_find? {α β : Type} {items : List α} {key : α → String} {value : α → β}
    (name : String) :
    Assoc.get? (items.map fun item => (key item, value item)) name =
      (items.find? fun item => key item == name).map value := by
  induction items with
  | nil => rfl
  | cons item rest ih =>
    by_cases hitem : key item = name
    · simp [Assoc.get?, hitem]
    · simp [Assoc.get?, hitem, ih]

namespace Program

def rowFor (block : Block) : Row := ⟨block.id, block.config, block.outputs⟩

/-- No tag occurs twice, so the tags of a row are those of the routes, in their order. -/
theorem callbacks_eq (row : Row) :
    row.callbacks = (row.config.routes row.id).map fun route => (route.tag, route.port) := by
  apply Assoc.ofList_of_nodup
  rw [Assoc.keys, List.map_map]
  exact row.config.nodup_tags row.id

/-- The table of a bot has a row for every block but the one where it begins. -/
theorem get?_table {flow : Flow} {name token : String} {bot : Bot}
    (hbot : Bot.ofFlow flow name token = .ok bot) (hids : (flow.blocks.map Block.id).Nodup)
    {block : Block} (hblock : block ∈ flow.blocks) (hkind : block.kind ≠ .start) :
    ∃ rows, bot.table = .record rows ∧
      Assoc.get? rows block.id = some (rowFor block).toValue := by
  obtain ⟨start, -, -, rfl⟩ := Bot.ofFlow_eq_ok_iff.1 hbot
  refine ⟨_, rfl, Assoc.get?_of_mem ?_ ?_⟩
  · simp only [Assoc.keys, Bot.beginningAt, List.map_map, Function.comp_def]
    exact hids.sublist (List.filter_sublist.map Block.id)
  · exact List.mem_map_of_mem (f := fun row : Row => (row.id, row.toValue))
      (Bot.mem_rows_beginningAt.2 ⟨block, hblock, hkind, rfl⟩)

end Program

/-! ### Buttons shown -/

namespace Preview

variable {flow : Flow} {block : Block} {session after parked : Session} {world : World}

theorem Act.filled_apply (text : String) (session : Session) :
    Act.filled text session = ((Template.fill text session.bindings).mapError .text, session) := rfl

/-- A block at which a conversation comes to wait was visited without a failure, and not left. -/
theorem exists_stay (hvisit : visitBlock world session block = (parked, .ended))
    (hwaiting : parked.waiting ≠ none) :
    ∃ visit after waiting, visit? world block.id block.config = some visit ∧
      visit session = (.ok none, after) ∧ after.waiting = some waiting ∧
      parked = after.tell (.suspended block.id waiting) := by
  rw [visitBlock] at hvisit
  cases hfound : visit? world block.id block.config with
  | none => simp [hfound] at hvisit
  | some visit =>
    simp only [hfound] at hvisit
    rcases hran : visit session with ⟨failure | _ | port, after⟩
    · obtain ⟨excused, hguarded, hexcused, -⟩ := guarded_of_error block.id hran
      simp only [hguarded, hexcused.waiting, Prod.mk.injEq, and_true] at hvisit
      exact absurd (hvisit ▸ hexcused.waiting) hwaiting
    · simp only [guarded_of_ok block.id hran] at hvisit
      cases hafter : after.waiting with
      | none =>
        simp only [hafter, Prod.mk.injEq, and_true] at hvisit
        exact absurd (hvisit ▸ hafter) hwaiting
      | some waiting =>
        simp only [hafter, Prod.mk.injEq, and_true] at hvisit
        exact ⟨visit, after, waiting, rfl, hran, hafter, hvisit.symm⟩
    · simp only [guarded_of_ok block.id hran, Prod.mk.injEq, reduceCtorEq, and_false] at hvisit

/-- A keyboard that is not left shows its buttons and waits for a press. -/
theorem inlineKeyboard_stays {settings : InlineKeyboardSettings}
    (hran : Visit.inlineKeyboard settings session = (.ok none, after)) :
    after.waiting = some .callback ∧ ∃ text, after.transcript = session.transcript.push
      { sender := .bot, text := text, buttons := Visit.offers settings.buttons } := by
  simp only [Visit.inlineKeyboard, Act.bind_apply, Act.filled_apply] at hran
  cases hfilled : Template.fill settings.message session.bindings with
  | error fault =>
    rw [hfilled] at hran
    cases hran
  | ok text =>
    rw [hfilled] at hran
    by_cases hempty : (Visit.offers settings.buttons).isEmpty
    · simp only [hempty, if_true] at hran
      cases hran
    · simp only [hempty, Bool.false_eq_true, if_false] at hran
      cases hran
      exact ⟨rfl, text, rfl⟩

def orderOffers (id : String) (settings : OrderConfirmSettings) : List Offer :=
  (Config.routes id ⟨.orderConfirm, settings⟩).map fun route => ⟨orderLabel route.port, route.tag⟩

/-- An order confirmation that is not left shows its buttons and waits for a press. -/
theorem orderConfirm_stays {id : String} {settings : OrderConfirmSettings}
    (hran : Visit.orderConfirm id settings session = (.ok none, after)) :
    after.waiting = some .callback ∧ ∃ text, after.transcript = session.transcript.push
      { sender := .bot, text := text, buttons := orderOffers id settings } := by
  simp only [Visit.orderConfirm, Act.bind_apply, Act.filled_apply] at hran
  cases htitle : Template.fill settings.title session.bindings with
  | error fault =>
    rw [htitle] at hran
    cases hran
  | ok title =>
    rw [htitle] at hran
    simp only [Except.mapError] at hran
    cases hbody : Template.fill settings.template session.bindings with
    | error fault =>
      rw [hbody] at hran
      cases hran
    | ok body =>
      rw [hbody] at hran
      by_cases hempty : (Config.routes id ⟨.orderConfirm, settings⟩).isEmpty
      · simp only [hempty, if_true] at hran
        cases hran
      · simp only [hempty, Bool.false_eq_true, if_false] at hran
        cases hran
        exact ⟨rfl, _, rfl⟩

theorem mem_offers_iff {buttons : List Button} {offer : Offer} :
    offer ∈ Visit.offers buttons ↔ ∃ button ∈ buttons,
      allBlank button.label = false ∧ trim button.tag ≠ "" ∧
        ⟨button.label, trim button.tag⟩ = offer := by
  simp [Visit.offers, and_assoc]

/-- Every button of a keyboard has a route. -/
theorem route_of_offer {id : String} {settings : InlineKeyboardSettings} {offer : Offer}
    (hoffer : offer ∈ Visit.offers settings.buttons) :
    ∃ route ∈ Config.routes id ⟨.inlineKeyboard, settings⟩, route.tag = offer.tag := by
  obtain ⟨button, hbutton, -, htag, rfl⟩ := mem_offers_iff.1 hoffer
  have hport : trim button.tag ∈ keyboardPorts settings.buttons :=
    mem_keyboardPorts_iff.2 ⟨htag, button, hbutton, rfl⟩
  exact ⟨⟨id, _, _⟩, List.mem_map_of_mem hport, rfl⟩

/-- The kinds of blocks whose buttons are all routes. -/
def Buttoned (kind : Kind) : Prop := kind = .inlineKeyboard ∨ kind = .orderConfirm

/-- A block of buttons at which a conversation comes to wait shows nothing but buttons that have a
route. -/
theorem shown_of_parked (hkind : Buttoned block.kind)
    (hvisit : visitBlock world session block = (parked, .ended))
    (hwaiting : parked.waiting ≠ none) :
    parked.waiting = some .callback ∧ ∃ entry, parked.transcript = session.transcript.push entry ∧
      ∀ offer ∈ entry.buttons, ∃ route ∈ block.config.routes block.id, route.tag = offer.tag := by
  obtain ⟨visit, after, waiting, hfound, hran, hafter, rfl⟩ := exists_stay hvisit hwaiting
  rcases block with ⟨id, ⟨kind, settings⟩, x, y, input, outputs⟩
  rcases hkind with hkind | hkind
  · obtain rfl : kind = .inlineKeyboard := hkind
    obtain rfl := Option.some.inj hfound
    obtain ⟨hparked, text, htranscript⟩ := inlineKeyboard_stays hran
    exact ⟨hparked, _, htranscript, fun offer hoffer => route_of_offer hoffer⟩
  · obtain rfl : kind = .orderConfirm := hkind
    obtain rfl := Option.some.inj hfound
    obtain ⟨hparked, text, htranscript⟩ := orderConfirm_stays hran
    refine ⟨hparked, _, htranscript, fun offer hoffer => ?_⟩
    obtain ⟨route, hroute, rfl⟩ := List.mem_map.1 hoffer
    exact ⟨route, hroute, rfl⟩

/-! ### Buttons pressed -/

/-- The tag of a route leads through its port, as no other route has the tag. -/
theorem find?_route {id : String} {config : Config} {route : Route}
    (hroute : route ∈ config.routes id) :
    ((config.routes id).find? fun other => other.tag == route.tag).map Route.port =
      some route.port := by
  rw [← get?_map_eq_find?]
  apply Assoc.get?_of_mem
  · rw [Assoc.keys, List.map_map]
    exact config.nodup_tags id
  · exact List.mem_map_of_mem hroute

/-- Pressing a button leaves the block where the conversation waits through the port of its
route. -/
theorem takePress_of_route (hblock : currentBlock? flow session = some block)
    (hwaiting : session.waiting = some .callback) (hkind : Buttoned block.kind) {route : Route}
    (hroute : route ∈ block.config.routes block.id) :
    takePress flow session route.tag =
      leaveBlock (session.enter { sender := .user, text := "[" ++ route.tag ++ "]" }) block
        route.port := by
  have hpress : press? block.id block.config =
      some (Answer.toRoutes block.id block.config) := by
    rcases block with ⟨id, ⟨kind, settings⟩, x, y, input, outputs⟩
    rcases hkind with hkind | hkind
    all_goals
      obtain rfl := hkind
      rfl
  rw [takePress_eq hwaiting hblock hpress, answerAt]
  have hanswer (session : Session) : Answer.toRoutes block.id block.config route.tag session =
      (.ok (some route.port), session) := by
    rw [Answer.toRoutes, find?_route hroute]
    rfl
  rw [guarded_of_ok block.id (hanswer _)]

/-- A block is left by following the edge at the port, if there is one. -/
theorem leaveBlock_spec (session : Session) (block : Block) (port : String) :
    ∃ left, leaveBlock session block port = (left, .going (block.targetOf port)) ∧
      left.waiting = none ∧ left.told = session.told ++ crossing block port := by
  obtain ⟨hseat, htarget⟩ := follow_eq { session with waiting := none } block port
  refine ⟨_, Prod.ext rfl (congrArg Progress.going htarget), congrArg Seat.waiting hseat, ?_⟩
  exact follow_told _ _ _

/-- When a block is left, nothing is said and nothing is bound. -/
theorem leaveBlock_keeps (session : Session) (block : Block) (port : String) :
    (leaveBlock session block port).1.transcript = session.transcript ∧
      (leaveBlock session block port).1.bindings = session.bindings := by
  rw [leaveBlock, follow]
  cases block.targetOf port with
  | none => exact ⟨rfl, rfl⟩
  | some target => exact ⟨rfl, rfl⟩

/-- A press is ignored where the conversation is at a block with an empty id. -/
theorem takePress_nameless (hcurrent : session.current = some "") (tag : String) :
    takePress flow session tag = (session, .ended) := by
  have hblock : currentBlock? flow session = none := by
    rw [currentBlock?, hcurrent]
    rfl
  rw [takePress, hblock]
  split
  · rename_i hpressed
    cases hpressed
  · rfl

/-- Pressing the button leaves the block through one of its ports, along the edge there, if there is
one. -/
def LeavesBy (flow : Flow) (block : Block) (session : Session) (tag : String) : Prop :=
  ∃ port ∈ Assoc.keys block.outputs, ∃ left,
    takePress flow session tag = (left, .going (block.targetOf port)) ∧ left.waiting = none ∧
      left.told = session.told ++ crossing block port ∧
      ∀ target, block.targetOf port = some target ↔ flow.Joins block.id port target

/-- The buttons of a block lead where the table of the program says, and where they are shown they
lead somewhere. -/
structure Routed (flow : Flow) (block : Block) : Prop where
  table : ∀ {name token : String} {bot : Program.Bot},
    Program.Bot.ofFlow flow name token = .ok bot → block.kind ≠ .start →
    ∃ rows, bot.table = .record rows ∧
      Assoc.get? rows block.id = some (Program.rowFor block).toValue
  callbacks : ∃ fields callbacks, (Program.rowFor block).toValue = .record fields ∧
    Assoc.get? fields "callbacks" = some (.record callbacks) ∧
    (∀ tag session, ∃ port, Answer.toRoutes block.id block.config tag session =
      (.ok port, session) ∧ Assoc.get? callbacks tag = port.map .text) ∧
    ∀ callback ∈ callbacks, ∃ port ∈ Assoc.keys block.outputs, callback.2 = .text port
  distinct : ((block.config.routes block.id).map Route.tag).Nodup ∧
    ((block.config.routes block.id).map Route.port).Nodup
  /-- A press of a button shown is ignored only if the id of the block is empty. -/
  pressed : Buttoned block.kind → ∀ {world : World} {session parked : Session},
    visitBlock world session block = (parked, .ended) → parked.waiting ≠ none →
    parked.waiting = some .callback ∧ ∃ entry,
      parked.transcript = session.transcript.push entry ∧
      ∀ offer ∈ entry.buttons, ∀ later : Session, later.current = some block.id →
        later.waiting = some .callback →
        (block.id ≠ "" → LeavesBy flow block later offer.tag) ∧
        (block.id = "" → takePress flow later offer.tag = (later, .ended))

theorem routed_of_wellFormed (hflow : flow.WellFormed) (hblock : block ∈ flow.blocks) :
    Routed flow block := by
  have hkeys := hflow.keys_outputs block hblock
  refine ⟨fun hbot hkind => Program.get?_table hbot hflow.nodup_blocks hblock hkind, ?_,
    ⟨block.config.nodup_tags _, block.config.nodup_routePorts _⟩, ?_⟩
  · refine ⟨_, _, rfl, rfl, fun tag session => ⟨_, rfl, ?_⟩, fun callback hcallback => ?_⟩
    · rw [Program.callbacks_eq, List.map_map, Option.map_map]
      exact get?_map_eq_find? tag
    · rw [Program.callbacks_eq, List.map_map] at hcallback
      obtain ⟨route, hroute, rfl⟩ := List.mem_map.1 hcallback
      exact ⟨route.port, hkeys ▸ Config.port_mem_of_route hroute, rfl⟩
  · intro hkind world session parked hvisit hwaiting
    obtain ⟨hparked, entry, htranscript, hoffers⟩ := shown_of_parked hkind hvisit hwaiting
    refine ⟨hparked, entry, htranscript, fun offer hoffer later hcurrent hlater => ⟨?_, ?_⟩⟩
    · intro hnamed
      obtain ⟨route, hroute, htag⟩ := hoffers offer hoffer
      have hthere : currentBlock? flow later = some block := by
        refine currentBlock?_eq_some_iff.2 ⟨?_, hcurrent, hnamed⟩
        exact (Flow.block?_eq_some_iff hflow.nodup_blocks).2 ⟨hblock, rfl⟩
      obtain ⟨left, hleft, hnone, htold⟩ := leaveBlock_spec
        (later.enter { sender := .user, text := "[" ++ route.tag ++ "]" }) block route.port
      refine ⟨route.port, hkeys ▸ Config.port_mem_of_route hroute, left, ?_, hnone, htold,
        fun target => hflow.targetOf_iff block hblock route.port target⟩
      rw [← htag, takePress_of_route hthere hlater hkind hroute, hleft]
    · intro hnameless
      exact takePress_nameless (hnameless ▸ hcurrent) offer.tag

/-- A start block before a keyboard with one button, under the given id. -/
def pickingEdits (id : String) : List Edit :=
  [.create (.named (.text "start")) none (.int 0) (.int 0),
    .create (.named (.text "inline_keyboard")) (some id) (.int 1) (.int 0),
    .update id "message" (.text "Pick"),
    .update id "buttons"
      (.list [.record [("text", .text "Go"), ("callback_data", .text "go")]]),
    .connect "block_1" "default" id none]

theorem routed_pickingEdits :
    let flow := (quietSetting (pickingEdits "k")).flow
    flow.WellFormed ∧ ∃ block ∈ flow.blocks, block.id = "k" ∧ Buttoned block.kind ∧
      Routed flow block := by
  intro flow
  have hflow : flow.WellFormed := wellFormed_quietSetting _
  have hfound : ∃ block ∈ flow.blocks, block.id = "k" ∧ block.kind = .inlineKeyboard := by
    decide +kernel
  obtain ⟨block, hblock, hid, hkind⟩ := hfound
  exact ⟨hflow, block, hblock, hid, .inl hkind, routed_of_wellFormed hflow hblock⟩

/-- Where the id of a keyboard is empty, the preview waits for a press and ignores it. -/
theorem not_leavesBy_pickingEdits :
    let setting := quietSetting (pickingEdits "")
    let shown := (run setting 9 (begin setting.flow {}).1 (begin setting.flow {}).2).1
    setting.flow.WellFormed ∧ shown.current = some "" ∧ shown.waiting = some .callback ∧
      shown.transcript.back?.map Entry.buttons = some [⟨"Go", "go"⟩] ∧
      takePress setting.flow shown "go" = (shown, .ended) ∧
      ∀ block ∈ setting.flow.blocks, ¬LeavesBy setting.flow block shown "go" := by
  intro setting shown
  have hshown : shown.current = some "" ∧ shown.waiting = some .callback ∧
      shown.transcript.back?.map Entry.buttons = some [⟨"Go", "go"⟩] := by decide +kernel
  have hignored : takePress setting.flow shown "go" = (shown, .ended) :=
    takePress_nameless hshown.1 "go"
  refine ⟨wellFormed_quietSetting _, hshown.1, hshown.2.1, hshown.2.2, hignored, ?_⟩
  rintro block - ⟨port, -, left, hleft, -⟩
  rw [hignored] at hleft
  cases congrArg Prod.snd hleft

end Preview

end DialogGraph
