import DialogGraph.Proofs.Preview.Routing
import DialogGraph.Proofs.Preview.Termination
import DialogGraph.Proofs.Script.Passing

/-!
# Asking for the fields of a form

A conversation that comes to a form asks for its fields one after the other. It counts the answers
itself, from none whenever it comes there, so that a form is filled in with as many answers as it
has fields, also when it is come to again. Every answer is kept in the variable of its own field,
and presses in between are ignored.
-/

namespace DialogGraph

namespace Form

variable {fields : List FormField} {field : FormField} {answers : List String}

def prompts (fields : List FormField) : List String := fields.map fun field => prompt field.type

/-- What is said when a form is filled in: its own words, or the usual ones if these are empty. -/
def thanks (words : String) : String := if words.isEmpty then successText else words

/-- The answers to the fields that have a variable, in order. The answer to a field without a
variable is not kept. -/
def answersTo (fields : List FormField) (answers : List String) (name : String) : List String :=
  ((fields.zip answers).filter fun asked => asked.1.variableName = name ∧ name ≠ "").map Prod.snd

theorem zip_concat (hfield : fields[answers.length]? = some field) (said : String) :
    fields.zip (answers ++ [said]) = fields.zip answers ++ [(field, said)] := by
  induction answers generalizing fields with
  | nil =>
    cases fields with
    | nil => cases hfield
    | cons first rest =>
      obtain rfl : first = field := Option.some.inj hfield
      simp
  | cons answer answers ih =>
    cases fields with
    | nil => cases hfield
    | cons first rest =>
      rw [List.cons_append, List.zip_cons_cons, ih hfield]
      rfl

/-- One more answer is kept for the variable of its own field, and for no other. -/
theorem answersTo_concat (hfield : fields[answers.length]? = some field) (said name : String) :
    answersTo fields (answers ++ [said]) name =
      answersTo fields answers name ++
        if field.variableName = name ∧ name ≠ "" then [said] else [] := by
  rw [answersTo, zip_concat hfield, List.filter_append, List.map_append, answersTo]
  by_cases hkept : field.variableName = name ∧ name ≠ ""
  · simp [hkept]
  · rw [if_neg hkept, List.filter_singleton, decide_eq_false hkept]
    rfl

end Form

namespace Preview

open DialogGraph.Text

variable {flow : Flow} {block : Block} {settings : IntakeFormSettings} {arrived session : Session}
  {answers : List String} {field next : FormField} {said : String}

/-! ### What the bot says -/

@[simp]
theorem Session.botTexts_say (session : Session) (text : String) (buttons : List Offer) :
    (session.say text buttons).botTexts = session.botTexts ++ [text] := by
  simp [botTexts, say, enter]

@[simp]
theorem Session.botTexts_heard (session : Session) (text : String) :
    (session.enter { sender := .user, text := text }).botTexts = session.botTexts := by
  simp [botTexts, enter]

/-! ### One answer -/

/-- The conversation when an answer to a field is taken. -/
def Session.answered (session : Session) (field : FormField) (said : String) : Session :=
  { session with
    bindings :=
      if field.variableName.isEmpty then session.bindings
      else Assoc.insert session.bindings field.variableName (.text said)
    formIndex := session.formIndex + 1 }

/-- An answer binds the variable of its field, if the field has one, and no other. -/
theorem Session.value?_answered (session : Session) (field : FormField) (said name : String) :
    (session.answered field said).value? name =
      if field.variableName = name ∧ name ≠ "" then some (.text said) else session.value? name := by
  by_cases hempty : field.variableName = ""
  · have hkept : ¬(field.variableName = name ∧ name ≠ "") := fun h => h.2 (h.1 ▸ hempty)
    rw [if_neg hkept, value?, answered, if_pos (String.isEmpty_iff.2 hempty), value?]
  · rw [value?, answered, if_neg (mt String.isEmpty_iff.1 hempty), Assoc.get?_insert]
    by_cases hname : field.variableName = name
    · rw [if_pos hname, if_pos ⟨hname, hname ▸ hempty⟩]
    · rw [if_neg hname, if_neg fun h => hname h.1, value?]

/-- An answer to a field is taken; then the next field is asked for, if there is one. -/
theorem toForm_apply (hfield : settings.fields[session.formIndex]? = some field) :
    Answer.toForm settings said session =
      (match settings.fields[session.formIndex + 1]? with
        | some next => (do Act.say (Form.prompt next.type); stay : Visit)
        | none => Visit.formDone settings) (session.answered field said) := by
  have hanswered : { if field.variableName.isEmpty then session
      else session.bind field.variableName (.text said) with
        formIndex := session.formIndex + 1 } = session.answered field said := by
    rw [Session.answered]
    by_cases hempty : field.variableName.isEmpty
    · simp only [if_pos hempty]
    · simp only [if_neg hempty]
      rfl
  cases hnext : settings.fields[session.formIndex + 1]? with
  | none =>
    simp only [Answer.toForm, Act.bind_apply, Act.get_apply, hfield, hnext, Act.bindNamed,
      Act.modify_apply, hanswered]
  | some next =>
    simp only [Answer.toForm, Act.bind_apply, Act.get_apply, hfield, hnext, Act.bindNamed,
      Act.modify_apply, hanswered]

theorem formDone_apply {text : String}
    (hfilled : Template.fill settings.successMessage session.bindings = .ok text) :
    Visit.formDone settings session =
      (.ok (some defaultPort), session.say (Form.thanks text) []) := by
  simp only [Visit.formDone, Act.bind_apply, Act.filled_apply, hfilled]
  rfl

/-! ### A form that is filled in -/

/-- Each variable holds the answer to the last field that has it, of the fields that are answered,
and what it held on arrival if there is none. -/
def HoldsAnswers (fields : List FormField) (answers : List String) (arrived session : Session) :
    Prop :=
  ∀ name, session.value? name =
    ((Form.answersTo fields answers name).getLast?.map Value.text).or (arrived.value? name)

theorem HoldsAnswers.nil (fields : List FormField) (arrived : Session) :
    HoldsAnswers fields [] arrived arrived := by
  intro name
  simp [Form.answersTo]

theorem HoldsAnswers.answered {fields : List FormField}
    (hholds : HoldsAnswers fields answers arrived session)
    (hfield : fields[answers.length]? = some field) (said : String) :
    HoldsAnswers fields (answers ++ [said]) arrived (session.answered field said) := by
  intro name
  rw [Session.value?_answered, Form.answersTo_concat hfield]
  by_cases hkept : field.variableName = name ∧ name ≠ ""
  · rw [if_pos hkept, if_pos hkept, List.getLast?_concat]
    rfl
  · rw [if_neg hkept, if_neg hkept, List.append_nil, hholds name]

/-- Answers have a text. -/
theorem HoldsAnswers.shown {fields : List FormField}
    (hholds : HoldsAnswers fields answers arrived session)
    (hshown : ∀ name value, arrived.value? name = some value →
      ∃ shown, value.display = .ok shown) (name : String) (value : Value)
    (hvalue : session.value? name = some value) : ∃ shown, value.display = .ok shown := by
  rw [hholds name] at hvalue
  cases hlast : (Form.answersTo fields answers name).getLast? with
  | none =>
    rw [hlast] at hvalue
    exact hshown name value hvalue
  | some answer =>
    rw [hlast] at hvalue
    obtain rfl : Value.text answer = value := Option.some.inj hvalue
    exact ⟨answer, rfl⟩

/-- The conversation waits at a form for the next answer, having asked for each field so far once,
in order. -/
structure Asks (block : Block) (fields : List FormField) (arrived : Session) (answers : List String)
    (session : Session) : Prop where
  current : session.current = some block.id
  waiting : session.waiting = some .input
  index : session.formIndex = answers.length
  texts : session.botTexts =
    arrived.botTexts ++ Form.prompts (fields.take (answers.length + 1))
  /-- What was said last asks for the next field. -/
  last : ∃ field, fields[answers.length]? = some field ∧
    session.botTexts.getLast? = some (Form.prompt field.type)
  holds : HoldsAnswers fields answers arrived session
  told : session.told = arrived.told ++ [.suspended block.id .input]

/-- The conversation leaves a form that is filled in through its default port, and says so once. -/
structure FilledIn (block : Block) (settings : IntakeFormSettings) (arrived : Session)
    (answers : List String) (left : Session) : Prop where
  waiting : left.waiting = none
  texts : ∃ text, Template.fill settings.successMessage left.bindings = .ok text ∧
    left.botTexts = arrived.botTexts ++ Form.prompts settings.fields ++ [Form.thanks text]
  holds : HoldsAnswers settings.fields answers arrived left
  told : left.told = arrived.told ++ .suspended block.id .input :: crossing block defaultPort

/-- A form at a block that is found again in the flow. -/
structure FormAt (flow : Flow) (block : Block) (settings : IntakeFormSettings) : Prop where
  found : flow.block? block.id = some block
  named : block.id ≠ ""
  config : block.config = ⟨.intakeForm, settings⟩

/-- A conversation that comes to a form with fields asks for the first of them. -/
theorem asks_of_visit (hconfig : block.config = ⟨.intakeForm, settings⟩)
    (hfields : settings.fields ≠ []) (hcurrent : arrived.current = some block.id) (world : World) :
    ∃ parked, visitBlock world arrived block = (parked, .ended) ∧
      Asks block settings.fields arrived [] parked := by
  obtain ⟨field, rest, hfields⟩ := List.exists_cons_of_ne_nil hfields
  have hvisit : visit? world block.id block.config = some (Visit.intakeForm settings) := by
    rw [hconfig]
    rfl
  let counted : Session := { arrived with formIndex := 0 }
  let asked : Session :=
    { counted.say (Form.prompt field.type) [] with waiting := some .input }
  have hran : Visit.intakeForm settings arrived = (.ok none, asked) := by
    rw [Visit.intakeForm, hfields]
    rfl
  have htexts : asked.botTexts = arrived.botTexts ++ [Form.prompt field.type] :=
    counted.botTexts_say _ _
  refine ⟨asked.tell (.suspended block.id .input), ?_, ?_⟩
  · rw [visitBlock, hvisit]
    simp only [guarded_of_ok block.id hran]
    rfl
  · constructor
    case current => exact hcurrent
    case waiting => rfl
    case index => rfl
    case texts =>
      rw [hfields]
      exact htexts
    case last =>
      refine ⟨field, by rw [hfields]; rfl, ?_⟩
      exact htexts ▸ List.getLast?_concat
    case holds => exact HoldsAnswers.nil settings.fields arrived
    case told => exact Session.told_tell _ _

namespace Asks

/-- A press is ignored where the next answer is waited for. -/
theorem press {fields : List FormField} (hasks : Asks block fields arrived answers session)
    (tag : String) : takePress flow session tag = (session, .ended) := by
  simp only [takePress, hasks.waiting]

/-- A text is an answer to the field that was asked for. -/
theorem takeText_eq_answerAt (hform : FormAt flow block settings)
    (hasks : Asks block settings.fields arrived answers session)
    (hstart : Text.trim said ≠ "/start") :
    takeText flow session said = answerAt block (Answer.toForm settings said)
      (session.enter { sender := .user, text := said }) := by
  have hthere : currentBlock? flow session = some block :=
    currentBlock?_eq_some_iff.2 ⟨hform.found, hasks.current, hform.named⟩
  have hanswer : answer? block.config = some (Answer.toForm settings) := by
    rw [hform.config]
    rfl
  exact takeText_eq hstart hasks.waiting hthere hanswer

/-- An answer that is not the last is kept, and the next field is asked for. -/
theorem takeText_next (hform : FormAt flow block settings)
    (hasks : Asks block settings.fields arrived answers session)
    (hfield : settings.fields[answers.length]? = some field)
    (hnext : settings.fields[answers.length + 1]? = some next)
    (hstart : Text.trim said ≠ "/start") :
    ∃ after, takeText flow session said = (after, .ended) ∧
      Asks block settings.fields arrived (answers ++ [said]) after ∧
      after.bindings = (session.answered field said).bindings := by
  let heard := session.enter { sender := .user, text := said }
  let after := (heard.answered field said).say (Form.prompt next.type) []
  have hindex : heard.formIndex = answers.length := hasks.index
  have hlength : (answers ++ [said]).length = answers.length + 1 := List.length_append
  have hran : Answer.toForm settings said heard = (.ok none, after) := by
    rw [toForm_apply (hindex ▸ hfield), hindex, hnext]
    rfl
  have htexts : after.botTexts = session.botTexts ++ [Form.prompt next.type] :=
    (Session.botTexts_say _ _ _).trans
      (congrArg (· ++ [Form.prompt next.type]) (session.botTexts_heard said))
  refine ⟨after, ?_, ?_, rfl⟩
  · rw [hasks.takeText_eq_answerAt hform hstart, answerAt, guarded_of_ok block.id hran]
  · constructor
    case current => exact hasks.current
    case waiting => exact hasks.waiting
    case index => exact (congrArg (· + 1) hindex).trans hlength.symm
    case texts =>
      rw [htexts, hasks.texts, hlength, List.take_add_one (i := answers.length + 1), hnext,
        List.append_assoc, Form.prompts, Form.prompts, List.map_append]
      rfl
    case last =>
      refine ⟨next, hlength.symm ▸ hnext, ?_⟩
      exact htexts ▸ List.getLast?_concat
    case holds => exact hasks.holds.answered hfield said
    case told => exact hasks.told

/-- The last answer is kept, and the form is left. -/
theorem takeText_last (hform : FormAt flow block settings)
    (hasks : Asks block settings.fields arrived answers session)
    (hshown : ∀ name value, arrived.value? name = some value →
      ∃ shown, value.display = .ok shown)
    (hfield : settings.fields[answers.length]? = some field)
    (hnone : settings.fields[answers.length + 1]? = none)
    (hstart : Text.trim said ≠ "/start") :
    ∃ left, takeText flow session said = (left, .going (block.targetOf defaultPort)) ∧
      FilledIn block settings arrived (answers ++ [said]) left ∧
      left.bindings = (session.answered field said).bindings := by
  let heard := session.enter { sender := .user, text := said }
  have hindex : heard.formIndex = answers.length := hasks.index
  have hholds : HoldsAnswers settings.fields (answers ++ [said]) arrived
      (heard.answered field said) := hasks.holds.answered hfield said
  -- the form's own words may name any variable, the last answer's included
  obtain ⟨text, hfilled⟩ := Template.exists_fill (hholds.shown hshown) settings.successMessage
  let after := (heard.answered field said).say (Form.thanks text) []
  have hran : Answer.toForm settings said heard = (.ok (some defaultPort), after) := by
    rw [toForm_apply (hindex ▸ hfield), hindex, hnone]
    exact formDone_apply hfilled
  have htexts : after.botTexts = session.botTexts ++ [Form.thanks text] :=
    (Session.botTexts_say _ _ _).trans
      (congrArg (· ++ [Form.thanks text]) (session.botTexts_heard said))
  obtain ⟨left, hleft, hwaiting, htold⟩ := leaveBlock_spec after block defaultPort
  obtain ⟨htranscript, hbindings⟩ := leaveBlock_keeps after block defaultPort
  rw [hleft] at htranscript hbindings
  have hall : settings.fields.take (answers.length + 1) = settings.fields :=
    List.take_of_length_le (List.getElem?_eq_none_iff.1 hnone)
  refine ⟨left, ?_, ?_, hbindings⟩
  · rw [hasks.takeText_eq_answerAt hform hstart, answerAt, guarded_of_ok block.id hran]
    exact hleft
  · constructor
    case waiting => exact hwaiting
    case texts =>
      refine ⟨text, hbindings ▸ hfilled, ?_⟩
      have hsame : left.botTexts = after.botTexts := by
        rw [Session.botTexts, htranscript, Session.botTexts]
      rw [hsame, htexts, hasks.texts, hall]
    case holds =>
      intro name
      rw [Session.value?, hbindings]
      exact hholds name
    case told =>
      have hkept : after.told = session.told := rfl
      rw [htold, hkept, hasks.told, List.append_assoc]
      rfl

end Asks

/-! ### Any number of answers -/

/-- What the user may do while a form is filled in: say anything but to begin anew, and press
anything. -/
def Occasion.Replies : Occasion → Prop
  | .start => False
  | .text said => Text.trim said ≠ "/start"
  | .press _ => True

def Occasion.said? : Occasion → Option String
  | .text said => some said
  | _ => none

def saidOn (occasions : List Occasion) : List String := occasions.filterMap Occasion.said?

/-- As long as there are fewer answers than fields, the next field is asked for. -/
theorem Asks.playThrough {setting : Setting} (hform : FormAt setting.flow block settings)
    (steps : Nat) (hasks : Asks block settings.fields arrived answers session)
    {occasions : List Occasion} (hreplies : ∀ occasion ∈ occasions, occasion.Replies)
    (hfewer : answers.length + (saidOn occasions).length < settings.fields.length) :
    ∃ later, playThrough setting steps session occasions = some later ∧
      Asks block settings.fields arrived (answers ++ saidOn occasions) later := by
  -- `Asks` carries the count: a text adds an answer to it, a press leaves it as it is
  induction occasions generalizing answers session with
  | nil => exact ⟨session, rfl, by simpa [saidOn] using hasks⟩
  | cons occasion rest ih =>
    obtain ⟨hreply, hrest⟩ := List.forall_mem_cons.1 hreplies
    cases occasion with
    | start => exact hreply.elim
    | press tag =>
      obtain ⟨later, hplayed, hlater⟩ := ih hasks hrest hfewer
      refine ⟨later, ?_, hlater⟩
      rw [playThrough_of_ended (.press tag) (hasks.press tag)]
      exact hplayed
    | text said =>
      have hsaid : saidOn (.text said :: rest) = said :: saidOn rest := rfl
      rw [hsaid, List.length_cons] at hfewer
      have hfield :=
        List.getElem?_eq_getElem (l := settings.fields) (i := answers.length) (by omega)
      have hnext :=
        List.getElem?_eq_getElem (l := settings.fields) (i := answers.length + 1) (by omega)
      obtain ⟨after, htaken, hafter, -⟩ := hasks.takeText_next hform hfield hnext hreply
      obtain ⟨later, hplayed, hlater⟩ := ih hafter hrest (by simp; omega)
      rw [List.append_assoc] at hlater
      refine ⟨later, ?_, hlater⟩
      rw [playThrough_of_ended (.text said) htaken]
      exact hplayed

/-- What comes of the next answer where a form asks for it: it binds the variable of its own field
and no other, and the last one fills in the form. -/
structure TakesAnswer (flow : Flow) (block : Block) (settings : IntakeFormSettings)
    (arrived : Session) (answers : List String) (session : Session) : Prop where
  asks : Asks block settings.fields arrived answers session
  binds : ∀ said, Text.trim said ≠ "/start" →
    ∃ field, settings.fields[answers.length]? = some field ∧
      ∀ name, (takeText flow session said).1.value? name =
        if field.variableName = name ∧ name ≠ "" then some (.text said) else session.value? name
  leaves : answers.length + 1 = settings.fields.length →
    ∀ said, Text.trim said ≠ "/start" →
      ∃ left, takeText flow session said = (left, .going (block.targetOf defaultPort)) ∧
        FilledIn block settings arrived (answers ++ [said]) left

theorem Asks.takesAnswer (hform : FormAt flow block settings)
    (hasks : Asks block settings.fields arrived answers session)
    (hshown : ∀ name value, arrived.value? name = some value →
      ∃ shown, value.display = .ok shown) :
    TakesAnswer flow block settings arrived answers session := by
  obtain ⟨field, hfield, -⟩ := hasks.last
  constructor
  case asks => exact hasks
  case binds =>
    intro said hstart
    refine ⟨field, hfield, fun name => ?_⟩
    have hbound : (takeText flow session said).1.bindings =
        (session.answered field said).bindings := by
      cases hnext : settings.fields[answers.length + 1]? with
      | none =>
        obtain ⟨left, htaken, -, hbindings⟩ :=
          hasks.takeText_last hform hshown hfield hnext hstart
        rw [htaken, hbindings]
      | some next =>
        obtain ⟨after, htaken, -, hbindings⟩ := hasks.takeText_next hform hfield hnext hstart
        rw [htaken, hbindings]
    rw [Session.value?, hbound]
    exact session.value?_answered field said name
  case leaves =>
    intro hlast said hstart
    have hnone : settings.fields[answers.length + 1]? = none :=
      List.getElem?_eq_none_iff.2 hlast.ge
    obtain ⟨left, htaken, hfilled, -⟩ := hasks.takeText_last hform hshown hfield hnone hstart
    exact ⟨left, htaken, hfilled⟩

/-- A form with fields takes just as many answers. In whatever state a conversation comes to it, and
whatever is pressed in between, it asks for one field after the other; the last answer is thanked
for and leaves the form. -/
theorem takesAnswers_of_visit (setting : Setting) (hflow : setting.flow.WellFormed)
    (hblock : block ∈ setting.flow.blocks) (hnamed : block.id ≠ "")
    (hconfig : block.config = ⟨.intakeForm, settings⟩) (hfields : settings.fields ≠ [])
    (hcurrent : arrived.current = some block.id)
    (hshown : ∀ name value, arrived.value? name = some value →
      ∃ shown, value.display = .ok shown) (world : World) :
    ∃ parked, visitBlock world arrived block = (parked, .ended) ∧
      ∀ (steps : Nat) (occasions : List Occasion), (∀ occasion ∈ occasions, occasion.Replies) →
        (saidOn occasions).length < settings.fields.length →
        ∃ later, playThrough setting steps parked occasions = some later ∧
          TakesAnswer setting.flow block settings arrived (saidOn occasions) later := by
  have hform : FormAt setting.flow block settings :=
    ⟨(Flow.block?_eq_some_iff hflow.nodup_blocks).2 ⟨hblock, rfl⟩, hnamed, hconfig⟩
  obtain ⟨parked, hparked, hasks⟩ := asks_of_visit hconfig hfields hcurrent world
  refine ⟨parked, hparked, fun steps occasions hreplies hfewer => ?_⟩
  have hcount : ([] : List String).length + (saidOn occasions).length < settings.fields.length := by
    simpa using hfewer
  obtain ⟨later, hplayed, hlater⟩ := hasks.playThrough hform steps hreplies hcount
  exact ⟨later, hplayed, hlater.takesAnswer hform hshown⟩

/-- A loop of two rounds around a form. Two of its fields have one variable, and the one between
them has none. -/
def guestEdits : List Edit :=
  [.create (.named (.text "start")) none (.int 0) (.int 0),
    .create (.named (.text "loop")) none (.int 1) (.int 0), .update "block_2" "count" (.int 2),
    .create (.named (.text "order_form")) none (.int 2) (.int 0),
    .update "block_3" "fields" (.list [
      .record [("type", .text "name"), ("variable", .text "guest")],
      .record [("type", .text "phone"), ("variable", .text "")],
      .record [("type", .text "email"), ("variable", .text "guest")]]),
    .update "block_3" "success_message" (.text "Hello \x7bguest\x7d"),
    .connect "block_1" "default" "block_2" none, .connect "block_2" "loop_body" "block_3" none]

/-- The form is come to in the second round, when it was filled in once. -/
theorem takesAnswers_guestEdits :
    let setting := quietSetting guestEdits
    let arrived : Session :=
      { current := some "block_3", formIndex := 3, frames := [⟨"block_2", 2, []⟩],
        bindings := [("guest", .text "ann@example")] }
    ∃ block settings parked later,
      settings.fields = [⟨.name, "guest"⟩, ⟨.phone, ""⟩, ⟨.email, "guest"⟩] ∧
      visitBlock (setting.world {}) arrived block = (parked, .ended) ∧
      playThrough setting 0 parked [.text "Bob", .press "go", .text "1"] = some later ∧
      TakesAnswer setting.flow block settings arrived ["Bob", "1"] later := by
  intro setting arrived
  have hfound : ∃ block ∈ setting.flow.blocks, block.id = "block_3" ∧
      (match block.config with
        | ⟨.intakeForm, settings⟩ => IntakeFormSettings.fields settings
        | _ => []) = [⟨.name, "guest"⟩, ⟨.phone, ""⟩, ⟨.email, "guest"⟩] := by decide +kernel
  obtain ⟨⟨id, ⟨kind, settings⟩, x, y, input, outputs⟩, hblock, rfl, hfields⟩ := hfound
  cases kind
  case intakeForm =>
    replace hfields : IntakeFormSettings.fields settings =
      [⟨.name, "guest"⟩, ⟨.phone, ""⟩, ⟨.email, "guest"⟩] := hfields
    have hsome : IntakeFormSettings.fields settings ≠ [] := hfields ▸ List.cons_ne_nil _ _
    have hfewer : 2 < (IntakeFormSettings.fields settings).length := by
      rw [hfields]
      decide
    have hshown : ∀ name value, arrived.value? name = some value →
        ∃ shown, value.display = .ok shown := by
      intro name value hvalue
      have hmem := Assoc.mem_of_get? hvalue
      simp only [arrived, List.mem_cons, Prod.mk.injEq, List.not_mem_nil, or_false] at hmem
      obtain ⟨-, rfl⟩ := hmem
      exact ⟨_, rfl⟩
    have hreplies : ∀ occasion ∈ [Occasion.text "Bob", .press "go", .text "1"],
        occasion.Replies := by
      have htexts : Text.trim "Bob" ≠ "/start" ∧ Text.trim "1" ≠ "/start" := by decide
      simpa [Occasion.Replies] using htexts
    obtain ⟨parked, hparked, htakes⟩ := takesAnswers_of_visit setting (wellFormed_quietSetting _)
      hblock (show "block_3" ≠ "" by decide) rfl hsome rfl hshown (setting.world {})
    obtain ⟨later, hplayed, hlater⟩ := htakes 0 _ hreplies hfewer
    exact ⟨_, settings, parked, later, hfields, hparked, hplayed, hlater⟩
  all_goals cases hfields

example : (playThrough (quietSetting guestEdits) 9 {} [.start, .text "Ann", .text "0",
    .text "ann@example", .text "Bob", .press "go", .text "1", .text "bob@example"]).map
      Session.botTexts =
    some ["Please enter your name:", "Please enter your phone number:", "Please enter your email:",
      "Hello ann@example", "Please enter your name:", "Please enter your phone number:",
      "Please enter your email:", "Hello bob@example"] := by
  decide +kernel

end Preview

end DialogGraph
