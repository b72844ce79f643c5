import DialogGraph.Proofs.Preview.Rounds

/-!
# Visits

A visit to a block leaves the conversation in its seat: at the block where it is, with the loops
under way, and waiting for nothing new. There are two exceptions. Blocks of some kinds make the
conversation wait, and stay; and a loop may come to be under way. The answers to what the user sends
leave the conversation in its seat altogether. And neither a visit nor an answer tells anything to
those who watch.

So an action is followed in one aspect of the conversation, its seat or its trace, from what it is
when the action begins, through success and failure alike.
-/

namespace DialogGraph

/-- What a conversation waits for at a block of a kind, if it may wait there. -/
def Kind.awaited : Kind → Option Preview.Waiting
  | .question | .choice | .intakeForm => some .input
  | .inlineKeyboard | .orderConfirm | .catalog => some .callback
  | _ => none

namespace Preview

/-- Where a conversation is: at a block or nowhere, waiting or not, with the loops under way. -/
structure Seat where
  current : Option String
  waiting : Option Waiting
  frames : List Loop.Frame

def Session.seat (session : Session) : Seat := ⟨session.current, session.waiting, session.frames⟩

theorem Session.seat_eq_iff {session : Session} {current : Option String}
    {waiting : Option Waiting} {frames : List Loop.Frame} :
    session.seat = ⟨current, waiting, frames⟩ ↔
      session.current = current ∧ session.waiting = waiting ∧ session.frames = frames := by
  simp [Session.seat]

/-- An aspect of a conversation: a part of its state that hangs on nothing but its seat and its
trace, with what becomes of the part when the conversation waits. -/
structure Aspect (σ : Type) where
  of : Session → σ
  wait : Option Waiting → σ → σ
  of_congr {a b : Session} (hseat : a.seat = b.seat) (htrace : a.journal.trace = b.journal.trace) :
    of a = of b
  of_wait (session : Session) (waiting : Option Waiting) :
    of { session with waiting := waiting } = wait waiting (of session)

namespace Aspect

def seat : Aspect Seat where
  of := Session.seat
  wait waiting seat := { seat with waiting := waiting }
  of_congr hseat _ := hseat
  of_wait _ _ := rfl

def trace : Aspect (Array Trace) where
  of session := session.journal.trace
  wait _ trace := trace
  of_congr _ htrace := htrace
  of_wait _ _ := rfl

theorem seat_wait {seat : Seat} {waiting : Waiting} (hwaiting : seat.waiting = some waiting) :
    Aspect.seat.wait (some waiting) seat = seat := by
  rw [← hwaiting]
  rfl

end Aspect

variable {α β σ : Type} {aspect : Aspect σ} {start : σ} {awaited : Option Waiting}

namespace Act

theorem bind_apply (act : Act α) (rest : α → Act β) (session : Session) :
    (act >>= rest) session =
      match act session with
      | (.ok a, after) => rest a after
      | (.error failure, after) => (.error failure, after) := by
  change ExceptT.bind act rest session = _
  simp only [ExceptT.bind, ExceptT.mk, bind, StateT.bind]
  rcases act session with ⟨failure | a, after⟩
  · rfl
  · rfl

theorem get_apply (session : Session) : (get : Act Session) session = (.ok session, session) := rfl

theorem set_apply (session after : Session) :
    (set after : Act PUnit) session = (.ok ⟨⟩, after) := rfl

theorem modify_apply (f : Session → Session) (session : Session) :
    (modify f : Act PUnit) session = (.ok ⟨⟩, f session) := rfl

theorem liftM_text (result : Except TextFault α) (session : Session) :
    (liftM result : Act α) session = (result.mapError .text, session) := rfl

theorem liftM_formula (result : Except Formula.Fault α) (session : Session) :
    (liftM result : Act α) session = (result.mapError .formula, session) := rfl

theorem liftM_catalog (result : Except Catalog.Fault α) (session : Session) :
    (liftM result : Act α) session = (result.mapError .catalog, session) := rfl

theorem liftM_loop (result : Except Loop.Fault α) (session : Session) :
    (liftM result : Act α) session = (result.mapError .loop, session) := rfl

end Act

/-! ### Actions in one aspect -/

/-- What comes of an action that begins with an aspect being `start`: its result, and the aspect
after it. -/
def Ends (aspect : Aspect σ) (start : σ) (post : Except Failure α → σ → Prop) (act : Act α) :
    Prop :=
  ∀ session, aspect.of session = start → post (act session).1 (aspect.of (act session).2)

/-- The aspect is the same, whatever the result. -/
def Unmoved (start : σ) (_ : Except Failure α) (after : σ) : Prop := after = start

/-- The aspect is the same, unless the visit stays at the block and waits for what is awaited. -/
def Settled (aspect : Aspect σ) (awaited : Option Waiting) (start : σ) :
    Except Failure (Option String) → σ → Prop
  | .ok none, after => awaited.isSome ∧ after = aspect.wait awaited start
  | _, after => after = start

/-- The conversation waits, unless the action fails. -/
def Parked (aspect : Aspect σ) (waiting : Waiting) (start : σ) : Except Failure PUnit → σ → Prop
  | .ok _, after => after = aspect.wait (some waiting) start
  | .error _, after => after = start

/-- An action that leaves an aspect as it is, whether it fails or not. -/
abbrev Keeps (aspect : Aspect σ) (start : σ) (act : Act α) : Prop :=
  Ends aspect start (Unmoved start) act

/-- An action after which the conversation waits. -/
abbrev Parks (aspect : Aspect σ) (waiting : Waiting) (start : σ) (act : Act PUnit) : Prop :=
  Ends aspect start (Parked aspect waiting start) act

/-- A visit that leaves an aspect as it is, unless the conversation comes to wait. -/
abbrev Settles (aspect : Aspect σ) (awaited : Option Waiting) (start : σ) (visit : Visit) : Prop :=
  Ends aspect start (Settled aspect awaited start) visit

@[simp]
theorem unmoved_self (result : Except Failure α) : Unmoved start result start := rfl

@[simp]
theorem settled_error (failure : Failure) :
    Settled aspect awaited start (.error failure) start := rfl

@[simp]
theorem parked_error (waiting : Waiting) (failure : Failure) :
    Parked aspect waiting start (.error failure) start := rfl

namespace Ends

variable {post : Except Failure β → σ → Prop}

/-- A failure of the first action is a failure of both. -/
@[simp]
theorem bind {act : Act α} {rest : α → Act β} (hact : Keeps aspect start act)
    (hfail : ∀ failure, post (.error failure) start)
    (hrest : ∀ a, Ends aspect start post (rest a)) :
    Ends aspect start post (act >>= rest) := by
  intro session hstart
  have hafter := hact session hstart
  rw [Act.bind_apply]
  rcases hran : act session with ⟨failure | a, after⟩ <;> rw [hran] at hafter
  · exact hafter.symm ▸ hfail failure
  · exact hrest a after hafter

@[simp]
theorem ite {p : Prop} [Decidable p] {yes no : Act β} (hyes : Ends aspect start post yes)
    (hno : Ends aspect start post no) : Ends aspect start post (if p then yes else no) := by
  by_cases hp : p
  · rwa [if_pos hp]
  · rwa [if_neg hp]

/-- What comes after a look at the session may rely on what the aspect is. -/
@[simp high]
theorem look {rest : Session → Act β}
    (hrest : ∀ session, aspect.of session = start → Ends aspect start post (rest session)) :
    Ends aspect start post (get >>= rest) :=
  fun session hstart => hrest session hstart session hstart

theorem replace {session after : Session} {rest : PUnit → Act β}
    (hstart : aspect.of session = start) (hseat : after.seat = session.seat)
    (htrace : after.journal.trace = session.journal.trace)
    (hrest : Ends aspect start post (rest ⟨⟩)) : Ends aspect start post (set after >>= rest) :=
  fun _ _ => hrest after ((aspect.of_congr hseat htrace).trans hstart)

end Ends

namespace Keeps

theorem bind {act : Act α} {rest : α → Act β} (hact : Keeps aspect start act)
    (hrest : ∀ a, Keeps aspect start (rest a)) : Keeps aspect start (act >>= rest) :=
  Ends.bind hact (fun _ => rfl) hrest

theorem adjust {f : Session → Session} (hseat : ∀ session, (f session).seat = session.seat)
    (htrace : ∀ session, (f session).journal.trace = session.journal.trace) :
    Keeps aspect start (modify f : Act PUnit) :=
  fun session hstart => (aspect.of_congr (hseat session) (htrace session)).trans hstart

@[simp]
theorem pure (a : α) : Keeps aspect start (pure a : Act α) :=
  fun _ hstart => hstart

@[simp]
theorem throw (failure : Failure) : Keeps aspect start (throw failure : Act α) :=
  fun _ hstart => hstart

@[simp]
theorem liftText (result : Except TextFault α) : Keeps aspect start (liftM result : Act α) :=
  fun _ hstart => hstart

@[simp]
theorem liftRange (result : Except RangeFault α) : Keeps aspect start (liftM result : Act α) :=
  fun _ hstart => hstart

@[simp]
theorem liftFormula (result : Except Formula.Fault α) :
    Keeps aspect start (liftM result : Act α) :=
  fun _ hstart => hstart

@[simp]
theorem liftCatalog (result : Except Catalog.Fault α) :
    Keeps aspect start (liftM result : Act α) :=
  fun _ hstart => hstart

@[simp]
theorem liftProduct (result : Except Catalog.ProductFault α) :
    Keeps aspect start (liftM result : Act α) :=
  fun _ hstart => hstart

theorem liftLoop (result : Except Loop.Fault α) : Keeps aspect start (liftM result : Act α) :=
  fun _ hstart => hstart

@[simp]
theorem say (text : String) (buttons : List Offer) : Keeps aspect start (Act.say text buttons) :=
  adjust (fun _ => rfl) fun _ => rfl

@[simp]
theorem note (text : String) : Keeps aspect start (Act.note text) :=
  adjust (fun _ => rfl) fun _ => rfl

@[simp]
theorem bindNamed (name : String) (value : Value) :
    Keeps aspect start (Act.bindNamed name value) := by
  rw [Act.bindNamed]
  by_cases hname : name.isEmpty
  · simp only [if_pos hname]
    exact adjust (fun _ => rfl) fun _ => rfl
  · simp only [if_neg hname]
    exact adjust (fun _ => rfl) fun _ => rfl

@[simp]
theorem filled (text : String) : Keeps aspect start (Act.filled text) :=
  .look fun _ _ => liftText _

@[simp]
theorem sleep (world : World) (seconds : Int) : Keeps aspect start (Act.sleep world seconds) := by
  rw [Act.sleep]
  apply Ends.bind
  · exact adjust (fun _ => rfl) fun _ => rfl
  · simp
  · intro _
    cases world.sleep seconds <;> simp

@[simp]
theorem complete (world : World) (request : Completion.Request) :
    Keeps aspect start (Act.complete world request) := by
  rw [Act.complete]
  apply Ends.bind
  · exact adjust (fun _ => rfl) fun _ => rfl
  · simp
  · intro _
    cases world.complete request <;> simp

end Keeps

/-! ### Blocks other than loops -/

namespace Parks

theorem await (waiting : Waiting) : Parks aspect waiting start (Act.await waiting) := by
  rintro session rfl
  exact aspect.of_wait session _

/-- A visit may end where the conversation has come to wait. -/
theorem stay {waiting : Waiting} {act : Act PUnit} (hact : Parks aspect waiting start act) :
    Settles aspect (some waiting) start (act >>= fun _ => stay) := by
  intro session hstart
  have hafter := hact session hstart
  rw [Act.bind_apply]
  rcases hran : act session with ⟨failure | _, after⟩ <;> rw [hran] at hafter
  · exact hafter
  · exact ⟨rfl, hafter⟩

theorem showPage (id : String) (products : List Catalog.Product) :
    Parks aspect .callback start (Visit.showPage id products) := by
  simp only [Visit.showPage]
  apply Ends.look
  intro session hstart
  refine Ends.replace hstart (by rfl) (by rfl) ?_
  simp [await]

end Parks

namespace Settles

@[simp]
theorem leave (port : String) : Settles aspect awaited start (leave port) :=
  fun _ hstart => hstart

@[simp]
theorem goOn : Settles aspect awaited start goOn := leave _

@[simp]
theorem waitFor (waiting : Waiting) : Settles aspect (some waiting) start (waitFor waiting) :=
  Parks.stay (Parks.await waiting)

theorem message (settings : MessageSettings) :
    Settles aspect awaited start (Visit.message settings) := by
  simp [Visit.message]

theorem question (settings : QuestionSettings) :
    Settles aspect (some .input) start (Visit.question settings) := by
  simp [Visit.question]

theorem choice (settings : ChoiceSettings) :
    Settles aspect (some .input) start (Visit.choice settings) := by
  simp only [Visit.choice]
  apply Ends.bind (Keeps.filled _) settled_error
  intro text
  apply Ends.bind
  · exact Keeps.adjust (fun _ => rfl) fun _ => rfl
  · exact settled_error
  · exact fun _ => waitFor _

theorem condition (settings : ConditionSettings) :
    Settles aspect awaited start (Visit.condition settings) := by
  simp only [Visit.condition]
  apply Ends.bind (Keeps.filled _) settled_error
  intro expected
  simp

theorem delay (world : World) (settings : DelaySettings) :
    Settles aspect awaited start (Visit.delay world settings) := by
  simp [Visit.delay]

theorem setVariable (settings : SetVariableSettings) :
    Settles aspect awaited start (Visit.setVariable settings) := by
  simp only [Visit.setVariable]
  apply Ends.ite
  · simp
  · exact goOn

theorem sendImage (settings : SendImageSettings) :
    Settles aspect awaited start (Visit.sendImage settings) := by
  simp only [Visit.sendImage]
  apply Ends.bind (Keeps.filled _) settled_error
  intro caption
  apply Ends.ite
  · apply Ends.bind
    · exact Keeps.adjust (fun _ => rfl) fun _ => rfl
    · exact settled_error
    · exact fun _ => goOn
  · exact goOn

theorem inlineKeyboard (settings : InlineKeyboardSettings) :
    Settles aspect (some .callback) start (Visit.inlineKeyboard settings) := by
  simp only [Visit.inlineKeyboard]
  apply Ends.bind (Keeps.filled _) settled_error
  intro text
  simp

theorem compute (world : World) (settings : ComputeSettings) :
    Settles aspect awaited start (Visit.compute world settings) := by
  simp only [Visit.compute]
  apply Ends.ite
  · apply Ends.look
    intro session _
    simp
  · exact goOn

theorem cartOp (settings : CartOpSettings) :
    Settles aspect awaited start (Visit.cartOp settings) := by
  simp only [Visit.cartOp]
  apply Ends.look
  intro session hstart
  apply Ends.bind (Keeps.liftText _) settled_error
  intro cart
  refine Ends.replace hstart (by rfl) (by rfl) ?_
  have hbound (name : String) (value : Value) :
      Keeps aspect start (modify fun session => session.bind name value : Act PUnit) :=
    Keeps.adjust (fun _ => rfl) fun _ => rfl
  cases settings.action <;> simp [hbound]

theorem payment (settings : PaymentSettings) :
    Settles aspect awaited start (Visit.payment settings) := by
  simp only [Visit.payment]
  apply Ends.look
  intro session _
  apply Ends.bind (Keeps.liftRange _) settled_error
  intro amount
  apply Ends.ite
  · simp
  · simp

theorem recordStore (settings : RecordStoreSettings) :
    Settles aspect awaited start (Visit.recordStore settings) := by
  simp only [Visit.recordStore]
  apply Ends.bind (Keeps.filled _) settled_error
  intro key
  apply Ends.look
  intro session hstart
  cases settings.operation with
  | load => simp
  | save =>
    refine Ends.replace hstart (by rfl) (by rfl) ?_
    simp
  | delete =>
    refine Ends.replace hstart (by rfl) (by rfl) ?_
    simp

theorem catalog (id : String) (settings : CatalogSettings) :
    Settles aspect (some .callback) start (Visit.catalog id settings) := by
  simp only [Visit.catalog]
  generalize Catalog.read (some settings.source) settings.products = read
  apply Ends.bind (Keeps.liftCatalog read) settled_error
  intro products
  apply Ends.ite
  · simp
  · exact Parks.stay (Parks.showPage id products)

theorem formDone (settings : IntakeFormSettings) :
    Settles aspect awaited start (Visit.formDone settings) := by
  simp [Visit.formDone]

theorem intakeForm (settings : IntakeFormSettings) :
    Settles aspect (some .input) start (Visit.intakeForm settings) := by
  rw [Visit.intakeForm]
  cases settings.fields with
  | nil => exact formDone settings
  | cons field fields =>
    apply Ends.bind
    · exact Keeps.adjust (fun _ => rfl) fun _ => rfl
    · exact settled_error
    · simp

theorem notify (settings : NotifySettings) :
    Settles aspect awaited start (Visit.notify settings) := by
  have hrecipient : Keeps aspect start (Visit.recipient settings) := by
    rw [Visit.recipient]
    cases settings.target <;> simp
  simp only [Visit.notify]
  apply Ends.bind hrecipient settled_error
  intro chat
  apply Ends.bind (Keeps.filled _) settled_error
  intro text
  simp

theorem orderConfirm (id : String) (settings : OrderConfirmSettings) :
    Settles aspect (some .callback) start (Visit.orderConfirm id settings) := by
  simp only [Visit.orderConfirm]
  apply Ends.bind (Keeps.filled _) settled_error
  intro title
  apply Ends.bind (Keeps.filled _) settled_error
  intro body
  simp

theorem llmPrompt (world : World) (settings : LlmPromptSettings) :
    Settles aspect awaited start (Visit.llmPrompt world settings) := by
  simp only [Visit.llmPrompt]
  apply Ends.bind (Keeps.filled _) settled_error
  intro prompt
  simp

/-! ### Answers -/

/-- A conversation that waits already may stay. -/
theorem stay {waiting : Waiting} (hwaiting : aspect.wait (some waiting) start = start) :
    Settles aspect (some waiting) start stay := by
  intro session hstart
  exact ⟨rfl, hstart.trans hwaiting.symm⟩

theorem toQuestion (variableName text : String) :
    Settles aspect awaited start (Answer.toQuestion variableName text) := by
  simp [Answer.toQuestion]

theorem toForm (hwaiting : aspect.wait (some .input) start = start) (settings : IntakeFormSettings)
    (text : String) : Settles aspect (some .input) start (Answer.toForm settings text) := by
  simp only [Answer.toForm]
  apply Ends.look
  intro session _
  have hindex (index : Nat) :
      Keeps aspect start (modify fun session => { session with formIndex := index } : Act PUnit) :=
    Keeps.adjust (fun _ => rfl) fun _ => rfl
  have hform : Settles aspect (some .input) start (Visit.formDone settings) := formDone settings
  have hdone := Ends.bind (hindex (session.formIndex + 1)) settled_error fun _ => hform
  have hasks (field : FormField) :=
    Ends.bind (hindex (session.formIndex + 1)) settled_error fun _ =>
    Ends.bind (Keeps.say (Form.prompt field.type) []) settled_error fun _ => stay hwaiting
  cases settings.fields[session.formIndex]? with
  | none =>
    cases settings.fields[session.formIndex + 1]? with
    | none => exact hdone
    | some field => exact hasks field
  | some answered =>
    apply Ends.bind (Keeps.bindNamed _ _) settled_error
    intro _
    cases settings.fields[session.formIndex + 1]? with
    | none => exact hdone
    | some field => exact hasks field

theorem toRoutes {waiting : Waiting} (hwaiting : aspect.wait (some waiting) start = start)
    (id : String) (config : Config) (tag : String) :
    Settles aspect (some waiting) start (Answer.toRoutes id config tag) := by
  rw [Answer.toRoutes]
  cases ((config.routes id).find? fun route => route.tag == tag).map Route.port with
  | none => exact stay hwaiting
  | some port => exact leave port

theorem toCatalog (hwaiting : aspect.wait (some .callback) start = start) (id : String)
    (settings : CatalogSettings) (tag : String) :
    Settles aspect (some .callback) start (Answer.toCatalog id settings tag) := by
  simp only [Answer.toCatalog]
  generalize Catalog.read (some settings.source) settings.products = read
  apply Ends.bind (Keeps.liftCatalog read) settled_error
  intro products
  apply Ends.ite
  · apply Ends.bind
    · exact Keeps.adjust (fun _ => rfl) fun _ => rfl
    · exact settled_error
    · exact fun _ => Parks.stay (Parks.showPage id products)
  · apply Ends.ite
    -- What is selected does not matter here, and it takes long to look into.
    · generalize Catalog.select products tag = select
      apply Ends.look
      intro session hstart
      rcases select session.bindings with ⟨bindings, found⟩
      refine Ends.replace hstart (by rfl) (by rfl) ?_
      apply Ends.bind (Keeps.liftProduct _) settled_error
      intro chosen
      exact Ends.ite goOn (stay hwaiting)
    · exact stay hwaiting

end Settles

/-- A visit to a block other than a loop. -/
theorem visit_settles {world : World} {id : String} {config : Config} {visit : Visit}
    (hvisit : visit? world id config = some visit) (hkind : config.kind ≠ .loop) :
    Settles aspect config.kind.awaited start visit := by
  obtain ⟨kind, settings⟩ := config
  cases kind
  case start => cases hvisit
  all_goals obtain rfl := Option.some.inj hvisit
  case message => exact Settles.message settings
  case question => exact Settles.question settings
  case choice => exact Settles.choice settings
  case condition => exact Settles.condition settings
  case delay => exact Settles.delay world settings
  case setVariable => exact Settles.setVariable settings
  case loop => exact absurd rfl hkind
  case sendImage => exact Settles.sendImage settings
  case inlineKeyboard => exact Settles.inlineKeyboard settings
  case compute => exact Settles.compute world settings
  case cartOp => exact Settles.cartOp settings
  case payment => exact Settles.payment settings
  case recordStore => exact Settles.recordStore settings
  case catalog => exact Settles.catalog id settings
  case intakeForm => exact Settles.intakeForm settings
  case notify => exact Settles.notify settings
  case orderConfirm => exact Settles.orderConfirm id settings
  case llmPrompt => exact Settles.llmPrompt world settings

/-- An answer to a block that takes texts, where the conversation waits for one. -/
theorem answer_settles {config : Config} {answer : String → Visit}
    (hanswer : answer? config = some answer) (hwaiting : aspect.wait (some .input) start = start)
    (text : String) :
    config.kind.awaited = some .input ∧ Settles aspect config.kind.awaited start (answer text) := by
  obtain ⟨kind, settings⟩ := config
  cases kind
  case question => exact ⟨rfl, Option.some.inj hanswer ▸ Settles.toQuestion _ text⟩
  case choice => exact ⟨rfl, Option.some.inj hanswer ▸ Settles.toQuestion _ text⟩
  case intakeForm => exact ⟨rfl, Option.some.inj hanswer ▸ Settles.toForm hwaiting settings text⟩
  all_goals cases hanswer

/-- A press at a block that takes presses, where the conversation waits for one. -/
theorem press_settles {id : String} {config : Config} {press : String → Visit}
    (hpress : press? id config = some press) (hwaiting : aspect.wait (some .callback) start = start)
    (tag : String) :
    config.kind.awaited = some .callback ∧
      Settles aspect config.kind.awaited start (press tag) := by
  obtain ⟨kind, settings⟩ := config
  cases kind
  case inlineKeyboard =>
    exact ⟨rfl, Option.some.inj hpress ▸ Settles.toRoutes hwaiting id _ tag⟩
  case orderConfirm =>
    exact ⟨rfl, Option.some.inj hpress ▸ Settles.toRoutes hwaiting id _ tag⟩
  case catalog => exact ⟨rfl, Option.some.inj hpress ▸ Settles.toCatalog hwaiting id settings tag⟩
  all_goals cases hpress

/-! ### Loops -/

/-- The three ways in which the innermost loop goes on: it fails, it is finished, or it has a round
left. -/
theorem loopPort_cases (plan : Loop.Plan) (session : Session) {frame : Loop.Frame}
    {frames : List Loop.Frame} (hframes : session.frames = frame :: frames) :
    (∃ fault, Loop.advance plan frame { bindings := session.bindings } = .error fault ∧
        Visit.loopPort plan frame session = (.error (.loop fault), session)) ∨
      Visit.loopPort plan frame session =
        (.ok defaultPort, { session with frames := frames }) ∨
      ∃ after bindings,
        after.block = frame.block ∧ Loop.remaining plan after < Loop.remaining plan frame ∧
        Visit.loopPort plan frame session =
          (.ok bodyPort, { session with frames := after :: frames, bindings := bindings }) := by
  simp only [Visit.loopPort, Act.bind_apply, Act.get_apply, Act.liftM_loop, hframes,
    List.drop_one, List.tail_cons]
  rcases hadvance : Loop.advance plan frame { bindings := session.bindings } with
    fault | _ | ⟨after, scope⟩
  · exact .inl ⟨fault, rfl, rfl⟩
  · exact .inr (.inl rfl)
  · obtain ⟨rfl, hleft⟩ := Loop.advance_frame hadvance
    exact .inr (.inr ⟨{ frame with iteration := frame.iteration + 1 }, scope.bindings, rfl,
      Loop.remaining_lt hleft, rfl⟩)

theorem block_start {id : String} {plan : Loop.Plan} {bindings : Fields} {frame : Loop.Frame}
    (hframe : Loop.start id plan bindings = .ok frame) : frame.block = id := by
  rw [Loop.start] at hframe
  by_cases hlist : plan.mode = .list
  · rw [if_pos hlist] at hframe
    obtain ⟨text, -, hpure⟩ := bind_eq_ok_iff.1 hframe
    rw [← Except.ok.inj hpure]
  · rw [if_neg hlist] at hframe
    rw [← Except.ok.inj hframe]

/-- The loops under way are the same, or there is one more, at the given block. -/
def OpensAt (id : String) (before after : List Loop.Frame) : Prop :=
  after = before ∨ ∃ frame : Loop.Frame, frame.block = id ∧ after = frame :: before

/-- A loop that is begun comes to be under way, unless it is finished at once. -/
def Looped (id : String) (seat : Seat) : Except Failure (Option String) → Seat → Prop
  | .ok none, _ => False
  | .ok (some port), after =>
    (port = defaultPort ∧ after = seat) ∨ (port = bodyPort ∧
      ∃ frame : Loop.Frame, frame.block = id ∧ after = { seat with frames := frame :: seat.frames })
  | .error _, after => OpensAt id seat.frames after.frames

theorem loop_looped (id : String) (settings : LoopSettings) :
    Ends Aspect.seat seat (Looped id seat) (Visit.loop id settings) := by
  rintro session rfl
  simp only [Visit.loop, Act.bind_apply, Act.get_apply, Act.liftM_text, Act.set_apply]
  rcases hstart : Loop.start id (Loop.planOf settings) session.bindings with fault | frame
  · exact .inl rfl
  · have hblock := block_start hstart
    rcases loopPort_cases (Loop.planOf settings)
        { session with frames := frame :: session.frames } rfl with
      ⟨fault, -, hport⟩ | hport | ⟨after, bindings, hafter, -, hport⟩
    all_goals simp only [Except.mapError, hport]
    · exact .inr ⟨frame, hblock, rfl⟩
    · exact .inl ⟨rfl, rfl⟩
    · exact .inr ⟨rfl, after, hafter.trans hblock, rfl⟩

end Preview

end DialogGraph

