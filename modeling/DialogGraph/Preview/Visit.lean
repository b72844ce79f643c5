import DialogGraph.Block.Port
import DialogGraph.Number.FixedPlaces
import DialogGraph.Preview.Session
import DialogGraph.Script.Form

/-!
# Visits

What a conversation does when it comes to a block. A visit ends with the port through which the
conversation goes on, or without one, when it waits for the user.
-/

namespace DialogGraph.Preview

open DialogGraph.Text DialogGraph.Number

/-- A visit; its result is the port through which the block is left, if it is left. -/
abbrev Visit := Act (Option String)

def leave (port : String) : Visit := pure (some port)

/-- Leaves a block that goes on in one way only. -/
def goOn : Visit := leave defaultPort

def stay : Visit := pure none

def waitFor (waiting : Waiting) : Visit := do
  Act.await waiting
  stay

namespace Visit

def message (settings : MessageSettings) : Visit := do
  Act.say (← Act.filled settings.text)
  goOn

def question (settings : QuestionSettings) : Visit := do
  Act.say (← Act.filled settings.question)
  waitFor .input

/-- Options that are blank are not offered. -/
def choice (settings : ChoiceSettings) : Visit := do
  let options := settings.options.filter fun option => !allBlank option
  let text ← Act.filled settings.question
  modify fun session => session.enter { sender := .bot, text := text, options := options }
  waitFor .input

/-- Chooses between two ports by what a variable holds. -/
def condition (settings : ConditionSettings) : Visit := do
  let expected ← Act.filled settings.value
  let session ← get
  let passed ← compareValues (some settings.condition)
    (session.valueOrEmpty settings.variableName) (.text expected)
  leave (if passed then truePort else falsePort)

/-- The pause takes at least a second. -/
def delay (world : World) (settings : DelaySettings) : Visit := do
  let seconds := max 1 ((Value.int settings.seconds).wholeOr 1)
  Act.note ("⏳ " ++ intText seconds ++ "s")
  Act.sleep world seconds
  goOn

/-- Binds a variable to a text that is filled in. -/
def setVariable (settings : SetVariableSettings) : Visit := do
  if !settings.variableName.isEmpty then
    Act.bindNamed settings.variableName (.text (← Act.filled settings.value))
  goOn

/-- The port by which the innermost loop goes on: into its body, or out of the loop, whose frame is
then dropped. -/
def loopPort (plan : Loop.Plan) (frame : Loop.Frame) : Act String := do
  let session ← get
  match ← Loop.advance plan frame { bindings := session.bindings } with
  | some (frame, scope) =>
    set { session with frames := frame :: session.frames.drop 1, bindings := scope.bindings }
    return bodyPort
  | none =>
    set { session with frames := session.frames.drop 1 }
    return defaultPort

def loop (id : String) (settings : LoopSettings) : Visit := do
  let plan := Loop.planOf settings
  let session ← get
  let frame ← Loop.start id plan session.bindings
  set { session with frames := frame :: session.frames }
  leave (← loopPort plan frame)

def sendImage (settings : SendImageSettings) : Visit := do
  let caption ← Act.filled settings.caption
  if !settings.imageFile.isEmpty || !caption.isEmpty then
    let image := if settings.imageFile.isEmpty then none else some settings.imageFile
    modify fun session => session.enter { sender := .bot, text := caption, image := image }
  goOn

/-- The buttons that a keyboard offers: those with both a label and a tag. -/
def offers (buttons : List Button) : List Offer :=
  buttons.filterMap fun button =>
    let tag := trim button.tag
    if allBlank button.label || tag.isEmpty then none else some ⟨button.label, tag⟩

def inlineKeyboard (settings : InlineKeyboardSettings) : Visit := do
  let buttons := offers settings.buttons
  Act.say (← Act.filled settings.message) buttons
  if buttons.isEmpty then goOn else waitFor .callback

/-- Binds a variable to the value of a formula. Without a variable nothing is computed. -/
def compute (world : World) (settings : ComputeSettings) : Visit := do
  if !settings.resultVariable.isEmpty then
    let session ← get
    let result ← world.room.calculate (.text settings.formula) session.bindings
    Act.bindNamed settings.resultVariable result
  goOn

/-- How many pieces a cart holds. -/
def pieces (cart : Cart) : Int := (cart.map Prod.snd).foldl (· + ·) 0

/-- Changes the cart or tells of it. -/
def cartOp (settings : CartOpSettings) : Visit := do
  let session ← get
  let product := (session.value? settings.productId).getD .null
  let amount := (session.value? settings.quantity).getD (.int 1)
  let cart ← session.cart.update (some settings.action) product amount
  set { session with cart := cart }
  match settings.action with
  | .show =>
    modify fun session => session.bind "cart_contents" (.text cart.summary)
    Act.say cart.summary
  | .count => modify fun session => session.bind "cart_count" (.int (pieces cart))
  | _ => pure ()
  goOn

/-- An amount of hundredths in words. -/
def amountText (hundredths : Nat) : String :=
  fixedText 2 (ofRatio false hundredths 100)

/-- Asks for a payment, if there is an amount and somebody to pay to. -/
def payment (settings : PaymentSettings) : Visit := do
  let session ← get
  let amount ← minorUnits ((session.value? settings.amount).getD (.int 0))
  if amount > 0 && !settings.providerToken.isEmpty then
    let title ← Act.filled settings.title
    let title := if title.isEmpty then "Order" else title
    Act.say ("🧾 " ++ title ++ ": " ++ amountText amount ++ " " ++ settings.currency)
  else
    Act.say "❌ Payment error: provider token or amount is missing"
  goOn

/-- Saving gives true, loading the record or the empty text, deleting whether there was a record
other than null. -/
def recordStore (settings : RecordStoreSettings) : Visit := do
  let key ← Act.filled settings.key
  let session ← get
  let result ← match settings.operation with
    | .save => do
      let value := session.valueOrEmpty settings.data
      set { session with store := Assoc.insert session.store key value }
      pure (Value.bool true)
    | .load => pure ((Assoc.get? session.store key).getD (.text ""))
    | .delete => do
      set { session with store := Assoc.erase session.store key }
      pure (Value.bool (match Assoc.get? session.store key with
        | none | some .null => false
        | _ => true))
  Act.bindNamed settings.resultVariable result
  goOn

def pageVariable (id : String) : String := "_catalog_page_" ++ id

def productOffer (item : Nat × Catalog.Product) : Except TextFault Offer := do
  let price ← item.2.price.display
  return ⟨item.2.name ++ " - " ++ price, Catalog.productTag item.1⟩

/-- The buttons that turn the pages. -/
def pageOffers (page pages : Nat) : List Offer :=
  (if 0 < page then [⟨"⬅️", Catalog.previousTag⟩] else []) ++
    if page + 1 < pages then [⟨"➡️", Catalog.nextTag⟩] else []

/-- Shows the page that the page variable stands for. -/
def showPage (id : String) (products : List Catalog.Product) : Act Unit := do
  let session ← get
  let pages := Catalog.pageCount products.length
  let page := Catalog.pageNumber pages ((session.value? (pageVariable id)).getD (.int 0))
  set (session.bind (pageVariable id) (.int page))
  let buttons ← ((Catalog.pageItems products page).mapM productOffer :
    Except TextFault (List Offer))
  Act.say ("🛍 Catalog (page " ++ natText (page + 1) ++ "/" ++ natText pages ++ ")")
    (buttons ++ pageOffers page pages)
  Act.await .callback

def catalog (id : String) (settings : CatalogSettings) : Visit := do
  let products ← Catalog.read (some settings.source) settings.products
  if products.isEmpty then
    Act.say Catalog.emptyText
    goOn
  else
    showPage id products
    stay

def formDone (settings : IntakeFormSettings) : Visit := do
  let text ← Act.filled settings.successMessage
  Act.say (if text.isEmpty then Form.successText else text)
  goOn

/-- Asks for the first field of a form. A form without fields is filled in at once. -/
def intakeForm (settings : IntakeFormSettings) : Visit :=
  match settings.fields with
  | [] => formDone settings
  | field :: _ => do
    modify fun session => { session with formIndex := 0 }
    Act.say (Form.prompt field.type)
    waitFor .input

/-- Whom a notification is sent to. -/
def recipient (settings : NotifySettings) : Act String :=
  match settings.target with
  | .admin => Act.filled settings.adminChatId
  | .custom => do
    let session ← get
    (session.valueOrEmpty settings.chatId).display

def notify (settings : NotifySettings) : Visit := do
  let chat ← recipient settings
  let text ← Act.filled settings.message
  if chat.isEmpty then Act.note "📨 notification not delivered: no recipient"
  else Act.note ("📨 to " ++ chat ++ ": " ++ text)
  goOn

/-- Shows an order with the buttons that its settings ask for. -/
def orderConfirm (id : String) (settings : OrderConfirmSettings) : Visit := do
  let title ← Act.filled settings.title
  let body ← Act.filled settings.template
  let parts := [title, body].filter fun part => !part.isEmpty
  let routes := Config.routes id ⟨.orderConfirm, settings⟩
  Act.say ("\n\n".intercalate parts)
    (routes.map fun route => ⟨orderLabel route.port, route.tag⟩)
  if routes.isEmpty then goOn else waitFor .callback

def llmPrompt (world : World) (settings : LlmPromptSettings) : Visit := do
  let prompt ← Act.filled settings.prompt
  let reply ← Act.complete world {
    prompt := prompt
    key := settings.apiKey
    model := settings.model
    maxTokens := .int settings.maxTokens
    temperature := .real settings.temperature }
  Act.bindNamed settings.resultVariable (.text reply)
  goOn

end Visit

/-- The visit to a block; there is none to a start block, where a conversation only begins. -/
def visit? (world : World) (id : String) : Config → Option Visit
  | ⟨.start, _⟩ => none
  | ⟨.message, settings⟩ => some (Visit.message settings)
  | ⟨.question, settings⟩ => some (Visit.question settings)
  | ⟨.choice, settings⟩ => some (Visit.choice settings)
  | ⟨.condition, settings⟩ => some (Visit.condition settings)
  | ⟨.delay, settings⟩ => some (Visit.delay world settings)
  | ⟨.setVariable, settings⟩ => some (Visit.setVariable settings)
  | ⟨.loop, settings⟩ => some (Visit.loop id settings)
  | ⟨.sendImage, settings⟩ => some (Visit.sendImage settings)
  | ⟨.inlineKeyboard, settings⟩ => some (Visit.inlineKeyboard settings)
  | ⟨.compute, settings⟩ => some (Visit.compute world settings)
  | ⟨.cartOp, settings⟩ => some (Visit.cartOp settings)
  | ⟨.payment, settings⟩ => some (Visit.payment settings)
  | ⟨.recordStore, settings⟩ => some (Visit.recordStore settings)
  | ⟨.catalog, settings⟩ => some (Visit.catalog id settings)
  | ⟨.intakeForm, settings⟩ => some (Visit.intakeForm settings)
  | ⟨.notify, settings⟩ => some (Visit.notify settings)
  | ⟨.orderConfirm, settings⟩ => some (Visit.orderConfirm id settings)
  | ⟨.llmPrompt, settings⟩ => some (Visit.llmPrompt world settings)

end DialogGraph.Preview
