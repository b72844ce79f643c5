import DialogGraph.Block.Field
import DialogGraph.Block.Kind

/-!
# The settings of each kind of block
-/

namespace DialogGraph

structure Button where
  label : String := ""
  tag : String := ""
  deriving Repr, DecidableEq, Inhabited

instance : Settings Button where
  initial := {}
  fields := [
    .text "text" (·.label) fun b s => { b with label := s },
    .text "callback_data" (·.tag) fun b s => { b with tag := s }]

structure FormField where
  type : FormFieldType := .name
  variableName : String := ""
  deriving Repr, DecidableEq, Inhabited

instance : Settings FormField where
  initial := {}
  fields := [
    .option FormFieldType "type" (·.type) fun f t => { f with type := t },
    .text "variable" (·.variableName) fun f s => { f with variableName := s }]

/-- Where a conversation begins. -/
structure StartSettings where
  message : String := ""

instance : Settings StartSettings where
  initial := {}
  fields := [.text "message" (·.message) fun c s => { c with message := s }]

structure MessageSettings where
  text : String := ""

instance : Settings MessageSettings where
  initial := {}
  fields := [.text "text" (·.text) fun c s => { c with text := s }]

structure QuestionSettings where
  question : String := ""
  variableName : String := ""

instance : Settings QuestionSettings where
  initial := {}
  fields := [
    .text "question" (·.question) fun c s => { c with question := s },
    .text "variable" (·.variableName) fun c s => { c with variableName := s }]

/-- A question with suggested answers. -/
structure ChoiceSettings where
  question : String := ""
  options : List String := [""]
  variableName : String := ""

instance : Settings ChoiceSettings where
  initial := {}
  fields := [
    .text "question" (·.question) fun c s => { c with question := s },
    .texts "options" (·.options) fun c ss => { c with options := ss },
    .text "variable" (·.variableName) fun c s => { c with variableName := s }]

/-- A fork on the value of a variable. -/
structure ConditionSettings where
  variableName : String := ""
  condition : Comparison := .equals
  value : String := ""

instance : Settings ConditionSettings where
  initial := {}
  fields := [
    .text "variable" (·.variableName) fun c s => { c with variableName := s },
    .option Comparison "condition" (·.condition) fun c o => { c with condition := o },
    .text "value" (·.value) fun c s => { c with value := s }]

structure DelaySettings where
  seconds : Int := 1

instance : Settings DelaySettings where
  initial := {}
  fields := [.integer "seconds" (·.seconds) fun c n => { c with seconds := n }]

structure SetVariableSettings where
  variableName : String := ""
  value : String := ""

instance : Settings SetVariableSettings where
  initial := {}
  fields := [
    .text "variable" (·.variableName) fun c s => { c with variableName := s },
    .text "value" (·.value) fun c s => { c with value := s }]

structure LoopSettings where
  mode : LoopMode := .count
  count : Int := 3
  counterVariable : String := ""
  whileVariable : String := ""
  whileCondition : Comparison := .equals
  whileValue : String := ""
  listItems : String := ""
  listVariable : String := ""

instance : Settings LoopSettings where
  initial := {}
  fields := [
    .option LoopMode "loop_type" (·.mode) fun c o => { c with mode := o },
    .integer "count" (·.count) fun c n => { c with count := n },
    .text "counter_variable" (·.counterVariable) fun c s => { c with counterVariable := s },
    .text "while_variable" (·.whileVariable) fun c s => { c with whileVariable := s },
    .option Comparison "while_condition" (·.whileCondition) fun c o =>
      { c with whileCondition := o },
    .text "while_value" (·.whileValue) fun c s => { c with whileValue := s },
    .text "list_items" (·.listItems) fun c s => { c with listItems := s },
    .text "list_variable" (·.listVariable) fun c s => { c with listVariable := s }]

structure SendImageSettings where
  imageFile : String := ""
  caption : String := ""

instance : Settings SendImageSettings where
  initial := {}
  fields := [
    .text "image_file" (·.imageFile) fun c s => { c with imageFile := s },
    .text "caption" (·.caption) fun c s => { c with caption := s }]

structure InlineKeyboardSettings where
  message : String := ""
  buttons : List Button := [{}]

instance : Settings InlineKeyboardSettings where
  initial := {}
  fields := [
    .text "message" (·.message) fun c s => { c with message := s },
    .rows Button "KeyboardButton" "buttons" (·.buttons) fun c bs => { c with buttons := bs }]

/-- A formula whose result goes into a variable. -/
structure ComputeSettings where
  formula : String := ""
  resultVariable : String := ""

instance : Settings ComputeSettings where
  initial := {}
  fields := [
    .text "formula" (·.formula) fun c s => { c with formula := s },
    .text "result_variable" (·.resultVariable) fun c s => { c with resultVariable := s }]

structure CartOpSettings where
  action : CartAction := .add
  productId : String := "product_id"
  quantity : String := "quantity"

instance : Settings CartOpSettings where
  initial := {}
  fields := [
    .option CartAction "action" (·.action) fun c o => { c with action := o },
    .text "product_id" (·.productId) fun c s => { c with productId := s },
    .text "quantity" (·.quantity) fun c s => { c with quantity := s }]

structure PaymentSettings where
  title : String := ""
  description : String := ""
  amount : String := ""
  currency : String := "RUB"
  providerToken : String := ""

instance : Settings PaymentSettings where
  initial := {}
  fields := [
    .text "title" (·.title) fun c s => { c with title := s },
    .text "description" (·.description) fun c s => { c with description := s },
    .text "amount" (·.amount) fun c s => { c with amount := s },
    .text "currency" (·.currency) fun c s => { c with currency := s },
    .text "provider_token" (·.providerToken) fun c s => { c with providerToken := s }]

structure RecordStoreSettings where
  operation : StoreOperation := .save
  key : String := ""
  data : String := ""
  resultVariable : String := ""

instance : Settings RecordStoreSettings where
  initial := {}
  fields := [
    .option StoreOperation "operation" (·.operation) fun c o => { c with operation := o },
    .text "key" (·.key) fun c s => { c with key := s },
    .text "data" (·.data) fun c s => { c with data := s },
    .text "result_variable" (·.resultVariable) fun c s => { c with resultVariable := s }]

structure CatalogSettings where
  source : CatalogSource := .json
  products : String := ""

instance : Settings CatalogSettings where
  initial := {}
  fields := [
    .option CatalogSource "source" (·.source) fun c o => { c with source := o },
    .text "products" (·.products) fun c s => { c with products := s }]

/-- A form that is filled in answer by answer. -/
structure IntakeFormSettings where
  fields : List FormField := [{}]
  successMessage : String := ""

instance : Settings IntakeFormSettings where
  initial := {}
  fields := [
    .rows FormField "FormField" "fields" (·.fields) fun c fs => { c with fields := fs },
    .text "success_message" (·.successMessage) fun c s => { c with successMessage := s }]

structure NotifySettings where
  target : NotifyTarget := .admin
  chatId : String := ""
  adminChatId : String := ""
  message : String := ""

instance : Settings NotifySettings where
  initial := {}
  fields := [
    .option NotifyTarget "target" (·.target) fun c o => { c with target := o },
    .text "chat_id" (·.chatId) fun c s => { c with chatId := s },
    .text "admin_chat_id" (·.adminChatId) fun c s => { c with adminChatId := s },
    .text "message" (·.message) fun c s => { c with message := s }]

/-- A summary of an order with buttons to confirm, edit or cancel it. -/
structure OrderConfirmSettings where
  title : String := ""
  template : String := ""
  showConfirm : Bool := true
  showEdit : Bool := true
  showCancel : Bool := false

instance : Settings OrderConfirmSettings where
  initial := {}
  fields := [
    .text "title" (·.title) fun c s => { c with title := s },
    .text "template" (·.template) fun c s => { c with template := s },
    .truth "show_confirm" (·.showConfirm) fun c b => { c with showConfirm := b },
    .truth "show_edit" (·.showEdit) fun c b => { c with showEdit := b },
    .truth "show_cancel" (·.showCancel) fun c b => { c with showCancel := b }]

/-- A prompt to a language model. -/
structure LlmPromptSettings where
  apiKey : String := ""
  prompt : String := ""
  model : String := "gpt-3.5-turbo"
  maxTokens : Int := 500
  temperature : Double := ↑(0.7 : Float)
  resultVariable : String := "gpt_response"

instance : Settings LlmPromptSettings where
  initial := {}
  fields := [
    .text "api_key" (·.apiKey) fun c s => { c with apiKey := s },
    .text "prompt" (·.prompt) fun c s => { c with prompt := s },
    .text "model" (·.model) fun c s => { c with model := s },
    .integer "max_tokens" (·.maxTokens) fun c n => { c with maxTokens := n },
    .real "temperature" (·.temperature) fun c x => { c with temperature := x },
    .text "result_variable" (·.resultVariable) fun c s => { c with resultVariable := s }]

/-- Marks the temperature if it is new. -/
def LlmPromptSettings.mark (n : Nat) (settings : LlmPromptSettings) : LlmPromptSettings :=
  { settings with temperature := settings.temperature.mark n }

def Kind.SettingsOf : Kind → Type
  | .start => StartSettings
  | .message => MessageSettings
  | .question => QuestionSettings
  | .choice => ChoiceSettings
  | .condition => ConditionSettings
  | .delay => DelaySettings
  | .setVariable => SetVariableSettings
  | .loop => LoopSettings
  | .sendImage => SendImageSettings
  | .inlineKeyboard => InlineKeyboardSettings
  | .compute => ComputeSettings
  | .cartOp => CartOpSettings
  | .payment => PaymentSettings
  | .recordStore => RecordStoreSettings
  | .catalog => CatalogSettings
  | .intakeForm => IntakeFormSettings
  | .notify => NotifySettings
  | .orderConfirm => OrderConfirmSettings
  | .llmPrompt => LlmPromptSettings

instance (kind : Kind) : Settings kind.SettingsOf :=
  match kind with
  | .start => inferInstanceAs (Settings StartSettings)
  | .message => inferInstanceAs (Settings MessageSettings)
  | .question => inferInstanceAs (Settings QuestionSettings)
  | .choice => inferInstanceAs (Settings ChoiceSettings)
  | .condition => inferInstanceAs (Settings ConditionSettings)
  | .delay => inferInstanceAs (Settings DelaySettings)
  | .setVariable => inferInstanceAs (Settings SetVariableSettings)
  | .loop => inferInstanceAs (Settings LoopSettings)
  | .sendImage => inferInstanceAs (Settings SendImageSettings)
  | .inlineKeyboard => inferInstanceAs (Settings InlineKeyboardSettings)
  | .compute => inferInstanceAs (Settings ComputeSettings)
  | .cartOp => inferInstanceAs (Settings CartOpSettings)
  | .payment => inferInstanceAs (Settings PaymentSettings)
  | .recordStore => inferInstanceAs (Settings RecordStoreSettings)
  | .catalog => inferInstanceAs (Settings CatalogSettings)
  | .intakeForm => inferInstanceAs (Settings IntakeFormSettings)
  | .notify => inferInstanceAs (Settings NotifySettings)
  | .orderConfirm => inferInstanceAs (Settings OrderConfirmSettings)
  | .llmPrompt => inferInstanceAs (Settings LlmPromptSettings)

/-- The settings of a block together with its kind. -/
structure Config where
  kind : Kind
  settings : kind.SettingsOf

namespace Config

def initial (kind : Kind) : Config := ⟨kind, Settings.initial⟩

instance : Inhabited Config := ⟨initial .start⟩

def toFields (config : Config) : Fields := Settings.toFields config.settings

/-- Settings from loose data, field by field. -/
def ofFields (kind : Kind) (data : Fields) : Config := ⟨kind, Settings.ofFields data⟩

/-- The names of the fields in the data that cannot be read. -/
def rejectedNames (kind : Kind) (data : Fields) : List String :=
  Settings.rejectedNames kind.SettingsOf data

/-- Sets one field; `none` if the block has no such field. -/
def set? (config : Config) (name : String) (value : Value) : Option (Except Problem Config) :=
  (Settings.field? config.kind.SettingsOf name).map fun field =>
    (Settings.setField field value config.settings).map fun settings => ⟨config.kind, settings⟩

def get? (config : Config) (name : String) : Option Value :=
  Assoc.get? config.toFields name

/-- Marks what is new in the settings. A temperature is the only double that settings have. -/
def mark (n : Nat) : Config → Config
  | ⟨.llmPrompt, settings⟩ => ⟨.llmPrompt, LlmPromptSettings.mark n settings⟩
  | config => config

end Config

/-- The title of a kind's settings in reports. -/
def Kind.settingsTitle : Kind → String
  | .start => "StartConfig"
  | .message => "MessageConfig"
  | .question => "QuestionConfig"
  | .choice => "ChoiceConfig"
  | .condition => "ConditionConfig"
  | .delay => "DelayConfig"
  | .setVariable => "SetVariableConfig"
  | .loop => "LoopConfig"
  | .sendImage => "SendImageConfig"
  | .inlineKeyboard => "InlineKeyboardConfig"
  | .compute => "ComputeConfig"
  | .cartOp => "CartOpConfig"
  | .payment => "PaymentConfig"
  | .recordStore => "RecordStoreConfig"
  | .catalog => "CatalogConfig"
  | .intakeForm => "IntakeFormConfig"
  | .notify => "NotifyConfig"
  | .orderConfirm => "OrderConfirmConfig"
  | .llmPrompt => "LLMPromptConfig"

end DialogGraph
