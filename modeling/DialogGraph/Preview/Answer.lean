import DialogGraph.Preview.Visit

/-!
# Answers

What a block that waits does with a text or with a pressed button. As with a visit, the result is
the port through which the conversation goes on, if it does.
-/

namespace DialogGraph.Preview

open DialogGraph.Text

namespace Answer

def toQuestion (variableName text : String) : Visit := do
  Act.bindNamed variableName (.text text)
  goOn

/-- An answer fills in the current field of the form; then the next field is asked for. -/
def toForm (settings : IntakeFormSettings) (text : String) : Visit := do
  let index := (← get).formIndex
  match settings.fields[index]? with
  | some field => Act.bindNamed field.variableName (.text text)
  | none => pure ()
  modify fun session => { session with formIndex := index + 1 }
  match settings.fields[index + 1]? with
  | some field =>
    Act.say (Form.prompt field.type)
    stay
  | none => Visit.formDone settings

/-- A button leads through the port of its tag. -/
def toRoutes (id : String) (config : Config) (tag : String) : Visit :=
  pure (((config.routes id).find? fun route => route.tag == tag).map Route.port)

/-- A button of a catalog turns the page or chooses a product. -/
def toCatalog (id : String) (settings : CatalogSettings) (tag : String) : Visit := do
  let products ← Catalog.read (some settings.source) settings.products
  if tag = Catalog.previousTag || tag = Catalog.nextTag then
    let change : Int := if tag = Catalog.previousTag then -1 else 1
    modify fun session =>
      let page := ((session.value? (Visit.pageVariable id)).getD (.int 0)).wholeOr 0
      session.bind (Visit.pageVariable id) (.int (page + change))
    Visit.showPage id products
    stay
  else if Catalog.productTagStart.toList.isPrefixOf tag.toList then
    let session ← get
    let (bindings, found) := Catalog.select products tag session.bindings
    set { session with bindings := bindings }
    if ← found then goOn else stay
  else stay

end Answer

/-- What a block does with a text, if it takes texts. -/
def answer? : Config → Option (String → Visit)
  | ⟨.question, settings⟩ => some (Answer.toQuestion (QuestionSettings.variableName settings))
  | ⟨.choice, settings⟩ => some (Answer.toQuestion (ChoiceSettings.variableName settings))
  | ⟨.intakeForm, settings⟩ => some (Answer.toForm settings)
  | _ => none

/-- What a block does with the tag of a pressed button, if it takes any. -/
def press? (id : String) : Config → Option (String → Visit)
  | ⟨.inlineKeyboard, settings⟩ => some (Answer.toRoutes id ⟨.inlineKeyboard, settings⟩)
  | ⟨.orderConfirm, settings⟩ => some (Answer.toRoutes id ⟨.orderConfirm, settings⟩)
  | ⟨.catalog, settings⟩ => some (Answer.toCatalog id settings)
  | _ => none

end DialogGraph.Preview
