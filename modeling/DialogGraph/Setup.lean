import DialogGraph.Assoc
import DialogGraph.Number.Reading
import DialogGraph.Program.Bot
import DialogGraph.Text.Case
import DialogGraph.Text.Items

/-!
# Setup

The setup of the editor and of the compiler comes from variables of the surroundings.
-/

namespace DialogGraph

open DialogGraph.Number DialogGraph.Text

abbrev Surroundings := List (String × String)

structure Setup where
  host : String := "0.0.0.0"
  port : Int := 3001
  /-- From where the editor may be used. -/
  origins : List String := ["*"]
  historySize : Int := 50
  botName : String := Program.Bot.defaultName
  botToken : String := Program.Bot.defaultToken
  /-- Whether previews ask a language model instead of making up replies. -/
  livePreview : Bool := false

namespace Setup

def isOn (s : String) : Bool := ["1", "true", "yes", "on"].contains (lower (trim s))

/-- An integer variable; the default if it is not set. -/
def integer (surroundings : Surroundings) (name : String) (default : Int) :
    Except IntegerFault Int :=
  match Assoc.get? surroundings name with
  | some s => readInteger s
  | none => .ok default

def ofSurroundings (surroundings : Surroundings) : Except IntegerFault Setup := do
  let base : Setup := {}
  let text (name default : String) : String := (Assoc.get? surroundings name).getD default
  let port ← integer surroundings "BOTFLOW_PORT" base.port
  let historySize ← integer surroundings "BOTFLOW_HISTORY_SIZE" base.historySize
  return {
    host := text "BOTFLOW_HOST" base.host
    port := port
    origins := itemsOf (text "BOTFLOW_CORS_ORIGINS" "*")
    historySize := historySize
    botName := text "BOTFLOW_BOT_NAME" base.botName
    botToken := text "BOTFLOW_BOT_TOKEN" base.botToken
    livePreview := isOn (text "BOTFLOW_PREVIEW_LLM" "") }

end Setup

end DialogGraph
