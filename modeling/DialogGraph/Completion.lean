import DialogGraph.Value.Basic

/-!
# Completions

A completion is the text with which a language model answers a prompt. It comes from a service that
wants a key, or from a stand-in that needs none.
-/

namespace DialogGraph

namespace Completion

/-- A request for a completion. The limit on the reply and the temperature are passed on as they
are. -/
structure Request where
  prompt : String
  /-- The key for the service; without one that of the surroundings is used. -/
  key : String := ""
  model : String := "gpt-3.5-turbo"
  maxTokens : Value := .int 500
  temperature : Value := .real (0.7 : Float)

/-- A service: its answer, if it has one, or its complaint. -/
abbrev Service := Request → Except String (Option String)

/-- The request as it is sent, given the key of the surroundings; `none` if there is no key. -/
def Request.sent? (ownKey : String) (request : Request) : Option Request :=
  if !request.key.isEmpty then some request
  else if !ownKey.isEmpty then some { request with key := ownKey }
  else none

def complaint (reason : String) : String := "Error: " ++ reason

/-- The completion by a service. It is always a text: complaints are told, not raised. -/
def request (service : Service) (ownKey : String) (request : Request) : String :=
  match request.sent? ownKey with
  | none => complaint "OpenAI API key is not configured"
  | some sent =>
    match service sent with
    | .ok answer => answer.getD ""
    | .error reason => complaint reason

def mock (request : Request) : String :=
  "[" ++ request.model ++ "] reply to: " ++ request.prompt

end Completion

end DialogGraph
