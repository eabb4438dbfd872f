import ChatFlow.Description.OfJson
import ChatFlow.Responder.Basic

/-!
# Requests in JSON

A request holds a message, a workflow, and perhaps earlier turns and the name of a session.  Its
records are written like those of descriptions.
-/

set_option autoImplicit false

namespace ChatFlow

/-- The name of a speaker: a text, or an object whose only field has this name and is null. -/
def Json.Syntax.speakerName? : Json.Syntax → Option String
  | .object [(name, .null)] => (Json.pieceText name).map String.ofList
  | value => value.text?

def Turn.ofSyntax? (value : Json.Syntax) : Option Turn := do
  let values ← Json.reader.known ["role", "content"] value
  let speaker ← Json.reader.required Json.Syntax.speakerName? values "role"
  let content ← Reader.withDefault "" Json.reader.text values "content"
  return ⟨.ofName speaker, content⟩

def ChatRequest.ofSyntax? (value : Json.Syntax) : Option ChatRequest := do
  let values ← Json.reader.known
    ["message", "workflow", "conversation_history", "session_id"] value
  let message ← Json.reader.required Json.reader.text values "message"
  let workflow ← Json.reader.required (Json.reader.description 1) values "workflow"
  let history ←
    Reader.withDefault [] (Json.reader.listOf Turn.ofSyntax?) values "conversation_history"
  let session ← Json.reader.optionalText values "session_id"
  return ⟨message, workflow, history, session⟩

def ChatRequest.ofJson? (text : String) : Option ChatRequest :=
  (Json.Syntax.parse text).bind ChatRequest.ofSyntax?

end ChatFlow
