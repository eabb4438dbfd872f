import ChatFlow.Conversation.Turn
import ChatFlow.Keyed

/-!
# The state of one answer

What a walk through a plan reads and writes: the message and the earlier turns, which never
change, and what the nodes have gathered and answered so far.
-/

set_option autoImplicit false

namespace ChatFlow

/-- What a retrieval or spreadsheet node left for the chat model: usable text, or a marker that
tells people why there is none. -/
inductive ContextSlot
  | available (text : String)
  | unavailable (marker : String)
  deriving DecidableEq, Repr

namespace ContextSlot

def usable? : ContextSlot → Option String
  | .available text => some text
  | .unavailable _ => none

end ContextSlot

/-- The state that is threaded through the nodes of one walk. -/
structure State where
  message : String
  history : List Turn
  executed : Array String := #[]
  retrievalContext : Option ContextSlot := none
  spreadsheetContext : Option ContextSlot := none
  conditionResults : Keyed Bool := []
  response : String := ""
  outputVariables : Keyed String := []
  modelUsed : Option String := none

namespace State

def start (message : String) (history : List Turn) : State where
  message := message
  history := history

/-- The usable text of the retrieval slot. -/
def retrievalText? (state : State) : Option String :=
  state.retrievalContext.bind ContextSlot.usable?

/-- The usable text of the spreadsheet slot. -/
def spreadsheetText? (state : State) : Option String :=
  state.spreadsheetContext.bind ContextSlot.usable?

/-- The earlier turns that a chat model is shown. -/
def dialogue (state : State) : List Turn :=
  state.history.filter (fun turn => turn.speaker.isInDialogue)

/-- The message, the earlier turns and the log of a state are those of another one. -/
structure KeptIn (before after : State) : Prop where
  message : after.message = before.message
  history : after.history = before.history
  executed : after.executed = before.executed

theorem KeptIn.refl (state : State) : state.KeptIn state := ⟨rfl, rfl, rfl⟩

/-- Writes a node's tag into the log of executed nodes. -/
def record (state : State) (tag : String) : State :=
  { state with executed := state.executed.push tag }

end State

end ChatFlow
