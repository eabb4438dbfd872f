/-!
# Turns of a conversation
-/

set_option autoImplicit false

namespace ChatFlow

inductive Speaker
  | user
  | assistant
  | system
  | unknown
  deriving DecidableEq, Repr

def Speaker.name : Speaker → String
  | .user => "user"
  | .assistant => "assistant"
  | .system => "system"
  | .unknown => "unknown"

/-- The speaker with a name; any other name is an unknown speaker. -/
def Speaker.ofName : String → Speaker
  | "user" => .user
  | "assistant" => .assistant
  | "system" => .system
  | _ => .unknown

/-- Whether turns of a speaker belong to the dialogue that a chat model is shown. -/
def Speaker.isInDialogue : Speaker → Bool
  | .user | .assistant => true
  | .system | .unknown => false

structure Turn where
  speaker : Speaker
  content : String
  deriving DecidableEq, Repr

end ChatFlow
