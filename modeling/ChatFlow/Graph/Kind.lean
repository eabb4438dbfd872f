import ChatFlow.Text.Blank
import ChatFlow.Text.Search

/-!
# Kinds of nodes and roles of ports

The closed set of node kinds with their type names, and the roles that classify connections.
-/

set_option autoImplicit false

namespace ChatFlow

/-- Whether an end of the conversation is written or spoken. -/
inductive Modality
  | text
  | voice
  deriving DecidableEq, Repr

def Modality.name : Modality → String
  | .text => "text"
  | .voice => "voice"

inductive NodeKind
  | input (modality : Modality)
  | aiCall
  | retrieval
  | spreadsheet
  | conditional
  | output (modality : Modality)
  deriving DecidableEq, Repr

namespace NodeKind

/-- Every kind, in the order of listings. -/
def all : List NodeKind :=
  [.input .text, .input .voice, .aiCall, .retrieval, .spreadsheet, .conditional,
    .output .text, .output .voice]

theorem mem_all (kind : NodeKind) : kind ∈ all := by
  rcases kind with (_ | _) | _ | _ | _ | _ | (_ | _) <;> decide

/-- The type name under which a kind is logged and listed. -/
def tag : NodeKind → String
  | .input .text => "text-input"
  | .input .voice => "voice-input"
  | .aiCall => "ai-model"
  | .retrieval => "rag-documents"
  | .spreadsheet => "google-sheets"
  | .conditional => "if-condition"
  | .output .text => "text-output"
  | .output .voice => "voice-output"

/-- Reads a type name, with blanks around it.  A general name means the written variant. -/
def ofName? (name : String) : Option NodeKind :=
  match Text.trim name with
  | "text-input" | "input" => some (.input .text)
  | "voice-input" => some (.input .voice)
  | "ai-model" | "ai-call" => some .aiCall
  | "rag-documents" | "retrieval" => some .retrieval
  | "google-sheets" | "spreadsheet" => some .spreadsheet
  | "if-condition" | "conditional" => some .conditional
  | "text-output" | "output" => some (.output .text)
  | "voice-output" => some (.output .voice)
  | _ => none

def isInput : NodeKind → Bool
  | .input _ => true
  | _ => false

def isOutput : NodeKind → Bool
  | .output _ => true
  | _ => false

end NodeKind

/-- What a port is for.  The branch roles belong to conditional nodes. -/
inductive PortRole
  | data
  | context
  | onTrue
  | onFalse
  deriving DecidableEq, Repr

namespace PortRole

def name : PortRole → String
  | .data => "data"
  | .context => "context"
  | .onTrue => "true"
  | .onFalse => "false"

/-- Reads a role given by the author: blanks around it and the case of ASCII letters do not
count, and an empty role is the default. -/
def ofName? (name : String) : Option PortRole :=
  match (Text.trim name).map Char.toLower with
  | "data" | "default" | "" => some .data
  | "context" => some .context
  | "true" => some .onTrue
  | "false" => some .onFalse
  | _ => none

/-- The role of a port that the author gave none, from words in its id. -/
def inferred (portId : String) : PortRole :=
  let lowered := portId.map Char.toLower
  if Text.contains lowered "true" then .onTrue
  else if Text.contains lowered "false" then .onFalse
  else if Text.contains lowered "context" then .context
  else .data

end PortRole

end ChatFlow
