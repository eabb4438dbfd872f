import ChatFlow.Settings.Basic
import ChatFlow.Toml.Document

/-!
# Settings in TOML

Every section and every value may be left out, and unknown names are passed over.  A section can
also be written as the list of its values in order; what is missing at its end keeps its default
and what is too much is passed over.
-/

set_option autoImplicit false

namespace ChatFlow.Settings

/-- The values of a section with known names.  A date or time is a section in which nothing known
is set. -/
def section? (names : List String) : Toml → Option (Keyed Toml)
  | .table _ entries => some entries
  | .tables members => some (names.zip (members.map (Toml.table .header)))
  | .array items => some (names.zip items)
  | .moment => some []
  | _ => none

/-- A value that keeps its default if it is not set. -/
def setting? {α : Type} (default : α) (read : Toml → Option α) (values : Keyed Toml)
    (name : String) : Option α :=
  match values.get? name with
  | some value => read value
  | none => some default

def count? : Toml → Option Nat
  | .integer n => if 0 ≤ n then some n.toNat else none
  | _ => none

/-- A number, with or without a point. -/
def number? : Toml → Option Float
  | .float x => some x
  | .integer n => some (Float.ofInt n)
  | _ => none

def text? : Toml → Option String
  | .string text => some text
  | _ => none

def Engine.ofToml? (value : Toml) : Option Engine := do
  let values ← section? ["visit_budget_factor"] value
  let default : Engine := {}
  return ⟨← setting? default.visitBudgetFactor count? values "visit_budget_factor"⟩

def Logging.ofToml? (value : Toml) : Option Logging := do
  let values ← section? ["filter"] value
  let default : Logging := {}
  return ⟨← setting? default.filter text? values "filter"⟩

def Ai.ofToml? (value : Toml) : Option Ai := do
  let values ← section?
    ["default_model", "default_system_prompt", "default_temperature", "timeout_seconds"] value
  let default : Ai := {}
  let model ← setting? default.defaultModel text? values "default_model"
  let prompt ← setting? default.defaultSystemPrompt text? values "default_system_prompt"
  let temperature ← setting? default.defaultTemperature number? values "default_temperature"
  let seconds ← setting? default.timeoutSeconds count? values "timeout_seconds"
  return ⟨model, prompt, temperature, seconds⟩

def Retrieval.ofToml? (value : Toml) : Option Retrieval := do
  let values ← section? ["default_top_k", "max_snippet_chars", "index_root"] value
  let default : Retrieval := {}
  let count ← setting? default.defaultCount count? values "default_top_k"
  let longest ← setting? default.longestSnippet count? values "max_snippet_chars"
  let directory ← setting? default.directory text? values "index_root"
  return ⟨count, longest, directory⟩

def Spreadsheet.ofToml? (value : Toml) : Option Spreadsheet := do
  let values ← section? ["default_sheet"] value
  let default : Spreadsheet := {}
  return ⟨← setting? default.defaultSheet text? values "default_sheet"⟩

end ChatFlow.Settings

namespace ChatFlow

def Settings.ofToml? (text : String) : Option Settings := do
  let sections ← Toml.ofText? text
  let engine ← Settings.setting? {} Settings.Engine.ofToml? sections "engine"
  let logging ← Settings.setting? {} Settings.Logging.ofToml? sections "logging"
  let ai ← Settings.setting? {} Settings.Ai.ofToml? sections "ai"
  let retrieval ← Settings.setting? {} Settings.Retrieval.ofToml? sections "retrieval"
  let spreadsheet ← Settings.setting? {} Settings.Spreadsheet.ofToml? sections "spreadsheet"
  return ⟨engine, logging, ai, retrieval, spreadsheet⟩

end ChatFlow
