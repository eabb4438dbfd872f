import ChatFlow.Description.OfJson
import ChatFlow.Description.OfYaml
import ChatFlow.Files.Basic
import ChatFlow.Settings.OfToml

/-!
# Loading

Workflows and settings from texts and from files.  The end of a file's name says in which notation
a workflow is written.
-/

set_option autoImplicit false

namespace ChatFlow

inductive LoadError
  | unreadable (path : String) (error : FileError)
  | invalidJson
  | invalidYaml
  | invalidToml
  | unsupportedFormat (path : String)
  deriving DecidableEq, Repr

def LoadError.message : LoadError → String
  | .unreadable path error => "Could not read '" ++ path ++ "': " ++ error.message
  | .invalidJson => "Invalid JSON workflow"
  | .invalidYaml => "Invalid YAML workflow"
  | .invalidToml => "Invalid engine settings"
  | .unsupportedFormat path =>
    "Unsupported workflow file extension for '" ++ path ++ "' (expected .json, .yaml or .yml)"

namespace Loading

def workflowOfJson (text : String) : Except LoadError Description :=
  match Description.ofJson? text with
  | some description => .ok description
  | none => .error .invalidJson

def workflowOfYaml (text : String) : Except LoadError Description :=
  match Description.ofYaml? text with
  | some description => .ok description
  | none => .error .invalidYaml

def settingsOfToml (text : String) : Except LoadError Settings :=
  match Settings.ofToml? text with
  | some settings => .ok settings
  | none => .error .invalidToml

def readText (files : Files) (path : String) : Except LoadError String :=
  match files.readText path with
  | .ok text => .ok text
  | .error e => .error (.unreadable path e)

/-- A workflow from a file.  The file is read before its name is looked at. -/
def workflow (files : Files) (path : String) : Except LoadError Description :=
  match readText files path with
  | .error e => .error e
  | .ok text =>
    match Path.extension? path with
    | some "json" => workflowOfJson text
    | some "yaml" | some "yml" => workflowOfYaml text
    | _ => .error (.unsupportedFormat path)

def settings (files : Files) (path : String) : Except LoadError Settings :=
  match readText files path with
  | .error e => .error e
  | .ok text => settingsOfToml text

end Loading

end ChatFlow
