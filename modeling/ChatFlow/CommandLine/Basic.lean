import ChatFlow.Collaborator.Demo
import ChatFlow.CommandLine.Quoted
import ChatFlow.Loading.Basic
import ChatFlow.Plan.Json
import ChatFlow.Report.Modality
import ChatFlow.Report.Validation
import ChatFlow.Responder.Basic

/-!
# The command line

Four commands work on a workflow in a file: answer one message, validate, show the plan, tell the
modality.  What a command prints is a function of its arguments and of the files there are.
-/

set_option autoImplicit false

namespace ChatFlow

/-- What a command leaves behind: its exit code and what it prints. -/
structure CommandOutput where
  exit : Nat
  out : String
  err : String
  deriving DecidableEq, Repr

namespace CommandLine

def usage : String := Text.joined "\n" [
  "Usage: switchboard <command> <workflow.(json|yaml)> [args] [--config engine.toml]",
  "",
  "Commands:",
  "  run <workflow> <message>   execute the workflow against one message",
  "  validate <workflow>        report structural issues",
  "  plan <workflow>            print the compiled plan as JSON",
  "  modality <workflow>        print input/output modality and features",
  "",
  "Example: switchboard run configs/rag-assistant.json \"how long do refunds take?\""]

/-- The arguments by position, and the settings file if one is named. -/
structure Arguments where
  positional : List String
  config : Option String
  deriving DecidableEq, Repr

/-- Takes the settings file out of the arguments; of several the last counts.  `none` is an option
without the file it needs. -/
def Arguments.ofList (read : Arguments) : List String → Option Arguments
  | [] => some read
  | ["--config"] => none
  | "--config" :: path :: rest => ofList { read with config := some path } rest
  | argument :: rest => ofList { read with positional := read.positional ++ [argument] } rest

/-- A failed command: a headline, and the cause if there is one. -/
def failure (headline : String) (cause : Option String) : CommandOutput where
  exit := 1
  out := ""
  err := "Error: " ++ headline ++ "\n" ++
    match cause with
    | some cause => "\nCaused by:\n    " ++ cause ++ "\n"
    | none => ""

/-- A command that failed because a file could not be loaded. -/
def notLoaded (path : String) (error : LoadError) : CommandOutput :=
  failure ("loading " ++ path) (some error.message)

/-- A command that printed something as it should. -/
def success (out : String) : CommandOutput := ⟨0, out, ""⟩

/-- Prints a report about the graph in a file. -/
def aboutGraph (files : Files) (path : String) (report : Graph → CommandOutput) : CommandOutput :=
  match Loading.workflow files path with
  | .error e => notLoaded path e
  | .ok description =>
    match Graph.ofDescription description with
    | .error e => failure e.message none
    | .ok graph => report graph

/-- Validates a graph; an invalid one has an exit code of its own. -/
def validate (graph : Graph) : CommandOutput :=
  let report := Validation.report graph
  ⟨if report.valid then 0 else 2, report.toJson.pretty ++ "\n", ""⟩

def plan (graph : Graph) : CommandOutput :=
  match Plan.compile graph with
  | .error e => failure e.message none
  | .ok plan => success (plan.toJson.pretty ++ "\n")

def modality (graph : Graph) : CommandOutput :=
  success ((ModalityReport.ofGraph graph).toJson.pretty ++ "\n")

/-- What is printed about an answer.  The time is that spent waiting for collaborators. -/
def answerText (path message : String) (response : ChatResponse) (elapsed : Elapsed) : String :=
  "📋 Workflow: " ++ path ++ "\n" ++
  "💬 Message: \"" ++ message ++ "\"\n" ++
  "\n🔄 Nodes Executed: " ++ Text.joined " → " response.executed ++ "\n" ++
  (match response.modelUsed with
    | some model => "🤖 Model: " ++ model ++ "\n"
    | none => "") ++
  "⏱️  Processing Time: " ++ Decimal.fixed 2 response.milliseconds ++ " ms\n" ++
  "\n🎯 Response:\n" ++ response.response ++ "\n" ++
  "\n⏱️  Total Time (including load): " ++ elapsed.text ++ "\n"

/-- Answers one message with the collaborators for demonstrations. -/
def run (files : Files) (settings : Settings) (path message : String) : CommandOutput :=
  match Loading.workflow files path with
  | .error e => notLoaded path e
  | .ok workflow =>
    let collaborators : Collaborators Unit := Demo.collaborators .empty files
    let responder := Responder.ofSettings settings collaborators
    let (response, trace, _) := responder.respond ⟨message, workflow, [], none⟩ ()
    success (answerText path message response trace.elapsed)

/-- The settings in force: those of a file if one is named. -/
def settings (files : Files) : Option String → Except CommandOutput Settings
  | none => .ok {}
  | some path =>
    match Loading.settings files path with
    | .ok settings => .ok settings
    | .error e => .error (notLoaded path e)

/-- What the program does with its arguments.  The settings are loaded before the command is
looked at. -/
def perform (files : Files) (arguments : List String) : CommandOutput :=
  match Arguments.ofList ⟨[], none⟩ arguments with
  | none => failure "--config needs a path" none
  | some arguments =>
    match settings files arguments.config with
    | .error failed => failed
    | .ok settings =>
      match arguments.positional with
      | ["run", path, message] => run files settings path message
      | ["validate", path] => aboutGraph files path validate
      | ["plan", path] => aboutGraph files path plan
      | ["modality", path] => aboutGraph files path modality
      | positional =>
        let failed := failure ("unrecognised arguments: " ++ quotedList positional) none
        { failed with err := usage ++ "\n" ++ failed.err }

/-- The files that a command reads, as far as its arguments name them. -/
def namedFiles (arguments : List String) : List String :=
  match Arguments.ofList ⟨[], none⟩ arguments with
  | none => []
  | some arguments => arguments.config.toList ++ (arguments.positional.drop 1).take 1

/-- The directories in which a command may look for documents, once the files that its arguments
name are known. -/
def documentFolders (files : Files) (arguments : List String) : List String :=
  match Arguments.ofList ⟨[], none⟩ arguments with
  | none => []
  | some arguments =>
    match settings files arguments.config, arguments.positional with
    | .ok settings, ["run", path, _] =>
      match (Loading.workflow files path).toOption with
      | none => []
      | some workflow =>
        settings.retrieval.directory ::
          workflow.nodes.filterMap fun node =>
            (node.data.get? "documentsPath").bind Json.text?
    | _, _ => []

end CommandLine

end ChatFlow
