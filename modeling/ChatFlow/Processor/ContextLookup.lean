import ChatFlow.Decimal.Fixed
import ChatFlow.Files.Path
import ChatFlow.Json.Printer
import ChatFlow.Processor.Basic
import ChatFlow.Settings.Basic

/-!
# Looking up context

The work of retrieval and spreadsheet nodes, which fill a slot for the chat model.  A retriever
that fails leaves a marker in the slot; a sheet reader that fails makes its node fail.
-/

set_option autoImplicit false

namespace ChatFlow.ContextLookup

/-- What there is to report about a slot that was filled. -/
def slotEvent (node : Node) (name collaborator : String) : ContextSlot → Event
  | .available text => .contextProduced node.id name text.utf8ByteSize
  | .unavailable marker => .collaboratorUnavailable node.id collaborator marker

/-- The corpus that nodes without a project share. -/
def sharedCorpus : String := "default"

/-- The corpus of a node: that of its user's project, that of its project, or the shared one. -/
def corpus (node : Node) : String :=
  match node.optionText? "userId", node.optionText? "projectId" with
  | some user, some project => user ++ "/" ++ project
  | none, some project => project
  | _, none => sharedCorpus

/-- How many documents to ask for: an option that is a positive integer, or the default if it is
unset or null. -/
def count (retrieval : Settings.Retrieval) (node : Node) : Except NodeError Nat :=
  match node.option? "topK" with
  | none | some .null => .ok retrieval.defaultCount
  | some value =>
    match value.nat?.filter (fun n => 0 < n) with
    | some n => .ok n
    | none =>
      .error (.invalidOption "topK" ("expected a positive integer, got " ++ value.compact))

def query (retrieval : Settings.Retrieval) (state : State) (node : Node) :
    Except NodeError RetrievalQuery :=
  match count retrieval node with
  | .error e => .error e
  | .ok count =>
    .ok {
      query := state.message
      corpus := corpus node
      directory := (node.optionText? "documentsPath").getD retrieval.directory
      count := count }

/-- The start of a text, with dots if something is left out. -/
def snippet (longest : Nat) (text : String) : String :=
  let characters := text.toList
  if characters.length ≤ longest then text
  else String.ofList (characters.take longest) ++ "..."

/-- A document as it is quoted, with its place among those found. -/
def quotation (longest : Nat) (place : Nat) (document : ScoredDocument) : String :=
  "[Source " ++ toString place ++ ": " ++ (Path.name? document.source).getD document.source ++
    " (score: " ++ Decimal.fixed 3 document.score ++ ")]\n" ++ snippet longest document.content

/-- Documents as they are quoted, numbered from `place` on. -/
def quotations (longest : Nat) : (place : Nat) → List ScoredDocument → List String
  | _, [] => []
  | place, document :: rest =>
    quotation longest place document :: quotations longest (place + 1) rest

/-- The slot for the outcome of a search. -/
def retrievalSlot (longest : Nat) : Except NodeError Retrieved → ContextSlot
  | .ok (.found []) => .unavailable "[No relevant documents found]"
  | .ok (.found documents) => .available (Text.joined "\n\n" (quotations longest 1 documents))
  | .ok (.unavailable marker) => .unavailable marker
  | .error e => .unavailable ("[Retrieval error: " ++ e.message ++ "]")

def retrieve {World : Type} (collaborators : Collaborators World)
    (retrieval : Settings.Retrieval) (node : Node) (state : State) (world : World) :
    Processed World :=
  match query retrieval state node with
  | .error e => .failed state e .empty world
  | .ok query =>
    let (answer, world) := collaborators.retrieve query world
    let slot := retrievalSlot retrieval.longestSnippet answer.result
    let trace : Trace := ⟨answer.events.toArray, #[.retrieve query], .zero⟩
    .done { state with retrievalContext := some slot }
      (trace.report (slotEvent node "retrieval" collaborators.retrieverName slot)) world

/-- A search for documents: there is no query, or the slot gets what became of it. -/
theorem retrieve_cases {World : Type} (collaborators : Collaborators World)
    (retrieval : Settings.Retrieval) (node : Node) (state : State) (world : World) :
    let processed := retrieve collaborators retrieval node state world
    (∃ error, query retrieval state node = .error error ∧ processed.failure = some error ∧
      processed.state = state ∧ processed.trace.calls = #[]) ∨
    ∃ asked, query retrieval state node = .ok asked ∧ processed.trace.calls = #[.retrieve asked] ∧
      processed.failure = none ∧
      processed.state = { state with
        retrievalContext := some (retrievalSlot retrieval.longestSnippet
          (collaborators.retrieve asked world).1.result) } := by
  intro processed
  cases prepared : query retrieval state node with
  | error error =>
      have same : processed = .failed state error .empty world := by
        simp only [processed, retrieve, prepared]
      exact .inl ⟨error, rfl, by rw [same]; exact ⟨rfl, rfl, rfl⟩⟩
  | ok asked =>
      refine .inr ⟨asked, rfl, ?_⟩
      simp only [processed, retrieve, prepared]
      exact ⟨rfl, rfl, rfl⟩

theorem retrieve_keeps {World : Type} (collaborators : Collaborators World)
    (retrieval : Settings.Retrieval) (node : Node) (state : State) (world : World) :
    state.KeptIn (retrieve collaborators retrieval node state world).state := by
  rcases retrieve_cases collaborators retrieval node state world with
    ⟨_, _, _, same, _⟩ | ⟨_, _, _, _, same⟩
  · rw [same]
    exact .refl state
  · rw [same]
    exact ⟨rfl, rfl, rfl⟩

def sheetQuery (spreadsheet : Settings.Spreadsheet) (node : Node) : SheetQuery where
  spreadsheet := node.optionText? "spreadsheetId"
  sheet := (node.optionText? "sheetName").getD spreadsheet.defaultSheet

def readSheet {World : Type} (collaborators : Collaborators World)
    (spreadsheet : Settings.Spreadsheet) (node : Node) (state : State) (world : World) :
    Processed World :=
  let query := sheetQuery spreadsheet node
  let trace : Trace := ⟨#[], #[.sheet query], .zero⟩
  match collaborators.readSheet query world with
  | (.error e, world) => .failed state e trace world
  | (.ok slot, world) =>
    .done { state with spreadsheetContext := some slot }
      (trace.report (slotEvent node "spreadsheet" collaborators.sheetsName slot)) world

/-- A sheet is read always; a reader that fails makes the node fail. -/
theorem readSheet_cases {World : Type} (collaborators : Collaborators World)
    (spreadsheet : Settings.Spreadsheet) (node : Node) (state : State) (world : World) :
    let processed := readSheet collaborators spreadsheet node state world
    let asked := sheetQuery spreadsheet node
    processed.trace.calls = #[.sheet asked] ∧
      ((∃ error, (collaborators.readSheet asked world).1 = .error error ∧
          processed.failure = some error ∧ processed.state = state) ∨
        ∃ slot, (collaborators.readSheet asked world).1 = .ok slot ∧
          processed.failure = none ∧
          processed.state = { state with spreadsheetContext := some slot }) := by
  intro processed asked
  simp only [processed, readSheet]
  rcases collaborators.readSheet asked world with ⟨_ | _, _⟩
  · exact ⟨rfl, .inl ⟨_, rfl, rfl, rfl⟩⟩
  · exact ⟨rfl, .inr ⟨_, rfl, rfl, rfl⟩⟩

theorem readSheet_keeps {World : Type} (collaborators : Collaborators World)
    (spreadsheet : Settings.Spreadsheet) (node : Node) (state : State) (world : World) :
    state.KeptIn (readSheet collaborators spreadsheet node state world).state := by
  obtain ⟨_, ⟨_, _, _, same⟩ | ⟨_, _, _, same⟩⟩ :=
    readSheet_cases collaborators spreadsheet node state world
  · rw [same]
    exact .refl state
  · rw [same]
    exact ⟨rfl, rfl, rfl⟩

end ChatFlow.ContextLookup
