import ChatFlow.Collaborator.Demo
import ChatFlow.Proofs.Executions
import ChatFlow.Proofs.PlanEdges

/-!
# What the work of a node changes

Each kind of node writes fields of the state that are its own.  Work that fails writes nothing, so
that the answer of a walk in which a node fails is the state in which the node was entered, with the
node in the log and the error as the response.
-/

set_option autoImplicit false

namespace ChatFlow

/-- The same values under all names but one. -/
def Keyed.SameBut {α : Type} (name : String) (before after : Keyed α) : Prop :=
  ∀ other, other ≠ name → after.get? other = before.get? other

theorem Keyed.sameBut_put {α : Type} (entries : Keyed α) (name : String) (value : α) :
    entries.SameBut name (entries.put name value) :=
  fun _ different => get?_put_other entries value different

/-! ## The work of a node -/

variable {World : Type}

/-- What a node of some kind may make of a state.  An ai-call node writes one completion, and that
under one name if it names a variable; a conditional node writes one result under its own id. -/
def NodeKind.Changes (node : Node) (before after : State) : NodeKind → Prop
  | .input _ | .output _ => after = before
  | .aiCall => ∃ (completion : Completion) (named : Keyed String),
      after = { before with
        response := completion.content
        modelUsed := some completion.model
        outputVariables := named } ∧
      match node.optionText? "outputVariableName" with
      | some name => named.get? name = some completion.content ∧
          before.outputVariables.SameBut name named
      | none => named = before.outputVariables
  | .retrieval => ∃ slot, after = { before with retrievalContext := some slot }
  | .spreadsheet => ∃ slot, after = { before with spreadsheetContext := some slot }
  | .conditional => ∃ (result : Bool) (results : Keyed Bool),
      after = { before with conditionResults := results } ∧
      results.get? node.id = some result ∧ before.conditionResults.SameBut node.id results

theorem ModelCall.write_changes (node : Node) (state : State) (completion : Completion) :
    NodeKind.aiCall.Changes node state (write state node completion) := by
  refine ⟨completion, _, rfl, ?_⟩
  cases node.optionText? "outputVariableName" with
  | none => rfl
  | some name => exact ⟨Keyed.get?_put_self _ _ _, Keyed.sameBut_put _ _ _⟩

namespace Registry

variable (search? : PatternSearch) (collaborators : Collaborators World) (settings : Settings)

/-- The work of a node changes what its kind may change, or it fails and changes nothing. -/
theorem process_changes (kind : NodeKind) (node : Node) (state : State) (world : World) :
    let processed := (processorOf search? collaborators settings kind).process node state world
    (processed.failure = none ∧ kind.Changes node state processed.state) ∨
      (processed.failure ≠ none ∧ processed.state = state) := by
  intro processed
  cases kind with
  | input modality => cases modality <;> exact .inl ⟨rfl, rfl⟩
  | output modality => cases modality <;> exact .inl ⟨rfl, rfl⟩
  | conditional => exact .inl ⟨rfl, _, _, rfl, Keyed.get?_put_self _ _ _, Keyed.sameBut_put _ _ _⟩
  | aiCall =>
      rcases ModelCall.process_cases collaborators settings.ai node state world with
        ⟨error, _, failed, same, _⟩ | ⟨asked, _, _, ⟨error, _, failed, same⟩ |
          ⟨completion, _, success, same⟩⟩
      · exact .inr ⟨Option.ne_none_iff_exists'.mpr ⟨error, failed⟩, same⟩
      · exact .inr ⟨Option.ne_none_iff_exists'.mpr ⟨error, failed⟩, same⟩
      · refine .inl ⟨success, ?_⟩
        have written : processed.state = ModelCall.write state node completion := same
        rw [written]
        exact ModelCall.write_changes node state completion
  | retrieval =>
      rcases ContextLookup.retrieve_cases collaborators settings.retrieval node state world with
        ⟨error, _, failed, same, _⟩ | ⟨asked, _, _, success, same⟩
      · exact .inr ⟨Option.ne_none_iff_exists'.mpr ⟨error, failed⟩, same⟩
      · exact .inl ⟨success, _, same⟩
  | spreadsheet =>
      obtain ⟨_, ⟨error, _, failed, same⟩ | ⟨slot, _, success, same⟩⟩ :=
        ContextLookup.readSheet_cases collaborators settings.spreadsheet node state world
      · exact .inr ⟨Option.ne_none_iff_exists'.mpr ⟨error, failed⟩, same⟩
      · exact .inl ⟨success, _, same⟩

end Registry

/-! ## Whole runs -/

/-- An executor for demonstrations, without any documents. -/
def Demo.executor : Executor Unit :=
  ⟨.complete (Demo.collaborators .empty (Files.empty [])) {}, 1⟩

namespace Walk

variable {search? : PatternSearch} {collaborators : Collaborators World} {settings : Settings}
  {plan : Plan} {registry : Registry World}

theorem Visit.At.processed {visit : Visit World} {point : Point World}
    (here : visit.At plan (.completeWith search? collaborators settings) point) :
    visit.processed =
      (Registry.processorOf search? collaborators settings visit.node.kind).process visit.node
        (point.state.record visit.tag) point.world := by
  obtain ⟨processor, registered, same⟩ := here.work
  rw [Registry.get?_completeWith, Option.some.injEq] at registered
  rw [same, ← registered]

/-- A visit adds the node to the log and then changes what its kind may change, or nothing. -/
theorem Visit.At.changes {visit : Visit World} {point : Point World}
    (here : visit.At plan (.completeWith search? collaborators settings) point) :
    (visit.processed.failure = none ∧
        visit.node.kind.Changes visit.node (point.state.record visit.tag) visit.processed.state) ∨
      (visit.processed.failure ≠ none ∧ visit.processed.state = point.state.record visit.tag) := by
  rw [here.processed]
  exact Registry.process_changes search? collaborators settings visit.node.kind visit.node _ _

/-- A visit that fails leaves nothing but its entry in the log. -/
theorem Visit.At.entered {visit : Visit World} {point : Point World} {error : NodeError}
    (here : visit.At plan (.completeWith search? collaborators settings) point)
    (failed : visit.processed.failure = some error) :
    visit.processed.state = point.state.record visit.tag := by
  rcases here.changes with ⟨success, _⟩ | ⟨_, same⟩
  · rw [failed] at success
    cases success
  · exact same

theorem Visit.At.inputs {visit : Visit World} {point : Point World}
    (here : visit.At plan registry point) :
    visit.processed.state.message = point.state.message ∧
      visit.processed.state.history = point.state.history :=
  ⟨here.keeps.message, here.keeps.history⟩

theorem Passes.inputs {start last : Point World} {visits : List (Visit World)}
    (passes : Passes plan registry start visits last) :
    last.state.message = start.state.message ∧ last.state.history = start.state.history := by
  induction passes with
  | done point => exact ⟨rfl, rfl⟩
  | step here _ _ ih => exact ⟨ih.1.trans here.inputs.1, ih.2.trans here.inputs.2⟩

theorem Completes.inputs {start : Point World} {visits : List (Visit World)} {answer : State}
    (completes : Completes plan registry start visits answer) :
    answer.message = start.state.message ∧ answer.history = start.state.history := by
  cases completes with
  | finished passes _ => exact passes.inputs
  | recovered passes here _ =>
      exact ⟨here.inputs.1.trans passes.inputs.1, here.inputs.2.trans passes.inputs.2⟩

end Walk

open Walk

/-- Whatever collaborators answer, a node changes only what belongs to its kind, and nothing if it
fails.  So every answer has the message and the history that the walk began with, and a node that
fails ends the walk with the state in which it was entered, but for the log and the response. -/
theorem nodes_change_only_their_own (search? : PatternSearch)
    (collaborators : Collaborators World) (settings : Settings) :
    (∀ (kind : NodeKind) (node : Node) (state : State) (world : World),
      let processed :=
        (Registry.processorOf search? collaborators settings kind).process node state world
      (processed.state.message = state.message ∧ processed.state.history = state.history ∧
        processed.state.executed = state.executed) ∧
      ((processed.failure = none ∧ kind.Changes node state processed.state) ∨
        (processed.failure ≠ none ∧ processed.state = state))) ∧
    ∀ (factor : Nat) (plan : Plan) (state : State) (world : World),
      let executor : Executor World := ⟨.completeWith search? collaborators settings, factor⟩
      let outcome := (executor.execute plan state world).outcome
      (∀ answer, outcome = .ok answer →
        answer.message = state.message ∧ answer.history = state.history) ∧
      ∀ before visit after error,
        executor.visits plan state world = before ++ visit :: after →
        visit.processed.failure = some error →
        after = [] ∧ ∃ point,
          Passes plan executor.registry (Executor.start plan state world) before point ∧
          visit.At plan executor.registry point ∧
          outcome = .ok { point.state with
            executed := point.state.executed.push visit.node.kind.tag
            response := "Error in " ++ visit.node.kind.tag ++ " node '" ++ visit.id ++ "': " ++
              error.message } := by
  refine ⟨fun kind node state world => ⟨?_, ?_⟩, fun factor plan state world => ?_⟩
  · have kept := (Registry.processorOf search? collaborators settings kind).keeps node state world
    exact ⟨kept.message, kept.history, kept.executed⟩
  · exact Registry.process_changes search? collaborators settings kind node state world
  intro executor outcome
  have ends := executor.ends_visits plan state world
  refine ⟨fun answer answered => ?_, fun before visit after error split failed => ?_⟩
  · change (executor.execute plan state world).outcome = .ok answer at answered
    rw [answered] at ends
    cases ends with
    | answered completes _ => exact completes.inputs
  · rw [split] at ends
    obtain ⟨point, passes, here, ⟨_, again, ended, answer⟩ | ⟨success, _⟩⟩ := ends.at_visit
    · -- the work that failed has left nothing but the entry in the log
      have entered := here.entered failed
      rw [failed, Option.some.injEq] at again
      subst again
      refine ⟨ended, point, passes, here, ?_⟩
      rw [entered] at answer
      exact answer
    · rw [failed] at success
      cases success

def loneModel : Graph where
  nodes := [⟨"llm", .aiCall, [], [], []⟩]
  connections := []
  nonempty := by decide
  distinct := by decide
  joined := by decide

/-- The services for demonstrations, but without a chat model. -/
def Demo.offline : Collaborators Unit :=
  { Demo.collaborators .empty (Files.empty []) with
    complete := fun _ world =>
      (⟨.error (.collaboratorFailed "chat model" "connection refused"), .zero⟩, world) }

theorem loneModel_answers_with_error :
    ∃ plan, Plan.compile loneModel = .ok plan ∧
      (Executor.execute ⟨.completeWith Pattern.search? Demo.offline {}, 1⟩ plan
        (State.start "hi" []) ()).outcome = .ok { State.start "hi" [] with
          executed := #["ai-model"]
          response := "Error in ai-model node 'llm': chat model failed: connection refused" } := by
  obtain ⟨plan, visit, compiled, made, failed, kind, id⟩ : ∃ plan visit,
      Plan.compile loneModel = .ok plan ∧
      Executor.visits ⟨.completeWith Pattern.search? Demo.offline {}, 1⟩ plan
        (State.start "hi" []) () = [] ++ visit :: [] ∧
      visit.processed.failure = some (.collaboratorFailed "chat model" "connection refused") ∧
      visit.node.kind = .aiCall ∧ visit.id = "llm" := by
    rw [Plan.compile_eq]
    exact ⟨_, _, rfl, rfl, rfl, rfl, rfl⟩
  obtain ⟨_, point, passes, _, outcome⟩ :=
    ((nodes_change_only_their_own Pattern.search? Demo.offline {}).2 1 plan (State.start "hi" [])
      ()).2 [] visit [] _ made failed
  cases passes
  rw [kind, id] at outcome
  exact ⟨plan, compiled, outcome⟩

end ChatFlow
