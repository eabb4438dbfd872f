import ChatFlow.Proofs.NodeWork

/-!
# Where an answer comes from

The chat model gives completions on the visits of a walk, and each of them is written over those
before it.  So the response and the model of an answer belong to the last completion, and a variable
holds the last one that was given to a node which names it.
-/

set_option autoImplicit false

namespace ChatFlow

theorem Json.text?_eq_some (value : Json) (text : String) :
    value.text? = some text ↔ value = .string text := by
  cases value <;> simp [text?]

theorem Node.optionText?_eq_filter (node : Node) (name : String) :
    node.optionText? name =
      ((node.option? name).bind Json.text?).filter (fun text => text ≠ "") := by
  rw [optionText?]
  split
  · next given => simp [given, Option.filter]
  · next given =>
    cases read : (node.option? name).bind Json.text? with
    | none => rfl
    | some text =>
        have nonempty : text ≠ "" := fun empty => given (empty ▸ read)
        simp [nonempty, Option.filter]

theorem Node.optionText?_eq_some (node : Node) (name text : String) :
    node.optionText? name = some text ↔ node.option? name = some (.string text) ∧ text ≠ "" := by
  rw [optionText?_eq_filter, Option.filter_eq_some_iff, Option.bind_eq_some_iff]
  simp [Json.text?_eq_some]

/-- Whether the completion for a node is kept in a variable. -/
def Node.names (node : Node) (variableName : String) : Bool :=
  node.optionText? "outputVariableName" = some variableName

theorem Node.names_iff (node : Node) (name : String) :
    node.names name = true ↔
      node.option? "outputVariableName" = some (.string name) ∧ name ≠ "" := by
  rw [names, decide_eq_true_iff, optionText?_eq_some]

/-- The last completion that is given to a node which names the variable has this content; the
empty text names no variable. -/
def LastFor (given : List (Node × Completion)) (name content : String) : Prop :=
  name ≠ "" ∧ ∃ earlier node completion later,
    given = earlier ++ (node, completion) :: later ∧
    node.option? "outputVariableName" = some (.string name) ∧ completion.content = content ∧
    ∀ entry ∈ later, entry.1.option? "outputVariableName" ≠ some (.string name)

/-- What completions make of the answer in a state, each of them written over those before it. -/
structure State.Answers (before : State) (given : List (Node × Completion)) (after : State) :
    Prop where
  response : after.response = (given.getLast?.map fun entry => entry.2.content).getD before.response
  model : after.modelUsed = (given.getLast?.map fun entry => entry.2.model).or before.modelUsed
  named : ∀ name, after.outputVariables.get? name =
    ((given.reverse.find? fun entry => entry.1.names name).map fun entry => entry.2.content).or
      (before.outputVariables.get? name)

theorem ModelCall.write_answers (state : State) (node : Node) (completion : Completion) :
    state.Answers [(node, completion)] (write state node completion) where
  response := rfl
  model := rfl
  named := by
    intro name
    by_cases named : node.names name
    · have there : node.optionText? "outputVariableName" = some name := by
        simpa [Node.names] using named
      simp [write, there, named, Keyed.get?_put_self]
    · cases found : node.optionText? "outputVariableName" with
      | none => simp [write, found, named]
      | some other =>
          have different : name ≠ other := by
            rintro rfl
            exact named (by simp [Node.names, found])
          simp [write, found, named, Keyed.get?_put_other _ _ different]

theorem State.Answers.append {before middle after : State}
    {first second : List (Node × Completion)} (one : before.Answers first middle)
    (two : middle.Answers second after) : before.Answers (first ++ second) after where
  response := by
    rw [two.response, one.response, List.getLast?_append, Option.map_or, Option.getD_or]
  model := by
    rw [two.model, one.model, List.getLast?_append, Option.map_or, Option.or_assoc]
  named := by
    intro name
    rw [two.named, one.named, List.reverse_append, List.find?_append, Option.map_or,
      Option.or_assoc]

theorem State.Answers.nil {before after : State} (response : after.response = before.response)
    (model : after.modelUsed = before.modelUsed)
    (named : after.outputVariables = before.outputVariables) : before.Answers [] after :=
  ⟨response, model, fun name => congrArg (Keyed.get? · name) named⟩

/-- The log is no part of the answer. -/
theorem State.Answers.of_recorded {before after : State} {given : List (Node × Completion)}
    {tag : String} (written : (before.record tag).Answers given after) :
    before.Answers given after :=
  ⟨written.response, written.model, written.named⟩

/-- Only ai-call nodes write an answer. -/
theorem NodeKind.Changes.answers {kind : NodeKind} {node : Node} {before after : State}
    (changes : kind.Changes node before after) (other : kind ≠ .aiCall) :
    before.Answers [] after := by
  cases kind with
  | input _ | output _ =>
      have same : after = before := changes
      exact .nil (by rw [same]) (by rw [same]) (by rw [same])
  | aiCall => exact absurd rfl other
  | conditional =>
      obtain ⟨_, _, rfl, _⟩ := changes
      exact .nil rfl rfl rfl
  | retrieval | spreadsheet =>
      obtain ⟨_, rfl⟩ := changes
      exact .nil rfl rfl rfl

theorem lastFor_iff (given : List (Node × Completion)) (name content : String) :
    LastFor given name content ↔
      ((given.reverse.find? fun entry => entry.1.names name).map fun entry => entry.2.content) =
        some content := by
  rw [Option.map_eq_some_iff]
  constructor
  · rintro ⟨nonempty, earlier, node, completion, later, rfl, option, rfl, rest⟩
    have named : node.names name = true := (node.names_iff name).mpr ⟨option, nonempty⟩
    have unnamed : ∀ entry ∈ later.reverse, (!entry.1.names name) = true := by
      intro entry member
      rw [Bool.not_eq_true', ← Bool.not_eq_true, Node.names_iff]
      exact fun same => rest entry (List.mem_reverse.mp member) same.1
    have found : (earlier ++ (node, completion) :: later).reverse.find?
        (fun entry => entry.1.names name) = some (node, completion) :=
      List.find?_eq_some_iff_append.mpr
        ⟨named, later.reverse, earlier.reverse, by simp, unnamed⟩
    exact ⟨(node, completion), found, rfl⟩
  · rintro ⟨⟨node, completion⟩, found, rfl⟩
    obtain ⟨named, later, earlier, split, rest⟩ := List.find?_eq_some_iff_append.mp found
    obtain ⟨option, nonempty⟩ := (node.names_iff name).mp named
    refine ⟨nonempty, earlier.reverse, node, completion, later.reverse, ?_, option, rfl, ?_⟩
    · simpa using List.reverse_eq_iff.mp split
    · intro entry member same
      have unnamed := rest entry (List.mem_reverse.mp member)
      rw [(entry.1.names_iff name).mpr ⟨same, nonempty⟩] at unnamed
      cases unnamed

theorem State.Answers.model_of_start {message : String} {history : List Turn} {after : State}
    {given : List (Node × Completion)} (written : (start message history).Answers given after) :
    after.modelUsed = given.getLast?.map fun entry => entry.2.model :=
  written.model.trans Option.or_none

theorem State.Answers.named_of_start {message : String} {history : List Turn} {after : State}
    {given : List (Node × Completion)} (written : (start message history).Answers given after)
    (name content : String) :
    after.outputVariables.get? name = some content ↔ LastFor given name content := by
  have fresh : (start message history).outputVariables.get? name = none := rfl
  rw [written.named, fresh, Option.or_none, lastFor_iff]

namespace Walk

variable {World : Type} (collaborators : Collaborators World) (ai : Settings.Ai)

/-- The completion that the chat model gives on a visit from some point, with the node to which it
is given. -/
def Visit.given (visit : Visit World) (point : Point World) : List (Node × Completion) :=
  match visit.node.kind, ModelCall.request ai (point.state.record visit.tag) visit.node with
  | .aiCall, .ok asked =>
    match (collaborators.complete asked point.world).1.result with
    | .ok completion => [(visit.node, completion)]
    | .error _ => []
  | _, _ => []

/-- The completions that are given on visits, in order. -/
def completions (plan : Plan) : Point World → List (Visit World) → List (Node × Completion)
  | _, [] => []
  | point, visit :: rest =>
    visit.given collaborators ai point ++ completions plan (visit.after plan) rest

end Walk

theorem ModelCall.result_of_accept {ai : Settings.Ai} {model : String} {reply : Reply}
    {completion : Completion} (accepted : accept ai model reply = .ok completion) :
    reply.result = .ok completion := by
  rw [accept] at accepted
  split at accepted
  · cases accepted
  · split at accepted
    · cases accepted
    · next given =>
      split at accepted
      · cases accepted
      · exact given.trans accepted

namespace Walk

variable {World : Type} {search? : PatternSearch} {collaborators : Collaborators World}
  {settings : Settings} {plan : Plan} {visit : Visit World} {point start last : Point World}
  {visits : List (Visit World)}

/-- A visit of an ai-call node that succeeds writes the one completion that is given on it. -/
theorem Visit.At.given_model
    (here : visit.At plan (.completeWith search? collaborators settings) point)
    (success : visit.processed.failure = none) (kind : visit.node.kind = .aiCall) :
    ∃ completion, visit.given collaborators settings.ai point = [(visit.node, completion)] ∧
      visit.processed.state =
        ModelCall.write (point.state.record visit.tag) visit.node completion := by
  have work := here.processed
  rw [kind] at work
  change visit.processed = ModelCall.process collaborators settings.ai visit.node
    (point.state.record visit.tag) point.world at work
  rcases ModelCall.process_cases collaborators settings.ai visit.node
      (point.state.record visit.tag) point.world with
    ⟨error, _, failed, _⟩ | ⟨asked, prepared, _, ⟨error, _, failed, _⟩ |
      ⟨completion, accepted, _, written⟩⟩
  · rw [← work, success] at failed
    cases failed
  · rw [← work, success] at failed
    cases failed
  · refine ⟨completion, ?_, work ▸ written⟩
    simp only [given, kind, prepared, ModelCall.result_of_accept accepted]

theorem Visit.given_other (other : visit.node.kind ≠ .aiCall) :
    visit.given collaborators settings.ai point = [] := by
  rw [given]
  split
  · next kind _ => exact absurd kind other
  · rfl

/-- A visit that succeeds makes of the answer what the completion given on it does. -/
theorem Visit.At.answers (here : visit.At plan (.completeWith search? collaborators settings) point)
    (success : visit.processed.failure = none) :
    point.state.Answers (visit.given collaborators settings.ai point) visit.processed.state := by
  by_cases kind : visit.node.kind = .aiCall
  · obtain ⟨completion, given, written⟩ := here.given_model success kind
    rw [given, written]
    exact (ModelCall.write_answers _ visit.node completion).of_recorded
  · rw [given_other kind]
    rcases here.changes with ⟨_, changes⟩ | ⟨failed, _⟩
    · exact (changes.answers kind).of_recorded
    · exact absurd success failed

theorem Passes.answers
    (passes : Passes plan (.completeWith search? collaborators settings) start visits last) :
    start.state.Answers (completions collaborators settings.ai plan start visits) last.state := by
  induction passes with
  | done point => exact .nil rfl rfl rfl
  | step here success _ ih => exact (here.answers success).append ih

/-- Every visit of an ai-call node is given one completion, and the others are given none. -/
theorem Passes.completions_nodes
    (passes : Passes plan (.completeWith search? collaborators settings) start visits last) :
    (completions collaborators settings.ai plan start visits).map Prod.fst =
      (visits.map Visit.node).filter fun node => node.kind = .aiCall := by
  induction passes with
  | done point => rfl
  | @step point last visit rest here success _ ih =>
      rw [completions, List.map_append, ih, List.map_cons]
      by_cases kind : visit.node.kind = .aiCall
      · obtain ⟨completion, given, _⟩ := here.given_model success kind
        simp [given, kind]
      · simp [Visit.given_other kind, kind]

end Walk

open Walk in
/-- Whatever the chat model answers, the response and the model of an answer belong to one and the
same completion, the one given to the ai-call node that was visited last, and the variables are
those that visited ai-call nodes name, each with the completion that was given last for it.  If a
node has failed, this holds of the visits before it, but the response is the text of the error. -/
theorem answer_of_last_completion {World : Type} (search? : PatternSearch)
    (collaborators : Collaborators World) (settings : Settings) (factor : Nat) (plan : Plan)
    (message : String) (history : List Turn) (world : World) (answer : State) :
    let executor : Executor World := ⟨.completeWith search? collaborators settings, factor⟩
    let state := State.start message history
    let visits := executor.visits plan state world
    (executor.execute plan state world).outcome = .ok answer →
    ∃ passed : List (Visit World),
      let given := completions collaborators settings.ai plan (Executor.start plan state world)
        passed
      given.map Prod.fst = (passed.map Visit.node).filter (fun node => node.kind = .aiCall) ∧
      answer.modelUsed = given.getLast?.map (fun entry => entry.2.model) ∧
      (∀ name content,
        answer.outputVariables.get? name = some content ↔ LastFor given name content) ∧
      (∀ visit ∈ passed, visit.processed.failure = none) ∧
      ((visits = passed ∧
          answer.response = (given.getLast?.map fun entry => entry.2.content).getD "") ∨
        ∃ failing error, visits = passed ++ [failing] ∧
          failing.processed.failure = some error ∧
          answer.response = "Error in " ++ failing.node.kind.tag ++ " node '" ++ failing.id ++
            "': " ++ error.message) := by
  intro executor state visits answered
  have ends := executor.ends_visits plan state world
  rw [answered] at ends
  rcases ends.all_pass_or_last_fails with
    ⟨last, passes, ⟨_, same⟩ | ⟨_, _, _, same, _⟩⟩ |
      ⟨passed, failing, last, error, split, passes, here, failed, same⟩
  · cases same
    have written := passes.answers
    exact ⟨visits, passes.completions_nodes, written.model_of_start, written.named_of_start,
      passes.succeeded, .inl ⟨rfl, written.response⟩⟩
  · cases same
  · cases same
    rw [here.entered failed]
    have written := passes.answers
    exact ⟨passed, passes.completions_nodes, written.model_of_start, written.named_of_start,
      passes.succeeded, .inr ⟨failing, error, split, failed, rfl⟩⟩

/-- A chat model that gives the replies which are left in the world, one after the other. -/
def scripted : Collaborators (List String) :=
  { Demo.collaborators .empty (Files.empty []) with
    complete := fun request replies =>
      match replies with
      | [] => (⟨.error (.collaboratorFailed "chat model" "nothing left to say"), .zero⟩, [])
      | reply :: rest => (⟨.ok ⟨reply, request.model⟩, .zero⟩, rest) }

/-- Two models that use the same variable. -/
def draftAndRevision : Plan where
  entry := "draft"
  nodes := [("draft", ⟨"draft", .aiCall,
      [("modelName", .string "small"), ("outputVariableName", .string "text")], [], []⟩),
    ("revision", ⟨"revision", .aiCall,
      [("modelName", .string "large"), ("outputVariableName", .string "text")], [], []⟩)]
  edges := [("draft", "revision")]
  routers := []
  exits := ["revision"]
  rewritten := []

theorem draftAndRevision_keeps_the_revision :
    ∃ answer, (Executor.execute ⟨.completeWith Pattern.search? scripted {}, 1⟩ draftAndRevision
        (State.start "hi" []) ["one", "two"]).outcome = .ok answer ∧
      answer.response = "two" ∧ answer.modelUsed = some "large" ∧
      answer.outputVariables.get? "text" = some "two" := by
  obtain ⟨answer, answered⟩ : ∃ answer,
      (Executor.execute ⟨.completeWith Pattern.search? scripted {}, 1⟩ draftAndRevision
        (State.start "hi" []) ["one", "two"]).outcome = .ok answer := ⟨_, rfl⟩
  have successes :
      (Executor.visits ⟨.completeWith Pattern.search? scripted {}, 1⟩ draftAndRevision
        (State.start "hi" []) ["one", "two"]).map (fun visit => visit.processed.failure) =
      [none] ++ [none] := rfl
  obtain ⟨passed, _, model, named, _, ⟨made, response⟩ | ⟨failing, error, made, failed, _⟩⟩ :=
    answer_of_last_completion Pattern.search? scripted {} 1 draftAndRevision "hi" [] ["one", "two"]
      answer answered
  · subst made
    refine ⟨answer, answered, response, model, (named "text" "two").mpr ⟨by decide, ?_⟩⟩
    exact ⟨[_], _, _, [], rfl, rfl, rfl, fun entry member => absurd member List.not_mem_nil⟩
  · rw [made, List.map_append] at successes
    have success : failing.processed.failure = none :=
      (List.append_singleton_inj.mp successes).2
    rw [failed] at success
    cases success

end ChatFlow
