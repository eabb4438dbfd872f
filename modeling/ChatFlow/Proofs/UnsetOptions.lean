import ChatFlow.Collaborator.Demo
import ChatFlow.Processor.Registry

/-!
# Options that are null

An option that is `null` counts as one that was not given.  There is one exception.  The value of a
condition can be given in two ways, and a `null` given in the first way reads as the empty text and
hides what was given in the second.  So deleting it makes a difference, and it does exactly if the
comparison tells the hidden value from the empty one.
-/

set_option autoImplicit false

namespace ChatFlow

/-- The node without an option. -/
def Node.without (node : Node) (name : String) : Node :=
  { node with options := node.options.erase name }

/-- The value of a condition that is given no `conditionValue`. -/
def Node.secondValue (node : Node) : String := (node.option? "value").elim "" Condition.valueText

/-- The comparison tells the value from the empty one. -/
def Comparison.Minds (value : String) : Comparison → Prop
  | .contains | .startsWith | .endsWith | .regex => value ≠ ""
  | .equals => Condition.comparable value ≠ []
  | .isYes | .isNo | .unknown _ => False

section Null

variable {World : Type} {node : Node} {name : String}

theorem Node.option?_without_self (node : Node) (name : String) :
    (node.without name).option? name = none :=
  Keyed.get?_erase_self node.options name

theorem Node.option?_without_other {key : String} (different : key ≠ name) :
    (node.without name).option? key = node.option? key :=
  Keyed.get?_erase_other node.options different

variable (null : node.option? name = some .null)
include null

theorem Node.option?_without (key : String) :
    (node.without name).option? key = node.option? key ∨
      (node.without name).option? key = none ∧ node.option? key = some .null := by
  by_cases same : key = name
  · subst same
    exact .inr ⟨node.option?_without_self key, null⟩
  · exact .inl (option?_without_other same)

theorem Node.optionText?_without (key : String) :
    (node.without name).optionText? key = node.optionText? key := by
  rcases option?_without null key with same | ⟨absent, given⟩
  · rw [optionText?, optionText?, same]
  · rw [optionText?, optionText?, absent, given]
    rfl

/-! ## Calls of the chat model -/

namespace ModelCall

theorem temperature_without (ai : Settings.Ai) :
    temperature ai (node.without name) = temperature ai node := by
  rcases Node.option?_without null "temperature" with same | ⟨absent, given⟩
  · rw [temperature, temperature, same]
  · rw [temperature, temperature, absent, given]

theorem request_without (ai : Settings.Ai) (state : State) :
    request ai state (node.without name) = request ai state node := by
  have turns : turns ai state (node.without name) = turns ai state node := by
    rw [ModelCall.turns, ModelCall.turns, systemPrompt, systemPrompt]
    simp only [Node.optionText?_without null]
  rw [request, request, temperature_without null, Node.optionText?_without null, turns]

theorem conclude_without (state : State) (asked : CompletionRequest) (elapsed : Elapsed)
    (accepted : Except NodeError Completion) (world : World) :
    conclude (node.without name) state asked elapsed accepted world =
      conclude node state asked elapsed accepted world := by
  cases accepted with
  | error error => rfl
  | ok completion =>
      have written : write state (node.without name) completion = write state node completion := by
        rw [write, write, Node.optionText?_without null]
      rw [conclude, conclude, written]
      rfl

theorem process_without (collaborators : Collaborators World) (ai : Settings.Ai) (state : State)
    (world : World) :
    process collaborators ai (node.without name) state world =
      process collaborators ai node state world := by
  simp only [process, request_without null, conclude_without null]

end ModelCall

/-! ## Looking up context -/

namespace ContextLookup

theorem count_without (retrieval : Settings.Retrieval) :
    count retrieval (node.without name) = count retrieval node := by
  rcases Node.option?_without null "topK" with same | ⟨absent, given⟩
  · rw [count, count, same]
  · rw [count, count, absent, given]

theorem query_without (retrieval : Settings.Retrieval) (state : State) :
    query retrieval state (node.without name) = query retrieval state node := by
  have corpus : corpus (node.without name) = corpus node := by
    rw [ContextLookup.corpus, ContextLookup.corpus]
    simp only [Node.optionText?_without null]
  rw [query, query, count_without null, corpus, Node.optionText?_without null]

theorem retrieve_without (collaborators : Collaborators World) (retrieval : Settings.Retrieval)
    (state : State) (world : World) :
    retrieve collaborators retrieval (node.without name) state world =
      retrieve collaborators retrieval node state world := by
  rw [retrieve, retrieve, query_without null]
  rfl

theorem readSheet_without (collaborators : Collaborators World)
    (spreadsheet : Settings.Spreadsheet) (state : State) (world : World) :
    readSheet collaborators spreadsheet (node.without name) state world =
      readSheet collaborators spreadsheet node state world := by
  have query : sheetQuery spreadsheet (node.without name) = sheetQuery spreadsheet node := by
    rw [sheetQuery, sheetQuery]
    simp only [Node.optionText?_without null]
  rw [readSheet, readSheet, query]
  rfl

end ContextLookup

/-! ## Conditions -/

namespace Condition

/-- Without the option the condition is the same, unless the option hid another value. -/
theorem ofNode_without :
    ofNode (node.without name) =
      if name = "conditionValue" then { ofNode node with value := node.secondValue }
      else ofNode node := by
  simp only [ofNode, Node.optionText?_without null]
  split
  · rename_i first
    subst first
    rw [node.option?_without_self, Node.option?_without_other (by decide)]
    rfl
  · rename_i other
    rw [Node.option?_without_other (Ne.symm other)]
    rcases Node.option?_without null "value" with same | ⟨absent, given⟩
    · rw [same]
    · rw [absent, given]
      cases node.option? "conditionValue" <;> rfl

omit null in
theorem value_of_null (null : node.option? "conditionValue" = some .null) :
    (ofNode node).value = "" := by
  simp only [ofNode, null]
  rfl

end Condition

end Null

namespace Condition

/-- A comparison that does not mind the value comes to the same result with the empty one, and it
is not that of a malformed pattern. -/
theorem evaluateWith_unminded (search? : PatternSearch) {condition : Condition}
    (empty : condition.value = "") {value : String} (given : value ≠ "")
    (unminded : ¬ condition.comparison.Minds value) (subject : String) :
    ∃ result, condition.evaluateWith search? subject = some result ∧
      { condition with value := value }.evaluateWith search? subject = some result := by
  obtain ⟨comparison, field, _⟩ := condition
  subst empty
  cases comparison with
  | contains | startsWith | endsWith | regex => exact absurd given unminded
  | isYes | isNo | unknown => exact ⟨_, rfl, rfl⟩
  | equals =>
      have blank : comparable value = comparable "" := Decidable.not_not.mp unminded
      exact ⟨_, rfl, by simp only [evaluateWith, blank]⟩

/-- A comparison that minds the value holds of the value itself, and not with the empty value. -/
theorem evaluateWith_minded {search? : PatternSearch} {condition : Condition}
    (empty : condition.value = "") {value : String} (minded : condition.comparison.Minds value)
    (found : condition.comparison = .regex → search? value value = some true) :
    condition.evaluateWith search? value = some false ∧
      { condition with value := value }.evaluateWith search? value = some true := by
  obtain ⟨comparison, field, _⟩ := condition
  subst empty
  cases comparison with
  | contains =>
      refine ⟨rfl, ?_⟩
      have itself := Text.occurs_iff.mpr (List.infix_refl (Text.lowercased value.toList))
      have given : value ≠ "" := minded
      simp [evaluateWith, given, itself]
  | startsWith =>
      have given : value ≠ "" := minded
      exact ⟨rfl, by simp [evaluateWith, given]⟩
  | endsWith =>
      have given : value ≠ "" := minded
      exact ⟨rfl, by simp [evaluateWith, given]⟩
  | regex =>
      have given : value ≠ "" := minded
      exact ⟨rfl, by simp [evaluateWith, given, found rfl]⟩
  | equals =>
      have visible : comparable value ≠ comparable "" := minded
      exact ⟨by simp only [evaluateWith, visible, decide_false], by simp [evaluateWith]⟩
  | isYes | isNo | unknown => exact minded.elim

end Condition

namespace Branching

variable {World : Type} {node : Node} {name : String}

theorem recorded_process (search? : PatternSearch) (node : Node) (state : State) (world : World) :
    (process search? node state world).state.conditionResults.get? node.id =
      some (((Condition.ofNode node).evaluateWith search?
        ((Condition.ofNode node).field.resolve state)).getD false) :=
  Keyed.get?_put_self _ _ _

theorem process_without_unminded (search? : PatternSearch)
    (null : node.option? name = some .null)
    (unminded : name = "conditionValue" →
      ¬ (Condition.ofNode node).comparison.Minds node.secondValue)
    (state : State) (world : World) :
    process search? (node.without name) state world = process search? node state world := by
  have condition := Condition.ofNode_without null
  by_cases first : name = "conditionValue"
  · rw [if_pos first] at condition
    subst first
    have empty := Condition.value_of_null null
    by_cases given : node.secondValue = ""
    · have same : Condition.ofNode (node.without "conditionValue") = Condition.ofNode node := by
        rw [condition, given, ← empty]
      rw [process, process, same]
      rfl
    · obtain ⟨result, before, after⟩ := Condition.evaluateWith_unminded search? empty given
        (unminded rfl) ((Condition.ofNode node).field.resolve state)
      rw [process, process, condition]
      simp only [before, after]
      rfl
  · rw [if_neg first] at condition
    rw [process, process, condition]
    rfl

end Branching

/-- Deleting an option that is `null` changes nothing about the work of a node, unless the node is
conditional, the option is its `conditionValue`, and its comparison tells the value that is given as
`value` from the empty one.  In that case there are states in which the condition does not hold with
the option and does without it. -/
theorem null_is_unset_unless_it_hides {World : Type} (kind : NodeKind) (node : Node)
    (name : String) (null : node.option? name = some .null) (collaborators : Collaborators World)
    (settings : Settings) (search? : PatternSearch) (world : World) :
    let work := (Registry.processorOf search? collaborators settings kind).process
    let hides := kind = .conditional ∧ name = "conditionValue" ∧
      (Condition.ofNode node).comparison.Minds node.secondValue
    (¬ hides → ∀ state, work (node.without name) state world = work node state world) ∧
    (hides → ((Condition.ofNode node).comparison = .regex →
        search? node.secondValue node.secondValue = some true) →
      ∃ state,
        (work node state world).state.conditionResults.get? node.id = some false ∧
        (work (node.without name) state world).state.conditionResults.get? node.id =
          some true) := by
  intro work hides
  refine ⟨fun shown state => ?_, ?_⟩
  · cases kind with
    | input modality => cases modality <;> rfl
    | output modality => cases modality <;> rfl
    | aiCall => exact ModelCall.process_without null collaborators settings.ai state world
    | retrieval => exact ContextLookup.retrieve_without null collaborators settings.retrieval _ _
    | spreadsheet =>
        exact ContextLookup.readSheet_without null collaborators settings.spreadsheet _ _
    | conditional =>
        exact Branching.process_without_unminded search? null
          (fun first minded => shown ⟨rfl, first, minded⟩) state world
  · rintro ⟨rfl, rfl, minded⟩ found
    -- whatever the field is, in this state it stands for the hidden value
    let state : State := { State.start node.secondValue [] with response := node.secondValue }
    have subject : ∀ field : Field, field.resolve state = node.secondValue := by
      intro field
      cases field <;> rfl
    obtain ⟨before, after⟩ :=
      Condition.evaluateWith_minded (Condition.value_of_null null) minded found
    have condition := Condition.ofNode_without null
    rw [if_pos rfl] at condition
    refine ⟨state, ?_, ?_⟩
    · refine (Branching.recorded_process search? node state world).trans ?_
      rw [subject, before, Option.getD_some]
    · refine (Branching.recorded_process search? (node.without "conditionValue") state
        world).trans ?_
      rw [condition, subject, after, Option.getD_some]

/-- A model whose temperature was cleared. -/
def clearedModel : Node :=
  ⟨"llm", .aiCall, [("temperature", .null), ("modelName", .string "gpt-4o")], [], []⟩

/-- A condition that is given its value as `value`, after its `conditionValue` was cleared. -/
def clearedCondition : Node :=
  ⟨"check", .conditional, [("conditionValue", .null), ("value", .string "refund")], [], []⟩

theorem clearedModel_answers :
    clearedModel.option? "temperature" = some .null ∧
      ((Registry.processorOf Pattern.search? (Demo.collaborators .empty (Files.empty [])) {}
        .aiCall).process (clearedModel.without "temperature") (State.start "hi" [])
          ()).state.response = "[Demo Mode - No API Key] Received: hi" := by
  have null : clearedModel.option? "temperature" = some .null := rfl
  obtain ⟨unset, _⟩ := null_is_unset_unless_it_hides .aiCall clearedModel "temperature" null
    (Demo.collaborators .empty (Files.empty [])) {} Pattern.search? ()
  have same := unset (by rintro ⟨kind, _⟩; cases kind) (State.start "hi" [])
  rw [same]
  exact ⟨null, rfl⟩

/-- The same answer is no refund with the cleared option and one without it. -/
theorem null_hides_refund :
    let state : State := { State.start "hi" [] with response := "Refund, please" }
    let work := (Registry.processorOf Pattern.search? (Demo.collaborators .empty (Files.empty []))
      {} .conditional).process
    clearedCondition.option? "conditionValue" = some .null ∧
      (work clearedCondition state ()).state.conditionResults = [("check", false)] ∧
      (work (clearedCondition.without "conditionValue") state ()).state.conditionResults =
        [("check", true)] := by
  refine ⟨rfl, by decide +kernel, by decide +kernel⟩

end ChatFlow
