import ChatFlow.Processor.Branching
import ChatFlow.Processor.ContextLookup
import ChatFlow.Processor.ModelCall

/-!
# The processors of a responder

One processor for each registered kind of node.
-/

set_option autoImplicit false

namespace ChatFlow

/-- Processors by kind; no kind occurs twice. -/
@[ext]
structure Registry (World : Type) where
  entries : List (NodeKind × Processor World)
  distinct : (entries.map Prod.fst).Nodup

namespace Registry

variable {World : Type}

def empty : Registry World := ⟨[], List.nodup_nil⟩

def get? (registry : Registry World) (kind : NodeKind) : Option (Processor World) :=
  (registry.entries.find? (fun entry => entry.1 = kind)).map (·.2)

/-- Registers a processor, in place of the one that the kind may have. -/
def insert (registry : Registry World) (kind : NodeKind) (processor : Processor World) :
    Registry World where
  entries := registry.entries.filter (fun entry => entry.1 ≠ kind) ++ [(kind, processor)]
  distinct := by
    rw [List.map_append, List.nodup_append]
    refine ⟨registry.distinct.sublist (List.filter_sublist.map Prod.fst), ?_, ?_⟩
    · exact List.pairwise_singleton _ kind
    · intro other member last present
      obtain ⟨entry, kept, rfl⟩ := List.mem_map.mp member
      rw [List.map_singleton, List.mem_singleton] at present
      subst present
      simpa using (List.mem_filter.mp kept).2

def contains (registry : Registry World) (kind : NodeKind) : Bool := (registry.get? kind).isSome

def size (registry : Registry World) : Nat := registry.entries.length

def isEmpty (registry : Registry World) : Bool := registry.entries.isEmpty

/-- The kinds that have a processor, in the order of listings. -/
def kinds (registry : Registry World) : List NodeKind := NodeKind.all.filter registry.contains

/-- A registry with these processors; of two for one kind the later counts. -/
def ofList (entries : List (NodeKind × Processor World)) : Registry World :=
  entries.foldl (fun registry entry => registry.insert entry.1 entry.2) empty

def toList (registry : Registry World) : List (NodeKind × Processor World) := registry.entries

/-- One line that tells the number of processors and the tags of their kinds in byte order. -/
def text (registry : Registry World) : String :=
  let tags := (registry.entries.map (·.1.tag)).mergeSort (fun a b => decide (a ≤ b))
  "ProcessorMap \x7b processor_count: " ++ toString registry.size ++ ", kinds: [" ++
    Text.joined ", " (tags.map Json.quoted) ++ "] \x7d"

theorem get?_insert_self (registry : Registry World) (kind : NodeKind)
    (processor : Processor World) :
    (registry.insert kind processor).get? kind = some processor := by
  have absent : registry.entries.find? (fun _ => false) = none := by simp
  simp [get?, insert, List.find?_append, List.find?_filter, absent]

theorem get?_insert_other (registry : Registry World) {kind other : NodeKind}
    (processor : Processor World) (different : other ≠ kind) :
    (registry.insert kind processor).get? other = registry.get? other := by
  have kept : ∀ entry : NodeKind × Processor World,
      (entry.1 ≠ kind ∧ entry.1 = other) ↔ entry.1 = other := by
    intro entry
    exact ⟨And.right, fun here => ⟨here ▸ different, here⟩⟩
  simp [get?, insert, List.find?_append, List.find?_filter, kept, Ne.symm different]

/-- Of two processors for one kind the later counts. -/
theorem get?_ofList (entries : List (NodeKind × Processor World)) (kind : NodeKind) :
    (ofList entries).get? kind =
      (entries.reverse.find? (fun entry => entry.1 = kind)).map (·.2) := by
  suffices later : ∀ registry : Registry World,
      (entries.foldl (fun registry entry => registry.insert entry.1 entry.2) registry).get? kind =
        ((entries.reverse.find? (fun entry => entry.1 = kind)).map (·.2)).or
          (registry.get? kind) by
    rw [ofList, later]
    simp [empty, get?]
  induction entries with
  | nil => simp
  | cons entry rest ih =>
    intro registry
    rw [List.foldl_cons, ih, List.reverse_cons, List.find?_append, Option.map_or, Option.or_assoc]
    by_cases same : entry.1 = kind
    · rw [← same, get?_insert_self]
      simp
    · rw [get?_insert_other _ _ (Ne.symm same)]
      simp [same]

/-- A registry with a processor for every kind. -/
def forEvery (work : NodeKind → Processor World) : Registry World :=
  ofList (NodeKind.all.map fun kind => (kind, work kind))

theorem get?_forEvery (work : NodeKind → Processor World) (kind : NodeKind) :
    (forEvery work).get? kind = some (work kind) := by
  have place : NodeKind.all.reverse.find? (fun other => other = kind) = some kind := by
    rcases kind with (_ | _) | _ | _ | _ | _ | (_ | _) <;> rfl
  rw [forEvery, get?_ofList, ← List.map_reverse, List.find?_map, Function.comp_def]
  simp only [place, Option.map_some]

/-- The ends of the conversation need no work: the message is in the state before the walk
starts, and the response is read from it when the walk ends. -/
def passing (name : String) : Processor World :=
  ⟨name, fun _ state world => .done state .empty world, fun _ state _ => .refl state⟩

/-- The processor that does the work of a kind itself. -/
def processorOf (search? : PatternSearch) (collaborators : Collaborators World)
    (settings : Settings) : NodeKind → Processor World
  | .input .text => passing "text_input"
  | .input .voice => passing "voice_input"
  | .output .text => passing "text_output"
  | .output .voice => passing "voice_output"
  | .aiCall =>
    ⟨"ai_call", ModelCall.process collaborators settings.ai,
      ModelCall.process_keeps collaborators settings.ai⟩
  | .retrieval =>
    ⟨"retrieval", ContextLookup.retrieve collaborators settings.retrieval,
      ContextLookup.retrieve_keeps collaborators settings.retrieval⟩
  | .spreadsheet =>
    ⟨"spreadsheet", ContextLookup.readSheet collaborators settings.spreadsheet,
      ContextLookup.readSheet_keeps collaborators settings.spreadsheet⟩
  | .conditional => ⟨"conditional", Branching.process search?, Branching.process_keeps search?⟩

/-- The registry in which every kind has its own processor. -/
def completeWith (search? : PatternSearch) (collaborators : Collaborators World)
    (settings : Settings) : Registry World :=
  forEvery (processorOf search? collaborators settings)

theorem get?_completeWith (search? : PatternSearch) (collaborators : Collaborators World)
    (settings : Settings) (kind : NodeKind) :
    (completeWith search? collaborators settings).get? kind =
      some (processorOf search? collaborators settings kind) :=
  get?_forEvery _ kind

/-- `completeWith` for the patterns of the pattern language. -/
def complete (collaborators : Collaborators World) (settings : Settings) : Registry World :=
  completeWith Pattern.search? collaborators settings

end Registry

end ChatFlow
