import ChatFlow.Collaborator.Keyword

/-!
# Collaborators for demonstrations

They need no credentials: the chat model repeats the message, every sheet has the same two rows,
and documents are searched by keywords.
-/

set_option autoImplicit false

namespace ChatFlow.Demo

/-- The model that the demonstration model says it is. -/
def modelName : String := "mock"

def complete (request : CompletionRequest) : Completion :=
  ⟨"[Demo Mode - No API Key] Received: " ++ request.query, modelName⟩

/-- The same two rows for every sheet. -/
def readSheet (query : SheetQuery) : ContextSlot :=
  .available ("[Demo] Data from " ++ query.sheet ++ ": Sample row 1, Sample row 2")

/-- The demonstration services over a tree of files; they change nothing in the world. -/
def collaborators {World : Type} (retriever : KeywordRetriever) (files : Files) :
    Collaborators World where
  chatName := "demo_chat"
  complete := fun request world => (⟨.ok (complete request), .zero⟩, world)
  retrieverName := KeywordRetriever.name
  retrieve := fun query world => (retriever.search files query, world)
  sheetsName := "demo_sheets"
  readSheet := fun query world => (.ok (readSheet query), world)

end ChatFlow.Demo
