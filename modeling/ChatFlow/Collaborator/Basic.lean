import ChatFlow.Conversation.State
import ChatFlow.Log.Event
import ChatFlow.Text.Blank

/-!
# Collaborators

The services that nodes turn to: a chat model, a retriever of documents and a reader of sheets.
What they are asked and what they answer is data.  Whatever else they depend on or change is a
value of an arbitrary type, the world, which is handed from call to call.
-/

set_option autoImplicit false

namespace ChatFlow

/-- Why a node could not do its work. -/
inductive NodeError
  | collaboratorFailed (collaborator reason : String)
  | timedOut (collaborator : String) (limit : Elapsed)
  | malformedResponse (collaborator reason : String)
  | invalidOption (option reason : String)
  deriving DecidableEq, Repr

def NodeError.message : NodeError → String
  | .collaboratorFailed collaborator reason => collaborator ++ " failed: " ++ reason
  | .timedOut collaborator limit => collaborator ++ " timed out after " ++ limit.text
  | .malformedResponse collaborator reason =>
    collaborator ++ " returned a malformed response: " ++ reason
  | .invalidOption option reason => "Invalid option '" ++ option ++ "': " ++ reason

/-- What a chat model is asked.  `query` is the user's message alone; the turns may carry more. -/
structure CompletionRequest where
  model : String
  temperature : Float
  turns : List Turn
  query : String

/-- What a chat model answers, and which model it was. -/
structure Completion where
  content : String
  model : String
  deriving DecidableEq, Repr

/-- The answer of a chat model and the time it took. -/
structure Reply where
  result : Except NodeError Completion
  delay : Elapsed := .zero

/-- What a retriever is asked: at most `count` documents of a corpus, or of a directory. -/
structure RetrievalQuery where
  query : String
  corpus : String
  directory : String
  count : Nat
  deriving DecidableEq, Repr

/-- A document that was found, with the place it comes from. -/
structure ScoredDocument where
  source : String
  content : String
  score : Float

/-- What a search comes to: documents, the best first, or a marker that says why there could be
no search. -/
inductive Retrieved
  | found (documents : List ScoredDocument)
  | unavailable (marker : String)

/-- The answer of a retriever, and what it had to report. -/
structure Retrieval where
  result : Except NodeError Retrieved
  events : List Event := []

structure SheetQuery where
  spreadsheet : Option String
  sheet : String
  deriving DecidableEq, Repr

/-- A call of a collaborator, as the collaborator sees it. -/
inductive Call
  | chat (request : CompletionRequest)
  | retrieve (query : RetrievalQuery)
  | sheet (query : SheetQuery)

structure Collaborators (World : Type) where
  chatName : String
  complete : CompletionRequest → World → Reply × World
  retrieverName : String
  retrieve : RetrievalQuery → World → Retrieval × World
  sheetsName : String
  readSheet : SheetQuery → World → Except NodeError ContextSlot × World

end ChatFlow
