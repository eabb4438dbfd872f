import ChatFlow.Collaborator.Ranking
import ChatFlow.Files.Basic

/-!
# Retrieval by keywords

Searches the documents registered for a corpus.  A corpus without documents is searched in a
directory instead, where files ending in `.txt` and `.md` are documents.
-/

set_option autoImplicit false

namespace ChatFlow

/-- The documents of each corpus, in the order of registration. -/
structure KeywordRetriever where
  corpora : Keyed (List Document)

namespace KeywordRetriever

def empty : KeywordRetriever := ⟨[]⟩

/-- The name under which failures are reported. -/
def name : String := "keyword_retriever"

def documents (retriever : KeywordRetriever) (corpus : String) : List Document :=
  (retriever.corpora.get? corpus).getD []

def register (retriever : KeywordRetriever) (corpus : String) (document : Document) :
    KeywordRetriever :=
  ⟨retriever.corpora.put corpus (retriever.documents corpus ++ [document])⟩

/-- Whether a file holds a document, by the end of its name. -/
def isDocumentName (name : String) : Bool :=
  (Path.extension? name).any fun extension =>
    let lowered := Text.lowercase extension
    lowered == "txt" || lowered == "md"

/-- The documents of a directory in the order of their names, and what there is to report about
files that cannot be read as text.  It fails if the directory itself cannot be read. -/
def load (files : Files) (directory : String) (place : List String) :
    Except FileError (List Document × List Event) :=
  match files.list place with
  | .error e => .error e
  | .ok names =>
    let read := (names.filter isDocumentName).map fun name =>
      let path := Path.join directory name
      (path, files.readText path)
    .ok (read.filterMap fun (path, content) =>
        match content with
        | .ok content => some ⟨path, content⟩
        | .error _ => none,
      read.filterMap fun (path, content) =>
        match content with
        | .ok _ => none
        | .error e => some (.documentSkipped path e.message))

def search (retriever : KeywordRetriever) (files : Files) (query : RetrievalQuery) : Retrieval :=
  match retriever.documents query.corpus with
  | [] =>
    match files.folder? query.directory with
    | none =>
      ⟨.ok (.unavailable ("[Documents directory not found: " ++ query.directory ++ "]")), []⟩
    | some place =>
      match load files query.directory place with
      | .error e =>
        ⟨.error (.collaboratorFailed name (query.directory ++ ": " ++ e.message)), []⟩
      | .ok ([], events) =>
        ⟨.ok (.unavailable ("[No documents found at " ++ query.directory ++ "]")), events⟩
      | .ok (documents, events) =>
        ⟨.ok (.found (Ranking.rank query.query documents query.count)), events⟩
  | documents => ⟨.ok (.found (Ranking.rank query.query documents query.count)), []⟩

end KeywordRetriever

end ChatFlow
