import ChatFlow.Collaborator.Basic
import ChatFlow.Text.Alphanumeric
import ChatFlow.Text.Lowercase

/-!
# Ranking documents by terms

The terms of a text are its runs of letters and digits, without case.  A document is as good as
the number of different terms of the query that it contains; documents without any of them are
left out.  Among equally good documents the source decides, and then their position.
-/

set_option autoImplicit false

namespace ChatFlow

structure Document where
  source : String
  content : String
  deriving DecidableEq, Repr

namespace Ranking

/-- The maximal runs of letters and digits of a text; `run` holds the characters of the run that
is being read, last first. -/
def runs (run : List Char) : List Char → List (List Char)
  | [] => if run.isEmpty then [] else [run.reverse]
  | c :: rest =>
    if Text.isAlphanumeric c then runs (c :: run) rest
    else if run.isEmpty then runs [] rest
    else run.reverse :: runs [] rest

def terms (text : String) : List (List Char) :=
  ((runs [] text.toList).map Text.lowercased).eraseDups

/-- How many of the given terms a text contains. -/
def hits (queryTerms : List (List Char)) (content : String) : Nat :=
  let contentTerms := terms content
  queryTerms.countP contentTerms.contains

/-- A document with the number of terms it contains. -/
structure Rated where
  document : Document
  hits : Nat
  deriving DecidableEq, Repr

/-- Whether a document may stand before another: more hits first, then the smaller source. -/
def Rated.before (a b : Rated) : Bool :=
  b.hits < a.hits || (a.hits == b.hits && decide (a.document.source ≤ b.document.source))

/-- The documents that contain a term, best first; equal ones keep their order. -/
def ordered (queryTerms : List (List Char)) (documents : List Document) : List Rated :=
  ((documents.map fun document => (⟨document, hits queryTerms document.content⟩ : Rated)).filter
    fun rated => 0 < rated.hits).mergeSort Rated.before

/-- The best documents for a query, at most `count` of them.  The score is the share of the
query's terms. -/
def rank (query : String) (documents : List Document) (count : Nat) : List ScoredDocument :=
  let queryTerms := terms query
  ((ordered queryTerms documents).take count).map fun rated =>
    ⟨rated.document.source, rated.document.content,
      Float.ofNat rated.hits / Float.ofNat queryTerms.length⟩

end Ranking

end ChatFlow
