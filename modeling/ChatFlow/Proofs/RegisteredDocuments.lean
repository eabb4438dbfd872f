import ChatFlow.Collaborator.Keyword
import ChatFlow.Proofs.RankedDocuments

/-!
# Searching what was registered

The documents of a corpus are those registered for it, whatever was registered for others in
between.  If their sources differ, no two of them tie, and so the order in which they came does not
show in an answer.  Of the query only its terms count, and of the files only what is in the
directory.
-/

set_option autoImplicit false

namespace ChatFlow

namespace Ranking

/-! ## Queries with the same terms -/

section SameTerms

variable {query other : String} (same : ∀ term, IsTerm query term ↔ IsTerm other term)
include same

theorem overlap_of_same_terms (content : String) : overlap query content = overlap other content := by
  simp only [overlap, same]

theorem rank_of_same_terms (documents : List Document) (count : Nat) :
    rank query documents count = rank other documents count := by
  have rated : rated query = rated other := by
    funext document
    rw [rated, Ranking.rated, hits_eq, hits_eq, overlap_of_same_terms same]
  have scored : scored query = scored other := by
    funext document
    rw [scored, Ranking.scored, overlap_of_same_terms same]
    simp only [termCount, same]
  rw [rank_eq, rank_eq, sortedPlaces, sortedPlaces, rated, scored]

end SameTerms

/-! ## Documents in another order -/

theorem mem_ordered {queryTerms : List (List Char)} {documents : List Document} {rated : Rated}
    (member : rated ∈ ordered queryTerms documents) :
    ∃ document ∈ documents, rated = ⟨document, hits queryTerms document.content⟩ := by
  rw [ordered, List.mem_mergeSort] at member
  obtain ⟨document, present, rfl⟩ := List.mem_map.mp (List.mem_filter.mp member).1
  exact ⟨document, present, rfl⟩

theorem ordered_of_perm (queryTerms : List (List Char)) {documents others : List Document}
    (same : documents.Perm others) (distinct : (documents.map Document.source).Nodup) :
    ordered queryTerms documents = ordered queryTerms others := by
  have sorted : ∀ documents, (ordered queryTerms documents).Pairwise
      fun a b => a.before b = true := fun _ =>
    List.pairwise_mergeSort Rated.before_trans Rated.before_total _
  have rearranged : (ordered queryTerms documents).Perm (ordered queryTerms others) :=
    (List.mergeSort_perm _ _).trans
      (((same.map _).filter _).trans (List.mergeSort_perm _ _).symm)
  refine rearranged.eq_of_pairwise (fun a b here there before after => ?_) (sorted _) (sorted _)
  -- rated documents that tie have one source, and so are one document
  obtain ⟨document, present, rfl⟩ := mem_ordered here
  obtain ⟨document', present', rfl⟩ := mem_ordered there
  have source : document.source = document'.source := Rated.source_of_before_both before after
  have one := List.inj_on_of_nodup_map distinct present (same.mem_iff.mpr present') source
  rw [one]

theorem rank_of_perm (query : String) {documents others : List Document}
    (same : documents.Perm others) (distinct : (documents.map Document.source).Nodup)
    (count : Nat) : rank query documents count = rank query others count := by
  simp only [rank, ordered_of_perm (terms query) same distinct]

end Ranking

namespace KeywordRetriever

/-! ## Registrations -/

/-- The retriever after some registrations, each of a document for a corpus. -/
def ofRegistrations (registrations : List (String × Document)) : KeywordRetriever :=
  registrations.foldl (fun retriever entry => retriever.register entry.1 entry.2) empty

/-- What is registered for a corpus, in order. -/
def registeredFor (corpus : String) (registrations : List (String × Document)) : List Document :=
  (registrations.filter fun entry => entry.1 = corpus).map (·.2)

theorem documents_register (retriever : KeywordRetriever) (corpus : String)
    (entry : String × Document) :
    (retriever.register entry.1 entry.2).documents corpus =
      retriever.documents corpus ++ registeredFor corpus [entry] := by
  by_cases same : entry.1 = corpus
  · subst same
    simp [documents, register, registeredFor, Keyed.get?_put_self]
  · simp [documents, register, registeredFor, Keyed.get?_put_other _ _ (Ne.symm same), same]

theorem documents_ofRegistrations (corpus : String) (registrations : List (String × Document)) :
    (ofRegistrations registrations).documents corpus = registeredFor corpus registrations := by
  suffices after : ∀ retriever : KeywordRetriever,
      (registrations.foldl (fun retriever entry => retriever.register entry.1 entry.2)
        retriever).documents corpus =
        retriever.documents corpus ++ registeredFor corpus registrations from after empty
  induction registrations with
  | nil => simp [registeredFor]
  | cons entry rest ih =>
      intro retriever
      rw [List.foldl_cons, ih, documents_register, List.append_assoc, registeredFor, registeredFor,
        registeredFor, ← List.map_append, ← List.filter_append, List.singleton_append]

/-! ## Searches -/

theorem load_eq_error (files : Files) (directory : String) (place : List String)
    (reason : FileError) :
    load files directory place = .error reason ↔ files.list place = .error reason := by
  rw [load]
  cases files.list place with
  | error other => simp
  | ok names => simp

/-- A search fails only if it needs a directory that cannot be read, and it says which. -/
theorem search_fails_iff (retriever : KeywordRetriever) (files : Files) (query : RetrievalQuery)
    (error : NodeError) :
    (retriever.search files query).result = .error error ↔
      retriever.documents query.corpus = [] ∧ ∃ place reason,
        files.folder? query.directory = some place ∧ files.list place = .error reason ∧
        error = .collaboratorFailed name (query.directory ++ ": " ++ reason.message) := by
  rw [search]
  cases retriever.documents query.corpus with
  | cons _ _ => simp
  | nil =>
      cases files.folder? query.directory with
      | none => simp
      | some place =>
          have failed := load_eq_error files query.directory place
          cases loaded : load files query.directory place with
          | error reason =>
              simp [loaded, (failed reason).mp loaded, eq_comm]
          | ok found =>
              have readable : ∀ reason, files.list place ≠ .error reason := by
                intro reason unreadable
                cases loaded.symm.trans ((failed reason).mpr unreadable)
              obtain ⟨documents, events⟩ := found
              cases documents <;> simp [loaded, readable]

/-- A directory is there in both trees of files or in neither, it can be read in both or fails in
the same way, and it holds files of the same names and contents. -/
structure SameDirectory (files other : Files) (directory : String) : Prop where
  names : (files.folder? directory).map files.list = (other.folder? directory).map other.list
  contents : ∀ place names, files.folder? directory = some place →
    files.list place = .ok names → ∀ name ∈ names,
    files.readText (Path.join directory name) = other.readText (Path.join directory name)

theorem load_of_same_names {files other : Files} (directory : String) {place place' : List String}
    (same : files.list place = other.list place')
    (contents : ∀ names, files.list place = .ok names → ∀ name ∈ names,
      files.readText (Path.join directory name) = other.readText (Path.join directory name)) :
    load files directory place = load other directory place' := by
  rw [load, load, ← same]
  cases listed : files.list place with
  | error e => rfl
  | ok names =>
      have read : ((names.filter isDocumentName).map fun name =>
            (Path.join directory name, files.readText (Path.join directory name))) =
          (names.filter isDocumentName).map fun name =>
            (Path.join directory name, other.readText (Path.join directory name)) := by
        refine List.map_congr_left fun name member => ?_
        rw [contents names listed name (List.mem_of_mem_filter member)]
      simp only [read]

theorem search_of_same_directory (retriever : KeywordRetriever) {files other : Files}
    {query : RetrievalQuery} (same : SameDirectory files other query.directory) :
    retriever.search files query = retriever.search other query := by
  rw [search, search]
  cases retriever.documents query.corpus with
  | cons _ _ => rfl
  | nil =>
      have names := same.names
      cases here : files.folder? query.directory with
      | none =>
          rw [here] at names
          rw [Option.map_eq_none_iff.mp names.symm]
      | some place =>
          rw [here] at names
          obtain ⟨place', there, names⟩ := Option.map_eq_some_iff.mp names.symm
          have loaded := load_of_same_names query.directory names.symm fun names listed =>
            same.contents place names here listed
          simp only [there, loaded]

theorem search_of_same_terms (retriever : KeywordRetriever) (files : Files) {query : RetrievalQuery}
    {text : String} (same : ∀ term, Ranking.IsTerm query.query term ↔ Ranking.IsTerm text term) :
    retriever.search files query = retriever.search files { query with query := text } := by
  simp only [search, Ranking.rank_of_same_terms same]

theorem search_of_perm {retriever other : KeywordRetriever} (files : Files) {query : RetrievalQuery}
    (same : (retriever.documents query.corpus).Perm (other.documents query.corpus))
    (distinct : ((retriever.documents query.corpus).map Document.source).Nodup) :
    retriever.search files query = other.search files query := by
  rw [search, search]
  cases here : retriever.documents query.corpus with
  | nil =>
      rw [here, List.nil_perm] at same
      rw [same]
  | cons first rest =>
      rw [here] at same distinct
      cases there : other.documents query.corpus with
      | nil =>
          rw [there] at same
          cases same.eq_nil
      | cons first' rest' =>
          rw [there] at same
          simp only [Ranking.rank_of_perm query.query same distinct]

/-- If the same documents are registered for the corpus of a query, of different sources, a search
has the same outcome in whatever order they came and whatever was registered for other corpora.  It
also has the same outcome for any other query with the same terms.  Of the files only what is in the
directory of the query tells. -/
theorem search_ignores_order_and_other_corpora {registrations others : List (String × Document)}
    {query : RetrievalQuery} {files files' : Files}
    (directory : SameDirectory files files' query.directory) :
    ((registeredFor query.corpus registrations).Perm (registeredFor query.corpus others) →
      ((registeredFor query.corpus registrations).map Document.source).Nodup →
      (ofRegistrations registrations).search files query =
        (ofRegistrations others).search files' query) ∧
    ∀ text, (∀ term, Ranking.IsTerm query.query term ↔ Ranking.IsTerm text term) →
      (ofRegistrations registrations).search files query =
        (ofRegistrations registrations).search files' { query with query := text } := by
  constructor
  · intro same distinct
    rw [← documents_ofRegistrations, ← documents_ofRegistrations] at same
    rw [← documents_ofRegistrations] at distinct
    exact (search_of_perm files same distinct).trans (search_of_same_directory _ directory)
  · intro text terms
    exact (search_of_same_directory _ directory).trans (search_of_same_terms _ files' terms)

/-- Documents of a shop, with one of a blog in between. -/
def shopDocuments : List (String × Document) :=
  [("shop", ⟨"refunds.txt", "Refunds are our policy."⟩), ("blog", ⟨"news.md", "A refund!"⟩),
    ("shop", ⟨"privacy.txt", "The privacy policy"⟩)]

/-- The documents of the shop the other way around. -/
def shopDocumentsReversed : List (String × Document) :=
  [("shop", ⟨"privacy.txt", "The privacy policy"⟩),
    ("shop", ⟨"refunds.txt", "Refunds are our policy."⟩)]

def refundQuery : RetrievalQuery := ⟨"refund policy", "shop", "docs", 1⟩

theorem shop_search_is_one :
    let other := "Policy, refund (policy)!"
    SameDirectory (.empty []) (.empty ["home"]) refundQuery.directory ∧
    (registeredFor "shop" shopDocuments).Perm (registeredFor "shop" shopDocumentsReversed) ∧
    ((registeredFor "shop" shopDocuments).map Document.source).Nodup ∧
    (∀ term, Ranking.IsTerm refundQuery.query term ↔ Ranking.IsTerm other term) ∧
    (ofRegistrations shopDocuments).search (.empty []) refundQuery =
      (ofRegistrations shopDocumentsReversed).search (.empty ["home"]) refundQuery ∧
    (ofRegistrations shopDocuments).search (.empty []) refundQuery =
      (ofRegistrations shopDocuments).search (.empty ["home"])
        { refundQuery with query := other } := by
  intro other
  have missing : (Files.empty []).folder? "docs" = none := by decide +kernel
  have missing' : (Files.empty ["home"]).folder? "docs" = none := by decide +kernel
  have directory : SameDirectory (.empty []) (.empty ["home"]) "docs" := {
    names := by rw [missing, missing']; rfl
    contents := fun _ _ found => absurd (missing.symm.trans found) (Option.some_ne_none _).symm }
  have same : (registeredFor "shop" shopDocuments).Perm
      (registeredFor "shop" shopDocumentsReversed) := by decide
  have distinct : ((registeredFor "shop" shopDocuments).map Document.source).Nodup := by decide
  have terms : ∀ term, Ranking.IsTerm "refund policy" term ↔ Ranking.IsTerm other term := by
    have asked : Ranking.terms "refund policy" = ["refund".toList, "policy".toList] := by
      decide +kernel
    have asked' : Ranking.terms other = ["policy".toList, "refund".toList] := by decide +kernel
    intro term
    rw [← Ranking.mem_terms, ← Ranking.mem_terms, asked, asked']
    exact (List.Perm.swap _ _ _).mem_iff
  obtain ⟨reordered, asked⟩ := @search_ignores_order_and_other_corpora
    shopDocuments shopDocumentsReversed refundQuery _ _ directory
  exact ⟨directory, same, distinct, terms, reordered same distinct, asked other terms⟩

end KeywordRetriever

end ChatFlow
