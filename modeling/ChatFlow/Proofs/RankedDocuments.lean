import ChatFlow.Proofs.ByteOrder
import ChatFlow.Proofs.Terms
import Mathlib.Data.List.Perm.Subperm

/-!
# The best documents for a query

There is one way to rank the documents that share a term with a query: more shared terms first, then
the smaller source, byte by byte, then the earlier position.  The sort compares neither bytes nor
positions; it keeps what is equal in order, and so comes to the same.  Whatever number of documents
is asked for, the answer is that many from the top of this ranking.
-/

set_option autoImplicit false

namespace ChatFlow.Ranking

/-- A document at a position ranks above another one. -/
def RanksAbove (query : String) (a b : Document × Nat) : Prop :=
  overlap query b.1.content < overlap query a.1.content ∨
    overlap query a.1.content = overlap query b.1.content ∧
      (Text.bytes a.1.source < Text.bytes b.1.source ∨ a.1.source = b.1.source ∧ a.2 < b.2)

/-- The documents that share a term with the query, each with its position in the list, in the order
of their ranks. -/
structure IsRanking (query : String) (documents : List Document)
    (ranked : List (Document × Nat)) : Prop where
  members : ∀ document position, (document, position) ∈ ranked ↔
    documents[position]? = some document ∧
      ∃ term, IsTerm query term ∧ IsTerm document.content term
  ordered : ranked.Pairwise (RanksAbove query)

/-- A document as it is found: its score is the share of the query's terms that it contains. -/
noncomputable def scored (query : String) (document : Document) : ScoredDocument :=
  ⟨document.source, document.content,
    Float.ofNat (overlap query document.content) / Float.ofNat (termCount query)⟩

/-! ## Ranks -/

theorem RanksAbove.asymm {query : String} {a b : Document × Nat} (above : RanksAbove query a b) :
    ¬ RanksAbove query b a := by
  rintro (more | ⟨same, smaller | ⟨source, earlier⟩⟩)
  · rcases above with more' | ⟨same', _⟩ <;> omega
  · rcases above with more' | ⟨_, smaller' | ⟨source', _⟩⟩
    · omega
    · exact lt_asymm smaller smaller'
    · exact lt_irrefl _ (source' ▸ smaller)
  · rcases above with more' | ⟨_, smaller' | ⟨_, earlier'⟩⟩
    · omega
    · exact lt_irrefl _ (source ▸ smaller')
    · omega

theorem IsRanking.nodup {query : String} {documents : List Document}
    {ranked : List (Document × Nat)} (ranking : IsRanking query documents ranked) :
    ranked.Nodup := by
  refine ranking.ordered.imp ?_
  rintro a _ above rfl
  exact above.asymm above

theorem IsRanking.unique {query : String} {documents : List Document}
    {ranked ranked' : List (Document × Nat)} (ranking : IsRanking query documents ranked)
    (ranking' : IsRanking query documents ranked') : ranked = ranked' := by
  have same : ranked.Perm ranked' := by
    rw [List.perm_ext_iff_of_nodup ranking.nodup ranking'.nodup]
    rintro ⟨document, position⟩
    rw [ranking.members, ranking'.members]
  exact same.eq_of_pairwise (fun a b _ _ above below => absurd below above.asymm)
    ranking.ordered ranking'.ordered

/-! ## The sort -/

/-- A stable sort leaves in order what it does not tell apart. -/
theorem pairwise_mergeSort_ties {α : Type} (le : α → α → Bool) {earlier : α → α → Prop}
    (trans : ∀ a b c, le a b = true → le b c = true → le a c = true)
    (total : ∀ a b, (le a b || le b a) = true) {items : List α}
    (declared : items.Pairwise earlier) :
    (items.mergeSort le).Pairwise fun a b => le a b = true ∧ (le b a = true → earlier a b) := by
  induction items with
  | nil => simp
  | cons item rest ih =>
      obtain ⟨first, later⟩ := List.pairwise_cons.mp declared
      obtain ⟨above, below, sorted, others, greater⟩ := List.mergeSort_cons trans total item rest
      have ordered := List.pairwise_mergeSort trans total (item :: rest)
      have known := ih later
      rw [sorted] at ordered ⊢
      rw [others] at known
      obtain ⟨knownAbove, knownBelow, across⟩ := List.pairwise_append.mp known
      obtain ⟨_, orderedBelow, orderedAcross⟩ := List.pairwise_append.mp ordered
      refine List.pairwise_append.mpr
        ⟨knownAbove, List.pairwise_cons.mpr ⟨fun b member => ?_, knownBelow⟩, ?_⟩
      · have inRest : b ∈ rest := by
          have inSorted : b ∈ rest.mergeSort le := by
            rw [others]
            exact List.mem_append_right above member
          exact List.mem_mergeSort.mp inSorted
        exact ⟨(List.pairwise_cons.mp orderedBelow).1 b member, fun _ => first b inRest⟩
      · intro a aboveItem b member
        refine ⟨orderedAcross a aboveItem b member, ?_⟩
        rcases List.mem_cons.mp member with rfl | member
        · intro tied
          have strict := greater a aboveItem
          rw [tied] at strict
          cases strict
        · exact (across a aboveItem b member).2

theorem Rated.before_iff (a b : Rated) :
    a.before b = true ↔
      b.hits < a.hits ∨ a.hits = b.hits ∧ a.document.source ≤ b.document.source := by
  rw [before, Bool.or_eq_true, Bool.and_eq_true, decide_eq_true_eq, decide_eq_true_eq, beq_iff_eq]

theorem Rated.before_trans (a b c : Rated) (first : a.before b = true) (second : b.before c = true) :
    a.before c = true := by
  rw [before_iff] at *
  rcases first with more | ⟨same, source⟩
  · omega
  · rcases second with more' | ⟨same', source'⟩
    · omega
    · exact .inr ⟨same.trans same', String.le_trans source source'⟩

theorem Rated.before_total (a b : Rated) : (a.before b || b.before a) = true := by
  rw [Bool.or_eq_true, before_iff, before_iff]
  rcases Nat.lt_trichotomy a.hits b.hits with less | same | more
  · exact .inr (.inl less)
  · rcases String.le_total a.document.source b.document.source with source | source
    · exact .inl (.inr ⟨same, source⟩)
    · exact .inr (.inr ⟨same.symm, source⟩)
  · exact .inl (.inl more)

/-- Documents of different sources do not tie. -/
theorem Rated.source_of_before_both {a b : Rated} (before : a.before b = true)
    (after : b.before a = true) : a.document.source = b.document.source := by
  rw [before_iff] at before after
  rcases before with more | ⟨_, smaller⟩
  · omega
  · rcases after with more | ⟨_, smaller'⟩
    · omega
    · exact String.le_antisymm smaller smaller'

/-- What the sort compares of a document: its hits and its source. -/
def rated (query : String) (document : Document) : Rated :=
  ⟨document, hits (terms query) document.content⟩

/-- The documents with hits, each with its position in the list, as the sort leaves them. -/
def sortedPlaces (query : String) (documents : List Document) : List (Document × Nat) :=
  (documents.zipIdx.filter fun place => 0 < (rated query place.1).hits).mergeSort
    fun a b => (rated query a.1).before (rated query b.1)

theorem map_sortedPlaces (query : String) (documents : List Document) :
    (sortedPlaces query documents).map (fun place => rated query place.1) =
      ordered (terms query) documents := by
  have listed : (documents.zipIdx.filter fun place => 0 < (rated query place.1).hits).map
      (fun place => rated query place.1) =
      (documents.map (rated query)).filter fun rated => 0 < rated.hits := by
    conv_rhs => rw [← List.zipIdx_map_fst 0 documents, List.map_map, List.filter_map]
    rfl
  rw [sortedPlaces, ordered, List.map_mergeSort (s := Rated.before) fun _ _ _ _ => rfl, listed]
  rfl

theorem ranksAbove_of_before {query : String} {a b : Document × Nat}
    (before : (rated query a.1).before (rated query b.1) = true)
    (tied : (rated query b.1).before (rated query a.1) = true → a.2 < b.2) :
    RanksAbove query a b := by
  simp only [Rated.before_iff, rated, hits_eq] at before tied
  rcases before with more | ⟨same, source⟩
  · exact .inl more
  · refine .inr ⟨same, ?_⟩
    by_cases equal : a.1.source = b.1.source
    · exact .inr ⟨equal, tied (.inr ⟨same.symm, equal ▸ String.le_refl _⟩)⟩
    · have smaller : a.1.source < b.1.source :=
        String.not_le.mp fun back => equal (String.le_antisymm source back)
      exact .inl ((Text.bytes_lt_iff _ _).mpr smaller)

theorem isRanking_sortedPlaces (query : String) (documents : List Document) :
    IsRanking query documents (sortedPlaces query documents) where
  members := fun document position => by
    rw [sortedPlaces, List.mem_mergeSort, List.mem_filter, List.mk_mem_zipIdx_iff_getElem?,
      decide_eq_true_eq, rated, hits_pos_iff]
  ordered := by
    have sorted := pairwise_mergeSort_ties
      (fun a b : Document × Nat => (rated query a.1).before (rated query b.1))
      (fun a b c => Rated.before_trans _ _ _) (fun a b => Rated.before_total _ _)
      ((pairwise_zipIdx documents).filter fun place => 0 < (rated query place.1).hits)
    exact sorted.imp fun {a b} order => ranksAbove_of_before order.1 order.2

theorem rank_eq (query : String) (documents : List Document) (count : Nat) :
    rank query documents count =
      ((sortedPlaces query documents).take count).map fun place => scored query place.1 := by
  simp only [rank, ← map_sortedPlaces, ← List.map_take, List.map_map, length_terms]
  refine List.map_congr_left fun place _ => ?_
  simp only [Function.comp_apply, rated, hits_eq, scored]

/-! ## The answer -/

/-- The document that was found. -/
def documentOf (answer : ScoredDocument) : Document := ⟨answer.source, answer.content⟩

theorem subperm_rank (query : String) (documents : List Document) (count : Nat) :
    ((rank query documents count).map documentOf).Subperm documents := by
  have withHits : ((documents.zipIdx.filter fun place => 0 < (rated query place.1).hits).map
      Prod.fst).Sublist documents := by
    have kept := (List.filter_sublist (l := documents.zipIdx)
      (p := fun place => 0 < (rated query place.1).hits)).map Prod.fst
    rwa [List.zipIdx_map_fst] at kept
  have sorted := (List.mergeSort_perm
    (documents.zipIdx.filter fun place => 0 < (rated query place.1).hits)
    fun a b => (rated query a.1).before (rated query b.1)).map Prod.fst
  have taken := (List.take_sublist count (sortedPlaces query documents)).map Prod.fst
  rw [rank_eq, List.map_map]
  exact (taken.subperm.trans sorted.subperm).trans withHits.subperm

/-- The documents that share a term with the query can be ranked in exactly one way, and the answer
is the top of that ranking.  So every document that is left out ranks below every one that is
returned, none is returned more often than it is there, a larger answer begins with the smaller one,
and a query without terms finds nothing. -/
theorem rank_gives_best (query : String) (documents : List Document) :
    (∃! ranked, IsRanking query documents ranked) ∧
    (∀ ranked, IsRanking query documents ranked → ∀ count,
      rank query documents count =
        (ranked.take count).map (fun place => scored query place.1) ∧
      ∀ a ∈ ranked.take count, ∀ b ∈ ranked.drop count, RanksAbove query a b) ∧
    (∀ count, ((rank query documents count).map documentOf).Subperm documents) ∧
    (∀ count, rank query documents count <+: rank query documents (count + 1)) ∧
    ((∀ term, ¬ IsTerm query term) → ∀ count, rank query documents count = []) := by
  have ranking := isRanking_sortedPlaces query documents
  refine ⟨⟨_, ranking, fun _ other => other.unique ranking⟩, fun ranked other count => ?_,
    fun count => ?_, fun count => ?_, fun nothing count => ?_⟩
  · rw [other.unique ranking, rank_eq]
    refine ⟨rfl, ?_⟩
    have split := ranking.ordered
    rw [← List.take_append_drop count (sortedPlaces query documents)] at split
    exact (List.pairwise_append.mp split).2.2
  · exact subperm_rank query documents count
  · rw [rank_eq, rank_eq]
    exact (List.take_prefix_take_left (Nat.le_succ count)).map _
  · have nobody : sortedPlaces query documents = [] := by
      refine List.eq_nil_iff_forall_not_mem.mpr fun place member => ?_
      obtain ⟨_, term, asked, _⟩ := (ranking.members place.1 place.2).mp member
      exact nothing term asked
    rw [rank_eq, nobody, List.take_nil, List.map_nil]

end ChatFlow.Ranking
