import ChatFlow.Collaborator.Ranking
import ChatFlow.Proofs.Repetitions
import Mathlib.Data.Set.Card

/-!
# The terms of a text

A term is what a maximal run of letters and digits becomes without case.  The reader of runs finds
these and nothing else, each term is listed once, and the number of hits is the number of terms that
a query and a text have in common.
-/

set_option autoImplicit false

namespace ChatFlow.Ranking

/-- A stretch of letters and digits between two parts of a text, neither of which could lengthen
it. -/
structure MaximalBetween (before run after : List Char) : Prop where
  nonempty : run ≠ []
  inside : ∀ c ∈ run, Text.isAlphanumeric c = true
  left : ∀ c ∈ before.getLast?, Text.isAlphanumeric c = false
  right : ∀ c ∈ after.head?, Text.isAlphanumeric c = false

/-- The run is a maximal run of letters and digits of the text. -/
def IsRun (text run : List Char) : Prop :=
  ∃ before after, text = before ++ (run ++ after) ∧ MaximalBetween before run after

/-- The term is one of the maximal runs of the text, lowercased. -/
def IsTerm (text : String) (term : List Char) : Prop :=
  ∃ run, IsRun text.toList run ∧ Text.lowercased run = term

/-- How many different terms a query has. -/
noncomputable def termCount (query : String) : Nat := {term | IsTerm query term}.ncard

/-- How many different terms of a query a text contains. -/
noncomputable def overlap (query content : String) : Nat :=
  {term | IsTerm query term ∧ IsTerm content term}.ncard

/-! ## Runs -/

theorem not_isRun_nil (run : List Char) : ¬ IsRun [] run := by
  rintro ⟨before, after, split, maximal⟩
  simp only [List.nil_eq, List.append_eq_nil_iff] at split
  exact maximal.nonempty split.2.1

/-- A character that is no letter and no digit belongs to no run. -/
theorem isRun_cons {c : Char} (apart : Text.isAlphanumeric c = false) (rest run : List Char) :
    IsRun (c :: rest) run ↔ IsRun rest run := by
  constructor
  · rintro ⟨before, after, split, maximal⟩
    cases before with
    | nil =>
        obtain ⟨first, more, rfl⟩ := List.exists_cons_of_ne_nil maximal.nonempty
        obtain ⟨rfl, _⟩ := List.cons.inj split
        rw [maximal.inside c List.mem_cons_self] at apart
        cases apart
    | cons first before =>
        obtain ⟨rfl, rfl⟩ := List.cons.inj split
        refine ⟨before, after, rfl, { maximal with left := fun d last => maximal.left d ?_ }⟩
        exact List.mem_getLast?_cons last
  · rintro ⟨before, after, rfl, maximal⟩
    refine ⟨c :: before, after, rfl, { maximal with left := fun d last => ?_ }⟩
    rw [List.getLast?_cons, Option.mem_some_iff] at last
    cases beside : before.getLast? with
    | none =>
        rw [beside, Option.getD_none] at last
        exact last ▸ apart
    | some d' =>
        rw [beside, Option.getD_some] at last
        exact last ▸ maximal.left d' beside

/-- A word of letters and digits at the start of a text is a run if the text does not go on with
another of them. -/
theorem isRun_append {word rest : List Char} (letters : ∀ c ∈ word, Text.isAlphanumeric c = true)
    (ends : ∀ c ∈ rest.head?, Text.isAlphanumeric c = false) (run : List Char) :
    IsRun (word ++ rest) run ↔ (word ≠ [] ∧ run = word) ∨ IsRun rest run := by
  have notBoth : ∀ {c}, Text.isAlphanumeric c = true → Text.isAlphanumeric c = false → False :=
    fun yes no => Bool.noConfusion (yes.symm.trans no)
  constructor
  · rintro ⟨before, after, split, maximal⟩
    rcases List.append_eq_append_iff.mp split with ⟨more, rfl, later⟩ | ⟨more, rfl, tails⟩
    · -- the run begins after the word
      refine .inr ⟨more, after, later, { maximal with left := fun c last => maximal.left c ?_ }⟩
      rw [List.getLast?_append, Option.mem_def.mp last, Option.some_or, Option.mem_some_iff]
    · -- the run begins in the word, so at its start, and it ends where the word does
      have start : before = [] := by
        by_contra nonempty
        obtain ⟨c, last⟩ := Option.isSome_iff_exists.mp (List.getLast?_isSome.mpr nonempty)
        exact notBoth (letters c (List.mem_append_left _ (List.mem_of_getLast? last)))
          (maximal.left c last)
      subst start
      rcases List.append_eq_append_iff.mp tails with ⟨left, rfl, rfl⟩ | ⟨left, rfl, rfl⟩
      · cases left with
        | nil => exact .inl ⟨by simpa using maximal.nonempty, by simp⟩
        | cons c left => exact (notBoth (letters c (by simp)) (maximal.right c rfl)).elim
      · cases left with
        | nil => exact .inl ⟨by simpa using maximal.nonempty, by simp⟩
        | cons c left => exact (notBoth (maximal.inside c (by simp)) (ends c rfl)).elim
  · rintro (⟨nonempty, rfl⟩ | ⟨before, after, rfl, maximal⟩)
    · exact ⟨[], rest, rfl, nonempty, letters, by simp, ends⟩
    · refine ⟨word ++ before, after, by rw [List.append_assoc],
        { maximal with left := fun c last => ?_ }⟩
      rw [List.getLast?_append] at last
      cases beside : before.getLast? with
      | some d =>
          rw [beside, Option.some_or] at last
          exact maximal.left c (beside.trans last)
      | none =>
          obtain ⟨first, more, rfl⟩ := List.exists_cons_of_ne_nil maximal.nonempty
          rw [List.getLast?_eq_none_iff.mp beside] at ends
          exact (notBoth (maximal.inside first List.mem_cons_self) (ends first rfl)).elim

/-- The reader finds the runs of what it has read, last first, and what is to be read. -/
theorem mem_runs (text : List Char) {held : List Char}
    (letters : ∀ c ∈ held, Text.isAlphanumeric c = true) (run : List Char) :
    run ∈ runs held text ↔ IsRun (held.reverse ++ text) run := by
  induction text generalizing held with
  | nil =>
      have word : ∀ c ∈ held.reverse, Text.isAlphanumeric c = true := by simpa using letters
      rw [isRun_append word (by simp), or_iff_left (not_isRun_nil run), runs, ne_eq,
        List.reverse_eq_nil_iff]
      by_cases empty : held = [] <;> simp [empty]
  | cons c rest ih =>
      rw [runs]
      split
      · rename_i letter
        rw [ih (List.forall_mem_cons.mpr ⟨letter, letters⟩), List.reverse_cons, List.append_assoc]
        rfl
      · rename_i other
        have word : ∀ c ∈ held.reverse, Text.isAlphanumeric c = true := by simpa using letters
        have apart : Text.isAlphanumeric c = false := by simpa using other
        have onward : run ∈ runs [] rest ↔ IsRun rest run := ih (by simp)
        rw [isRun_append word (by simpa using apart), isRun_cons apart, ne_eq,
          List.reverse_eq_nil_iff]
        by_cases empty : held = [] <;> simp [empty, onward]

/-! ## Terms -/

theorem mem_terms (text : String) (term : List Char) : term ∈ terms text ↔ IsTerm text term := by
  have found : ∀ run, run ∈ runs [] text.toList ↔ IsRun text.toList run :=
    mem_runs text.toList (by simp)
  simp only [terms, List.mem_eraseDups, List.mem_map, found, IsTerm]

theorem nodup_terms (text : String) : (terms text).Nodup := nodup_eraseDups _

/-- The number of members of a list without repetitions. -/
theorem length_eq_ncard {α : Type} [DecidableEq α] {items : List α} (distinct : items.Nodup)
    {members : α → Prop} (listed : ∀ a, a ∈ items ↔ members a) :
    items.length = {a | members a}.ncard := by
  have same : {a | members a} = (items.toFinset : Set α) := by
    ext a
    simp [listed]
  rw [same, Set.ncard_coe_finset, List.toFinset_card_of_nodup distinct]

theorem length_terms (query : String) : (terms query).length = termCount query :=
  length_eq_ncard (nodup_terms query) (mem_terms query)

theorem hits_eq (query content : String) : hits (terms query) content = overlap query content := by
  rw [hits, List.countP_eq_length_filter]
  refine length_eq_ncard ((nodup_terms query).filter _) fun term => ?_
  rw [List.mem_filter, List.contains_iff_mem, mem_terms, mem_terms]

/-- A document has hits exactly if it shares a term with the query. -/
theorem hits_pos_iff (query content : String) :
    0 < hits (terms query) content ↔ ∃ term, IsTerm query term ∧ IsTerm content term := by
  rw [hits, List.countP_pos_iff]
  simp only [List.contains_iff_mem, mem_terms]

end ChatFlow.Ranking
