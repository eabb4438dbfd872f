import ChatFlow.Proofs.BlankEnds
import Mathlib.Data.List.Infix

/-!
# Literal occurrences

Value and subject of a condition are lowercased apart from each other.  A value that stands in the
subject letter by letter is found there if its capital sigmas keep their forms between what
surrounds it, and a subject that starts or ends with the value is recognised exactly then: the
lowercase forms agree but for sigmas, which are no blanks, so trimming takes the same away from
both.  A sigma that changes its form in some surroundings does so beside a single letter, and
there the value is not found.
-/

set_option autoImplicit false

namespace ChatFlow

namespace Text

/-! ## Trimming and parts -/

theorem isPrefix_trimEnd (text : List Char) : trimEnd text <+: text := by
  have dropped := List.reverse_prefix.mpr (List.dropWhile_suffix (l := text.reverse) isBlank)
  rwa [List.reverse_reverse] at dropped

theorem trimEnd_prefix_append (text further : List Char) :
    trimEnd text <+: trimEnd (text ++ further) := by
  by_cases blanks : OnlyBlanks further
  · rw [trimEnd_append_blanks blanks]
  · rw [trimEnd_append blanks]
    exact (isPrefix_trimEnd text).trans (List.prefix_append _ _)

theorem trimmed_prefix_append (text further : List Char) :
    trimmed text <+: trimmed (text ++ further) := by
  by_cases blanks : OnlyBlanks text
  · rw [trimmed_of_blanks blanks]
    exact List.nil_prefix
  · rw [trimmed, trimmed, trimStart_append blanks]
    exact trimEnd_prefix_append _ _

theorem trimmed_suffix_trimEnd (text : List Char) : trimmed text <:+ trimEnd text := by
  by_cases blanks : OnlyBlanks (trimStart text)
  · rw [trimmed, trimEnd_of_blanks blanks]
    exact List.nil_suffix
  · have parts : text.takeWhile isBlank ++ trimStart text = text := List.takeWhile_append_dropWhile
    have ends := trimEnd_append blanks (text.takeWhile isBlank)
    rw [parts] at ends
    rw [ends]
    exact List.suffix_append _ _

theorem trimmed_suffix_append (earlier text : List Char) :
    trimmed text <:+ trimmed (earlier ++ text) := by
  by_cases blanksEarlier : OnlyBlanks earlier
  · rw [trimmed, trimmed, trimStart_blanks_append blanksEarlier]
  · by_cases blanks : OnlyBlanks text
    · rw [trimmed_of_blanks blanks]
      exact List.nil_suffix
    · rw [trimmed, trimmed, trimStart_append blanksEarlier, trimEnd_append blanks]
      exact (trimmed_suffix_trimEnd text).trans (List.suffix_append _ _)

/-- Trimming takes the same away from texts that are alike, and no difference between them. -/
theorem alike_trimStart {text other : List Char} (alike : List.Forall₂ Alike text other) :
    List.Forall₂ Alike (trimStart text) (trimStart other) ∧
      (trimStart text = trimStart other → text = other) := by
  induction alike with
  | nil => exact ⟨.nil, fun same => same⟩
  | @cons c d text other head tail ih =>
      by_cases blank : isBlank c = true
      · have same : c = d := head.resolve_right fun visible => by simp [visible.1] at blank
        subst same
        rw [trimStart, trimStart, List.dropWhile_cons_of_pos blank,
          List.dropWhile_cons_of_pos blank]
        exact ⟨ih.1, fun same => congrArg (c :: ·) (ih.2 same)⟩
      · have blank' : ¬ isBlank d = true := by
          rcases head with rfl | visible
          · exact blank
          · simp [visible.2]
        rw [trimStart, trimStart, List.dropWhile_cons_of_neg blank,
          List.dropWhile_cons_of_neg blank']
        exact ⟨.cons head tail, fun same => same⟩

theorem alike_trimEnd {text other : List Char} (alike : List.Forall₂ Alike text other) :
    List.Forall₂ Alike (trimEnd text) (trimEnd other) ∧
      (trimEnd text = trimEnd other → text = other) := by
  obtain ⟨ends, same⟩ := alike_trimStart (List.forall₂_reverse_iff.mpr alike)
  refine ⟨List.forall₂_reverse_iff.mpr ends, fun equal => ?_⟩
  exact List.reverse_injective (same (List.reverse_injective equal))

theorem alike_trimmed {text other : List Char} (alike : List.Forall₂ Alike text other) :
    List.Forall₂ Alike (trimmed text) (trimmed other) ∧
      (trimmed text = trimmed other → text = other) := by
  obtain ⟨start, sameStart⟩ := alike_trimStart alike
  obtain ⟨both, sameBoth⟩ := alike_trimEnd start
  exact ⟨both, fun same => sameStart (sameBoth same)⟩

/-- Of texts that are alike, only the text itself is at the start of what goes on with it. -/
theorem trimmed_prefix_iff {text other : List Char} (alike : List.Forall₂ Alike text other)
    (further : List Char) : trimmed text <+: trimmed (other ++ further) ↔ other = text := by
  obtain ⟨both, same⟩ := alike_trimmed alike
  constructor
  · intro found
    have itself := trimmed_prefix_append other further
    have within := List.prefix_of_prefix_length_le found itself both.length_eq.le
    exact (same (within.eq_of_length both.length_eq)).symm
  · rintro rfl
    exact trimmed_prefix_append other further

theorem trimmed_suffix_iff {text other : List Char} (alike : List.Forall₂ Alike text other)
    (earlier : List Char) : trimmed text <:+ trimmed (earlier ++ other) ↔ other = text := by
  obtain ⟨both, same⟩ := alike_trimmed alike
  constructor
  · intro found
    have itself := trimmed_suffix_append earlier other
    have within := List.suffix_of_suffix_length_le found itself both.length_eq.le
    exact (same (within.eq_of_length both.length_eq)).symm
  · rintro rfl
    exact trimmed_suffix_append earlier other

/-! ## Surroundings that change a form -/

/-- If some surroundings change the form of a capital sigma, a cased character at one of the ends
does. -/
theorem changed_beside {before text after : List Char} (changed : ¬ KeepsForms before text after) :
    (∀ c, meetsCased [c] = true → ¬ KeepsForms [c] text []) ∨
      ∀ c, meetsCased [c] = true → ¬ KeepsForms [] text [c] := by
  simp only [KeepsForms, not_forall] at changed
  obtain ⟨passed, rest, split, differ⟩ := changed
  cases alone : endsWord passed.reverse rest with
  | true =>
      -- it ends a word, so a cased character after the text has changed that
      obtain ⟨cased, uncased⟩ : meetsCased passed.reverse = true ∧ meetsCased rest = false := by
        simpa [endsWord] using alone
      have follows : meetsCased (rest ++ after) = true := by
        simpa [endsWord, meetsCased_append_of_cased cased, cased, uncased] using differ
      refine .inr fun c letter kept => ?_
      have form := kept passed rest split
      rw [alone, endsWord, meetsCased_append_of_ignorable
        (ignorable_of_meetsCased_append follows uncased), letter] at form
      simp at form
  | false =>
      rw [alone, Bool.not_eq_false] at differ
      obtain ⟨precedes, apart⟩ : meetsCased (passed.reverse ++ before.reverse) = true ∧
          meetsCased (rest ++ after) = false := by
        simpa [endsWord] using differ
      have uncasedRest : meetsCased rest = false :=
        Bool.eq_false_iff.mpr fun cased => by
          rw [meetsCased_append_of_cased cased] at apart
          cases apart
      have uncased : meetsCased passed.reverse = false := by
        simpa [endsWord, uncasedRest] using alone
      refine .inl fun c letter kept => ?_
      have form := kept passed rest split
      rw [alone, endsWord, List.reverse_singleton, meetsCased_append_of_ignorable
        (ignorable_of_meetsCased_append precedes uncased), letter, List.append_nil,
        uncasedRest] at form
      cases form

theorem head?_of_infix_cons {part form : List Char} {c : Char} (sizes : part.length = form.length)
    (differ : form ≠ part) (found : part <:+: c :: form) : part.head? = some c := by
  rcases List.infix_cons_iff.mp found with starts | within
  · rcases List.prefix_cons_iff.mp starts with rfl | ⟨rest, rfl, _⟩
    · exact absurd (List.length_eq_zero_iff.mp sizes.symm) differ
    · rfl
  · exact absurd (within.eq_of_length sizes).symm differ

theorem getLast?_of_infix_concat {part form : List Char} {c : Char}
    (sizes : part.length = form.length) (differ : form ≠ part) (found : part <:+: form ++ [c]) :
    part.getLast? = some c := by
  rcases List.infix_concat_iff.mp found with ends | within
  · rcases List.suffix_concat_iff.mp ends with rfl | ⟨rest, rfl, _⟩
    · exact absurd (List.length_eq_zero_iff.mp sizes.symm) differ
    · exact List.getLast?_concat
  · exact absurd (within.eq_of_length sizes).symm differ

/-- Some letter, small already, is not the given one. -/
theorem exists_other_letter (taken : Option Char) : ∃ c, taken ≠ some c ∧ meetsCased [c] = true ∧
    ∀ before after, lowercaseBetween before c after = [c] := by
  by_cases first : taken = some 'a'
  · exact ⟨'b', by simp [first], by decide +kernel, fun _ _ => rfl⟩
  · exact ⟨'a', first, by decide +kernel, fun _ _ => rfl⟩

/-- If some surroundings change a form, there are some in which the text is not found at all. -/
theorem exists_not_found {before text after : List Char}
    (changed : ¬ KeepsForms before text after) : ∃ before' after',
      ¬ lowercased text <:+: lowercased (before' ++ text ++ after') := by
  have sizes : ∀ before after,
      (lowercased text).length = (lowercaseWithin before text after).length :=
    fun before after => (alike_lowercased text before after).length_eq
  rcases changed_beside changed with besideStart | besideEnd
  · obtain ⟨c, other, letter, small⟩ := exists_other_letter (lowercased text).head?
    have differ := mt (lowercaseWithin_eq_lowercased [c] text []).mp (besideStart c letter)
    refine ⟨[c], [], fun found => other (head?_of_infix_cons (sizes _ _) differ ?_)⟩
    rw [lowercased_parts] at found
    simpa [lowercaseWithin, small] using found
  · obtain ⟨c, other, letter, small⟩ := exists_other_letter (lowercased text).getLast?
    have differ := mt (lowercaseWithin_eq_lowercased [] text [c]).mp (besideEnd c letter)
    refine ⟨[], [c], fun found => other (getLast?_of_infix_concat (sizes _ _) differ ?_)⟩
    rw [lowercased_parts] at found
    simpa [lowercaseWithin, small] using found

end Text

namespace Condition

open Text

section

variable (search? : PatternSearch) (field : Field) {value : String} (given : value ≠ "")
include given

theorem contains_iff (subject : String) :
    (⟨.contains, field, value⟩ : Condition).evaluateWith search? subject = some true ↔
      lowercased value.toList <:+: lowercased subject.toList := by
  simp [evaluateWith, given, occurs_iff]

theorem startsWith_iff (after : String) :
    (⟨.startsWith, field, value⟩ : Condition).evaluateWith search? (value ++ after) = some true ↔
      KeepsForms [] value.toList after.toList := by
  have parts : lowercased (value.toList ++ after.toList) =
      lowercaseWithin [] value.toList after.toList ++
        lowercaseWithin value.toList.reverse after.toList [] := by
    simpa [lowercaseWithin] using lowercased_parts [] value.toList after.toList
  have recognised : (⟨.startsWith, field, value⟩ : Condition).evaluateWith search?
      (value ++ after) = some true ↔ comparable value <+: comparable (value ++ after) := by
    simp [evaluateWith, given]
  rw [recognised, comparable, comparable, String.toList_append, parts,
    trimmed_prefix_iff (alike_lowercased _ _ _)]
  exact lowercaseWithin_eq_lowercased [] value.toList after.toList

theorem endsWith_iff (before : String) :
    (⟨.endsWith, field, value⟩ : Condition).evaluateWith search? (before ++ value) = some true ↔
      KeepsForms before.toList value.toList [] := by
  have parts : lowercased (before.toList ++ value.toList) =
      lowercaseWithin [] before.toList value.toList ++
        lowercaseWithin before.toList.reverse value.toList [] := by
    simpa [lowercaseWithin] using lowercased_parts before.toList value.toList []
  have recognised : (⟨.endsWith, field, value⟩ : Condition).evaluateWith search?
      (before ++ value) = some true ↔ comparable value <:+ comparable (before ++ value) := by
    simp [evaluateWith, given]
  rw [recognised, comparable, comparable, String.toList_append, parts,
    trimmed_suffix_iff (alike_lowercased _ _ _)]
  exact lowercaseWithin_eq_lowercased before.toList value.toList []

/-- A value that stands in the subject as it is written, or at its start or end, is found there if
the surroundings keep the forms of its capital sigmas; at the start or end exactly then.  It is
found in all surroundings exactly if none of them changes a form. -/
theorem literal_found_iff_forms_kept :
    let holds (comparison : Comparison) (subject : String) : Prop :=
      (⟨comparison, field, value⟩ : Condition).evaluateWith search? subject = some true
    let kept (before after : String) : Prop :=
      KeepsForms before.toList value.toList after.toList
    (∀ before after, kept before after → holds .contains (before ++ value ++ after)) ∧
    ((∀ before after, holds .contains (before ++ value ++ after)) ↔
      ∀ before after, kept before after) ∧
    (∀ after, holds .startsWith (value ++ after) ↔ kept "" after) ∧
    (∀ before, holds .endsWith (before ++ value) ↔ kept before "") := by
  intro holds kept
  have found : ∀ before after, kept before after → holds .contains (before ++ value ++ after) := by
    intro before after forms
    refine (contains_iff search? field given _).mpr ?_
    rw [String.toList_append, String.toList_append, lowercased_parts,
      (lowercaseWithin_eq_lowercased _ _ _).mpr forms]
    exact List.infix_append _ _ _
  refine ⟨found, ⟨fun always before after => ?_, fun forms before after => ?_⟩,
    startsWith_iff search? field given, endsWith_iff search? field given⟩
  · refine of_not_not fun changed => ?_
    obtain ⟨before', after', absent⟩ := exists_not_found changed
    have present := (contains_iff search? field given _).mp
      (always (String.ofList before') (String.ofList after'))
    simp only [String.toList_append, String.toList_ofList] at present
    exact absent present
  · exact found before after (forms before after)

end

/-- A capital sigma at the end of a word is found between, before and after other words. -/
theorem street_found :
    (⟨.contains, .message, "ΟΔΟΣ"⟩ : Condition).evaluate? ("ΝΕΑ " ++ "ΟΔΟΣ" ++ ", 7") = some true ∧
      (⟨.startsWith, .message, "ΟΔΟΣ"⟩ : Condition).evaluate? ("ΟΔΟΣ" ++ ", 7") = some true ∧
      (⟨.endsWith, .message, "ΟΔΟΣ"⟩ : Condition).evaluate? ("ΝΕΑ " ++ "ΟΔΟΣ") = some true := by
  have given : "ΟΔΟΣ" ≠ "" := by decide
  obtain ⟨found, _, starts, ends⟩ := literal_found_iff_forms_kept Pattern.search? .message given
  exact ⟨found "ΝΕΑ " ", 7" (by decide +kernel), (starts ", 7").mpr (by decide +kernel),
    (ends "ΝΕΑ ").mpr (by decide +kernel)⟩

/-- The sigma of the value ends a word and the same sigma in the subject does not, or the other way
around. -/
theorem sigma_within_word_not_found :
    (⟨.contains, .response, "ΑΣ"⟩ : Condition).evaluate? ("" ++ "ΑΣ" ++ "Α") = some false ∧
      (⟨.startsWith, .response, "ΑΣ"⟩ : Condition).evaluate? ("ΑΣ" ++ "Α") = some false ∧
      (⟨.endsWith, .response, "Σ"⟩ : Condition).evaluate? ("Α" ++ "Σ") = some false := by
  decide +kernel

end Condition

end ChatFlow
