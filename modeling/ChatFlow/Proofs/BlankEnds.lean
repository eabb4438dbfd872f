import ChatFlow.Condition.Basic
import ChatFlow.Proofs.WordForms

/-!
# Blanks at the ends

Blank characters have no case, are their own lowercase form and end no word of others.  So a text
between blanks has the lowercase form that it has without them, and trimming removes the blanks
again.  For a condition that does not see blanks at both ends they matter in one case only: a value
of nothing but blanks is compared as the empty one, yet it is not empty.
-/

set_option autoImplicit false

namespace ChatFlow

namespace Text

/-! ## Blank characters -/

/-- The numbers of the blank characters. -/
def blankNumbers : List Nat :=
  [9, 10, 11, 12, 13, 0x20, 0x85, 0xA0, 0x1680, 0x2000, 0x2001, 0x2002, 0x2003, 0x2004, 0x2005,
    0x2006, 0x2007, 0x2008, 0x2009, 0x200A, 0x2028, 0x2029, 0x202F, 0x205F, 0x3000]

theorem mem_blankNumbers {c : Char} (blank : isBlank c = true) : c.toNat ∈ blankNumbers := by
  simp only [isBlank, Bool.or_eq_true, Bool.and_eq_true, decide_eq_true_eq, beq_iff_eq] at blank
  simp only [blankNumbers, List.mem_cons, List.not_mem_nil, or_false]
  omega

/-- No table of case knows a blank character. -/
theorem blankNumbers_uncased : ∀ n ∈ blankNumbers,
    inRanges casedRanges n = false ∧ inRanges caseIgnorableRanges n = false ∧ n ≠ 0x130 ∧
      (n < 0x80 → n < 65) ∧ lowercaseRuns.find? (fun run => run.covers n) = none := by
  decide +kernel

theorem isCased_of_blank {c : Char} (blank : isBlank c = true) : isCased c = false :=
  (blankNumbers_uncased _ (mem_blankNumbers blank)).1

theorem isCaseIgnorable_of_blank {c : Char} (blank : isBlank c = true) :
    isCaseIgnorable c = false :=
  (blankNumbers_uncased _ (mem_blankNumbers blank)).2.1

theorem lowercaseBetween_of_blank {c : Char} (blank : isBlank c = true)
    (before after : List Char) : lowercaseBetween before c after = [c] := by
  obtain ⟨_, _, undotted, small, untabled⟩ := blankNumbers_uncased _ (mem_blankNumbers blank)
  have notSigma : c ≠ 'Σ' := by
    rintro rfl
    exact absurd blank (by decide)
  rw [lowercaseBetween, if_neg notSigma, lowercaseChar]
  by_cases ascii : c.toNat < 0x80
  · have noCapital : ¬ (c.val ≥ 'A'.val ∧ c.val ≤ 'Z'.val) := by
      rintro ⟨capital, _⟩
      have from65 : 65 ≤ c.toNat := capital
      exact absurd (small ascii) (Nat.not_lt.mpr from65)
    have kept : c.toLower = c := dif_neg noCapital
    simp only [if_pos ascii, kept]
  · simp only [if_neg ascii, if_neg undotted, untabled]

/-- Blank characters only. -/
def OnlyBlanks (text : List Char) : Prop := ∀ c ∈ text, isBlank c = true

instance (text : List Char) : Decidable (OnlyBlanks text) :=
  decidable_of_iff (text.all isBlank = true) List.all_eq_true

theorem OnlyBlanks.reverse {text : List Char} (blanks : OnlyBlanks text) :
    OnlyBlanks text.reverse := fun c member => blanks c (List.mem_reverse.mp member)

theorem meetsCased_of_blanks {text : List Char} (blanks : OnlyBlanks text) :
    meetsCased text = false := by
  cases text with
  | nil => rfl
  | cons c rest =>
      have blank := blanks c List.mem_cons_self
      have stops : ¬ isCaseIgnorable c = true := by simp [isCaseIgnorable_of_blank blank]
      rw [meetsCased, List.dropWhile_cons_of_neg stops]
      exact isCased_of_blank blank

theorem lowercaseWithin_of_blanks {text : List Char} (blanks : OnlyBlanks text)
    (before after : List Char) : lowercaseWithin before text after = text := by
  induction text generalizing before with
  | nil => rfl
  | cons c rest ih =>
      obtain ⟨blank, others⟩ := List.forall_mem_cons.mp blanks
      rw [lowercaseWithin, lowercaseBetween_of_blank blank, ih others]
      rfl

/-- Blanks at both ends stay as they are and change nothing between them. -/
theorem lowercased_between_blanks {before after : List Char} (blanksBefore : OnlyBlanks before)
    (blanksAfter : OnlyBlanks after) (text : List Char) :
    lowercased (before ++ text ++ after) = before ++ lowercased text ++ after := by
  have kept : KeepsForms before text after := keepsForms_of_uncased text
    (meetsCased_of_blanks blanksBefore.reverse) (meetsCased_of_blanks blanksAfter)
  rw [lowercased_parts, lowercaseWithin_of_blanks blanksBefore,
    lowercaseWithin_of_blanks blanksAfter, (lowercaseWithin_eq_lowercased _ _ _).mpr kept]

/-! ## Trimming -/

theorem trimStart_of_blanks {text : List Char} (blanks : OnlyBlanks text) : trimStart text = [] :=
  List.dropWhile_eq_nil_iff.mpr blanks

theorem trimStart_append {text : List Char} (visible : ¬ OnlyBlanks text) (further : List Char) :
    trimStart (text ++ further) = trimStart text ++ further := by
  rw [trimStart, List.dropWhile_append, if_neg]
  · rfl
  · rwa [List.isEmpty_iff, List.dropWhile_eq_nil_iff]

theorem trimStart_blanks_append {blanks : List Char} (only : OnlyBlanks blanks)
    (text : List Char) : trimStart (blanks ++ text) = trimStart text :=
  List.dropWhile_append_of_pos only

theorem trimEnd_eq (text : List Char) : trimEnd text = (trimStart text.reverse).reverse := rfl

theorem trimEnd_append_blanks {blanks : List Char} (only : OnlyBlanks blanks)
    (text : List Char) : trimEnd (text ++ blanks) = trimEnd text := by
  rw [trimEnd_eq, List.reverse_append, trimStart_blanks_append only.reverse, trimEnd_eq]

theorem trimEnd_append {text : List Char} (visible : ¬ OnlyBlanks text) (earlier : List Char) :
    trimEnd (earlier ++ text) = earlier ++ trimEnd text := by
  have visibleBack : ¬ OnlyBlanks text.reverse := fun blanks =>
    visible (by simpa using blanks.reverse)
  rw [trimEnd_eq, List.reverse_append, trimStart_append visibleBack, List.reverse_append,
    List.reverse_reverse, ← trimEnd_eq]

theorem trimEnd_of_blanks {text : List Char} (blanks : OnlyBlanks text) : trimEnd text = [] := by
  rw [trimEnd_eq, trimStart_of_blanks blanks.reverse, List.reverse_nil]

theorem trimmed_of_blanks {text : List Char} (blanks : OnlyBlanks text) : trimmed text = [] := by
  rw [trimmed, trimStart_of_blanks blanks]
  rfl

/-- Trimming does not see blanks at both ends. -/
theorem trimmed_between_blanks {before after : List Char} (blanksBefore : OnlyBlanks before)
    (blanksAfter : OnlyBlanks after) (text : List Char) :
    trimmed (before ++ text ++ after) = trimmed text := by
  rw [trimmed, List.append_assoc, trimStart_blanks_append blanksBefore]
  by_cases blanks : OnlyBlanks text
  · rw [trimStart_blanks_append blanks, trimStart_of_blanks blanksAfter, trimmed_of_blanks blanks]
    rfl
  · rw [trimStart_append blanks, trimEnd_append_blanks blanksAfter, trimmed]

end Text

namespace Condition

theorem comparable_between_blanks {before after : String}
    (blanksBefore : Text.OnlyBlanks before.toList) (blanksAfter : Text.OnlyBlanks after.toList)
    (text : String) :
    comparable (before ++ text ++ after) = comparable text := by
  rw [comparable, String.toList_append, String.toList_append,
    Text.lowercased_between_blanks blanksBefore blanksAfter,
    Text.trimmed_between_blanks blanksBefore blanksAfter, comparable]

/-- Padding makes an empty value one that is not empty, and no other value an empty one. -/
theorem given_iff_padded {before value after : String} {found : Bool}
    (ofEmpty : value = "" → found = true) :
    (decide (before ++ value ++ after ≠ "") && found) = (decide (value ≠ "") && found) ↔
      value ≠ "" ∨ before = "" ∧ after = "" := by
  by_cases empty : value = ""
  · simp [empty, ofEmpty empty]
  · simp [empty]

/-- Blanks around the value and around the subject of a comparison that does not see them make no
difference, unless the value is empty and is compared by its start or end: with blanks around it,
the empty value is found in every subject, and without them in none. -/
theorem padding_ignored_iff (search? : PatternSearch) (field : Field) (comparison : Comparison)
    (value subject before after beforeSubject afterSubject : String)
    (trims : comparison = .equals ∨ comparison = .startsWith ∨ comparison = .endsWith)
    (blanks : ∀ padding ∈ [before, after, beforeSubject, afterSubject],
      Text.OnlyBlanks padding.toList) :
    (⟨comparison, field, before ++ value ++ after⟩ : Condition).evaluateWith search?
        (beforeSubject ++ subject ++ afterSubject) =
      (⟨comparison, field, value⟩ : Condition).evaluateWith search? subject ↔
    comparison = .equals ∨ value ≠ "" ∨ before = "" ∧ after = "" := by
  simp only [List.forall_mem_cons] at blanks
  obtain ⟨blanksBefore, blanksAfter, blanksBeforeSubject, blanksAfterSubject, _⟩ := blanks
  have sameValue := comparable_between_blanks blanksBefore blanksAfter value
  have sameSubject := comparable_between_blanks blanksBeforeSubject blanksAfterSubject subject
  have empty : value = "" → comparable value = [] := by
    rintro rfl
    rfl
  rcases trims with rfl | rfl | rfl
  · simp only [evaluateWith, sameValue, sameSubject, true_or]
  · simp only [evaluateWith, sameValue, sameSubject, Option.some.injEq, reduceCtorEq, false_or]
    exact given_iff_padded fun none => by rw [empty none]; rfl
  · simp only [evaluateWith, sameValue, sameSubject, Option.some.injEq, reduceCtorEq, false_or]
    exact given_iff_padded fun none => by simp [empty none]

theorem padded_greeting_starts :
    (∀ padding ∈ [" ", "\t", "\n", "  "], Text.OnlyBlanks padding.toList) ∧
      (⟨.startsWith, .message, " " ++ "HELLO" ++ "\t"⟩ : Condition).evaluate?
        ("\n" ++ "Hello there" ++ "  ") = some true := by
  have blanks : ∀ padding ∈ [" ", "\t", "\n", "  "], Text.OnlyBlanks padding.toList := by decide
  have same := padding_ignored_iff Pattern.search? .message .startsWith "HELLO" "Hello there"
    " " "\t" "\n" "  " (by decide) blanks
  exact ⟨blanks, (same.mpr (.inr (.inl (by decide)))).trans (by decide +kernel)⟩

/-- Every text starts and ends with a blank value, and none with the empty one. -/
theorem blank_value_is_everywhere :
    Text.OnlyBlanks "   ".toList ∧
      (⟨.startsWith, .response, "   " ++ "" ++ ""⟩ : Condition).evaluate? "anything" = some true ∧
      (⟨.startsWith, .response, ""⟩ : Condition).evaluate? "anything" = some false ∧
      (⟨.endsWith, .response, "   " ++ "" ++ ""⟩ : Condition).evaluate? "anything" = some true ∧
      (⟨.endsWith, .response, ""⟩ : Condition).evaluate? "anything" = some false := by
  decide +kernel

end Condition

end ChatFlow
