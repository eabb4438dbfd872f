import ChatFlow.Text.Blank
import ChatFlow.Text.Lowercase
import Mathlib.Data.List.Forall2
import Mathlib.Data.List.TakeWhile

/-!
# Lowercase forms in context

A text is lowercased character by character, and only a capital sigma looks at what stands around
it: whether it ends a word.  So a part of a text has its own lowercase form there exactly if the
neighbours change this for none of its capital sigmas.
-/

set_option autoImplicit false

namespace ChatFlow.Text

/-! ## Cased neighbours -/

theorem meetsCased_append_of_ignorable {text : List Char}
    (ignorable : ∀ c ∈ text, isCaseIgnorable c = true) (further : List Char) :
    meetsCased (text ++ further) = meetsCased further := by
  rw [meetsCased, List.dropWhile_append_of_pos ignorable]
  rfl

theorem meetsCased_append_of_not_ignorable {text : List Char}
    (seen : ¬ ∀ c ∈ text, isCaseIgnorable c = true) (further : List Char) :
    meetsCased (text ++ further) = meetsCased text := by
  have stops : text.dropWhile isCaseIgnorable ≠ [] := by
    rwa [ne_eq, List.dropWhile_eq_nil_iff]
  rw [meetsCased, meetsCased, List.dropWhile_append, if_neg (by simpa using stops)]
  cases found : text.dropWhile isCaseIgnorable with
  | nil => exact absurd found stops
  | cons c rest => rfl

theorem meetsCased_of_ignorable {text : List Char}
    (ignorable : ∀ c ∈ text, isCaseIgnorable c = true) : meetsCased text = false := by
  rw [meetsCased, List.dropWhile_eq_nil_iff.mpr ignorable]

/-- Further characters count only if none before them does. -/
theorem meetsCased_append_of_cased {text : List Char} (cased : meetsCased text = true)
    (further : List Char) : meetsCased (text ++ further) = true := by
  have seen : ¬ ∀ c ∈ text, isCaseIgnorable c = true := by
    intro ignorable
    rw [meetsCased_of_ignorable ignorable] at cased
    cases cased
  rw [meetsCased_append_of_not_ignorable seen, cased]

theorem meetsCased_append_of_uncased (text : List Char) {further : List Char}
    (uncased : meetsCased further = false) : meetsCased (text ++ further) = meetsCased text := by
  by_cases ignorable : ∀ c ∈ text, isCaseIgnorable c = true
  · rw [meetsCased_append_of_ignorable ignorable, uncased, meetsCased_of_ignorable ignorable]
  · exact meetsCased_append_of_not_ignorable ignorable further

/-- If further characters make a difference, those before them are ignored. -/
theorem ignorable_of_meetsCased_append {text further : List Char}
    (cased : meetsCased (text ++ further) = true) (uncased : meetsCased text = false) :
    ∀ c ∈ text, isCaseIgnorable c = true := by
  refine of_not_not fun seen => ?_
  rw [meetsCased_append_of_not_ignorable seen, uncased] at cased
  cases cased

/-! ## Parts of a text -/

/-- Whether a capital sigma between two texts is the end of a word; `before` is read backwards. -/
def endsWord (before after : List Char) : Bool := meetsCased before && !meetsCased after

/-- The lowercase form of a text between two others; `before` is read backwards. -/
def lowercaseWithin (before : List Char) : (text after : List Char) → List Char
  | [], _ => []
  | c :: rest, after =>
    lowercaseBetween before c (rest ++ after) ++ lowercaseWithin (c :: before) rest after

theorem lowercaseAfter_eq (before text : List Char) :
    lowercaseAfter before text = lowercaseWithin before text [] := by
  induction text generalizing before with
  | nil => rfl
  | cons c rest ih => rw [lowercaseAfter, lowercaseWithin, List.append_nil, ih]

theorem lowercaseWithin_append (before text further after : List Char) :
    lowercaseWithin before (text ++ further) after =
      lowercaseWithin before text (further ++ after) ++
        lowercaseWithin (text.reverse ++ before) further after := by
  induction text generalizing before with
  | nil => rfl
  | cons c rest ih => simp [lowercaseWithin, ih]

/-- The lowercase form of a text in three parts. -/
theorem lowercased_parts (before text after : List Char) :
    lowercased (before ++ text ++ after) =
      lowercaseWithin [] before (text ++ after) ++ lowercaseWithin before.reverse text after ++
        lowercaseWithin (text.reverse ++ before.reverse) after [] := by
  rw [lowercased, lowercaseAfter_eq, List.append_assoc, lowercaseWithin_append,
    lowercaseWithin_append]
  simp

/-! ## What a part keeps -/

/-- A character is another one only if neither is blank. -/
def Alike (c d : Char) : Prop := c = d ∨ isBlank c = false ∧ isBlank d = false

theorem alike_refl (text : List Char) : List.Forall₂ Alike text text :=
  List.forall₂_same.mpr fun _ _ => .inl rfl

/-- Either form of a capital sigma is a single character that is not blank. -/
theorem alike_lowercaseBetween (c : Char) (before after before' after' : List Char) :
    List.Forall₂ Alike (lowercaseBetween before c after) (lowercaseBetween before' c after') := by
  have forms : ∀ before after, lowercaseBetween before 'Σ' after = ['ς'] ∨
      lowercaseBetween before 'Σ' after = ['σ'] := by
    intro before after
    rw [lowercaseBetween, if_pos rfl]
    split
    · exact .inl rfl
    · exact .inr rfl
  by_cases sigma : c = 'Σ'
  · subst sigma
    rcases forms before after with form | form <;>
      rcases forms before' after' with form' | form' <;>
        rw [form, form'] <;> exact .cons (.inr ⟨by decide, by decide⟩) .nil
  · rw [lowercaseBetween, if_neg sigma, lowercaseBetween, if_neg sigma]
    exact alike_refl _

theorem alike_lowercaseWithin (text before after before' after' : List Char) :
    List.Forall₂ Alike (lowercaseWithin before text after)
      (lowercaseWithin before' text after') := by
  induction text generalizing before before' with
  | nil => exact .nil
  | cons c rest ih => exact List.rel_append (alike_lowercaseBetween c _ _ _ _) (ih _ _)

theorem alike_lowercased (text before after : List Char) :
    List.Forall₂ Alike (lowercased text) (lowercaseWithin before text after) := by
  rw [lowercased, lowercaseAfter_eq]
  exact alike_lowercaseWithin text [] [] before after

theorem lowercaseBetween_eq_iff (c : Char) (before after before' after' : List Char) :
    lowercaseBetween before c after = lowercaseBetween before' c after' ↔
      (c = 'Σ' → endsWord before after = endsWord before' after') := by
  rw [lowercaseBetween, lowercaseBetween, ← endsWord, ← endsWord]
  by_cases sigma : c = 'Σ'
  · rw [if_pos sigma, if_pos sigma]
    cases endsWord before after <;> cases endsWord before' after' <;> simp [sigma]
  · simp only [sigma, if_false, false_implies]

/-- A text has the same lowercase form in two places exactly if each of its capital sigmas ends a
word in both or in neither. -/
theorem lowercaseWithin_eq_iff (text before after before' after' : List Char) :
    lowercaseWithin before text after = lowercaseWithin before' text after' ↔
      ∀ passed rest, text = passed ++ 'Σ' :: rest →
        endsWord (passed.reverse ++ before) (rest ++ after) =
          endsWord (passed.reverse ++ before') (rest ++ after') := by
  induction text generalizing before before' with
  | nil => simp [lowercaseWithin]
  | cons c rest ih =>
      have sizes :=
        (alike_lowercaseBetween c before (rest ++ after) before' (rest ++ after')).length_eq
      rw [lowercaseWithin, lowercaseWithin, List.append_eq_append_iff_of_size_eq_left sizes,
        lowercaseBetween_eq_iff, ih]
      constructor
      · rintro ⟨here, later⟩ passed after split
        rcases List.cons_eq_append_iff.mp split with ⟨rfl, same⟩ | ⟨passed, rfl, rfl⟩
        · cases same
          exact here rfl
        · simpa using later passed after rfl
      · intro all
        refine ⟨fun sigma => ?_, fun passed after split => ?_⟩
        · subst sigma
          exact all [] rest rfl
        · simpa using all (c :: passed) after (by rw [split]; rfl)

/-- Every capital sigma of the text ends a word between the two others exactly if it ends one
without them. -/
def KeepsForms (before text after : List Char) : Prop :=
  ∀ passed rest, text = passed ++ 'Σ' :: rest →
    endsWord (passed.reverse ++ before.reverse) (rest ++ after) = endsWord passed.reverse rest

theorem lowercaseWithin_eq_lowercased (before text after : List Char) :
    lowercaseWithin before.reverse text after = lowercased text ↔ KeepsForms before text after := by
  rw [lowercased, lowercaseAfter_eq, lowercaseWithin_eq_iff, KeepsForms]
  simp only [List.append_nil]

instance (before text after : List Char) : Decidable (KeepsForms before text after) :=
  decidable_of_iff _ (lowercaseWithin_eq_lowercased before text after)

/-- Neighbours without case leave all forms as they are. -/
theorem keepsForms_of_uncased {before after : List Char} (text : List Char)
    (uncasedBefore : meetsCased before.reverse = false) (uncasedAfter : meetsCased after = false) :
    KeepsForms before text after := by
  intro passed rest _
  rw [endsWord, endsWord, meetsCased_append_of_uncased _ uncasedBefore,
    meetsCased_append_of_uncased _ uncasedAfter]

end ChatFlow.Text
