/-!
# Parts of texts
-/

set_option autoImplicit false

namespace ChatFlow.Text

/-- Whether `part` stands somewhere in a text. -/
def occurs (part : List Char) : List Char → Bool
  | [] => part.isEmpty
  | c :: text => part.isPrefixOf (c :: text) || occurs part text

/-- `occurs` finds exactly the parts that stand between two other parts. -/
theorem occurs_iff {part text : List Char} : occurs part text = true ↔ part <:+: text := by
  induction text with
  | nil => simp [occurs, List.isEmpty_iff]
  | cons c text ih =>
    simp only [occurs, Bool.or_eq_true, List.isPrefixOf_iff_prefix, ih]
    constructor
    · rintro (h | h)
      · exact h.isInfix
      · exact h.trans (List.suffix_cons c text).isInfix
    · intro h
      exact List.infix_cons_iff.1 h

/-- Whether `part` stands somewhere in a text. -/
def contains (text part : String) : Bool := occurs part.toList text.toList

end ChatFlow.Text
