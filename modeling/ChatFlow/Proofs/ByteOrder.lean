import Mathlib.Data.Char
import Mathlib.Data.List.Lex
import Mathlib.Order.Monotone.Basic

/-!
# The order of bytes

Texts compare by code point.  UTF-8 writes a greater code point as a greater sequence of bytes, and
of two different ones neither is the beginning of the other; so the order of texts is also the order
of their bytes.
-/

set_option autoImplicit false

namespace ChatFlow.Text

/-- The bytes of one character in UTF-8. -/
def charBytes (c : Char) : List Nat := (String.utf8EncodeChar c).map UInt8.toNat

/-- The bytes of a text in UTF-8. -/
def bytes (text : String) : List Nat := text.toUTF8.data.toList.map UInt8.toNat

theorem bytes_eq (text : String) : bytes text = text.toList.flatMap charBytes := by
  have encoded : text.toUTF8.data.toList = text.toList.flatMap String.utf8EncodeChar := by
    rw [String.toUTF8_eq_toByteArray, ← String.utf8Encode_toList, List.utf8Encode,
      List.toList_data_toByteArray]
  rw [bytes, encoded, List.map_flatMap]
  rfl

theorem charBytes_eq (c : Char) :
    charBytes c =
      if c.toNat ≤ 127 then [c.toNat]
      else if c.toNat ≤ 2047 then [c.toNat / 64 + 192, c.toNat % 64 + 128]
      else if c.toNat ≤ 65535 then
        [c.toNat / 4096 + 224, c.toNat / 64 % 64 + 128, c.toNat % 64 + 128]
      else
        [c.toNat / 262144 + 240, c.toNat / 4096 % 64 + 128, c.toNat / 64 % 64 + 128,
          c.toNat % 64 + 128] := by
  have code : c.val.toNat = c.toNat := rfl
  have bound : c.toNat < 1114112 := by
    have valid := c.valid
    simp only [UInt32.isValidChar, Nat.isValidChar, code] at valid
    omega
  simp only [charBytes, String.utf8EncodeChar.eq_def, code]
  split_ifs <;> simp <;> omega

/-- A smaller character has smaller bytes, whatever comes after them. -/
theorem charBytes_append_lt {c d : Char} (smaller : c < d) (rest rest' : List Nat) :
    charBytes c ++ rest < charBytes d ++ rest' := by
  have codes : c.toNat < d.toNat := smaller
  rw [charBytes_eq, charBytes_eq]
  split_ifs <;> simp only [List.cons_append, List.cons_lt_cons_iff] <;> omega

theorem charBytes_ne_nil (c : Char) : charBytes c ≠ [] := by
  rw [charBytes_eq]
  split_ifs <;> exact List.cons_ne_nil _ _

theorem flatMap_charBytes_lt {text other : List Char} (smaller : text < other) :
    text.flatMap charBytes < other.flatMap charBytes := by
  -- the first place at which the texts differ decides, before it the bytes are equal
  induction smaller with
  | @nil c rest =>
      obtain ⟨first, more, bytes⟩ := List.exists_cons_of_ne_nil (charBytes_ne_nil c)
      rw [List.flatMap_cons, bytes]
      exact List.nil_lt_cons _ _
  | @cons c rest rest' _ ih =>
      rw [List.flatMap_cons, List.flatMap_cons]
      exact List.Lex.append_left _ ih _
  | @rel c rest d rest' smaller =>
      rw [List.flatMap_cons, List.flatMap_cons]
      exact charBytes_append_lt smaller _ _

/-- Texts compare as their bytes do. -/
theorem bytes_lt_iff (text other : String) : bytes text < bytes other ↔ text < other := by
  have increasing : StrictMono (List.flatMap charBytes) := fun _ _ => flatMap_charBytes_lt
  rw [bytes_eq, bytes_eq, increasing.lt_iff_lt, String.lt_iff]

/-- What is sorted by texts stands in their order. -/
theorem pairwise_mergeSort {α : Type} (key : α → String) (items : List α) :
    (items.mergeSort fun a b => decide (key a ≤ key b)).Pairwise fun a b => key a ≤ key b := by
  have trans : ∀ a b c : α, decide (key a ≤ key b) = true → decide (key b ≤ key c) = true →
      decide (key a ≤ key c) = true := by
    intro a b c first second
    exact decide_eq_true
      (String.le_trans (of_decide_eq_true first) (of_decide_eq_true second))
  have total : ∀ a b : α, (decide (key a ≤ key b) || decide (key b ≤ key a)) = true := by
    intro a b
    simp [String.le_total]
  exact (List.pairwise_mergeSort trans total items).imp of_decide_eq_true

/-- The order in which texts come does not show once they are sorted. -/
theorem mergeSort_of_perm {texts others : List String} (same : texts.Perm others) :
    (texts.mergeSort fun a b => decide (a ≤ b)) = others.mergeSort fun a b => decide (a ≤ b) := by
  refine List.Perm.eq_of_pairwise ?_ (pairwise_mergeSort id texts) (pairwise_mergeSort id others)
    ((List.mergeSort_perm texts _).trans (same.trans (List.mergeSort_perm others _).symm))
  intro a b _ _ before after
  exact String.le_antisymm before after

end ChatFlow.Text
