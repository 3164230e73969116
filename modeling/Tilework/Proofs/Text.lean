import Mathlib.Data.String.Basic
import Tilework.Bytes

/-!
# The order of texts

Texts are compared character by character, and their spellings in UTF-8 byte by byte.  Both
comparisons agree: of two different characters the smaller one has the smaller spelling,
whatever follows.
-/

namespace Tilework.Bytes

theorem ofText_eq_flatMap (text : String) :
    ofText text = text.toList.flatMap String.utf8EncodeChar := by
  rw [ofText, String.toUTF8_eq_toByteArray, ← String.utf8Encode_toList, List.utf8Encode,
    List.data_toByteArray]

/-- The spelling of a smaller character decides a comparison. -/
theorem utf8EncodeChar_append_lt {c d : Char} (less : c < d) (rest other : Bytes) :
    String.utf8EncodeChar c ++ rest < String.utf8EncodeChar d ++ other := by
  have valid := d.valid
  simp only [UInt32.isValidChar, Nat.isValidChar] at valid
  have below : c.val.toNat < d.val.toNat := less
  -- The digits to base 64 are compared one after another, each with what is left of the number.
  have digits (n : Nat) : n / 4096 = n / 64 / 64 ∧ n / 262144 = n / 64 / 64 / 64 := by omega
  simp only [String.utf8EncodeChar, digits]
  generalize c.val.toNat = n at below
  generalize d.val.toNat = m at below valid
  -- A longer spelling has a greater first byte.
  split_ifs <;>
    simp only [List.cons_append, List.nil_append, List.cons_lt_cons_iff, UInt8.lt_iff_toNat_lt,
      ← UInt8.toNat_inj, UInt8.toNat_ofNat'] <;>
    omega

theorem flatMap_utf8EncodeChar_lt {text other : List Char} (less : text < other) :
    text.flatMap String.utf8EncodeChar < other.flatMap String.utf8EncodeChar := by
  induction text generalizing other with
  | nil =>
      cases other with
      | nil => exact absurd less (List.lt_irrefl [])
      | cons d other =>
          rw [List.flatMap_nil, List.flatMap_cons]
          cases spelled : String.utf8EncodeChar d with
          | nil => exact absurd spelled String.utf8EncodeChar_ne_nil
          | cons byte bytes => exact List.nil_lt_cons _ _
  | cons c text ih =>
      cases other with
      | nil => exact absurd less (List.not_lt_nil _)
      | cons d other =>
          rw [List.flatMap_cons, List.flatMap_cons]
          rcases List.cons_lt_cons_iff.mp less with first | ⟨rfl, later⟩
          · exact utf8EncodeChar_append_lt first _ _
          · exact List.append_left_lt (ih later)

/-- Texts are in the same order as their spellings. -/
theorem ofText_lt_ofText_iff {text other : String} : ofText text < ofText other ↔ text < other := by
  have spelled {text other : String} (less : text < other) : ofText text < ofText other := by
    rw [ofText_eq_flatMap, ofText_eq_flatMap]
    exact flatMap_utf8EncodeChar_lt (String.lt_iff_toList_lt.mp less)
  refine ⟨fun less => ?_, spelled⟩
  by_contra not_less
  rcases eq_or_lt_of_le (not_lt.mp not_less) with rfl | greater
  · exact List.lt_irrefl _ less
  · exact List.lt_irrefl _ (List.lt_trans less (spelled greater))

end Tilework.Bytes
