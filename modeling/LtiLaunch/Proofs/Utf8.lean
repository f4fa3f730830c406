import LtiLaunch.Text.Utf8
import Mathlib.Tactic.SplitIfs

/-!
# The order of texts

Texts are ordered by their characters, and their bytes are ordered the same way: the bytes of a
character tell it from a later one before they end, by the lead byte or by the six bits of a byte
behind it.
-/

namespace LtiLaunch.Text

theorem cons_byte_lt_iff {n m : Nat} (hn : n < 256) (hm : m < 256) (xs ys : List UInt8) :
    UInt8.ofNat n :: xs < UInt8.ofNat m :: ys ↔ n < m ∨ n = m ∧ xs < ys := by
  rw [List.cons_lt_cons_iff, UInt8.ofNat_lt_iff_lt hn hm, ← UInt8.toNat_inj, Utf8.toNat_byte hn,
    Utf8.toNat_byte hm]

theorem utf8Char_ne_nil (c : Char) : utf8Char c ≠ [] := by
  unfold utf8Char
  dsimp only
  split_ifs <;> exact List.cons_ne_nil _ _

theorem utf8Char_append_lt {c d : Char} (lt : c < d) (xs ys : List UInt8) :
    utf8Char c ++ xs < utf8Char d ++ ys := by
  have lt : c.toNat < d.toNat := lt
  have valid : d.toNat < 0xD800 ∨ (0xDFFF < d.toNat ∧ d.toNat < 0x110000) := d.valid
  unfold utf8Char
  generalize c.toNat = n at lt
  generalize d.toNat = m at lt valid
  dsimp only
  split_ifs <;>
    simp (disch := omega) only [List.cons_append, List.nil_append, cons_byte_lt_iff] <;> omega

theorem utf8_lt_utf8 {cs ds : List Char} (lt : cs < ds) : utf8 cs < utf8 ds := by
  induction cs generalizing ds with
  | nil =>
    cases ds with
    | nil => exact absurd lt (List.not_lt_nil _)
    | cons d ds =>
      obtain ⟨b, bs, h⟩ := List.exists_cons_of_ne_nil (utf8Char_ne_nil d)
      rw [utf8, utf8, List.flatMap_cons, h]
      exact List.nil_lt_cons _ _
  | cons c cs ih =>
    cases ds with
    | nil => exact absurd lt (List.not_lt_nil _)
    | cons d ds =>
      rw [utf8, utf8, List.flatMap_cons, List.flatMap_cons]
      rcases List.cons_lt_cons_iff.mp lt with earlier | ⟨rfl, rest⟩
      · exact utf8Char_append_lt earlier _ _
      · exact List.append_left_lt (ih rest)

/-- Of two texts in order, the first is the first by its bytes too. -/
theorem utf8_lt_of_compare {s t : String} (order : compare s t = .lt) :
    utf8 s.toList < utf8 t.toList :=
  utf8_lt_utf8 (String.lt_iff.mp (compareOfLessAndEq_eq_lt.mp order))

end LtiLaunch.Text
