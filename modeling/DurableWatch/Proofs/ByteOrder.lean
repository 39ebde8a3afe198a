import Mathlib.Data.String.Basic
import Mathlib.Tactic

/-!
# Texts in the order of their bytes

Texts are compared character by character. In UTF-8 the encoding of a smaller character is smaller
at the first byte that differs, so the bytes of two texts compare as the texts do.
-/
namespace DurableWatch.Text

/-- The bytes of a text in UTF-8. -/
def bytes (s : String) : List UInt8 := s.toUTF8.data.toList

theorem bytes_eq (s : String) : bytes s = s.toList.flatMap String.utf8EncodeChar := by
  rw [bytes, String.toUTF8, ← String.utf8Encode_toList, List.utf8Encode,
    List.toList_data_toByteArray]

theorem ofNat_cons_lt {m n : Nat} (hm : m < 256) (hn : n < 256) {xs ys : List UInt8} :
    UInt8.ofNat m :: xs < UInt8.ofNat n :: ys ↔ m < n ∨ m = n ∧ xs < ys := by
  rw [List.cons_lt_cons_iff, UInt8.lt_iff_toNat_lt, ← UInt8.toNat_inj, UInt8.toNat_ofNat_of_lt' hm,
    UInt8.toNat_ofNat_of_lt' hn]

/-- Six bits are cut from the end of either number. -/
theorem div_lt_or_mod_lt {v w : Nat} (less : v < w) :
    v / 64 < w / 64 ∨ v / 64 = w / 64 ∧ v % 64 < w % 64 := by
  omega

/-- The encodings differ where both have a byte, and there the smaller character's is smaller. -/
theorem encoding_lt {c d : Char} (less : c < d) (xs ys : List UInt8) :
    String.utf8EncodeChar c ++ xs < String.utf8EncodeChar d ++ ys := by
  have first : c.val.toNat < d.val.toNat := less
  have bound : d.val.toNat < 1114112 := by
    rcases d.valid with low | ⟨-, high⟩
    · exact lt_trans low (by decide)
    · exact high
  unfold String.utf8EncodeChar
  generalize c.val.toNat = v at *
  generalize d.val.toNat = w at *
  -- the bytes are the number in pieces of six bits, and three bits before them
  have second := div_lt_or_mod_lt first
  have third := @div_lt_or_mod_lt (v / 64) (w / 64)
  have fourth := @div_lt_or_mod_lt (v / 64 / 64) (w / 64 / 64)
  simp only [Nat.div_div_eq_div_mul, Nat.reduceMul] at third fourth
  have top : v / 262144 % 8 = v / 262144 := Nat.mod_eq_of_lt (by omega)
  have top' : w / 262144 % 8 = w / 262144 := Nat.mod_eq_of_lt (by omega)
  dsimp only
  rw [top, top']
  split_ifs <;>
    simp (disch := omega) only [List.cons_append, List.nil_append, ofNat_cons_lt] <;> omega

theorem flatMap_encoding_lt {cs ds : List Char} (less : cs < ds) :
    cs.flatMap String.utf8EncodeChar < ds.flatMap String.utf8EncodeChar := by
  induction cs generalizing ds with
  | nil =>
    cases ds with
    | nil => simp at less
    | cons d ds =>
      obtain ⟨b, bs, hd⟩ := List.exists_cons_of_ne_nil (String.utf8EncodeChar_ne_nil (c := d))
      rw [List.flatMap_cons, hd]
      exact List.nil_lt_cons _ _
  | cons c cs ih =>
    cases ds with
    | nil => simp at less
    | cons d ds =>
      rw [List.flatMap_cons, List.flatMap_cons]
      rcases List.cons_lt_cons_iff.1 less with first | ⟨rfl, rest⟩
      · exact encoding_lt first _ _
      · exact List.append_left_lt (ih rest)

/-- The bytes of texts compare as the texts do. -/
theorem bytes_lt_bytes {s t : String} : bytes s < bytes t ↔ s < t := by
  have up {s t : String} (less : s < t) : bytes s < bytes t := by
    rw [bytes_eq, bytes_eq]
    exact flatMap_encoding_lt (String.lt_iff_toList_lt.1 less)
  refine ⟨fun less => ?_, up⟩
  by_contra notLess
  rcases lt_or_eq_of_le (String.not_lt.1 notLess) with more | rfl
  · exact List.lt_asymm less (up more)
  · exact List.lt_irrefl _ less

end DurableWatch.Text
