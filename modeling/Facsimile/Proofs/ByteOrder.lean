import Mathlib.Order.Basic

/-!
# The order of texts

Texts are compared by their code points.  Their UTF-8 bytes are ordered in the same way, since more
bytes start with a higher first byte, and among as many the earlier ones carry the higher digits of
the code point (`bytes_lt_iff`).
-/

namespace Facsimile
namespace Text

/-- The UTF-8 form of a text. -/
def bytes (s : String) : List UInt8 := s.toByteArray.data.toList

open String (utf8EncodeChar)

theorem bytes_eq_flatMap (s : String) : bytes s = s.toList.flatMap utf8EncodeChar := by
  unfold bytes
  rw [← String.utf8Encode_toList, List.utf8Encode, List.toList_data_toByteArray]

theorem div_lt_or_mod_lt {v w : Nat} (h : v < w) :
    v / 64 < w / 64 ∨ (v / 64 = w / 64 ∧ v % 64 < w % 64) := by
  omega

/-- The bytes of two characters differ in order before either ends, so what follows does not count.
-/
theorem utf8EncodeChar_append_lt {c d : Char} (h : c < d) (s t : List UInt8) :
    utf8EncodeChar c ++ s < utf8EncodeChar d ++ t := by
  have hlt : c.val.toNat < d.val.toNat := UInt32.lt_iff_toNat_lt.mp h
  have hmax : d.val.toNat < 0x110000 := by
    rcases d.valid with hd | hd
    · exact Nat.lt_trans hd (by decide)
    · exact hd.2
  unfold utf8EncodeChar
  simp only
  generalize c.val.toNat = v at *
  generalize d.val.toNat = w at *
  by_cases hfour : v ≤ 0xffff
  · split_ifs
    all_goals
      simp only [List.cons_append, List.nil_append, List.cons_lt_cons_iff,
        UInt8.lt_iff_toNat_lt, ← UInt8.toNat_inj, UInt8.toNat_ofNat']
      omega
  · -- Four bytes on both sides: the first digit that differs decides.
    have hv : ¬v ≤ 0x7f ∧ ¬v ≤ 0x7ff := by omega
    have hw : ¬w ≤ 0x7f ∧ ¬w ≤ 0x7ff ∧ ¬w ≤ 0xffff := by omega
    simp only [if_neg hfour, if_neg hv.1, if_neg hv.2, if_neg hw.1, if_neg hw.2.1, if_neg hw.2.2,
      List.cons_append, List.nil_append, List.cons_lt_cons_iff, UInt8.lt_iff_toNat_lt,
      ← UInt8.toNat_inj, UInt8.toNat_ofNat']
    have hthree : v / 64 / 64 = v / 4096 ∧ w / 64 / 64 = w / 4096 := by omega
    have hfirst : v / 4096 / 64 = v / 262144 ∧ w / 4096 / 64 = w / 262144 := by omega
    rcases div_lt_or_mod_lt hlt with hlt | ⟨heq, hlast⟩
    · rcases div_lt_or_mod_lt hlt with hlt | ⟨heq, hthird⟩
      · rw [hthree.1, hthree.2] at hlt
        rcases div_lt_or_mod_lt hlt with hlt | ⟨heq, hsecond⟩
        · exact Or.inl (by omega)
        · exact Or.inr ⟨by omega, Or.inl (by omega)⟩
      · exact Or.inr ⟨by omega, Or.inr ⟨by omega, Or.inl (by omega)⟩⟩
    · exact Or.inr ⟨by omega, Or.inr ⟨by omega, Or.inr ⟨by omega, Or.inl (by omega)⟩⟩⟩

theorem append_lt_append {front s t : List UInt8} (h : s < t) : front ++ s < front ++ t := by
  induction front with
  | nil => exact h
  | cons b front ih => exact List.cons_lt_cons_iff.mpr (Or.inr ⟨rfl, ih⟩)

theorem flatMap_utf8EncodeChar_lt {l m : List Char} (h : l < m) :
    l.flatMap utf8EncodeChar < m.flatMap utf8EncodeChar := by
  induction h with
  | @nil d m =>
    obtain ⟨b, rest, hb⟩ := List.exists_cons_of_ne_nil (String.utf8EncodeChar_ne_nil (c := d))
    rw [List.flatMap_cons, hb]
    exact List.Lex.nil
  | @cons c l m _ ih =>
    rw [List.flatMap_cons, List.flatMap_cons]
    exact append_lt_append ih
  | rel h =>
    rw [List.flatMap_cons, List.flatMap_cons]
    exact utf8EncodeChar_append_lt h _ _

theorem bytes_lt {s t : String} (h : s < t) : bytes s < bytes t := by
  rw [bytes_eq_flatMap, bytes_eq_flatMap]
  exact flatMap_utf8EncodeChar_lt h

/-- The order of texts is that of their bytes. -/
theorem bytes_lt_iff {s t : String} : bytes s < bytes t ↔ s < t := by
  refine ⟨fun h => ?_, bytes_lt⟩
  by_contra hno
  by_cases hgt : t < s
  · exact List.lt_asymm h (bytes_lt hgt)
  · have heq : s = t := String.le_antisymm (String.not_lt.mp hgt) (String.not_lt.mp hno)
    rw [heq] at h
    exact List.lt_irrefl _ h

theorem bytes_le_iff {s t : String} : bytes s ≤ bytes t ↔ s ≤ t := by
  rw [← not_iff_not, List.not_le, String.not_le, bytes_lt_iff]

end Text
end Facsimile
