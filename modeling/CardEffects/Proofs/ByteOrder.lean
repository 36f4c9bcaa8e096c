import Mathlib.Data.String.Basic
import Mathlib.Tactic.SplitIfs

/-!
# Texts in byte order

To compare texts by code points is to compare their UTF-8 forms byte by byte: the first byte of a
character tells how many bytes it has, and characters of as many bytes differ first in the highest
digit that differs.
-/

namespace CardEffects.Text

def bytes (s : String) : List UInt8 := s.toUTF8.data.toList

theorem bytes_eq_flatMap (s : String) : bytes s = s.toList.flatMap String.utf8EncodeChar := by
  calc bytes s
    _ = (String.ofList s.toList).toByteArray.data.toList := by rw [String.ofList_toList]; rfl
    _ = s.toList.utf8Encode.data.toList := by rw [String.toByteArray_ofList]
    _ = s.toList.flatMap String.utf8EncodeChar := by rw [List.utf8Encode, List.data_toByteArray]

theorem toNat_lt (c : Char) : c.toNat < 0x110000 := by
  rcases c.valid with low | ⟨-, high⟩
  · exact Nat.lt_trans low (by decide)
  · exact high

theorem utf8EncodeChar_append_lt {c d : Char} (lt : c < d) (xs ys : List UInt8) :
    String.utf8EncodeChar c ++ xs < String.utf8EncodeChar d ++ ys := by
  have less : c.toNat < d.toNat := lt
  have smallc := toNat_lt c
  have smalld := toNat_lt d
  -- the two last of four digits count only if the two first agree
  have digits : c.toNat / 4096 < d.toNat / 4096 ∨
      c.toNat / 4096 = d.toNat / 4096 ∧ c.toNat % 4096 < d.toNat % 4096 := by omega
  have first (n : Nat) : n / 262144 = n / 4096 / 64 := by omega
  simp only [String.utf8EncodeChar, Char.toNat_val, first]
  split_ifs <;>
    simp only [List.cons_append, List.nil_append, List.cons_lt_cons_iff, UInt8.lt_iff_toNat_lt,
      ← UInt8.toNat_inj, UInt8.toNat_ofNat']
  all_goals rcases digits with high | ⟨high, low⟩ <;> omega

theorem flatMap_utf8EncodeChar_lt {cs ds : List Char} (lt : cs < ds) :
    cs.flatMap String.utf8EncodeChar < ds.flatMap String.utf8EncodeChar := by
  induction lt with
  | @nil d ds =>
    rw [List.flatMap_nil, List.flatMap_cons]
    cases bytes : String.utf8EncodeChar d with
    | nil => exact absurd bytes String.utf8EncodeChar_ne_nil
    | cons b rest => exact .nil
  | rel less =>
    rw [List.flatMap_cons, List.flatMap_cons]
    exact utf8EncodeChar_append_lt less _ _
  | cons _ ih =>
    rw [List.flatMap_cons, List.flatMap_cons]
    exact List.append_left_lt ih

theorem bytes_lt_of_lt {s t : String} (lt : s < t) : bytes s < bytes t := by
  rw [bytes_eq_flatMap, bytes_eq_flatMap]
  exact flatMap_utf8EncodeChar_lt (String.lt_iff_toList_lt.mp lt)

theorem bytes_lt_iff {s t : String} : bytes s < bytes t ↔ s < t := by
  refine ⟨fun less => ?_, bytes_lt_of_lt⟩
  rcases lt_trichotomy s t with lt | rfl | gt
  · exact lt
  · exact absurd less (List.lt_irrefl _)
  · exact absurd less (List.lt_asymm (bytes_lt_of_lt gt))

end CardEffects.Text
