import Mathlib.Data.List.Basic

/-!
# The order of texts by their bytes

The database compares texts byte by byte. In UTF-8 this is the order of their characters, which is
the order `<` of `String`: a character of more bytes begins with a greater byte, and of two
characters of as many bytes the bytes are the digits of their numbers.

* `Text.utf8EncodeChar_append_lt`: the first character that differs decides;
* `Text.lt_iff_bytes_lt`: texts are in order if and only if their bytes are.
-/

namespace ProcessMigration.Text

/-- The bytes of a text in UTF-8. -/
def bytes (s : String) : List UInt8 := s.toUTF8.data.toList

theorem bytes_eq (s : String) : bytes s = s.toList.flatMap String.utf8EncodeChar := by
  show s.toByteArray.data.toList = _
  rw [← String.utf8Encode_toList]
  exact List.toList_data_toByteArray

/-- A smaller first byte decides. -/
theorem cons_byte_lt {a b : Nat} (hlt : a < b) (hb : b < 256) (xs ys : List UInt8) :
    UInt8.ofNat a :: xs < UInt8.ofNat b :: ys := by
  rw [List.cons_lt_cons_iff, UInt8.lt_iff_toNat_lt, UInt8.toNat_ofNat', UInt8.toNat_ofNat']
  exact .inl (by omega)

/-- A first byte that is not greater leaves the decision to the others if it is the same. -/
theorem cons_byte_lt_of_le {a b : Nat} (hle : a ≤ b) (hb : b < 256) {xs ys : List UInt8}
    (h : a = b → xs < ys) : UInt8.ofNat a :: xs < UInt8.ofNat b :: ys := by
  rcases Nat.lt_or_eq_of_le hle with hlt | rfl
  · exact cons_byte_lt hlt hb xs ys
  · exact List.cons_lt_cons_iff.2 (.inr ⟨rfl, h rfl⟩)

/-- Smaller characters have smaller bytes, whatever follows them. -/
theorem utf8EncodeChar_append_lt {c d : Char} (h : c < d) (xs ys : List UInt8) :
    String.utf8EncodeChar c ++ xs < String.utf8EncodeChar d ++ ys := by
  have hlt : c.val.toNat < d.val.toNat := h
  have hmax : d.val.toNat < 0x110000 := by
    have hvalid := d.valid
    unfold UInt32.isValidChar Nat.isValidChar at hvalid
    omega
  unfold String.utf8EncodeChar
  dsimp only
  generalize c.val.toNat = m at hlt
  generalize d.val.toNat = n at hlt hmax
  -- the cases are those of the number of bytes of `d`, and in each those of `c`, which has no more
  by_cases hone : n ≤ 127
  · rw [if_pos (by omega), if_pos hone]
    exact cons_byte_lt hlt (by omega) _ _
  rw [if_neg hone]
  by_cases htwo : n ≤ 2047
  · rw [if_pos htwo]
    split
    · exact cons_byte_lt (by omega) (by omega) _ _
    · rw [if_pos (by omega)]
      refine cons_byte_lt_of_le (by omega) (by omega) ?_
      intro _
      exact cons_byte_lt (by omega) (by omega) _ _
  rw [if_neg htwo]
  by_cases hthree : n ≤ 65535
  · rw [if_pos hthree]
    split
    · exact cons_byte_lt (by omega) (by omega) _ _
    split
    · exact cons_byte_lt (by omega) (by omega) _ _
    · rw [if_pos (by omega)]
      refine cons_byte_lt_of_le (by omega) (by omega) ?_
      intro _
      refine cons_byte_lt_of_le (by omega) (by omega) ?_
      intro _
      exact cons_byte_lt (by omega) (by omega) _ _
  rw [if_neg hthree]
  split
  · exact cons_byte_lt (by omega) (by omega) _ _
  split
  · exact cons_byte_lt (by omega) (by omega) _ _
  split
  · exact cons_byte_lt (by omega) (by omega) _ _
  · refine cons_byte_lt_of_le (by omega) (by omega) ?_
    intro _
    refine cons_byte_lt_of_le (by omega) (by omega) ?_
    intro _
    refine cons_byte_lt_of_le (by omega) (by omega) ?_
    intro _
    exact cons_byte_lt (by omega) (by omega) _ _

theorem flatMap_utf8EncodeChar_lt {cs ds : List Char} (h : cs < ds) :
    cs.flatMap String.utf8EncodeChar < ds.flatMap String.utf8EncodeChar := by
  induction cs generalizing ds with
  | nil =>
    cases ds with
    | nil => exact absurd h (List.not_lt_nil [])
    | cons d rest =>
      rw [List.flatMap_nil, List.flatMap_cons]
      cases hbytes : String.utf8EncodeChar d with
      | nil => exact absurd hbytes String.utf8EncodeChar_ne_nil
      | cons b others => exact List.nil_lt_cons _ _
  | cons c rest ih =>
    cases ds with
    | nil => exact absurd h (List.not_lt_nil _)
    | cons d others =>
      rw [List.flatMap_cons, List.flatMap_cons]
      rcases List.cons_lt_cons_iff.1 h with hlt | ⟨rfl, hrest⟩
      · exact utf8EncodeChar_append_lt hlt _ _
      · exact List.append_left_lt (ih hrest)

/-- Texts are in order exactly if their bytes are. -/
theorem lt_iff_bytes_lt {a b : String} : a < b ↔ bytes a < bytes b := by
  have hforth : ∀ {a b : String}, a < b → bytes a < bytes b := by
    intro a b h
    rw [bytes_eq, bytes_eq]
    exact flatMap_utf8EncodeChar_lt (String.lt_iff.1 h)
  refine ⟨hforth, ?_⟩
  intro h
  by_contra hnot
  by_cases hback : b < a
  · exact List.lt_irrefl _ (List.lt_trans h (hforth hback))
  · have hsame := String.le_antisymm (String.not_lt.1 hback) (String.not_lt.1 hnot)
    rw [hsame] at h
    exact List.lt_irrefl _ h

end ProcessMigration.Text
