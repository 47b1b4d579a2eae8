import Mathlib.Data.List.Basic
import Mathlib.Data.String.Basic

/-!
Texts as bytes. Main statement: the order of texts by their UTF-8 bytes is the
order by their characters.
-/

namespace SchemaScope.Text

/-- The bytes of a text. -/
def bytes (s : String) : List UInt8 := s.toUTF8.data.toList

theorem bytes_eq_flatMap (s : String) :
    bytes s = s.toList.flatMap String.utf8EncodeChar := by
  conv => lhs; rw [← String.ofList_toList (s := s)]
  rw [bytes, String.toUTF8_eq_toByteArray, String.toByteArray_ofList,
    List.utf8Encode, List.data_toByteArray]

theorem byte_cons_lt_iff {m n : Nat} (hm : m < 256) (hn : n < 256)
    {s t : List UInt8} :
    UInt8.ofNat m :: s < UInt8.ofNat n :: t ↔ m < n ∨ m = n ∧ s < t := by
  rw [List.cons_lt_cons_iff, UInt8.lt_iff_toNat_lt, ← UInt8.toNat_inj,
    UInt8.toNat_ofNat', UInt8.toNat_ofNat', Nat.mod_eq_of_lt hm,
    Nat.mod_eq_of_lt hn]

/-- The order of numbers is that of their digits, as four bytes hold them. -/
theorem digits_lt_of_lt {m n : Nat} (h : m < n) (hn : n < 2097152) :
    m / 262144 % 8 < n / 262144 % 8 ∨
      m / 262144 % 8 = n / 262144 % 8 ∧
        (m / 4096 % 64 < n / 4096 % 64 ∨
          m / 4096 % 64 = n / 4096 % 64 ∧
            (m / 64 % 64 < n / 64 % 64 ∨
              m / 64 % 64 = n / 64 % 64 ∧ m % 64 < n % 64)) := by
  have hm8 : m / 262144 < 8 := by omega
  have hn8 : n / 262144 < 8 := by omega
  rw [Nat.mod_eq_of_lt hm8, Nat.mod_eq_of_lt hn8]
  omega

/-- The bytes of a smaller character are smaller, whatever follows them. -/
theorem utf8EncodeChar_append_lt {c d : Char} (h : c < d)
    (s t : List UInt8) :
    String.utf8EncodeChar c ++ s < String.utf8EncodeChar d ++ t := by
  have hlt : c.val.toNat < d.val.toNat := h
  have hd : d.val.toNat < 2097152 := by
    rcases d.valid with hd | hd
    · exact Nat.lt_trans hd (by decide)
    · exact Nat.lt_trans hd.2 (by decide)
  simp only [String.utf8EncodeChar]
  generalize c.val.toNat = m at hlt
  generalize d.val.toNat = n at hlt hd
  -- Two characters of four bytes are told apart by any of their four digits.
  by_cases hwide : m ≤ 65535
  · split_ifs
    all_goals
      simp (disch := omega) only [List.cons_append, List.nil_append,
        byte_cons_lt_iff, Nat.add_lt_add_iff_right, Nat.add_right_cancel_iff]
      omega
  · simp (disch := omega) only [if_neg, List.cons_append, List.nil_append,
      byte_cons_lt_iff, Nat.add_lt_add_iff_right, Nat.add_right_cancel_iff]
    rcases digits_lt_of_lt hlt hd with h1 | ⟨h1, h2 | ⟨h2, h3 | ⟨h3, h4⟩⟩⟩
    · exact .inl h1
    · exact .inr ⟨h1, .inl h2⟩
    · exact .inr ⟨h1, .inr ⟨h2, .inl h3⟩⟩
    · exact .inr ⟨h1, .inr ⟨h2, .inr ⟨h3, .inl h4⟩⟩⟩

theorem flatMap_utf8EncodeChar_lt {s t : List Char} (h : s < t) :
    s.flatMap String.utf8EncodeChar < t.flatMap String.utf8EncodeChar := by
  induction h with
  | @nil c t =>
      obtain ⟨first, rest, hbytes⟩ :=
        List.exists_cons_of_ne_nil (String.utf8EncodeChar_ne_nil (c := c))
      rw [List.flatMap_cons, hbytes]
      exact List.nil_lt_cons _ _
  | @rel c s d t hcd => exact utf8EncodeChar_append_lt hcd _ _
  | @cons c s t _ ih => exact List.append_left_lt ih

/-- Texts are in the order of their bytes when they are in the order of their
characters. -/
theorem bytes_lt_iff {s t : String} : bytes s < bytes t ↔ s < t := by
  have hforth : ∀ {s t : String}, s < t → bytes s < bytes t := by
    intro s t h
    rw [bytes_eq_flatMap, bytes_eq_flatMap]
    exact flatMap_utf8EncodeChar_lt (String.lt_iff_toList_lt.1 h)
  refine ⟨fun h => ?_, hforth⟩
  rcases lt_trichotomy s t with hlt | rfl | hgt
  · exact hlt
  · exact absurd h (List.lt_irrefl _)
  · exact absurd h (List.lt_asymm (hforth hgt))

end SchemaScope.Text
