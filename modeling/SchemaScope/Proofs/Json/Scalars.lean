import Mathlib.Algebra.Group.Int.Defs
import Mathlib.Algebra.Group.Nat.Defs
import Mathlib.Data.List.Basic
import SchemaScope.Json.Printer
import SchemaScope.Json.Reader

/-!
The texts of strings and whole numbers in JSON. A string is read up to its
closing quote, a number up to the first character that is no part of it.
-/

namespace SchemaScope.Json

section Strings

/-- The characters with an escape of their own. -/
def namedEscapes : List Char := ['"', '\\', '\x08', '\x0c', '\n', '\r', '\t']

/-- How a character is written in a string: a control without an escape of its
own by its number. -/
def writtenPiece (c : Char) : StringPiece :=
  if c ∉ namedEscapes ∧ c.toNat < 32 then .unit c.toNat else .char c

theorem escapeChar_of_notMem {c : Char} (hc : c ∉ namedEscapes) :
    escapeChar c =
      if c.toNat < 32 then '\\' :: 'u' :: hexUnit c.toNat else [c] := by
  simp only [namedEscapes, List.mem_cons, List.not_mem_nil, or_false,
    not_or] at hc
  simp [escapeChar, hc]

theorem hexNumber?_hexUnit :
    ∀ n < 32, (hexUnit n).length = 4 ∧ hexNumber? (hexUnit n) = some n := by
  decide

variable (before : List StringPiece) (rest : List Char)

theorem readPieces_hexUnit {n : Nat} (hn : n < 32) :
    readPieces before ('\\' :: 'u' :: hexUnit n ++ rest) =
      readPieces (.unit n :: before) rest := by
  obtain ⟨hlength, hnumber⟩ := hexNumber?_hexUnit n hn
  obtain ⟨a, b, c, d, hdigits⟩ := List.length_eq_four.1 hlength
  rw [hdigits] at hnumber ⊢
  simp [readPieces, hnumber]

theorem readPieces_plain {c : Char} (hc : c ∉ namedEscapes)
    (hcontrol : ¬ c.toNat < 32) :
    readPieces before (c :: rest) = readPieces (.char c :: before) rest := by
  have hquote : c ≠ '"' := by rintro rfl; simp [namedEscapes] at hc
  have hslash : c ≠ '\\' := by rintro rfl; simp [namedEscapes] at hc
  rw [readPieces]
  · simp [hcontrol, hslash]
  · exact hquote
  · simp [hslash]
  · simp [hslash]

theorem readPieces_escapeChar (c : Char) :
    readPieces before (escapeChar c ++ rest) =
      readPieces (writtenPiece c :: before) rest := by
  by_cases hc : c ∈ namedEscapes
  · have hpiece : writtenPiece c = .char c := if_neg fun h => h.1 hc
    rw [hpiece]
    simp only [namedEscapes, List.mem_cons, List.not_mem_nil, or_false] at hc
    rcases hc with rfl | rfl | rfl | rfl | rfl | rfl | rfl <;>
      simp [escapeChar, readPieces, escaped?]
  · rw [escapeChar_of_notMem hc]
    by_cases hcontrol : c.toNat < 32
    · rw [if_pos hcontrol, writtenPiece, if_pos ⟨hc, hcontrol⟩]
      exact readPieces_hexUnit before rest hcontrol
    · rw [if_neg hcontrol, writtenPiece, if_neg fun h => hcontrol h.2]
      exact readPieces_plain before rest hc hcontrol

theorem readPieces_written (cs : List Char) :
    readPieces before (cs.flatMap escapeChar ++ '"' :: rest) =
      some (before.reverse ++ cs.map writtenPiece, rest) := by
  induction cs generalizing before with
  | nil => simp [readPieces]
  | cons c cs ih =>
      rw [List.flatMap_cons, List.append_assoc, readPieces_escapeChar, ih]
      simp

variable (pieces : List StringPiece)

/-- No character that is written by its number is half of a surrogate pair. -/
theorem joinPieces_unit {n : Nat} (hn : n < 32) :
    joinPieces (.unit n :: pieces) =
      (joinPieces pieces).map (Char.ofNat n :: ·) := by
  have hhigh : ¬ 0xD800 ≤ n := by omega
  have hlow : ¬ 0xDC00 ≤ n := by omega
  match pieces with
  | [] => simp [joinPieces, hhigh]
  | .char _ :: _ => simp [joinPieces, hhigh]
  | .unit _ :: _ => simp [joinPieces, hhigh, hlow]

theorem joinPieces_writtenPiece (c : Char) :
    joinPieces (writtenPiece c :: pieces) =
      (joinPieces pieces).map (c :: ·) := by
  by_cases hunit : c ∉ namedEscapes ∧ c.toNat < 32
  · rw [writtenPiece, if_pos hunit, joinPieces_unit pieces hunit.2,
      Char.ofNat_toNat]
  · rw [writtenPiece, if_neg hunit, joinPieces]

theorem joinPieces_written (cs : List Char) :
    joinPieces (cs.map writtenPiece) = some cs := by
  induction cs with
  | nil => rfl
  | cons c cs ih =>
      rw [List.map_cons, joinPieces_writtenPiece, ih]
      rfl

theorem readString_written (s : String) :
    readString (s.toList.flatMap escapeChar ++ '"' :: rest) =
      some (s, rest) := by
  simp [readString, readPieces_written, joinPieces_written]

end Strings

section Numbers

/-- What may follow a value in a text: nothing, or the end of an item. -/
def EndsValue (rest : List Char) : Prop :=
  ∀ c ∈ rest.head?, c = ',' ∨ c = ']' ∨ c = '\x7d'

theorem EndsValue.isDigit_eq_false {rest : List Char} (h : EndsValue rest) :
    ∀ c ∈ rest.head?, c.isDigit = false := by
  intro c hc
  rcases h c hc with rfl | rfl | rfl <;> rfl

theorem takeDigits_append {digits rest : List Char}
    (hdigits : ∀ c ∈ digits, c.isDigit = true) (hrest : EndsValue rest) :
    takeDigits (digits ++ rest) = (digits, rest) := by
  have hend := hrest.isDigit_eq_false
  rw [takeDigits, List.takeWhile_append_of_pos hdigits,
    List.dropWhile_append_of_pos hdigits]
  cases rest with
  | nil => simp
  | cons c rest => simp [hend c rfl]

theorem isDigit_toDigits (n : Nat) :
    ∀ c ∈ Nat.toDigits 10 n, c.isDigit = true := fun _ hc =>
  Nat.isDigit_of_mem_toDigits (by decide) (by decide) hc

theorem exists_toDigits (n : Nat) :
    ∃ d ds, Nat.toDigits 10 n = d :: ds ∧ d.isDigit = true := by
  have hdigits := isDigit_toDigits n
  cases hcons : Nat.toDigits 10 n with
  | nil => exact absurd hcons Nat.toDigits_ne_nil
  | cons d ds =>
      rw [hcons] at hdigits
      exact ⟨d, ds, rfl, hdigits d List.mem_cons_self⟩

theorem digitsValue_toDigits (n : Nat) :
    digitsValue (Nat.toDigits 10 n) = n := by
  have hvalue : Nat.ofDigitChars 10 (Nat.toDigits 10 n) 0 = n :=
    Nat.ofDigitChars_toDigits (by decide) (by decide)
  rwa [Nat.ofDigitChars_eq_foldl] at hvalue

theorem eq_zero_of_head?_toDigits {n : Nat}
    (h : (Nat.toDigits 10 n).head? = some '0') : n = 0 := by
  induction n using Nat.strongRecOn with
  | ind n ih =>
      by_cases hn : n < 10
      · rw [Nat.toDigits_of_lt_base hn, List.head?_singleton,
          Option.some_inj] at h
        exact (by decide : ∀ n < 10, n.digitChar = '0' → n = 0) n hn h
      · have hbase : 10 ≤ n := Nat.le_of_not_lt hn
        rw [Nat.toDigits_of_base_le (by decide) hbase,
          List.head?_append_of_ne_nil _ Nat.toDigits_ne_nil] at h
        have hzero := ih (n / 10) (by omega) h
        omega

/-- No number is written with a zero in front. -/
theorem no_leading_zero (n : Nat) :
    ¬ (1 < (Nat.toDigits 10 n).length ∧
      (Nat.toDigits 10 n).head? = some '0') := by
  rintro ⟨hlength, hhead⟩
  rw [eq_zero_of_head?_toDigits hhead] at hlength
  exact absurd hlength (by decide)

theorem readPlaces_of_endsValue {rest : List Char} (h : EndsValue rest) :
    readPlaces rest = some (none, rest) := by
  cases rest with
  | nil => rfl
  | cons c rest => rcases h c rfl with rfl | rfl | rfl <;> simp [readPlaces]

theorem readExponent_of_endsValue {rest : List Char} (h : EndsValue rest) :
    readExponent rest = some (none, rest) := by
  cases rest with
  | nil => rfl
  | cons c rest => rcases h c rfl with rfl | rfl | rfl <;> simp [readExponent]

/-- A whole number behind its sign is read up to where the value ends. -/
theorem readNumber_of_sign {cs rest : List Char} {negative : Bool} {n : Nat}
    (hsign : readSign cs = (negative, Nat.toDigits 10 n ++ rest))
    (hrest : EndsValue rest) :
    readNumber cs =
      (numberValue? negative (Nat.toDigits 10 n) none none).map (·, rest) := by
  have hread : readNumber cs =
      (numberValue? negative (Nat.toDigits 10 n) none none).bind
        fun value => some (value, rest) := by
    simp [readNumber, hsign, takeDigits_append (isDigit_toDigits n) hrest,
      no_leading_zero n, readPlaces_of_endsValue hrest,
      readExponent_of_endsValue hrest]
  rw [hread, Option.map_eq_bind]
  rfl

theorem readSign_toDigits (n : Nat) (rest : List Char) :
    readSign (Nat.toDigits 10 n ++ rest) =
      (false, Nat.toDigits 10 n ++ rest) := by
  obtain ⟨d, ds, hcons, hd⟩ := exists_toDigits n
  have hsign : d ≠ '-' := by
    rintro rfl
    exact absurd hd (by decide)
  rw [hcons, List.cons_append]
  simp [readSign, hsign]

theorem numberValue?_natural {n : Nat} (hn : n < 2 ^ 64) :
    numberValue? false (Nat.toDigits 10 n) none none =
      some (.integer n) := by
  simp only [numberValue?, digitsValue_toDigits]
  rw [if_pos]
  · simp
  · simp
    omega

theorem numberValue?_negative {n : Nat} (hpos : 0 < n) (hn : n ≤ 2 ^ 63) :
    numberValue? true (Nat.toDigits 10 n) none none =
      some (.integer (-n)) := by
  simp only [numberValue?, digitsValue_toDigits]
  rw [if_pos]
  · simp
  · simp
    omega

end Numbers

end SchemaScope.Json
