import Mathlib.Data.List.DropRight
import SchemaScope.Proofs.Text.Lines
import SchemaScope.Text.Cursor

/-!
Places in a text. A place counts characters by their UTF-16 units, while a text
is cut at byte offsets, and a name before a place ends where the place is. Main
statement: the name before a place is the longest one that ends there, and the
offsets between which it stands never fall inside a character.
-/

namespace SchemaScope.Text

section Units

theorem unitWidth_pos (c : Char) : 0 < unitWidth c := by
  rw [unitWidth]
  split <;> decide

theorem units_cons (c : Char) (cs : List Char) :
    units (c :: cs) = unitWidth c + units cs := rfl

theorem takeUnits_zero (cs : List Char) : takeUnits 0 cs = [] := by
  cases cs <;> rfl

theorem takeUnits_nil (n : Nat) : takeUnits n [] = [] := by
  cases n <;> rfl

theorem takeUnits_cons {n : Nat} (h : 0 < n) (c : Char) (rest : List Char) :
    takeUnits n (c :: rest) = c :: takeUnits (n - unitWidth c) rest := by
  cases n with
  | zero => cases h
  | succ n => rfl

theorem takeUnits_append (head rest : List Char) (n : Nat) :
    takeUnits (units head + n) (head ++ rest) = head ++ takeUnits n rest := by
  induction head with
  | nil =>
      rw [units, List.foldr_nil, Nat.zero_add, List.nil_append,
        List.nil_append]
  | cons c head ih =>
      have hpos : 0 < units (c :: head) + n :=
        Nat.add_pos_left (Nat.add_pos_left (unitWidth_pos c) _) n
      rw [List.cons_append, takeUnits_cons hpos, units_cons, Nat.add_assoc,
        Nat.add_sub_cancel_left, ih, List.cons_append]

theorem takeUnits_units (head tail : List Char) :
    takeUnits (units head) (head ++ tail) = head := by
  have h := takeUnits_append head tail 0
  rwa [Nat.add_zero, takeUnits_zero, List.append_nil] at h

/-- Within a surrogate pair the whole character is taken. -/
theorem takeUnits_inside (head tail : List Char) (c : Char) :
    takeUnits (units head + 1) (head ++ c :: tail) = head ++ [c] := by
  rw [takeUnits_append, takeUnits_cons Nat.one_pos,
    Nat.sub_eq_zero_of_le (unitWidth_pos c), takeUnits_zero]

theorem takeUnits_of_le {line : List Char} {n : Nat} (h : units line ≤ n) :
    takeUnits n line = line := by
  have happend := takeUnits_append line [] (n - units line)
  rwa [Nat.add_sub_cancel' h, takeUnits_nil, List.append_nil] at happend

theorem takeUnits_prefix (n : Nat) (cs : List Char) :
    takeUnits n cs <+: cs := by
  induction cs generalizing n with
  | nil => simp [takeUnits_nil]
  | cons c cs ih =>
      cases n with
      | zero => exact List.nil_prefix
      | succ n => exact List.cons_prefix_cons.2 ⟨rfl, ih _⟩

end Units

/-- The longest end of a text whose characters all have a property. -/
structure LongestEnd (p : Char → Bool) (cs found : List Char) : Prop where
  isSuffix : found <:+ cs
  all : ∀ c ∈ found, p c
  longest : ∀ other, other <:+ cs → (∀ c ∈ other, p c) → other <:+ found

theorem longestEnd_takeEndWhile (p : Char → Bool) (cs : List Char) :
    LongestEnd p cs (takeEndWhile p cs) where
  isSuffix := List.rtakeWhile_suffix p cs
  all _ := List.mem_rtakeWhile_imp
  longest := by
    rintro other ⟨before, rfl⟩ hall
    rw [takeEndWhile, List.reverse_append, List.takeWhile_append_of_pos
      fun c hc => hall c (List.mem_reverse.1 hc), List.reverse_append,
      List.reverse_reverse]
    exact List.suffix_append _ _

section Bytes

/-- The number of bytes of a text. -/
def byteLength (cs : List Char) : Nat :=
  cs.foldr (fun c count => c.utf8Size + count) 0

/-- The characters of a text with the offsets in bytes at which they begin,
counted from a given one. -/
def charOffsets : Nat → List Char → List (Nat × Char)
  | _, [] => []
  | offset, c :: rest => (offset, c) :: charOffsets (offset + c.utf8Size) rest

/-- The offset of the first character that has at least as many units before it
as are asked for, or a default one. -/
def offsetAfter (target fallback : Nat) : Nat → List (Nat × Char) → Nat
  | _, [] => fallback
  | count, (offset, c) :: rest =>
    if target ≤ count then offset
    else offsetAfter target fallback (count + unitWidth c) rest

/-- The offset in bytes of a place in a line. -/
def byteOffset (line : List Char) (character : Nat) : Nat :=
  offsetAfter character (byteLength line) 0 (charOffsets 0 line)

/-- A text cut at an offset in bytes. An offset inside a character or behind the
end cuts nothing. -/
def cutAt? : Nat → List Char → Option (List Char × List Char)
  | 0, cs => some ([], cs)
  | _ + 1, [] => none
  | n + 1, c :: rest =>
    if c.utf8Size ≤ n + 1 then
      (cutAt? (n + 1 - c.utf8Size) rest).map fun (before, after) =>
        (c :: before, after)
    else none

/-- The offset at which the name at the end of a text begins: that of the last
character which a search from the end still takes. -/
def nameOffset (head : List Char) (stop : Nat) : Nat :=
  let taken := (charOffsets 0 head).reverse.takeWhile fun entry =>
    isIdentifierChar entry.2
  (taken.getLast?.map Prod.fst).getD stop

/-- The name before a place, cut out of its line at offsets in bytes. -/
def cutIdentifier? (text : String) (position : Position) : Option String :=
  match (lines text.toList)[position.line]? with
  | none => some ""
  | some line => do
    let stop := byteOffset line position.character
    let (head, _) ← cutAt? stop line
    let (_, name) ← cutAt? (nameOffset head stop) head
    return String.ofList name

theorem byteLength_cons (c : Char) (cs : List Char) :
    byteLength (c :: cs) = c.utf8Size + byteLength cs := rfl

theorem cutAt?_append (before after : List Char) :
    cutAt? (byteLength before) (before ++ after) = some (before, after) := by
  induction before with
  | nil => rw [byteLength, List.foldr_nil, cutAt?, List.nil_append]
  | cons c before ih =>
      obtain ⟨n, hn⟩ : ∃ n, byteLength (c :: before) = n + 1 :=
        Nat.exists_eq_succ_of_ne_zero
          (Nat.ne_of_gt (Nat.add_pos_left c.utf8Size_pos _))
      have hfits : c.utf8Size ≤ n + 1 := hn ▸ Nat.le_add_right _ _
      have hrest : n + 1 - c.utf8Size = byteLength before := by
        rw [← hn, byteLength_cons, Nat.add_sub_cancel_left]
      rw [hn, List.cons_append, cutAt?, if_pos hfits, hrest, ih]
      rfl

theorem charOffsets_append (before after : List Char) (offset : Nat) :
    charOffsets offset (before ++ after) =
      charOffsets offset before ++
        charOffsets (offset + byteLength before) after := by
  induction before generalizing offset with
  | nil => rfl
  | cons c before ih =>
      rw [List.cons_append, charOffsets, charOffsets, ih, List.cons_append,
        byteLength_cons, Nat.add_assoc]

theorem offsetAfter_charOffsets (target count offset : Nat) (line : List Char) :
    offsetAfter target (offset + byteLength line) count
        (charOffsets offset line) =
      offset + byteLength (takeUnits (target - count) line) := by
  induction line generalizing count offset with
  | nil => rw [takeUnits_nil]; rfl
  | cons c line ih =>
      rw [charOffsets, offsetAfter]
      by_cases hreached : target ≤ count
      · rw [if_pos hreached, Nat.sub_eq_zero_of_le hreached, takeUnits_zero]
        rfl
      · have hpos : 0 < target - count :=
          Nat.sub_pos_of_lt (Nat.lt_of_not_le hreached)
        rw [if_neg hreached, takeUnits_cons hpos, byteLength_cons,
          byteLength_cons, ← Nat.add_assoc, ih, Nat.sub_sub, Nat.add_assoc]

/-- A place in a line has as many bytes before it as the characters up to it. -/
theorem byteOffset_eq (line : List Char) (character : Nat) :
    byteOffset line character = byteLength (takeUnits character line) := by
  have h := offsetAfter_charOffsets character 0 0 line
  rwa [Nat.zero_add, Nat.zero_add, Nat.sub_zero] at h

/-- A search from the end goes on only behind a character that it takes. -/
theorem nameOffset_concat (head : List Char) (c : Char) (stop : Nat) :
    nameOffset (head ++ [c]) stop =
      if isIdentifierChar c then nameOffset head (byteLength head)
      else stop := by
  have hreverse : (charOffsets 0 (head ++ [c])).reverse =
      (byteLength head, c) :: (charOffsets 0 head).reverse := by
    rw [charOffsets_append, Nat.zero_add, List.reverse_append]
    rfl
  rw [nameOffset, hreverse, nameOffset, List.takeWhile_cons]
  split
  · rw [List.getLast?_cons]
    cases ((charOffsets 0 head).reverse.takeWhile _).getLast? <;> rfl
  · rfl

theorem nameOffset_eq (head : List Char) :
    nameOffset head (byteLength head) =
      byteLength (head.rdropWhile isIdentifierChar) := by
  induction head using List.reverseRecOn with
  | nil => rfl
  | append_singleton head c ih =>
      rw [nameOffset_concat, List.rdropWhile_concat]
      split
      · exact ih
      · rfl

/-- A name is cut out of its line between two characters. -/
theorem cutIdentifier?_eq (text : String) (position : Position) :
    cutIdentifier? text position = some (identifierBefore text position) := by
  rw [cutIdentifier?, identifierBefore, lineBefore]
  cases (lines text.toList)[position.line]? with
  | none => rw [Option.getD_none, takeUnits_nil]; rfl
  | some line =>
      obtain ⟨tail, hline⟩ := takeUnits_prefix position.character line
      have hhead : cutAt? (byteOffset line position.character) line =
          some (takeUnits position.character line, tail) := by
        have h := cutAt?_append (takeUnits position.character line) tail
        rwa [hline, ← byteOffset_eq] at h
      have hname (head : List Char) :
          cutAt? (nameOffset head (byteLength head)) head =
            some (head.rdropWhile isIdentifierChar,
              takeEndWhile isIdentifierChar head) := by
        have h := cutAt?_append (head.rdropWhile isIdentifierChar)
          (head.rtakeWhile isIdentifierChar)
        rwa [List.rdropWhile_append_rtakeWhile, ← nameOffset_eq] at h
      simp only [hhead, Option.bind_eq_bind, Option.bind_some]
      rw [byteOffset_eq, hname]
      rfl

end Bytes

theorem longestEnd_identifierBefore (text : String) (position : Position) :
    LongestEnd isIdentifierChar (lineBefore text position)
      (identifierBefore text position).toList := by
  rw [identifierBefore, String.toList_ofList]
  exact longestEnd_takeEndWhile isIdentifierChar (lineBefore text position)

/-- The line up to a place is part of a line of any layout of the text. -/
theorem lineBefore_text (layout : Layout) (position : Position) :
    lineBefore layout.text position =
      takeUnits position.character
        ((layout.lines[position.line]?).getD []) := by
  rw [lineBefore, Layout.text, String.toList_ofList, layout.getD_lines_chars]

/-- A text has lines, and the name before a place in one of them is the longest
one that ends there. One unit past what stands before the place, the next
character counts as a whole, and a place behind the end of a line is its end. No
name is on a line that the text does not have. Wherever the place is, the name
is cut out of its line without cutting a character. -/
theorem identifierBefore_longest (text : String) :
    (∃ layout : Layout, layout.text = text) ∧
    (∀ layout : Layout, layout.text = text →
      (∀ i line, layout.lines[i]? = some line →
        (∀ head tail, line = head ++ tail →
          LongestEnd isIdentifierChar head
            (identifierBefore text ⟨i, units head⟩).toList) ∧
        (∀ head c tail, line = head ++ c :: tail →
          LongestEnd isIdentifierChar (head ++ [c])
            (identifierBefore text ⟨i, units head + 1⟩).toList) ∧
        ∀ n, units line ≤ n →
          LongestEnd isIdentifierChar line
            (identifierBefore text ⟨i, n⟩).toList) ∧
      ∀ i n, layout.lines.length ≤ i → identifierBefore text ⟨i, n⟩ = "") ∧
    ∀ position,
      cutIdentifier? text position = some (identifierBefore text position) := by
  refine ⟨Layout.exists_text_eq text, ?_, cutIdentifier?_eq text⟩
  rintro layout rfl
  constructor
  · intro i line hline
    have hbefore (n : Nat) :
        LongestEnd isIdentifierChar (takeUnits n line)
          (identifierBefore layout.text ⟨i, n⟩).toList := by
      have h := longestEnd_identifierBefore layout.text ⟨i, n⟩
      rwa [lineBefore_text, hline, Option.getD_some] at h
    refine ⟨?_, ?_, fun n hn => ?_⟩
    · rintro head tail rfl
      have h := hbefore (units head)
      rwa [takeUnits_units] at h
    · rintro head c tail rfl
      have h := hbefore (units head + 1)
      rwa [takeUnits_inside] at h
    · have h := hbefore n
      rwa [takeUnits_of_le hn] at h
  · intro i n hi
    rw [identifierBefore, lineBefore_text, List.getElem?_eq_none hi,
      Option.getD_none, takeUnits_nil]
    rfl

namespace CursorWitness

/-- A character of two units in the first line, one of two bytes in the second,
and nothing in the last. -/
def layout : Layout where
  ended := [("ab😀.c".toList, .returnFeed), ("é.co".toList, .feed)]
  last := []
  ends := by decide +kernel
  unbroken := by decide

/-- The first line is read to its end and to the middle of its character of two
units, the second one beyond its end. -/
theorem identifierBefore_longest_drawn :
    layout.text = "ab😀.c\r\né.co\n" ∧
      identifierBefore layout.text ⟨0, 6⟩ = ".c" ∧
      LongestEnd isIdentifierChar "ab😀.c".toList ".c".toList ∧
      identifierBefore layout.text ⟨0, 3⟩ = "" ∧
      LongestEnd isIdentifierChar "ab😀".toList [] ∧
      identifierBefore layout.text ⟨1, 9⟩ = "é.co" ∧
      LongestEnd isIdentifierChar "é.co".toList "é.co".toList ∧
      identifierBefore layout.text ⟨3, 0⟩ = "" := by
  obtain ⟨hlines, hbeyond⟩ :=
    (identifierBefore_longest layout.text).2.1 layout rfl
  obtain ⟨hfirst, hinside, _⟩ := hlines 0 "ab😀.c".toList rfl
  obtain ⟨_, _, hend⟩ := hlines 1 "é.co".toList rfl
  have h6 := hfirst "ab😀.c".toList [] (by decide +kernel)
  have h3 := hinside "ab".toList '😀' ".c".toList (by decide +kernel)
  have h9 := hend 9 (by decide +kernel)
  have heq6 : identifierBefore layout.text ⟨0, 6⟩ = ".c" := by decide +kernel
  have heq3 : identifierBefore layout.text ⟨0, 3⟩ = "" := by decide +kernel
  have heq9 : identifierBefore layout.text ⟨1, 9⟩ = "é.co" := by decide +kernel
  refine ⟨by decide +kernel, heq6, ?_, heq3, ?_, heq9, ?_,
    hbeyond 3 0 (by decide)⟩
  · rw [← heq6]
    exact h6
  · rw [← String.toList_empty, ← heq3]
    exact h3
  · nth_rewrite 2 [← heq9]
    exact h9

end CursorWitness

end SchemaScope.Text
