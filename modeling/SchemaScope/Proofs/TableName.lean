import SchemaScope.TableName

/-!
Dotted names. The last dot of a name is the one behind which there is no other;
a name of a table is read by it. Main statement: names are read as they are
written if they have both parts and the table has no dot, and no other text is a
name but what one of these is written as.
-/

namespace SchemaScope

namespace Text

theorem splitLastDot_eq_none_iff {cs : List Char} :
    splitLastDot cs = none ↔ '.' ∉ cs := by
  induction cs with
  | nil => simp [splitLastDot]
  | cons c rest ih =>
      rw [splitLastDot, List.mem_cons, not_or, ← ih]
      cases splitLastDot rest with
      | some parts => simp
      | none => simp [eq_comm]

theorem splitLastDot_append {after : List Char} (hafter : '.' ∉ after)
    (before : List Char) :
    splitLastDot (before ++ '.' :: after) = some (before, after) := by
  induction before with
  | nil =>
      rw [List.nil_append, splitLastDot, splitLastDot_eq_none_iff.2 hafter]
      rfl
  | cons c before ih => rw [List.cons_append, splitLastDot, ih]

/-- A text is split at a dot with no dot behind it. -/
theorem splitLastDot_eq_some_iff {cs before after : List Char} :
    splitLastDot cs = some (before, after) ↔
      cs = before ++ '.' :: after ∧ '.' ∉ after := by
  constructor
  · intro h
    induction cs generalizing before with
    | nil => cases h
    | cons c rest ih =>
        rw [splitLastDot] at h
        cases hrest : splitLastDot rest with
        | some parts =>
            rw [hrest] at h
            cases h
            obtain ⟨hparts, hafter⟩ := ih hrest
            exact ⟨by rw [hparts, List.cons_append], hafter⟩
        | none =>
            rw [hrest] at h
            by_cases hdot : c = '.'
            · rw [if_pos hdot] at h
              cases h
              exact ⟨by rw [hdot, List.nil_append],
                splitLastDot_eq_none_iff.1 hrest⟩
            · rw [if_neg hdot] at h
              cases h
  · rintro ⟨rfl, hafter⟩
    exact splitLastDot_append hafter before

theorem splitQualifier_eq_some_iff {s qualifier part : String} :
    splitQualifier s = some (qualifier, part) ↔
      s = qualifier ++ "." ++ part ∧ '.' ∉ part.toList := by
  have hwritten : (qualifier ++ "." ++ part).toList =
      qualifier.toList ++ '.' :: part.toList := by
    simp
  rw [← String.toList_inj, hwritten, ← splitLastDot_eq_some_iff, splitQualifier,
    Option.map_eq_some_iff]
  constructor
  · rintro ⟨⟨before, after⟩, hsplit, heq⟩
    cases heq
    rw [hsplit, String.toList_ofList, String.toList_ofList]
  · intro hsplit
    exact ⟨_, hsplit, by simp⟩

/-- The last dot of a text stands at an index. -/
def LastDotAt (i : Nat) (cs : List Char) : Prop :=
  cs[i]? = some '.' ∧ ∀ j, i < j → cs[j]? ≠ some '.'

/-- A dot with no dot behind it is the last one, and there is no other. -/
theorem lastDotAt_append_iff {i : Nat} {before after : List Char}
    (hafter : '.' ∉ after) :
    LastDotAt i (before ++ '.' :: after) ↔ i = before.length := by
  have hdot : (before ++ '.' :: after)[before.length]? = some '.' := by simp
  have hbeyond (j : Nat) (hj : before.length < j) :
      (before ++ '.' :: after)[j]? ≠ some '.' := by
    obtain ⟨k, rfl⟩ := Nat.exists_eq_add_of_lt hj
    intro hother
    have hk : after[k]? = some '.' := by
      rw [← hother, List.getElem?_append_right (by omega)]
      simp [Nat.add_assoc]
    exact hafter (List.mem_of_getElem? hk)
  constructor
  · rintro ⟨hi, hlast⟩
    apply Nat.le_antisymm
    · exact Nat.le_of_not_lt fun hlt => hbeyond i hlt hi
    · exact Nat.le_of_not_lt fun hlt => hlast _ hlt hdot
  · rintro rfl
    exact ⟨hdot, hbeyond⟩

end Text

namespace TableName

/-- The parts before and behind the last dot of a text are a schema and a
table. -/
def Splits (n : TableName) (text : String) : Prop :=
  n.schema ≠ "" ∧ n.table ≠ "" ∧ '.' ∉ n.table.toList ∧ text = n.display

theorem parse?_of_splitQualifier {text qualifier part : String}
    (h : Text.splitQualifier text = some (qualifier, part)) :
    parse? text =
      if qualifier = "" ∨ part = "" then none else some ⟨qualifier, part⟩ := by
  rw [parse?, h]
  simp

theorem parse?_eq_some_iff {text : String} {n : TableName} :
    parse? text = some n ↔ n.Splits text := by
  constructor
  · intro h
    cases hsplit : Text.splitQualifier text with
    | none =>
        rw [parse?, hsplit] at h
        cases h
    | some parts =>
        obtain ⟨qualifier, part⟩ := parts
        rw [parse?_of_splitQualifier hsplit] at h
        by_cases hempty : qualifier = "" ∨ part = ""
        · rw [if_pos hempty] at h
          cases h
        · rw [if_neg hempty] at h
          cases h
          obtain ⟨htext, hdot⟩ := Text.splitQualifier_eq_some_iff.1 hsplit
          rw [not_or] at hempty
          exact ⟨hempty.1, hempty.2, hdot, htext⟩
  · rintro ⟨hschema, htable, hdot, htext⟩
    have hsplit := Text.splitQualifier_eq_some_iff.2 ⟨htext, hdot⟩
    rw [parse?_of_splitQualifier hsplit, if_neg (not_or.2 ⟨hschema, htable⟩)]

/-- A text without a dot is not split. -/
theorem Splits.mem_dot {text : String} {n : TableName} (h : n.Splits text) :
    '.' ∈ text.toList := by
  obtain ⟨_, _, _, rfl⟩ := h
  simp [display]

theorem parse?_display_eq_some_iff {n : TableName} :
    parse? n.display = some n ↔
      n.schema ≠ "" ∧ n.table ≠ "" ∧ '.' ∉ n.table.toList := by
  simp [parse?_eq_some_iff, Splits]

theorem display_of_parse?_eq_some {text : String} {n : TableName}
    (h : parse? text = some n) : n.display = text :=
  (parse?_eq_some_iff.1 h).2.2.2.symm

/-- A text is no name if it has no dot, or nothing behind or before its last
one. -/
theorem parse?_eq_none_iff {text : String} :
    parse? text = none ↔
      '.' ∉ text.toList ∨
        ∃ i, Text.LastDotAt i text.toList ∧
          (i + 1 = text.length ∨ i = 0) := by
  cases hsplit : Text.splitQualifier text with
  | none =>
      have hdot : '.' ∉ text.toList := by
        rw [Text.splitQualifier, Option.map_eq_none_iff] at hsplit
        exact Text.splitLastDot_eq_none_iff.1 hsplit
      simp [parse?, hsplit, hdot]
  | some parts =>
      obtain ⟨qualifier, part⟩ := parts
      obtain ⟨rfl, hdot⟩ := Text.splitQualifier_eq_some_iff.1 hsplit
      have hwritten : (qualifier ++ "." ++ part).toList =
          qualifier.toList ++ '.' :: part.toList := by
        simp
      have hmem : '.' ∈ qualifier.toList ++ '.' :: part.toList := by simp
      have hlast : qualifier.toList.length + 1 =
          (qualifier ++ "." ++ part).length ↔ part = "" := by
        rw [← String.length_toList, hwritten]
        simp
      have hfirst : qualifier.toList.length = 0 ↔ qualifier = "" := by
        simp
      rw [parse?_of_splitQualifier hsplit, hwritten]
      simp only [Text.lastDotAt_append_iff hdot, exists_eq_left, hlast, hfirst,
        hmem, not_true_eq_false, false_or, ite_eq_left_iff, reduceCtorEq,
        imp_false, Decidable.not_not]
      exact Or.comm

/-- A name is read as it is written if and only if both parts are there and the
table has no dot; whatever is read as a name is what that name is written as;
and a text is no name if and only if it has no dot, or its last dot is its last
character or its first one. -/
theorem parse?_display_inverse (schema table text : String) :
    (parse? (display ⟨schema, table⟩) = some ⟨schema, table⟩ ↔
        schema ≠ "" ∧ table ≠ "" ∧ '.' ∉ table.toList) ∧
      (∀ n, parse? text = some n → n.display = text) ∧
      (parse? text = none ↔
        '.' ∉ text.toList ∨
          ∃ i, Text.LastDotAt i text.toList ∧
            (i + 1 = text.length ∨ i = 0)) :=
  ⟨parse?_display_eq_some_iff, fun _ => display_of_parse?_eq_some,
    parse?_eq_none_iff⟩

/-- The schema may have a dot. -/
theorem parse?_display_inverse_dotted :
    parse? "eu.north.sales" = some ⟨"eu.north", "sales"⟩ ∧
      display ⟨"eu.north", "sales"⟩ = "eu.north.sales" := by
  obtain ⟨hparse, hdisplay, _⟩ :=
    parse?_display_inverse "eu.north" "sales" "eu.north.sales"
  have hread := hparse.2 ⟨by decide, by decide, by decide⟩
  exact ⟨hread, hdisplay _ hread⟩

end TableName

end SchemaScope
