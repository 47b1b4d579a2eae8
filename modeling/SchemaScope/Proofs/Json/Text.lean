import SchemaScope.Proofs.Json.Scalars

/-!
The text of a JSON value is read as that value, unless it holds a number that
a text may change: one that is not whole, or that needs more than 64 bits.

A value has been read once the reader stands where the value ends. The steps
that the reader may take are counted down with the length of the text, so that
they suffice for every text.
-/

namespace SchemaScope.Json

/-- A value that its text keeps: the numbers in it are whole and within
64 bits. -/
inductive Exact : Json → Prop
  | null : Exact .null
  | bool (value : Bool) : Exact (.bool value)
  | integer {value : Int} (hlow : -2 ^ 63 ≤ value) (hhigh : value < 2 ^ 64) :
      Exact (.integer value)
  | string (value : String) : Exact (.string value)
  | array {items : List Json} (hitems : ∀ item ∈ items, item.Exact) :
      Exact (.array items)
  | object {fields : List (String × Json)}
      (hfields : ∀ field ∈ fields, field.2.Exact) : Exact (.object fields)

/-- The characters of a value. -/
def chars (j : Json) : List Char := j.render.toList

/-- The characters of a field in front of its value. -/
def nameChars (name : String) : List Char :=
  '"' :: (name.toList.flatMap escapeChar ++ ['"', ':'])

/-- The characters of a field. -/
def fieldChars (field : String × Json) : List Char :=
  nameChars field.1 ++ field.2.chars

theorem renderItems_eq_map (items : List Json) :
    renderItems items = items.map render := by
  induction items with
  | nil => rfl
  | cons item rest ih => rw [renderItems, ih, List.map_cons]

theorem toList_renderFields (fields : List (String × Json)) :
    (renderFields fields).map String.toList = fields.map fieldChars := by
  induction fields with
  | nil => rfl
  | cons field rest ih =>
      obtain ⟨name, value⟩ := field
      simp [renderFields, ih, fieldChars, nameChars, chars, renderString]

theorem chars_null : chars .null = ['n', 'u', 'l', 'l'] := by
  simp [chars, render]

theorem chars_bool (value : Bool) :
    chars (.bool value) =
      if value then ['t', 'r', 'u', 'e'] else ['f', 'a', 'l', 's', 'e'] := by
  cases value <;> simp [chars, render]

theorem chars_string (value : String) :
    chars (.string value) =
      '"' :: (value.toList.flatMap escapeChar ++ ['"']) := by
  simp [chars, render, renderString]

theorem chars_array (items : List Json) :
    chars (.array items) =
      '[' :: ([','].intercalate (items.map chars) ++ [']']) := by
  rw [chars, render, renderItems_eq_map]
  simp only [String.toList_append, String.toList_intercalate, List.map_map]
  rfl

theorem chars_object (fields : List (String × Json)) :
    chars (.object fields) =
      '\x7b' :: ([','].intercalate (fields.map fieldChars) ++ ['\x7d']) := by
  simp [chars, render, String.toList_intercalate, toList_renderFields]

theorem chars_natural (n : Nat) :
    chars (.integer n) = Nat.toDigits 10 n := by
  simp [chars, render, Int.repr_eq_if, Nat.repr_eq_ofList_toDigits]

theorem chars_negative {n : Nat} (hpos : 0 < n) :
    chars (.integer (-n)) = '-' :: Nat.toDigits 10 n := by
  have hneg : ¬ n = 0 := by omega
  simp [chars, render, Int.repr_eq_if, Nat.repr_eq_ofList_toDigits, hneg]

/-- The blank characters. -/
def blanks : List Char := [' ', '\t', '\n', '\r']

theorem skipBlanks_cons {c : Char} (hc : c ∉ blanks) (rest : List Char) :
    skipBlanks (c :: rest) = c :: rest := by
  simp only [blanks, List.mem_cons, List.not_mem_nil, or_false, not_or] at hc
  simp [skipBlanks, hc]

/-- The characters that no number begins with: those of blanks, of the end of
an array, and of all other values. -/
def otherStarts : List Char :=
  blanks ++ [']', 'n', 't', 'f', '"', '[', '\x7b']

theorem otherStarts_all :
    (otherStarts.all fun c => c ≠ '-' && !c.isDigit) = true := by
  decide

theorem notMem_otherStarts {c : Char} (hc : c = '-' ∨ c.isDigit = true) :
    c ∉ otherStarts := by
  intro hmem
  have hother := List.all_eq_true.1 otherStarts_all c hmem
  rcases hc with rfl | hdigit
  · simp at hother
  · simp [hdigit] at hother

theorem readValue_number {c : Char} (hc : c ∉ otherStarts)
    (depth : Nat) (cs : List Char) :
    readValue (depth + 1) (c :: cs) = readNumber (c :: cs) := by
  simp only [otherStarts, List.mem_append, List.mem_cons, List.not_mem_nil,
    or_false, not_or] at hc
  rw [readValue, skipBlanks_cons hc.1]
  split <;> simp_all

/-- The text of a value is taken for neither a blank nor the end of an array,
and the value is read from it, up to where it ends. -/
structure ReadsText (j : Json) : Prop where
  starts : ∃ c cs, j.chars = c :: cs ∧ c ∉ blanks ∧ c ≠ ']'
  reads : ∀ depth rest, j.chars.length ≤ depth → EndsValue rest →
    readValue depth (j.chars ++ rest) = some (j, rest)

theorem ReadsText.of_cons {j : Json} {c : Char} {cs : List Char}
    (hchars : j.chars = c :: cs) (hc : c ∉ blanks ∧ c ≠ ']')
    (hreads : ∀ depth rest, cs.length ≤ depth → EndsValue rest →
      readValue (depth + 1) (c :: cs ++ rest) = some (j, rest)) :
    j.ReadsText where
  starts := ⟨c, cs, hchars, hc⟩
  reads depth rest hdepth hrest := by
    rw [hchars, List.length_cons] at hdepth
    rw [hchars]
    cases depth with
    | zero => exact absurd hdepth (Nat.not_succ_le_zero _)
    | succ depth =>
        exact hreads depth rest (Nat.le_of_succ_le_succ hdepth) hrest

theorem readsText_null : ReadsText .null := by
  apply ReadsText.of_cons chars_null (by decide)
  intro depth rest _ _
  simp [readValue, skipBlanks_cons, blanks]

theorem readsText_bool (value : Bool) : ReadsText (.bool value) := by
  cases value with
  | false =>
      apply ReadsText.of_cons (chars_bool false) (by decide)
      intro depth rest _ _
      simp [readValue, skipBlanks_cons, blanks]
  | true =>
      apply ReadsText.of_cons (chars_bool true) (by decide)
      intro depth rest _ _
      simp [readValue, skipBlanks_cons, blanks]

theorem readsText_string (value : String) : ReadsText (.string value) := by
  apply ReadsText.of_cons (chars_string value) (by decide)
  intro depth rest _ _
  simp [readValue, skipBlanks_cons, blanks, readString_written]

theorem natural_or_negative (value : Int) :
    (∃ n : Nat, value = n) ∨ ∃ n : Nat, 0 < n ∧ value = -n := by
  by_cases hneg : value < 0
  · exact .inr ⟨value.natAbs, by omega, by omega⟩
  · exact .inl ⟨value.natAbs, by omega⟩

/-- The text of a whole number is a number that is read as that one. -/
theorem readNumber_chars {value : Int} (hlow : -2 ^ 63 ≤ value)
    (hhigh : value < 2 ^ 64) {rest : List Char} (hrest : EndsValue rest) :
    readNumber (chars (.integer value) ++ rest) =
      some (.integer value, rest) := by
  rcases natural_or_negative value with ⟨n, rfl⟩ | ⟨n, hpos, rfl⟩
  · rw [chars_natural, readNumber_of_sign (readSign_toDigits n rest) hrest,
      numberValue?_natural (by omega)]
    rfl
  · rw [chars_negative hpos, readNumber_of_sign rfl hrest,
      numberValue?_negative hpos (by omega)]
    rfl

theorem exists_chars_integer (value : Int) :
    ∃ c cs, chars (.integer value) = c :: cs ∧
      (c = '-' ∨ c.isDigit = true) := by
  rcases natural_or_negative value with ⟨n, rfl⟩ | ⟨n, hpos, rfl⟩
  · obtain ⟨d, ds, hcons, hd⟩ := exists_toDigits n
    exact ⟨d, ds, (chars_natural n).trans hcons, .inr hd⟩
  · exact ⟨'-', _, chars_negative hpos, .inl rfl⟩

theorem readsText_integer {value : Int} (hlow : -2 ^ 63 ≤ value)
    (hhigh : value < 2 ^ 64) : ReadsText (.integer value) := by
  obtain ⟨c, cs, hchars, hc⟩ := exists_chars_integer value
  have hother := notMem_otherStarts hc
  apply ReadsText.of_cons hchars
  · simp only [otherStarts, List.mem_append, List.mem_cons, not_or] at hother
    exact ⟨hother.1, hother.2.1⟩
  · intro depth rest _ hrest
    rw [List.cons_append, readValue_number hother, ← List.cons_append,
      ← hchars]
    exact readNumber_chars hlow hhigh hrest

theorem intercalate_comma (part next : List Char) (parts : List (List Char)) :
    [','].intercalate (part :: next :: parts) =
      part ++ ',' :: [','].intercalate (next :: parts) := by
  simp [List.intercalate_cons_cons]

theorem exists_intercalate (part : List Char) (parts : List (List Char)) :
    ∃ more, [','].intercalate (part :: parts) = part ++ more := by
  cases parts with
  | nil => exact ⟨[], by simp⟩
  | cons next parts => exact ⟨_, intercalate_comma part next parts⟩

theorem endsValue_cons {c : Char} (hc : c = ',' ∨ c = ']' ∨ c = '\x7d')
    (rest : List Char) : EndsValue (c :: rest) := by
  simpa [EndsValue] using hc

section Steps

variable {depth : Nat} {value : Json} {cs rest : List Char}

theorem readItems_comma
    (hvalue : readValue depth cs = some (value, ',' :: rest))
    (before : List Json) :
    readItems (depth + 1) before cs =
      readItems depth (value :: before) rest := by
  simp [readItems, hvalue, skipBlanks_cons, blanks]

theorem readItems_bracket
    (hvalue : readValue depth cs = some (value, ']' :: rest))
    (before : List Json) :
    readItems (depth + 1) before cs =
      some ((value :: before).reverse, rest) := by
  simp [readItems, hvalue, skipBlanks_cons, blanks]

theorem readFields_comma
    (hvalue : readValue depth cs = some (value, ',' :: rest))
    (before : List (String × Json)) (name : String) :
    readFields (depth + 1) before (nameChars name ++ cs) =
      readFields depth ((name, value) :: before) rest := by
  simp [readFields, nameChars, readString_written, hvalue,
    skipBlanks_cons, blanks]

theorem readFields_brace
    (hvalue : readValue depth cs = some (value, '\x7d' :: rest))
    (before : List (String × Json)) (name : String) :
    readFields (depth + 1) before (nameChars name ++ cs) =
      some (((name, value) :: before).reverse, rest) := by
  simp [readFields, nameChars, readString_written, hvalue,
    skipBlanks_cons, blanks]

end Steps

/-- Items are read one after the other, up to the closing bracket. -/
theorem readItems_written {items : List Json} {item : Json} {depth : Nat}
    (hitems : ∀ i ∈ item :: items, i.ReadsText)
    (hdepth : ([','].intercalate ((item :: items).map chars)).length < depth)
    (before : List Json) (rest : List Char) :
    readItems depth before
        ([','].intercalate ((item :: items).map chars) ++ ']' :: rest) =
      some (before.reverse ++ item :: items, rest) := by
  induction items generalizing item before depth with
  | nil =>
      obtain ⟨depth, rfl⟩ : ∃ d, depth = d + 1 :=
        Nat.exists_eq_add_one_of_ne_zero (Nat.ne_zero_of_lt hdepth)
      rw [List.map_singleton, List.intercalate_singleton] at hdepth ⊢
      have hitem := (hitems item List.mem_cons_self).reads depth (']' :: rest)
        (by omega) (endsValue_cons (by simp) rest)
      rw [readItems_bracket hitem, List.reverse_cons]
  | cons next items ih =>
      obtain ⟨depth, rfl⟩ : ∃ d, depth = d + 1 :=
        Nat.exists_eq_add_one_of_ne_zero (Nat.ne_zero_of_lt hdepth)
      rw [List.map_cons, List.map_cons, intercalate_comma,
        ← List.map_cons] at hdepth ⊢
      -- An item takes one step, and its comma alone is as long as that.
      rw [List.length_append, List.length_cons] at hdepth
      have hitem := (hitems item List.mem_cons_self).reads depth
        (',' :: ([','].intercalate ((next :: items).map chars) ++ ']' :: rest))
        (by omega) (endsValue_cons (by simp) _)
      rw [List.append_assoc, List.cons_append, readItems_comma hitem,
        ih (fun i hi => hitems i (List.mem_cons_of_mem _ hi)) (by omega)]
      simp

/-- Fields are read one after the other, up to the closing brace. -/
theorem readFields_written {fields : List (String × Json)}
    {field : String × Json} {depth : Nat}
    (hfields : ∀ f ∈ field :: fields, f.2.ReadsText)
    (hdepth :
      ([','].intercalate ((field :: fields).map fieldChars)).length < depth)
    (before : List (String × Json)) (rest : List Char) :
    readFields depth before
        ([','].intercalate ((field :: fields).map fieldChars)
          ++ '\x7d' :: rest) =
      some (before.reverse ++ field :: fields, rest) := by
  induction fields generalizing field before depth with
  | nil =>
      obtain ⟨depth, rfl⟩ : ∃ d, depth = d + 1 :=
        Nat.exists_eq_add_one_of_ne_zero (Nat.ne_zero_of_lt hdepth)
      rw [List.map_singleton, List.intercalate_singleton, fieldChars]
        at hdepth ⊢
      rw [List.length_append] at hdepth
      have hvalue := (hfields field List.mem_cons_self).reads depth
        ('\x7d' :: rest) (by omega) (endsValue_cons (by simp) rest)
      rw [List.append_assoc, readFields_brace hvalue, List.reverse_cons]
  | cons next fields ih =>
      obtain ⟨depth, rfl⟩ : ∃ d, depth = d + 1 :=
        Nat.exists_eq_add_one_of_ne_zero (Nat.ne_zero_of_lt hdepth)
      rw [List.map_cons, List.map_cons, intercalate_comma,
        ← List.map_cons, fieldChars] at hdepth ⊢
      rw [List.length_append, List.length_append, List.length_cons] at hdepth
      have hvalue := (hfields field List.mem_cons_self).reads depth
        (',' :: ([','].intercalate ((next :: fields).map fieldChars)
          ++ '\x7d' :: rest))
        (by omega) (endsValue_cons (by simp) _)
      rw [List.append_assoc, List.append_assoc, List.cons_append,
        readFields_comma hvalue,
        ih (fun f hf => hfields f (List.mem_cons_of_mem _ hf)) (by omega)]
      simp

theorem readValue_bracket {c : Char} (hblank : c ∉ blanks) (hend : c ≠ ']')
    (depth : Nat) (cs : List Char) :
    readValue (depth + 1) ('[' :: c :: cs) =
      (readItems depth [] (c :: cs)).map fun (items, rest) =>
        (.array items, rest) := by
  rw [readValue, skipBlanks_cons (by decide)]
  simp [skipBlanks_cons hblank, hend]

theorem readValue_brace (depth : Nat) (cs : List Char) :
    readValue (depth + 1) ('\x7b' :: '"' :: cs) =
      (readFields depth [] ('"' :: cs)).map fun (fields, rest) =>
        (.object fields, rest) := by
  rw [readValue, skipBlanks_cons (by decide)]
  simp [skipBlanks_cons, blanks]

theorem readsText_array {items : List Json}
    (hitems : ∀ item ∈ items, item.ReadsText) : ReadsText (.array items) := by
  apply ReadsText.of_cons (chars_array items) (by decide)
  intro depth rest hdepth _
  rw [List.length_append, List.length_singleton] at hdepth
  rw [List.cons_append, List.append_assoc, List.singleton_append]
  cases items with
  | nil => simp [readValue, skipBlanks_cons, blanks]
  | cons item items =>
      obtain ⟨c, cs, hchars, hblank, hend⟩ :=
        (hitems item List.mem_cons_self).starts
      have hread := readItems_written hitems (by omega : _ < depth) [] rest
      obtain ⟨more, hmore⟩ := exists_intercalate item.chars (items.map chars)
      rw [List.map_cons, hmore, hchars, List.cons_append,
        List.cons_append] at hread ⊢
      rw [readValue_bracket hblank hend, hread]
      rfl

theorem readsText_object {fields : List (String × Json)}
    (hfields : ∀ field ∈ fields, field.2.ReadsText) :
    ReadsText (.object fields) := by
  apply ReadsText.of_cons (chars_object fields) (by decide)
  intro depth rest hdepth _
  rw [List.length_append, List.length_singleton] at hdepth
  rw [List.cons_append, List.append_assoc, List.singleton_append]
  cases fields with
  | nil => simp [readValue, skipBlanks_cons, blanks]
  | cons field fields =>
      have hread := readFields_written hfields (by omega : _ < depth) [] rest
      obtain ⟨more, hmore⟩ :=
        exists_intercalate (fieldChars field) (fields.map fieldChars)
      rw [List.map_cons, hmore, fieldChars, nameChars, List.cons_append,
        List.cons_append, List.cons_append] at hread ⊢
      rw [readValue_brace, hread]
      rfl

theorem Exact.readsText {j : Json} (h : j.Exact) : j.ReadsText := by
  induction h with
  | null => exact readsText_null
  | bool value => exact readsText_bool value
  | integer hlow hhigh => exact readsText_integer hlow hhigh
  | string value => exact readsText_string value
  | array _ ih => exact readsText_array ih
  | object _ ih => exact readsText_object ih

/-- The text of a value without other numbers is read as that value. -/
theorem parse?_render {j : Json} (h : j.Exact) : parse? j.render = some j := by
  have hread := h.readsText.reads (j.chars.length + 1) [] (Nat.le_succ _)
    (by simp [EndsValue])
  rw [List.append_nil, chars] at hread
  simp only [parse?, hread]
  rfl

end SchemaScope.Json
