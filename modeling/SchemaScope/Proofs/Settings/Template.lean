import SchemaScope.Settings

/-!
Templates by their grammar. A template is written part by part, and each part
sets a condition on the text behind it, so that it ends where its author lets it
end. Main statement: expanding what has been written puts the value of every
variable in its place, or reports the first variable that is not set.
-/

namespace SchemaScope.Settings

/-- A part of a template, as its author means it. -/
inductive Part where
  | literal (text : String)
  | braced (name : String)
  | bare (name : String)
  | dollar
  deriving DecidableEq, Repr

namespace Part

/-- A part as it is written. -/
def written : Part → List Char
  | literal text => text.toList
  | braced name => '$' :: '\x7b' :: name.toList ++ ['\x7d']
  | bare name => '$' :: name.toList
  | dollar => ['$']

/-- The variable that a part names. -/
def name? : Part → Option String
  | braced name | bare name => some name
  | literal _ | dollar => none

/-- The text that takes the place of a part whose variable is set. -/
def meaning (env : Environment) : Part → String
  | literal text => text
  | braced name | bare name => (env.get? name).getD ""
  | dollar => "$"

/-- The variable that a part names and that is not set. -/
def unset? (env : Environment) (part : Part) : Option String :=
  part.name?.filter fun name => (env.get? name).isNone

/-- A part may be written in front of a text. A name in braces holds no closing
brace; a bare name ends where no more of a name follows, and a dollar sign
stands alone where no name follows at all. -/
def Admits : Part → List Char → Prop
  | literal text, _ => '$' ∉ text.toList
  | braced name, _ => '\x7d' ∉ name.toList
  | bare name, rest =>
      name ≠ "" ∧ name.toList.all isNameChar ∧
        rest.head?.any isNameChar = false
  | dollar, rest =>
      rest.head? ≠ some '\x7b' ∧ rest.head?.any isNameChar = false

instance : (part : Part) → (rest : List Char) → Decidable (part.Admits rest)
  | literal text, _ => inferInstanceAs (Decidable ('$' ∉ text.toList))
  | braced name, _ => inferInstanceAs (Decidable ('\x7d' ∉ name.toList))
  | bare name, rest =>
      inferInstanceAs (Decidable (name ≠ "" ∧ name.toList.all isNameChar ∧
        rest.head?.any isNameChar = false))
  | dollar, rest =>
      inferInstanceAs (Decidable
        (rest.head? ≠ some '\x7b' ∧ rest.head?.any isNameChar = false))

end Part

/-- A template as it is written. -/
def written (parts : List Part) : List Char :=
  parts.flatMap Part.written

/-- A template that follows the grammar. -/
def WellFormed : List Part → Prop
  | [] => True
  | part :: rest => part.Admits (written rest) ∧ WellFormed rest

instance decidableWellFormed :
    (parts : List Part) → Decidable (WellFormed parts)
  | [] => inferInstanceAs (Decidable True)
  | part :: rest =>
      have := decidableWellFormed rest
      inferInstanceAs (Decidable (part.Admits (written rest) ∧ WellFormed rest))

/-- The first variable from the left that is not set. -/
def firstUnset? (env : Environment) (parts : List Part) : Option String :=
  parts.findSome? (Part.unset? env)

theorem segments_char {c : Char} (hc : c ≠ '$') (rest : List Char) :
    segments (c :: rest) = .char c :: segments rest := by
  rw [segments]
  · intro tail heq
    exact absurd heq hc
  · exact hc

theorem segments_literal {text : List Char} (htext : '$' ∉ text)
    (rest : List Char) :
    segments (text ++ rest) = text.map .char ++ segments rest := by
  induction text with
  | nil => rfl
  | cons c text ih =>
      rw [List.mem_cons, not_or] at htext
      rw [List.cons_append, segments_char (Ne.symm htext.1), ih htext.2]
      rfl

theorem segments_braced {name : List Char} (hname : '\x7d' ∉ name)
    (rest : List Char) :
    segments ('$' :: '\x7b' :: (name ++ '\x7d' :: rest)) =
      .braced name :: segments rest := by
  have hinside : ∀ c ∈ name, decide (c ≠ '\x7d') = true := by
    intro c hc
    exact decide_eq_true fun heq => hname (heq ▸ hc)
  rw [segments, List.takeWhile_append_of_pos hinside,
    List.dropWhile_append_of_pos hinside]
  simp

/-- A name is read to its end, and not beyond it. -/
theorem span_name {name rest : List Char} (hname : name.all isNameChar)
    (hrest : rest.head?.any isNameChar = false) :
    (name ++ rest).takeWhile isNameChar = name ∧
      (name ++ rest).dropWhile isNameChar = rest := by
  have hall := List.all_eq_true.1 hname
  rw [List.takeWhile_append_of_pos hall, List.dropWhile_append_of_pos hall]
  cases rest with
  | nil => simp
  | cons c rest =>
      have hc : isNameChar c = false := hrest
      simp [hc]

theorem segments_dollar {rest : List Char}
    (hbrace : rest.head? ≠ some '\x7b') :
    segments ('$' :: rest) =
      if (rest.takeWhile isNameChar).isEmpty then .dollar :: segments rest
      else .bare (rest.takeWhile isNameChar) ::
        segments (rest.dropWhile isNameChar) := by
  rw [segments]
  intro tail heq
  exact hbrace (by rw [heq]; rfl)

theorem isNameChar_brace : isNameChar '\x7b' = false := by decide +kernel

theorem segments_bare {name rest : List Char} (hne : name ≠ [])
    (hname : name.all isNameChar)
    (hrest : rest.head?.any isNameChar = false) :
    segments ('$' :: (name ++ rest)) = .bare name :: segments rest := by
  have hbrace : (name ++ rest).head? ≠ some '\x7b' := by
    intro hfirst
    obtain ⟨first, name, rfl⟩ := List.exists_cons_of_ne_nil hne
    have hinside := List.all_eq_true.1 hname first List.mem_cons_self
    rw [Option.some.inj hfirst, isNameChar_brace] at hinside
    cases hinside
  obtain ⟨htake, hdrop⟩ := span_name hname hrest
  rw [segments_dollar hbrace, htake, hdrop, if_neg (by simpa using hne)]

theorem segments_lone {rest : List Char} (hbrace : rest.head? ≠ some '\x7b')
    (hrest : rest.head?.any isNameChar = false) :
    segments ('$' :: rest) = .dollar :: segments rest := by
  have hnone : ([] : List Char).all isNameChar := rfl
  obtain ⟨htake, _⟩ := span_name hnone hrest
  rw [List.nil_append] at htake
  rw [segments_dollar hbrace, htake]
  rfl

theorem evaluate_cons (env : Environment) (segment : Segment)
    (rest : List Segment) :
    evaluate env (segment :: rest) =
      (segment.value env).bind fun text =>
        (evaluate env rest).map (text ++ ·) := by
  rw [evaluate, evaluate, List.mapM_cons]
  cases segment.value env with
  | error name => rfl
  | ok text => cases rest.mapM (Segment.value env) <;> rfl

theorem evaluate_chars (env : Environment) (text : List Char)
    (rest : List Segment) :
    evaluate env (text.map .char ++ rest) =
      (evaluate env rest).map (text ++ ·) := by
  induction text with
  | nil =>
      change evaluate env rest = (evaluate env rest).map fun text => text
      cases evaluate env rest <;> rfl
  | cons c text ih =>
      rw [List.map_cons, List.cons_append, evaluate_cons, ih]
      cases evaluate env rest <;> rfl

/-- A reference comes to the value of its variable, in braces or without. -/
theorem evaluate_reference (env : Environment) {segment : Segment}
    {name : String}
    (hsegment : segment = .braced name.toList ∨ segment = .bare name.toList)
    (rest : List Segment) :
    evaluate env (segment :: rest) =
      match env.get? name with
      | none => .error name
      | some text => (evaluate env rest).map (text.toList ++ ·) := by
  have hvalue : segment.value env =
      match env.get? name with
      | none => .error name
      | some text => .ok text.toList := by
    rcases hsegment with rfl | rfl
    all_goals
      rw [Segment.value, String.ofList_toList]
      cases env.get? name <;> rfl
  rw [evaluate_cons, hvalue]
  cases env.get? name <;> rfl

/-- A part that is written where it may stand is replaced by its meaning. -/
theorem evaluate_written (env : Environment) {part : Part} {rest : List Char}
    (h : part.Admits rest) :
    evaluate env (segments (part.written ++ rest)) =
      match part.unset? env with
      | some name => .error name
      | none =>
          (evaluate env (segments rest)).map
            ((part.meaning env).toList ++ ·) := by
  cases part with
  | literal text =>
      rw [Part.written, segments_literal h, evaluate_chars]
      rfl
  | braced name =>
      have hwritten : (Part.braced name).written ++ rest =
          '$' :: '\x7b' :: (name.toList ++ '\x7d' :: rest) := by
        simp [Part.written]
      rw [hwritten, segments_braced h, evaluate_reference env (.inl rfl)]
      cases hget : env.get? name <;>
        simp [Part.unset?, Part.name?, Part.meaning, Option.filter_some, hget]
  | bare name =>
      obtain ⟨hne, hname, hrest⟩ := h
      rw [Part.written, List.cons_append,
        segments_bare (by simpa using hne) hname hrest,
        evaluate_reference env (.inr rfl)]
      cases hget : env.get? name <;>
        simp [Part.unset?, Part.name?, Part.meaning, Option.filter_some, hget]
  | dollar =>
      rw [Part.written, List.singleton_append, segments_lone h.1 h.2,
        evaluate_cons]
      simp [Segment.value, Part.unset?, Part.name?, Part.meaning, Except.bind]

theorem evaluate_segments_written (env : Environment) {parts : List Part}
    (h : WellFormed parts) :
    evaluate env (segments (written parts)) =
      match firstUnset? env parts with
      | some name => .error name
      | none =>
          .ok (parts.flatMap fun part => (part.meaning env).toList) := by
  induction parts with
  | nil =>
      rw [written, List.flatMap_nil, segments]
      rfl
  | cons part rest ih =>
      have hwritten : written (part :: rest) = part.written ++ written rest :=
        rfl
      rw [hwritten, evaluate_written env h.1, ih h.2, firstUnset?, firstUnset?,
        List.findSome?_cons, List.flatMap_cons]
      cases part.unset? env with
      | some name => rfl
      | none => cases rest.findSome? (Part.unset? env) <;> rfl

/-- Expanding a template that follows the grammar gives its literals and the
values of its variables as they are, one after the other, or else the first
variable from the left that is not set; that variable is the missing one of any
connection whose data source the template is. -/
theorem expand_written (env : Environment) {parts : List Part}
    (h : WellFormed parts) :
    (expand env (String.ofList (written parts)) =
      match firstUnset? env parts with
      | some name => .error name
      | none => .ok (String.join (parts.map (Part.meaning env)))) ∧
    ∀ driver,
      (ConnectionEntry.mk driver (String.ofList (written parts))).source env =
        match firstUnset? env parts with
        | some name => .error (.missingVariable name)
        | none => .ok (String.join (parts.map (Part.meaning env))) := by
  have hjoin : String.ofList
      (parts.flatMap fun part => (part.meaning env).toList) =
        String.join (parts.map (Part.meaning env)) := by
    rw [← String.toList_inj, String.toList_join, List.flatMap_map]
    simp
  have hexpand : expand env (String.ofList (written parts)) =
      match firstUnset? env parts with
      | some name => .error name
      | none => .ok (String.join (parts.map (Part.meaning env))) := by
    rw [expand, String.toList_ofList, evaluate_segments_written env h, ← hjoin]
    cases firstUnset? env parts <;> rfl
  refine ⟨hexpand, fun driver => ?_⟩
  rw [ConnectionEntry.source, hexpand]
  cases firstUnset? env parts <;> rfl

namespace TemplateWitness

/-- A value that looks like a reference, and a value that does not. -/
def env : Environment := ⟨[("HOME", "$USER"), ("USER", "ana")]⟩

/-- References one behind the other, with and without braces, and dollar signs
in front of a reference and at the end. -/
def parts : List Part :=
  [.literal "db:", .bare "HOME", .bare "USER", .dollar, .braced "USER",
    .literal "s", .dollar]

/-- Of two variables that are not set the first one has no name at all. -/
def broken : List Part :=
  [.bare "USER", .braced "", .literal " ", .bare "NONE"]

theorem expand_written_home :
    WellFormed parts ∧
      expand env "db:$HOME$USER$$\x7bUSER\x7ds$" = .ok "db:$USERana$anas$" ∧
      WellFormed broken ∧
      (ConnectionEntry.mk "sqlite" "$USER$\x7b\x7d $NONE").source env =
        .error (.missingVariable "") := by
  have hparts : WellFormed parts := by decide +kernel
  have hbroken : WellFormed broken := by decide +kernel
  exact ⟨hparts, (expand_written env hparts).1, hbroken,
    (expand_written env hbroken).2 "sqlite"⟩

end TemplateWitness

end SchemaScope.Settings
