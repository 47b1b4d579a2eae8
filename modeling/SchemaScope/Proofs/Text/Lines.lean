import SchemaScope.Text.Lines

/-!
Texts by their lines. A layout is a list of lines with their endings and a last
line without one. Main statements: the lines of a text are those of its layout,
but for a last line that is empty, and every text has a layout.
-/

namespace SchemaScope.Text

/-- What ends a line. -/
inductive Ending where
  | feed
  | returnFeed
  deriving DecidableEq, Repr

namespace Ending

/-- An ending as it stands in a text. -/
def chars : Ending → List Char
  | feed => ['\n']
  | returnFeed => ['\r', '\n']

/-- An ending ends a line. Before a line feed alone, a carriage return would be
part of the ending. -/
def Ends (ending : Ending) (line : List Char) : Prop :=
  '\n' ∉ line ∧ (ending = feed → line.getLast? ≠ some '\r')

instance (ending : Ending) (line : List Char) : Decidable (ending.Ends line) :=
  inferInstanceAs (Decidable (_ ∧ _))

theorem Ends.tail {ending : Ending} {c : Char} {line : List Char}
    (h : ending.Ends (c :: line)) : ending.Ends line := by
  refine ⟨fun hmem => h.1 (List.mem_cons_of_mem c hmem), fun hfeed hlast => ?_⟩
  cases line with
  | nil => cases hlast
  | cons d line =>
      exact h.2 hfeed (by rw [List.getLast?_cons_cons, hlast])

/-- What follows a carriage return in an ended line is no line feed. -/
theorem Ends.head?_ne {ending : Ending} {line : List Char}
    (h : ending.Ends ('\r' :: line)) (rest : List Char) :
    (line ++ (ending.chars ++ rest)).head? ≠ some '\n' := by
  cases line with
  | nil =>
      cases ending with
      | feed => exact absurd rfl (h.2 rfl)
      | returnFeed => simp [chars]
  | cons d line =>
      intro hd
      have hfeed : d = '\n' := Option.some.inj hd
      exact h.1 (by rw [hfeed]; simp)

end Ending

/-- An ordinary character belongs to the first line of what follows it. -/
theorem lines_cons {c : Char} {rest : List Char} (hfeed : c ≠ '\n')
    (hreturn : c = '\r' → rest.head? ≠ some '\n') :
    lines (c :: rest) =
      (c :: (lines rest).headD []) :: (lines rest).tail := by
  rw [lines.eq_def]
  split
  · next h => cases h
  · next h =>
      obtain ⟨rfl, rfl⟩ := List.cons.inj h
      exact absurd rfl (hreturn rfl)
  · next h => exact absurd (List.cons.inj h).1 hfeed
  · next h =>
      obtain ⟨rfl, rfl⟩ := List.cons.inj h
      cases lines _ <;> rfl

theorem lines_ended {ending : Ending} {line : List Char}
    (h : ending.Ends line) (rest : List Char) :
    lines (line ++ (ending.chars ++ rest)) = line :: lines rest := by
  induction line with
  | nil => cases ending <;> simp [Ending.chars, lines]
  | cons c line ih =>
      have hfeed : c ≠ '\n' := fun hc => h.1 (by rw [hc]; simp)
      rw [List.cons_append, lines_cons hfeed, ih h.tail]
      · rfl
      · rintro rfl
        exact h.head?_ne rest

/-- The end of a text ends a line that holds a character. -/
theorem lines_last {last : List Char} (h : '\n' ∉ last) :
    lines last = if last = [] then [] else [last] := by
  induction last with
  | nil => rfl
  | cons c last ih =>
      rw [List.mem_cons, not_or] at h
      have hhead : last.head? ≠ some '\n' :=
        fun hhead => h.2 (List.mem_of_mem_head? hhead)
      rw [lines_cons (Ne.symm h.1) fun _ => hhead, ih h.2]
      cases last <;> rfl

/-- Lines with their endings and a last line without one. -/
structure Layout where
  ended : List (List Char × Ending)
  last : List Char
  ends : ∀ part ∈ ended, part.2.Ends part.1
  unbroken : '\n' ∉ last

namespace Layout

/-- The lines of a layout. -/
def lines (layout : Layout) : List (List Char) :=
  layout.ended.map Prod.fst ++ [layout.last]

/-- A layout as characters. -/
def chars (layout : Layout) : List Char :=
  (layout.ended.flatMap fun part => part.1 ++ part.2.chars) ++ layout.last

/-- A layout as text. -/
def text (layout : Layout) : String := String.ofList layout.chars

/-- A layout with one more line in front. -/
def push {ending : Ending} {line : List Char} (h : ending.Ends line)
    (layout : Layout) : Layout where
  ended := (line, ending) :: layout.ended
  last := layout.last
  ends := by
    intro part hpart
    rcases List.mem_cons.1 hpart with rfl | hpart
    · exact h
    · exact layout.ends part hpart
  unbroken := layout.unbroken

theorem chars_push {ending : Ending} {line : List Char} (h : ending.Ends line)
    (layout : Layout) :
    (layout.push h).chars = line ++ (ending.chars ++ layout.chars) := by
  simp [chars, push]

theorem lines_push {ending : Ending} {line : List Char} (h : ending.Ends line)
    (layout : Layout) : (layout.push h).lines = line :: layout.lines := rfl

/-- A layout of one line. -/
def single {last : List Char} (h : '\n' ∉ last) : Layout where
  ended := []
  last := last
  ends := by simp
  unbroken := h

/-- What holds of layouts of one line, and with every line in front, holds of
all layouts. -/
theorem push_induction {motive : Layout → Prop}
    (single : ∀ last (h : '\n' ∉ last), motive (single h))
    (push : ∀ ending line (h : Ending.Ends ending line) layout,
      motive layout → motive (layout.push h))
    (layout : Layout) : motive layout := by
  obtain ⟨ended, last, ends, unbroken⟩ := layout
  induction ended with
  | nil => exact single last unbroken
  | cons part ended ih =>
      exact push part.2 part.1 (ends part List.mem_cons_self)
        ⟨ended, last, _, _⟩
        (ih fun other hother => ends other (List.mem_cons_of_mem part hother))

/-- A text has the lines of its layout. Its last line is not there if it is
empty, and then no character stands in it. -/
theorem getD_lines_chars (layout : Layout) (i : Nat) :
    ((Text.lines layout.chars)[i]?).getD [] = (layout.lines[i]?).getD [] := by
  induction layout using push_induction generalizing i with
  | single last h =>
      rw [show (single h).chars = last from rfl, lines_last h]
      cases last <;> cases i <;> rfl
  | push ending line h layout ih =>
      rw [chars_push, lines_ended h, lines_push]
      cases i with
      | zero => rfl
      | succ i => exact ih i

/-- A character in front of a text stands in its first line, or ends a line. -/
theorem exists_chars_cons {c : Char} (layout : Layout) (hfeed : c ≠ '\n')
    (hreturn : c = '\r' → layout.chars.head? ≠ some '\n') :
    ∃ more : Layout, more.chars = c :: layout.chars := by
  -- The character joins the first line, so nothing is assumed of the others.
  induction layout using push_induction with
  | single last h =>
      have hopen : '\n' ∉ c :: last := by simp [hfeed.symm, h]
      exact ⟨single hopen, rfl⟩
  | push ending line h layout _ =>
      have hends : ending.Ends (c :: line) := by
        refine ⟨by simp [hfeed.symm, h.1], fun hending hlast => ?_⟩
        cases line with
        | nil =>
            subst hending
            exact hreturn (Option.some.inj hlast) (by rw [chars_push]; rfl)
        | cons d line =>
            exact h.2 hending (by rwa [List.getLast?_cons_cons] at hlast)
      exact ⟨layout.push hends,
        by rw [chars_push, chars_push, List.cons_append]⟩

/-- Every text has a layout. -/
theorem exists_chars_eq (cs : List Char) :
    ∃ layout : Layout, layout.chars = cs := by
  induction cs using Text.lines.induct with
  | case1 => exact ⟨single List.not_mem_nil, rfl⟩
  | case2 rest ih =>
      obtain ⟨layout, rfl⟩ := ih
      have hends : Ending.returnFeed.Ends [] := by decide
      exact ⟨layout.push hends, chars_push hends layout⟩
  | case3 rest ih =>
      obtain ⟨layout, rfl⟩ := ih
      have hends : Ending.feed.Ends [] := by decide
      exact ⟨layout.push hends, chars_push hends layout⟩
  | case4 c rest hreturn hfeed _ ih | case5 c rest hreturn hfeed _ _ _ ih =>
      obtain ⟨layout, rfl⟩ := ih
      refine layout.exists_chars_cons (fun hc => hfeed hc) fun hc hhead => ?_
      obtain ⟨more, hmore⟩ := List.head?_eq_some_iff.1 hhead
      exact hreturn more hc hmore

theorem exists_text_eq (text : String) :
    ∃ layout : Layout, layout.text = text := by
  obtain ⟨layout, hlayout⟩ := exists_chars_eq text.toList
  exact ⟨layout, by rw [Layout.text, hlayout, String.ofList_toList]⟩

end Layout

end SchemaScope.Text
