import Mathlib.Data.String.Basic
import SchemaScope.Text.LowerCase
import SchemaScope.Text.Like

/-!
Which texts have an ASCII text as their lower case. Outside ASCII only one
character has a small letter within it, the Kelvin sign; every other one leaves
a character outside ASCII behind, whether it becomes one character or two and
wherever in a word it stands. Main statement: an ASCII text without the letter k
is the lower case of exactly those texts that become that text when only the
ASCII letters of them are lowered.
-/

namespace SchemaScope.Text

/-- A character of the ASCII alphabet. -/
def IsAscii (c : Char) : Prop := c.toNat < 128

instance : DecidablePred IsAscii :=
  fun c => inferInstanceAs (Decidable (c.toNat < 128))

theorem toLower_of_not_isAscii {c : Char} (h : ¬IsAscii c) : c.toLower = c := by
  have hupper : ¬(c.val ≥ 'A'.val ∧ c.val ≤ 'Z'.val) := by
    rintro ⟨_, hle⟩
    exact h (Nat.lt_of_le_of_lt hle (by decide))
  exact dif_neg hupper

/-- The counterparts of the code points of a run are characters outside
ASCII. -/
def CodeRun.Outside (run : CodeRun) : Prop :=
  128 ≤ run.first + run.shift ∧
    (run.last + run.shift < 0xD800 ∨
      0xE000 ≤ run.first + run.shift ∧ run.last + run.shift < 0x110000)

instance : DecidablePred CodeRun.Outside := fun _ =>
  inferInstanceAs (Decidable (_ ∧ _))

theorem CodeRun.Outside.not_isAscii {run : CodeRun} (h : run.Outside)
    {code : Nat} (hcode : run.contains code = true) :
    ¬IsAscii (Char.ofNat (run.counterpart code)) := by
  simp only [contains, Bool.and_eq_true, decide_eq_true_eq] at hcode
  obtain ⟨⟨hfirst, hlast⟩, _⟩ := hcode
  have hvalid : (run.counterpart code).isValidChar := by
    obtain ⟨hlow, hhigh⟩ := h
    simp only [counterpart, Nat.isValidChar]
    omega
  have hlow := h.1
  have hcode :
      (Char.ofNat (run.counterpart code)).toNat = run.counterpart code := by
    rw [Char.ofNat, dif_pos hvalid]
    rfl
  rw [IsAscii, hcode, counterpart]
  omega

/-- The Kelvin sign, whose small letter is the letter k. -/
def kelvin : Char := Char.ofNat 8490

theorem lowerCaseRuns_outside :
    ∀ run ∈ lowerCaseRuns,
      run.Outside ∨ run.first = kelvin.toNat ∧ run.last = kelvin.toNat := by
  decide +kernel

/-- The small letters of a character outside ASCII are not all within it, unless
it is the Kelvin sign. -/
theorem exists_mem_lowerChar {c : Char} (h : ¬IsAscii c)
    (hkelvin : c ≠ kelvin) : ∃ d ∈ lowerChar c, ¬IsAscii d := by
  unfold IsAscii at h
  rw [lowerChar, if_neg h]
  split
  · exact ⟨'\u0307', by simp, by decide⟩
  · split
    · rename_i run hrun
      have hcontains : run.contains c.toNat = true := by
        simpa using List.find?_some hrun
      rcases lowerCaseRuns_outside run (List.mem_of_find?_eq_some hrun) with
        houtside | ⟨hfirst, hlast⟩
      · exact ⟨_, List.mem_singleton_self _, houtside.not_isAscii hcontains⟩
      · simp only [CodeRun.contains, Bool.and_eq_true, decide_eq_true_eq]
          at hcontains
        have hcode : c.toNat = kelvin.toNat := by omega
        exact absurd (Char.toNat_inj.1 hcode) hkelvin
    · exact ⟨c, List.mem_singleton_self c, h⟩

theorem lowerChar_kelvin : lowerChar kelvin = ['k'] := by
  decide +kernel

/-- A letter that is not the letter k is the small letter of characters of the
ASCII alphabet only. -/
theorem isAscii_of_lowerChar {c : Char}
    (h : ∀ d ∈ lowerChar c, IsAscii d ∧ d ≠ 'k') : IsAscii c := by
  by_contra hc
  by_cases hkelvin : c = kelvin
  · subst hkelvin
    rw [lowerChar_kelvin] at h
    exact (h 'k' (List.mem_singleton_self _)).2 rfl
  · obtain ⟨d, hd, hdc⟩ := exists_mem_lowerChar hc hkelvin
    exact hdc (h d hd).1

theorem lowerChar_of_isAscii {c : Char} (h : IsAscii c) :
    lowerChar c = [c.toLower] := by
  unfold IsAscii at h
  rw [lowerChar, if_pos h]

theorem lowerFrom_cons (before rest : List Char) {c : Char} (h : c ≠ 'Σ') :
    lowerFrom before (c :: rest) =
      lowerChar c ++ lowerFrom (c :: before) rest := by
  rw [lowerFrom]
  exact h

/-- A capital sigma is a small one in either form. -/
theorem lowerFrom_sigma (before rest : List Char) :
    ∃ d, ¬IsAscii d ∧
      lowerFrom before ('Σ' :: rest) = d :: lowerFrom ('Σ' :: before) rest := by
  rw [lowerFrom]
  split
  · exact ⟨'ς', by decide, rfl⟩
  · exact ⟨'σ', by decide, rfl⟩

/-- What stands before a text matters to a capital sigma only. -/
theorem lowerFrom_of_isAscii {cs : List Char} (h : ∀ c ∈ cs, IsAscii c)
    (before : List Char) : lowerFrom before cs = cs.map Char.toLower := by
  induction cs generalizing before with
  | nil => rfl
  | cons c rest ih =>
      obtain ⟨hc, hrest⟩ := List.forall_mem_cons.1 h
      have hsigma : c ≠ 'Σ' := by
        rintro rfl
        exact absurd hc (by decide)
      rw [lowerFrom_cons before rest hsigma, lowerChar_of_isAscii hc, ih hrest]
      rfl

theorem isAscii_of_lowerFrom {before cs : List Char}
    (h : ∀ d ∈ lowerFrom before cs, IsAscii d ∧ d ≠ 'k') :
    ∀ c ∈ cs, IsAscii c := by
  induction cs generalizing before with
  | nil => simp
  | cons c rest ih =>
      by_cases hsigma : c = 'Σ'
      · subst hsigma
        obtain ⟨d, hd, heq⟩ := lowerFrom_sigma before rest
        rw [heq] at h
        exact absurd (h d List.mem_cons_self).1 hd
      · rw [lowerFrom_cons before rest hsigma] at h
        obtain ⟨hc, hrest⟩ := List.forall_mem_append.1 h
        exact List.forall_mem_cons.2 ⟨isAscii_of_lowerChar hc, ih hrest⟩

theorem isAscii_of_toLower {c : Char} (h : IsAscii c.toLower) : IsAscii c := by
  by_contra hc
  rw [toLower_of_not_isAscii hc] at h
  exact hc h

/-- Texts with this lower case have the same characters, each of them in
capitals or not. -/
theorem lowerCase_eq_iff {text name : String}
    (hname : ∀ c ∈ name.toList, IsAscii c ∧ c ≠ 'k') :
    lowerCase text = name ↔ text.toList.map Char.toLower = name.toList := by
  rw [← String.toList_inj, lowerCase, String.toList_ofList]
  constructor
  · intro h
    have hascii : ∀ c ∈ text.toList, IsAscii c :=
      isAscii_of_lowerFrom (h ▸ hname)
    rw [← h, lowerFrom_of_isAscii hascii]
  · intro h
    have hascii : ∀ c ∈ text.toList, IsAscii c := fun c hc =>
      isAscii_of_toLower (hname _ (h ▸ List.mem_map_of_mem hc)).1
    rw [lowerFrom_of_isAscii hascii, h]

end SchemaScope.Text
