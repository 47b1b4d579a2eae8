/-!
Maps that keep their entries in the order in which the keys were first given a
value. No key occurs twice. Main statements: what `get?` finds after `update`
and after `erase`.
-/

namespace SchemaScope

/-- A map whose entries stand in the order of their first insertion. -/
structure OrderedMap (κ α : Type) where
  entries : List (κ × α)
  distinct : (entries.map Prod.fst).Nodup

namespace OrderedMap

variable {κ α : Type} [DecidableEq κ]

/-- Change the value of a key in place, or add the key at the end. -/
def updateEntry (key : κ) (change : Option α → α) : List (κ × α) → List (κ × α)
  | [] => [(key, change none)]
  | (k, a) :: rest =>
    if k = key then (k, change (some a)) :: rest
    else (k, a) :: updateEntry key change rest

theorem mem_keys_updateEntry {key k : κ} {change : Option α → α}
    {entries : List (κ × α)} :
    k ∈ (updateEntry key change entries).map Prod.fst ↔
      k = key ∨ k ∈ entries.map Prod.fst := by
  induction entries with
  | nil => simp [updateEntry]
  | cons head rest ih =>
    obtain ⟨h, a⟩ := head
    simp only [updateEntry]
    split
    · rename_i heq
      subst heq
      simp
    · simp only [List.map_cons, List.mem_cons, ih]
      exact or_left_comm

theorem nodup_updateEntry (key : κ) (change : Option α → α)
    {entries : List (κ × α)} (h : (entries.map Prod.fst).Nodup) :
    ((updateEntry key change entries).map Prod.fst).Nodup := by
  induction entries with
  | nil => simp [updateEntry]
  | cons head rest ih =>
    obtain ⟨k, a⟩ := head
    obtain ⟨hnot, hrest⟩ := List.nodup_cons.1 h
    simp only [updateEntry]
    split
    · exact h
    · rename_i hne
      refine List.nodup_cons.2 ⟨fun hmem => ?_, ih hrest⟩
      rcases mem_keys_updateEntry.1 hmem with heq | hmem
      · exact hne heq
      · exact hnot hmem

def empty : OrderedMap κ α := ⟨[], by simp⟩

instance : Inhabited (OrderedMap κ α) := ⟨empty⟩

/-- The keys, in order. -/
def keys (m : OrderedMap κ α) : List κ := m.entries.map Prod.fst

def get? (m : OrderedMap κ α) (key : κ) : Option α :=
  (m.entries.find? (·.1 = key)).map Prod.snd

/-- Change the value of a key; a new key goes to the end. -/
def update (m : OrderedMap κ α) (key : κ) (change : Option α → α) :
    OrderedMap κ α :=
  ⟨updateEntry key change m.entries, nodup_updateEntry key change m.distinct⟩

/-- Give a key a value. A key that has one keeps its place. -/
def insert (m : OrderedMap κ α) (key : κ) (value : α) : OrderedMap κ α :=
  m.update key fun _ => value

def erase (m : OrderedMap κ α) (key : κ) : OrderedMap κ α :=
  ⟨m.entries.filter (·.1 ≠ key),
   (List.filter_sublist.map Prod.fst).nodup m.distinct⟩

/-- The map of a list of entries. Of several with one key the first one gives
the place and the last one the value. -/
def ofList (entries : List (κ × α)) : OrderedMap κ α :=
  entries.foldl (fun m e => m.insert e.1 e.2) empty

theorem get?_empty (key : κ) : (empty : OrderedMap κ α).get? key = none := rfl

theorem find?_updateEntry (key k : κ) (change : Option α → α)
    (entries : List (κ × α)) :
    ((updateEntry key change entries).find? (·.1 = k)).map Prod.snd =
      if k = key then some (change ((entries.find? (·.1 = key)).map Prod.snd))
      else (entries.find? (·.1 = k)).map Prod.snd := by
  induction entries with
  | nil =>
    by_cases h : k = key
    · simp [updateEntry, h]
    · simp [updateEntry, h, Ne.symm h]
  | cons head rest ih =>
    obtain ⟨h, a⟩ := head
    by_cases hk : h = key
    · subst hk
      by_cases hq : k = h
      · subst hq
        simp [updateEntry]
      · have : ¬h = k := fun e => hq e.symm
        simp [updateEntry, hq, this]
    · by_cases hq : k = key
      · subst hq
        simpa [updateEntry, hk] using ih
      · by_cases hh : h = k
        · simp [updateEntry, hq, hh]
        · simpa [updateEntry, hk, hq, hh] using ih

theorem get?_update (m : OrderedMap κ α) (key k : κ) (change : Option α → α) :
    (m.update key change).get? k =
      if k = key then some (change (m.get? key)) else m.get? k :=
  find?_updateEntry key k change m.entries

theorem get?_insert (m : OrderedMap κ α) (key k : κ) (value : α) :
    (m.insert key value).get? k = if k = key then some value else m.get? k :=
  get?_update m key k _

theorem get?_erase (m : OrderedMap κ α) (key k : κ) :
    (m.erase key).get? k = if k = key then none else m.get? k := by
  simp only [get?, erase, List.find?_filter]
  by_cases h : k = key
  · subst h
    simp
  · rw [if_neg h]
    congr 1
    congr 1
    funext e
    by_cases he : e.1 = k
    · simp [he, h]
    · simp [he]

end OrderedMap

end SchemaScope
