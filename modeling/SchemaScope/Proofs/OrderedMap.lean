import SchemaScope.OrderedMap

/-!
Ordered maps by their entries. A map is known by its keys in order and by the
value of each; taking a key out undoes whatever was done to that key, and does
not mind what is done to others.
-/

namespace SchemaScope.OrderedMap

variable {κ α : Type}

theorem eq_of_entries {m m' : OrderedMap κ α} (h : m.entries = m'.entries) :
    m = m' := by
  cases m
  cases h
  rfl

theorem foldl_last (entries : List (κ × α)) (a : Option α) :
    entries.foldl (fun _ e => some e.2) a =
      (entries.getLast?.map Prod.snd).or a := by
  induction entries generalizing a with
  | nil => rfl
  | cons e rest ih =>
      rw [List.foldl_cons, ih, List.getLast?_cons]
      cases rest.getLast? with
      | none => rfl
      | some last => rfl

variable [DecidableEq κ] {key k : κ}

theorem keys_updateEntry (key : κ) (change : Option α → α)
    (entries : List (κ × α)) :
    (updateEntry key change entries).map Prod.fst =
      if key ∈ entries.map Prod.fst then entries.map Prod.fst
      else entries.map Prod.fst ++ [key] := by
  induction entries with
  | nil => rfl
  | cons head rest ih =>
      obtain ⟨h, a⟩ := head
      by_cases hkey : h = key
      · simp [updateEntry, hkey]
      · simp only [updateEntry, if_neg hkey, List.map_cons, ih,
          List.mem_cons, Ne.symm hkey, false_or]
        split
        · rfl
        · rfl

/-- A key keeps its place when its value changes, and a new key is the last
one. -/
theorem keys_update (m : OrderedMap κ α) (key : κ)
    (change : Option α → α) :
    (m.update key change).keys =
      if key ∈ m.keys then m.keys else m.keys ++ [key] :=
  keys_updateEntry key change m.entries

theorem isSome_get?_iff {m : OrderedMap κ α} :
    (m.get? key).isSome = true ↔ key ∈ m.keys := by
  simp [get?, keys, List.find?_isSome]

theorem get?_eq_none_iff {m : OrderedMap κ α} :
    m.get? key = none ↔ key ∉ m.keys := by
  rw [← isSome_get?_iff, Option.not_isSome_iff_eq_none]

theorem get?_of_mem {m : OrderedMap κ α} {e : κ × α} (he : e ∈ m.entries) :
    m.get? e.1 = some e.2 := by
  obtain ⟨entries, hdistinct⟩ := m
  simp only [get?]
  induction entries with
  | nil => cases he
  | cons head rest ih =>
      obtain ⟨hnot, hrest⟩ := List.nodup_cons.1 hdistinct
      rcases List.mem_cons.1 he with rfl | he
      · simp
      · have hne : head.1 ≠ e.1 := by
          intro heq
          exact hnot (heq ▸ List.mem_map_of_mem he)
        simpa [hne] using ih hrest he

/-- A map is known by its keys if they tell their values. -/
theorem entries_eq_map {m : OrderedMap κ α} {f : κ → α}
    (h : ∀ k ∈ m.keys, m.get? k = some (f k)) :
    m.entries = m.keys.map fun k => (k, f k) := by
  have hentries : ∀ e ∈ m.entries, e = (e.1, f e.1) := by
    intro e he
    have hvalue := h e.1 (List.mem_map_of_mem he)
    rw [get?_of_mem he] at hvalue
    exact Prod.ext rfl (Option.some.inj hvalue)
  rw [keys, List.map_map]
  exact (List.map_id m.entries).symm.trans (List.map_congr_left hentries)

theorem filter_updateEntry_self (key : κ) (change : Option α → α)
    (entries : List (κ × α)) :
    (updateEntry key change entries).filter (·.1 ≠ key) =
      entries.filter (·.1 ≠ key) := by
  induction entries with
  | nil => simp [updateEntry]
  | cons head rest ih =>
      by_cases hkey : head.1 = key
      · simp [updateEntry, hkey]
      · simpa [updateEntry, hkey] using ih

theorem filter_updateEntry_of_ne (hk : k ≠ key) (change : Option α → α)
    (entries : List (κ × α)) :
    (updateEntry k change entries).filter (·.1 ≠ key) =
      updateEntry k change (entries.filter (·.1 ≠ key)) := by
  induction entries with
  | nil => simp [updateEntry, hk]
  | cons head rest ih =>
      by_cases hhead : head.1 = k
      · have hne : head.1 ≠ key := hhead ▸ hk
        simp [updateEntry, hhead, hk]
      · by_cases hkey : head.1 = key
        · simpa [updateEntry, hhead, hkey, Ne.symm hk] using ih
        · simpa [updateEntry, hhead, hkey] using ih

theorem erase_insert_self (m : OrderedMap κ α) (key : κ) (value : α) :
    (m.insert key value).erase key = m.erase key :=
  eq_of_entries (filter_updateEntry_self key _ m.entries)

theorem erase_insert_of_ne (m : OrderedMap κ α) (hk : k ≠ key) (value : α) :
    (m.insert k value).erase key = (m.erase key).insert k value :=
  eq_of_entries (filter_updateEntry_of_ne hk _ m.entries)

theorem erase_erase_comm (m : OrderedMap κ α) (key k : κ) :
    (m.erase k).erase key = (m.erase key).erase k := by
  refine eq_of_entries ?_
  simp only [erase, List.filter_filter]
  exact List.filter_congr fun e _ => Bool.and_comm _ _

/-- There is nothing to take out of a map that does not have the key. -/
theorem erase_of_get?_eq_none {m : OrderedMap κ α} (h : m.get? key = none) :
    m.erase key = m := by
  refine eq_of_entries (List.filter_eq_self.2 ?_)
  intro e he
  have hne : e.1 ≠ key := by
    rintro rfl
    exact get?_eq_none_iff.1 h (List.mem_map_of_mem he)
  simpa using hne

/-! Several updates, one after the other. -/

theorem eraseDups_of_nodup {keys : List κ} (h : keys.Nodup) :
    keys.eraseDups = keys := by
  induction keys with
  | nil => rfl
  | cons key rest ih =>
      obtain ⟨hnot, hrest⟩ := List.nodup_cons.1 h
      have hfilter : rest.filter (fun k => !k == key) = rest := by
        refine List.filter_eq_self.2 fun k hk => ?_
        have hne : k ≠ key := fun heq => hnot (heq ▸ hk)
        simpa using hne
      rw [List.eraseDups_cons, hfilter, ih hrest]

/-- A list without repeats to which a key is added has lost nothing but a
repeat. -/
theorem eraseDups_add (keys : List κ) (key : κ) (rest : List κ) :
    ((if key ∈ keys then keys else keys ++ [key]) ++ rest).eraseDups =
      (keys ++ key :: rest).eraseDups := by
  by_cases hmem : key ∈ keys
  · rw [if_pos hmem, List.eraseDups_append, List.eraseDups_append]
    simp [List.removeAll, hmem]
  · rw [if_neg hmem, List.append_assoc, List.singleton_append]

variable {ι : Type} (keyOf : ι → κ) (change : ι → Option α → α)

/-- The keys are those that were there and then those that are new, in the
order in which they first come. -/
theorem keys_foldl_update (items : List ι) (m : OrderedMap κ α) :
    (items.foldl (fun m i => m.update (keyOf i) (change i)) m).keys =
      (m.keys ++ items.map keyOf).eraseDups := by
  induction items generalizing m with
  | nil => simp [eraseDups_of_nodup m.distinct, keys]
  | cons item rest ih =>
      rw [List.foldl_cons, ih, keys_update, eraseDups_add, List.map_cons]

/-- The value of a key is what the items for that key make of it. -/
theorem get?_foldl_update (items : List ι) (m : OrderedMap κ α) (k : κ) :
    (items.foldl (fun m i => m.update (keyOf i) (change i)) m).get? k =
      (items.filter (keyOf · = k)).foldl (fun a i => some (change i a))
        (m.get? k) := by
  induction items generalizing m with
  | nil => rfl
  | cons item rest ih =>
      rw [List.foldl_cons, ih, get?_update]
      by_cases hkey : keyOf item = k
      · simp [hkey]
      · simp [hkey, Ne.symm hkey]

theorem keys_ofList (entries : List (κ × α)) :
    (ofList entries).keys = (entries.map Prod.fst).eraseDups :=
  keys_foldl_update Prod.fst (fun e _ => e.2) entries empty

/-- The last of several entries for a key gives its value. -/
theorem get?_ofList (entries : List (κ × α)) (key : κ) :
    (ofList entries).get? key =
      (entries.filter (·.1 = key)).getLast?.map Prod.snd := by
  have h := get?_foldl_update Prod.fst (fun e _ => e.2) entries empty key
  rw [foldl_last, get?_empty, Option.or_none] at h
  exact h

/-- Keys that tell their values are entered once each, however often they are
given. -/
theorem entries_ofList_map (keys : List κ) (f : κ → α) :
    (ofList (keys.map fun k => (k, f k))).entries =
      keys.eraseDups.map fun k => (k, f k) := by
  have hkeys : (ofList (keys.map fun k => (k, f k))).keys = keys.eraseDups := by
    simp [keys_ofList, Function.comp_def]
  rw [← hkeys]
  refine entries_eq_map fun k hk => ?_
  have hmem : k ∈ keys.filter (· = k) := by
    rw [hkeys, List.mem_eraseDups] at hk
    simp [hk]
  have hlast := List.getLast?_eq_some_getLast (List.ne_nil_of_mem hmem)
  have heq : (keys.filter (· = k)).getLast (List.ne_nil_of_mem hmem) = k := by
    have hlastMem := List.getLast_mem (List.ne_nil_of_mem hmem)
    simpa using (List.mem_filter.1 hlastMem).2
  rw [get?_ofList, List.filter_map, List.getLast?_map]
  change (((keys.filter (· = k)).getLast?).map fun k => (k, f k)).map
    Prod.snd = _
  rw [hlast, heq]
  rfl

end SchemaScope.OrderedMap
