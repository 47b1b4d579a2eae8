import Mathlib.Data.List.Nodup
import SchemaScope.Proofs.Fallible
import SchemaScope.Proofs.Json.Record
import SchemaScope.Proofs.Json.Text

/-!
Values that are exchanged as JSON. A value is written in one form and read
from many: a record may have further fields, in any order, or be an array, and
some of its fields may be missing. Whatever was read is written in the one
form, and that form is read as the same value.
-/

namespace SchemaScope.Json

variable {α : Type} {write : α → Json} {read : Json → Decoded α}

/-- What is written for a value is read as that value. -/
def ReadsBack (write : α → Json) (read : Json → Decoded α) : Prop :=
  ∀ a, read (write a) = .ok a

theorem ReadsBack.injective (h : ReadsBack write read) :
    Function.Injective write := by
  intro a b heq
  have hread := h a
  rw [heq, h b] at hread
  exact (Except.ok.inj hread).symm

theorem readsBack_text : ReadsBack .string toText := fun _ => rfl

theorem toInteger_of_range {low high n : Int} {expected : String}
    (hlow : low ≤ n) (hhigh : n < high) :
    toInteger low high expected (.integer n) = .ok n :=
  if_pos ⟨hlow, hhigh⟩

theorem readsBack_word :
    ReadsBack (fun n : UInt64 => .natural n.toNat) toWord := by
  intro n
  have hread : toInteger 0 UInt64.size "u64" (natural n.toNat) =
      .ok n.toNat :=
    toInteger_of_range (Int.natCast_nonneg _) (Int.ofNat_lt.2 n.toNat_lt)
  rw [toWord, hread]
  simp [Except.map]

theorem ReadsBack.list (h : ReadsBack write read) :
    ReadsBack (fun items => .array (items.map write)) (toList read) := by
  intro items
  have hitems : items.mapM (read ∘ write) = .ok (items.map id) :=
    Fallible.mapM_eq_ok fun a _ => h a
  rw [toList, List.mapM_map, hitems, List.map_id]

theorem ReadsBack.object (h : ReadsBack write read) :
    ReadsBack
      (fun entries => .object (entries.map fun (name, a) => (name, write a)))
      (toMap read) := by
  intro entries
  have hentries :
      entries.mapM (fun e => (read (write e.2)).map (e.1, ·)) =
        .ok (entries.map id) := by
    apply Fallible.mapM_eq_ok
    intro entry _
    rw [h entry.2]
    rfl
  rw [List.map_id] at hentries
  rw [toMap, List.mapM_map]
  exact hentries

theorem toOption_of_ne_null {j : Json} (hj : j ≠ .null) :
    toOption read j = (read j).map some := by
  cases j with
  | null => exact absurd rfl hj
  | _ => rfl

theorem ReadsBack.option (h : ReadsBack write read)
    (hnull : ∀ a, write a ≠ .null) :
    ReadsBack (ofOption write) (toOption read) := by
  intro o
  cases o with
  | none => rfl
  | some a =>
      rw [ofOption, toOption_of_ne_null (hnull a), h a]
      rfl

/-- A text or `null`. -/
theorem readsBack_optionalText :
    ReadsBack (ofOption .string) (toOption toText) :=
  readsBack_text.option fun _ => Json.noConfusion

theorem exact_word (n : UInt64) : (natural n.toNat).Exact := by
  have hsize : n.toNat < 2 ^ 64 := n.toNat_lt
  apply Exact.integer
  · omega
  · omega

theorem exact_list (h : ∀ a, (write a).Exact) (items : List α) :
    (array (items.map write)).Exact := by
  apply Exact.array
  intro item hitem
  obtain ⟨a, -, rfl⟩ := List.mem_map.1 hitem
  exact h a

theorem exact_optionalText (o : Option String) :
    (ofOption .string o).Exact := by
  cases o with
  | none => exact .null
  | some text => exact .string text

namespace FieldSource

/-- An object has no field of a name. -/
def Omits : FieldSource → String → Prop
  | named fields, name => lookup fields name = none
  | listed _, _ => False

/-- A source has the fields of a list, each under its name or in its place,
except that an object may leave out those that have a value of their own. -/
def Gives (source : FieldSource) (defaults fields : List (String × Json)) :
    Prop :=
  ∀ place name j, fields[place]? = some (name, j) →
    source.get? place name = some j ∨ source.Omits name ∧ (name, j) ∈ defaults

variable {source : FieldSource} {defaults fields : List (String × Json)}
  {place : Nat} {name : String} {j : Json}

theorem Omits.get?_eq_none (h : source.Omits name) :
    source.get? place name = none := by
  cases source with
  | named fields => exact h
  | listed items => exact absurd h id

theorem takeFrom_eq_value {a : α} (hread : read j = .ok a) :
    takeFrom name read j = .value a := by
  rw [takeFrom, hread]

theorem Gives.take (h : source.Gives defaults fields) {a : α}
    (hfield : fields[place]? = some (name, j))
    (hrequired : (name, j) ∉ defaults) (hread : read j = .ok a) :
    source.take place name read = .value a := by
  rcases h place name j hfield with hget | ⟨_, hdefault⟩
  · rw [FieldSource.take, hget]
    exact takeFrom_eq_value hread
  · exact absurd hdefault hrequired

theorem Gives.takeOr (h : source.Gives defaults fields) {a otherwise : α}
    (hfield : fields[place]? = some (name, j))
    (hotherwise : (name, j) ∈ defaults → otherwise = a)
    (hread : read j = .ok a) :
    source.takeOr otherwise place name read = .value a := by
  rcases h place name j hfield with hget | ⟨homits, hdefault⟩
  · rw [FieldSource.takeOr, hget]
    exact takeFrom_eq_value hread
  · rw [FieldSource.takeOr, homits.get?_eq_none, hotherwise hdefault]

theorem Gives.takeOption (h : source.Gives defaults fields) {o : Option α}
    (hfield : fields[place]? = some (name, j))
    (hotherwise : (name, j) ∈ defaults → none = o)
    (hread : toOption read j = .ok o) :
    source.takeOption place name read = .value o := by
  cases source with
  | named others => exact h.takeOr hfield hotherwise hread
  | listed items =>
      rcases h place name j hfield with hget | ⟨homits, _⟩
      · rw [FieldSource.takeOption, FieldSource.take, hget]
        exact takeFrom_eq_value hread
      · exact absurd homits id

/-- The items of an array are its fields by their places. -/
theorem listed_gives (defaults fields : List (String × Json)) :
    (listed (fields.map Prod.snd)).Gives defaults fields := by
  intro place name j hfield
  rw [get?, List.getElem?_map, hfield]
  exact .inl rfl

theorem named_gives {others : List (String × Json)}
    (h : ∀ field ∈ fields, lookup others field.1 = some field.2 ∨
      lookup others field.1 = none ∧ field ∈ defaults) :
    (named others).Gives defaults fields := by
  intro place name j hfield
  exact h (name, j) (List.mem_of_getElem? hfield)

end FieldSource

theorem lookup_of_mem {fields : List (String × Json)} {field : String × Json}
    (hnames : (fields.map Prod.fst).Nodup) (hfield : field ∈ fields) :
    lookup fields field.1 = some field.2 := by
  rw [lookup]
  cases hfound : fields.reverse.find? (·.1 == field.1) with
  | none =>
      have hother := List.find?_eq_none.1 hfound field (by simpa using hfield)
      simp at hother
  | some found =>
      have hname : found.1 = field.1 := by
        simpa using List.find?_some hfound
      have hmem : found ∈ fields := by
        simpa using List.mem_of_find?_eq_some hfound
      rw [List.inj_on_of_nodup_map hnames hmem hfield hname]
      rfl

/-- Values are written as objects with fields of certain names. What is written
for a value is read as that value, and whatever else is read has a normal
form. -/
structure Exchanged (names : List String) (defaults : List (String × Json))
    (write : α → Json) (read : Json → Decoded α) : Prop where
  is_record : ∀ a, ∃ fields, write a = .object fields ∧
    fields.map Prod.fst = names
  reads_back : ReadsBack write read
  /-- A text keeps what is written. -/
  exact : ∀ a, (write a).Exact
  reads_text : ∀ a, (parse? (write a).render).map read = some (.ok a)
  /-- Fields may be in any order, there may be others, and a field may be
  missing that has its default value. -/
  reads_object : ∀ a fields others, write a = .object fields →
    (∀ field ∈ fields, lookup others field.1 = some field.2 ∨
      lookup others field.1 = none ∧ field ∈ defaults) →
    read (.object others) = .ok a
  /-- Fields may be known by their places. -/
  reads_array : ∀ a fields, write a = .object fields →
    read (.array (fields.map Prod.snd)) = .ok a
  /-- What was read is written in a form that is read as the same value, and
  that stays as it is when it is written once more. -/
  normal : ∀ j k, (read j).map write = .ok k →
    read k = read j ∧ (read k).map write = .ok k

variable {names : List String} {defaults : List (String × Json)}
  {record : String} {size : Nat} {take : FieldSource → Taken α}
  {fieldsOf : α → List (String × Json)}

/-- A record can be exchanged if its fields are told apart by their names, and
if it is taken from whatever gives the fields that are written for it. -/
theorem Exchanged.ofRecord (hnames : ∀ a, (fieldsOf a).map Prod.fst = names)
    (hnodup : names.Nodup) (hsize : names.length = size)
    (hexact : ∀ a, ∀ field ∈ fieldsOf a, field.2.Exact)
    (htake : ∀ a source, source.Gives defaults (fieldsOf a) →
      take source = .value a) :
    Exchanged names defaults (fun a => .object (fieldsOf a))
      (toRecord record size take) := by
  have hobject : ∀ a others,
      (∀ field ∈ fieldsOf a, lookup others field.1 = some field.2 ∨
        lookup others field.1 = none ∧ field ∈ defaults) →
      toRecord record size take (.object others) = .ok a := by
    intro a others h
    apply toRecord_eq_ok_iff.2
    exact .inl ⟨others, rfl, htake a _ (FieldSource.named_gives h)⟩
  have hback : ReadsBack (fun a => .object (fieldsOf a))
      (toRecord record size take) := by
    intro a
    apply hobject a
    intro field hfield
    exact .inl (lookup_of_mem ((hnames a).symm ▸ hnodup) hfield)
  constructor
  · exact fun a => ⟨fieldsOf a, rfl, hnames a⟩
  · exact hback
  · exact fun a => .object (hexact a)
  · intro a
    rw [parse?_render (.object (hexact a)), Option.map_some, hback a]
  · intro a fields others hwrite
    cases hwrite
    exact hobject a others
  · intro a fields hwrite
    cases hwrite
    have hlength : ((fieldsOf a).map Prod.snd).length = size := by
      rw [List.length_map, ← hsize, ← hnames a, List.length_map]
    apply toRecord_eq_ok_iff.2
    exact .inr ⟨_, rfl, Nat.le_of_eq hlength,
      htake a _ (FieldSource.listed_gives defaults _)⟩
  · intro j k hread
    cases hj : toRecord record size take j with
    | error message =>
        rw [hj] at hread
        cases hread
    | ok a =>
        rw [hj] at hread
        cases hread
        rw [hback a]
        exact ⟨rfl, rfl⟩

end SchemaScope.Json
