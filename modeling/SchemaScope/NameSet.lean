/-!
Sets of names that keep the order in which the names were first added.
-/

namespace SchemaScope

/-- A set of names in the order of their first insertion. -/
structure NameSet where
  names : List String
  distinct : names.Nodup
  deriving DecidableEq, Repr

namespace NameSet

def empty : NameSet := ⟨[], by simp⟩

instance : Inhabited NameSet := ⟨empty⟩

instance : Membership String NameSet := ⟨fun set name => name ∈ set.names⟩

instance (name : String) (set : NameSet) : Decidable (name ∈ set) :=
  inferInstanceAs (Decidable (name ∈ set.names))

/-- Add a name at the end, unless it is there. -/
def insert (set : NameSet) (name : String) : NameSet :=
  if h : name ∈ set.names then set
  else ⟨set.names ++ [name],
    List.nodup_append.2 ⟨set.distinct, by simp, by
      intro a ha b hb
      obtain rfl := List.mem_singleton.1 hb
      exact fun e => h (e ▸ ha)⟩⟩

def insertAll (set : NameSet) (names : List String) : NameSet :=
  names.foldl insert set

theorem mem_insert {set : NameSet} {name n : String} :
    n ∈ set.insert name ↔ n ∈ set ∨ n = name := by
  change n ∈ (set.insert name).names ↔ n ∈ set.names ∨ n = name
  unfold insert
  split
  · rename_i h
    exact ⟨.inl, fun hn => hn.elim id (· ▸ h)⟩
  · simp

theorem mem_insertAll {set : NameSet} {names : List String} {n : String} :
    n ∈ set.insertAll names ↔ n ∈ set ∨ n ∈ names := by
  induction names generalizing set with
  | nil => simp [insertAll]
  | cons name rest ih =>
    have : set.insertAll (name :: rest) =
        (set.insert name).insertAll rest := rfl
    rw [this, ih, mem_insert, List.mem_cons, or_assoc]

end NameSet

end SchemaScope
