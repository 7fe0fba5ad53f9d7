import Gatehouse.Config.Layers

/-!
# Trees laid over each other

What stands at a path of names once a tree was laid over another: the last value
that the upper tree puts there, or else what stood there before.  This holds as
long as the upper tree has tables along the path and no table at its end.
-/

set_option autoImplicit false

namespace Gatehouse.Config.Value

inductive Shape
  | scalar
  | array
  | table
  deriving DecidableEq, Repr

def shape : Value → Shape
  | .table _ => .table
  | .list _ => .array
  | _ => .scalar

/-- What stands at a path of names. -/
def at? : List String → Value → Option Value
  | [], tree => some tree
  | name :: rest, tree => (lookup? name tree.entries).bind (at? rest)

/-- The values that stand under a name; a table has more than one if a name stands in it twice. -/
def named (name : String) (tree : Value) : List Value :=
  (tree.entries.filter fun entry => entry.1 = name).map Prod.snd

/-- All values that a tree puts at a path, in order. -/
def puts : List String → Value → List Value
  | [], tree => [tree]
  | name :: rest, tree => (tree.named name).flatMap (puts rest)

/-- Along the path stand tables, and at its end stands none. -/
def Fits (path : List String) (tree : Value) : Prop :=
  ∀ above below, path = above ++ below →
    ∀ value ∈ tree.puts above, value.shape = .table ↔ below ≠ []

/-- What stands at a path has the shape of a value that is put there, or of one that stood there
before. -/
def Shaped (path : List String) (tree : Value) (before : Option Value) (stands : Value) : Prop :=
  ∃ value, value.shape = stands.shape ∧ (value ∈ tree.puts path ∨ before = some value)

theorem eq_table_of_shape {tree : Value} (shape : tree.shape = .table) :
    ∃ entries, tree = .table entries := by
  cases tree with
  | table entries => exact ⟨entries, rfl⟩
  | _ => cases shape

theorem entries_eq_nil_of_shape {tree : Value} (shape : tree.shape ≠ .table) :
    tree.entries = [] := by
  cases tree with
  | table entries => exact absurd rfl shape
  | _ => rfl

theorem at?_singleton (name : String) (tree : Value) :
    tree.at? [name] = lookup? name tree.entries :=
  Option.bind_fun_some _

theorem at?_append (above below : List String) (tree : Value) :
    tree.at? (above ++ below) = (tree.at? above).bind (at? below) := by
  induction above generalizing tree with
  | nil => rfl
  | cons name above ih =>
      have each : at? (above ++ below) = fun value => (value.at? above).bind (at? below) :=
        funext ih
      rw [List.cons_append, at?, at?, Option.bind_assoc, each]

theorem puts_append (above below : List String) (tree : Value) :
    tree.puts (above ++ below) = (tree.puts above).flatMap (puts below) := by
  induction above generalizing tree with
  | nil => exact (List.append_nil _).symm
  | cons name above ih =>
      have each : puts (above ++ below) = fun value => (value.puts above).flatMap (puts below) :=
        funext ih
      rw [List.cons_append, puts, puts, List.flatMap_assoc, each]

/-! ## Keys -/

theorem lookup?_cons (name key : String) (value : Value) (entries : Entries) :
    lookup? name ((key, value) :: entries) =
      if name = key then some value else lookup? name entries := by
  by_cases same : name = key
  · simp [lookup?, same]
  · simp [lookup?, List.lookup_cons, same, beq_false_of_ne same]

theorem lookup?_setKey (key name : String) (value : Value) (entries : Entries) :
    lookup? name (setKey key value entries) =
      if name = key then some value else lookup? name entries := by
  induction entries with
  | nil => exact lookup?_cons name key value []
  | cons entry rest ih =>
      obtain ⟨found, old⟩ := entry
      rw [setKey, lookup?_cons name found]
      by_cases here : found = key
      · rw [if_pos here, lookup?_cons, here]
        split
        · rfl
        · rfl
      · rw [if_neg here, lookup?_cons, ih]
        by_cases same : name = found
        · rw [if_pos same, if_neg (same ▸ here), if_pos same]
        · rw [if_neg same, if_neg same]

theorem named_table_cons (name : String) (entry : String × Value) (entries : Entries) :
    (Value.table (entry :: entries)).named name =
      if entry.1 = name then entry.2 :: (Value.table entries).named name
      else (Value.table entries).named name := by
  simp only [named, Value.entries, List.filter_cons, decide_eq_true_eq]
  split
  · rfl
  · rfl

/-- The value of a key once a further value was laid over it. -/
def laidOver (found : Option Value) (value : Value) : Option Value :=
  some ((found.getD .null).overlay value)

theorem lookup?_overEntries (name : String) (below entries : Entries) :
    lookup? name (overEntries below entries) =
      ((Value.table entries).named name).foldl laidOver (lookup? name below) := by
  induction entries generalizing below with
  | nil => rfl
  | cons entry entries ih =>
      obtain ⟨key, value⟩ := entry
      rw [overEntries, ih, lookup?_setKey, named_table_cons]
      by_cases same : name = key
      · subst same
        rw [if_pos rfl, if_pos rfl]
        rfl
      · rw [if_neg same, if_neg (Ne.symm same)]

/-! ## One tree over another -/

theorem overlay_table (base : Value) (entries : Entries) :
    base.overlay (.table entries) = .table (overEntries base.entries entries) := by
  cases base <;> rfl

theorem overlay_of_shape (base : Value) {tree : Value} (shape : tree.shape ≠ .table) :
    base.overlay tree = tree := by
  cases tree with
  | table entries => exact absurd rfl shape
  | _ => rfl

theorem shape_overlay (base tree : Value) : (base.overlay tree).shape = tree.shape := by
  by_cases table : tree.shape = .table
  · obtain ⟨entries, rfl⟩ := eq_table_of_shape table
    rw [overlay_table]
    rfl
  · rw [overlay_of_shape base table]

theorem at?_cons_overlay (name : String) (rest : List String) (base : Value)
    (entries : Entries) :
    (base.overlay (.table entries)).at? (name :: rest) =
      (((Value.table entries).named name).foldl laidOver (lookup? name base.entries)).bind
        (at? rest) := by
  rw [overlay_table, at?, Value.entries, lookup?_overEntries]

/-- Under a name that was missing the empty tree is laid under the first value.  No path leads
into it, and at the end of one the value takes its place. -/
theorem or_at?_getD (path : List String) (value : Value) (found : Option Value) :
    (value.puts path).getLast?.or ((found.getD .null).at? path) =
      (value.puts path).getLast?.or (found.bind (at? path)) := by
  cases found with
  | some known => rfl
  | none =>
      cases path with
      | nil => rfl
      | cons name rest => rfl

theorem at?_foldl_over {path : List String} {values : List Value}
    (each : ∀ value ∈ values, ∀ base : Value,
      (base.overlay value).at? path = (value.puts path).getLast?.or (base.at? path))
    (found : Option Value) :
    (values.foldl laidOver found).bind (at? path) =
      (values.flatMap (puts path)).getLast?.or (found.bind (at? path)) := by
  induction values generalizing found with
  | nil => rfl
  | cons value values ih =>
      have first := each value List.mem_cons_self (found.getD .null)
      rw [List.foldl_cons, ih (fun other member => each other (List.mem_cons_of_mem _ member)),
        List.flatMap_cons, List.getLast?_append, Option.or_assoc, ← or_at?_getD, ← first]
      rfl

theorem Fits.table {name : String} {rest : List String} {tree : Value}
    (fits : Fits (name :: rest) tree) : ∃ entries, tree = .table entries := by
  have shape := fits [] (name :: rest) rfl tree List.mem_cons_self
  exact eq_table_of_shape (shape.mpr (List.cons_ne_nil name rest))

theorem Fits.tail {name : String} {rest : List String} {tree value : Value}
    (fits : Fits (name :: rest) tree) (member : value ∈ tree.named name) : Fits rest value := by
  intro above below cut put inside
  refine fits (name :: above) below (by rw [cut, List.cons_append]) put ?_
  exact List.mem_flatMap.mpr ⟨value, member, inside⟩

theorem at?_overlay {path : List String} {tree : Value} (fits : Fits path tree) (base : Value) :
    (base.overlay tree).at? path = (tree.puts path).getLast?.or (base.at? path) := by
  induction path generalizing tree base with
  | nil =>
      have shape : tree.shape ≠ .table := fun table =>
        (fits [] [] rfl tree List.mem_cons_self).mp table rfl
      rw [overlay_of_shape base shape]
      rfl
  | cons name rest ih =>
      -- The values of the name are laid over each other in turn; the path goes on within each.
      obtain ⟨entries, rfl⟩ := fits.table
      rw [at?_cons_overlay]
      exact at?_foldl_over (fun value member => ih (fits.tail member)) _

theorem Shaped.of_getD {path : List String} {tree laid stands : Value} {found : Option Value}
    (shaped : Shaped path tree ((found.getD .null).at? path) stands)
    (shape : laid.shape = tree.shape) (there : laid.at? path = some stands) :
    Shaped path tree (found.bind (at? path)) stands := by
  cases found with
  | some known => exact shaped
  | none =>
      cases path with
      | nil =>
          cases there
          exact ⟨tree, shape.symm, .inl List.mem_cons_self⟩
      | cons name rest => exact shaped

theorem shaped_foldl_over {name : String} {path : List String} {tree : Value}
    {values : List Value} (inside : values ⊆ tree.named name)
    (each : ∀ value ∈ values, ∀ base stands : Value, (base.overlay value).at? path = some stands →
      Shaped path value (base.at? path) stands)
    {found : Option Value} {stands : Value}
    (there : (values.foldl laidOver found).bind (at? path) = some stands) :
    Shaped (name :: path) tree (found.bind (at? path)) stands := by
  induction values generalizing found with
  | nil => exact ⟨stands, rfl, .inr there⟩
  | cons value values ih =>
      obtain ⟨member, others⟩ := List.cons_subset.mp inside
      obtain ⟨middle, alike, later | before⟩ :=
        ih others (fun other member => each other (List.mem_cons_of_mem _ member)) there
      · exact ⟨middle, alike, .inl later⟩
      · have first := each value List.mem_cons_self _ _ before
        obtain ⟨put, same, here | under⟩ := first.of_getD (shape_overlay _ _) before
        · exact ⟨put, same.trans alike, .inl (List.mem_flatMap.mpr ⟨value, member, here⟩)⟩
        · exact ⟨put, same.trans alike, .inr under⟩

theorem shaped_overlay {path : List String} {base tree stands : Value}
    (there : (base.overlay tree).at? path = some stands) :
    Shaped path tree (base.at? path) stands := by
  induction path generalizing base tree stands with
  | nil =>
      cases there
      exact ⟨tree, (shape_overlay base tree).symm, .inl List.mem_cons_self⟩
  | cons name rest ih =>
      by_cases table : tree.shape = .table
      · obtain ⟨entries, rfl⟩ := eq_table_of_shape table
        rw [at?_cons_overlay] at there
        exact shaped_foldl_over (List.Subset.refl _) (fun value _ base stands => ih) there
      · rw [overlay_of_shape base table, at?, entries_eq_nil_of_shape table] at there
        cases there

end Gatehouse.Config.Value
