import Mathlib.Data.List.Forall2
import Gatehouse.Proofs.Config.Trees
import Gatehouse.Proofs.Outcome

/-!
# Sources of settings

A source puts values at paths: each of its keys is a path, and what stands under
the key goes on from there.  Laid over a tree, a source decides about every path
that it puts a value at, and leaves the others as they were.
-/

set_option autoImplicit false

namespace Gatehouse.Config

namespace Value

/-- The tree that has nothing but the value at the end of a path. -/
def nested : List Step → Value → Value
  | [], value => value
  | .key name :: rest, value => .table [(name, nested rest value)]
  | .item _ :: rest, value => .list [nested rest value]

/-- The steps lead along the path and on into an item of what stands there. -/
def enters : List String → List Step → Bool
  | [], .item _ :: _ => true
  | name :: path, .key key :: steps => name = key && enters path steps
  | _, _ => false

/-- The steps leave the path at a name. -/
def Apart : List String → List Step → Prop
  | name :: path, .key key :: steps => name = key → Apart path steps
  | _, _ => False

instance decidableApart : (path : List String) → (steps : List Step) → Decidable (Apart path steps)
  | name :: path, .key key :: steps =>
    have := decidableApart path steps
    inferInstanceAs (Decidable (name = key → Apart path steps))
  | [], _ => .isFalse id
  | _ :: _, [] => .isFalse id
  | _ :: _, .item _ :: _ => .isFalse id

/-! ## One key -/

theorem shape_change (value : Value) (steps : List Step) (base : Value) :
    (change (·.overlay value) steps base).shape = (nested steps value).shape := by
  cases steps with
  | nil => exact shape_overlay base value
  | cons step rest =>
      cases step with
      | key name => rfl
      | item index => rfl

theorem at?_cons_change (alter : Value → Value) (name key : String) (path : List String)
    (steps : List Step) (base : Value) :
    (change alter (.key key :: steps) base).at? (name :: path) =
      if name = key then (change alter steps ((lookup? key base.entries).getD .null)).at? path
      else base.at? (name :: path) := by
  rw [change, at?, Value.entries, lookup?_setKey]
  split
  · rfl
  · rfl

theorem named_nested (name : String) (rest : List Step) (value : Value) :
    (nested (.key name :: rest) value).named name = [nested rest value] := by
  rw [nested, named_table_cons, if_pos rfl]
  rfl

theorem puts_nested_of_ne {name key : String} (different : name ≠ key) (path : List String)
    (steps : List Step) (value : Value) :
    (nested (.key key :: steps) value).puts (name :: path) = [] := by
  rw [puts, nested, named_table_cons, if_neg (Ne.symm different)]
  rfl

theorem puts_nested (name : String) (path : List String) (steps : List Step) (value : Value) :
    (nested (.key name :: steps) value).puts (name :: path) = (nested steps value).puts path := by
  rw [puts, named_nested, List.flatMap_singleton]

theorem at?_change {path : List String} {steps : List Step} {value : Value}
    (fits : Fits path (nested steps value)) (whole : enters path steps = false) (base : Value) :
    (change (·.overlay value) steps base).at? path =
      ((nested steps value).puts path).getLast?.or (base.at? path) := by
  induction steps generalizing path base with
  | nil => exact at?_overlay fits base
  | cons step steps ih =>
      cases path with
      | nil =>
          -- Above the end of the steps stands a table, which fits no end of a path.
          cases step with
          | key name => exact absurd rfl ((fits [] [] rfl _ List.mem_cons_self).mp rfl)
          | item index => cases whole
      | cons name path =>
          cases step with
          | item index =>
              obtain ⟨entries, table⟩ := fits.table
              cases table
          | key key =>
              rw [at?_cons_change]
              by_cases same : name = key
              · subst same
                have rest : Fits path (nested steps value) :=
                  fits.tail (by rw [named_nested]; exact List.mem_cons_self)
                rw [if_pos rfl, puts_nested, ih rest (by simpa [enters] using whole),
                  or_at?_getD]
                rfl
              · rw [if_neg same, puts_nested_of_ne same]
                rfl

theorem shaped_change {path : List String} {steps : List Step} {value base stands : Value}
    (there : (change (·.overlay value) steps base).at? path = some stands) :
    Shaped path (nested steps value) (base.at? path) stands := by
  induction steps generalizing path base stands with
  | nil => exact shaped_overlay there
  | cons step steps ih =>
      cases path with
      | nil =>
          cases there
          exact ⟨_, (shape_change value _ base).symm, .inl List.mem_cons_self⟩
      | cons name path =>
          cases step with
          | item index => cases there
          | key key =>
              rw [at?_cons_change] at there
              by_cases same : name = key
              · subst same
                rw [if_pos rfl] at there
                have shaped := (ih there).of_getD (shape_change value steps _) there
                rw [Shaped, puts_nested]
                exact shaped
              · rw [if_neg same] at there
                exact ⟨stands, rfl, .inr there⟩

theorem at?_change_apart {path : List String} {steps : List Step} (apart : Apart path steps)
    (alter : Value → Value) (base : Value) :
    (change alter steps base).at? path = base.at? path := by
  induction path generalizing steps base with
  | nil => exact apart.elim
  | cons name path ih =>
      cases steps with
      | nil => exact apart.elim
      | cons step steps =>
          cases step with
          | item index => exact apart.elim
          | key key =>
              rw [at?_cons_change]
              split
              next same =>
                -- Under a name that the tree does not have the rest of the path leads nowhere.
                subst same
                have rest := apart rfl
                rw [ih rest, at?]
                cases lookup? name base.entries with
                | some known => rfl
                | none =>
                    cases path with
                    | nil => exact rest.elim
                    | cons next path => rfl
              next => rfl

end Value

/-! ## A whole source -/

/-- All values that a source puts at a path, in order. -/
def putsOf (source : Value.Entries) (path : List String) : List Value :=
  source.flatMap fun entry => (Value.nested (pathOf entry.1) entry.2).puts path

theorem overSource_append (base : Value) (before after : Value.Entries) :
    base.overSource (before ++ after) = (base.overSource before).overSource after := by
  induction before generalizing base with
  | nil => rfl
  | cons entry before ih => exact ih _

theorem at?_overSource {path : List String} {source : Value.Entries}
    (fits : ∀ entry ∈ source, Value.Fits path (Value.nested (pathOf entry.1) entry.2))
    (whole : ∀ entry ∈ source, Value.enters path (pathOf entry.1) = false) (base : Value) :
    (base.overSource source).at? path = (putsOf source path).getLast?.or (base.at? path) := by
  induction source generalizing base with
  | nil => rfl
  | cons entry source ih =>
      obtain ⟨fitsHere, fitsRest⟩ := List.forall_mem_cons.mp fits
      obtain ⟨wholeHere, wholeRest⟩ := List.forall_mem_cons.mp whole
      rw [Value.overSource, ih fitsRest wholeRest, Value.at?_change fitsHere wholeHere, putsOf,
        putsOf, List.flatMap_cons, List.getLast?_append, Option.or_assoc]

theorem shaped_overSource {path : List String} {source : Value.Entries} {base stands : Value}
    (there : (base.overSource source).at? path = some stands) :
    ∃ value, value.shape = stands.shape ∧
      (value ∈ putsOf source path ∨ base.at? path = some value) := by
  induction source generalizing base with
  | nil => exact ⟨stands, rfl, .inr there⟩
  | cons entry source ih =>
      rw [putsOf, List.flatMap_cons]
      obtain ⟨middle, alike, later | before⟩ := ih there
      · exact ⟨middle, alike, .inl (List.mem_append_right _ later)⟩
      · obtain ⟨put, same, here | under⟩ := Value.shaped_change before
        · exact ⟨put, same.trans alike, .inl (List.mem_append_left _ here)⟩
        · exact ⟨put, same.trans alike, .inr under⟩

theorem at?_overSource_apart {path : List String} {source : Value.Entries}
    (apart : ∀ entry ∈ source, Value.Apart path (pathOf entry.1)) (base : Value) :
    (base.overSource source).at? path = base.at? path := by
  induction source generalizing base with
  | nil => rfl
  | cons entry source ih =>
      obtain ⟨here, rest⟩ := List.forall_mem_cons.mp apart
      rw [Value.overSource, ih rest, Value.at?_change_apart here]

/-! ## Loading -/

/-- The settings that may be loaded.  A source keeps its entries under their keys and in no order,
so they are laid down in any; `load` takes them as they are written. -/
def Loads (defaultFile environmentFile : Option String) (named : List (String × String))
    (settings : Settings) : Prop :=
  ∃ sources orders, sources? defaultFile environmentFile named = some sources ∧
    List.Forall₂ List.Perm orders sources ∧ loadFrom orders = .ok settings

theorem loadFrom_eq_ok_iff (sources : List Value.Entries) (settings : Settings) :
    loadFrom sources = .ok settings ↔
      readSettings .lenient (laid sources) = some settings ∧ settings.validate = .ok () := by
  rw [loadFrom]
  cases read : readSettings .lenient (laid sources) with
  | none => simp
  | some known =>
      simp only [bind_eq_ok_iff, Option.some.injEq]
      constructor
      · rintro ⟨_, valid, same⟩
        cases same
        exact ⟨rfl, valid⟩
      · rintro ⟨rfl, valid⟩
        exact ⟨(), valid, rfl⟩

theorem loads_of_load {defaultFile environmentFile : Option String}
    {named : List (String × String)} {settings : Settings}
    (loaded : load defaultFile environmentFile named = .ok settings) :
    Loads defaultFile environmentFile named settings := by
  rw [load] at loaded
  cases read : sources? defaultFile environmentFile named with
  | none =>
      rw [read] at loaded
      cases loaded
  | some sources =>
      rw [read] at loaded
      exact ⟨sources, sources, read, List.forall₂_same.mpr fun source _ => .refl source, loaded⟩

end Gatehouse.Config
