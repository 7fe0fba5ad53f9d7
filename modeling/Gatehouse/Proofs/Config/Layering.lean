import Mathlib.Data.List.Perm.Basic
import Gatehouse.Proofs.Config.Parts
import Gatehouse.Proofs.Config.Sources

/-!
# Which source decides

The variables come before the file of the environment, and that before the
default file.  Where all sources agree about what is a table, an array or a
single value, the first source that has a value for a setting decides about it,
whatever the others put beside it; a setting that no source has a value for is
built in.  Where no source has two values for a setting, the order in which its
entries are laid down does not matter (`Part.Layered.of_orders`).
-/

set_option autoImplicit false

namespace Gatehouse.Config

/-! ## Shapes -/

namespace Value

mutual

/-- The paths that a tree puts something at, and what shape that has. -/
def spots : Value → List (List String × Shape)
  | .table entries => ([], .table) :: entrySpots entries
  | .list _ => [([], .array)]
  | .null => [([], .scalar)]
  | .flag _ => [([], .scalar)]
  | .integer _ => [([], .scalar)]
  | .float _ => [([], .scalar)]
  | .text _ => [([], .scalar)]

def entrySpots : Entries → List (List String × Shape)
  | [] => []
  | (name, value) :: rest =>
    (spots value).map (fun spot => (name :: spot.1, spot.2)) ++ entrySpots rest

end

theorem mem_entrySpots {name : String} {value : Value} {entries : Entries}
    {spot : List String × Shape} (member : (name, value) ∈ entries) (inside : spot ∈ value.spots) :
    (name :: spot.1, spot.2) ∈ entrySpots entries := by
  induction entries with
  | nil => cases member
  | cons entry entries ih =>
      rw [entrySpots, List.mem_append]
      rcases List.mem_cons.mp member with rfl | later
      · exact .inl (List.mem_map_of_mem inside)
      · exact .inr (ih later)

theorem mem_spots_of_puts {path : List String} {tree value : Value}
    (put : value ∈ tree.puts path) : (path, value.shape) ∈ tree.spots := by
  induction path generalizing tree with
  | nil =>
      cases List.mem_singleton.mp put
      cases value <;> exact List.mem_cons_self
  | cons name rest ih =>
      obtain ⟨inner, member, inside⟩ := List.mem_flatMap.mp put
      obtain ⟨entry, kept, rfl⟩ := List.mem_map.mp member
      obtain ⟨there, same⟩ := List.mem_filter.mp kept
      cases of_decide_eq_true same
      cases tree with
      | table entries => exact List.mem_cons_of_mem _ (mem_entrySpots there (ih inside))
      | _ => cases there

theorem shape_of_mem_puts {path : List String} {tree value : Value}
    (put : value ∈ tree.puts path) (further : path ≠ []) : tree.shape = .table := by
  cases path with
  | nil => exact absurd rfl further
  | cons name rest =>
      obtain ⟨inner, member, inside⟩ := List.mem_flatMap.mp put
      cases tree with
      | table entries => rfl
      | _ => cases member

end Value

/-- Whatever a source puts at a path has the same shape as all else that is put there. -/
def Agree (sources : List Value.Entries) : Prop :=
  let spots := sources.flatten.flatMap fun entry => (Value.nested (pathOf entry.1) entry.2).spots
  ∀ one ∈ spots, ∀ other ∈ spots, one.1 = other.1 → one.2 = other.2

instance (sources : List Value.Entries) : Decidable (Agree sources) :=
  inferInstanceAs (Decidable (∀ one ∈ _, ∀ other ∈ _, _ → _))

/-! ## Sources over each other -/

/-- No source has two values for a part of the settings; tables are put together and do not
count. -/
def Once (sources : List Value.Entries) : Prop :=
  ∀ source ∈ sources, ∀ part ∈ Part.leaves ++ Part.sections,
    ((putsOf source part.2.path).filter fun value => value.shape ≠ .table).length ≤ 1

instance (sources : List Value.Entries) : Decidable (Once sources) :=
  inferInstanceAs (Decidable (∀ source ∈ _, ∀ part ∈ _, _ ≤ _))

/-- The value for a path from the first source that has one. -/
def first? (sources : List Value.Entries) (path : List String) : Option Value :=
  sources.findSome? fun source => (putsOf source path).getLast?

/-- A key leads on into an item of what stands at the path. -/
def Entered (sources : List Value.Entries) (path : List String) : Prop :=
  ∃ entry ∈ sources.flatten, Value.enters path (pathOf entry.1) = true

/-- A source puts an array in the way of a path or at its end. -/
def Crossed (sources : List Value.Entries) (path : List String) : Prop :=
  ∃ above below, path = above ++ below ∧
    ∃ source ∈ sources, ∃ value ∈ putsOf source above, value.shape = .array

theorem at?_laid {path : List String} {sources : List Value.Entries} (proper : path ≠ [])
    (fits : ∀ entry ∈ sources.flatten, Value.Fits path (Value.nested (pathOf entry.1) entry.2))
    (whole : ¬ Entered sources path) :
    (laid sources).at? path = first? sources path := by
  induction sources with
  | nil =>
      cases path with
      | nil => exact absurd rfl proper
      | cons name rest => rfl
  | cons source sources ih =>
      rw [List.flatten_cons] at fits
      have inner := ih (fun entry member => fits entry (List.mem_append_right _ member))
        fun ⟨entry, member, entered⟩ => whole ⟨entry, List.mem_append_right _ member, entered⟩
      have here : ∀ entry ∈ source, Value.enters path (pathOf entry.1) = false := by
        intro entry member
        refine Bool.eq_false_iff.mpr fun entered => whole ⟨entry, ?_, entered⟩
        exact List.mem_append_left _ member
      rw [laid, List.foldr_cons,
        at?_overSource (fun entry member => fits entry (List.mem_append_left _ member)) here,
        first?, List.findSome?_cons]
      cases (putsOf source path).getLast? with
      | some value => rfl
      | none => exact inner

theorem shaped_laid {path : List String} {sources : List Value.Entries} {stands : Value}
    (there : (laid sources).at? path = some stands) :
    (∃ source ∈ sources, ∃ value ∈ putsOf source path, value.shape = stands.shape) ∨
      (path = [] ∧ stands.shape = .table) := by
  induction sources generalizing stands with
  | nil =>
      cases path with
      | nil =>
          cases there
          exact .inr ⟨rfl, rfl⟩
      | cons name rest => cases there
  | cons source sources ih =>
      obtain ⟨value, alike, put | below⟩ := shaped_overSource there
      · exact .inl ⟨source, List.mem_cons_self, value, put, alike⟩
      · rcases ih below with ⟨other, member, deeper, put, same⟩ | ⟨root, table⟩
        · exact .inl ⟨other, List.mem_cons_of_mem _ member, deeper, put, same.trans alike⟩
        · exact .inr ⟨root, alike.symm.trans table⟩

theorem shape_of_agree {sources : List Value.Entries} (agree : Agree sources) {path : List String}
    {value : Value} (given : first? sources path = some value) :
    ∀ source ∈ sources, ∀ other ∈ putsOf source path, other.shape = value.shape := by
  obtain ⟨source, member, last⟩ := List.exists_of_findSome?_eq_some given
  obtain ⟨known, inside, put⟩ := List.mem_flatMap.mp (List.mem_of_getLast? last)
  intro second also other there
  obtain ⟨entry, within, puts⟩ := List.mem_flatMap.mp there
  exact agree
    _ (List.mem_flatMap.mpr ⟨entry, List.mem_flatten.mpr ⟨second, also, within⟩,
      Value.mem_spots_of_puts puts⟩)
    _ (List.mem_flatMap.mpr ⟨known, List.mem_flatten.mpr ⟨source, member, inside⟩,
      Value.mem_spots_of_puts put⟩)
    rfl

/-- A single value or an array at the end of a path: all sources have tables along the path. -/
theorem fits_of_agree {sources : List Value.Entries} (agree : Agree sources) {path : List String}
    {value : Value} (given : first? sources path = some value) (shape : value.shape ≠ .table) :
    ∀ entry ∈ sources.flatten, Value.Fits path (Value.nested (pathOf entry.1) entry.2) := by
  obtain ⟨source, member, last⟩ := List.exists_of_findSome?_eq_some given
  obtain ⟨known, inside, put⟩ := List.mem_flatMap.mp (List.mem_of_getLast? last)
  intro entry other above below cut found reached
  rw [cut, Value.puts_append] at put
  -- The source that decides about the path goes through a value of the same shape here.
  obtain ⟨upper, stands, further⟩ := List.mem_flatMap.mp put
  have alike : found.shape = upper.shape :=
    agree _ (List.mem_flatMap.mpr ⟨entry, other, Value.mem_spots_of_puts reached⟩)
      _ (List.mem_flatMap.mpr
        ⟨known, List.mem_flatten.mpr ⟨source, member, inside⟩, Value.mem_spots_of_puts stands⟩)
      rfl
  rw [alike]
  constructor
  · intro table finished
    subst finished
    cases List.mem_singleton.mp further
    exact shape table
  · exact Value.shape_of_mem_puts further

/-! ## Settings from sources -/

/-- A part of the settings is what the first source says that has a value for it, and is built in
if none has.  The exceptions are parts that sources put together: sections given as tables, whose
settings are parts of their own; arrays whose items a key replaces; and the settings of a section
that is given as an array, which come in their order. -/
structure Part.Layered {α : Type} (part : Part α) (sources : List Value.Entries)
    (settings : Settings) : Prop where
  given : ∀ value, first? sources part.path = some value → value.shape ≠ .table →
    ¬ Entered sources part.path → part.reader .lenient value = some (part.get settings)
  missing : first? sources part.path = none → ¬ Crossed sources part.path →
    part.get settings = part.builtIn

theorem Part.Sound.layered {α : Type} {part : Part α} (sound : part.Sound) (proper : part.path ≠ [])
    {sources : List Value.Entries} (agree : Agree sources) {settings : Settings}
    (read : readSettings .lenient (laid sources) = some settings) :
    part.Layered sources settings := by
  obtain ⟨present, absent⟩ := sound (laid sources) settings read
  refine ⟨?_, ?_⟩
  · intro value given shape whole
    have fits := fits_of_agree agree given shape
    exact present value ((at?_laid proper fits whole).trans given)
  · intro missing clear
    refine absent ?_ ?_
    · rw [Option.eq_none_iff_forall_ne_some]
      intro stands there
      rcases shaped_laid there with ⟨source, member, value, put, _⟩ | ⟨root, _⟩
      · have none := List.findSome?_eq_none_iff.mp missing source member
        rw [List.getLast?_eq_none_iff.mp none] at put
        cases put
      · exact proper root
    · intro above below cut stands there array
      rcases shaped_laid there with ⟨source, member, value, put, alike⟩ | ⟨_, table⟩
      · exact clear ⟨above, below, cut, source, member, value, put, alike.trans array⟩
      · rw [array] at table
        cases table

/-! ## Sources in another order -/

section

variable {orders sources : List Value.Entries}

theorem putsOf_perm {order source : Value.Entries} (perm : order.Perm source)
    (path : List String) : (putsOf order path).Perm (putsOf source path) :=
  perm.flatMap_right _

theorem exists_putsOf_iff (laidDown : List.Forall₂ List.Perm orders sources) (path : List String)
    (suits : Value → Prop) :
    (∃ order ∈ orders, ∃ value ∈ putsOf order path, suits value) ↔
      ∃ source ∈ sources, ∃ value ∈ putsOf source path, suits value := by
  induction laidDown with
  | nil => exact Iff.rfl
  | cons perm _ ih =>
      simp only [List.exists_mem_cons_iff, ih, (putsOf_perm perm path).mem_iff]

theorem agree_of_orders (laidDown : List.Forall₂ List.Perm orders sources)
    (agree : Agree sources) : Agree orders := by
  have spots := List.Perm.flatMap_right
    (fun entry : String × Value => (Value.nested (pathOf entry.1) entry.2).spots)
    (List.Perm.flatten_congr laidDown)
  exact fun one member other also =>
    agree one (spots.mem_iff.mp member) other (spots.mem_iff.mp also)

theorem entered_of_orders (laidDown : List.Forall₂ List.Perm orders sources)
    {path : List String} (entered : Entered orders path) : Entered sources path := by
  obtain ⟨entry, member, enters⟩ := entered
  exact ⟨entry, (List.Perm.flatten_congr laidDown).mem_iff.mp member, enters⟩

theorem crossed_of_orders (laidDown : List.Forall₂ List.Perm orders sources)
    {path : List String} (crossed : Crossed orders path) : Crossed sources path := by
  obtain ⟨above, below, cut, array⟩ := crossed
  exact ⟨above, below, cut, (exists_putsOf_iff laidDown above _).mp array⟩

theorem first?_eq_none_iff (sources : List Value.Entries) (path : List String) :
    first? sources path = none ↔ ∀ source ∈ sources, putsOf source path = [] := by
  simp only [first?, List.findSome?_eq_none_iff, List.getLast?_eq_none_iff]

theorem first?_none_of_orders (laidDown : List.Forall₂ List.Perm orders sources)
    {path : List String} (missing : first? sources path = none) : first? orders path = none := by
  rw [first?_eq_none_iff] at missing ⊢
  intro order member
  rw [List.eq_nil_iff_forall_not_mem]
  intro value put
  obtain ⟨source, known, also, there, _⟩ :=
    (exists_putsOf_iff laidDown path fun _ => True).mp ⟨order, member, value, put, trivial⟩
  rw [missing source known] at there
  cases there

/-- The values of a source with one value at most are in order in any order. -/
theorem first?_of_orders (laidDown : List.Forall₂ List.Perm orders sources) {path : List String}
    (single : ∀ source ∈ sources, (putsOf source path).length ≤ 1) :
    first? orders path = first? sources path := by
  induction laidDown with
  | nil => rfl
  | @cons order source orders sources perm _ ih =>
      obtain ⟨here, rest⟩ := List.forall_mem_cons.mp single
      have same : putsOf order path = putsOf source path := by
        have puts := putsOf_perm perm path
        rcases known : putsOf source path with _ | ⟨value, _ | ⟨next, others⟩⟩
        · exact List.perm_nil.mp (known ▸ puts)
        · exact List.perm_singleton.mp (known ▸ puts)
        · rw [known, List.length_cons, List.length_cons] at here
          omega
      have others := ih rest
      rw [first?, first?] at others ⊢
      rw [List.findSome?_cons, List.findSome?_cons, same, others]

theorem Part.Layered.of_orders {α : Type} {part : Part α} {settings : Settings}
    (laidDown : List.Forall₂ List.Perm orders sources) (agree : Agree sources)
    (once : ∀ source ∈ sources,
      ((putsOf source part.path).filter fun value => value.shape ≠ .table).length ≤ 1)
    (layered : part.Layered orders settings) : part.Layered sources settings := by
  refine ⟨?_, ?_⟩
  · intro value given shape whole
    refine layered.given value ?_ shape fun entered => whole (entered_of_orders laidDown entered)
    rw [first?_of_orders laidDown, given]
    -- no table is put here, since the value that decides is none
    intro source member
    have all : ((putsOf source part.path).filter fun value => value.shape ≠ .table) =
        putsOf source part.path := by
      refine List.filter_eq_self.mpr fun other put => decide_eq_true ?_
      rw [shape_of_agree agree given source member other put]
      exact shape
    rw [← all]
    exact once source member
  · intro missing clear
    exact layered.missing (first?_none_of_orders laidDown missing) fun crossed =>
      clear (crossed_of_orders laidDown crossed)

end

/-- Loaded settings keep the rules, and every part of them comes from the first source that has a
value for it, in whatever order the entries of each source were laid down. -/
theorem load_layered {defaultFile environmentFile : Option String}
    {named : List (String × String)} {sources : List Value.Entries} {settings : Settings}
    (read : sources? defaultFile environmentFile named = some sources) (agree : Agree sources)
    (once : Once sources) (loaded : Loads defaultFile environmentFile named settings) :
    settings.validate = .ok () ∧
      ∀ part ∈ Part.leaves ++ Part.sections, part.2.Layered sources settings := by
  obtain ⟨found, orders, same, laidDown, loaded⟩ := loaded
  rw [read] at same
  cases same
  obtain ⟨taken, valid⟩ := (loadFrom_eq_ok_iff _ _).mp loaded
  refine ⟨valid, ?_⟩
  intro part member
  have sound : part.2.Sound :=
    (List.mem_append.mp member).elim (Part.sound_leaves part) (Part.sound_sections part)
  have layered := sound.layered (Part.path_ne_nil part member) (agree_of_orders laidDown agree) taken
  exact layered.of_orders laidDown agree fun source known => once source known part member

/-- Each of three sources sets a key of the same table. -/
theorem load_layered_one_table :
    ∃ sources,
      sources? (some "[cache.redis]\nurl = \"redis://a\"\nkey_prefix = \"a:\"")
          (some "[cache.redis]\nkey_prefix = \"b:\"")
          [("TOLLGATE__CACHE__REDIS__COMMAND_TIMEOUT_MS", "250")] = some sources ∧
      Agree sources ∧ Once sources ∧
      Loads (some "[cache.redis]\nurl = \"redis://a\"\nkey_prefix = \"a:\"")
          (some "[cache.redis]\nkey_prefix = \"b:\"")
          [("TOLLGATE__CACHE__REDIS__COMMAND_TIMEOUT_MS", "250")]
        { cache := { redis := ⟨"redis://a", "b:", 2000, 250⟩ } } ∧
      ∀ part ∈ Part.leaves ++ Part.sections,
        part.2.Layered sources { cache := { redis := ⟨"redis://a", "b:", 2000, 250⟩ } } := by
  have found : ((sources? (some "[cache.redis]\nurl = \"redis://a\"\nkey_prefix = \"a:\"")
      (some "[cache.redis]\nkey_prefix = \"b:\"")
      [("TOLLGATE__CACHE__REDIS__COMMAND_TIMEOUT_MS", "250")]).any
        fun sources => decide (Agree sources ∧ Once sources)) = true := by
    decide +kernel
  obtain ⟨sources, read, suits⟩ := (Option.any_eq_true _ _).mp found
  obtain ⟨agree, once⟩ := of_decide_eq_true suits
  have loaded : load (some "[cache.redis]\nurl = \"redis://a\"\nkey_prefix = \"a:\"")
      (some "[cache.redis]\nkey_prefix = \"b:\"")
      [("TOLLGATE__CACHE__REDIS__COMMAND_TIMEOUT_MS", "250")] =
      .ok { cache := { redis := ⟨"redis://a", "b:", 2000, 250⟩ } } :=
    (toOption_eq_some_iff _ _).mp (by decide +kernel)
  have loads := loads_of_load loaded
  exact ⟨sources, read, agree, once, loads, (load_layered read agree once loads).2⟩

/-- A file's key in capitals is no setting, and a key with an index puts an item into an array of
another source. -/
theorem load_mixed :
    load (some "[SERVER]\nPORT = 86\n") none [] = .ok { } ∧
    load
        (some "[server.cors]\nallowed_origins = [\"https://a.example\", \"https://b.example\"]\n")
        none [("TOLLGATE__SERVER__CORS__ALLOWED_ORIGINS[0]", "https://c.example")] =
      .ok { server :=
        { cors := { allowedOrigins := ["https://c.example", "https://b.example"] } } } :=
  ⟨(toOption_eq_some_iff _ _).mp (by decide +kernel),
    (toOption_eq_some_iff _ _).mp (by decide +kernel)⟩

end Gatehouse.Config
