import Gatehouse.Proofs.Config.Doubles
import Gatehouse.Proofs.Config.Parts
import Gatehouse.Proofs.Config.Sources

/-!
# Text settings from variables

A variable's text is read as a truth value, an integer or a double where it
spells one, and a text setting prints that value again (`Becomes`).  All other
texts come through as they are.
-/

set_option autoImplicit false

namespace Gatehouse.Config

/-! ## What a text spells -/

def SpellsFlag (text : String) (flag : Bool) : Prop :=
  Text.lowerCase text = toString flag

def SpellsInteger (text : String) (number : Int) : Prop :=
  Decimal.Numeral text.toList number ∧ Decimal.minInt64 ≤ number ∧ number ≤ Decimal.maxInt64

/-- What a text setting is if a variable gives the text for it. -/
inductive Becomes (text : String) : String → Prop
  | flag {flag : Bool} (word : SpellsFlag text flag) : Becomes text (toString flag)
  | integer {number : Int} (noFlag : ∀ flag, ¬ SpellsFlag text flag)
      (numeral : SpellsInteger text number) : Becomes text (toString number)
  | double {number : Float} {setting : String} (noFlag : ∀ flag, ¬ SpellsFlag text flag)
      (noInteger : ∀ number, ¬ SpellsInteger text number) (decimal : SpellsDouble text number)
      (printed : Doubles.Prints number setting.toList) : Becomes text setting
  | itself (noFlag : ∀ flag, ¬ SpellsFlag text flag)
      (noInteger : ∀ number, ¬ SpellsInteger text number)
      (noDouble : ∀ number, ¬ SpellsDouble text number) : Becomes text text

theorem shape_variableValue (text : String) : (variableValue text).shape = .scalar := by
  simp only [variableValue]
  split
  · rfl
  · split
    · rfl
    · split
      · rfl
      · split
        · rfl
        · rfl

theorem variableValue_flag {text : String} {flag : Bool} (word : SpellsFlag text flag) :
    variableValue text = .flag flag := by
  cases flag with
  | true => exact if_pos word
  | false =>
      have other : Text.lowerCase text ≠ "true" := by
        rw [word]
        decide
      exact (if_neg other).trans (if_pos word)

theorem variableValue_of_noFlag {text : String} (noFlag : ∀ flag, ¬ SpellsFlag text flag) :
    variableValue text =
      match Decimal.int64? text.toList with
      | some number => .integer number
      | none =>
        match float? text with
        | some number => .float number
        | none => .text text :=
  (if_neg (noFlag true)).trans (if_neg (noFlag false))

theorem variableValue_integer {text : String} {number : Int}
    (noFlag : ∀ flag, ¬ SpellsFlag text flag) (numeral : SpellsInteger text number) :
    variableValue text = .integer number := by
  rw [variableValue_of_noFlag noFlag, (Decimal.int64?_eq_some_iff _ _).mpr numeral]

theorem int64?_eq_none {text : String} (noInteger : ∀ number, ¬ SpellsInteger text number) :
    Decimal.int64? text.toList = none :=
  Option.eq_none_iff_forall_ne_some.mpr fun number found =>
    noInteger number ((Decimal.int64?_eq_some_iff _ _).mp found)

theorem exists_variableValue_double {text : String} {number : Float}
    (noFlag : ∀ flag, ¬ SpellsFlag text flag) (noInteger : ∀ number, ¬ SpellsInteger text number)
    (decimal : SpellsDouble text number) :
    ∃ found, variableValue text = .float found ∧ Doubles.Same found number := by
  obtain ⟨found, read, same⟩ := exists_float? decimal
  refine ⟨found, ?_, same⟩
  rw [variableValue_of_noFlag noFlag, int64?_eq_none noInteger, read]

theorem variableValue_itself {text : String} (noFlag : ∀ flag, ¬ SpellsFlag text flag)
    (noInteger : ∀ number, ¬ SpellsInteger text number)
    (noDouble : ∀ number, ¬ SpellsDouble text number) : variableValue text = .text text := by
  rw [variableValue_of_noFlag noFlag, int64?_eq_none noInteger,
    (float?_eq_none_iff text).mpr noDouble]

theorem readText_of_becomes {text setting : String} (becomes : Becomes text setting) :
    readText .lenient (variableValue text) = some setting := by
  cases becomes with
  | flag word => rw [variableValue_flag word, readText]
  | integer noFlag numeral => rw [variableValue_integer noFlag numeral, readText]
  | double noFlag noInteger decimal printed =>
      obtain ⟨found, is, same⟩ := exists_variableValue_double noFlag noInteger decimal
      have text := (Doubles.prints_plainText _).unique printed
      rw [is, readText, Doubles.plainText_of_same same, String.toList_inj.mp text]
  | itself noFlag noInteger noDouble =>
      rw [variableValue_itself noFlag noInteger noDouble, readText]

theorem exists_becomes (text : String) : ∃ setting, Becomes text setting := by
  by_cases word : ∃ flag, SpellsFlag text flag
  · obtain ⟨flag, word⟩ := word
    exact ⟨_, .flag word⟩
  · have noFlag := not_exists.mp word
    by_cases numeral : ∃ number, SpellsInteger text number
    · obtain ⟨number, numeral⟩ := numeral
      exact ⟨_, .integer noFlag numeral⟩
    · have noInteger := not_exists.mp numeral
      by_cases decimal : ∃ number, SpellsDouble text number
      · obtain ⟨number, decimal⟩ := decimal
        exact ⟨_, .double noFlag noInteger decimal (Doubles.prints_plainText number)⟩
      · exact ⟨text, .itself noFlag noInteger (not_exists.mp decimal)⟩

/-- What a text becomes is settled by the text alone. -/
theorem readText_variableValue_iff (text setting : String) :
    readText .lenient (variableValue text) = some setting ↔ Becomes text setting := by
  refine ⟨fun read => ?_, readText_of_becomes⟩
  obtain ⟨known, becomes⟩ := exists_becomes text
  rw [readText_of_becomes becomes] at read
  cases read
  exact becomes

/-! ## Variables in order -/

/-- The path that a variable leads to, if it sets anything. -/
def variablePath? (name : String) : Option (List Value.Step) :=
  (variableKey? name).map pathOf

/-- The name of the variable for a part of the settings. -/
def Part.variable {α : Type} (part : Part α) : String :=
  "__".intercalate ("TOLLGATE" :: part.path.map String.toUpper)

theorem variablePath?_variable : ∀ part ∈ Part.texts,
    variablePath? part.variable = some (part.path.map .key) := by
  decide +kernel

theorem at?_change_self {alter : Value → Value} {value : Value}
    (always : ∀ base, alter base = value) (path : List String) (base : Value) :
    (Value.change alter (path.map .key) base).at? path = some value := by
  induction path generalizing base with
  | nil => exact congrArg some (always base)
  | cons name rest ih =>
      rw [List.map_cons, Value.at?_cons_change, if_pos rfl]
      exact ih _

theorem mem_variableEntries {named : List (String × String)} {entry : String × Value}
    (member : entry ∈ variableEntries named) :
    ∃ known ∈ named,
      variableKey? known.1 = some entry.1 ∧ variableValue known.2 = entry.2 := by
  induction named with
  | nil => cases member
  | cons first rest ih =>
      have later (inside : entry ∈ variableEntries rest) : ∃ known ∈ first :: rest,
          variableKey? known.1 = some entry.1 ∧ variableValue known.2 = entry.2 :=
        (ih inside).imp fun _ found => ⟨List.mem_cons_of_mem first found.1, found.2⟩
      rw [variableEntries] at member
      split at member
      · exact later member
      · rename_i key named
        split at member
        · exact later member
        · rcases List.mem_cons.mp member with rfl | inside
          · exact ⟨first, List.mem_cons_self, named, rfl⟩
          · exact later inside

theorem nodup_variableEntries (named : List (String × String)) :
    ((variableEntries named).map Prod.fst).Nodup := by
  induction named with
  | nil => exact List.nodup_nil
  | cons first rest ih =>
      rw [variableEntries]
      split
      · exact ih
      · rename_i key _
        split
        · exact ih
        · rename_i missing
          refine List.nodup_cons.mpr ⟨fun inside => missing ?_, ih⟩
          obtain ⟨entry, member, rfl⟩ := List.mem_map.mp inside
          rw [Value.lookup?, List.lookup_isSome_iff]
          exact ⟨entry, member, beq_self_eq_true _⟩

theorem mem_variableEntries_of_last {before after : List (String × String)} {name text key : String}
    (named : variableKey? name = some key)
    (last : ∀ later ∈ after, variableKey? later.1 ≠ some key) :
    (key, variableValue text) ∈ variableEntries (before ++ (name, text) :: after) := by
  induction before with
  | nil =>
      have missing : ¬ (Value.lookup? key (variableEntries after)).isSome = true := by
        rw [Value.lookup?, List.lookup_isSome_iff]
        rintro ⟨entry, member, same⟩
        obtain ⟨later, known, sets, _⟩ := mem_variableEntries member
        exact last later known (sets.trans (congrArg some (eq_of_beq same).symm))
      rw [List.nil_append, variableEntries, named]
      simp only [if_neg missing]
      exact List.mem_cons_self
  | cons first before ih =>
      rw [List.cons_append, variableEntries]
      split
      · exact ih
      · split
        · exact ih
        · exact List.mem_cons_of_mem _ ih

theorem not_apart_self (path : List String) : ¬ Value.Apart path (path.map .key) := by
  induction path with
  | nil => exact id
  | cons name rest ih => exact fun apart => ih (apart rfl)

/-- The last variable for a key decides what stands at the key's path, if all other variables lead
elsewhere. -/
theorem at?_laid_variables {before after : List (String × String)} {name text : String}
    {path : List String} (leads : variablePath? name = some (path.map .key))
    (earlier : ∀ other ∈ before, ∀ steps ∈ variablePath? other.1,
      variableKey? other.1 = variableKey? name ∨ Value.Apart path steps)
    (later : ∀ other ∈ after, ∀ steps ∈ variablePath? other.1, Value.Apart path steps)
    {order : Value.Entries}
    (laidDown : order.Perm (variableEntries (before ++ (name, text) :: after))) (base : Value) :
    (base.overSource order).at? path = some (variableValue text) := by
  obtain ⟨key, named, steps⟩ := Option.map_eq_some_iff.mp leads
  have last : ∀ other ∈ after, variableKey? other.1 ≠ some key := by
    intro other member same
    refine not_apart_self path ?_
    rw [← steps]
    exact later other member _ (Option.map_eq_some_iff.mpr ⟨key, same, rfl⟩)
  have entered : (key, variableValue text) ∈ variableEntries (before ++ (name, text) :: after) :=
    mem_variableEntries_of_last named last
  obtain ⟨front, back, rfl⟩ := List.append_of_mem (laidDown.mem_iff.mpr entered)
  have single := (laidDown.map Prod.fst).nodup_iff.mpr (nodup_variableEntries _)
  rw [List.map_append, List.map_cons, List.nodup_append, List.nodup_cons] at single
  have elsewhere : ∀ entry ∈ back, Value.Apart path (pathOf entry.1) := by
    intro entry member
    have differs : entry.1 ≠ key := fun same =>
      single.2.1.1 (List.mem_map.mpr ⟨entry, member, same⟩)
    obtain ⟨other, known, sets, _⟩ := mem_variableEntries
      (laidDown.mem_iff.mp (List.mem_append_right front (List.mem_cons_of_mem _ member)))
    have goes : variablePath? other.1 = some (pathOf entry.1) :=
      Option.map_eq_some_iff.mpr ⟨entry.1, sets, rfl⟩
    rcases List.mem_append.mp known with front | rest
    · refine (earlier other front _ goes).resolve_left fun same => differs ?_
      rw [sets, named] at same
      exact Option.some.inj same
    · rcases List.mem_cons.mp rest with rfl | second
      · rw [named] at sets
        exact absurd (Option.some.inj sets).symm differs
      · exact later other second _ goes
  have always : ∀ base : Value, base.overlay (variableValue text) = variableValue text := by
    intro base
    refine Value.overlay_of_shape base ?_
    rw [shape_variableValue]
    decide
  rw [overSource_append, Value.overSource, at?_overSource_apart elsewhere, steps]
  exact at?_change_self always path _

/-- A text setting is what the text of the last variable for it becomes, in whatever order the
entries of each source were laid down.  The variable of the setting's own name, in capitals, is one
that leads to it. -/
theorem override_becomes {defaultFile environmentFile : Option String}
    {before after : List (String × String)} {name text : String} {setting : Part String}
    {settings : Settings} (known : setting ∈ Part.texts)
    (leads : variablePath? name = some (setting.path.map .key))
    (earlier : ∀ other ∈ before, ∀ steps ∈ variablePath? other.1,
      variableKey? other.1 = variableKey? name ∨ Value.Apart setting.path steps)
    (later : ∀ other ∈ after, ∀ steps ∈ variablePath? other.1, Value.Apart setting.path steps)
    (loaded : Loads defaultFile environmentFile (before ++ (name, text) :: after) settings) :
    Becomes text (setting.get settings) := by
  obtain ⟨sources, orders, read, laidDown, loaded⟩ := loaded
  obtain ⟨taken, _⟩ := (loadFrom_eq_ok_iff _ _).mp loaded
  obtain ⟨lowest, _, rest⟩ := Option.bind_eq_some_iff.mp read
  obtain ⟨middle, _, same⟩ := Option.bind_eq_some_iff.mp rest
  cases same
  obtain ⟨order, others, highest, _, rfl⟩ := List.forall₂_cons_right_iff.mp laidDown
  have given := (Part.sound_texts setting known _ settings taken).1 _
    (at?_laid_variables leads earlier later highest (laid others))
  rw [Part.reader_of_mem_texts setting known] at given
  exact (readText_variableValue_iff text _).mp given

/-- A text that spells nothing is loaded as it is, a numeral without its sign and its zeros, a
decimal without its power. -/
theorem override_becomes_three_texts :
    Loads none none
        [("TOLLGATE__AUTH__ACCESS_TOKEN_SECRET", "0x07"), ("TOLLGATE__AUTH__TOKEN_PREFIX", "+08"),
          ("TOLLGATE__AUTH__REFRESH_TOKEN_SECRET", "25e-1")]
      { auth := { accessTokenSecret := "0x07", tokenLabel := "8", refreshTokenSecret := "2.5" } } ∧
    Becomes "0x07" "0x07" ∧ Becomes "+08" "8" ∧ Becomes "25e-1" "2.5" := by
  have loaded : load none none
      [("TOLLGATE__AUTH__ACCESS_TOKEN_SECRET", "0x07"), ("TOLLGATE__AUTH__TOKEN_PREFIX", "+08"),
        ("TOLLGATE__AUTH__REFRESH_TOKEN_SECRET", "25e-1")] =
      .ok { auth :=
        { accessTokenSecret := "0x07", tokenLabel := "8", refreshTokenSecret := "2.5" } } :=
    (toOption_eq_some_iff _ _).mp (by decide +kernel)
  have loads := loads_of_load loaded
  refine ⟨loads, ?_, ?_, ?_⟩
  · exact @override_becomes none none [] [("TOLLGATE__AUTH__TOKEN_PREFIX", "+08"),
        ("TOLLGATE__AUTH__REFRESH_TOKEN_SECRET", "25e-1")] _ "0x07"
      (Part.auth.field "access_token_secret" readText Auth.accessTokenSecret) _
      (.tail _ (.head _)) (by decide +kernel) (by decide +kernel) (by decide +kernel) loads
  · exact @override_becomes none none [("TOLLGATE__AUTH__ACCESS_TOKEN_SECRET", "0x07")]
        [("TOLLGATE__AUTH__REFRESH_TOKEN_SECRET", "25e-1")] _ "+08"
      (Part.auth.field "token_prefix" readText Auth.tokenLabel) _
      (.tail _ (.tail _ (.tail _ (.head _)))) (by decide +kernel) (by decide +kernel)
      (by decide +kernel) loads
  · exact @override_becomes none none [("TOLLGATE__AUTH__ACCESS_TOKEN_SECRET", "0x07"),
        ("TOLLGATE__AUTH__TOKEN_PREFIX", "+08")] [] _ "25e-1"
      (Part.auth.field "refresh_token_secret" readText Auth.refreshTokenSecret) _
      (.tail _ (.tail _ (.head _))) (by decide +kernel) (by decide +kernel)
      (by decide +kernel) loads

/-- Two secrets that are different as texts are loaded as the same secret. -/
theorem secrets_meet :
    load none none [("TOLLGATE__AUTH__ACCESS_TOKEN_SECRET", "007")] =
      .ok { auth := { accessTokenSecret := "7" } } ∧
    load none none [("TOLLGATE__AUTH__ACCESS_TOKEN_SECRET", "7")] =
      .ok { auth := { accessTokenSecret := "7" } } :=
  ⟨(toOption_eq_some_iff _ _).mp (by decide +kernel),
    (toOption_eq_some_iff _ _).mp (by decide +kernel)⟩

end Gatehouse.Config
