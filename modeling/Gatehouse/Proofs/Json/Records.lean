import Gatehouse.Json.Reading
import Gatehouse.Proofs.Json.Documents

/-!
# Written records are read back

A record whose fields are all known, each of them readable and none of them
twice, is collected as it was written: every field has the value that stands
under its name.  In the other direction, whatever is collected from an object
was one of its members.
-/

set_option autoImplicit false

namespace Gatehouse.Json

open Gatehouse.Text

/-! ## What is collected was there -/

theorem collectMembers_sound (fields : List Field) (found result : Found)
    (members : List (List UInt8 × Outline))
    (collected : collectMembers fields found members = .ok result)
    (name : String) (value : Outline) (present : result.lookup name = some value) :
    found.lookup name = some value ∨
      ∃ raw, rawText? raw = some name ∧ (raw, value) ∈ members := by
  induction members generalizing found with
  | nil =>
      cases collected
      exact Or.inl present
  | cons member members ih =>
      obtain ⟨raw, seen⟩ := member
      simp only [collectMembers] at collected
      split at collected
      · cases collected
      · rename_i label read
        split at collected
        · split at collected
          · rcases ih found collected with old | ⟨other, spelled, member⟩
            · exact Or.inl old
            · exact Or.inr ⟨other, spelled, List.mem_cons_of_mem _ member⟩
          · cases collected
        · split at collected
          · cases collected
          · rename_i field _ _
            cases checked : inside label (field.check seen) with
            | error error =>
                rw [checked] at collected
                cases collected
            | ok _ =>
                rw [checked] at collected
                rcases ih _ collected with old | ⟨other, spelled, member⟩
                · rw [List.lookup_cons] at old
                  split at old
                  · rename_i same
                    cases Option.some.inj old
                    refine Or.inr ⟨raw, ?_, List.mem_cons_self⟩
                    rw [read, eq_of_beq same]
                  · exact Or.inl old
                · exact Or.inr ⟨other, spelled, List.mem_cons_of_mem _ member⟩

/-! ## A written record is collected whole -/

/-- What is collected from a record: the last field comes first. -/
def Record.found (record : Record) : Found :=
  (record.map fun member => (member.1, member.2.outline)).reverse

theorem collectMembers_record (fields : List Field) (record : Record) (found : Found)
    (known : ∀ member ∈ record, ∃ field,
      fields.find? (fun field => field.name == member.1) = some field ∧
        field.check member.2.outline = .ok ())
    (absent : ∀ member ∈ record, found.lookup member.1 = none)
    (distinct : (record.map Prod.fst).Nodup) :
    collectMembers fields found record.members = .ok (record.found ++ found) := by
  induction record generalizing found with
  | nil => rfl
  | cons member record ih =>
      obtain ⟨name, value⟩ := member
      obtain ⟨field, isField, checked⟩ := known (name, value) (by simp)
      rw [List.map_cons, List.nodup_cons] at distinct
      have headAbsent : found.lookup name = none := absent (name, value) (by simp)
      have tailAbsent : ∀ member ∈ record,
          List.lookup member.1 ((name, value.outline) :: found) = none := by
        intro member inside
        have differs : member.1 ≠ name := by
          intro same
          exact distinct.1 (List.mem_map.mpr ⟨member, inside, same⟩)
        rw [List.lookup_cons, beq_false_of_ne differs]
        exact absent member (by simp [inside])
      have tail := ih ((name, value.outline) :: found)
        (fun member inside => known member (by simp [inside])) tailAbsent distinct.2
      have shape : Record.members ((name, value) :: record) =
          (spelled name, value.outline) :: Record.members record := rfl
      rw [shape, collectMembers, rawText?_spelled]
      simp only [isField, headAbsent, checked]
      have order : Record.found ((name, value) :: record) ++ found =
          Record.found record ++ (name, value.outline) :: found := by
        simp [Record.found]
      rw [order]
      exact tail

theorem Record.lookup_found (record : Record) (distinct : (record.map Prod.fst).Nodup)
    (name : String) (value : Scalar) (member : (name, value) ∈ record) :
    record.found.lookup name = some value.outline := by
  obtain ⟨front, back, rfl⟩ := List.append_of_mem member
  rw [List.lookup_eq_some_iff]
  refine ⟨(back.map fun member => (member.1, member.2.outline)).reverse,
    (front.map fun member => (member.1, member.2.outline)).reverse, by simp [Record.found], ?_⟩
  intro other inside
  rw [List.mem_reverse, List.mem_map] at inside
  obtain ⟨source, behind, rfl⟩ := inside
  rw [List.map_append, List.map_cons, List.nodup_append, List.nodup_cons] at distinct
  rw [bne_iff_ne]
  intro same
  exact distinct.2.1.1 (List.mem_map.mpr ⟨source, behind, same.symm⟩)

theorem collect_record (title : String) (fields : List Field) (record : Record)
    (known : ∀ member ∈ record, ∃ field,
      fields.find? (fun field => field.name == member.1) = some field ∧
        field.check member.2.outline = .ok ())
    (distinct : (record.map Prod.fst).Nodup)
    (complete : ∀ field ∈ fields, field.optional = true ∨ field.name ∈ record.map Prod.fst) :
    collect title fields (.object record.members true) = .ok record.found := by
  have collected := collectMembers_record fields record [] known (fun _ _ => rfl) distinct
  rw [List.append_nil] at collected
  have present : checkPresent fields record.found = .ok () := by
    have nothingMissing : fields.find? (fun field =>
        !field.optional && (record.found.lookup field.name).isNone) = none := by
      rw [List.find?_eq_none]
      intro field isField missing
      rcases complete field isField with optional | named
      · simp [optional] at missing
      · obtain ⟨member, inside, same⟩ := List.mem_map.mp named
        have found := record.lookup_found distinct member.1 member.2 inside
        rw [← same, found] at missing
        simp at missing
    rw [checkPresent, nothingMissing]
  simp only [collect]
  rw [collected]
  simp [bind, Except.bind, present]

theorem find?_name (fields : List Field) (distinct : (fields.map Field.name).Nodup)
    (field : Field) (member : field ∈ fields) :
    fields.find? (fun other => other.name == field.name) = some field := by
  induction fields with
  | nil => simp at member
  | cons first fields ih =>
      rw [List.map_cons, List.nodup_cons] at distinct
      rw [List.find?_cons]
      rcases List.mem_cons.mp member with rfl | inside
      · simp
      · have differs : first.name ≠ field.name := by
          intro same
          exact distinct.1 (List.mem_map.mpr ⟨field, inside, same.symm⟩)
        rw [beq_false_of_ne differs]
        exact ih distinct.2 inside

theorem collect_aligned (title : String) (fields : List Field) (record : Record)
    (named : fields.map Field.name = record.map Prod.fst)
    (distinct : (record.map Prod.fst).Nodup)
    (checked : ∀ pair ∈ fields.zip record, pair.1.check pair.2.2.outline = .ok ()) :
    collect title fields (.object record.members true) = .ok record.found := by
  have sameLength : fields.length = record.length := by
    simpa using congrArg List.length named
  refine collect_record title fields record ?_ distinct ?_
  · intro member inside
    obtain ⟨position, bound, rfl⟩ := List.mem_iff_getElem.mp inside
    have within : position < fields.length := sameLength ▸ bound
    have sameName : fields[position].name = record[position].1 := by
      have names := congrArg (fun names => names[position]?) named
      simpa [List.getElem?_eq_getElem within, List.getElem?_eq_getElem bound] using names
    refine ⟨fields[position], ?_, ?_⟩
    · rw [← sameName]
      exact find?_name fields (named ▸ distinct) _ (List.getElem_mem within)
    · refine checked (fields[position], record[position]) (List.mem_iff_getElem.mpr ?_)
      exact ⟨position, by simp only [List.length_zip]; omega, by simp⟩
  · intro field isField
    exact Or.inr (named ▸ List.mem_map_of_mem isField)

theorem Record.read_found {α : Type} (record : Record) (distinct : (record.map Prod.fst).Nodup)
    (reader : Reader α) (name : String) (value : Scalar) (member : (name, value) ∈ record) :
    record.found.read name reader = reader value.outline := by
  rw [Found.read, record.lookup_found distinct name value member]

/-! ## Reading scalars -/

@[simp] theorem readText_text (value : String) :
    readText (Scalar.text value).outline = .ok value := by
  simp [readText, Scalar.outline]

@[simp] theorem readInt64_int (value : Int64) :
    readInt64 (Scalar.int value.toInt).outline = .ok value.toInt := by
  have least : Decimal.minInt64 ≤ value.toInt := value.le_toInt
  have most : value.toInt ≤ Decimal.maxInt64 := by
    have := value.toInt_lt
    simp only [Decimal.maxInt64]
    omega
  simp [readInt64, Scalar.outline, least, most]

end Gatehouse.Json
