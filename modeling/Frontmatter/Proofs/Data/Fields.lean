/-
Frontmatter/Proofs/Data/Fields.lean

The fields of records, and what is lost where two of them have one key.

`Data.ofFields` puts fields in order.  Every record that it makes has distinct keys
(`nodup_sortFields`).  Fields with distinct keys are all there afterwards
(`sortFields_perm`), and only those: if a key occurs twice the record is shorter than
the list of fields was (`length_sortFields_eq_iff`).

`Data.KeysDistinct` says that all records inside some data have distinct keys.
-/
import Mathlib.Data.List.Nodup
import Mathlib.Data.List.Perm.Basic
import Frontmatter.Data.Basic

namespace Frontmatter.Data

variable {k : String} {d : Data} {fields sorted : List (String × Data)}

/-- The keys of some fields. -/
def keys (fields : List (String × Data)) : List String := fields.map Prod.fst

theorem keys_cons (f : String × Data) (fields : List (String × Data)) :
    keys (f :: fields) = f.1 :: keys fields := rfl

/-! ### Putting a field at its place -/

/-- The keys are in increasing order. -/
def Sorted (fields : List (String × Data)) : Prop := fields.Pairwise fun f g => f.1 < g.1

theorem Sorted.nodup (h : Sorted fields) : (keys fields).Nodup :=
  List.pairwise_map.mpr (h.imp fun less => String.ne_of_lt less)

theorem mem_of_mem_insertField {f : String × Data} (h : f ∈ insertField k d fields) :
    f = (k, d) ∨ f ∈ fields := by
  induction fields with
  | nil => exact .inl (List.mem_singleton.mp h)
  | cons g fields ih =>
    rw [insertField] at h
    split_ifs at h with less same
    · exact List.mem_cons.mp h
    · exact (List.mem_cons.mp h).imp_right (List.mem_cons_of_mem g)
    · rcases List.mem_cons.mp h with rfl | h
      · exact .inr List.mem_cons_self
      · exact (ih h).imp_right (List.mem_cons_of_mem g)

theorem Sorted.insertField (h : Sorted fields) (k : String) (d : Data) :
    Sorted (insertField k d fields) := by
  induction fields with
  | nil => exact List.pairwise_singleton _ _
  | cons f fields ih =>
    obtain ⟨first, rest⟩ := List.pairwise_cons.mp h
    rw [Data.insertField]
    split_ifs with less same
    · refine List.pairwise_cons.mpr ⟨?_, h⟩
      rintro g (_ | ⟨_, hg⟩)
      · exact less
      · exact String.lt_trans less (first g hg)
    · exact List.pairwise_cons.mpr ⟨fun g hg => same ▸ first g hg, rest⟩
    · have above : f.1 < k :=
        String.not_le.mp fun le => same (String.le_antisymm le (String.not_lt.mp less))
      refine List.pairwise_cons.mpr ⟨fun g hg => ?_, ih rest⟩
      rcases mem_of_mem_insertField hg with rfl | hg
      · exact above
      · exact first g hg

/-- A field with a new key is one more field. -/
theorem insertField_perm (fresh : k ∉ keys fields) :
    (insertField k d fields).Perm ((k, d) :: fields) := by
  induction fields with
  | nil => exact .refl _
  | cons f fields ih =>
    rw [keys_cons, List.mem_cons, not_or] at fresh
    rw [insertField]
    split_ifs with less same
    · exact .refl _
    · exact absurd same fresh.1
    · exact ((ih fresh.2).cons f).trans (.swap ..)

/-- The same behind other fields. -/
theorem append_insertField_perm (fresh : k ∉ keys sorted) :
    (fields ++ insertField k d sorted).Perm ((k, d) :: fields ++ sorted) :=
  ((insertField_perm fresh).append_left fields).trans List.perm_middle

/-- A field with a key that is there replaces a field. -/
theorem length_insertField (h : Sorted fields) (there : k ∈ keys fields) :
    (insertField k d fields).length = fields.length := by
  induction fields with
  | nil => cases there
  | cons f fields ih =>
    obtain ⟨first, rest⟩ := List.pairwise_cons.mp h
    rw [keys_cons, List.mem_cons] at there
    rw [insertField]
    split_ifs with less same
    · rcases there with rfl | there
      · exact absurd less (String.lt_irrefl _)
      · obtain ⟨g, hg, rfl⟩ := List.mem_map.mp there
        exact absurd (first g hg) (String.lt_asymm less)
    · rfl
    · rw [List.length_cons, List.length_cons, ih rest (there.resolve_left same)]

/-! ### Putting all fields in order -/

/-- Fields put in order, together with those that are in order already. -/
def sortOnto (sorted fields : List (String × Data)) : List (String × Data) :=
  fields.foldl (fun sorted f => insertField f.1 f.2 sorted) sorted

/-- The fields of `ofFields`. -/
def sortFields (fields : List (String × Data)) : List (String × Data) := sortOnto [] fields

theorem sortOnto_cons (sorted : List (String × Data)) (f : String × Data)
    (fields : List (String × Data)) :
    sortOnto sorted (f :: fields) = sortOnto (insertField f.1 f.2 sorted) fields := rfl

theorem Sorted.sortOnto (h : Sorted sorted) (fields : List (String × Data)) :
    Sorted (sortOnto sorted fields) := by
  induction fields generalizing sorted with
  | nil => exact h
  | cons f fields ih => exact ih (h.insertField f.1 f.2)

theorem mem_of_mem_sortOnto {f : String × Data} (h : f ∈ sortOnto sorted fields) :
    f ∈ sorted ∨ f ∈ fields := by
  induction fields generalizing sorted with
  | nil => exact .inl h
  | cons g fields ih =>
    rcases ih h with h | h
    · rcases mem_of_mem_insertField h with rfl | h
      · exact .inr List.mem_cons_self
      · exact .inl h
    · exact .inr (List.mem_cons_of_mem g h)

/-- Fields with distinct keys are all kept. -/
theorem sortOnto_perm (distinct : (keys (fields ++ sorted)).Nodup) :
    (sortOnto sorted fields).Perm (fields ++ sorted) := by
  induction fields generalizing sorted with
  | nil => exact .refl _
  | cons f fields ih =>
    rw [List.cons_append, keys_cons, List.nodup_cons] at distinct
    have fresh : f.1 ∉ keys sorted := fun h =>
      distinct.1 (by simp only [keys, List.map_append, List.mem_append]; exact .inr h)
    have moved : (fields ++ insertField f.1 f.2 sorted).Perm (f :: fields ++ sorted) :=
      append_insertField_perm fresh
    rw [sortOnto_cons]
    refine (ih ?_).trans moved
    refine ((moved.map Prod.fst).nodup_iff).mpr ?_
    exact List.nodup_cons.mpr distinct

/-- If a key occurs twice, a field is lost. -/
theorem length_sortOnto (h : Sorted sorted) (fields : List (String × Data)) :
    (sortOnto sorted fields).length ≤ fields.length + sorted.length ∧
      ((sortOnto sorted fields).length = fields.length + sorted.length →
        (keys (fields ++ sorted)).Nodup) := by
  induction fields generalizing sorted with
  | nil => exact ⟨by simp [Data.sortOnto], fun _ => h.nodup⟩
  | cons f fields ih =>
    obtain ⟨le, distinct⟩ := ih (h.insertField f.1 f.2)
    rw [sortOnto_cons, List.length_cons]
    by_cases there : f.1 ∈ keys sorted
    · -- the field before is replaced, and its place is missing in the end
      rw [length_insertField h there] at le
      exact ⟨by omega, fun same => by omega⟩
    · have moved : (fields ++ insertField f.1 f.2 sorted).Perm (f :: fields ++ sorted) :=
        append_insertField_perm there
      rw [(insertField_perm there).length_eq, List.length_cons] at le distinct
      refine ⟨by omega, fun same => ?_⟩
      exact ((moved.map Prod.fst).nodup_iff).mp (distinct (by omega))

theorem nodup_sortFields (fields : List (String × Data)) : (keys (sortFields fields)).Nodup :=
  (Sorted.sortOnto .nil fields).nodup

theorem mem_of_mem_sortFields {f : String × Data} (h : f ∈ sortFields fields) : f ∈ fields :=
  (mem_of_mem_sortOnto h).resolve_left (List.not_mem_nil)

theorem sortFields_perm (distinct : (keys fields).Nodup) : (sortFields fields).Perm fields := by
  have h : (keys (fields ++ [])).Nodup := by rwa [List.append_nil]
  exact (sortOnto_perm h).trans (List.Perm.of_eq (List.append_nil fields))

/-- No field is lost if and only if the keys are distinct. -/
theorem length_sortFields_eq_iff :
    (sortFields fields).length = fields.length ↔ (keys fields).Nodup := by
  refine ⟨fun same => ?_, fun distinct => (sortFields_perm distinct).length_eq⟩
  simpa using (length_sortOnto .nil fields).2 (by simpa [sortFields] using same)

/-! ### Distinct keys everywhere -/

mutual

/-- Every record inside the data has distinct keys. -/
def KeysDistinct : Data → Prop
  | .list items => ItemsDistinct items
  | .record fields => (keys fields).Nodup ∧ FieldsDistinct fields
  | _ => True

def ItemsDistinct : List Data → Prop
  | [] => True
  | d :: items => d.KeysDistinct ∧ ItemsDistinct items

def FieldsDistinct : List (String × Data) → Prop
  | [] => True
  | (_, d) :: fields => d.KeysDistinct ∧ FieldsDistinct fields

end

theorem fieldsDistinct_iff : FieldsDistinct fields ↔ ∀ f ∈ fields, f.2.KeysDistinct := by
  induction fields with
  | nil => simp [FieldsDistinct]
  | cons f fields ih => simp [FieldsDistinct, ih]

theorem keysDistinct_ofFields (h : FieldsDistinct fields) : (ofFields fields).KeysDistinct :=
  ⟨nodup_sortFields fields,
    fieldsDistinct_iff.mpr fun f hf => fieldsDistinct_iff.mp h f (mem_of_mem_sortFields hf)⟩

end Frontmatter.Data
