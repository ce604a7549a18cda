/-
Frontmatter/Proofs/Toml/Structure.lean

The data of a TOML block have the structure of its tables.

A path leads from the outside in, by keys of tables and by places of arrays
(`Value.lookup?`).  The same path leads through the data (`Data.lookup?`), and the two meet
the same things: what the path finds in the data is the conversion of what it finds in the
value, and where it finds nothing in the one it finds nothing in the other
(`lookup?_toData`).  A table becomes a record that is put in order by key; no entry is lost in
this, since no key stands twice.

Null is what floats become that are not finite, and nothing else becomes null.  So a block
that is decoded is a record and never null (`exists_record_of_decode`).
-/
import Frontmatter.Proofs.Data.Fields
import Frontmatter.Proofs.Toml.Distinct
import Frontmatter.Toml.Decode

namespace Frontmatter

/-! ### Paths -/

/-- One step from the outside in: to what stands under a key, or at a place of a list. -/
inductive PathStep where
  | key (k : String)
  | index (i : Nat)
deriving DecidableEq

/-- What stands one step inside some data. -/
def Data.child? : Data → PathStep → Option Data
  | .record fields, .key k => Toml.fieldOf? k fields
  | .list items, .index i => items[i]?
  | _, _ => none

/-- What a path leads to in some data. -/
def Data.lookup? (d : Data) : List PathStep → Option Data
  | [] => some d
  | step :: path => (d.child? step).bind fun inner => inner.lookup? path

namespace Toml

/-- What stands one step inside a value. -/
def Value.child? : Value → PathStep → Option Value
  | .table fields, .key k => fieldOf? k fields
  | .array items, .index i => items[i]?
  | _, _ => none

/-- What a path leads to in a value. -/
def Value.lookup? (v : Value) : List PathStep → Option Value
  | [] => some v
  | step :: path => (v.child? step).bind fun inner => inner.lookup? path

variable {v w : Value} {fields : List (String × Value)}

theorem keysDistinct_child? {step : PathStep} (distinct : v.KeysDistinct)
    (found : v.child? step = some w) : w.KeysDistinct := by
  unfold Value.child? at found
  split at found
  · exact (Value.keysDistinct_table_iff.mp distinct).fieldOf? found
  · exact Value.keysDistinct_array_iff.mp distinct w (List.mem_of_getElem? found)
  · cases found

/-- Wherever a path leads, no key stands twice there either. -/
theorem keysDistinct_lookup? {path : List PathStep} (distinct : v.KeysDistinct)
    (found : v.lookup? path = some w) : w.KeysDistinct := by
  induction path generalizing v with
  | nil =>
    cases found
    exact distinct
  | cons step path ih =>
    obtain ⟨inner, here, found⟩ := Option.bind_eq_some_iff.mp found
    exact ih (keysDistinct_child? distinct here) found

/-! ### Records in order -/

theorem fieldOf?_sortFields {fields : List (String × Data)} (distinct : (Data.keys fields).Nodup)
    (k : String) : fieldOf? k (Data.sortFields fields) = fieldOf? k fields := by
  ext d
  rw [fieldOf?_eq_some_iff (Data.nodup_sortFields fields), fieldOf?_eq_some_iff distinct]
  exact (Data.sortFields_perm distinct).mem_iff

theorem itemsData_eq_map (items : List Value) : itemsData items = items.map Value.toData := by
  induction items with
  | nil => rfl
  | cons v items ih => rw [itemsData, ih, List.map_cons]

theorem fieldsData_eq_map (fields : List (String × Value)) :
    fieldsData fields = fields.map fun f => (f.1, f.2.toData) := by
  induction fields with
  | nil => rfl
  | cons f fields ih => rw [fieldsData, ih, List.map_cons]

theorem keys_fieldsData (fields : List (String × Value)) :
    Data.keys (fieldsData fields) = keys fields := by
  rw [fieldsData_eq_map]
  exact keys_map Value.toData fields

/-- The record of a table has the conversions of its entries under their keys. -/
theorem fieldOf?_toData (distinct : (keys fields).Nodup) (k : String) :
    fieldOf? k (Data.sortFields (fieldsData fields)) = (fieldOf? k fields).map Value.toData := by
  have apart : (Data.keys (fieldsData fields)).Nodup := by
    rw [keys_fieldsData]
    exact distinct
  rw [fieldOf?_sortFields apart, fieldsData_eq_map, fieldOf?_map]

/-! ### The data of a value -/

/-- One step leads to the conversion of what it leads to in the value, or to nothing in both.
Only a step into a table or an array leads to anything. -/
theorem child?_toData (distinct : v.KeysDistinct) (step : PathStep) :
    v.toData.child? step = (v.child? step).map Value.toData := by
  cases v with
  | table fields =>
    cases step with
    | key k => exact fieldOf?_toData distinct.1 k
    | index i => rfl
  | array items =>
    cases step with
    | key k => rfl
    | index i =>
      show (itemsData items)[i]? = items[i]?.map Value.toData
      rw [itemsData_eq_map, List.getElem?_map]
  | float x =>
    -- a number or null, and there is nothing inside either
    rcases x with x | negative | _
    · rfl
    · rfl
    · rfl
  | _ => rfl

theorem lookup?_toData (distinct : v.KeysDistinct) (path : List PathStep) :
    v.toData.lookup? path = (v.lookup? path).map Value.toData := by
  induction path generalizing v with
  | nil => rfl
  | cons step path ih =>
    rw [Data.lookup?, child?_toData distinct, Value.lookup?]
    rcases found : v.child? step with _ | inner
    · rfl
    · exact ih (keysDistinct_child? distinct found)

/-- What a value has to become, but for what is inside it: an array keeps its length and a
table its keys. -/
def Value.ConvertsTo : Value → Data → Prop
  | .str s, d => d = .str s
  | .int n, d => d = .num (.whole n)
  | .float (.finite x), d => d = .num (.real x)
  | .float (.infinite _), d => d = .null
  | .float .notANumber, d => d = .null
  | .bool b, d => d = .bool b
  | .datetime t, d => d = .str t.display
  | .array items, d => ∃ ds, d = .list ds ∧ ds.length = items.length
  | .table fields, d => ∃ fs, d = .record fs ∧ (Data.keys fs).Perm (keys fields)

theorem convertsTo_toData (distinct : v.KeysDistinct) : v.ConvertsTo v.toData := by
  cases v with
  | array items =>
    refine ⟨itemsData items, rfl, ?_⟩
    rw [itemsData_eq_map, List.length_map]
  | table fields =>
    refine ⟨Data.sortFields (fieldsData fields), rfl, ?_⟩
    have apart : (Data.keys (fieldsData fields)).Nodup := by
      rw [keys_fieldsData]
      exact distinct.1
    rw [← keys_fieldsData]
    exact (Data.sortFields_perm apart).map Prod.fst
  | float x =>
    rcases x with x | negative | _
    · rfl
    · rfl
    · rfl
  | _ => rfl

theorem toData_eq_null_iff :
    v.toData = .null ↔ v = .float .notANumber ∨ ∃ negative, v = .float (.infinite negative) := by
  constructor
  · intro null
    cases v with
    | float x =>
      rcases x with x | negative | _
      · cases null
      · exact .inr ⟨negative, rfl⟩
      · exact .inl rfl
    | _ => cases null
  · rintro (rfl | ⟨negative, rfl⟩)
    · rfl
    · rfl

/-! ### Decoded blocks -/

theorem exists_record_of_decode {text : String} {d : Data} (h : decode text = .ok d) :
    ∃ fields fs, parse text.toList = .ok fields ∧ (Value.table fields).KeysDistinct ∧
      d = (Value.table fields).toData ∧ d = .record fs := by
  unfold decode at h
  split at h
  · next fields parsed =>
    cases h
    exact ⟨fields, Data.sortFields (fieldsData fields), parsed, keysDistinct_parse parsed, rfl, rfl⟩
  · cases h

theorem decode_ne_null (text : String) : decode text ≠ .ok .null := by
  intro h
  obtain ⟨_, _, -, -, -, record⟩ := exists_record_of_decode h
  cases record

/-- Structure is kept.  Take any value whose tables have no key twice, and any path of keys and
places.  The path leads somewhere in the data if and only if it does in the value, and then
to the conversion of what it leads to there.  In this a string, a truth value and an integer
stay what they are, a date or a time becomes the text that it is displayed with, an array
keeps its length, and a table keeps its keys; and null stands at the end of the path if and
only if a float stands there in the value that is no number or infinite.

The tables of a text never have a key twice.  So if a block is decoded, this holds of the
table of its text, which becomes a record and is not null. -/
theorem toData_keeps_structure :
    (∀ v : Value, v.KeysDistinct → ∀ path,
      v.toData.lookup? path = (v.lookup? path).map Value.toData ∧
      (∀ w, v.lookup? path = some w → w.ConvertsTo w.toData) ∧
      (v.toData.lookup? path = some .null ↔
        v.lookup? path = some (.float .notANumber) ∨
          ∃ negative, v.lookup? path = some (.float (.infinite negative)))) ∧
    ∀ text d, decode text = .ok d →
      ∃ fields fs, parse text.toList = .ok fields ∧ (Value.table fields).KeysDistinct ∧
        d = (Value.table fields).toData ∧ d = .record fs ∧ d ≠ .null := by
  constructor
  · intro v distinct path
    have follows := lookup?_toData distinct path
    refine ⟨follows, fun w found => convertsTo_toData (keysDistinct_lookup? distinct found), ?_⟩
    rw [follows, Option.map_eq_some_iff]
    constructor
    · rintro ⟨w, found, null⟩
      rcases toData_eq_null_iff.mp null with rfl | ⟨negative, rfl⟩
      · exact .inl found
      · exact .inr ⟨negative, found⟩
    · rintro (found | ⟨negative, found⟩)
      · exact ⟨_, found, rfl⟩
      · exact ⟨_, found, rfl⟩
  · intro text d decoded
    obtain ⟨fields, fs, parsed, distinct, converted, record⟩ := exists_record_of_decode decoded
    refine ⟨fields, fs, parsed, distinct, converted, record, ?_⟩
    rintro rfl
    exact decode_ne_null text decoded

/-- A float that is no number, beside a date, in an array of a table. -/
theorem toData_keeps_structure_beside_null :
    let v : Value := .table [("b", .int 1),
      ("a", .array [.float .notANumber, .datetime ⟨some ⟨1979, 5, 27⟩, none, none⟩])]
    v.KeysDistinct ∧ v.toData.lookup? [.key "a", .index 0] = some .null ∧
      v.toData.lookup? [.key "a", .index 1] = some (.str "1979-05-27") ∧
      v.toData.lookup? [.key "a", .index 2] = none ∧
      ∃ d, decode "a = [nan]" = .ok d ∧ d ≠ .null := by
  intro v
  have distinct : v.KeysDistinct := ⟨by decide, trivial, ⟨trivial, trivial, trivial⟩, trivial⟩
  have decoded : (decode "a = [nan]").isOk = true := by decide +kernel
  have follows := fun path => (toData_keeps_structure.1 v distinct path).1
  refine ⟨distinct, ?_, ?_, ?_, ?_⟩
  · exact (toData_keeps_structure.1 v distinct _).2.2.mpr (.inl rfl)
  · rw [follows]
    rfl
  · rw [follows]
    rfl
  · rcases result : decode "a = [nan]" with e | d
    · rw [result] at decoded
      cases decoded
    · obtain ⟨_, _, -, -, -, -, there⟩ := toData_keeps_structure.2 _ d result
      exact ⟨d, rfl, there⟩

end Toml
end Frontmatter
