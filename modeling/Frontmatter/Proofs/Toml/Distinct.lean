/-
Frontmatter/Proofs/Toml/Distinct.lean

The tables of a TOML text have no key twice.

Whatever comes into a table comes in with `putField`.  It replaces the field that has the
key already, or else adds one behind the others, so fields with distinct keys stay that way
(`Distinct.putField`).  Three sorts of tables grow like this: inline tables, the tables that
dotted keys make inside them, and the tables of a document; the latter two count by the
values that they stand for.

What a reader gives is said by `Parser.Yields`.  By induction on how deep values are nested,
and on the lines of the text, no table inside what is parsed has a key twice, at any depth
(`keysDistinct_parse`).
-/
import Frontmatter.Proofs.Data.Except
import Frontmatter.Toml.Document
import Mathlib.Data.List.Nodup

namespace Frontmatter.Toml

/-! ### Fields -/

section Fields

variable {α β : Type} {ok : α → Prop} {j k : String} {a : α} {fields : List (String × α)}

/-- The keys of some fields, in their order. -/
def keys (fields : List (String × α)) : List String := fields.map Prod.fst

theorem keys_cons (f : String × α) (fields : List (String × α)) :
    keys (f :: fields) = f.1 :: keys fields := rfl

theorem keys_map (g : α → β) (fields : List (String × α)) :
    keys (fields.map fun f => (f.1, g f.2)) = keys fields := by
  rw [keys, List.map_map]
  rfl

theorem mem_keys_putField : j ∈ keys (putField k a fields) ↔ j = k ∨ j ∈ keys fields := by
  induction fields with
  | nil => exact List.mem_cons
  | cons f fields ih =>
    rw [putField]
    split_ifs with same
    · rw [keys_cons, keys_cons, List.mem_cons, same]
      tauto
    · rw [keys_cons, keys_cons, List.mem_cons, List.mem_cons, ih]
      tauto

theorem nodup_keys_putField (distinct : (keys fields).Nodup) :
    (keys (putField k a fields)).Nodup := by
  induction fields with
  | nil => exact List.nodup_singleton k
  | cons f fields ih =>
    obtain ⟨fresh, rest⟩ := List.nodup_cons.mp distinct
    rw [putField]
    split_ifs with same
    · exact distinct
    · refine List.nodup_cons.mpr ⟨fun there => ?_, ih rest⟩
      rcases mem_keys_putField.mp there with here | behind
      · exact same here
      · exact fresh behind

theorem mem_of_mem_putField {f : String × α} (h : f ∈ putField k a fields) :
    f.2 = a ∨ f ∈ fields := by
  induction fields with
  | nil =>
    cases List.mem_singleton.mp h
    exact .inl rfl
  | cons g fields ih =>
    rw [putField] at h
    split_ifs at h with same
    · rcases List.mem_cons.mp h with rfl | h
      · exact .inl rfl
      · exact .inr (List.mem_cons_of_mem g h)
    · rcases List.mem_cons.mp h with rfl | h
      · exact .inr List.mem_cons_self
      · exact (ih h).imp_right (List.mem_cons_of_mem g)

theorem mem_of_fieldOf? (h : fieldOf? k fields = some a) : (k, a) ∈ fields := by
  obtain ⟨f, found, rfl⟩ := Option.map_eq_some_iff.mp h
  have key := List.find?_some found
  rw [← of_decide_eq_true key]
  exact List.mem_of_find?_eq_some found

/-- If keys are distinct, a key has the field that it stands in. -/
theorem fieldOf?_eq_some_iff (distinct : (keys fields).Nodup) :
    fieldOf? k fields = some a ↔ (k, a) ∈ fields := by
  refine ⟨mem_of_fieldOf?, fun here => ?_⟩
  have key : decide ((k, a).1 = k) = true := decide_eq_true rfl
  obtain ⟨b, found⟩ : ∃ b, fieldOf? k fields = some b := by
    rw [← Option.isSome_iff_exists, fieldOf?, Option.isSome_map, List.find?_isSome]
    exact ⟨(k, a), here, key⟩
  have same := List.inj_on_of_nodup_map distinct (mem_of_fieldOf? found) here rfl
  rw [found, (Prod.mk.inj same).2]

theorem fieldOf?_map (g : α → β) (k : String) (fields : List (String × α)) :
    fieldOf? k (fields.map fun f => (f.1, g f.2)) = (fieldOf? k fields).map g := by
  rw [fieldOf?, fieldOf?, List.find?_map, Option.map_map, Option.map_map]
  rfl

/-- No key stands twice, and what stands there is good. -/
structure Distinct (ok : α → Prop) (fields : List (String × α)) : Prop where
  nodup : (keys fields).Nodup
  good : ∀ f ∈ fields, ok f.2

theorem Distinct.nil : Distinct ok [] := ⟨List.nodup_nil, fun _ h => nomatch h⟩

theorem Distinct.putField (h : Distinct ok fields) (good : ok a) (k : String) :
    Distinct ok (putField k a fields) := by
  refine ⟨nodup_keys_putField h.nodup, fun f hf => ?_⟩
  rcases mem_of_mem_putField hf with here | before
  · rw [here]
    exact good
  · exact h.good f before

theorem Distinct.fieldOf? (h : Distinct ok fields) (found : fieldOf? k fields = some a) : ok a :=
  h.good (k, a) (mem_of_fieldOf? found)

theorem distinct_map_iff {good : β → Prop} (g : α → β) :
    Distinct good (fields.map fun f => (f.1, g f.2)) ↔ Distinct (fun a => good (g a)) fields := by
  constructor
  · rintro ⟨nodup, all⟩
    rw [keys_map] at nodup
    exact ⟨nodup, fun f hf => all (f.1, g f.2) (List.mem_map_of_mem hf)⟩
  · rintro ⟨nodup, all⟩
    refine ⟨(keys_map g fields).symm ▸ nodup, fun f' hf' => ?_⟩
    obtain ⟨f, hf, rfl⟩ := List.mem_map.mp hf'
    exact all f hf

end Fields

/-! ### Values -/

mutual

/-- No table inside the value has a key twice. -/
def Value.KeysDistinct : Value → Prop
  | .array items => ValuesDistinct items
  | .table fields => (keys fields).Nodup ∧ EntriesDistinct fields
  | _ => True

def ValuesDistinct : List Value → Prop
  | [] => True
  | v :: items => v.KeysDistinct ∧ ValuesDistinct items

def EntriesDistinct : List (String × Value) → Prop
  | [] => True
  | (_, v) :: fields => v.KeysDistinct ∧ EntriesDistinct fields

end

namespace Value

theorem keysDistinct_array_iff {items : List Value} :
    (array items).KeysDistinct ↔ ∀ v ∈ items, v.KeysDistinct := by
  rw [KeysDistinct]
  induction items with
  | nil => simp [ValuesDistinct]
  | cons v items ih => simp [ValuesDistinct, ih]

theorem keysDistinct_table_iff {fields : List (String × Value)} :
    (table fields).KeysDistinct ↔ Distinct KeysDistinct fields := by
  have inside : EntriesDistinct fields ↔ ∀ f ∈ fields, f.2.KeysDistinct := by
    induction fields with
    | nil => simp [EntriesDistinct]
    | cons f fields ih => simp [EntriesDistinct, ih]
  rw [KeysDistinct, inside]
  exact ⟨fun ⟨nodup, good⟩ => ⟨nodup, good⟩, fun ⟨nodup, good⟩ => ⟨nodup, good⟩⟩

end Value

/-! ### Inline tables -/

theorem fieldsToValues_eq_map (fields : List (String × Field)) :
    fieldsToValues fields = fields.map fun f => (f.1, f.2.toValue) := by
  induction fields with
  | nil => rfl
  | cons f fields ih => rw [fieldsToValues, ih, List.map_cons]

/-- A field counts by the value that it stands for. -/
def Field.KeysDistinct (f : Field) : Prop := f.toValue.KeysDistinct

theorem Field.keysDistinct_dotted_iff {fields : List (String × Field)} :
    (dotted fields).KeysDistinct ↔ Distinct Field.KeysDistinct fields := by
  rw [KeysDistinct, toValue, fieldsToValues_eq_map, Value.keysDistinct_table_iff, distinct_map_iff]
  rfl

variable {v : Value} {last : String} {leading before : List String}

/-- By induction on the keys that still lead to the value: each one makes a table or goes on
in one that a dotted key has made. -/
theorem distinct_addField {fields fields' : List (String × Field)} (hv : v.KeysDistinct)
    (h : Distinct Field.KeysDistinct fields)
    (added : addField v last leading before fields = .ok fields') :
    Distinct Field.KeysDistinct fields' := by
  induction leading generalizing before fields fields' with
  | nil =>
    rw [addField] at added
    split at added
    · cases added
      have good : (Field.value v).KeysDistinct := hv
      exact h.putField good last
    · cases added
  | cons k leading ih =>
    rw [addField] at added
    split at added
    · obtain ⟨inner, made, same⟩ := bind_eq_ok.mp added
      cases same
      exact h.putField (Field.keysDistinct_dotted_iff.mpr (ih .nil made)) k
    · next found =>
      obtain ⟨inner, made, same⟩ := bind_eq_ok.mp added
      cases same
      have old := Field.keysDistinct_dotted_iff.mp (h.fieldOf? found)
      exact h.putField (Field.keysDistinct_dotted_iff.mpr (ih old made)) k
    · cases added
    · cases added

theorem keysDistinct_inlineTableOf {pairs : List (KeyPath × Value)}
    (hp : ∀ p ∈ pairs, p.2.KeysDistinct) (made : inlineTableOf pairs = .ok v) :
    v.KeysDistinct := by
  obtain ⟨fields, folded, same⟩ := bind_eq_ok.mp made
  cases same
  refine Field.keysDistinct_dotted_iff.mpr (foldlM_induction .nil ?_ folded)
  intro fields p hpair fields' h added
  exact distinct_addField (hp p hpair) h added

/-! ### The tables of a document -/

theorem itemsToValues_eq_map (items : Items) :
    itemsToValues items = items.map fun i => (i.1, i.2.toValue) := by
  induction items with
  | nil => rfl
  | cons i items ih => rw [itemsToValues, ih, List.map_cons]

theorem tablesToValues_eq_map (tables : List Items) :
    tablesToValues tables = tables.map fun t => .table (itemsToValues t) := by
  induction tables with
  | nil => rfl
  | cons t tables ih => rw [tablesToValues, ih, List.map_cons]

/-- An item counts by the value that it stands for. -/
def Item.KeysDistinct (i : Item) : Prop := i.toValue.KeysDistinct

theorem keysDistinct_itemsToValues_iff {items : Items} :
    (Value.table (itemsToValues items)).KeysDistinct ↔ Distinct Item.KeysDistinct items := by
  rw [itemsToValues_eq_map, Value.keysDistinct_table_iff, distinct_map_iff]
  rfl

theorem Item.keysDistinct_table_iff {origin : Origin} {items : Items} :
    (table origin items).KeysDistinct ↔ Distinct Item.KeysDistinct items :=
  keysDistinct_itemsToValues_iff

theorem Item.keysDistinct_tables_iff {earlier : List Items} {last : Items} :
    (tables earlier last).KeysDistinct ↔
      (∀ t ∈ earlier, Distinct Item.KeysDistinct t) ∧ Distinct Item.KeysDistinct last := by
  rw [KeysDistinct, toValue, tablesToValues_eq_map, Value.keysDistinct_array_iff,
    List.forall_mem_append, List.forall_mem_map, List.forall_mem_singleton]
  simp only [keysDistinct_itemsToValues_iff]

/-- A change at the end of a path keeps the keys of all tables on the way distinct, if it
keeps those of the table that it changes.  By induction on the path. -/
theorem distinct_updateAt {byDottedKey : Bool} {change : Origin → Items → Except Fault Items}
    {path before : List String} {origin : Origin} {items items' : Items}
    (keeps : ∀ origin items items', Distinct Item.KeysDistinct items →
      change origin items = .ok items' → Distinct Item.KeysDistinct items')
    (h : Distinct Item.KeysDistinct items)
    (updated : updateAt byDottedKey change path before origin items = .ok items') :
    Distinct Item.KeysDistinct items' := by
  induction path generalizing before origin items items' with
  | nil => exact keeps origin items items' h updated
  | cons k path ih =>
    rw [updateAt] at updated
    split at updated
    · -- the table is missing
      obtain ⟨inner, made, same⟩ := bind_eq_ok.mp updated
      cases same
      exact h.putField (Item.keysDistinct_table_iff.mpr (ih .nil made)) k
    · cases updated
    · -- the last table of an array is meant
      next found =>
      obtain ⟨inner, made, same⟩ := bind_eq_ok.mp updated
      cases same
      obtain ⟨earlier, last⟩ := Item.keysDistinct_tables_iff.mp (h.fieldOf? found)
      exact h.putField (Item.keysDistinct_tables_iff.mpr ⟨earlier, ih last made⟩) k
    · next found =>
      split at updated
      · cases updated
      · obtain ⟨inner, made, same⟩ := bind_eq_ok.mp updated
        cases same
        have old := Item.keysDistinct_table_iff.mp (h.fieldOf? found)
        exact h.putField (Item.keysDistinct_table_iff.mpr (ih old made)) k

theorem distinct_addPair {openPath : List String} {k : KeyPath} {items items' : Items}
    (hv : v.KeysDistinct) (h : Distinct Item.KeysDistinct items)
    (added : addPair openPath k v items = .ok items') : Distinct Item.KeysDistinct items' := by
  refine distinct_updateAt ?_ h added
  intro origin items items' h changed
  split at changed
  · cases changed
  · split at changed
    · cases changed
      have good : (Item.value v).KeysDistinct := hv
      exact h.putField good k.last
    · cases changed

namespace State

variable {s s' : State} {p : KeyPath} {root : Items}

/-- The tables that are closed and the table that is open have no key twice. -/
structure KeysDistinct (s : State) : Prop where
  root : Distinct Item.KeysDistinct s.root
  items : Distinct Item.KeysDistinct s.items

theorem keysDistinct_start : start.KeysDistinct := ⟨.nil, .nil⟩

theorem KeysDistinct.close (h : s.KeysDistinct) (closed : s.close = .ok root) :
    Distinct Item.KeysDistinct root := by
  rw [State.close] at closed
  split at closed
  · cases closed
    exact h.items
  · next p _ =>
    refine distinct_updateAt ?_ h.root closed
    intro origin items items' there changed
    split at changed
    · split at changed
      · -- one more table of an array
        next found =>
        cases changed
        obtain ⟨earlier, last⟩ := Item.keysDistinct_tables_iff.mp (there.fieldOf? found)
        refine there.putField (Item.keysDistinct_tables_iff.mpr ⟨?_, h.items⟩) p.last
        exact List.forall_mem_append.mpr ⟨earlier, List.forall_mem_singleton.mpr last⟩
      · -- the first one
        cases changed
        refine there.putField (Item.keysDistinct_tables_iff.mpr ⟨?_, h.items⟩) p.last
        intro t ht
        cases ht
    · cases changed
      exact there.putField (Item.keysDistinct_table_iff.mpr h.items) p.last

theorem keysDistinct_find? {leading : List String} {last : String} {items : Items} {i : Item}
    (h : Distinct Item.KeysDistinct items) (found : find? leading last items = some i) :
    i.KeysDistinct := by
  induction leading generalizing items with
  | nil => exact h.fieldOf? found
  | cons k leading ih =>
    rw [find?] at found
    split at found
    · next here => exact ih (Item.keysDistinct_table_iff.mp (h.fieldOf? here)) found
    · next here => exact ih (Item.keysDistinct_tables_iff.mp (h.fieldOf? here)).2 found
    · cases found

theorem KeysDistinct.openTable (h : s.KeysDistinct) (opened : s.openTable p = .ok s') :
    s'.KeysDistinct := by
  obtain ⟨root, closed, rest⟩ := bind_eq_ok.mp opened
  obtain ⟨_, -, rest⟩ := bind_eq_ok.mp rest
  have hroot := h.close closed
  split at rest
  · cases rest
    exact ⟨hroot, .nil⟩
  · next found =>
    cases rest
    exact ⟨hroot, Item.keysDistinct_table_iff.mp (keysDistinct_find? hroot found)⟩
  · cases rest

theorem KeysDistinct.openArrayTable (h : s.KeysDistinct) (opened : s.openArrayTable p = .ok s') :
    s'.KeysDistinct := by
  obtain ⟨root, closed, rest⟩ := bind_eq_ok.mp opened
  obtain ⟨_, -, rest⟩ := bind_eq_ok.mp rest
  have hroot := h.close closed
  split at rest
  · cases rest
    exact ⟨hroot, .nil⟩
  · cases rest
    exact ⟨hroot, .nil⟩
  · cases rest

theorem KeysDistinct.add (h : s.KeysDistinct) (hv : v.KeysDistinct)
    (added : s.add p v = .ok s') : s'.KeysDistinct := by
  obtain ⟨items, put, same⟩ := bind_eq_ok.mp added
  cases same
  exact ⟨h.root, distinct_addPair hv h.items put⟩

end State

/-! ### What readers give -/

/-- What was read, if anything, is good. -/
def Reply.Gives {α : Type} (P : α → Prop) (r : Reply α) : Prop :=
  ∀ ⦃a : α⦄ ⦃rest : List Char⦄, r = .done a rest → P a

namespace Parser

variable {α β : Type} {P : α → Prop} {Q : β → Prop} {p q : Parser α}

/-- Whatever the reader gives is good. -/
def Yields (P : α → Prop) (p : Parser α) : Prop := ∀ cs, (p cs).Gives P

namespace Yields

/-- Nothing is said of what the reader gives. -/
theorem any (p : Parser α) : Yields (fun _ => True) p := fun _ _ _ _ => trivial

/-- A choice gives what is good if both sides do. -/
theorem ite {c : Prop} [Decidable c] {r r' : Reply α} (h : r.Gives P) (h' : r'.Gives P) :
    (if c then r else r').Gives P :=
  iteInduction (motive := Reply.Gives P) (fun _ => h) fun _ => h'

theorem pure {a : α} (h : P a) : Yields P (Pure.pure a : Parser α) := by
  intro cs a' rest done
  cases done
  exact h

theorem fail : Yields P (fail : Parser α) := fun _ _ _ done => nomatch done

theorem refuse (e : Fault) : Yields P (refuse e : Parser α) := fun _ _ _ done => nomatch done

theorem bind {f : α → Parser β} (hp : Yields P p) (hf : ∀ a, P a → Yields Q (f a)) :
    Yields Q (p >>= f) := by
  intro cs b rest done
  replace done : Parser.bind p f cs = .done b rest := done
  unfold Parser.bind at done
  split at done
  · next a rest first => exact hf a (hp cs first) _ done
  · cases done

/-- What a reader gives is good if the second step gives it, whatever the first one gave. -/
theorem andThen {f : α → Parser β} (hf : ∀ a, Yields Q (f a)) : Yields Q (p >>= f) :=
  (any p).bind fun a _ => hf a

theorem map {g : α → β} (h : ∀ a, Q (g a)) : Yields Q (g <$> p) := andThen fun a => pure (h a)

theorem must (hp : Yields P p) : Yields P (must p) := by
  intro cs a rest done
  unfold Parser.must at done
  split at done
  · cases done
  · exact hp cs done

theorem named (hp : Yields P p) (l : Label) : Yields P (named l p) := by
  intro cs a rest done
  unfold Parser.named at done
  split at done
  · cases done
  · exact hp cs done

theorem expecting (hp : Yields P p) (e : Expected) : Yields P (expecting e p) := by
  intro cs a rest done
  unfold Parser.expecting at done
  split at done
  · cases done
  · exact hp cs done

theorem orElse (hp : Yields P p) (hq : Yields P q) : Yields P (orElse p q) := by
  intro cs a rest done
  unfold Parser.orElse at done
  split at done
  · exact hq cs done
  · exact hp cs done

theorem optional (hp : Yields P p) : Yields (fun o => ∀ a ∈ o, P a) (optional p) := by
  intro cs o rest done
  unfold Parser.optional at done
  split at done
  · next read =>
    cases done
    intro a ha
    cases ha
    exact hp cs read
  · cases done
    intro a ha
    cases ha
  · cases done

theorem check {g : α → Except Fault β} (hp : Yields P p)
    (hg : ∀ a b, P a → g a = .ok b → Q b) : Yields Q (check p g) := by
  intro cs b rest done
  unfold Parser.check at done
  split at done
  · next a _ read =>
    split at done
    · next checked =>
      cases done
      exact hg a b (hp cs read) checked
    · cases done
  · cases done

theorem times (hp : Yields P p) (n : Nat) : Yields (fun as => ∀ a ∈ as, P a) (times p n) := by
  induction n with
  | zero => exact pure fun a ha => nomatch ha
  | succ n ih =>
    intro cs as rest done
    unfold Parser.times at done
    split at done
    · next first =>
      split at done
      · next more =>
        cases done
        exact List.forall_mem_cons.mpr ⟨hp cs first, ih _ more⟩
      · cases done
    · cases done
      exact fun a ha => nomatch ha
    · cases done

theorem many (hp : Yields P p) : Yields (fun as => ∀ a ∈ as, P a) (many p) := by
  intro cs as rest done
  exact hp.times (cs.length + 1) cs done

theorem separated {sep : Parser β} (hp : Yields P p) :
    Yields (fun as => ∀ a ∈ as, P a) (separated p sep) :=
  hp.bind fun _ first => (andThen fun _ => hp).many.bind fun _ more =>
    pure (List.forall_mem_cons.mpr ⟨first, more⟩)

end Yields

end Parser

open Frontmatter.Toml.Parser

/-! ### Reading values -/

variable {inner : Parser Value}

theorem yields_inlinePair (h : Yields Value.KeysDistinct inner) :
    Yields (fun p => p.2.KeysDistinct) (inlinePair inner) :=
  .andThen fun _ => Yields.must (.andThen fun _ => .andThen fun _ => h.bind fun _ hv =>
    .andThen fun _ => .pure hv)

theorem yields_inlineTable (h : Yields Value.KeysDistinct inner) :
    Yields Value.KeysDistinct (inlineTable inner) := by
  have pairs : Yields (fun ps : List (KeyPath × Value) => ∀ p ∈ ps, p.2.KeysDistinct)
      (do
        let pairs ← optional (separated (inlinePair inner) (char ','))
        let _ ← blanks
        return pairs.getD []) := by
    refine (yields_inlinePair h).separated.optional.bind fun pairs hp => .andThen fun _ => .pure ?_
    cases pairs with
    | none => exact fun p hp => nomatch hp
    | some ps => exact hp ps rfl
  refine .andThen fun _ => Yields.bind (pairs.check ?_).must fun _ hv => .andThen fun _ => .pure hv
  intro ps v hps made
  exact keysDistinct_inlineTableOf hps made

theorem yields_array (h : Yields Value.KeysDistinct inner) :
    Yields Value.KeysDistinct (array inner) := by
  have item : Yields Value.KeysDistinct (do arrayGap; let v ← inner; arrayGap; return v) :=
    .andThen fun _ => h.bind fun _ hv => .andThen fun _ => .pure hv
  have none : ∀ v ∈ ([] : List Value), v.KeysDistinct := fun v hv => nomatch hv
  refine .andThen fun _ => Yields.bind (P := fun vs : List Value => ∀ v ∈ vs, v.KeysDistinct)
    (Yields.must (.andThen fun closed => ?_)) fun vs hvs => .andThen fun _ =>
      .pure (Value.keysDistinct_array_iff.mpr hvs)
  split
  · exact .pure none
  · have items : Yields (fun vs : List Value => ∀ v ∈ vs, v.KeysDistinct) (do
        let items ← separated (do arrayGap; let v ← inner; arrayGap; return v) (char ',')
        let _ ← optional (char ',')
        return items) :=
      item.separated.bind fun _ hvs => .andThen fun _ => .pure hvs
    refine items.optional.bind fun vs hvs => .andThen fun _ => .pure ?_
    cases vs with
    | none => exact none
    | some vs => exact hvs vs rfl

theorem yields_nested {value : Option (Parser Value)}
    (h : ∀ p ∈ value, Yields Value.KeysDistinct p) {p : Parser Value → Parser Value}
    (hp : ∀ {inner}, Yields Value.KeysDistinct inner → Yields Value.KeysDistinct (p inner)) :
    Yields Value.KeysDistinct (nested value p) := by
  unfold nested
  split
  · exact hp (h _ rfl)
  · exact (Yields.refuse _).must

theorem yields_asString {p : Parser Value} (h : Yields Value.KeysDistinct p) :
    Yields Value.KeysDistinct (asString p) := ((h.named _).expecting _).expecting _

theorem yields_valueWith {value : Option (Parser Value)}
    (h : ∀ p ∈ value, Yields Value.KeysDistinct p) :
    Yields Value.KeysDistinct (valueWith value) := by
  -- what is no array and no inline table has no tables inside
  have string : Yields Value.KeysDistinct (Value.str <$> string) := .map fun _ => trivial
  have floats : ∀ p : Parser FloatValue, Yields Value.KeysDistinct (Value.float <$> p) :=
    fun p => .map fun _ => trivial
  have integers : Yields Value.KeysDistinct (Value.int <$> integer) := .map fun _ => trivial
  have dates : Yields Value.KeysDistinct (Value.datetime <$> datetime) := .map fun _ => trivial
  have words : ∀ s b, Yields Value.KeysDistinct (word s (.bool b)) :=
    fun s b => .andThen fun _ => .pure trivial
  intro cs
  unfold valueWith
  split
  · exact Yields.fail _
  · -- one reader for each first character
    exact Yields.ite (string _) <|
      Yields.ite (yields_nested h yields_array _) <|
      Yields.ite (yields_nested h yields_inlineTable _) <|
      Yields.ite (dates.orElse ((floats _).orElse integers) _) <|
      Yields.ite (integers.expecting _ _) <|
      Yields.ite ((floats _).expecting _ _) <|
      Yields.ite (yields_asString (words _ _) _) <|
      Yields.ite (yields_asString (words _ _) _) <|
      Yields.ite (yields_asString (floats _) _) <|
      Yields.ite (yields_asString (floats _) _) <|
      yields_asString .fail _

/-- However deep values may be nested. -/
theorem yields_valueWithin (depth : Nat) : Yields Value.KeysDistinct (valueWithin depth) := by
  induction depth with
  | zero => exact yields_valueWith fun _ h => absurd h (by simp)
  | succ depth ih =>
    refine yields_valueWith fun p h => ?_
    cases h
    exact ih

theorem yields_value : Yields Value.KeysDistinct value := yields_valueWithin _

/-! ### Reading documents -/

variable {s : State}

theorem yields_pairLine (h : s.KeysDistinct) : Yields State.KeysDistinct (pairLine s) := by
  have pair : Yields (fun p : KeyPath × Value => p.2.KeysDistinct) (do
      let k ← key
      must do
        equalSign
        let _ ← blanks
        let v ← value
        expectingLineEnd restOfLine
        return (k, v)) :=
    .andThen fun _ => Yields.must (.andThen fun _ => .andThen fun _ => yields_value.bind fun _ hv =>
      .andThen fun _ => .pure hv)
  refine pair.check fun p s' hv added => ?_
  exact h.add hv added

theorem yields_headerLine (h : s.KeysDistinct) : Yields State.KeysDistinct (headerLine s) := by
  refine Yields.named (fun cs => ?_) _
  split
  · exact (Yields.any _).check (fun _ _ _ opened => h.openArrayTable opened) _
  · exact (Yields.any _).check (fun _ _ _ opened => h.openTable opened) _
  · exact Yields.fail _

theorem yields_line (h : s.KeysDistinct) : Yields State.KeysDistinct (line s) := by
  have commentLine : Yields State.KeysDistinct (do comment; lineEnd; return s) :=
    .andThen fun _ => .andThen fun _ => .pure h
  have emptyLine : Yields State.KeysDistinct (do newline; return s) := .andThen fun _ => .pure h
  intro cs
  unfold line
  split
  · exact Yields.fail _
  · exact Yields.ite (commentLine.must _) <| Yields.ite ((yields_headerLine h).must _) <|
      Yields.ite (emptyLine _) ((yields_pairLine h).must _)

/-- By induction on the lines that may still come. -/
theorem yields_linesFrom (fuel : Nat) (h : s.KeysDistinct) :
    Yields State.KeysDistinct (linesFrom fuel s) := by
  induction fuel generalizing s with
  | zero => exact .pure h
  | succ fuel ih =>
    have first : Yields State.KeysDistinct (do let s ← line s; let _ ← blanks; return s) :=
      (yields_line h).bind fun _ hs => .andThen fun _ => .pure hs
    intro cs s' rest done
    unfold linesFrom at done
    split at done
    · next read => exact ih (first cs read) _ done
    · cases done
      exact h
    · cases done

theorem yields_document : Yields State.KeysDistinct document := by
  have lines : Yields State.KeysDistinct fun cs => linesFrom (cs.length + 1) State.start cs :=
    fun cs => yields_linesFrom (cs.length + 1) State.keysDistinct_start cs
  exact .andThen fun _ => .andThen fun _ => lines.bind fun _ hs => .andThen fun _ => .pure hs

/-- No table of a text has a key twice, and no table inside one. -/
theorem keysDistinct_parse {text : List Char} {fields : List (String × Value)}
    (h : parse text = .ok fields) : (Value.table fields).KeysDistinct := by
  rw [parse] at h
  split at h
  · cases h
  · next read =>
    split at h
    · next closed =>
      cases h
      have distinct := yields_document text read
      exact keysDistinct_itemsToValues_iff.mpr (distinct.close closed)
    · cases h

end Frontmatter.Toml
