/-
Frontmatter/Proofs/Yaml/Decode.lean

When decoding a YAML block keeps every entry of its mappings.

A mapping becomes a record, whose keys are texts, and two keys may have one text: the
string `"1"` and the number `1` are different keys of a mapping.  Only such a pair is
ever lost.  Two strings with one text are the same key, and so are two other keys with
one text, since the text of a number or a truth value reads back (`keyOfText?_keyText`);
and a parsed mapping has no key twice (`keysApart_valueOf`).

`decode_keeps_entries_iff` puts this together: a text is decoded if and only if all its
keys have texts, and then every entry of every mapping is kept if and only if no mapping
has a string as a key that spells another of its keys.
-/
import Frontmatter.Proofs.Data.Fields
import Frontmatter.Proofs.Decimal.ReadBack
import Frontmatter.Proofs.Yaml.Compose

namespace Frontmatter.Yaml

open Data (keys sortFields)

/-! ### The texts of keys -/

/-- The key that a text spells, if it is no string. -/
def keyOfText? (cs : List Char) : Option Value :=
  if cs = "true".toList then some (.bool true)
  else if cs = "false".toList then some (.bool false)
  else if Binary64.isFractional cs then
    ((Decimal.ofChars? cs).bind Decimal.toBinary64?).map fun x => .real (.finite x)
  else (Decimal.exponent? cs).map .int

/-- The text of a key that is no string reads back as the key. -/
theorem keyOfText?_keyText {k : Value} {s : String} (h : keyText k = .ok s)
    (noString : ∀ t, k ≠ .str t) : keyOfText? s.toList = some k := by
  unfold keyText at h
  split at h
  · next t => exact absurd rfl (noString t)
  · cases h
    rw [keyOfText?, if_pos rfl]
  · cases h
    rw [keyOfText?, if_neg (by decide), if_pos rfl]
  · next n =>
    cases h
    have plain := Binary64.isFractional_intText n
    have other : ∀ cs, Binary64.isFractional cs = true → Binary64.intText n ≠ cs := by
      rintro cs fractional rfl
      rw [plain] at fractional
      cases fractional
    rw [String.toList_ofList, keyOfText?, if_neg (other _ (by decide)),
      if_neg (other _ (by decide)), plain, if_neg Bool.false_ne_true, Binary64.exponent?_intText]
    rfl
  · next x =>
    cases h
    have back := x.ofChars?_text
    have other : ∀ cs, (Decimal.ofChars? cs).bind Decimal.toBinary64? = none → x.text ≠ cs := by
      rintro cs unread rfl
      rw [back] at unread
      cases unread
    rw [String.toList_ofList, keyOfText?, if_neg (other _ (by decide)),
      if_neg (other _ (by decide)), if_pos x.isFractional_text, back]
    rfl
  · cases h
  all_goals cases h

theorem same_of_keyText {k : Value} {s : String} (h : keyText k = .ok s) : k.same k = true := by
  cases k with
  | real x => cases x <;> simp [Value.same, sameFloat]
  | list items => cases h
  | map entries => cases h
  | tagged tag v => cases h
  | _ => simp [Value.same]

/-- Two keys with one text are the same key, unless exactly one of them is a string. -/
theorem same_or_string {k l : Value} {s : String} (hk : keyText k = .ok s)
    (hl : keyText l = .ok s) :
    k.same l = true ∨ (k = .str s ∧ l ≠ .str s) ∨ (l = .str s ∧ k ≠ .str s) := by
  have string : ∀ {k t}, keyText k = .ok s → k = .str t → k = .str s := by
    rintro k t h rfl
    cases h
    rfl
  by_cases hk' : ∃ t, k = .str t
  · obtain ⟨t, hk'⟩ := hk'
    have hk' := string hk hk'
    by_cases hl' : l = .str s
    · rw [hk', hl']
      exact .inl (by simp [Value.same])
    · exact .inr (.inl ⟨hk', hl'⟩)
  · by_cases hl' : ∃ t, l = .str t
    · obtain ⟨t, hl'⟩ := hl'
      exact .inr (.inr ⟨string hl hl', fun h => hk' ⟨s, h⟩⟩)
    · -- both keys are what their text reads back as
      have back := keyOfText?_keyText hk (fun t h => hk' ⟨t, h⟩)
      rw [keyOfText?_keyText hl (fun t h => hl' ⟨t, h⟩)] at back
      cases back
      exact .inl (same_of_keyText hk)

/-! ### Which texts are decoded -/

mutual

/-- Every key of every mapping inside the value has a text. -/
def Value.HasTextKeys : Value → Prop
  | .list items => ItemsHaveTextKeys items
  | .map entries => EntriesHaveTextKeys entries
  | .tagged _ v => v.HasTextKeys
  | _ => True

def ItemsHaveTextKeys : List Value → Prop
  | [] => True
  | v :: items => v.HasTextKeys ∧ ItemsHaveTextKeys items

def EntriesHaveTextKeys : List (Value × Value) → Prop
  | [] => True
  | (k, v) :: entries => (∃ s, keyText k = .ok s) ∧ v.HasTextKeys ∧ EntriesHaveTextKeys entries

end

mutual

theorem exists_toData_iff : ∀ v : Value, (∃ d, v.toData = .ok d) ↔ v.HasTextKeys
  | .null | .bool _ | .int _ | .str _ | .real (.finite _) | .real (.infinite _)
  | .real .notANumber => iff_of_true ⟨_, rfl⟩ trivial
  | .list items => by
    rw [Value.HasTextKeys, ← exists_itemsData_iff items]
    constructor
    · rintro ⟨d, h⟩
      obtain ⟨ds, hds, -⟩ := bind_eq_ok.mp h
      exact ⟨ds, hds⟩
    · rintro ⟨ds, hds⟩
      exact ⟨_, bind_eq_ok.mpr ⟨ds, hds, rfl⟩⟩
  | .map entries => by
    rw [Value.HasTextKeys, ← exists_entriesData_iff entries]
    constructor
    · rintro ⟨d, h⟩
      obtain ⟨fields, hfields, -⟩ := bind_eq_ok.mp h
      exact ⟨fields, hfields⟩
    · rintro ⟨fields, hfields⟩
      exact ⟨_, bind_eq_ok.mpr ⟨fields, hfields, rfl⟩⟩
  | .tagged tag v => by
    rw [Value.HasTextKeys, ← exists_toData_iff v]
    constructor
    · rintro ⟨d, h⟩
      obtain ⟨d', hd, -⟩ := bind_eq_ok.mp h
      exact ⟨d', hd⟩
    · rintro ⟨d, hd⟩
      exact ⟨_, bind_eq_ok.mpr ⟨d, hd, rfl⟩⟩

theorem exists_itemsData_iff :
    ∀ items : List Value, (∃ ds, itemsData items = .ok ds) ↔ ItemsHaveTextKeys items
  | [] => iff_of_true ⟨_, rfl⟩ trivial
  | v :: items => by
    rw [ItemsHaveTextKeys, ← exists_toData_iff v, ← exists_itemsData_iff items]
    constructor
    · rintro ⟨ds, h⟩
      obtain ⟨d, hd, h⟩ := bind_eq_ok.mp h
      obtain ⟨ds, hds, -⟩ := bind_eq_ok.mp h
      exact ⟨⟨d, hd⟩, ds, hds⟩
    · rintro ⟨⟨d, hd⟩, ds, hds⟩
      exact ⟨_, bind_eq_ok.mpr ⟨d, hd, bind_eq_ok.mpr ⟨ds, hds, rfl⟩⟩⟩

theorem exists_entriesData_iff :
    ∀ entries : List (Value × Value),
      (∃ fields, entriesData entries = .ok fields) ↔ EntriesHaveTextKeys entries
  | [] => iff_of_true ⟨_, rfl⟩ trivial
  | (k, v) :: entries => by
    rw [EntriesHaveTextKeys, ← exists_toData_iff v, ← exists_entriesData_iff entries]
    constructor
    · rintro ⟨fields, h⟩
      obtain ⟨s, hs, h⟩ := bind_eq_ok.mp h
      obtain ⟨d, hd, h⟩ := bind_eq_ok.mp h
      obtain ⟨fields, hfields, -⟩ := bind_eq_ok.mp h
      exact ⟨⟨s, hs⟩, ⟨d, hd⟩, fields, hfields⟩
    · rintro ⟨⟨s, hs⟩, ⟨d, hd⟩, fields, hfields⟩
      refine ⟨(s, d) :: fields, bind_eq_ok.mpr ⟨s, hs, bind_eq_ok.mpr ⟨d, hd, ?_⟩⟩⟩
      exact bind_eq_ok.mpr ⟨fields, hfields, rfl⟩

end

/-! ### Entries that are kept -/

mutual

/-- The data are the value with all its entries: each mapping is a record with as many
fields as it has entries, and each entry's key has a field with the entry's own value. -/
def Value.KeptIn : Value → Data → Prop
  | .null, d => d = .null
  | .bool b, d => d = .bool b
  | .int n, d => d = .num (.whole n)
  | .real (.finite x), d => d = .num (.real x)
  | .real _, d => d = .null
  | .str s, d => d = .str s
  | .list items, d => ∃ ds, d = .list ds ∧ ItemsKept items ds
  | .map entries, d =>
    ∃ fields, d = .record fields ∧ fields.length = entries.length ∧ EntriesKept entries fields
  | .tagged tag v, d => ∃ d', d = .record [(tagKey tag, d')] ∧ v.KeptIn d'

def ItemsKept : List Value → List Data → Prop
  | [], [] => True
  | v :: items, d :: ds => v.KeptIn d ∧ ItemsKept items ds
  | _, _ => False

def EntriesKept : List (Value × Value) → List (String × Data) → Prop
  | [], _ => True
  | (k, v) :: entries, fields =>
    (∃ s d, keyText k = .ok s ∧ (s, d) ∈ fields ∧ v.KeptIn d) ∧ EntriesKept entries fields

end

/-- A string is a key and spells another key. -/
def KeysClash (entries : List (Value × Value)) : Prop :=
  ∃ s v k w, (Value.str s, v) ∈ entries ∧ (k, w) ∈ entries ∧ k ≠ .str s ∧ keyText k = .ok s

mutual

/-- Some mapping inside the value has a string as a key that spells another key. -/
def Value.HasClash : Value → Prop
  | .list items => ItemsHaveClash items
  | .map entries => KeysClash entries ∨ EntriesHaveClash entries
  | .tagged _ v => v.HasClash
  | _ => False

def ItemsHaveClash : List Value → Prop
  | [] => False
  | v :: items => v.HasClash ∨ ItemsHaveClash items

def EntriesHaveClash : List (Value × Value) → Prop
  | [] => False
  | (_, v) :: entries => v.HasClash ∨ EntriesHaveClash entries

end

variable {entries : List (Value × Value)} {fields : List (String × Data)}

/-- An entry and the field that it becomes. -/
def Becomes (e : Value × Value) (f : String × Data) : Prop :=
  keyText e.1 = .ok f.1 ∧ e.2.toData = .ok f.2

theorem becomes_of_entriesData (h : entriesData entries = .ok fields) :
    List.Forall₂ Becomes entries fields := by
  induction entries generalizing fields with
  | nil =>
    cases h
    exact .nil
  | cons e entries ih =>
    obtain ⟨s, hs, h⟩ := bind_eq_ok.mp h
    obtain ⟨d, hd, h⟩ := bind_eq_ok.mp h
    obtain ⟨fields, hfields, h⟩ := bind_eq_ok.mp h
    cases h
    exact .cons ⟨hs, hd⟩ (ih hfields)

theorem exists_becomes (h : List.Forall₂ Becomes entries fields) {e : Value × Value}
    (he : e ∈ entries) : ∃ f, Becomes e f := by
  induction h with
  | nil => cases he
  | cons first rest ih =>
    rcases List.mem_cons.mp he with rfl | he
    · exact ⟨_, first⟩
    · exact ih he

/-- The keys of the fields are distinct if and only if no two entries have one text. -/
theorem nodup_keys_iff (h : List.Forall₂ Becomes entries fields) :
    (keys fields).Nodup ↔ entries.Pairwise fun e f => keyText e.1 ≠ keyText f.1 := by
  have texts : (keys fields).map Except.ok = entries.map fun e => keyText e.1 := by
    induction h with
    | nil => rfl
    | cons first rest ih => exact congrArg₂ List.cons first.1.symm ih
  rw [← List.nodup_map_iff (f := (Except.ok : String → Except KeyFault String))
    (fun _ _ same => Except.ok.inj same), texts, List.Nodup, List.pairwise_map]

/-- Among keys that are not the same, only those of a clash have one text. -/
theorem nodup_keys_iff_not_keysClash (h : List.Forall₂ Becomes entries fields)
    (apart : Apart entries) : (keys fields).Nodup ↔ ¬ KeysClash entries := by
  rw [nodup_keys_iff h]
  constructor
  · rintro distinct ⟨s, v, k, w, string, other, differ, text⟩
    have : Std.Symm fun e f : Value × Value => keyText e.1 ≠ keyText f.1 := ⟨fun _ _ => Ne.symm⟩
    exact distinct.forall string other (fun same => differ (congrArg Prod.fst same).symm) text.symm
  · intro free
    refine apart.imp_of_mem fun {e f} he hf differ same => ?_
    obtain ⟨field, text, -⟩ := exists_becomes h he
    rcases same_or_string text (same ▸ text) with same | ⟨string, other⟩ | ⟨string, other⟩
    · rw [same] at differ
      cases differ
    · exact free ⟨field.1, e.2, f.1, f.2, string ▸ he, hf, other, same ▸ text⟩
    · exact free ⟨field.1, f.2, e.1, e.2, string ▸ hf, he, other, text⟩

mutual

/-- A value without a key twice is kept if and only if there is no clash. -/
theorem keptIn_iff : ∀ (v : Value) {d : Data}, v.KeysApart → v.toData = .ok d →
    (v.KeptIn d ↔ ¬ v.HasClash)
  | .null, _, _, h | .bool _, _, _, h | .int _, _, _, h | .str _, _, _, h
  | .real (.finite _), _, _, h | .real (.infinite _), _, _, h | .real .notANumber, _, _, h => by
    cases h
    exact iff_of_true rfl id
  | .list items, d, apart, h => by
    obtain ⟨ds, hds, same⟩ := bind_eq_ok.mp h
    cases same
    rw [Value.HasClash, ← itemsKept_iff items apart hds, Value.KeptIn]
    exact ⟨fun ⟨_, same, kept⟩ => by cases same; exact kept, fun kept => ⟨ds, rfl, kept⟩⟩
  | .tagged tag v, d, apart, h => by
    obtain ⟨d', hd, same⟩ := bind_eq_ok.mp h
    cases same
    rw [Value.HasClash, ← keptIn_iff v apart hd, Value.KeptIn]
    exact ⟨fun ⟨_, same, kept⟩ => by cases same; exact kept, fun kept => ⟨d', rfl, kept⟩⟩
  | .map entries, d, apart, h => by
    obtain ⟨fields, hfields, same⟩ := bind_eq_ok.mp h
    cases same
    have becomes := becomes_of_entriesData hfields
    have size : entries.length = fields.length := becomes.length_eq
    have clash := nodup_keys_iff_not_keysClash becomes apart.1
    rw [Value.HasClash, not_or, Value.KeptIn]
    constructor
    · rintro ⟨sorted, same, all, kept⟩
      cases same
      -- no field was lost in putting them in order
      have distinct : (keys fields).Nodup := Data.length_sortFields_eq_iff.mp (all.trans size)
      refine ⟨clash.mp distinct, ?_⟩
      have perm := Data.sortFields_perm distinct
      exact (entriesKept_iff entries apart.2 hfields (fun f hf => perm.mem_iff.mpr hf)
        (Data.nodup_sortFields fields)).mp kept
    · rintro ⟨free, inside⟩
      have distinct := clash.mpr free
      have perm := Data.sortFields_perm distinct
      refine ⟨sortFields fields, rfl, perm.length_eq.trans size.symm, ?_⟩
      exact (entriesKept_iff entries apart.2 hfields (fun f hf => perm.mem_iff.mpr hf)
        (Data.nodup_sortFields fields)).mpr inside

theorem itemsKept_iff : ∀ (items : List Value) {ds : List Data}, ItemsApart items →
    itemsData items = .ok ds → (ItemsKept items ds ↔ ¬ ItemsHaveClash items)
  | [], _, _, h => by
    cases h
    exact iff_of_true trivial id
  | v :: items, _, apart, h => by
    obtain ⟨d, hd, h⟩ := bind_eq_ok.mp h
    obtain ⟨ds, hds, h⟩ := bind_eq_ok.mp h
    cases h
    rw [ItemsHaveClash, not_or, ← keptIn_iff v apart.1 hd, ← itemsKept_iff items apart.2 hds]
    rfl

/-- The entries are kept in a record that has their fields, if it has no key twice: the
field with an entry's key is the entry's own. -/
theorem entriesKept_iff : ∀ (entries : List (Value × Value)) {fields record : List (String × Data)},
    EntriesApart entries → entriesData entries = .ok fields → (∀ f ∈ fields, f ∈ record) →
    (keys record).Nodup → (EntriesKept entries record ↔ ¬ EntriesHaveClash entries)
  | [], _, _, _, h, _, _ => iff_of_true trivial id
  | (k, v) :: entries, _, record, apart, h, there, distinct => by
    obtain ⟨s, hs, h⟩ := bind_eq_ok.mp h
    obtain ⟨d, hd, h⟩ := bind_eq_ok.mp h
    obtain ⟨fields, hfields, h⟩ := bind_eq_ok.mp h
    cases h
    have own := there _ List.mem_cons_self
    have rest := entriesKept_iff entries apart.2 hfields
      (fun f hf => there f (List.mem_cons_of_mem _ hf)) distinct
    rw [EntriesHaveClash, not_or, ← keptIn_iff v apart.1 hd, ← rest, EntriesKept]
    refine and_congr_left' ⟨?_, fun kept => ⟨s, d, hs, own, kept⟩⟩
    rintro ⟨s', d', hs', hd', kept⟩
    cases hs.symm.trans hs'
    have same := List.inj_on_of_nodup_map distinct hd' own rfl
    cases same
    exact kept

end

/-! ### Deciding equality -/

mutual

/-- Equality of values.  Unlike for keys, the order of entries counts. -/
def Value.beq : Value → Value → Bool
  | .null, .null => true
  | .bool a, .bool b => a = b
  | .int a, .int b => a = b
  | .real a, .real b => a = b
  | .str a, .str b => a = b
  | .list as, .list bs => beqItems as bs
  | .map as, .map bs => beqEntries as bs
  | .tagged s a, .tagged t b => s = t && a.beq b
  | _, _ => false

def beqItems : List Value → List Value → Bool
  | [], [] => true
  | a :: as, b :: bs => a.beq b && beqItems as bs
  | _, _ => false

def beqEntries : List (Value × Value) → List (Value × Value) → Bool
  | [], [] => true
  | (k, v) :: as, (l, w) :: bs => k.beq l && v.beq w && beqEntries as bs
  | _, _ => false

end

mutual

theorem Value.beq_iff : ∀ a b : Value, a.beq b = true ↔ a = b
  | .null, b | .bool a, b | .int a, b | .real a, b | .str a, b => by cases b <;> simp [Value.beq]
  | .list as, b => by cases b <;> simp [Value.beq, beqItems_iff as]
  | .map as, b => by cases b <;> simp [Value.beq, beqEntries_iff as]
  | .tagged s a, b => by cases b <;> simp [Value.beq, a.beq_iff]

theorem beqItems_iff : ∀ as bs : List Value, beqItems as bs = true ↔ as = bs
  | [], bs => by cases bs <;> simp [beqItems]
  | a :: as, bs => by cases bs <;> simp [beqItems, a.beq_iff, beqItems_iff as]

theorem beqEntries_iff : ∀ as bs : List (Value × Value), beqEntries as bs = true ↔ as = bs
  | [], bs => by cases bs <;> simp [beqEntries]
  | (k, v) :: as, bs => by
    rcases bs with _ | ⟨⟨l, w⟩, bs⟩
    · simp [beqEntries]
    · simp [beqEntries, k.beq_iff, v.beq_iff, beqEntries_iff as, and_assoc]

end

instance : DecidableEq Value := fun a b => decidable_of_iff _ (a.beq_iff b)

/-! ### Decoding a text -/

theorem decode_eq_ok_iff {text : String} {v : Value} (parsed : valueOf text.toList = .ok v)
    {d : Data} : decode text = .ok d ↔ v.toData = .ok d := by
  unfold decode
  rw [parsed]
  simp only
  split
  · next h =>
    rw [h, Except.ok.injEq, Except.ok.injEq]
  · next h =>
    rw [h]
    exact iff_of_false (fun same => by cases same) fun same => by cases same

/-- Entries are kept as long as no string spells another key.  A text that is parsed is
decoded if and only if every key has a text.  What it is decoded to then has every entry
of every mapping, with the entry's own value, if and only if no mapping has a string as a
key that spells another of its keys. -/
theorem decode_keeps_entries_iff {text : String} {v : Value}
    (parsed : valueOf text.toList = .ok v) :
    ((∃ d, decode text = .ok d) ↔ v.HasTextKeys) ∧
      ∀ d, decode text = .ok d → (v.KeptIn d ↔ ¬ v.HasClash) := by
  constructor
  · rw [← exists_toData_iff]
    exact exists_congr fun d => decode_eq_ok_iff parsed
  · intro d decoded
    exact keptIn_iff v (keysApart_valueOf parsed) ((decode_eq_ok_iff parsed).mp decoded)

/-- The number `1` and the string `"1"` are two keys, and one field. -/
theorem decode_loses_entry :
    valueOf "1: a\n\"1\": b".toList = .ok (.map [(.int 1, .str "a"), (.str "1", .str "b")]) ∧
      ∃ d, decode "1: a\n\"1\": b" = .ok d ∧
        ¬ (Value.map [(.int 1, .str "a"), (.str "1", .str "b")]).KeptIn d := by
  have parsed : valueOf "1: a\n\"1\": b".toList
      = .ok (.map [(.int 1, .str "a"), (.str "1", .str "b")]) := by
    have found : (valueOf "1: a\n\"1\": b".toList).toOption
        = some (.map [(.int 1, .str "a"), (.str "1", .str "b")]) := by decide +kernel
    cases h : valueOf "1: a\n\"1\": b".toList with
    | error e =>
      rw [h] at found
      cases found
    | ok v =>
      rw [h] at found
      exact congrArg _ (Option.some.inj found)
  obtain ⟨accepted, kept⟩ := decode_keeps_entries_iff parsed
  obtain ⟨d, decoded⟩ :=
    accepted.mpr ⟨⟨"1", by decide⟩, trivial, ⟨"1", by decide⟩, trivial, trivial⟩
  refine ⟨parsed, d, decoded, fun all => (kept d decoded).mp all (.inl ?_)⟩
  exact ⟨"1", .str "b", .int 1, .str "a", by simp, by simp, by simp, by decide⟩

end Frontmatter.Yaml
