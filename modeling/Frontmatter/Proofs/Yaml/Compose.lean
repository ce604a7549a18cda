/-
Frontmatter/Proofs/Yaml/Compose.lean

The mappings of a parsed document have no key twice.

The reader of a mapping compares each key with those before it and refuses the
document if two are the same (`entries_keysApart`).  All other readers pass on what they
are given, so by induction on how deep collections are nested, no mapping inside the
value of a text has two keys that are the same (`keysApart_valueOf`).  Aliases are no
exception: the value of an anchor is read anew.
-/
import Frontmatter.Proofs.Data.Except
import Frontmatter.Yaml.Decode

namespace Frontmatter.Yaml

/-! ### Values without a key twice -/

/-- No two entries have the same key. -/
def Apart (entries : List (Value × Value)) : Prop :=
  entries.Pairwise fun e f => e.1.same f.1 = false

mutual

/-- No mapping inside the value has a key twice. -/
def Value.KeysApart : Value → Prop
  | .list items => ItemsApart items
  | .map entries => Apart entries ∧ EntriesApart entries
  | .tagged _ v => v.KeysApart
  | _ => True

def ItemsApart : List Value → Prop
  | [] => True
  | v :: items => v.KeysApart ∧ ItemsApart items

def EntriesApart : List (Value × Value) → Prop
  | [] => True
  | (_, v) :: entries => v.KeysApart ∧ EntriesApart entries

end

theorem entriesApart_cons {e : Value × Value} {entries : List (Value × Value)} :
    EntriesApart (e :: entries) ↔ e.2.KeysApart ∧ EntriesApart entries := Iff.rfl

theorem entriesApart_iff {entries : List (Value × Value)} :
    EntriesApart entries ↔ ∀ e ∈ entries, e.2.KeysApart := by
  induction entries with
  | nil => simp [EntriesApart]
  | cons e entries ih => simp [EntriesApart, ih]

theorem keysApart_ofPlain {text : String} {v : Value} (h : Value.ofPlain text = .ok v) :
    v.KeysApart := by
  simp only [Value.ofPlain] at h
  split at h
  · cases h
    trivial
  split at h
  · cases h
    trivial
  split at h
  · cases h
    trivial
  · cases h
  split at h
  · cases h
    trivial
  · cases h
    trivial

theorem keysApart_scalarValue {tag : Option TagText} {text : String} {plain : Bool} {v : Value}
    (h : scalarValue tag text plain = .ok v) : v.KeysApart := by
  unfold scalarValue at h
  simp only at h
  repeat' split at h
  all_goals first
    | exact keysApart_ofPlain h
    | (cases h; trivial)
    | cases h

/-! ### Reading -/

/-- The reader gives no value with a key twice. -/
def ReadsApart (read : ValueReader) : Prop :=
  ∀ {path pos jumps v stop jumps'}, read path pos jumps = .ok (v, stop, jumps') → v.KeysApart

namespace Parts

variable {ps : Parts} {read : ValueReader} {path : Path} {start m : Mark} {fuel pos jumps : Nat}
  {stop jumps' : Nat}

theorem items_apart (h : ReadsApart read) {index : Nat} {vs : List Value}
    (found : ps.items read path fuel index pos jumps = .ok (vs, stop, jumps')) :
    ItemsApart vs := by
  induction fuel generalizing index pos jumps vs with
  | zero => cases found
  | succ fuel ih =>
    rw [items] at found
    split at found
    · cases found
    · cases found
      trivial
    · obtain ⟨⟨v, pos, jumps⟩, first, found⟩ := bind_eq_ok.mp found
      obtain ⟨⟨vs, stop, jumps'⟩, rest, found⟩ := bind_eq_ok.mp found
      cases found
      exact ⟨h first, ih rest⟩

/-- Each key is compared with all keys before it. -/
theorem entries_apart (h : ReadsApart read) {before entries : List (Value × Value)}
    (apart : Apart before.reverse) (inside : EntriesApart before)
    (found : ps.entries read path start fuel before pos jumps = .ok (entries, stop, jumps')) :
    Apart entries ∧ EntriesApart entries := by
  induction fuel generalizing before pos jumps with
  | zero => cases found
  | succ fuel ih =>
    rw [Parts.entries] at found
    split at found
    · cases found
    · cases found
      refine ⟨apart, entriesApart_iff.mpr fun e he => ?_⟩
      exact entriesApart_iff.mp inside e (List.mem_reverse.mp he)
    · obtain ⟨⟨key, pos, jumps⟩, -, found⟩ := bind_eq_ok.mp found
      simp only at found
      split at found
      · cases found
      · next fresh =>
        obtain ⟨⟨value, pos, jumps⟩, second, found⟩ := bind_eq_ok.mp found
        refine ih ?_ (entriesApart_cons.mpr ⟨h second, inside⟩) found
        rw [List.reverse_cons]
        refine List.pairwise_append.mpr ⟨apart, List.pairwise_singleton _ _, ?_⟩
        intro e he f hf
        cases List.mem_singleton.mp hf
        exact Bool.eq_false_iff.mpr (List.find?_eq_none.mp fresh e (List.mem_reverse.mp he))

variable {inside : Option ValueReader} {part : Part} {v : Value}

theorem contentAt_apart (h : ∀ read ∈ inside, ReadsApart read) {tag : Option TagText}
    (found : ps.contentAt inside path tag part m pos jumps = .ok (v, stop, jumps')) :
    v.KeysApart := by
  unfold contentAt at found
  split at found
  · split at found
    · next scalar =>
      cases found
      exact keysApart_scalarValue scalar
    · cases found
  · split at found
    · cases found
    · obtain ⟨⟨vs, _, _⟩, items, found⟩ := bind_eq_ok.mp found
      cases found
      exact items_apart (h _ rfl) items
  · split at found
    · cases found
    · obtain ⟨⟨es, _, _⟩, entries, found⟩ := bind_eq_ok.mp found
      cases found
      have none : Apart [].reverse := List.Pairwise.nil
      exact entries_apart (h _ rfl) none trivial entries
  · cases found
    trivial
  all_goals cases found

theorem valueAt_apart (h : ∀ read ∈ inside, ReadsApart read)
    (found : ps.valueAt inside path part m pos jumps = .ok (v, stop, jumps')) : v.KeysApart := by
  unfold valueAt at found
  split at found
  · obtain ⟨⟨v, _, _⟩, content, found⟩ := bind_eq_ok.mp found
    cases found
    have apart := contentAt_apart h content
    exact apart
  · exact contentAt_apart h found

theorem node_apart (h : ∀ read ∈ inside, ReadsApart read) : ReadsApart (ps.node inside) := by
  intro path pos jumps v stop jumps' found
  unfold node at found
  split at found
  · cases found
  · split at found
    · cases found
    · split at found
      · cases found
      · obtain ⟨⟨v, _, _⟩, value, found⟩ := bind_eq_ok.mp found
        cases found
        exact valueAt_apart h value
  · exact valueAt_apart h found

/-- However deep collections may be nested. -/
theorem read_apart (ps : Parts) (depth : Nat) : ReadsApart (ps.read depth) := by
  induction depth with
  | zero => exact node_apart fun _ h => absurd h (by simp)
  | succ depth ih =>
    refine node_apart fun read h => ?_
    cases h
    exact ih

end Parts

theorem keysApart_value {d : Document} {v : Value} (h : d.value = .ok v) : v.KeysApart := by
  unfold Document.value at h
  obtain ⟨⟨v', _, _⟩, read, h⟩ := bind_eq_ok.mp h
  have apart := Parts.read_apart _ _ read
  simp only at h
  split at h
  · split at h
    · cases h
      exact apart
    · cases h
  · cases h

/-- No mapping of a parsed text has a key twice, at any depth. -/
theorem keysApart_valueOf {text : List Char} {v : Value} (h : valueOf text = .ok v) :
    v.KeysApart := by
  unfold valueOf at h
  split at h
  · cases h
  · exact keysApart_value h

end Frontmatter.Yaml
