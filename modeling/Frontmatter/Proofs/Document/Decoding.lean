/-
Frontmatter/Proofs/Document/Decoding.lean

What the built-in registry makes of a block.

The data that it decodes have distinct keys in every record
(`keysDistinct_of_decodeBlock`).

An error is located in the document.  A decoder counts lines and columns in the block
alone, and the registry shifts the lines to where the block begins; the theorem
`toml_error_located` says that this is the location of the very character of the document
that the decoder of TOML blocks stopped at.
-/
import Frontmatter.Document.Config
import Frontmatter.Proofs.Data.Fields
import Frontmatter.Proofs.Toml.Forward
import Frontmatter.Proofs.Yaml.Compose

/-! ### Decoded data -/

namespace Frontmatter

open Data

namespace Yaml

mutual

theorem keysDistinct_toData : ∀ (v : Value) {d : Data}, v.toData = .ok d → d.KeysDistinct
  | .null, _, h | .bool _, _, h | .int _, _, h | .str _, _, h | .real (.finite _), _, h
  | .real (.infinite _), _, h | .real .notANumber, _, h => by
    cases h
    trivial
  | .list items, _, h => by
    obtain ⟨ds, hds, h⟩ := bind_eq_ok.mp h
    cases h
    exact itemsDistinct_itemsData items hds
  | .map entries, _, h => by
    obtain ⟨fields, hfields, h⟩ := bind_eq_ok.mp h
    cases h
    exact keysDistinct_ofFields (fieldsDistinct_entriesData entries hfields)
  | .tagged tag v, _, h => by
    obtain ⟨d, hd, h⟩ := bind_eq_ok.mp h
    cases h
    exact ⟨List.nodup_singleton _, keysDistinct_toData v hd, trivial⟩

theorem itemsDistinct_itemsData : ∀ (items : List Value) {ds : List Data},
    itemsData items = .ok ds → ItemsDistinct ds
  | [], _, h => by
    cases h
    trivial
  | v :: items, _, h => by
    obtain ⟨d, hd, h⟩ := bind_eq_ok.mp h
    obtain ⟨ds, hds, h⟩ := bind_eq_ok.mp h
    cases h
    exact ⟨keysDistinct_toData v hd, itemsDistinct_itemsData items hds⟩

theorem fieldsDistinct_entriesData : ∀ (entries : List (Value × Value))
    {fields : List (String × Data)}, entriesData entries = .ok fields → FieldsDistinct fields
  | [], _, h => by
    cases h
    trivial
  | (k, v) :: entries, _, h => by
    obtain ⟨s, -, h⟩ := bind_eq_ok.mp h
    obtain ⟨d, hd, h⟩ := bind_eq_ok.mp h
    obtain ⟨fields, hfields, h⟩ := bind_eq_ok.mp h
    cases h
    exact ⟨keysDistinct_toData v hd, fieldsDistinct_entriesData entries hfields⟩

end

theorem keysDistinct_decode {text : String} {d : Data} (h : decode text = .ok d) :
    d.KeysDistinct := by
  unfold decode at h
  split at h
  · cases h
  · split at h
    · next decoded =>
      cases h
      exact keysDistinct_toData _ decoded
    · cases h

end Yaml

namespace Toml

mutual

theorem keysDistinct_toData : ∀ v : Value, v.toData.KeysDistinct
  | .str _ | .int _ | .bool _ | .datetime _ | .float (.finite _) | .float (.infinite _)
  | .float .notANumber => trivial
  | .array items => itemsDistinct_itemsData items
  | .table fields => keysDistinct_ofFields (fieldsDistinct_fieldsData fields)

theorem itemsDistinct_itemsData : ∀ items : List Value, ItemsDistinct (itemsData items)
  | [] => trivial
  | v :: items => ⟨keysDistinct_toData v, itemsDistinct_itemsData items⟩

theorem fieldsDistinct_fieldsData : ∀ fields : List (String × Value),
    FieldsDistinct (fieldsData fields)
  | [] => trivial
  | (_, v) :: fields => ⟨keysDistinct_toData v, fieldsDistinct_fieldsData fields⟩

end

theorem keysDistinct_decode {text : String} {d : Data} (h : decode text = .ok d) :
    d.KeysDistinct := by
  unfold decode at h
  split at h
  · cases h
    exact keysDistinct_toData _
  · cases h

end Toml

/-- Whatever the built-in registry decodes has distinct keys. -/
theorem keysDistinct_of_decodeBlock {b : Block} {d : Data}
    (h : (Registry.builtin.decodeBlock b).2 = .ok (some d)) : d.KeysDistinct := by
  have result : ∀ {decoder : Decoder}, Registry.builtin.find? b.tag = some decoder →
      decoder b.value = .ok d := by
    intro decoder found
    rw [Registry.decodeBlock, found] at h
    simp only at h
    split at h
    · cases h
    · next decoded =>
      cases h
      exact decoded
    · cases h
  cases tag : b.tag with
  | yaml => exact Yaml.keysDistinct_decode (result (by rw [tag]; rfl))
  | toml => exact Toml.keysDistinct_decode (result (by rw [tag]; rfl))
  | custom name =>
    have none : Registry.builtin.find? (.custom name) = none := rfl
    rw [Registry.decodeBlock, tag, none] at h
    cases h

/-! ### Errors of TOML blocks -/

theorem Toml.decode_eq_error {value : String} {f : Toml.Failure}
    (failed : Toml.parse value.toList = .error f) :
    Toml.decode value = .error ⟨f.why.text, some (Location.ofOffset value f.offset)⟩ := by
  rw [Toml.decode, failed]

/-- An offset in a block, as an offset in the document: the location is shifted by the lines
before the block, and no column changes. -/
theorem ofOffset_shift {before fence value rest : String} {inside after : List Char}
    (oneLine : '\n' ∉ fence.toList) (split : value.toList = inside ++ after) :
    Location.ofOffset (before ++ fence ++ "\n" ++ value ++ rest)
        (byteLength before.toList + byteLength fence.toList + 1 + byteLength inside)
      = (Location.ofOffset value (byteLength inside)).shift (before.toList.count '\n' + 1) := by
  have newline : "\n".toList = ['\n'] := rfl
  have document : (before ++ fence ++ "\n" ++ value ++ rest).toList
      = (before.toList ++ fence.toList ++ '\n' :: inside) ++ (after ++ rest.toList) := by
    simp [newline, split]
  have bytes : byteLength before.toList + byteLength fence.toList + 1 + byteLength inside
      = byteLength (before.toList ++ fence.toList ++ '\n' :: inside) := by
    rw [byteLength_append, byteLength_append, byteLength_cons, show '\n'.utf8Size = 1 from rfl,
      Nat.add_assoc]
  -- the fence has no line end, so the lines before the block are those before the fence, and one
  rw [bytes, Location.ofOffset_append document, Location.ofOffset_append split,
    Location.after_append_newline, List.count_append, List.count_eq_zero.mpr oneLine,
    Nat.add_zero]

/-- Errors of TOML blocks point at the right character.  Let a document consist of any text,
the line of an opening fence, the value of a block and any text after it, and let a block
begin in that line of the document.  If the value is no TOML text, the decoder fails with the
location of some byte of the value, and the registry fails with the location of that byte in
the document. -/
theorem toml_error_located {before fence value rest : String} {span : Markdown.Span}
    {f : Toml.Failure} (oneLine : '\n' ∉ fence.toList)
    (line : span.start.line = before.toList.count '\n' + 1)
    (failed : Toml.parse value.toList = .error f) :
    Toml.decode value = .error ⟨f.why.text, some (Location.ofOffset value f.offset)⟩ ∧
      (Registry.builtin.decode (.block ⟨.toml, value, some span⟩)).2
        = .error (.decode "toml" f.why.text (some (Location.ofOffset
            (before ++ fence ++ "\n" ++ value ++ rest)
            (byteLength before.toList + byteLength fence.toList + 1 + f.offset)))) := by
  have decoded := Toml.decode_eq_error failed
  refine ⟨decoded, ?_⟩
  obtain ⟨inside, after, split, offset⟩ := Toml.exists_offset failed
  have found : Registry.builtin.find? .toml = some Toml.decode := rfl
  rw [Registry.decode, Registry.decodeBlock, found]
  simp only [decoded]
  rw [offset, ofOffset_shift oneLine split, line]
  rfl

/-- An error behind characters of several bytes, in the second line of a block whose fence
is the third line of the document. -/
theorem toml_error_located_in_fifth_line :
    (Registry.builtin.decode (.block
        ⟨.toml, "a = 1\n\"ü\" = ?", some ⟨⟨3, 1, 4⟩, ⟨6, 4, 26⟩⟩⟩)).2
      = .error (.decode "toml" "invalid string\nexpected `\"`, `'`"
          (some (Location.ofOffset "é\n\n+++\na = 1\n\"ü\" = ?\n+++" 21))) ∧
      Location.ofOffset "é\n\n+++\na = 1\n\"ü\" = ?\n+++" 21 = Location.inText 5 7 := by
  have failed : Toml.parse "a = 1\n\"ü\" = ?".toList
      = .error ⟨⟨some .string, [.literal "\"", .literal "'"], none⟩, 13⟩ := by
    have found : (match Toml.parse "a = 1\n\"ü\" = ?".toList with
      | .error f => decide (f = ⟨⟨some .string, [.literal "\"", .literal "'"], none⟩, 13⟩)
      | .ok _ => false) = true := by decide +kernel
    split at found
    · next h =>
      rw [h, of_decide_eq_true found]
    · cases found
  refine ⟨?_, by decide +kernel⟩
  exact (@toml_error_located "é\n\n" "+++" _ "\n+++" _ _ (by decide) rfl failed).2

end Frontmatter
