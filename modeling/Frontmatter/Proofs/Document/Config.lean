/-
Frontmatter/Proofs/Document/Config.lean

Configurations are read back.

The text of a configuration is the literal of a record with one or two fields (`text_eq`).  What
is read from an object does not depend on where these fields stand, or on what stands between
them: `Fills` says how the fields of an object fill the two places, field by field, and the
reader follows it (`reads_fields`).  A permutation of the known fields with any others fills the
places in the same way (`fills_of_perm`).
-/
import Frontmatter.Document.Config
import Frontmatter.Proofs.Json.Skip
import Mathlib.Data.List.Permutation

namespace Frontmatter.Config

open Json Json.Cursor

variable {c : Cursor} {rest : List Char}

/-! ### The fields of a configuration -/

/-- The fields that a configuration is written with. -/
def fields (config : Config) : List (String × Data) :=
  ("renderer", .str config.renderer.name) ::
    config.exportName.toList.map fun name => ("exportName", .str name)

/-- A field that a configuration has a place for. -/
def isKnown (f : String × Data) : Bool := f.1 = "renderer" || f.1 = "exportName"

/-- A configuration is written as the literal of its fields. -/
theorem textChars_eq (config : Config) :
    config.textChars = (Data.record config.fields).literalChars := by
  have renderer : "\x7b\"renderer\":".toList = '{' :: (quote "renderer" ++ [':']) := rfl
  have exportName : ",\"exportName\":".toList = ',' :: (quote "exportName" ++ [':']) := rfl
  obtain ⟨kind, name⟩ := config
  cases name with
  | none =>
    have chars : textChars ⟨kind, none⟩
        = "\x7b\"renderer\":".toList ++ quote kind.name ++ [] ++ ['}'] := rfl
    rw [chars, renderer]
    simp [fields, Data.fieldsChars, Data.literalChars]
  | some name =>
    have chars : textChars ⟨kind, some name⟩ = "\x7b\"renderer\":".toList ++ quote kind.name ++
        (",\"exportName\":".toList ++ quote name) ++ ['}'] := rfl
    rw [chars, renderer, exportName]
    simp [fields, Data.fieldsChars, Data.literalChars]

theorem text_eq (config : Config) : config.text = (Data.record config.fields).literal :=
  congrArg String.ofList config.textChars_eq

/-! ### The parts of an object -/

theorem kindNamed_name (kind : RendererKind) (c : Cursor) : kindNamed kind.name c = .ok kind := by
  cases kind <;> rfl

theorem passes_colon (h : c.rest = ':' :: rest) : Passes rest (colon c) := by
  simp only [colon, skipSpace_of_rest h (by decide), peek_of_rest h, if_true]
  exact passes_ok (rest_skip h)

theorem reads_kind {kind : RendererKind} (h : c.rest = quote kind.name ++ rest) :
    Reads kind rest (readKind c) := by
  simp only [readKind, skipSpace_of_rest h (by decide), peek_of_rest h]
  refine (reads_string kind.name h).bind fun c left => ?_
  simp only [kindNamed_name]
  exact reads_ok kind left

theorem reads_name {name : String} (h : c.rest = quote name ++ rest) :
    Reads (some name) rest (readName c) := by
  simp only [readName, skipSpace_of_rest h (by decide), peek_of_rest h]
  refine (reads_string name h).bind fun c left => ?_
  exact reads_ok (some name) left

theorem reads_end (first : Bool) (h : c.rest = '}' :: rest) :
    Reads none rest (readKey first c) := by
  simp only [readKey, skipSpace_of_rest h (by decide), peek_of_rest h, if_true]
  exact reads_ok none (rest_skip h)

/-- The key of the next field is read, behind a comma unless it is the first one. -/
theorem reads_key {first : Bool} {k : String} {d : Data} {fs : List (String × Data)}
    (h : c.rest = Data.fieldsLeft first ((k, d) :: fs) ++ '}' :: rest) :
    Reads (some k) (':' :: (d.literalChars ++ (Data.fieldsLeft false fs ++ '}' :: rest)))
      (readKey first c) := by
  rw [Data.fieldsLeft, Data.fieldsChars_cons, List.append_assoc, List.append_assoc,
    List.cons_append, List.append_assoc] at h
  cases first with
  | true =>
    rw [if_pos rfl, List.nil_append] at h
    simp only [readKey, skipSpace_of_rest h (by decide), peek_of_rest h, if_true]
    refine (reads_string k h).bind fun c left => ?_
    exact reads_ok (some k) left
  | false =>
    rw [if_neg Bool.false_ne_true, List.singleton_append] at h
    have key := rest_skip h
    simp only [readKey, skipSpace_of_rest h (by decide), peek_of_rest h,
      skipSpace_of_rest key (by decide), peek_of_rest key]
    refine (reads_string k key).bind fun c left => ?_
    exact reads_ok (some k) left

/-! ### Filling the places -/

/-- The fields, in their order, fill the places that are still empty, and make a configuration.
The values of unknown fields are of no account. -/
inductive Fills : Option RendererKind → Option (Option String) → List (String × Data) → Config →
    Prop where
  | done (kind : Option RendererKind) (name : Option (Option String)) :
      Fills kind name [] ⟨kind.getD .staticProps, name.getD none⟩
  | renderer {kind : RendererKind} {name : Option (Option String)} {fs : List (String × Data)}
      {config : Config} (rest : Fills (some kind) name fs config) :
      Fills none name (("renderer", .str kind.name) :: fs) config
  | exportName {kind : Option RendererKind} {name : String} {fs : List (String × Data)}
      {config : Config} (rest : Fills kind (some (some name)) fs config) :
      Fills kind none (("exportName", .str name) :: fs) config
  | unknown {kind : Option RendererKind} {name : Option (Option String)} {f : String × Data}
      {fs : List (String × Data)} {config : Config} (stranger : isKnown f = false)
      (rest : Fills kind name fs config) : Fills kind name (f :: fs) config

theorem length_fieldsLeft_lt {first : Bool} {f : String × Data} {fs : List (String × Data)}
    {fuel : Nat} (enough : (Data.fieldsLeft first (f :: fs)).length < fuel + 1) :
    (Data.fieldsLeft false fs).length < fuel := by
  rw [Data.fieldsLeft, Data.fieldsChars_cons, List.length_append, List.length_append,
    List.length_cons, List.length_append] at enough
  omega

/-- An object is read field by field, as its fields fill the places. -/
theorem reads_fields {kind : Option RendererKind} {name : Option (Option String)}
    {fs : List (String × Data)} {config : Config} (filled : Fills kind name fs config) :
    ∀ {fuel : Nat} {first : Bool} {c : Cursor}, (Data.fieldsLeft first fs).length < fuel →
      c.rest = Data.fieldsLeft first fs ++ '}' :: rest →
      Reads config rest (readFields fuel first kind name c) := by
  induction filled with
  | done kind name =>
    intro fuel first c enough h
    obtain ⟨fuel, rfl⟩ : ∃ n, fuel = n + 1 := ⟨fuel - 1, by omega⟩
    rw [readFields]
    refine (reads_end first h).bind fun c left => ?_
    exact reads_ok _ left
  | @renderer kind name fs config _ ih =>
    intro fuel first c enough h
    obtain ⟨fuel, rfl⟩ : ∃ n, fuel = n + 1 := ⟨fuel - 1, by omega⟩
    have enough := length_fieldsLeft_lt enough
    rw [readFields]
    refine (reads_key h).bind fun c left => ?_
    simp only [Option.isSome_none, Bool.false_eq_true, if_false, if_true]
    refine (passes_colon left).bind fun c left => ?_
    refine (reads_kind left).bind fun c left => ?_
    exact ih enough left
  | @exportName kind name fs config _ ih =>
    intro fuel first c enough h
    obtain ⟨fuel, rfl⟩ : ∃ n, fuel = n + 1 := ⟨fuel - 1, by omega⟩
    have enough := length_fieldsLeft_lt enough
    have other : "exportName" ≠ "renderer" := by decide
    rw [readFields]
    refine (reads_key h).bind fun c left => ?_
    simp only [other, Option.isSome_none, Bool.false_eq_true, if_false, if_true]
    refine (passes_colon left).bind fun c left => ?_
    refine (reads_name left).bind fun c left => ?_
    exact ih enough left
  | @unknown kind name f fs config stranger _ ih =>
    intro fuel first c enough h
    obtain ⟨fuel, rfl⟩ : ∃ n, fuel = n + 1 := ⟨fuel - 1, by omega⟩
    have enough := length_fieldsLeft_lt enough
    obtain ⟨noRenderer, noName⟩ : f.1 ≠ "renderer" ∧ f.1 ≠ "exportName" := by
      simpa [isKnown] using stranger
    rw [readFields]
    refine (reads_key h).bind fun c left => ?_
    simp only [noRenderer, noName, if_false]
    -- the value is passed over as a whole, since a comma or the brace ends it
    refine (passes_colon left).bind fun c left => ?_
    refine (passes_skipValue (delimited_fieldsLeft fs rest) left).bind fun c left => ?_
    exact ih enough left

/-! ### Fields in any order -/

/-- Only the known fields fill the places. -/
theorem fills_of_filter {kind : Option RendererKind} {name : Option (Option String)}
    {fs : List (String × Data)} {config : Config} (h : Fills kind name (fs.filter isKnown) config) :
    Fills kind name fs config := by
  induction fs generalizing kind name with
  | nil => exact h
  | cons f fs ih =>
    -- a known field also heads the known ones, so how it fills its place can be read off there
    cases known : isKnown f with
    | false =>
      rw [List.filter_cons_of_neg (by simp [known])] at h
      exact .unknown known (ih h)
    | true =>
      rw [List.filter_cons_of_pos known] at h
      cases h with
      | renderer filled => exact .renderer (ih filled)
      | exportName filled => exact .exportName (ih filled)
      | unknown stranger filled =>
        rw [known] at stranger
        cases stranger

theorem fills_of_perm_fields {config : Config} {fs : List (String × Data)}
    (h : fs.Perm config.fields) : Fills none none fs config := by
  obtain ⟨kind, name⟩ := config
  cases name with
  | none =>
    obtain rfl := List.perm_singleton.mp h
    exact .renderer (.done _ _)
  | some name =>
    rcases List.perm_pair.mp h with rfl | rfl
    · exact .renderer (.exportName (.done _ _))
    · exact .exportName (.renderer (.done _ _))

theorem filter_isKnown_fields (config : Config) : config.fields.filter isKnown = config.fields := by
  rw [List.filter_eq_self]
  obtain ⟨kind, name⟩ := config
  cases name <;> simp [fields, isKnown]

/-- The fields of a configuration fill the places in any order, with any others between them. -/
theorem fills_of_perm {config : Config} {extra fs : List (String × Data)}
    (unknown : ∀ f ∈ extra, f.1 ≠ "renderer" ∧ f.1 ≠ "exportName")
    (order : fs.Perm (config.fields ++ extra)) : Fills none none fs config := by
  have others : extra.filter isKnown = [] := by
    rw [List.filter_eq_nil_iff]
    intro f hf
    simp [isKnown, unknown f hf]
  have known : (fs.filter isKnown).Perm config.fields := by
    have := order.filter isKnown
    rwa [List.filter_append, others, List.append_nil, filter_isKnown_fields] at this
  exact fills_of_filter (fills_of_perm_fields known)

/-! ### Whole texts -/

/-- A record whose fields fill the places is read as the configuration that they make. -/
theorem parse_record {fs : List (String × Data)} {config : Config}
    (filled : Fills none none fs config) : parse (Data.record fs).literal = .ok config := by
  have opening : (Cursor.start (Data.record fs).literal.toList).rest
      = '{' :: (Data.fieldsLeft true fs ++ '}' :: []) := by
    rw [Data.literal, String.toList_ofList, Data.fieldsLeft_true]
    rfl
  have behind := rest_skip opening
  have enough : (Data.fieldsLeft true fs).length
      < (Cursor.start (Data.record fs).literal.toList).rest.length + 1 := by
    simp only [opening, List.length_cons, List.length_append]
    omega
  obtain ⟨c, read, left⟩ :
      Reads config [] (readAt (Cursor.start (Data.record fs).literal.toList)) := by
    simp only [readAt, skipSpace_of_rest opening (by decide), peek_of_rest opening]
    exact reads_fields filled enough behind
  have blank : c.skipSpace = c := skipWhile_of_head (by rw [left]; exact nofun)
  have parsed : parse (Data.record fs).literal
      = if c.skipSpace.rest = [] then .ok config else c.skipSpace.failAtNext .moreText := by
    rw [parse, read]
    rfl
  rw [parsed, blank, if_pos left]

/-- A stored configuration is read back, wherever its fields stand and whatever other fields
stand between them; so its transform does the same to every document. -/
theorem parse_text_any_order (config : Config) (extra fs : List (String × Data))
    (unknown : ∀ f ∈ extra, f.1 ≠ "renderer" ∧ f.1 ≠ "exportName")
    (order : fs.Perm (config.fields ++ extra)) :
    config.text = (Data.record config.fields).literal ∧
    ∀ text ∈ [config.text, (Data.record fs).literal],
      parse text = .ok config ∧
      ∀ r : Root, (parse text).map (fun read => read.transform.run r)
        = .ok (config.transform.run r) := by
  have plain : parse config.text = .ok config := by
    rw [text_eq]
    exact parse_record (fills_of_perm_fields (List.Perm.refl _))
  have scattered : parse (Data.record fs).literal = .ok config :=
    parse_record (fills_of_perm unknown order)
  refine ⟨text_eq config, fun text member => ?_⟩
  have read : parse text = .ok config := by
    rcases List.mem_pair.mp member with rfl | rfl
    · exact plain
    · exact scattered
  refine ⟨read, fun r => ?_⟩
  rw [read]
  rfl

/-- The name comes first, with characters that are escaped, and then a field whose key differs
from a known one in its first letter, and whose value has a record with that known key. -/
theorem parse_text_any_order_nested :
    parse ("\x7b\"exportName\":\"a\\\"\\n\\u0001\"," ++
        "\"Renderer\":[\x7b\"renderer\":null\x7d,-3,[]],\"renderer\":\"export\"\x7d")
      = .ok ⟨.constant, some "a\"\n\x01"⟩ := by
  have literal : (Data.record [("exportName", .str "a\"\n\x01"),
      ("Renderer", .list [.record [("renderer", .null)], .num (.whole (-3)), .list []]),
      ("renderer", .str "export")]).literal
        = "\x7b\"exportName\":\"a\\\"\\n\\u0001\"," ++
        "\"Renderer\":[\x7b\"renderer\":null\x7d,-3,[]],\"renderer\":\"export\"\x7d" := by
    decide +kernel
  have order : ∀ f g h : String × Data, ([f, g] ++ [h]).Perm ([h] ++ [f, g]) := fun _ _ _ =>
    List.perm_append_comm
  rw [← literal]
  refine ((parse_text_any_order ⟨.constant, some "a\"\n\x01"⟩ [_] _ ?_ (order _ _ _)).2 _
    (List.mem_pair.mpr (.inr rfl))).1
  simp

end Frontmatter.Config
