/-
Frontmatter/Proofs/Document/Leftover.lean

The blocks that a pass leaves.

After a pass without an error, a block stands where a block stood before from which nothing
was decoded, and nowhere else (`run_block_iff`).  With the built-in registry these are the
blocks with a custom tag, also one that is spelled as a built-in tag, and the YAML blocks that
are null (`Block.IsSilent`).  TOML blocks are not among them: a table is never null, even if
all its values are.
-/
import Frontmatter.Document.Config
import Frontmatter.Proofs.Document.Pass
import Frontmatter.Proofs.Toml.Structure

namespace Frontmatter

variable {b : Block} {d : Data}

/-! ### Decoding nothing -/

namespace Registry

/-- Nothing is decoded from a block if its tag is not registered, or if it is null. -/
theorem decodeBlock_eq_none_iff {r : Registry} :
    (r.decodeBlock b).2 = .ok none ↔
      ∀ decoder, r.find? b.tag = some decoder → decoder b.value = .ok .null := by
  have decoding := r.decoding b
  generalize r.decodeBlock b = result at decoding
  cases decoding with
  | unregistered absent => simp only [absent, reduceCtorEq, false_implies, implies_true]
  | null found decoded => simp only [found, Option.some.injEq, forall_eq', decoded]
  | present found decoded present =>
    simp only [found, Option.some.injEq, forall_eq', decoded, Except.ok.injEq, reduceCtorEq,
      present]
  | refused found decoded =>
    simp only [found, Option.some.injEq, forall_eq', decoded, reduceCtorEq]

theorem find?_builtin_yaml : builtin.find? .yaml = some Yaml.decode := rfl

theorem find?_builtin_toml : builtin.find? .toml = some Toml.decode := rfl

theorem find?_builtin_custom (name : String) : builtin.find? (.custom name) = none := rfl

end Registry

/-- A block that the built-in decoders have nothing to say about: its tag is a custom one, or
it is YAML and null. -/
def Block.IsSilent (b : Block) : Prop :=
  (∃ name, b.tag = .custom name) ∨ b.tag = .yaml ∧ Yaml.decode b.value = .ok .null

theorem decodeBlock_builtin_eq_none_iff :
    (Registry.builtin.decodeBlock b).2 = .ok none ↔ b.IsSilent := by
  rw [Registry.decodeBlock_eq_none_iff]
  obtain ⟨tag, value, span⟩ := b
  cases tag with
  | yaml =>
    rw [Registry.find?_builtin_yaml]
    constructor
    · intro all
      exact .inr ⟨rfl, all Yaml.decode rfl⟩
    · rintro (⟨name, custom⟩ | ⟨-, null⟩) decoder found
      · cases custom
      · cases found
        exact null
  | toml =>
    rw [Registry.find?_builtin_toml]
    constructor
    · intro all
      exact absurd (all Toml.decode rfl) (Toml.decode_ne_null value)
    · rintro (⟨name, custom⟩ | ⟨yaml, -⟩)
      · cases custom
      · cases yaml
  | custom name =>
    rw [Registry.find?_builtin_custom]
    constructor
    · intro _
      exact .inl ⟨name, rfl⟩
    · intro _ decoder found
      cases found

namespace Transform

variable {t : Transform} {n : Node} {r : Root} {i : Nat}

/-! ### Passes without an error -/

/-- If the work on a node ends well, a block is in its place exactly if the node is this block
and nothing is decoded from it. -/
theorem replacement_eq_block_iff (h : t.Compiles n) :
    t.replacement n = .block b ↔ n = .block b ∧ (t.registry.decodeBlock b).2 = .ok none := by
  obtain ⟨o, h⟩ := h
  cases n with
  | fragment f => simp only [replacement_fragment, reduceCtorEq, false_and]
  | markdown m =>
    have kept : t.replacement (.markdown m) = .markdown m := rfl
    simp only [kept, reduceCtorEq, false_and]
  | block c =>
    have work := t.blockWork c
    rw [replacement, compileNode]
    rw [compileNode] at h
    generalize t.compileBlock c = result at h work
    cases work with
    | undecoded => cases h
    | unrendered => cases h
    | uncompiled => cases h
    | absent decoded =>
      refine ⟨fun same => ⟨same, ?_⟩, And.left⟩
      cases same
      rw [decoded]
    | made decoded =>
      constructor
      · intro same
        cases same
      · rintro ⟨same, absent⟩
        cases same
        rw [decoded] at absent
        cases absent

/-- A block from which something is decoded has become the fragment of it. -/
theorem replacement_of_decoded (h : t.Compiles (.block b))
    (decoded : (t.registry.decodeBlock b).2 = .ok (some d)) :
    ∃ f, t.replacement (.block b) = .fragment f ∧ t.renderer d b = .ok f.source := by
  obtain ⟨_ | f, h⟩ := h
  · -- the block would be left, and nothing would have been decoded from it
    have left := (replacement_eq_block_iff ⟨none, h⟩).mp (replacement_of_none h)
    rw [left.2] at decoded
    cases decoded
  · refine ⟨f, replacement_of_some h, ?_⟩
    obtain ⟨d', body, decoded', rendered, -⟩ := compileBlock_fragment h
    cases decoded.symm.trans decoded'
    exact rendered

theorem run_getElem? (ok : (t.run r).error = none) (i : Nat) :
    (t.run r).root.children[i]? = r.children[i]?.map t.replacement := by
  rw [run_root_of_compiles (run_error_eq_none_iff.mp ok), List.getElem?_map]

theorem run_block_iff (ok : (t.run r).error = none) :
    (t.run r).root.children[i]? = some (.block b) ↔
      r.children[i]? = some (.block b) ∧ (t.registry.decodeBlock b).2 = .ok none := by
  have all := run_error_eq_none_iff.mp ok
  rw [run_getElem? ok, Option.map_eq_some_iff]
  constructor
  · rintro ⟨n, here, same⟩
    obtain ⟨rfl, absent⟩ :=
      (replacement_eq_block_iff (all n (List.mem_of_getElem? here))).mp same
    exact ⟨here, absent⟩
  · rintro ⟨here, absent⟩
    have compiles := all _ (List.mem_of_getElem? here)
    exact ⟨_, here, (replacement_eq_block_iff compiles).mpr ⟨rfl, absent⟩⟩

theorem run_fragment_of_decoded (ok : (t.run r).error = none)
    (here : r.children[i]? = some (.block b))
    (decoded : (t.registry.decodeBlock b).2 = .ok (some d)) :
    ∃ f, (t.run r).root.children[i]? = some (.fragment f) ∧ t.renderer d b = .ok f.source := by
  have compiles := run_error_eq_none_iff.mp ok _ (List.mem_of_getElem? here)
  obtain ⟨f, made, rendered⟩ := replacement_of_decoded compiles decoded
  refine ⟨f, ?_, rendered⟩
  rw [run_getElem? ok, here, Option.map_some, made]

/-- What a pass leaves behind that reads YAML and TOML and ends without an error, whatever the
renderer.  A block stands exactly where the same block stood before, if its tag is a custom one,
however it is spelled, or if it is a YAML block that is null.  No TOML block is left.  A YAML
block that is anything but null, and every TOML block, has become the fragment that was
rendered from its data. -/
theorem run_leaves_block_iff {renderer : Renderer} {r : Root}
    (ok : ((ofRenderer renderer).run r).error = none) :
    (∀ (i : Nat) (b : Block),
      ((ofRenderer renderer).run r).root.children[i]? = some (.block b) ↔
        r.children[i]? = some (.block b) ∧
          ((∃ name, b.tag = .custom name) ∨ b.tag = .yaml ∧ Yaml.decode b.value = .ok .null)) ∧
    (∀ b, .block b ∈ ((ofRenderer renderer).run r).root.children → b.tag ≠ .toml) ∧
    (∀ (i : Nat) (b : Block) (d : Data), r.children[i]? = some (.block b) → b.tag = .yaml →
      Yaml.decode b.value = .ok d → d ≠ .null →
        ∃ f, ((ofRenderer renderer).run r).root.children[i]? = some (.fragment f) ∧
          renderer d b = .ok f.source) ∧
    ∀ (i : Nat) (b : Block), r.children[i]? = some (.block b) → b.tag = .toml →
      ∃ f d, ((ofRenderer renderer).run r).root.children[i]? = some (.fragment f) ∧
        Toml.decode b.value = .ok d ∧ renderer d b = .ok f.source := by
  have left : ∀ (i : Nat) (b : Block),
      ((ofRenderer renderer).run r).root.children[i]? = some (.block b) ↔
        r.children[i]? = some (.block b) ∧ b.IsSilent := by
    intro i b
    rw [run_block_iff ok]
    exact and_congr_right fun _ => decodeBlock_builtin_eq_none_iff
  refine ⟨left, ?_, ?_, ?_⟩
  · intro b hb toml
    obtain ⟨i, here⟩ := List.mem_iff_getElem?.mp hb
    rcases ((left i b).mp here).2 with ⟨name, custom⟩ | ⟨yaml, -⟩
    · cases toml.symm.trans custom
    · cases toml.symm.trans yaml
  · intro i b d here yaml decoded present
    have found : Registry.builtin.find? b.tag = some Yaml.decode := by
      rw [yaml]
      rfl
    have read := Registry.Decoding.present found decoded present
    exact run_fragment_of_decoded ok here (congrArg Prod.snd read.eq)
  · intro i b here toml
    have found : Registry.builtin.find? b.tag = some Toml.decode := by
      rw [toml]
      rfl
    rcases decoded : Toml.decode b.value with e | d
    · -- the pass would have failed at this block
      obtain ⟨o, compiles⟩ := run_error_eq_none_iff.mp ok _ (List.mem_of_getElem? here)
      have refused := Registry.Decoding.refused found decoded
      rw [compileNode, compileBlock, ofRenderer, refused.eq] at compiles
      cases compiles
    · have present : d ≠ .null := by
        rintro rfl
        exact Toml.decode_ne_null b.value decoded
      have read := Registry.Decoding.present found decoded present
      obtain ⟨f, made, rendered⟩ := run_fragment_of_decoded ok here (congrArg Prod.snd read.eq)
      exact ⟨f, d, made, rfl, rendered⟩

/-- A custom tag spelled `yaml` and a null stay; a zero and a table of nulls do not. -/
theorem run_leaves_custom_and_null :
    let r : Root := ⟨[.block ⟨.custom "yaml", "0", none⟩, .block ⟨.yaml, "~", none⟩,
      .block ⟨.yaml, "0", none⟩, .block ⟨.toml, "a = nan", none⟩], none⟩
    let left := (ofRenderer fun _ _ => .ok "").run r
    left.error = none ∧
      left.root.children[0]? = some (.block ⟨.custom "yaml", "0", none⟩) ∧
      left.root.children[1]? = some (.block ⟨.yaml, "~", none⟩) ∧
      (∃ f, left.root.children[2]? = some (.fragment f)) ∧
      ∃ f, left.root.children[3]? = some (.fragment f) := by
  intro r left
  have ok : left.error = none := by decide +kernel
  have facts := @run_leaves_block_iff (fun _ _ => .ok "") r ok
  rw [show (ofRenderer fun _ _ => .ok "").run r = left from rfl] at facts
  -- from here on, the pass need not be run again
  clear_value left
  obtain ⟨blocks, -, values, tables⟩ := facts
  have null : (Yaml.decode "~").toOption.map Data.isNull = some true := by decide +kernel
  have zero : (Yaml.decode "0").toOption.map Data.isNull = some false := by decide +kernel
  refine ⟨ok, (blocks 0 _).mpr ⟨rfl, .inl ⟨"yaml", rfl⟩⟩, (blocks 1 _).mpr ⟨rfl, .inr ⟨rfl, ?_⟩⟩,
    ?_, ?_⟩
  · rcases decoded : Yaml.decode "~" with e | d
    · rw [decoded] at null
      cases null
    · rw [decoded] at null
      cases d with
      | null => rfl
      | _ => cases null
  · rcases decoded : Yaml.decode "0" with e | d
    · rw [decoded] at zero
      cases zero
    · have present : d ≠ .null := by
        rintro rfl
        rw [decoded] at zero
        cases zero
      obtain ⟨f, made, -⟩ := values 2 _ d rfl rfl decoded present
      exact ⟨f, made⟩
  · obtain ⟨f, d, made, -⟩ := tables 3 _ rfl rfl
    exact ⟨f, made⟩

end Transform
end Frontmatter
