/-
Frontmatter/Proofs/Document/Refused.lean

Passes whose constant has a name that is refused.

The name of a constant is checked when a block is rendered, and at no time before: a transform
with a bad name is built, and its passes begin.  But no block gets beyond the rendering, so no
such pass changes its document (`run_root_of_refuses`).  What it comes to is decided by decoding
alone.  A block from which nothing is decoded is passed over, and the first other one ends the
pass, with a decode error or with the error about the name
(`run_of_refused_name`).
-/
import Frontmatter.Proofs.Document.Leftover
import Frontmatter.Proofs.Document.Renderer
import Frontmatter.Proofs.Document.Retry

namespace Frontmatter

variable {b : Block} {e : Error}

/-! ### Three ways of decoding -/

namespace Registry

variable {r : Registry}

/-- There is nothing in the block: it has no decoder, or it is null. -/
def IsAbsent (r : Registry) (b : Block) : Prop :=
  r.find? b.tag = none ∨ ∃ decoder, r.find? b.tag = some decoder ∧ decoder b.value = .ok .null

/-- The block has data other than null. -/
def IsPresent (r : Registry) (b : Block) : Prop :=
  ∃ decoder data, r.find? b.tag = some decoder ∧ decoder b.value = .ok data ∧ data ≠ .null

/-- The decoder of the block refuses it, and this is the error, with its place in the document. -/
def IsUndecodable (r : Registry) (b : Block) (e : Error) : Prop :=
  ∃ decoder failure, r.find? b.tag = some decoder ∧ decoder b.value = .error failure ∧
    e = .decode b.tag.name failure.message (placedLocation failure.location b.span)

theorem decodeBlock_eq_none_iff_isAbsent : (r.decodeBlock b).2 = .ok none ↔ r.IsAbsent b := by
  rw [decodeBlock_eq_none_iff, IsAbsent]
  rcases r.find? b.tag with _ | decoder
  · simp
  · simp

theorem exists_decodeBlock_iff_isPresent :
    (∃ data, (r.decodeBlock b).2 = .ok (some data)) ↔ r.IsPresent b := by
  constructor
  · rintro ⟨data, h⟩
    have decoding := r.decoding b
    generalize r.decodeBlock b = result at h decoding
    cases decoding with
    | unregistered => cases h
    | null => cases h
    | present found decoded present => exact ⟨_, _, found, decoded, present⟩
    | refused => cases h
  · rintro ⟨decoder, data, found, decoded, present⟩
    exact ⟨data, congrArg Prod.snd (Decoding.present found decoded present).eq⟩

theorem decodeBlock_eq_error_iff : (r.decodeBlock b).2 = .error e ↔ r.IsUndecodable b e := by
  constructor
  · exact decodeBlock_error
  · rintro ⟨decoder, failure, found, decoded, rfl⟩
    exact congrArg Prod.snd (Decoding.refused found decoded).eq

end Registry

namespace Transform

variable {t : Transform} {r : Root} {c : Node} {wanted : Error}

/-! ### A renderer that writes nothing -/

/-- The renderer refuses all data with the same error. -/
def Refuses (t : Transform) (wanted : Error) : Prop := ∀ data b, t.renderer data b = .error wanted

theorem compileBlock_of_refuses (h : t.Refuses wanted) (b : Block) :
    (t.compileBlock b).2 = match (t.registry.decodeBlock b).2 with
      | .error e => .error e
      | .ok none => .ok none
      | .ok (some _) => .error wanted := by
  rw [compileBlock]
  rcases t.registry.decodeBlock b with ⟨logs, e | _ | data⟩
  · rfl
  · rfl
  · simp only [h data b]

theorem compiles_block_iff_of_refuses (h : t.Refuses wanted) :
    t.Compiles (.block b) ↔ t.registry.IsAbsent b := by
  rw [Compiles, compileNode, compileBlock_of_refuses h, ← Registry.decodeBlock_eq_none_iff_isAbsent]
  rcases (t.registry.decodeBlock b).2 with e | _ | data
  · simp
  · simp
  · simp

theorem compileBlock_eq_error_iff_of_refuses (h : t.Refuses wanted) :
    (t.compileBlock b).2 = .error e ↔
      t.registry.IsUndecodable b e ∨ t.registry.IsPresent b ∧ e = wanted := by
  rw [compileBlock_of_refuses h, ← Registry.decodeBlock_eq_error_iff,
    ← Registry.exists_decodeBlock_iff_isPresent]
  rcases (t.registry.decodeBlock b).2 with e | _ | data
  · simp
  · simp
  · simp [eq_comm]

theorem replacement_of_refuses (h : t.Refuses wanted) (c : Node) : t.replacement c = c := by
  rcases result : (t.compileNode c).2 with e | _ | f
  · rw [replacement, result]
  · exact replacement_of_none result
  · cases c with
    | fragment g => cases result
    | markdown m => cases result
    | block b =>
      obtain ⟨data, body, -, rendered, -⟩ := compileBlock_fragment result
      cases (h data b).symm.trans rendered

/-- Such a pass leaves the document as it is. -/
theorem run_root_of_refuses (h : t.Refuses wanted) (r : Root) : (t.run r).root = r := by
  have kept : ∀ cs : List Node, cs.map t.replacement = cs := fun cs =>
    (List.map_congr_left fun c _ => replacement_of_refuses h c).trans (List.map_id' cs)
  rw [run_root]
  rcases t.runChildren_cases r.children with
    ⟨-, children, -⟩ | ⟨before, c, after, e, split, -, -, children, -⟩
  · rw [children, kept]
  · rw [children, kept, ← split]

theorem all_compile_iff_of_refuses (h : t.Refuses wanted) {cs : List Node} :
    (∀ c ∈ cs, t.Compiles c) ↔ ∀ b, .block b ∈ cs → t.registry.IsAbsent b := by
  constructor
  · intro all b hb
    exact (compiles_block_iff_of_refuses h).mp (all _ hb)
  · intro all c hc
    cases c with
    | block b => exact (compiles_block_iff_of_refuses h).mpr (all b hc)
    | fragment f => exact ⟨none, rfl⟩
    | markdown m => exact ⟨none, rfl⟩

theorem run_error_eq_some_iff_of_refuses (h : t.Refuses wanted) :
    (t.run r).error = some e ↔
      ∃ before b after, r.children = before ++ .block b :: after ∧
        (∀ d, .block d ∈ before → t.registry.IsAbsent d) ∧
        (t.registry.IsUndecodable b e ∨ t.registry.IsPresent b ∧ e = wanted) := by
  rw [run_error_eq_some_iff]
  constructor
  · rintro ⟨i, before, c, after, split, -, all, failed⟩
    cases c with
    | fragment f => cases failed
    | markdown m => cases failed
    | block b =>
      exact ⟨before, b, after, split, (all_compile_iff_of_refuses h).mp all,
        (compileBlock_eq_error_iff_of_refuses h).mp failed⟩
  · rintro ⟨before, b, after, split, absent, failed⟩
    exact ⟨before.length, before, .block b, after, split, rfl,
      (all_compile_iff_of_refuses h).mpr absent,
      (compileBlock_eq_error_iff_of_refuses h).mpr failed⟩

/-! ### A name that is refused -/

theorem refuses_constant {name : String} (refused : isExportName name = false)
    (registry : Registry) :
    Refuses ⟨registry, Renderer.constant name⟩
      (.render ("'" ++ name ++ "' is not a valid export name")) := by
  intro data b
  rcases rendered : Renderer.constant name data b with e | source
  · exact rendered.trans (congrArg Except.error (constant_eq_error rendered))
  · cases refused.symm.trans (constant_eq_ok rendered).1

/-- What a pass comes to that exports a constant under a name that is refused.  It leaves the
document as it is, whether it fails or not.  It ends without an error if and only if there is
nothing in any block.  Otherwise its error is that of the first block in which there is
something: if the block is refused by its decoder, the decode error, and if it has data, the
error that names the name. -/
theorem run_of_refused_name {name : String} (refused : isExportName name = false)
    (registry : Registry) (r : Root) :
    (run ⟨registry, Renderer.constant name⟩ r).root = r ∧
    ((run ⟨registry, Renderer.constant name⟩ r).error = none ↔
      ∀ b, .block b ∈ r.children → registry.IsAbsent b) ∧
    ∀ e, (run ⟨registry, Renderer.constant name⟩ r).error = some e ↔
      ∃ before b after, r.children = before ++ .block b :: after ∧
        (∀ d, .block d ∈ before → registry.IsAbsent d) ∧
        (registry.IsUndecodable b e ∨ registry.IsPresent b ∧
          e = .render ("'" ++ name ++ "' is not a valid export name")) := by
  have refuses := refuses_constant refused registry
  refine ⟨run_root_of_refuses refuses r, ?_, fun e => run_error_eq_some_iff_of_refuses refuses⟩
  rw [run_error_eq_none_iff]
  exact all_compile_iff_of_refuses refuses

/-- A word that is reserved.  The first block has no decoder, and the second one has data; the
third one, which its decoder would refuse, is never looked at. -/
theorem run_of_refused_name_delete :
    let r : Root := ⟨[.block ⟨.toml, "?", none⟩, .block ⟨.yaml, "a", none⟩,
      .block ⟨.yaml, "?", none⟩], none⟩
    let pass := run ⟨(echo .yaml).registry, Renderer.constant "delete"⟩ r
    isExportName "delete" = false ∧ pass.root = r ∧
      pass.error = some (.render "'delete' is not a valid export name") := by
  intro r pass
  have refused : isExportName "delete" = false := by decide
  obtain ⟨root, -, error⟩ := run_of_refused_name refused (echo .yaml).registry r
  refine ⟨refused, root, (error _).mpr ⟨[.block ⟨.toml, "?", none⟩], _, _, rfl, ?_, .inr ⟨?_, rfl⟩⟩⟩
  · intro d hd
    obtain rfl := Node.block.inj (List.mem_singleton.mp hd)
    exact .inl rfl
  · exact ⟨_, .str "a", rfl, rfl, nofun⟩

end Transform
end Frontmatter
