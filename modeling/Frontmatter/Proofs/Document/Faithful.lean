/-
Frontmatter/Proofs/Document/Faithful.lean

Fragments whose program is the program of their source.

A fragment keeps the source that was rendered for it and the program that the
source was compiled to, side by side.  It is *faithful* if the two belong
together: reading the source again comes to its end without any problem, and the
program is what is read and nothing else.

`fragments_faithful` says that no document has any other fragments, however it
came about: it may have gone through passes of any transforms, with errors and
without, and between them through stages that move, drop and copy its children
and put in others.  One step is `Root.Step`; that it keeps every fragment faithful is
`Root.Faithful.step`.
-/
import Frontmatter.Document.Pipeline
import Frontmatter.Proofs.Document.Pass
import Mathlib.Logic.Relation

namespace Frontmatter

/-! ### Reading without a problem -/

/-- Reading the source comes to its end and gives the body.  No problem is noted at
the end, and so none was noted on the way, since no step forgets one. -/
def Esm.Fragment.ReadsClean (source : String) (body : List Esm.Item) : Prop :=
  let cs := Esm.withoutMark source.toList
  ∃ c, (Esm.Read.items (Esm.Grammar.levels (cs.length + 2)) {}).run (Esm.Cursor.ofSource cs)
      = .done body c ∧ (Esm.Parse.settle c).noted = none

theorem Esm.Fragment.readsClean_of_parse {source : String} {body : List Esm.Item}
    (h : Esm.Fragment.parse source = .ok body) : Esm.Fragment.ReadsClean source body := by
  rw [parse, parseChars] at h
  split at h
  · cases h
  · next body' c reading =>
    split at h
    · cases h
    · next clean =>
      cases h
      exact ⟨c, reading, clean⟩

theorem readsClean_of_compileSource {source : String} {body : List Esm.Item}
    (h : compileSource source = .ok body) : Esm.Fragment.ReadsClean source body := by
  rw [compileSource] at h
  split at h
  · next parsed =>
    cases h
    exact Esm.Fragment.readsClean_of_parse parsed
  · cases h

/-! ### Faithful fragments -/

/-- The source and the program of the fragment belong together. -/
structure Fragment.Faithful (f : Fragment) : Prop where
  compiled : compileSource f.source = .ok f.program.body
  program : f.program = Program.ofBody f.program.body
  clean : Esm.Fragment.ReadsClean f.source f.program.body

/-- A fragment that is made of a block is faithful. -/
theorem Transform.faithful_of_compileBlock {t : Transform} {b : Block} {f : Fragment}
    (h : (t.compileBlock b).2 = .ok (some f)) : f.Faithful := by
  obtain ⟨data, body, -, -, compiled, program, -⟩ := compileBlock_fragment h
  have same : f.program.body = body := by
    rw [program]
    rfl
  rw [← same] at compiled program
  exact ⟨compiled, program, readsClean_of_compileSource compiled⟩

/-- No Markdown is a fragment. -/
theorem Node.ofMarkdown_ne_fragment (n : Markdown.Node) (f : Fragment) :
    Node.ofMarkdown n ≠ .fragment f := by
  intro h
  rw [Node.ofMarkdown.eq_def] at h
  split at h
  · cases h
  · cases h
  · cases h

namespace Root

variable {r r' : Root} {f : Fragment}

theorem mem_fragments : f ∈ r.fragments ↔ .fragment f ∈ r.children := by
  rw [fragments, List.mem_filterMap]
  constructor
  · rintro ⟨c, hc, h⟩
    cases c with
    | block b => cases h
    | fragment g =>
      cases h
      exact hc
    | markdown m => cases h
  · intro h
    exact ⟨.fragment f, h, rfl⟩

/-- A document that is lifted from Markdown has no fragments yet. -/
theorem fragments_ofMarkdown (n : Markdown.Node) : (Root.ofMarkdown n).fragments = [] := by
  rw [List.eq_nil_iff_forall_not_mem]
  intro f h
  rw [mem_fragments, ofMarkdown.eq_def] at h
  split at h
  · obtain ⟨m, -, hm⟩ := List.mem_map.mp h
    exact Node.ofMarkdown_ne_fragment m f hm
  · exact Node.ofMarkdown_ne_fragment _ f (List.mem_singleton.mp h).symm

theorem fragments_of_parse {o : Markdown.Options} {text : String} (h : Root.parse o text = .ok r) :
    r.fragments = [] := by
  rw [Root.parse] at h
  rcases parsed : parseMarkdown o text with e | n
  · rw [parsed] at h
    cases h
  · rw [parsed] at h
    cases h
    exact fragments_ofMarkdown n

/-- A fragment after a pass was there before, or the pass has made it of a block. -/
theorem mem_fragments_run {t : Transform} (h : f ∈ (t.run r).root.fragments) :
    f ∈ r.fragments ∨ ∃ b, (t.compileBlock b).2 = .ok (some f) := by
  rw [mem_fragments, Transform.run_root] at h
  obtain ⟨i, hi⟩ := List.mem_iff_getElem?.mp h
  rcases t.runChildren_getElem? r.children i with kept | replaced
  · rw [kept] at hi
    exact .inl (mem_fragments.mpr (List.mem_of_getElem? hi))
  · rw [replaced, Option.map_eq_some_iff] at hi
    obtain ⟨c, hc, hf⟩ := hi
    rcases Transform.replacement_eq_fragment hf with rfl | ⟨b, rfl, made⟩
    · exact .inl (mem_fragments.mpr (List.mem_of_getElem? hc))
    · exact .inr ⟨b, made⟩

/-- Every fragment of the document is faithful. -/
def Faithful (r : Root) : Prop := ∀ f ∈ r.fragments, f.Faithful

/-! ### One step and many -/

/-- What may happen to a document.  A pass of some transform goes over it, and ends
with an error or without one; or its children are moved, dropped and copied, and
others are put in that are no fragments.  Of the second sort is every change that
makes no fragment of its own. -/
inductive Step : Root → Root → Prop
  | pass (t : Transform) (r : Root) : Step r (t.run r).root
  | edit {r r' : Root} (kept : r'.fragments ⊆ r.fragments) : Step r r'

theorem Faithful.step (h : r.Faithful) (step : Step r r') : r'.Faithful := by
  intro f hf
  cases step with
  | pass t =>
    rcases mem_fragments_run hf with old | ⟨b, made⟩
    · exact h f old
    · exact Transform.faithful_of_compileBlock made
  | edit kept => exact h f (kept hf)

theorem Faithful.steps (h : r.Faithful) (steps : Relation.ReflTransGen Step r r') :
    r'.Faithful := by
  induction steps with
  | refl => exact h
  | tail _ step ih => exact ih.step step

theorem faithful_of_fragments_eq_nil (h : r.fragments = []) : r.Faithful := by
  intro f hf
  rw [h] at hf
  cases hf

end Root

/-! ### Stages of a pipeline -/

/-- Where the stage ends well, what it has done is one step. -/
def TreeStage.Steps (stage : TreeStage) : Prop := ∀ r r', stage r = .ok r' → Root.Step r r'

/-- A transform is such a stage. -/
theorem Transform.steps_stage (t : Transform) : TreeStage.Steps t.stage := by
  intro r r' h
  rw [stage] at h
  split at h
  · cases h
    exact .pass t r
  · cases h

theorem Pipeline.steps_runTree {stages : List TreeStage} {r r' : Root}
    (all : ∀ stage ∈ stages, TreeStage.Steps stage) (h : (runTree stages r).2 = .ok r') :
    Relation.ReflTransGen Root.Step r r' := by
  induction stages generalizing r with
  | nil =>
    cases h
    exact .refl
  | cons stage stages ih =>
    obtain ⟨first, rest⟩ := List.forall_mem_cons.mp all
    rw [runTree] at h
    rcases result : stage r with e | next
    · rw [result] at h
      cases h
    · rw [result] at h
      exact .head (first r next result) (ih rest h)

/-- A document that comes out of a pipeline has been read, and has gone through steps
since. -/
theorem Pipeline.steps_parse {p : Pipeline} {input : String} {r : Root}
    (all : ∀ stage ∈ p.treeStages, TreeStage.Steps stage) (h : p.parse input = .ok r) :
    ∃ r₀, r₀.fragments = [] ∧ Relation.ReflTransGen Root.Step r₀ r := by
  rw [parse, run] at h
  rcases parsed : Root.parse p.options (runText p.textStages input).2 with e | r₀
  · simp only [parsed] at h
    cases h
  · simp only [parsed] at h
    exact ⟨r₀, Root.fragments_of_parse parsed, steps_runTree all h⟩

/-! ### Every document -/

/-- Whatever steps a document without fragments goes through, in the end every
fragment is faithful.  Without fragments is what is lifted from Markdown, and what
is read from a text; so the documents that come out of pipelines are among them, if
the stages of the pipeline are transforms or do what a step may do. -/
theorem fragments_faithful :
    (∀ r₀ r : Root, r₀.fragments = [] → Relation.ReflTransGen Root.Step r₀ r → r.Faithful) ∧
    (∀ n, (Root.ofMarkdown n).fragments = []) ∧
    (∀ o text r, Root.parse o text = .ok r → r.fragments = []) ∧
    (∀ t : Transform, TreeStage.Steps t.stage) ∧
    ∀ (p : Pipeline) input r, (∀ stage ∈ p.treeStages, TreeStage.Steps stage) →
      p.parse input = .ok r → r.Faithful := by
  have faithful : ∀ r₀ r : Root, r₀.fragments = [] → Relation.ReflTransGen Root.Step r₀ r →
      r.Faithful :=
    fun r₀ r empty steps => (Root.faithful_of_fragments_eq_nil empty).steps steps
  refine ⟨faithful, Root.fragments_ofMarkdown, fun o text r => Root.fragments_of_parse,
    Transform.steps_stage, fun p input r all parsed => ?_⟩
  obtain ⟨r₀, empty, steps⟩ := Pipeline.steps_parse all parsed
  exact faithful r₀ r empty steps

/-- The fragment of a pass that fails afterwards is faithful, and so is its copy. -/
theorem fragments_faithful_after_error :
    let r₀ : Root := ⟨[.block ⟨.yaml, "a", none⟩, .block ⟨.yaml, "?", none⟩], none⟩
    let left := (Transform.echo .yaml).run r₀
    let copied : Root := ⟨left.root.children.reverse ++ left.root.children, none⟩
    r₀.fragments = [] ∧ left.error = some (.decode "yaml" "a question" none) ∧
      Relation.ReflTransGen Root.Step r₀ copied ∧
      (copied.fragments.map (·.source)) = ["a", "a"] ∧ ∀ f ∈ copied.fragments, f.Faithful := by
  intro r₀ left copied
  have edited : Root.Step left.root copied := by
    refine .edit fun f hf => Root.mem_fragments.mpr ?_
    rcases List.mem_append.mp (Root.mem_fragments.mp hf) with h | h
    · exact List.mem_reverse.mp h
    · exact h
  have steps : Relation.ReflTransGen Root.Step r₀ copied :=
    .tail (.single (.pass (Transform.echo .yaml) r₀)) edited
  exact ⟨rfl, rfl, steps, rfl, fragments_faithful.1 r₀ copied rfl steps⟩

end Frontmatter
