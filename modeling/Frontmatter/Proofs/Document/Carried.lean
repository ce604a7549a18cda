/-
Frontmatter/Proofs/Document/Carried.lean

What is carried along when a Markdown tree is lifted and passes go over it.

A child of the document *carries* a node of the tree if it is what the node may have
become (`Node.Carries`): the same Markdown, if the node is no metadata; the block with the
tag and the text of the metadata, or a fragment at its place.  Lifting starts this relation
(`carries_ofMarkdown`), what a pass does to one child keeps it (`Node.Carries.turns`), and so
does a whole pass, with an error or without one (`carries_run`).

`passes_keep_markdown` draws the conclusion for any number of passes of any transforms.
-/
import Frontmatter.Proofs.Document.Pass

namespace Frontmatter

/-- The tag and the text of a node that is metadata.  Metadata inside of other nodes does not
count. -/
def Markdown.Node.metadata? : Markdown.Node → Option (Frontmatter.Tag × String)
  | .mk (.yaml value) _ _ => some (.yaml, value)
  | .mk (.toml value) _ _ => some (.toml, value)
  | _ => none

/-- What a node of a Markdown tree may have become. -/
inductive Node.Carries : Markdown.Node → Node → Prop where
  | same {n : Markdown.Node} (plain : n.metadata? = none) : Carries n (.markdown n)
  | block {n : Markdown.Node} {tag : Tag} {value : String}
      (metadata : n.metadata? = some (tag, value)) : Carries n (.block ⟨tag, value, n.span⟩)
  | fragment {n : Markdown.Node} {tag : Tag} {value : String} {f : Fragment}
      (metadata : n.metadata? = some (tag, value)) (place : f.span = n.span) :
      Carries n (.fragment f)

variable {n : Markdown.Node} {c d : Node} {t : Transform} {r : Root}

/-! ### One child -/

/-- A lifted node carries the node it was lifted from. -/
theorem carries_ofMarkdown (n : Markdown.Node) : Node.Carries n (Node.ofMarkdown n) := by
  rw [Node.ofMarkdown.eq_def]
  split
  · exact .block rfl
  · exact .block rfl
  · next noYaml noToml =>
    apply Node.Carries.same
    rw [Markdown.Node.metadata?.eq_def]
    split
    · exact absurd rfl (noYaml _ _ _)
    · exact absurd rfl (noToml _ _ _)
    · rfl

namespace Node.Carries

/-- Whatever carries a node has the place of it. -/
theorem span (h : Carries n c) : c.span = n.span := by
  cases h with
  | same plain => rfl
  | block metadata => rfl
  | fragment metadata place => exact place

/-- What a pass turns the child into carries the node, too: the pass leaves the child, or makes
a fragment of the block at its place. -/
theorem turns (h : Carries n c) (turns : t.Turns c d) : Carries n d := by
  cases turns with
  | kept => exact h
  | replaced decoded rendered compiled program place =>
    cases h with
    | block metadata => exact .fragment metadata place

theorem markdown (h : Carries n c) (plain : n.metadata? = none) : c = .markdown n := by
  cases h with
  | same => rfl
  | block metadata => cases plain.symm.trans metadata
  | fragment metadata => cases plain.symm.trans metadata

theorem metadata {tag : Tag} {value : String} (h : Carries n c)
    (metadata : n.metadata? = some (tag, value)) :
    c = .block ⟨tag, value, n.span⟩ ∨ ∃ f, c = .fragment f := by
  cases h with
  | same plain => cases plain.symm.trans metadata
  | block metadata' =>
    cases metadata'.symm.trans metadata
    exact .inl rfl
  | fragment => exact .inr ⟨_, rfl⟩

end Node.Carries

/-! ### All children -/

section Children

variable {ms : List Markdown.Node} {cs : List Node}

theorem carries_map_ofMarkdown (ms : List Markdown.Node) :
    List.Forall₂ Node.Carries ms (ms.map Node.ofMarkdown) := by
  rw [List.forall₂_map_right_iff, List.forall₂_same]
  intro n _
  exact carries_ofMarkdown n

theorem map_span_of_carries (h : List.Forall₂ Node.Carries ms cs) :
    cs.map Node.span = ms.map Markdown.Node.span := by
  induction h with
  | nil => rfl
  | cons carries _ ih => rw [List.map_cons, List.map_cons, carries.span, ih]

theorem carries_getElem? {i : Nat} (h : List.Forall₂ Node.Carries ms cs) (here : ms[i]? = some n) :
    ∃ c, cs[i]? = some c ∧ Node.Carries n c := by
  obtain ⟨inside, rfl⟩ := List.getElem?_eq_some_iff.mp here
  have inside' : i < cs.length := h.length_eq ▸ inside
  exact ⟨cs[i], List.getElem?_eq_getElem inside', h.get inside inside'⟩

end Children

namespace Transform

/-- A pass turns every child into what stands there afterwards.  By induction on the children:
one on which the work ends well is replaced, and one that fails is kept with all behind it. -/
theorem turns_runChildren (t : Transform) (cs : List Node) :
    List.Forall₂ t.Turns cs (t.runChildren cs).1 := by
  induction cs with
  | nil => exact .nil
  | cons c cs ih =>
    rcases result : (t.compileNode c).2 with e | o
    · rw [(runChildren_cons_of_error result cs).1]
      apply List.forall₂_same.mpr
      intro d _
      exact .kept d
    · rw [(runChildren_cons_of_compiles ⟨o, result⟩ cs).1]
      exact .cons (t.turns_replacement c) ih

/-- The documents that passes of several transforms leave, one after another.  A pass that ends
with an error leaves a document, too, and the next one goes over that. -/
def passes (ts : List Transform) (r : Root) : Root := ts.foldl (fun r t => (t.run r).root) r

theorem passes_cons (t : Transform) (ts : List Transform) (r : Root) :
    passes (t :: ts) r = passes ts (t.run r).root := rfl

theorem carries_run {ms : List Markdown.Node} (t : Transform)
    (h : List.Forall₂ Node.Carries ms r.children) :
    List.Forall₂ Node.Carries ms (t.run r).root.children := by
  rw [run_root]
  show List.Forall₂ Node.Carries ms (t.runChildren r.children).1
  generalize r.children = cs at h
  have turns := t.turns_runChildren cs
  generalize (t.runChildren cs).1 = ds at turns
  induction h generalizing ds with
  | nil =>
    cases turns
    exact .nil
  | cons carries _ ih =>
    cases turns with
    | cons first others => exact .cons (carries.turns first) (ih _ others)

/-- By induction on the passes: each one keeps the place of the document, and what its children
carry. -/
theorem carries_passes {ms : List Markdown.Node} (ts : List Transform)
    (h : List.Forall₂ Node.Carries ms r.children) :
    List.Forall₂ Node.Carries ms (passes ts r).children ∧ (passes ts r).span = r.span := by
  induction ts generalizing r with
  | nil => exact ⟨h, rfl⟩
  | cons t ts ih =>
    obtain ⟨children, span⟩ := ih (carries_run t h)
    rw [passes_cons]
    exact ⟨children, span.trans (t.run_span r)⟩

/-- Lifting a Markdown tree and passes over it keep the tree.  Let any transforms go over the
document one after another, whatever they read and render, and whether they fail or not.  The
document has as many children as the root of the tree, each at the place of the node it was
lifted from, and the place of the document is that of the root.  A node at the top level that is
no metadata is still there, the same in all that is nested in it.  A YAML or TOML node at the top
level is there as the block with its tag, its text and its place, or as a fragment. -/
theorem passes_keep_markdown (ts : List Transform) (span : Option Markdown.Span)
    (children : List Markdown.Node) :
    let r := passes ts (Root.ofMarkdown (.mk .root span children))
    r.children.length = children.length ∧
    r.children.map Node.span = children.map Markdown.Node.span ∧
    r.span = span ∧
    ∀ (i : Nat) (n : Markdown.Node), children[i]? = some n →
      (n.metadata? = none → r.children[i]? = some (.markdown n)) ∧
      ∀ tag value, n.metadata? = some (tag, value) →
        r.children[i]? = some (.block ⟨tag, value, n.span⟩) ∨
          ∃ f, r.children[i]? = some (.fragment f) := by
  intro r
  obtain ⟨carries, place⟩ := carries_passes (r := Root.ofMarkdown (.mk .root span children)) ts
    (carries_map_ofMarkdown children)
  change List.Forall₂ Node.Carries children r.children at carries
  refine ⟨carries.length_eq.symm, map_span_of_carries carries, place, ?_⟩
  intro i n here
  obtain ⟨c, there, h⟩ := carries_getElem? carries here
  rw [there]
  constructor
  · intro plain
    rw [h.markdown plain]
  · intro tag value metadata
    rcases h.metadata metadata with rfl | ⟨f, rfl⟩
    · exact .inl rfl
    · exact .inr ⟨f, rfl⟩

/-- A pass that fails at its second block, and another one.  The YAML in the quotation is no
block. -/
theorem passes_keep_markdown_quoted :
    let quotation : Markdown.Node := .mk .blockquote none [.mk (.yaml "?") none []]
    let children : List Markdown.Node :=
      [.mk (.yaml "a") (some ⟨⟨1, 1, 0⟩, ⟨3, 4, 9⟩⟩) [], quotation, .mk (.yaml "?") none []]
    let r := passes [echo .yaml, echo .toml] (Root.ofMarkdown (.mk .root none children))
    ((echo .yaml).run (Root.ofMarkdown (.mk .root none children))).error.isSome ∧
      r.children.length = 3 ∧
      r.children[1]? = some (.markdown quotation) ∧
      (r.children[2]? = some (.block ⟨.yaml, "?", none⟩) ∨
        ∃ f, r.children[2]? = some (.fragment f)) := by
  intro quotation children r
  obtain ⟨length, -, -, child⟩ := passes_keep_markdown [echo .yaml, echo .toml] none children
  have fails : ((echo .yaml).run (Root.ofMarkdown (.mk .root none children))).error.isSome := by
    decide +kernel
  exact ⟨fails, length, (child 1 quotation rfl).1 rfl, (child 2 _ rfl).2 .yaml "?" rfl⟩

end Transform
end Frontmatter
