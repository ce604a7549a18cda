/-
Frontmatter/Proofs/Document/Retry.lean

A pass over what an earlier pass has left.

A pass that fails does not undo what it has done: the document that it leaves
has fragments up to the child that failed, and blocks from there on.  A host may
repair that child and run the pass again, on this document and not on the first
one.  `run_resumes` says that this is as good as having repaired the first
document, and that nothing is lost and no source is compiled a second time.

The reason is `runChildren_settled`.  There is nothing left to do on a child that
the pass has been over, so for the children behind it, it makes no difference
whether the pass has been over it already.
-/
import Frontmatter.Proofs.Document.Pass

namespace Frontmatter

/-! ### What a pass comes to -/

/-- Two passes end in the same way: with the same error, or both without one, and
with the same document. -/
def PassResult.Agrees (p q : PassResult) : Prop := p.error = q.error ∧ p.root = q.root

/-- The source that a record tells of. -/
def LogRecord.source? : LogRecord → Option String
  | rendered _ source => some source
  | _ => none

/-- The sources that a pass compiles, in order.  A source is put on record right
before it is compiled, and at no other time. -/
def PassResult.sources (p : PassResult) : List String := p.logs.filterMap LogRecord.source?

theorem Registry.sources_decodeBlock (r : Registry) (b : Block) :
    (r.decodeBlock b).1.filterMap LogRecord.source? = [] := by
  have decoding := r.decoding b
  generalize r.decodeBlock b = result at decoding
  cases decoding with
  | _ => rfl

namespace Transform

variable {t : Transform} {c : Node} {before cs : List Node}

/-! ### The sources that are compiled -/

/-- The sources that the work on a node compiles. -/
def nodeSources (t : Transform) (n : Node) : List String :=
  (t.compileNode n).1.filterMap LogRecord.source?

/-- The sources that the work on the children of a document compiles. -/
def childrenSources (t : Transform) (cs : List Node) : List String :=
  (t.runChildren cs).2.1.filterMap LogRecord.source?

/-- What makes no fragment compiles no source, unless it fails. -/
theorem nodeSources_of_none (h : (t.compileNode c).2 = .ok none) : t.nodeSources c = [] := by
  cases c with
  | fragment g => rfl
  | markdown m => rfl
  | block b =>
    have sources := t.registry.sources_decodeBlock b
    have work := t.blockWork b
    rw [compileNode] at h
    rw [nodeSources, compileNode]
    generalize t.compileBlock b = result at h work
    cases work with
    | undecoded => cases h
    | absent decoded =>
      -- the only records are those of the decoding
      rwa [decoded] at sources
    | unrendered => cases h
    | uncompiled => cases h
    | made => cases h

theorem childrenSources_cons (h : t.Compiles c) (cs : List Node) :
    t.childrenSources (c :: cs) = t.nodeSources c ++ t.childrenSources cs := by
  rw [childrenSources, logs_runChildren_cons h, List.filterMap_append]
  rfl

/-- The record that ends a pass tells of no source. -/
theorem sources_run (t : Transform) (r : Root) :
    (t.run r).sources = t.childrenSources r.children := by
  have last : ∀ count total, [LogRecord.replaced count total].filterMap LogRecord.source? = [] :=
    fun _ _ => rfl
  rw [PassResult.sources, run_logs, List.filterMap_append]
  cases (t.run r).error with
  | none => rw [last, List.append_nil, childrenSources]
  | some e => rw [List.filterMap_nil, List.append_nil, childrenSources]

/-! ### Children that the pass has been over -/

/-- A pass that gets over the first children goes on with the others. -/
theorem runChildren_append (all : ∀ b ∈ before, t.Compiles b) (cs : List Node) :
    (t.runChildren (before ++ cs)).1 = before.map t.replacement ++ (t.runChildren cs).1 ∧
      (t.runChildren (before ++ cs)).2.2.2 = (t.runChildren cs).2.2.2 := by
  induction before with
  | nil => exact ⟨rfl, rfl⟩
  | cons b before ih =>
    obtain ⟨hb, all⟩ := List.forall_mem_cons.mp all
    obtain ⟨children, error⟩ := runChildren_cons_of_compiles hb (before ++ cs)
    obtain ⟨ihc, ihe⟩ := ih all
    refine ⟨?_, error.trans ihe⟩
    rw [List.cons_append, children, ihc, List.map_cons, List.cons_append]

theorem childrenSources_append (all : ∀ b ∈ before, t.Compiles b) (cs : List Node) :
    t.childrenSources (before ++ cs) = before.flatMap t.nodeSources ++ t.childrenSources cs := by
  induction before with
  | nil => rfl
  | cons b before ih =>
    obtain ⟨hb, all⟩ := List.forall_mem_cons.mp all
    rw [List.cons_append, childrenSources_cons hb, ih all, List.flatMap_cons, List.append_assoc]

theorem replacement_replacement (h : t.Compiles c) :
    t.replacement (t.replacement c) = t.replacement c :=
  replacement_of_none (compileNode_replacement h)

/-- For the outcome it does not matter whether a pass has been over the first
children before.  Their sources are not compiled again. -/
theorem runChildren_settled (all : ∀ b ∈ before, t.Compiles b) (cs : List Node) :
    (t.runChildren (before.map t.replacement ++ cs)).1 = (t.runChildren (before ++ cs)).1 ∧
      (t.runChildren (before.map t.replacement ++ cs)).2.2.2
        = (t.runChildren (before ++ cs)).2.2.2 ∧
      t.childrenSources (before.map t.replacement ++ cs) = t.childrenSources cs := by
  have settled : ∀ n ∈ before.map t.replacement, (t.compileNode n).2 = .ok none := by
    intro n hn
    obtain ⟨b, hb, rfl⟩ := List.mem_map.mp hn
    exact compileNode_replacement (all b hb)
  have again : ∀ n ∈ before.map t.replacement, t.Compiles n := fun n hn => ⟨none, settled n hn⟩
  -- so what stands in their places now is what would be put there, and it is not compiled
  have fixed : (before.map t.replacement).map t.replacement = before.map t.replacement := by
    rw [List.map_map]
    exact List.map_congr_left fun b hb => replacement_replacement (all b hb)
  have silent : (before.map t.replacement).flatMap t.nodeSources = [] :=
    List.flatMap_eq_nil_iff.mpr fun n hn => nodeSources_of_none (settled n hn)
  obtain ⟨children, error⟩ := runChildren_append all cs
  obtain ⟨children', error'⟩ := runChildren_append again cs
  refine ⟨?_, error'.trans error.symm, ?_⟩
  · rw [children', fixed, children]
  · rw [childrenSources_append again, silent, List.nil_append]

/-- So a pass over a document ends in the same way if a pass has been over its first
children before. -/
theorem run_settled {r s : Root} (all : ∀ b ∈ before, t.Compiles b)
    (hr : r.children = before.map t.replacement ++ cs) (hs : s.children = before ++ cs)
    (span : r.span = s.span) :
    (t.run r).Agrees (t.run s) ∧ (t.run r).sources = t.childrenSources cs := by
  obtain ⟨children, error, sources⟩ := runChildren_settled all cs
  rw [PassResult.Agrees, sources_run, run_error, run_error, run_root, run_root, hr, hs, span,
    children]
  exact ⟨⟨error, rfl⟩, sources⟩

end Transform

/-! ### Failing and trying again -/

/-- Puts a node in the place of the child `i`. -/
def Root.setChild (r : Root) (i : Nat) (n : Node) : Root :=
  { r with children := r.children.set i n }

theorem Root.setChild_self {r : Root} {i : Nat} {n : Node} (h : r.children[i]? = some n) :
    r.setChild i n = r := by
  obtain ⟨inside, rfl⟩ := List.getElem?_eq_some_iff.mp h
  rw [setChild, List.set_getElem_self]

section Middle

variable {α : Type} {before after : List α} {a b : α} {i : Nat}

theorem getElem?_middle (h : before.length = i) : (before ++ a :: after)[i]? = some a := by
  rw [← h, List.getElem?_append_right (Nat.le_refl _), Nat.sub_self, List.getElem?_cons_zero]

theorem set_middle (h : before.length = i) :
    (before ++ a :: after).set i b = before ++ b :: after := by
  rw [← h, List.set_append_right _ _ (Nat.le_refl _), Nat.sub_self, List.set_cons_zero]

end Middle

namespace Transform

variable {t : Transform} {r : Root} {i : Nat} {e : Error}

/-- The pass fails at the child `i`: it gets over the children before that one, and
the work on that one ends with the error. -/
def FailsAt (t : Transform) (r : Root) (i : Nat) (e : Error) : Prop :=
  ∃ before c after, r.children = before ++ c :: after ∧ before.length = i ∧
    (∀ b ∈ before, t.Compiles b) ∧ (t.compileNode c).2 = .error e

theorem run_error_eq_some_iff : (t.run r).error = some e ↔ ∃ i, t.FailsAt r i e := by
  rw [run_error]
  constructor
  · intro failed
    rcases t.runChildren_cases r.children with
      ⟨-, -, error⟩ | ⟨before, c, after, e', split, all, fails, -, error⟩
    · rw [failed] at error
      cases error
    · rw [failed] at error
      cases error
      exact ⟨before.length, before, c, after, split, rfl, all, fails⟩
  · rintro ⟨i, before, c, after, split, -, all, fails⟩
    rw [split, (runChildren_append all _).2]
    exact (runChildren_cons_of_error fails after).2

/-- What a pass leaves behind where it failed. -/
theorem children_of_fails {before after : List Node} {bad : Node}
    (split : r.children = before ++ bad :: after) (all : ∀ b ∈ before, t.Compiles b)
    (failed : (t.compileNode bad).2 = .error e) :
    (t.run r).root.children = before.map t.replacement ++ bad :: after := by
  rw [run_root, split, (runChildren_append all _).1, (runChildren_cons_of_error failed after).1]

/-- The child that failed is left as it was. -/
theorem FailsAt.child (fails : t.FailsAt r i e) :
    ∃ bad, r.children[i]? = some bad ∧ (t.run r).root.children[i]? = some bad ∧
      (t.compileNode bad).2 = .error e := by
  obtain ⟨before, bad, after, split, rfl, all, failed⟩ := fails
  refine ⟨bad, ?_, ?_, failed⟩
  · rw [split, getElem?_middle rfl]
  · rw [children_of_fails split all failed, getElem?_middle (List.length_map _)]

/-- A pass over a document that a pass has got over does nothing. -/
theorem run_again (ok : (t.run r).error = none) :
    (t.run (t.run r).root).Agrees (t.run r) ∧ (t.run (t.run r).root).sources = [] := by
  have all := run_error_eq_none_iff.mp ok
  have left : (t.run r).root.children = r.children.map t.replacement ++ [] := by
    rw [run_root_of_compiles all, List.append_nil]
  exact run_settled all left (List.append_nil _).symm (t.run_span r)

/-- A pass goes on where the one before has failed, whatever stands there now.  It
ends as a pass over the first document does, with the same node in that place,
and it compiles sources from that place on only. -/
theorem run_setChild (fails : t.FailsAt r i e) (c : Node) :
    (t.run ((t.run r).root.setChild i c)).Agrees (t.run (r.setChild i c)) ∧
      (t.run ((t.run r).root.setChild i c)).sources
        = (t.run ⟨c :: r.children.drop (i + 1), r.span⟩).sources := by
  obtain ⟨before, bad, after, split, rfl, all, failed⟩ := fails
  have direct : (r.setChild before.length c).children = before ++ c :: after := by
    rw [Root.setChild, split, set_middle rfl]
  have resumed : ((t.run r).root.setChild before.length c).children
      = before.map t.replacement ++ c :: after := by
    rw [Root.setChild, children_of_fails split all failed, set_middle (List.length_map _)]
  have rest : r.children.drop (before.length + 1) = after := by
    rw [split, ← List.drop_drop, List.drop_left, List.drop_one, List.tail_cons]
  rw [rest, sources_run t ⟨c :: after, r.span⟩]
  exact run_settled all resumed direct (t.run_span r)

/-- Where a pass fails, no fragment stands, so a node put there overwrites none. -/
theorem setChild_fragment (fails : t.FailsAt r i e) (c : Node) {j : Nat} {f : Fragment}
    (h : (t.run r).root.children[j]? = some (.fragment f)) :
    ((t.run r).root.setChild i c).children[j]? = some (.fragment f) := by
  obtain ⟨bad, -, here, failed⟩ := fails.child
  have elsewhere : i ≠ j := by
    -- the work on a fragment does not fail
    rintro rfl
    rw [here] at h
    cases h
    cases failed
  rw [Root.setChild, List.getElem?_set_ne elsewhere, h]

/-! ### The whole of it -/

/-- Trying again, in full.

After a pass without an error, another pass ends without an error too, leaves the
document as it is, and compiles nothing.

A pass with an error has failed at some child, and the error is that child's.
Whatever node is put in the place of that child, the pass that goes on from there
ends as a pass over the first document does that has the node in this place: with
the same error or without one, and with the same document.  It compiles what
stands from that place on and nothing before, and the fragments that the first
pass has made stay.  If nothing is put there, it fails again with the same error
and leaves the same document. -/
theorem run_resumes (t : Transform) (r : Root) :
    ((t.run r).error = none →
      (t.run (t.run r).root).error = none ∧ (t.run (t.run r).root).root = (t.run r).root ∧
        (t.run (t.run r).root).sources = []) ∧
    (∀ e, (t.run r).error = some e ↔ ∃ i, t.FailsAt r i e) ∧
    ∀ i e, t.FailsAt r i e →
      (∀ c, (t.run ((t.run r).root.setChild i c)).Agrees (t.run (r.setChild i c)) ∧
        (t.run ((t.run r).root.setChild i c)).sources
          = (t.run ⟨c :: r.children.drop (i + 1), r.span⟩).sources ∧
        ∀ (j : Nat) (f : Fragment), (t.run r).root.children[j]? = some (.fragment f) →
          (t.run ((t.run r).root.setChild i c)).root.children[j]? = some (.fragment f)) ∧
      (t.run (t.run r).root).Agrees (t.run r) := by
  refine ⟨fun ok => ?_, fun e => run_error_eq_some_iff, fun i e fails => ⟨fun c => ?_, ?_⟩⟩
  · obtain ⟨⟨error, root⟩, sources⟩ := run_again ok
    exact ⟨error.trans ok, root, sources⟩
  · obtain ⟨agrees, sources⟩ := run_setChild fails c
    exact ⟨agrees, sources, fun j f h => run_fragment (setChild_fragment fails c h)⟩
  · -- putting the child there that stands there changes neither document
    obtain ⟨bad, before, after, -⟩ := fails.child
    have agrees := (run_setChild fails bad).1
    rwa [Root.setChild_self before, Root.setChild_self after] at agrees

/-- Of three blocks the second one fails.  When it is repaired, the pass goes on with
it and with the third one; after that there is nothing left to do. -/
theorem run_resumes_at_second :
    let block (text : String) : Node := .block ⟨.yaml, text, none⟩
    let r : Root := ⟨[block "a", block "?", block "b"], none⟩
    let repaired : Root := ⟨[block "a", block "c", block "b"], none⟩
    (echo .yaml).FailsAt r 1 (.decode "yaml" "a question" none) ∧
      ((echo .yaml).run ((((echo .yaml).run r).root).setChild 1 (block "c"))).Agrees
        ((echo .yaml).run repaired) ∧
      ((echo .yaml).run ((((echo .yaml).run r).root).setChild 1 (block "c"))).sources = ["c", "b"] ∧
      ((echo .yaml).run repaired).error = none ∧
      ((echo .yaml).run ((echo .yaml).run repaired).root).sources = [] := by
  intro block r repaired
  have fails : (echo .yaml).FailsAt r 1 (.decode "yaml" "a question" none) :=
    ⟨[block "a"], block "?", [block "b"], rfl, rfl, List.forall_mem_singleton.mpr ⟨_, rfl⟩, rfl⟩
  have ok : ((echo .yaml).run repaired).error = none := rfl
  obtain ⟨agrees, sources, -⟩ := ((run_resumes _ r).2.2 1 _ fails).1 (block "c")
  exact ⟨fails, agrees, sources, ok, ((run_resumes _ repaired).1 ok).2.2⟩

end Transform
end Frontmatter
