/-
Frontmatter/Proofs/Document/Spans.lean

Where the nodes of a document stand makes no difference to a pass over it.

`Root.withoutSpans` forgets the spans of a document and of all nodes in it.  The work on a node
commutes with forgetting, up to one thing: the span of a block goes into its fragment and into
the location of a decode error, and nowhere else (`compileNode_withoutSpans`).  Hence so does a
pass (`run_withoutSpans`), and it fails at the same child as the pass over the document without
spans (`FailsAt.withoutSpans`).  Two documents that differ in their spans only are the same
document without spans, so passes over them come to the same (`run_ignores_spans`).

For this the renderer must not look at the span of a block, and must not fail with errors of
other stages; the built-in renderers do neither (`Renderer.IsPlain`).
-/
import Frontmatter.Proofs.Document.Retry

namespace Frontmatter

/-! ### Forgetting spans -/

namespace Markdown

mutual

/-- The node without its span and those of the nodes in it. -/
def Node.withoutSpans : Node → Node
  | .mk kind _ children => .mk kind none (Node.allWithoutSpans children)

def Node.allWithoutSpans : List Node → List Node
  | [] => []
  | n :: rest => n.withoutSpans :: Node.allWithoutSpans rest

end

end Markdown

def Block.withoutSpan (b : Block) : Block := { b with span := none }

def Fragment.withoutSpan (f : Fragment) : Fragment := { f with span := none }

def Node.withoutSpans : Node → Node
  | block b => block b.withoutSpan
  | fragment f => fragment f.withoutSpan
  | markdown n => markdown n.withoutSpans

/-- The document without its span and those of the nodes in it. -/
def Root.withoutSpans (r : Root) : Root := ⟨r.children.map Node.withoutSpans, none⟩

theorem Node.span_withoutSpans (n : Node) : n.withoutSpans.span = none := by
  cases n with
  | block b => rfl
  | fragment f => rfl
  | markdown m =>
    obtain ⟨kind, span, children⟩ := m
    rfl

theorem Node.eq_block_of_withoutSpans {n : Node} {b : Block}
    (same : n.withoutSpans = (block b).withoutSpans) : n = block ⟨b.tag, b.value, n.span⟩ := by
  cases n with
  | fragment f => cases same
  | markdown m => cases same
  | block c =>
    obtain ⟨tag, value, span⟩ := b
    obtain ⟨tag', value', span'⟩ := c
    cases same
    rfl

theorem placedLocation_none (own : Option Location) : placedLocation own none = own := by
  cases own with
  | none => rfl
  | some loc => rfl

/-- An error of a block without a span, as an error of the block with a span. -/
def Error.placed (span : Option Markdown.Span) : Error → Error
  | decode tag message own => decode tag message (placedLocation own span)
  | e => e

/-- The renderer does not look at the span of a block, and it fails with errors of its own stage
only. -/
structure Renderer.IsPlain (renderer : Renderer) : Prop where
  withoutSpan : ∀ d b, renderer d b.withoutSpan = renderer d b
  error : ∀ {d b e}, renderer d b = .error e → ∃ message, e = .render message

theorem Renderer.isPlain_staticProps : staticProps.IsPlain where
  withoutSpan _ _ := rfl
  error failed := by cases failed

theorem Renderer.isPlain_constant (name : String) : (constant name).IsPlain where
  withoutSpan _ _ := rfl
  error failed := by
    rw [constant] at failed
    split at failed
    · cases failed
    · cases failed
      exact ⟨_, rfl⟩

/-! ### The work on a node -/

/-- The span of a block goes into the location of a decode error, and nowhere else. -/
theorem Registry.decodeBlock_withoutSpan (r : Registry) (b : Block) :
    r.decodeBlock b = ((r.decodeBlock b.withoutSpan).1,
      (r.decodeBlock b.withoutSpan).2.mapError (Error.placed b.span)) := by
  refine Decoding.eq ?_
  have bare := r.decoding b.withoutSpan
  generalize r.decodeBlock b.withoutSpan = result at bare
  cases bare with
  | unregistered absent => exact .unregistered absent
  | null found decoded => exact .null found decoded
  | present found decoded present => exact .present found decoded present
  | refused found decoded =>
    simp only [Block.withoutSpan, placedLocation_none]
    exact .refused found decoded

namespace Transform

variable {t : Transform} {n : Node} {e : Error} {r : Root} {i : Nat}

/-- What the work on a node without a span comes to, as the outcome for the node with a span. -/
def placed (span : Option Markdown.Span) :
    Except Error (Option Fragment) → Except Error (Option Fragment)
  | .error e => .error (e.placed span)
  | .ok none => .ok none
  | .ok (some f) => .ok (some { f with span })

theorem compileBlock_withoutSpan (plain : t.renderer.IsPlain) (b : Block) :
    t.compileBlock b =
      ((t.compileBlock b.withoutSpan).1, placed b.span (t.compileBlock b.withoutSpan).2) := by
  rw [compileBlock, compileBlock, t.registry.decodeBlock_withoutSpan b]
  rcases t.registry.decodeBlock b.withoutSpan with ⟨logs, e | _ | d⟩
  · rfl
  · rfl
  · simp only [Except.mapError, plain.withoutSpan]
    rcases rendered : t.renderer d b with e | source
    · -- a render error has no location that could be moved
      obtain ⟨message, rfl⟩ := plain.error rendered
      rfl
    · simp only
      rcases compiled : compileSource source with e | body
      · -- a compile error is located in the rendered source, not in the document
        obtain ⟨message, location, rfl⟩ := compileSource_error compiled
        rfl
      · rfl

/-- The step of a pass: the work on a node commutes with forgetting the spans, up to the span
of a block in its fragment and in the location of a decode error. -/
theorem compileNode_withoutSpans (plain : t.renderer.IsPlain) (n : Node) :
    t.compileNode n =
      ((t.compileNode n.withoutSpans).1, placed n.span (t.compileNode n.withoutSpans).2) := by
  cases n with
  | block b => exact compileBlock_withoutSpan plain b
  | fragment f => rfl
  | markdown m => rfl

theorem compiles_withoutSpans_iff (plain : t.renderer.IsPlain) :
    t.Compiles n.withoutSpans ↔ t.Compiles n := by
  rw [Compiles, Compiles, compileNode_withoutSpans plain n]
  rcases (t.compileNode n.withoutSpans).2 with e | _ | f
  · exact iff_of_false (fun ⟨_, h⟩ => nomatch h) fun ⟨_, h⟩ => nomatch h
  · exact iff_of_true ⟨_, rfl⟩ ⟨_, rfl⟩
  · exact iff_of_true ⟨_, rfl⟩ ⟨_, rfl⟩

/-! ### A pass -/

/-- What stands in the place of a node has the span of the node. -/
theorem span_replacement (t : Transform) (n : Node) : (t.replacement n).span = n.span := by
  have turns := t.turns_replacement n
  generalize t.replacement n = m at turns
  cases turns with
  | kept => rfl
  | replaced decoded rendered compiled program span => exact span

theorem span_run (t : Transform) (r : Root) :
    (t.run r).root.children.map Node.span = r.children.map Node.span := by
  have each : ∀ cs : List Node, (cs.map t.replacement).map Node.span = cs.map Node.span := by
    intro cs
    rw [List.map_map]
    exact List.map_congr_left fun c _ => t.span_replacement c
  rw [run_root]
  rcases t.runChildren_cases r.children with
    ⟨-, children, -⟩ | ⟨before, c, after, e, split, -, -, children, -⟩
  · rw [children, each]
  · rw [children, split, List.map_append, List.map_append, each]

/-- By induction on the children: what the work on the first one comes to is placed, and this
changes neither the records nor whether the pass goes on. -/
theorem runChildren_withoutSpans (plain : t.renderer.IsPlain) (cs : List Node) :
    (t.runChildren (cs.map Node.withoutSpans)).1 = (t.runChildren cs).1.map Node.withoutSpans ∧
      (t.runChildren (cs.map Node.withoutSpans)).2.1 = (t.runChildren cs).2.1 ∧
      (t.runChildren (cs.map Node.withoutSpans)).2.2.1 = (t.runChildren cs).2.2.1 ∧
      ((t.runChildren (cs.map Node.withoutSpans)).2.2.2 = none ↔
        (t.runChildren cs).2.2.2 = none) := by
  induction cs with
  | nil => exact ⟨rfl, rfl, rfl, Iff.rfl⟩
  | cons c cs ih =>
    obtain ⟨children, logs, count, error⟩ := ih
    rw [List.map_cons, runChildren, runChildren, compileNode_withoutSpans plain c]
    rcases work : t.compileNode c.withoutSpans with ⟨first, e | _ | f⟩
    · exact ⟨rfl, rfl, rfl, iff_of_false (Option.some_ne_none _) (Option.some_ne_none _)⟩
    · refine ⟨?_, ?_, count, error⟩
      · exact congrArg (c.withoutSpans :: ·) children
      · exact congrArg (first ++ ·) logs
    · -- the block had no span, so its fragment has none
      have bare := t.span_replacement c.withoutSpans
      rw [replacement_of_some (congrArg Prod.snd work), c.span_withoutSpans] at bare
      obtain ⟨source, program, span⟩ := f
      cases bare
      refine ⟨?_, ?_, ?_, error⟩
      · exact congrArg (Node.fragment ⟨source, program, none⟩ :: ·) children
      · exact congrArg (first ++ ·) logs
      · exact congrArg (· + 1) count

/-- A pass commutes with forgetting the spans. -/
theorem run_withoutSpans (plain : t.renderer.IsPlain) (r : Root) :
    (t.run r.withoutSpans).root = (t.run r).root.withoutSpans ∧
      (t.run r.withoutSpans).logs = (t.run r).logs ∧
      ((t.run r.withoutSpans).error = none ↔ (t.run r).error = none) := by
  obtain ⟨children, logs, count, error⟩ := runChildren_withoutSpans plain r.children
  refine ⟨?_, ?_, ?_⟩
  · rw [run_root, run_root, Root.withoutSpans, children]
    rfl
  · rw [run, run, Root.withoutSpans]
    rcases bare : t.runChildren (r.children.map Node.withoutSpans) with ⟨cs, l, k, e⟩
    rcases full : t.runChildren r.children with ⟨cs', l', k', e'⟩
    rw [bare, full] at children logs count error
    cases children
    cases logs
    cases count
    rcases e with _ | e
    · cases error.mp rfl
      simp only [List.length_map]
    · rcases e' with _ | e'
      · cases error.mpr rfl
      · rfl
  · rw [run_error, run_error]
    exact error

/-- A pass fails at the child where the pass over the document without spans fails, and the
span of that child is put into the error. -/
theorem failsAt_iff_withoutSpans (plain : t.renderer.IsPlain) :
    t.FailsAt r i e ↔
      ∃ c own, r.children[i]? = some c ∧ t.FailsAt r.withoutSpans i own ∧
        (t.compileNode c.withoutSpans).2 = .error own ∧ e = own.placed c.span := by
  have all_iff : ∀ {before : List Node},
      (∀ b ∈ before.map Node.withoutSpans, t.Compiles b) ↔ ∀ b ∈ before, t.Compiles b := by
    intro before
    rw [List.forall_mem_map]
    exact forall₂_congr fun b _ => compiles_withoutSpans_iff plain
  constructor
  · rintro ⟨before, c, after, split, rfl, all, failed⟩
    rw [compileNode_withoutSpans plain c] at failed
    rcases own : (t.compileNode c.withoutSpans).2 with e₀ | _ | f
    · rw [own] at failed
      cases failed
      refine ⟨c, e₀, ?_, ⟨before.map Node.withoutSpans, c.withoutSpans,
        after.map Node.withoutSpans, ?_, List.length_map _, all_iff.mpr all, own⟩, own, rfl⟩
      · rw [split, getElem?_middle rfl]
      · rw [Root.withoutSpans, split, List.map_append, List.map_cons]
    · rw [own] at failed
      cases failed
    · rw [own] at failed
      cases failed
  · rintro ⟨c, own, here, ⟨bare, c₀, rest, split, rfl, all, -⟩, failed, rfl⟩
    -- where the children without spans are split, those with spans are split as well
    obtain ⟨before, tail, hr, rfl, htail⟩ := List.map_eq_append_iff.mp split
    obtain ⟨c', after, rfl, -, -⟩ := List.map_eq_cons_iff.mp htail
    rw [hr, getElem?_middle (List.length_map _).symm] at here
    cases here
    refine ⟨before, c, after, hr, (List.length_map _).symm, all_iff.mp all, ?_⟩
    rw [compileNode_withoutSpans plain c, failed]
    rfl

/-- The errors of a node without a span: decode errors have the decoder's own location. -/
theorem compileNode_withoutSpans_error (plain : t.renderer.IsPlain)
    (failed : (t.compileNode n.withoutSpans).2 = .error e) :
    ((∃ message, e = .render message) ∨ ∃ message location, e = .compile message location) ∨
      ∃ b decoder failure, n = .block b ∧ t.registry.find? b.tag = some decoder ∧
        decoder b.value = .error failure ∧
        e = .decode b.tag.name failure.message failure.location := by
  cases n with
  | fragment f => cases failed
  | markdown m => cases failed
  | block b =>
    rcases compileBlock_error failed with undecoded | ⟨d, -, unrendered | ⟨source, -, uncompiled⟩⟩
    · obtain ⟨decoder, failure, found, refused, rfl⟩ := Registry.decodeBlock_error undecoded
      refine .inr ⟨b, decoder, failure, rfl, found, refused, ?_⟩
      rw [Block.withoutSpan, placedLocation_none]
    · exact .inl (.inl (plain.error unrendered))
    · exact .inl (.inr (compileSource_error uncompiled))

/-- Spans make no difference to a pass with a built-in renderer, whatever its registry.  Let
two documents be the same but for their spans.  The passes over them leave documents that are
the same but for their spans, and the same records; the document and every child of it keep
the spans they had.  Both passes end without an error, or both fail at the same child.  Then
they fail with the same render error or the same compile error, or both with the failure of
the decoder for the block there: with the same tag and message, and with the decoder's own
location, to whose line the line of the block is added, if there are both. -/
theorem run_ignores_spans (registry : Registry) {renderer : Renderer}
    (builtin : renderer = Renderer.staticProps ∨ ∃ name, renderer = Renderer.constant name)
    {r s : Root} (same : r.withoutSpans = s.withoutSpans) :
    let t : Transform := ⟨registry, renderer⟩
    (t.run r).root.withoutSpans = (t.run s).root.withoutSpans ∧
    (t.run r).logs = (t.run s).logs ∧
    ((t.run r).root.span = r.span ∧
      (t.run r).root.children.map Node.span = r.children.map Node.span) ∧
    ((t.run s).root.span = s.span ∧
      (t.run s).root.children.map Node.span = s.children.map Node.span) ∧
    ((t.run r).error = none ∧ (t.run s).error = none ∨
      ∃ i c d e e', r.children[i]? = some c ∧ s.children[i]? = some d ∧
        t.FailsAt r i e ∧ (t.run r).error = some e ∧
        t.FailsAt s i e' ∧ (t.run s).error = some e' ∧
        (e = e' ∧ ((∃ message, e = .render message) ∨
            ∃ message location, e = .compile message location) ∨
          ∃ tag value decoder failure,
            c = .block ⟨tag, value, c.span⟩ ∧ d = .block ⟨tag, value, d.span⟩ ∧
            registry.find? tag = some decoder ∧ decoder value = .error failure ∧
            e = .decode tag.name failure.message (placedLocation failure.location c.span) ∧
            e' = .decode tag.name failure.message (placedLocation failure.location d.span))) := by
  intro t
  have plain : t.renderer.IsPlain := by
    rcases builtin with rfl | ⟨name, rfl⟩
    · exact Renderer.isPlain_staticProps
    · exact Renderer.isPlain_constant name
  obtain ⟨root, logs, error⟩ := run_withoutSpans plain r
  obtain ⟨root', logs', error'⟩ := run_withoutSpans plain s
  rw [same] at root logs error
  refine ⟨root.symm.trans root', logs.symm.trans logs', ⟨run_span t r, span_run t r⟩,
    ⟨run_span t s, span_run t s⟩, ?_⟩
  rcases result : (t.run r).error with _ | e
  · exact .inl ⟨rfl, error'.mp (error.mpr result)⟩
  · obtain ⟨i, fails⟩ := run_error_eq_some_iff.mp result
    obtain ⟨c, own, hc, bare, failed, rfl⟩ := (failsAt_iff_withoutSpans plain).mp fails
    -- the other pass fails there as well, as the same child is there but for its span
    have there : (s.children.map Node.withoutSpans)[i]? = some c.withoutSpans := by
      have children : r.children.map Node.withoutSpans = s.children.map Node.withoutSpans :=
        congrArg Root.children same
      rw [← children, List.getElem?_map, hc]
      rfl
    rw [List.getElem?_map, Option.map_eq_some_iff] at there
    obtain ⟨d, hd, alike⟩ := there
    rw [same] at bare
    have fails' : t.FailsAt s i (own.placed d.span) :=
      (failsAt_iff_withoutSpans plain).mpr ⟨d, own, hd, bare, alike ▸ failed, rfl⟩
    refine .inr ⟨i, c, d, _, _, hc, hd, fails, rfl, fails',
      run_error_eq_some_iff.mpr ⟨i, fails'⟩, ?_⟩
    rcases compileNode_withoutSpans_error plain failed with
      (⟨message, rfl⟩ | ⟨message, location, rfl⟩) | ⟨b, decoder, failure, rfl, found, refused, rfl⟩
    · exact .inl ⟨rfl, .inl ⟨message, rfl⟩⟩
    · exact .inl ⟨rfl, .inr ⟨message, location, rfl⟩⟩
    · exact .inr ⟨b.tag, b.value, decoder, failure, rfl, Node.eq_block_of_withoutSpans alike,
        found, refused, rfl, rfl⟩

/-- A decoder refuses the block of one document with a line and that of the other without one.
It gives the line 2 of the block; the block that has a place is at the line 4. -/
theorem run_ignores_spans_of_refused :
    let registry := Registry.empty.register .yaml fun _ => .error ⟨"bad", some (.inText 2 3)⟩
    let t : Transform := ⟨registry, Renderer.constant "meta"⟩
    let r : Root := ⟨[.block ⟨.yaml, "a", some ⟨⟨4, 1, 9⟩, ⟨6, 4, 19⟩⟩⟩], none⟩
    let s : Root := ⟨[.block ⟨.yaml, "a", none⟩], none⟩
    r.withoutSpans = s.withoutSpans ∧
      (t.run r).root.withoutSpans = (t.run s).root.withoutSpans ∧
      (t.run r).error = some (.decode "yaml" "bad" (some (.inText 6 3))) ∧
      (t.run s).error = some (.decode "yaml" "bad" (some (.inText 2 3))) := by
  intro registry t r s
  have same : r.withoutSpans = s.withoutSpans := rfl
  have agree := run_ignores_spans registry (.inr ⟨"meta", rfl⟩) same
  exact ⟨same, agree.1, rfl, rfl⟩

end Transform
end Frontmatter
