/-
Frontmatter/Proofs/Document/Pass.lean

What a pass does to a document.

Whether a child is replaced does not depend on its neighbours:
`Transform.replacement` is what stands in its place if the work on it ends well.
A pass replaces child after child in this way, up to the first one that fails,
and keeps that one and all that follow (`run_replaces_up_to_first_failure`).

The decoding of a block ends in one of four ways (`Registry.Decoding`), and the
work on it in one of five (`BlockWork`).  Three of the five are errors
(`compileBlock_error`): the block could not be decoded, its data could not be
rendered, or the rendered source could not be compiled.  With a fragment it ends
in one way only (`compileBlock_fragment`).
-/
import Frontmatter.Document.Pass
import Mathlib.Data.List.Forall2

namespace Frontmatter

/-! ### The stages of the work on a block -/

/-- The location that a decoder gave, moved to the document that holds the block: the line of
the block is added to its line, if there are both. -/
def placedLocation (own : Option Location) (span : Option Markdown.Span) : Option Location :=
  match own, span with
  | some loc, some span => some { loc with line := loc.line + span.start.line }
  | own, _ => own

/-- The four ways in which the decoding of a block may end, with the records of it. -/
inductive Registry.Decoding (r : Registry) (b : Block) :
    List LogRecord × Except Error (Option Data) → Prop where
  | unregistered (absent : r.find? b.tag = none) :
      Decoding r b ([.noDecoder b.tag.name], .ok none)
  | null {decoder : Decoder} (found : r.find? b.tag = some decoder)
      (decoded : decoder b.value = .ok .null) : Decoding r b ([], .ok none)
  | present {decoder : Decoder} {d : Data} (found : r.find? b.tag = some decoder)
      (decoded : decoder b.value = .ok d) (present : d ≠ .null) : Decoding r b ([], .ok (some d))
  | refused {decoder : Decoder} {failure : DecodeError} (found : r.find? b.tag = some decoder)
      (decoded : decoder b.value = .error failure) :
      Decoding r b ([], .error (.decode b.tag.name failure.message
        (placedLocation failure.location b.span)))

theorem Registry.Decoding.eq {r : Registry} {b : Block}
    {result : List LogRecord × Except Error (Option Data)} (h : r.Decoding b result) :
    r.decodeBlock b = result := by
  rw [decodeBlock]
  cases h with
  | unregistered absent => rw [absent]
  | null found decoded => simp only [found, decoded]
  | present found decoded present => simp only [found, decoded]
  | @refused _ failure found decoded =>
    simp only [found, decoded]
    rcases failure.location with _ | loc
    · rfl
    · rcases b.span with _ | span
      · rfl
      · rfl

theorem Registry.decoding (r : Registry) (b : Block) : r.Decoding b (r.decodeBlock b) := by
  have ends : ∃ result, r.Decoding b result := by
    rcases found : r.find? b.tag with _ | decoder
    · exact ⟨_, .unregistered found⟩
    · rcases decoded : decoder b.value with failure | d
      · exact ⟨_, .refused found decoded⟩
      · by_cases null : d = .null
        · exact ⟨_, .null found (null ▸ decoded)⟩
        · exact ⟨_, .present found decoded null⟩
  obtain ⟨result, h⟩ := ends
  rw [h.eq]
  exact h

/-- Decoding fails with decode errors only: the decoder has refused the block. -/
theorem Registry.decodeBlock_error {r : Registry} {b : Block} {e : Error}
    (h : (r.decodeBlock b).2 = .error e) :
    ∃ decoder failure, r.find? b.tag = some decoder ∧ decoder b.value = .error failure ∧
      e = .decode b.tag.name failure.message (placedLocation failure.location b.span) := by
  have decoding := r.decoding b
  generalize r.decodeBlock b = result at h decoding
  cases decoding with
  | unregistered => cases h
  | null => cases h
  | present => cases h
  | refused found decoded =>
    cases h
    exact ⟨_, _, found, decoded, rfl⟩

/-- Compiling fails with compile errors only. -/
theorem compileSource_error {source : String} {e : Error} (h : compileSource source = .error e) :
    ∃ message location, e = .compile message location := by
  rw [compileSource] at h
  split at h
  · cases h
  · cases h
    exact ⟨_, _, rfl⟩

namespace Transform

variable {t : Transform} {b : Block} {c : Node} {cs : List Node} {e : Error} {f : Fragment}

/-- The five ways in which the work on a block may end, with the records of it. -/
inductive BlockWork (t : Transform) (b : Block) :
    List LogRecord × Except Error (Option Fragment) → Prop where
  | undecoded {logs : List LogRecord} {e : Error}
      (decoded : t.registry.decodeBlock b = (logs, .error e)) : BlockWork t b (logs, .error e)
  | absent {logs : List LogRecord}
      (decoded : t.registry.decodeBlock b = (logs, .ok none)) : BlockWork t b (logs, .ok none)
  | unrendered {logs : List LogRecord} {data : Data} {e : Error}
      (decoded : t.registry.decodeBlock b = (logs, .ok (some data)))
      (rendered : t.renderer data b = .error e) : BlockWork t b (logs, .error e)
  | uncompiled {logs : List LogRecord} {data : Data} {source : String} {e : Error}
      (decoded : t.registry.decodeBlock b = (logs, .ok (some data)))
      (rendered : t.renderer data b = .ok source) (compiled : compileSource source = .error e) :
      BlockWork t b (logs ++ [.rendered b.tag.name source], .error e)
  | made {logs : List LogRecord} {data : Data} {source : String} {body : List Esm.Item}
      (decoded : t.registry.decodeBlock b = (logs, .ok (some data)))
      (rendered : t.renderer data b = .ok source) (compiled : compileSource source = .ok body) :
      BlockWork t b
        (logs ++ [.rendered b.tag.name source], .ok (some ⟨source, Program.ofBody body, b.span⟩))

theorem blockWork (t : Transform) (b : Block) : BlockWork t b (t.compileBlock b) := by
  rw [compileBlock]
  rcases decoded : t.registry.decodeBlock b with ⟨logs, d | _ | data⟩
  · exact .undecoded decoded
  · exact .absent decoded
  · simp only
    rcases rendered : t.renderer data b with d | source
    · exact .unrendered decoded rendered
    · simp only
      rcases compiled : compileSource source with d | body
      · exact .uncompiled decoded rendered compiled
      · exact .made decoded rendered compiled

/-- Where an error of a block comes from. -/
theorem compileBlock_error (h : (t.compileBlock b).2 = .error e) :
    (t.registry.decodeBlock b).2 = .error e ∨
      ∃ data, (t.registry.decodeBlock b).2 = .ok (some data) ∧
        (t.renderer data b = .error e ∨
          ∃ source, t.renderer data b = .ok source ∧ compileSource source = .error e) := by
  have work := t.blockWork b
  generalize t.compileBlock b = result at h work
  cases work with
  | undecoded decoded =>
    cases h
    exact .inl (congrArg Prod.snd decoded)
  | absent => cases h
  | unrendered decoded rendered =>
    cases h
    exact .inr ⟨_, congrArg Prod.snd decoded, .inl rendered⟩
  | uncompiled decoded rendered compiled =>
    cases h
    exact .inr ⟨_, congrArg Prod.snd decoded, .inr ⟨_, rendered, compiled⟩⟩
  | made => cases h

/-- Where a fragment comes from. -/
theorem compileBlock_fragment (h : (t.compileBlock b).2 = .ok (some f)) :
    ∃ data body, (t.registry.decodeBlock b).2 = .ok (some data) ∧
      t.renderer data b = .ok f.source ∧ compileSource f.source = .ok body ∧
      f.program = Program.ofBody body ∧ f.span = b.span := by
  have work := t.blockWork b
  generalize t.compileBlock b = result at h work
  cases work with
  | undecoded => cases h
  | absent => cases h
  | unrendered => cases h
  | uncompiled => cases h
  | made decoded rendered compiled =>
    cases h
    exact ⟨_, _, congrArg Prod.snd decoded, rendered, compiled, rfl, rfl⟩

/-! ### The children -/

/-- The work on the node ends well. -/
def Compiles (t : Transform) (n : Node) : Prop := ∃ o, (t.compileNode n).2 = .ok o

theorem not_compiles_of_error (h : (t.compileNode c).2 = .error e) : ¬ t.Compiles c := by
  rintro ⟨o, ok⟩
  rw [h] at ok
  cases ok

/-- What then stands in the place of the node: the fragment for it, if there is
one, and otherwise the node itself. -/
def replacement (t : Transform) (n : Node) : Node :=
  match (t.compileNode n).2 with
  | .ok (some f) => .fragment f
  | _ => n

/-- What a pass may turn a node into.  A block is kept or becomes the fragment
that was made for it; every other node is kept. -/
inductive Turns (t : Transform) : Node → Node → Prop where
  | kept (n : Node) : Turns t n n
  | replaced {b : Block} {f : Fragment} {data : Data} {body : List Esm.Item}
      (decoded : (t.registry.decodeBlock b).2 = .ok (some data))
      (rendered : t.renderer data b = .ok f.source)
      (compiled : compileSource f.source = .ok body)
      (program : f.program = Program.ofBody body)
      (span : f.span = b.span) : Turns t (.block b) (.fragment f)

theorem turns_replacement (t : Transform) (n : Node) : t.Turns n (t.replacement n) := by
  rcases result : (t.compileNode n).2 with e | _ | f
  · rw [replacement, result]
    exact .kept n
  · rw [replacement, result]
    exact .kept n
  · rw [replacement, result]
    cases n with
    | block b =>
      obtain ⟨data, body, decoded, rendered, compiled, program, span⟩ :=
        compileBlock_fragment result
      exact .replaced decoded rendered compiled program span
    | fragment g => cases result
    | markdown m => cases result

/-! ### What stands in the place of a node -/

theorem replacement_of_none (h : (t.compileNode c).2 = .ok none) : t.replacement c = c := by
  rw [replacement, h]

theorem replacement_of_some (h : (t.compileNode c).2 = .ok (some f)) :
    t.replacement c = .fragment f := by
  rw [replacement, h]

@[simp] theorem replacement_fragment (t : Transform) (f : Fragment) :
    t.replacement (.fragment f) = .fragment f := rfl

/-- Nothing is left to do on what stands in the place of a node: it is a fragment,
or a node that there was nothing to do on. -/
theorem compileNode_replacement (h : t.Compiles c) :
    (t.compileNode (t.replacement c)).2 = .ok none := by
  obtain ⟨_ | f, h⟩ := h
  · rw [replacement_of_none h, h]
  · rw [replacement_of_some h]
    rfl

/-- A fragment in the place of a node was there before, or was made of a block. -/
theorem replacement_eq_fragment (h : t.replacement c = .fragment f) :
    c = .fragment f ∨ ∃ b, c = .block b ∧ (t.compileBlock b).2 = .ok (some f) := by
  rcases result : (t.compileNode c).2 with e | _ | g
  · rw [replacement, result] at h
    exact .inl h
  · rw [replacement_of_none result] at h
    exact .inl h
  · rw [replacement_of_some result] at h
    cases h
    cases c with
    | block b => exact .inr ⟨b, rfl, result⟩
    | fragment g => cases result
    | markdown m => cases result

/-! ### One child after another -/

/-- A child on which the work ends well is replaced, and the pass goes on. -/
theorem runChildren_cons_of_compiles (h : t.Compiles c) (cs : List Node) :
    (t.runChildren (c :: cs)).1 = t.replacement c :: (t.runChildren cs).1 ∧
      (t.runChildren (c :: cs)).2.2.2 = (t.runChildren cs).2.2.2 := by
  obtain ⟨o, h⟩ := h
  rcases result : t.compileNode c with ⟨logs, d | _ | f⟩
  · rw [result] at h
    cases h
  · rw [runChildren, replacement, result]
    exact ⟨rfl, rfl⟩
  · rw [runChildren, replacement, result]
    exact ⟨rfl, rfl⟩

/-- A child that fails ends the pass. -/
theorem runChildren_cons_of_error (h : (t.compileNode c).2 = .error e) (cs : List Node) :
    (t.runChildren (c :: cs)).1 = c :: cs ∧ (t.runChildren (c :: cs)).2.2.2 = some e := by
  rcases result : t.compileNode c with ⟨logs, d | o⟩
  · rw [result] at h
    cases h
    rw [runChildren, result]
    exact ⟨rfl, rfl⟩
  · rw [result] at h
    cases h

/-- The records of a child that the pass gets over come before those of the others. -/
theorem logs_runChildren_cons (h : t.Compiles c) (cs : List Node) :
    (t.runChildren (c :: cs)).2.1 = (t.compileNode c).1 ++ (t.runChildren cs).2.1 := by
  obtain ⟨o, h⟩ := h
  rcases result : t.compileNode c with ⟨logs, d | _ | f⟩
  · rw [result] at h
    cases h
  · rw [runChildren, result]
  · rw [runChildren, result]

theorem logs_runChildren_cons_of_error (h : (t.compileNode c).2 = .error e) (cs : List Node) :
    (t.runChildren (c :: cs)).2.1 = (t.compileNode c).1 := by
  rcases result : t.compileNode c with ⟨logs, d | o⟩
  · rw [runChildren, result]
  · rw [result] at h
    cases h

/-- Either all children are replaced, or those before the first one that fails.
By induction on the children: the pass looks at the first one only. -/
theorem runChildren_cases (t : Transform) (cs : List Node) :
    ((∀ c ∈ cs, t.Compiles c) ∧
      (t.runChildren cs).1 = cs.map t.replacement ∧ (t.runChildren cs).2.2.2 = none) ∨
    ∃ before c after e, cs = before ++ c :: after ∧ (∀ b ∈ before, t.Compiles b) ∧
      (t.compileNode c).2 = .error e ∧
      (t.runChildren cs).1 = before.map t.replacement ++ c :: after ∧
      (t.runChildren cs).2.2.2 = some e := by
  induction cs with
  | nil => exact .inl ⟨fun c hc => (nomatch hc), rfl, rfl⟩
  | cons c cs ih =>
    rcases result : (t.compileNode c).2 with e | o
    · obtain ⟨children, error⟩ := runChildren_cons_of_error result cs
      exact .inr ⟨[], c, cs, e, rfl, fun b hb => (nomatch hb), result, children, error⟩
    · have hc : t.Compiles c := ⟨o, result⟩
      obtain ⟨children, error⟩ := runChildren_cons_of_compiles hc cs
      rcases ih with ⟨all, ihc, ihe⟩ | ⟨before, d, after, e, rfl, all, fails, ihc, ihe⟩
      · refine .inl ⟨List.forall_mem_cons.mpr ⟨hc, all⟩, ?_, error.trans ihe⟩
        rw [children, ihc, List.map_cons]
      · refine .inr ⟨c :: before, d, after, e, rfl, List.forall_mem_cons.mpr ⟨hc, all⟩, fails, ?_,
          error.trans ihe⟩
        rw [children, ihc, List.map_cons, List.cons_append]

/-- A child is left as it was, or what stands in its place is there now. -/
theorem runChildren_getElem? (t : Transform) (cs : List Node) (i : Nat) :
    (t.runChildren cs).1[i]? = cs[i]? ∨ (t.runChildren cs).1[i]? = cs[i]?.map t.replacement := by
  rcases t.runChildren_cases cs with
    ⟨-, children, -⟩ | ⟨before, c, after, e, rfl, -, -, children, -⟩
  · rw [children, List.getElem?_map]
    exact .inr rfl
  · rw [children]
    rcases Nat.lt_or_ge i before.length with inside | behind
    · have inside' : i < (before.map t.replacement).length := by rwa [List.length_map]
      rw [List.getElem?_append_left inside', List.getElem?_append_left inside, List.getElem?_map]
      exact .inr rfl
    · have behind' : (before.map t.replacement).length ≤ i := by rwa [List.length_map]
      rw [List.getElem?_append_right behind', List.getElem?_append_right behind, List.length_map]
      exact .inl rfl

/-! ### The pass -/

theorem run_root (t : Transform) (r : Root) :
    (t.run r).root = ⟨(t.runChildren r.children).1, r.span⟩ := by
  rcases result : t.runChildren r.children with ⟨children, logs, count, _ | e⟩
  · simp only [run, result]
  · simp only [run, result]

theorem run_span (t : Transform) (r : Root) : (t.run r).root.span = r.span := by
  rw [run_root]

theorem run_error (t : Transform) (r : Root) :
    (t.run r).error = (t.runChildren r.children).2.2.2 := by
  rcases result : t.runChildren r.children with ⟨children, logs, count, _ | e⟩
  · simp only [run, result]
  · simp only [run, result]

/-- A pass has the records of its children, and a last one if it ends without an error. -/
theorem run_logs (t : Transform) (r : Root) :
    (t.run r).logs = (t.runChildren r.children).2.1 ++ match (t.run r).error with
      | none => [.replaced (t.runChildren r.children).2.2.1 (t.run r).root.children.length]
      | some _ => [] := by
  rcases result : t.runChildren r.children with ⟨children, logs, count, _ | e⟩
  · simp only [run, result]
  · simp only [run, result, List.append_nil]

/-- A pass ends without an error if the work on every child ends well. -/
theorem run_error_eq_none_iff {r : Root} :
    (t.run r).error = none ↔ ∀ c ∈ r.children, t.Compiles c := by
  rw [run_error]
  rcases t.runChildren_cases r.children with
    ⟨all, -, error⟩ | ⟨before, c, after, e, split, -, fails, -, error⟩
  · exact iff_of_true error all
  · have here : c ∈ r.children := split ▸ List.mem_append_right before List.mem_cons_self
    rw [error]
    exact iff_of_false (fun h => nomatch h) fun all => not_compiles_of_error fails (all c here)

/-- Then every child is replaced. -/
theorem run_root_of_compiles {r : Root} (all : ∀ c ∈ r.children, t.Compiles c) :
    (t.run r).root = ⟨r.children.map t.replacement, r.span⟩ := by
  rw [run_root]
  rcases t.runChildren_cases r.children with
    ⟨-, children, -⟩ | ⟨before, c, after, e, split, -, fails, -, -⟩
  · rw [children]
  · have here : c ∈ r.children := split ▸ List.mem_append_right before List.mem_cons_self
    exact absurd (all c here) (not_compiles_of_error fails)

/-- A pass keeps every fragment in its place, also if it fails. -/
theorem run_fragment {r : Root} {i : Nat} (h : r.children[i]? = some (.fragment f)) :
    (t.run r).root.children[i]? = some (.fragment f) := by
  rw [run_root]
  rcases t.runChildren_getElem? r.children i with kept | replaced
  · exact kept.trans h
  · rw [h] at replaced
    exact replaced

theorem turns_map_replacement (t : Transform) (cs : List Node) :
    List.Forall₂ t.Turns cs (cs.map t.replacement) := by
  rw [List.forall₂_map_right_iff, List.forall₂_same]
  intro c _
  exact t.turns_replacement c

/-- A pass in full.  If the work on every child ends well, the pass ends without
an error and every child is replaced.  Otherwise it ends with the error of the
first child that fails; the children before that one are replaced, and it and
the ones after it are kept.  In both cases the children stay in their places and
the place of the document stays; a child that is no block stays as it is; and a
fragment has the place of its block and the source that was rendered for it. -/
theorem run_replaces_up_to_first_failure (t : Transform) (r : Root) :
    (((∀ c ∈ r.children, t.Compiles c) ∧ (t.run r).error = none ∧
        (t.run r).root.children = r.children.map t.replacement) ∨
      ∃ before c after e, r.children = before ++ c :: after ∧ (∀ b ∈ before, t.Compiles b) ∧
        (t.compileNode c).2 = .error e ∧ (t.run r).error = some e ∧
        (t.run r).root.children = before.map t.replacement ++ c :: after) ∧
    (t.run r).root.children.length = r.children.length ∧
    (t.run r).root.span = r.span ∧
    List.Forall₂ t.Turns r.children (t.run r).root.children := by
  rw [run_root, run_error]
  rcases t.runChildren_cases r.children with
    ⟨all, children, error⟩ | ⟨before, c, after, e, split, all, fails, children, error⟩
  · have turns := t.turns_map_replacement r.children
    rw [← children] at turns
    exact ⟨.inl ⟨all, error, children⟩, turns.length_eq.symm, rfl, turns⟩
  · have turns : List.Forall₂ t.Turns r.children (t.runChildren r.children).1 := by
      rw [children, split]
      have kept : List.Forall₂ t.Turns (c :: after) (c :: after) :=
        List.forall₂_same.mpr fun n _ => .kept n
      exact List.rel_append (t.turns_map_replacement before) kept
    refine ⟨.inr ⟨before, c, after, e, split, all, fails, error, children⟩, ?_, rfl, turns⟩
    exact turns.length_eq.symm

/-- The error of a pass is the error of a block. -/
theorem run_error_of_block {r : Root} (h : (t.run r).error = some e) :
    ∃ b, (t.compileBlock b).2 = .error e := by
  rw [run_error] at h
  rcases t.runChildren_cases r.children with
    ⟨-, -, error⟩ | ⟨-, c, -, e', -, -, fails, -, error⟩
  · rw [h] at error
    cases error
  · rw [h] at error
    cases error
    cases c with
    | block b => exact ⟨b, fails⟩
    | fragment g => cases fails
    | markdown m => cases fails

/-- Where an error of a pass comes from. -/
theorem run_error_cases {r : Root} (h : (t.run r).error = some e) :
    (∃ tag message location, e = .decode tag message location) ∨
      ∃ data b, t.renderer data b = .error e ∨
        ∃ source, t.renderer data b = .ok source ∧ compileSource source = .error e := by
  obtain ⟨b, failed⟩ := run_error_of_block h
  rcases compileBlock_error failed with undecoded | ⟨data, -, rest⟩
  · obtain ⟨decoder, failure, -, -, rfl⟩ := Registry.decodeBlock_error undecoded
    exact .inl ⟨_, _, _, rfl⟩
  · exact .inr ⟨data, b, rest⟩

/-- A block whose source does not compile fails. -/
theorem compileBlock_of_uncompiled {data : Data} {source : String}
    (decoded : (t.registry.decodeBlock b).2 = .ok (some data))
    (rendered : t.renderer data b = .ok source) (uncompiled : compileSource source = .error e) :
    (t.compileBlock b).2 = .error e := by
  rcases result : t.registry.decodeBlock b with ⟨logs, outcome⟩
  rw [result] at decoded
  cases decoded
  rw [compileBlock, result]
  simp only [rendered, uncompiled]

/-- A document with one block fails if the block does. -/
theorem run_error_single (failed : (t.compileBlock b).2 = .error e) (span : Option Markdown.Span) :
    (t.run ⟨[.block b], span⟩).error = some e := by
  have failed' : (t.compileNode (.block b)).2 = .error e := failed
  rw [run_error]
  exact (runChildren_cons_of_error failed' []).2

/-- A pass whose renderer writes only what compiles fails in decoding only. -/
theorem run_error_of_total {r : Root}
    (total : ∀ data b, ∃ source body, t.renderer data b = .ok source ∧
      compileSource source = .ok body)
    (h : (t.run r).error = some e) : ∃ tag message location, e = .decode tag message location := by
  rcases run_error_cases h with decoded | ⟨data, b, unrendered⟩
  · exact decoded
  · obtain ⟨source, body, rendered, compiled⟩ := total data b
    rcases unrendered with unrendered | ⟨source', rendered', uncompiled⟩
    · rw [rendered] at unrendered
      cases unrendered
    · rw [rendered] at rendered'
      cases rendered'
      rw [compiled] at uncompiled
      cases uncompiled

/-! ### A transform for examples -/

/-- Reads the blocks with one tag, and takes the text of a block for the source of
its fragment.  A question mark is not decoded. -/
def echo (tag : Tag) : Transform where
  registry := Registry.empty.register tag fun text =>
    if text = "?" then .error ⟨"a question", none⟩ else .ok (.str text)
  renderer _ b := .ok b.value

end Transform
end Frontmatter
