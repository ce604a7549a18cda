/-
Frontmatter/Proofs/Document/Stages.lean

Several transforms, one after another.

Each transform goes over the document that the one before has left, and the first
error ends the whole (`Transform.runAll`).  Seen from one child, the transforms are
asked one after another until one makes a fragment of it, and those behind that one
have no say any more (`Transform.settle`).

* `runAll_eq_ok_iff` exchanges the two: the transforms run over the document if and
  only if they settle each child, and the document then has what they settle on.
* `runAll_first_wins` spells it out: which transforms have to end well on which
  child, and what stands in the end in the place of each.
* `runAll_perm`: the order does not matter if no two transforms read the same tag.
-/
import Frontmatter.Document.Pipeline
import Frontmatter.Proofs.Document.Pass
import Mathlib.Data.List.Perm.Basic

namespace Frontmatter

/-- No tag is registered in both. -/
def Registry.Disjoint (r s : Registry) : Prop :=
  ∀ tag, ¬ (r.isRegistered tag = true ∧ s.isRegistered tag = true)

theorem Registry.Disjoint.symm {r s : Registry} (h : r.Disjoint s) : s.Disjoint r :=
  fun tag both => h tag both.symm

namespace Transform

variable {t u : Transform} {ts us : List Transform} {c d : Node} {r r' : Root} {e : Error}

/-! ### One document -/

/-- Runs the transforms one after another over a document.  The first error ends it. -/
def runAll (ts : List Transform) (r : Root) : Except Error Root :=
  (Pipeline.runTree (ts.map stage) r).2

theorem runAll_nil (r : Root) : runAll [] r = .ok r := rfl

theorem runAll_cons (t : Transform) (ts : List Transform) (r : Root) :
    runAll (t :: ts) r = match (t.run r).error with
      | none => runAll ts (t.run r).root
      | some e => .error e := by
  rw [runAll, List.map_cons, Pipeline.runTree, stage]
  rcases (t.run r).error with _ | e
  · rfl
  · rfl

theorem runAll_cons_eq_ok_iff :
    runAll (t :: ts) r = .ok r' ↔ (t.run r).error = none ∧ runAll ts (t.run r).root = .ok r' := by
  rw [runAll_cons]
  rcases (t.run r).error with _ | e
  · simp
  · simp

/-- The transforms behind some others run over what those have left. -/
theorem runAll_append (earlier later : List Transform) (r : Root) :
    runAll (earlier ++ later) r = (runAll earlier r).bind (runAll later) := by
  induction earlier generalizing r with
  | nil => rfl
  | cons t earlier ih =>
    rw [List.cons_append, runAll_cons, runAll_cons]
    rcases (t.run r).error with _ | e
    · exact ih (t.run r).root
    · rfl

/-! ### One child -/

/-- What the transforms settle on for a node.  They are asked one after another; the
first one that makes a fragment settles it, and the first one that fails ends it. -/
def settle : List Transform → Node → Except Error Node
  | [], n => .ok n
  | t :: ts, n =>
    match (t.compileNode n).2 with
    | .error e => .error e
    | .ok none => settle ts n
    | .ok (some f) => .ok (.fragment f)

/-- There is nothing to settle about a fragment. -/
theorem settle_fragment (ts : List Transform) (f : Fragment) :
    settle ts (.fragment f) = .ok (.fragment f) := by
  induction ts with
  | nil => rfl
  | cons t ts ih => exact ih

theorem settle_cons_of_none (h : (t.compileNode c).2 = .ok none) (ts : List Transform) :
    settle (t :: ts) c = settle ts c := by
  rw [settle, h]

theorem settle_cons_of_some {f : Fragment} (h : (t.compileNode c).2 = .ok (some f))
    (ts : List Transform) : settle (t :: ts) c = .ok (.fragment f) := by
  rw [settle, h]

theorem settle_cons_of_error (h : (t.compileNode c).2 = .error e) (ts : List Transform) :
    settle (t :: ts) c = .error e := by
  rw [settle, h]

/-- The transforms behind the first one are asked about what that one puts in the place
of the node. -/
theorem settle_cons_eq_ok_iff :
    settle (t :: ts) c = .ok d ↔ t.Compiles c ∧ settle ts (t.replacement c) = .ok d := by
  rcases result : (t.compileNode c).2 with e | _ | f
  · rw [settle_cons_of_error result]
    exact iff_of_false (fun h => nomatch h) fun ⟨ok, _⟩ => not_compiles_of_error result ok
  · rw [settle_cons_of_none result, replacement_of_none result]
    exact (and_iff_right ⟨none, result⟩).symm
  · rw [settle_cons_of_some result, replacement_of_some result, settle_fragment]
    exact (and_iff_right ⟨some f, result⟩).symm

/-! ### Documents and their children -/

/-- Going over the document once for each transform is asking all transforms once for
each child.  By induction on the transforms: the first pass replaces every child by
what the others are asked about. -/
theorem runAll_eq_ok_iff :
    runAll ts r = .ok r' ↔
      List.Forall₂ (fun c d => settle ts c = .ok d) r.children r'.children ∧ r'.span = r.span := by
  induction ts generalizing r with
  | nil =>
    -- both sides say that the two documents are the same
    rw [runAll_nil]
    simp only [settle, Except.ok.injEq, List.forall₂_eq_eq_eq]
    obtain ⟨children, span⟩ := r
    obtain ⟨children', span'⟩ := r'
    simp only [Root.mk.injEq]
    exact and_congr_right fun _ => eq_comm
  | cons t ts ih =>
    simp only [runAll_cons_eq_ok_iff, run_error_eq_none_iff, settle_cons_eq_ok_iff,
      List.forall₂_and_left, and_assoc]
    -- on both sides the first transform gets over every child, and the others go on from there
    refine and_congr_right fun all => ?_
    rw [ih, run_root_of_compiles all, List.forall₂_map_left_iff]

/-! ### The first one that makes a fragment -/

/-- The fragment that the transform makes of the node, if it makes one. -/
def fragment? (t : Transform) (n : Node) : Option Fragment :=
  match (t.compileNode n).2 with
  | .ok o => o
  | .error _ => none

theorem fragment?_of_ok {o : Option Fragment} (h : (t.compileNode c).2 = .ok o) :
    t.fragment? c = o := by
  rw [fragment?, h]

/-- The transform is asked about the node: no transform before it makes a fragment of
the node.  The first one that does is the last one that is asked. -/
def Asked (ts : List Transform) (n : Node) (t : Transform) : Prop :=
  ∃ before after, ts = before ++ t :: after ∧ ∀ u ∈ before, u.fragment? n = none

theorem asked_cons : Asked (t :: ts) c u ↔ u = t ∨ t.fragment? c = none ∧ Asked ts c u := by
  constructor
  · rintro ⟨_ | ⟨v, before⟩, after, split, silent⟩
    · cases split
      exact .inl rfl
    · cases split
      obtain ⟨first, silent⟩ := List.forall_mem_cons.mp silent
      exact .inr ⟨first, before, after, rfl, silent⟩
  · rintro (rfl | ⟨first, before, after, rfl, silent⟩)
    · exact ⟨[], ts, rfl, fun v hv => nomatch hv⟩
    · exact ⟨t :: before, after, rfl, List.forall_mem_cons.mpr ⟨first, silent⟩⟩

/-- The fragment that the first transform makes that makes one; the node itself if there
is none. -/
def firstFragment (ts : List Transform) (n : Node) : Node :=
  match ts.findSome? (·.fragment? n) with
  | some f => .fragment f
  | none => n

theorem firstFragment_cons (t : Transform) (ts : List Transform) (n : Node) :
    firstFragment (t :: ts) n = match t.fragment? n with
      | some f => .fragment f
      | none => firstFragment ts n := by
  rw [firstFragment, List.findSome?_cons]
  rcases t.fragment? n with _ | f
  · rfl
  · rfl

/-- The transforms settle a node if and only if the work of those that are asked ends
well, and then they settle on the first fragment.  By induction on the transforms, and
for each one by what it comes to. -/
theorem settle_eq_ok_iff :
    settle ts c = .ok d ↔ (∀ t, Asked ts c t → t.Compiles c) ∧ d = firstFragment ts c := by
  induction ts with
  | nil =>
    have nobody : ∀ t, Asked [] c t → t.Compiles c := by
      rintro t ⟨before, after, split, -⟩
      exact absurd split (List.append_ne_nil_of_right_ne_nil before (List.cons_ne_nil t after)).symm
    rw [settle, Except.ok.injEq, eq_comm]
    exact (and_iff_right nobody).symm
  | cons t ts ih =>
    simp only [asked_cons, firstFragment_cons]
    rcases result : (t.compileNode c).2 with e | _ | f
    · -- the first transform is always asked, and here it fails
      rw [settle_cons_of_error result]
      exact iff_of_false (fun h => nomatch h) fun ⟨all, _⟩ =>
        not_compiles_of_error result (all t (.inl rfl))
    · -- it makes nothing, and those behind it are asked
      rw [settle_cons_of_none result, ih, fragment?_of_ok result]
      refine and_congr_left fun _ => ⟨fun all u hu => ?_, fun all u hu => all u (.inr ⟨rfl, hu⟩)⟩
      rcases hu with rfl | ⟨-, hu⟩
      · exact ⟨none, result⟩
      · exact all u hu
    · -- it makes a fragment, and no other one is asked
      rw [settle_cons_of_some result, fragment?_of_ok result, Except.ok.injEq, eq_comm]
      refine (and_iff_right fun u hu => ?_).symm
      rcases hu with rfl | ⟨silent, -⟩
      · exact ⟨some f, result⟩
      · cases silent

/-- The transforms run over a document if and only if the work of each one ends well on
every child that it is asked about; each child then becomes the first fragment. -/
theorem runAll_eq_ok_iff_asked :
    runAll ts r = .ok r' ↔ (∀ c ∈ r.children, ∀ t, Asked ts c t → t.Compiles c) ∧
      r' = ⟨r.children.map (firstFragment ts), r.span⟩ := by
  obtain ⟨children, span⟩ := r
  obtain ⟨children', span'⟩ := r'
  have first : List.Forall₂ (fun c d => d = firstFragment ts c) children children' ↔
      children' = children.map (firstFragment ts) := by
    rw [eq_comm, ← List.forall₂_eq_eq_eq, List.forall₂_map_left_iff]
    simp only [eq_comm]
  simp only [runAll_eq_ok_iff, settle_eq_ok_iff, List.forall₂_and_left, first, and_assoc,
    Root.mk.injEq]

/-! ### Transforms that read different tags -/

/-- A transform makes nothing of a block with a tag that it does not read. -/
theorem compileNode_of_not_registered {b : Block} (h : t.registry.isRegistered b.tag = false) :
    (t.compileNode (.block b)).2 = .ok none := by
  have unknown : t.registry.find? b.tag = none := Option.isNone_iff_eq_none.mp (by
    rwa [Registry.isRegistered, Option.isSome_eq_false_iff] at h)
  rw [compileNode, compileBlock, Registry.decodeBlock, unknown]

/-- Of two transforms that read different tags, one has nothing to do on a node. -/
theorem compileNode_of_disjoint (h : t.registry.Disjoint u.registry) (n : Node) :
    (t.compileNode n).2 = .ok none ∨ (u.compileNode n).2 = .ok none := by
  cases n with
  | fragment f => exact .inl rfl
  | markdown m => exact .inl rfl
  | block b =>
    rcases ht : t.registry.isRegistered b.tag with _ | _
    · exact .inl (compileNode_of_not_registered ht)
    · rcases hu : u.registry.isRegistered b.tag with _ | _
      · exact .inr (compileNode_of_not_registered hu)
      · exact absurd ⟨ht, hu⟩ (h b.tag)

/-- A transform that makes nothing of the node is passed over, also behind another one. -/
theorem settle_cons_cons_of_none (h : (u.compileNode c).2 = .ok none) (ts : List Transform) :
    settle (t :: u :: ts) c = settle (t :: ts) c := by
  rw [settle, settle_cons_of_none h]
  rfl

theorem settle_swap (h : t.registry.Disjoint u.registry) (ts : List Transform) (c : Node) :
    settle (t :: u :: ts) c = settle (u :: t :: ts) c := by
  rcases compileNode_of_disjoint h c with none | none
  · rw [settle_cons_of_none none, settle_cons_cons_of_none none]
  · rw [settle_cons_of_none none, settle_cons_cons_of_none none]

/-- Transforms that read different tags settle on the same, or fail with the same error,
in every order. -/
theorem settle_perm (disjoint : ts.Pairwise fun t u => t.registry.Disjoint u.registry)
    (perm : ts.Perm us) (c : Node) : settle ts c = settle us c := by
  induction perm with
  | nil => rfl
  | cons t _ ih =>
    rw [settle, settle, ih disjoint.of_cons]
  | swap t u ts =>
    exact settle_swap (List.rel_of_pairwise_cons disjoint List.mem_cons_self) ts c
  | trans perm _ ih₁ ih₂ =>
    exact (ih₁ disjoint).trans (ih₂ (perm.pairwise disjoint Registry.Disjoint.symm))

/-! ### Running them all -/

/-- A fragment stays if transforms run over the document that it is in. -/
theorem runAll_fragment {i : Nat} {f : Fragment} (h : r.children[i]? = some (.fragment f))
    (ok : runAll ts r = .ok r') : r'.children[i]? = some (.fragment f) := by
  have fixed : firstFragment ts (.fragment f) = .fragment f :=
    (settle_eq_ok_iff.mp (settle_fragment ts f)).2.symm
  rw [(runAll_eq_ok_iff_asked.mp ok).2, List.getElem?_map, h, Option.map_some, fixed]

/-- The first one wins.  The transforms run over the document without an error if and only
if the work of each one ends well on each child that it is asked about, that is, for each
child, all transforms up to the first one that makes a fragment of it, or all if none
does.  If they do, every child has become the fragment of the first transform that makes
one, or is what it was, and they are in their places.  A fragment that some of the
transforms have made stays where it is when another one has its turn, also if that one
fails, and it is there in the end. -/
theorem runAll_first_wins (ts : List Transform) (r : Root) :
    ((∃ r', runAll ts r = .ok r') ↔ ∀ c ∈ r.children, ∀ t, Asked ts c t → t.Compiles c) ∧
    (∀ r', runAll ts r = .ok r' → r' = ⟨r.children.map (firstFragment ts), r.span⟩) ∧
    ∀ earlier later left, ts = earlier ++ later → runAll earlier r = .ok left →
      ∀ (i : Nat) (f : Fragment), left.children[i]? = some (.fragment f) →
        (∀ t : Transform, (t.run left).root.children[i]? = some (.fragment f)) ∧
        ∀ r', runAll ts r = .ok r' → r'.children[i]? = some (.fragment f) := by
  refine ⟨⟨?_, fun all => ?_⟩, fun r' h => (runAll_eq_ok_iff_asked.mp h).2, ?_⟩
  · rintro ⟨r', h⟩
    exact (runAll_eq_ok_iff_asked.mp h).1
  · exact ⟨_, runAll_eq_ok_iff_asked.mpr ⟨all, rfl⟩⟩
  · rintro earlier later left rfl made i f here
    refine ⟨fun t => run_fragment here, fun r' ok => ?_⟩
    rw [runAll_append, made] at ok
    exact runAll_fragment here ok

/-- Both transforms read YAML, and both would make a fragment of the block.  The first one
does. -/
theorem runAll_first_wins_of_two :
    let second : Transform := ⟨(echo .yaml).registry, fun _ _ => .ok "b"⟩
    let block : Node := .block ⟨.yaml, "a", none⟩
    ∃ r', runAll [echo .yaml, second] ⟨[block], none⟩ = .ok r' ∧
      r' = ⟨[firstFragment [echo .yaml, second] block], none⟩ ∧
      r'.fragments.map (·.source) = ["a"] ∧
      (runAll [second] ⟨[block], none⟩).toOption.map (·.fragments.map (·.source)) = some ["b"] := by
  intro second block
  obtain ⟨r', ok⟩ := (runAll_first_wins [echo .yaml, second] ⟨[block], none⟩).1.mpr <| by
    intro c hc t ht
    obtain rfl := List.mem_singleton.mp hc
    rcases asked_cons.mp ht with rfl | ⟨silent, -⟩
    · exact ⟨_, rfl⟩
    · cases silent
  have first := (runAll_first_wins _ _).2.1 r' ok
  refine ⟨r', ok, first, ?_, rfl⟩
  rw [first]
  rfl

/-- Transforms that read different tags may run in every order.  They run without an
error in the one order if and only if they do in the other, and then they end with the
same document. -/
theorem runAll_perm {ts us : List Transform}
    (disjoint : ts.Pairwise fun t u => t.registry.Disjoint u.registry) (perm : ts.Perm us)
    (r r' : Root) : runAll ts r = .ok r' ↔ runAll us r = .ok r' := by
  simp only [runAll_eq_ok_iff, settle_perm disjoint perm]

/-- YAML first or TOML first. -/
theorem runAll_perm_yaml_toml :
    let r : Root := ⟨[.block ⟨.yaml, "a", none⟩, .block ⟨.toml, "b", none⟩], none⟩
    (echo .yaml).registry.Disjoint (echo .toml).registry ∧
      ∃ r', runAll [echo .yaml, echo .toml] r = .ok r' ∧
        runAll [echo .toml, echo .yaml] r = .ok r' ∧
        r'.fragments.map (·.source) = ["a", "b"] := by
  intro r
  have apart : (echo .yaml).registry.Disjoint (echo .toml).registry := by
    rintro tag ⟨yaml, toml⟩
    cases tag with
    | yaml => cases toml
    | toml => cases yaml
    | custom name => cases yaml
  have disjoint : [echo .yaml, echo .toml].Pairwise
      fun t u => t.registry.Disjoint u.registry := List.pairwise_pair.mpr apart
  obtain ⟨r', ok⟩ : ∃ r', runAll [echo .yaml, echo .toml] r = .ok r' := ⟨_, rfl⟩
  refine ⟨apart, r', ok, (runAll_perm disjoint (.swap _ _ []) r r').mp ok, ?_⟩
  cases ok
  rfl

end Transform
end Frontmatter
