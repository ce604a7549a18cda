/-
Frontmatter/Proofs/Document/Pipeline.lean

Pipelines that are put together stage by stage.

A pipeline keeps its stages on texts apart from its stages on trees, so it does not matter in
which order the one kind was added to the other (`assemble_eq`).  What it comes to is the last
text, read as Markdown, and then one tree stage after another up to the first error (`parse_eq`).
So a text stage in front is a change of the input, and a tree stage behind is a step that is
bound to the result of the others.
-/
import Frontmatter.Document.Pipeline
import Frontmatter.Proofs.Document.Retry
import Mathlib

namespace Frontmatter

variable {input : String} {e : Error} {r root : Root}

/-! ### Putting a pipeline together -/

/-- A stage that is added to a pipeline. -/
inductive Addition where
  | text (stage : TextStage)
  | tree (stage : TreeStage)

namespace Addition

def text? : Addition → Option TextStage
  | text stage => some stage
  | tree _ => none

def tree? : Addition → Option TreeStage
  | text _ => none
  | tree stage => some stage

@[simp] theorem text?_text (stage : TextStage) : (text stage).text? = some stage := rfl

@[simp] theorem text?_tree (stage : TreeStage) : (tree stage).text? = none := rfl

@[simp] theorem tree?_text (stage : TextStage) : (text stage).tree? = none := rfl

@[simp] theorem tree?_tree (stage : TreeStage) : (tree stage).tree? = some stage := rfl

end Addition

namespace Pipeline

def add (p : Pipeline) : Addition → Pipeline
  | .text stage => p.withTextStage stage
  | .tree stage => p.withTreeStage stage

/-- The pipeline that the stages make when they are added one after another. -/
def assemble (o : Markdown.Options) (stages : List Addition) : Pipeline :=
  stages.foldl add (plain o)

theorem foldl_add (stages : List Addition) (p : Pipeline) :
    stages.foldl add p = ⟨p.options, p.textStages ++ stages.filterMap Addition.text?,
      p.treeStages ++ stages.filterMap Addition.tree?⟩ := by
  induction stages generalizing p with
  | nil => simp
  | cons stage stages ih =>
    rw [List.foldl_cons, ih]
    cases stage with
    | text stage => simp [add, withTextStage, List.filterMap_cons]
    | tree stage => simp [add, withTreeStage, List.filterMap_cons]

/-- The two kinds of stages are kept apart, each in the order in which they were added. -/
theorem assemble_eq (o : Markdown.Options) (stages : List Addition) :
    assemble o stages
      = ⟨o, stages.filterMap Addition.text?, stages.filterMap Addition.tree?⟩ :=
  foldl_add stages (plain o)

/-! ### What a pipeline comes to -/

/-- The text that stages make of a text. -/
def lastText (stages : List TextStage) (input : String) : String := (runText stages input).2

theorem lastText_cons (stage : TextStage) (stages : List TextStage) (input : String) :
    lastText (stage :: stages) input = lastText stages (stage input) := rfl

/-- The tree that stages make of a tree, or the error of the first one that fails. -/
def lastTree (stages : List TreeStage) (r : Root) : Except Error Root := (runTree stages r).2

theorem lastTree_cons (stage : TreeStage) (stages : List TreeStage) (r : Root) :
    lastTree (stage :: stages) r = (stage r).bind (lastTree stages) := by
  rw [lastTree, runTree]
  rcases stage r with e | next
  · rfl
  · rfl

theorem lastTree_singleton (stage : TreeStage) : lastTree [stage] = stage := by
  funext r
  rw [lastTree_cons]
  rcases stage r with e | next
  · rfl
  · rfl

theorem lastTree_append (before after : List TreeStage) (r : Root) :
    lastTree (before ++ after) r = (lastTree before r).bind (lastTree after) := by
  induction before generalizing r with
  | nil => rfl
  | cons stage before ih =>
    rw [List.cons_append, lastTree_cons, lastTree_cons]
    rcases stage r with e | next
    · rfl
    · exact ih next

/-- If the last text is not Markdown, no tree stage runs. -/
theorem run_of_unparsed (p : Pipeline)
    (h : Root.parse p.options (lastText p.textStages input) = .error e) :
    p.run input = ((runText p.textStages input).1.map .text, .error e) := by
  rw [lastText] at h
  simp only [run, h]

theorem run_of_parsed (p : Pipeline)
    (h : Root.parse p.options (lastText p.textStages input) = .ok root) :
    p.run input = ((runText p.textStages input).1.map .text
      ++ (runTree p.treeStages root).1.map .tree, lastTree p.treeStages root) := by
  rw [lastText] at h
  simp only [run, h, lastTree]

theorem parse_eq (p : Pipeline) (input : String) :
    p.parse input
      = (Root.parse p.options (lastText p.textStages input)).bind (lastTree p.treeStages) := by
  rw [parse]
  rcases read : Root.parse p.options (lastText p.textStages input) with e | root
  · rw [run_of_unparsed p read]
    rfl
  · rw [run_of_parsed p read]
    rfl

/-! ### One stage more -/

section Stages

variable {o : Markdown.Options} {texts : List TextStage} {before after trees : List TreeStage}
  {stage : TreeStage}

/-- A text stage in front of the others is a change of the input. -/
theorem parse_cons_text (first : TextStage) :
    (Pipeline.mk o (first :: texts) trees).parse input
      = (Pipeline.mk o texts trees).parse (first input) := by
  rw [parse_eq, parse_eq, lastText_cons]

/-- Tree stages behind the others go on from the tree that those have made. -/
theorem parse_append_trees :
    (Pipeline.mk o texts (before ++ after)).parse input
      = ((Pipeline.mk o texts before).parse input).bind (lastTree after) := by
  rw [parse_eq, parse_eq]
  rcases Root.parse o (lastText texts input) with e | root
  · rfl
  · exact lastTree_append before after root

/-- Tree stages that fail make what they make, whatever comes behind them. -/
theorem runTree_append_of_error (failed : lastTree before r = .error e)
    (after : List TreeStage) : runTree (before ++ after) r = runTree before r := by
  induction before generalizing r with
  | nil => cases failed
  | cons first before ih =>
    rw [lastTree_cons] at failed
    rw [List.cons_append, runTree, runTree]
    rcases result : first r with e' | next
    · rfl
    · rw [result] at failed
      simp only [ih failed]

/-- So does a pipeline that fails: it makes what it makes, whatever tree stages come behind. -/
theorem run_append_of_error (failed : (Pipeline.mk o texts before).parse input = .error e)
    (after : List TreeStage) :
    (Pipeline.mk o texts (before ++ after)).run input
      = (Pipeline.mk o texts before).run input := by
  rw [parse_eq] at failed
  rcases read : Root.parse o (lastText texts input) with e' | root
  · rw [run_of_unparsed ⟨o, texts, before ++ after⟩ read, run_of_unparsed ⟨o, texts, before⟩ read]
  · rw [read] at failed
    rw [run_of_parsed ⟨o, texts, before ++ after⟩ read, run_of_parsed ⟨o, texts, before⟩ read,
      lastTree, lastTree, runTree_append_of_error failed after]

/-- Tree stages fail if and only if there is a first one that does. -/
theorem lastTree_eq_error_iff :
    lastTree trees r = .error e ↔ ∃ before stage after root, trees = before ++ stage :: after ∧
      lastTree before r = .ok root ∧ stage root = .error e := by
  constructor
  · intro failed
    induction trees generalizing r with
    | nil => cases failed
    | cons first trees ih =>
      rw [lastTree_cons] at failed
      rcases result : first r with e' | next
      · rw [result] at failed
        cases failed
        exact ⟨[], first, trees, r, rfl, rfl, result⟩
      · rw [result] at failed
        obtain ⟨before, stage, after, root, rfl, made, fails⟩ := ih failed
        refine ⟨first :: before, stage, after, root, rfl, ?_, fails⟩
        rw [lastTree_cons, result]
        exact made
  · rintro ⟨before, stage, after, root, rfl, made, fails⟩
    rw [lastTree_append, made]
    exact (lastTree_cons stage after root).trans (congrArg (Except.bind · _) fails)

end Stages

/-! ### Passes in a row -/

/-- The second of two passes in a row finds nothing to do. -/
theorem stage_bind_stage (t : Transform) (r : Root) : (t.stage r).bind t.stage = t.stage r := by
  rw [Transform.stage]
  rcases error : (t.run r).error with _ | e
  · obtain ⟨⟨error', root⟩, -⟩ := Transform.run_again error
    show t.stage (t.run r).root = .ok (t.run r).root
    rw [Transform.stage, error', error]
    exact congrArg Except.ok root
  · rfl

theorem lastTree_replicate (t : Transform) (k : Nat) (r : Root) :
    lastTree (List.replicate (k + 1) t.stage) r = t.stage r := by
  induction k generalizing r with
  | zero => rw [List.replicate_one, lastTree_singleton]
  | succ k ih =>
    have rest : lastTree (List.replicate (k + 1) t.stage) = t.stage := funext ih
    rw [List.replicate_succ, lastTree_cons, rest, stage_bind_stage]

theorem filterMap_text?_replicate (stage : TreeStage) (k : Nat) :
    (List.replicate k (Addition.tree stage)).filterMap Addition.text? = [] :=
  List.filterMap_replicate_of_none rfl

theorem filterMap_tree?_replicate (stage : TreeStage) (k : Nat) :
    (List.replicate k (Addition.tree stage)).filterMap Addition.tree?
      = List.replicate k stage :=
  List.filterMap_replicate_of_some rfl

/-! ### The whole of it -/

theorem parse_eq_error_iff {o : Markdown.Options} {texts : List TextStage}
    {trees : List TreeStage} :
    (Pipeline.mk o texts trees).parse input = .error e ↔
      Root.parse o (lastText texts input) = .error e ∨
      ∃ before stage after root, trees = before ++ stage :: after ∧
        (Pipeline.mk o texts before).parse input = .ok root ∧ stage root = .error e := by
  simp only [parse_eq]
  rcases Root.parse o (lastText texts input) with e' | root
  · simp [Except.bind]
  · simp only [Except.bind, reduceCtorEq, false_or]
    exact lastTree_eq_error_iff

/-- A pass that is added several times in a row is made once. -/
theorem parse_replicate (o : Markdown.Options) (before after : List Addition) (t : Transform)
    (k : Nat) (input : String) :
    (assemble o (before ++ List.replicate (k + 1) (.tree t.stage) ++ after)).parse input
      = (assemble o (before ++ .tree t.stage :: after)).parse input := by
  have row : ∀ trees : List TreeStage, lastTree (List.replicate (k + 1) t.stage ++ trees)
      = lastTree (t.stage :: trees) := by
    intro trees
    funext r
    rw [lastTree_append, lastTree_replicate, lastTree_cons]
  rw [assemble_eq, assemble_eq, List.append_assoc]
  simp only [List.filterMap_append, filterMap_text?_replicate, filterMap_tree?_replicate,
    List.filterMap_cons, Addition.text?_tree, Addition.tree?_tree, List.nil_append]
  rw [parse_append_trees, parse_append_trees, row]

/-- Pipelines are made of their stages.

1. Only the stages of each kind count, in the order in which they were added.
2. A text stage that is added before all others of its kind changes the input of the rest.
3. A tree stage that is added behind all others of its kind goes on from the tree that the rest
   makes; if the rest fails, so does the whole, with the same error.
4. If a pipeline fails, no tree stage that is added behind its last one has any effect: the same
   texts and trees are made on the way, and the error is the same.
5. A pipeline fails with an error if and only if the last text is not Markdown and this is the
   error of reading it, or it is the error of a tree stage, on the tree that the ones before it
   make.
6. A pass that is added several times in a row is made once. -/
theorem assemble_compositional (o : Markdown.Options) (input : String) :
    (∀ stages, (assemble o stages).run input
      = (Pipeline.mk o (stages.filterMap Addition.text?)
          (stages.filterMap Addition.tree?)).run input) ∧
    (∀ (first : TextStage) (before after : List Addition), before.filterMap Addition.text? = [] →
      (assemble o (before ++ .text first :: after)).parse input
        = (assemble o (before ++ after)).parse (first input)) ∧
    (∀ (last : TreeStage) (before after : List Addition), after.filterMap Addition.tree? = [] →
      (assemble o (before ++ .tree last :: after)).parse input
        = ((assemble o (before ++ after)).parse input).bind last) ∧
    (∀ texts before after e, (Pipeline.mk o texts before).parse input = .error e →
      (Pipeline.mk o texts (before ++ after)).run input
        = (Pipeline.mk o texts before).run input) ∧
    (∀ texts trees e, (Pipeline.mk o texts trees).parse input = .error e ↔
      Root.parse o (lastText texts input) = .error e ∨
      ∃ before stage after root, trees = before ++ stage :: after ∧
        (Pipeline.mk o texts before).parse input = .ok root ∧ stage root = .error e) ∧
    ∀ (t : Transform) (k : Nat) (before after : List Addition),
      (assemble o (before ++ List.replicate (k + 1) (.tree t.stage) ++ after)).parse input
        = (assemble o (before ++ .tree t.stage :: after)).parse input := by
  refine ⟨fun stages => ?_, fun first before after none => ?_, fun last before after none => ?_,
    fun texts before after e failed => run_append_of_error failed after,
    fun texts trees e => parse_eq_error_iff, fun t k before after =>
      parse_replicate o before after t k input⟩
  · rw [assemble_eq]
  · simp only [assemble_eq, List.filterMap_append, List.filterMap_cons, Addition.text?_text,
      Addition.tree?_text, none, List.nil_append]
    exact parse_cons_text first
  · simp only [assemble_eq, List.filterMap_append, List.filterMap_cons, Addition.text?_tree,
      Addition.tree?_tree, none, List.append_nil]
    rw [parse_append_trees, lastTree_singleton]

/-- The text stage is added behind a tree stage, and it makes a document with one block of the
empty text.  The tree stage adds a second block, and the one behind it fails. -/
theorem assemble_compositional_of_three :
    let o := Markdown.Options.markdown
    let fill : TextStage := fun s => s ++ "---\na\n---\n"
    let grow : TreeStage := fun r =>
      .ok { r with children := r.children ++ [.block ⟨.toml, "b", none⟩] }
    let stop : TreeStage := fun r => .error (.render (Nat.repr r.children.length))
    (assemble o [.tree grow, .text fill, .tree stop]).parse "" = .error (.render "2") ∧
      (assemble o [.tree grow, .text fill, .tree stop, .tree grow]).run ""
        = (assemble o [.tree grow, .text fill, .tree stop]).run "" := by
  intro o fill grow stop
  obtain ⟨apart, first, last, failed, -, -⟩ := assemble_compositional o ""
  have length : (Root.parse o (fill "")).toOption.map (·.children.length) = some 1 := by cbv
  have behind : (assemble o [.tree grow, .text fill, .tree stop]).parse ""
      = ((assemble o [.tree grow, .text fill]).parse "").bind stop :=
    last stop [.tree grow, .text fill] [] rfl
  have front : (assemble o [.tree grow, .text fill]).parse ""
      = (assemble o [.tree grow]).parse (fill "") := first fill [.tree grow] [] rfl
  have grown : (assemble o [.tree grow]).parse (fill "") = (Root.parse o (fill "")).bind grow := by
    have alone := parse_eq (assemble o [.tree grow]) (fill "")
    rwa [show (assemble o [.tree grow]).treeStages = [grow] from rfl, lastTree_singleton] at alone
  have stopped : (assemble o [.tree grow, .text fill, .tree stop]).parse ""
      = .error (.render "2") := by
    rw [behind, front, grown]
    rcases read : Root.parse o (fill "") with e | root
    · rw [read] at length
      cases length
    · rw [read] at length
      have one : root.children.length = 1 := Option.some.inj length
      simp only [grow, stop, Except.bind, List.length_append, one]
      rfl
  refine ⟨stopped, ?_⟩
  rw [apart, apart]
  exact failed [fill] [grow, stop] [grow] (.render "2") stopped

end Pipeline
end Frontmatter
