/-
Frontmatter/Document/Pipeline.lean

The way of a document from its text to its final tree.

Stages on the text come first, then the text is read as Markdown, then stages on the
tree follow, each in the order they were added.  The first error ends the way.
-/
import Frontmatter.Document.Pass
import Frontmatter.Markdown.Document

namespace Frontmatter

/-- The error for a problem with the Markdown of a document. -/
def Error.ofProblem (p : Markdown.Problem) : Error :=
  .parse p.message (Location.inText p.start.line p.start.column)

/-- The Markdown tree of a document. -/
def parseMarkdown (o : Markdown.Options) (text : String) : Except Error Markdown.Node :=
  (Markdown.parse o text).mapError Error.ofProblem

/-- Reads a document and lifts its metadata blocks. -/
def Root.parse (o : Markdown.Options) (text : String) : Except Error Root :=
  (parseMarkdown o text).map Root.ofMarkdown

abbrev TextStage := String → String

abbrev TreeStage := Root → Except Error Root

/-- A transform as a stage: its pass, without the records. -/
def Transform.stage (t : Transform) : TreeStage := fun r =>
  let result := t.run r
  match result.error with
  | none => .ok result.root
  | some e => .error e

structure Pipeline where
  options : Markdown.Options
  textStages : List TextStage
  treeStages : List TreeStage

/-- What a stage has made. -/
inductive PipelineStep where
  | text (s : String)
  | tree (r : Root)

namespace Pipeline

/-- A pipeline without stages. -/
def plain (o : Markdown.Options) : Pipeline := ⟨o, [], []⟩

def withTextStage (p : Pipeline) (stage : TextStage) : Pipeline :=
  { p with textStages := p.textStages ++ [stage] }

def withTreeStage (p : Pipeline) (stage : TreeStage) : Pipeline :=
  { p with treeStages := p.treeStages ++ [stage] }

/-- What text stages make one after another, and the last text. -/
def runText : List TextStage → String → List String × String
  | [], s => ([], s)
  | stage :: rest, s =>
    let (made, last) := runText rest (stage s)
    (stage s :: made, last)

/-- What tree stages make one after another, and the last tree or the first error. -/
def runTree : List TreeStage → Root → List Root × Except Error Root
  | [], r => ([], .ok r)
  | stage :: rest, r =>
    match stage r with
    | .ok next =>
      let (made, last) := runTree rest next
      (next :: made, last)
    | .error e => ([], .error e)

/-- What the stages make, and the tree of the document or the first error. -/
def run (p : Pipeline) (input : String) : List PipelineStep × Except Error Root :=
  let (texts, text) := runText p.textStages input
  let steps := texts.map PipelineStep.text
  match Root.parse p.options text with
  | .error e => (steps, .error e)
  | .ok root =>
    let (trees, last) := runTree p.treeStages root
    (steps ++ trees.map PipelineStep.tree, last)

/-- The tree of a document, or the first error. -/
def parse (p : Pipeline) (input : String) : Except Error Root := (p.run input).2

end Pipeline
end Frontmatter
