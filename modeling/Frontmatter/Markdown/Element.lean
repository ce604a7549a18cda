/-
Frontmatter/Markdown/Element.lean

Elements: what stands between an opening tag and its closing tag.

Tags are matched in the order of the document.  An element has to end in what it began
in: a paragraph, an emphasis, a list item, or the document.
-/
import Frontmatter.Markdown.Item

namespace Frontmatter.Markdown

/-- An element that is open, with the nodes before it, latest first. -/
structure OpenElement where
  tag : Tag
  before : List Node

/-- Whether elements stand beside paragraphs, not in them. -/
def Frame.isFlow : Frame → Bool
  | .root | .blockQuote | .listItem | .footnoteDefinition => true
  | _ => false

/-- The node of an element. -/
def elementOf (frame : Frame) (t : Tag) (stop : Point) (children : List Node) : Node :=
  let kind : Kind :=
    if frame.isFlow then .flowElement t.name t.attributes else .textElement t.name t.attributes
  .mk kind (some ⟨t.start, stop⟩) children

/-- Adds text to nodes, latest first; it goes on with a text just before. -/
def addText (value : List Char) (span : Span) (done : List Node) : List Node :=
  match done with
  | .mk (.text before) (some s) _ :: rest =>
    .mk (.text (before ++ String.ofList value)) (some ⟨s.start, span.stop⟩) [] :: rest
  | _ => .mk (.text (String.ofList value)) (some span) [] :: done

/-- The node of a link or an image. -/
def mediaNode (image : Bool) (destination : Destination) (span : Span) (children : List Node) :
    Node :=
  let text := Node.texts children
  match destination with
  | .target t =>
    if image then .mk (.image t.url t.title text) (some span) []
    else .mk (.link t.url t.title) (some span) children
  | .definition kind identifier label =>
    let label := some (label.getD text)
    if image then .mk (.imageReference kind identifier label text) (some span) []
    else .mk (.linkReference kind identifier label) (some span) children

/-- Whether a closing tag closes the innermost element. -/
def checkClosing (openTags : List Tag) (t : Tag) (slash : Point) : Except Problem Unit :=
  match openTags with
  | [] => .error (Problem.at slash .closingSlash)
  | o :: _ =>
    match t.firstAttribute, t.selfClosing with
    | some p, _ => .error (Problem.at p .closingAttribute)
    | none, some p => .error (Problem.at p .closingSelfSlash)
    | none, none =>
      if o.name = t.name then .ok ()
      else .error ⟨.mismatch t.abbreviated o.abbreviated o.start, t.start, some t.stop⟩

/-- The nodes of items that are in a frame.  The tags that are open around the frame are
given innermost first, then the elements that are open in it, and the nodes so far,
latest first. -/
def assemble (outer : List Tag) (frame : Frame) (span : Span) :
    List OpenElement → List Node → List Item → Except Problem (List Node)
  | [], done, [] => .ok done.reverse
  | e :: _, _, [] =>
    .error (Problem.at span.stop (.openElement e.tag.abbreviated e.tag.start frame))
  | elements, done, .text value s :: rest =>
    assemble outer frame span elements (addText value s done) rest
  | elements, done, .ending value s :: rest =>
    assemble outer frame span elements (if elements.isEmpty then addText value s done else done)
      rest
  | elements, done, .node inner kind s items :: rest => do
    let children ← assemble (elements.map OpenElement.tag ++ outer) inner s [] [] items
    assemble outer frame span elements (.mk kind (some s) children :: done) rest
  | elements, done, .media image destination s label items :: rest => do
    let children ← assemble (elements.map OpenElement.tag ++ outer) .label label [] [] items
    assemble outer frame span elements (mediaNode image destination s children :: done) rest
  | elements, done, .tag t :: rest =>
    match t.closing with
    | some slash => do
      checkClosing (elements.map OpenElement.tag ++ outer) t slash
      match elements with
      | [] => .error (Problem.at t.start (.crossing t.abbreviated frame span.start))
      | e :: more =>
        assemble outer frame span more (elementOf frame e.tag t.stop done.reverse :: e.before) rest
    | none =>
      if t.selfClosing.isSome then
        assemble outer frame span elements (elementOf frame t t.stop [] :: done) rest
      else assemble outer frame span (⟨t, done⟩ :: elements) [] rest

end Frontmatter.Markdown
