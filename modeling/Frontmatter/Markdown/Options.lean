/-
Frontmatter/Markdown/Options.lean

The dialect of a document.

Four switches choose the extensions: MDX, the GitHub extensions, metadata blocks
and math.  `Options.allows` tells for every construct of Markdown whether the
dialect has it.  MDX takes some constructs away, since a `<` or an indented line
means something else there.
-/

namespace Frontmatter.Markdown

/-- What can be written in Markdown. -/
inductive Construct where
  | attention
  | autolink
  | blockQuote
  | characterEscape
  | characterReference
  | codeFenced
  | codeIndented
  | codeText
  | definition
  | frontmatter
  | autolinkLiteral
  | footnoteDefinition
  | footnoteStart
  | strikethrough
  | table
  | taskListItem
  | hardBreakEscape
  | hardBreakTrailing
  | headingAtx
  | headingSetext
  | htmlFlow
  | htmlText
  | labelEnd
  | labelStartImage
  | labelStartLink
  | listItem
  | mathFlow
  | mathText
  | mdxEsm
  | mdxExpressionFlow
  | mdxExpressionText
  | mdxJsxFlow
  | mdxJsxText
  | thematicBreak
deriving DecidableEq, Inhabited

namespace Construct

/-- All constructs. -/
def all : List Construct :=
  [attention, autolink, blockQuote, characterEscape, characterReference, codeFenced, codeIndented,
   codeText, definition, frontmatter, autolinkLiteral, footnoteDefinition, footnoteStart,
   strikethrough, table, taskListItem, hardBreakEscape, hardBreakTrailing, headingAtx,
   headingSetext, htmlFlow, htmlText, labelEnd, labelStartImage, labelStartLink, listItem,
   mathFlow, mathText, mdxEsm, mdxExpressionFlow, mdxExpressionText, mdxJsxFlow, mdxJsxText,
   thematicBreak]

/-- The name of a construct in a table of switches. -/
def name : Construct → String
  | attention => "attention"
  | autolink => "autolink"
  | blockQuote => "block_quote"
  | characterEscape => "character_escape"
  | characterReference => "character_reference"
  | codeFenced => "code_fenced"
  | codeIndented => "code_indented"
  | codeText => "code_text"
  | definition => "definition"
  | frontmatter => "frontmatter"
  | autolinkLiteral => "gfm_autolink_literal"
  | footnoteDefinition => "gfm_footnote_definition"
  | footnoteStart => "gfm_label_start_footnote"
  | strikethrough => "gfm_strikethrough"
  | table => "gfm_table"
  | taskListItem => "gfm_task_list_item"
  | hardBreakEscape => "hard_break_escape"
  | hardBreakTrailing => "hard_break_trailing"
  | headingAtx => "heading_atx"
  | headingSetext => "heading_setext"
  | htmlFlow => "html_flow"
  | htmlText => "html_text"
  | labelEnd => "label_end"
  | labelStartImage => "label_start_image"
  | labelStartLink => "label_start_link"
  | listItem => "list_item"
  | mathFlow => "math_flow"
  | mathText => "math_text"
  | mdxEsm => "mdx_esm"
  | mdxExpressionFlow => "mdx_expression_flow"
  | mdxExpressionText => "mdx_expression_text"
  | mdxJsxFlow => "mdx_jsx_flow"
  | mdxJsxText => "mdx_jsx_text"
  | thematicBreak => "thematic_break"

end Construct

/-- The extensions of a dialect. -/
structure Options where
  mdx : Bool
  gfm : Bool
  frontmatter : Bool
  math : Bool
deriving DecidableEq, Inhabited

namespace Options

/-- Markdown as it is written on GitHub, with metadata blocks. -/
def markdown : Options := ⟨false, true, true, false⟩

/-- The same with MDX. -/
def mdxDocument : Options := ⟨true, true, true, false⟩

/-- Whether the dialect has a construct. -/
def allows (o : Options) : Construct → Bool
  | .frontmatter => o.frontmatter
  | .autolinkLiteral | .footnoteDefinition | .footnoteStart | .strikethrough | .table
  | .taskListItem => o.gfm
  | .mathFlow | .mathText => o.math
  | .mdxEsm | .mdxExpressionFlow | .mdxExpressionText | .mdxJsxFlow | .mdxJsxText => o.mdx
  | .codeIndented | .htmlFlow | .htmlText => !o.mdx
  | _ => true

/-- Whether one dollar sign is enough to begin math in a text. -/
def singleDollar (o : Options) : Bool := o.math

/-- Whether one tilde is enough to strike a text through. -/
def singleTilde (_ : Options) : Bool := true

end Options

end Frontmatter.Markdown
