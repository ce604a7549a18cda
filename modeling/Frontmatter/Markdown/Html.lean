/-
Frontmatter/Markdown/Html.lean

HTML, which is carried along as it is.

As a block it begins with one of seven openings; four of them go on to a fixed mark,
one to the closing tag of an element with raw text, the others to a blank line.  In a
text it is a tag, a comment, an instruction, a declaration or a section of plain
characters.
-/
import Frontmatter.Markdown.Cell

namespace Frontmatter.Markdown

/-- The openings of HTML as a block. -/
inductive HtmlKind where
  | raw
  | comment
  | instruction
  | declaration
  | section
  | basic
  | complete
deriving DecidableEq, Inhabited

namespace Html

/-- The elements with raw text. -/
def rawNames : List String := ["pre", "script", "style", "textarea"]

/-- The elements that begin a block whatever follows their name. -/
def blockNames : List String :=
  ["address", "article", "aside", "base", "basefont", "blockquote", "body", "caption", "center",
   "col", "colgroup", "dd", "details", "dialog", "dir", "div", "dl", "dt", "fieldset",
   "figcaption", "figure", "footer", "form", "frame", "frameset", "h1", "h2", "h3", "h4", "h5",
   "h6", "head", "header", "hr", "html", "iframe", "legend", "li", "link", "main", "menu",
   "menuitem", "nav", "noframes", "ol", "optgroup", "option", "p", "param", "search", "section",
   "summary", "table", "tbody", "td", "tfoot", "th", "thead", "title", "tr", "track", "ul"]

def isBlankChar (c : Char) : Bool := c == ' ' || c == '\t'

/-- What white space is in a tag. -/
def isSpaceChar (c : Char) : Bool := isBlankChar c || c == '\n'

def isTagChar (c : Char) : Bool := c.isAlphanum || c == '-'

/-- What follows a fixed text. -/
def afterText? : List Char → List Char → Option (List Char)
  | [], cs => some cs
  | a :: as, c :: cs => if a = c then afterText? as cs else none
  | _ :: _, [] => none

/-- The first place in a text that a fixed text ends at: what follows it. -/
def afterFirst? (mark : List Char) : List Char → Option (List Char)
  | [] => afterText? mark []
  | c :: cs =>
    match afterText? mark (c :: cs) with
    | some rest => some rest
    | none => afterFirst? mark cs

/-- What follows the end of a section of plain characters in a block.  Brackets count in
pairs, so three brackets do not end it. -/
def afterSection? : List Char → Option (List Char)
  | ']' :: ']' :: '>' :: rest => some rest
  | ']' :: ']' :: rest => afterSection? rest
  | _ :: rest => afterSection? rest
  | [] => none

/-! ### Tags -/

/-- What follows an attribute's value without quotes. -/
def isValueEnd (c : Char) : Bool :=
  isSpaceChar c || c == '"' || c == '\'' || c == '/' || c == '<' || c == '=' || c == '>' ||
    c == '\x60'

/-- What follows the value of an attribute, behind the equals sign. -/
def afterValue? (space : Char → Bool) (cs : List Char) : Option (List Char) :=
  match cs.dropWhile space with
  | [] => none
  | c :: rest =>
    if c = '"' || c = '\'' then
      match rest.dropWhile (· != c) with
      | _ :: after =>
        if after.head?.any fun d => space d || d == '/' || d == '>' then some after else none
      | [] => none
    else if c = '<' || c = '=' || c = '>' || c = '\x60' then none
    else some (rest.dropWhile fun d => !isValueEnd d)

/-- What follows the attributes and the end of an opening tag, from behind its name or
behind an attribute.  Strictly, white space has to stand before each attribute. -/
def afterAttributes? (strict : Bool) (space : Char → Bool) : Nat → List Char → Option (List Char)
  | 0, _ => none
  | fuel + 1, cs =>
    let spaced := !strict || cs.head?.any space
    match cs.dropWhile space with
    | '>' :: rest => some rest
    | '/' :: '>' :: rest => some rest
    | c :: rest =>
      if spaced && (c.isAlpha || c == ':' || c == '_' || (!strict && c.isDigit)) then
        let after := rest.dropWhile fun d =>
          d.isAlphanum || d == '-' || d == '.' || d == ':' || d == '_'
        match after.dropWhile space with
        | '=' :: value =>
          match afterValue? space value with
          | some rest => afterAttributes? strict space fuel rest
          | none => none
        | _ => afterAttributes? strict space fuel after
      else none
    | [] => none

/-- What follows a closing tag, from behind its name. -/
def afterClosing? (space : Char → Bool) (cs : List Char) : Option (List Char) :=
  match cs.dropWhile space with
  | '>' :: rest => some rest
  | _ => none

/-! ### Blocks -/

/-- The opening behind the name of a tag.  A complete tag has its line for itself, and
does not end a paragraph. -/
def kindOfTag (interrupt closing : Bool) (name : String) (rest : List Char) : Option HtmlKind :=
  let slash := rest.head? == some '/'
  if !slash && !closing && rawNames.contains name then some .raw
  else if blockNames.contains name then
    if slash && !(rest.drop 1).head? == some '>' then none else some .basic
  else if interrupt then none
  else
    let after :=
      if closing then afterClosing? isBlankChar rest
      else afterAttributes? false isBlankChar (rest.length + 1) rest
    match after with
    | some rest => if rest.all isBlankChar then some .complete else none
    | none => none

/-- The opening of HTML that a line begins with. -/
def kindOf (interrupt : Bool) (cs : List Char) : Option HtmlKind :=
  match cs with
  | '<' :: '!' :: '-' :: '-' :: _ => some .comment
  | '<' :: '!' :: rest =>
    if (afterText? "[CDATA[".toList rest).isSome then some .section
    else if rest.head?.any Char.isAlpha then some .declaration
    else none
  | '<' :: '?' :: _ => some .instruction
  | '<' :: rest =>
    let closing := rest.head? == some '/'
    let body := if closing then rest.drop 1 else rest
    let name := body.takeWhile isTagChar
    let after := body.dropWhile isTagChar
    if body.head?.any Char.isAlpha &&
        after.head?.all fun c => isBlankChar c || c == '/' || c == '>' then
      kindOfTag interrupt closing (String.ofList (name.map Char.toLower)) after
    else none
  | _ => none

/-- Whether the closing tag of an element with raw text is in a line. -/
def closesRaw : List Char → Bool
  | [] => false
  | '<' :: '/' :: rest =>
    let name := rest.takeWhile Char.isAlpha
    (rawNames.contains (String.ofList (name.map Char.toLower)) &&
      (rest.drop name.length).head? == some '>') || closesRaw rest
  | _ :: rest => closesRaw rest

end Html

/-- Whether a block of HTML ends with a line. -/
def HtmlKind.endsIn (cs : List Char) : HtmlKind → Bool
  | .raw => Html.closesRaw cs
  | .comment => (Html.afterFirst? "-->".toList cs).isSome
  | .instruction => (Html.afterFirst? "?>".toList cs).isSome
  | .declaration => (Html.afterFirst? ">".toList cs).isSome
  | .section => (Html.afterSection? cs).isSome
  | .basic | .complete => false

/-- Whether a block of HTML ends before a blank line. -/
def HtmlKind.endsAtBlank : HtmlKind → Bool
  | .basic | .complete => true
  | _ => false

/-! ### In a text -/

namespace Html

/-- What follows a comment, from behind the two hyphens that open it. -/
def afterComment? (cs : List Char) : Option (List Char) :=
  match cs with
  | '>' :: rest => some rest
  | '-' :: '>' :: rest => some rest
  | _ => afterFirst? "-->".toList cs

/-- What follows the HTML at an angle bracket. -/
def afterInline? (cs : List Char) : Option (List Char) :=
  match cs with
  | '<' :: '!' :: '-' :: '-' :: rest => afterComment? rest
  | '<' :: '!' :: rest =>
    match afterText? "[CDATA[".toList rest with
    | some rest => afterFirst? "]]>".toList rest
    | none => if rest.head?.any Char.isAlpha then afterFirst? ['>'] rest else none
  | '<' :: '?' :: rest => afterFirst? "?>".toList rest
  | '<' :: '/' :: rest =>
    if rest.head?.any Char.isAlpha then afterClosing? isSpaceChar (rest.dropWhile isTagChar)
    else none
  | '<' :: rest =>
    if rest.head?.any Char.isAlpha then
      afterAttributes? true isSpaceChar (rest.length + 1) (rest.dropWhile isTagChar)
    else none
  | _ => none

end Html

end Frontmatter.Markdown
