/-
Frontmatter/Yaml/Tag.lean

Tags, anchors and directives.

A tag is written with a handle and a rest.  The rest may hold bytes that are
escaped by number; a row of such bytes spells one character, or none at all if
it is not the UTF-8 form of a character.  So the text of a tag is a list of
characters with perhaps some places that no character fills.
-/
import Frontmatter.Yaml.Cursor

namespace Frontmatter.Yaml

/-- The text of a tag: `none` is a row of bytes that spells no character. -/
abbrev TagText := List (Option Char)

def TagText.ofChars (cs : List Char) : TagText := cs.map some

/-- The text, if all of it is characters. -/
def TagText.toChars? (t : TagText) : Option (List Char) := t.mapM id

/-! ### Characters in UTF-8 -/

/-- The number of bytes that a leading byte announces. -/
def utf8Width? (byte : Nat) : Option Nat :=
  if byte < 0x80 then some 1
  else if 0xC0 ≤ byte && byte < 0xE0 then some 2
  else if 0xE0 ≤ byte && byte < 0xF0 then some 3
  else if 0xF0 ≤ byte && byte < 0xF8 then some 4
  else none

def isTrailingByte (byte : Nat) : Bool := 0x80 ≤ byte && byte < 0xC0

/-- The character whose UTF-8 form is a leading byte and trailing bytes. -/
def ofUtf8? (leading : Nat) (trailing : List Nat) : Option Char :=
  let top := match trailing.length with
    | 0 => leading
    | 1 => leading % 32
    | 2 => leading % 16
    | _ => leading % 8
  let n := trailing.foldl (fun n b => n * 64 + b % 64) top
  if n.isValidChar && (Char.ofNat n).utf8Size = trailing.length + 1 then some (Char.ofNat n)
  else none

/-! ### The text of a tag -/

/-- A character of a tag.  Commas and square brackets belong to a tag only
between angle brackets and in directives. -/
def isTagChar (verbatim : Bool) (c : Char) : Bool :=
  isNameChar c ||
    [';', '/', '?', ':', '@', '&', '=', '+', '$', '.', '%', '!', '~', '*', '\'', '(',
      ')'].contains c ||
    (verbatim && [',', '[', ']'].contains c)

/-- A byte that is escaped by number. -/
def escapedByte (construct : Construct) (start : Mark) (c : Cursor) :
    Except Problem (Nat × Cursor) :=
  let digits := (c.rest.drop 1).take 2
  match if c.isAt '%' && digits.length = 2 then hexNumber? digits else none with
  | some byte => .ok (byte, c.skips 3)
  | none => c.problem .noEscapedByte construct start

/-- The trailing bytes of a character.  A problem with a byte is reported before
the byte. -/
def trailingBytes (construct : Construct) (start : Mark) : Nat → Cursor →
    Except Problem (List Nat × Cursor)
  | 0, c => .ok ([], c)
  | n + 1, c => do
    let (byte, after) ← escapedByte construct start c
    if isTrailingByte byte then
      let (bytes, after) ← trailingBytes construct start n after
      return (byte :: bytes, after)
    else c.problem .badTrailingByte construct start

/-- A character that is escaped byte by byte. -/
def escapedChar (construct : Construct) (start : Mark) (c : Cursor) :
    Except Problem (Option Char × Cursor) := do
  let (byte, after) ← escapedByte construct start c
  match utf8Width? byte with
  | none => c.problem .badLeadingByte construct start
  | some width =>
    let (bytes, after) ← trailingBytes construct start (width - 1) after
    return (ofUtf8? byte bytes, after)

/-- As much of a tag's text as there is. -/
def tagChars (verbatim : Bool) (construct : Construct) (start : Mark) : Nat → Cursor →
    Except Problem (TagText × Cursor)
  | 0, c => .ok ([], c)
  | fuel + 1, c =>
    match c.rest with
    | [] => .ok ([], c)
    | ch :: _ => do
      if ch = '%' then
        let (escaped, c) ← escapedChar construct start c
        let (more, c) ← tagChars verbatim construct start fuel c
        return (escaped :: more, c)
      else if isTagChar verbatim ch then
        let (more, c) ← tagChars verbatim construct start fuel c.skip
        return (some ch :: more, c)
      else return ([], c)

/-- The text of a tag after a part that was read already, which cannot be empty
with it. -/
def tagText (verbatim : Bool) (construct : Construct) (start : Mark) (before : List Char)
    (c : Cursor) : Except Problem (TagText × Cursor) := do
  let (text, c) ← tagChars verbatim construct start (c.rest.length + 1) c
  if before = [] && text = [] then c.problem .noTagText construct start
  else return (TagText.ofChars (before.drop 1) ++ text, c)

/-- A handle: an exclamation mark, perhaps a name and a second one. -/
def tagHandle (directive : Bool) (start : Mark) (c : Cursor) :
    Except Problem (List Char × Cursor) :=
  if !c.isAt '!' then
    c.problem .noTagMark (if directive then .tagDirectiveHandle else .tag) start
  else
    let (name, c) := c.skip.span isNameChar
    if c.isAt '!' then .ok ('!' :: (name ++ ['!']), c.skip)
    else if directive && name ≠ [] then c.problem .noTagMark .tagDirectiveName start
    else .ok ('!' :: name, c)

/-- A tag as it is written: its handle and its rest.  The tag `!` has no handle,
and a tag between angle brackets has none either. -/
def tag (inFlow : Bool) (c : Cursor) : Except Problem (List Char × TagText × Cursor) := do
  let start := c.mark
  let (handle, rest, c) ← tagParts start c
  if c.spaceAhead 0 || (inFlow && c.isAt ',') then return (handle, rest, c)
  else c.problem .noBlankOrBreak .tag start
where
  tagParts (start : Mark) (c : Cursor) : Except Problem (List Char × TagText × Cursor) := do
    if c.ahead 1 = some '<' then
      let (text, c) ← tagText true .tagPart start [] (c.skips 2)
      if c.isAt '>' then return ([], text, c.skip)
      else c.problem .noTagEnd .tag start
    else
      let (handle, c) ← tagHandle false start c
      if 2 ≤ handle.length && handle.getLast? = some '!' then
        let (text, c) ← tagText false .tagPart start [] c
        return (handle, text, c)
      else
        let (text, c) ← tagText false .tagPart start handle c
        if text = [] then return ([], [some '!'], c)
        else return (['!'], text, c)

/-! ### Anchors -/

/-- The name of an anchor or of an alias to it; the cursor stands at the
indicator. -/
def anchorName (construct : Construct) (c : Cursor) : Except Problem (List Char × Cursor) :=
  let start := c.mark
  let (name, c) := c.skip.span isNameChar
  if name ≠ [] &&
      (c.spaceAhead 0 || c.nextIs ['?', ':', ',', ']', '}', '%', '@', '`'].contains) then
    .ok (name, c)
  else c.problem .noName construct start

/-! ### Directives -/

/-- What a directive tells: the version of the language, or what a handle stands
for. -/
inductive Directive where
  | version (major minor : Nat)
  | tag (handle : List Char) (stands : TagText)
deriving DecidableEq, Inhabited

/-- A number of a version, of at most nine digits. -/
def versionNumber (start : Mark) : Nat → Nat → Nat → Cursor → Except Problem (Nat × Cursor)
  | 0, count, n, c =>
    if c.nextIs isDigit then c.problem .longVersion .versionDirective start
    else if count = 0 then c.problem .noVersion .versionDirective start
    else .ok (n, c)
  | fuel + 1, count, n, c =>
    match c.peek with
    | some ch =>
      if isDigit ch then versionNumber start fuel (count + 1) (n * 10 + (ch.toNat - 48)) c.skip
      else if count = 0 then c.problem .noVersion .versionDirective start
      else .ok (n, c)
    | none =>
      if count = 0 then c.problem .noVersion .versionDirective start else .ok (n, c)

def versionValue (start : Mark) (c : Cursor) : Except Problem (Directive × Cursor) := do
  let (major, c) ← versionNumber start 9 0 0 (c.skipWhile isBlank)
  if !c.isAt '.' then c.problem .noVersionDot .versionDirective start
  else
    let (minor, c) ← versionNumber start 9 0 0 c.skip
    return (.version major minor, c)

def tagValue (start : Mark) (c : Cursor) : Except Problem (Directive × Cursor) := do
  let (handle, c) ← tagHandle true start (c.skipWhile isBlank)
  if !c.nextIs isBlank then c.problem .noBlank .tagDirective start
  else
    let (stands, c) ← tagText true .tagDirectivePart start [] (c.skipWhile isBlank)
    if !c.spaceAhead 0 then c.problem .noBlankOrBreak .tagDirective start
    else return (.tag handle stands, c)

/-- A directive with the rest of its line; the cursor stands at the percent
sign. -/
def directive (c : Cursor) : Except Problem (Directive × Cursor) := do
  let start := c.mark
  let (name, c) := c.skip.span isNameChar
  if name = [] then c.problem .noDirectiveName .directive start
  else if !c.spaceAhead 0 then c.problem .nonAlphabetic .directive start
  else
    let (value, c) ←
      if name = ['Y', 'A', 'M', 'L'] then versionValue start c
      else if name = ['T', 'A', 'G'] then tagValue start c
      else c.problem .unknownDirective .directive start
    let c := c.skipComment
    if !c.atLineEnd then c.problem .noCommentOrBreak .directive start
    else return (value, c.skipLineEnd)

end Frontmatter.Yaml
