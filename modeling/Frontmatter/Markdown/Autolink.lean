/-
Frontmatter/Markdown/Autolink.lean

Addresses: in angle brackets, or as they are in the text.

In a text an address begins with `http://`, `https://` or `www.`, or has an at sign.
Punctuation marks at its end are not part of it.
-/
import Frontmatter.Markdown.Cell
import Frontmatter.Text.Punctuation
import Frontmatter.Text.Whitespace

namespace Frontmatter.Markdown

/-- How a character, or the end of the text, counts beside a mark. -/
inductive CharKind where
  | space
  | punctuation
  | other
deriving DecidableEq, Inhabited

def CharKind.of : Option Char → CharKind
  | none => space
  | some c =>
    if Text.isWhitespace c then space else if Text.isPunctuation c then punctuation else other

namespace Autolink

/-! ### In angle brackets -/

/-- A character of an address before the at sign. -/
def isLocal (c : Char) : Bool :=
  c.isAlphanum || ".!#$%&'*+/=?^_\x60\x7b|\x7d~-".toList.contains c

/-- The rest of the address of a host up to the bracket that closes it, with the length of the
label so far and whether a hyphen is just before. -/
def hostRest : Nat → Bool → List Char → Option (List Char)
  | _, _, [] => none
  | size, hyphen, c :: rest =>
    if c = '>' then if size = 0 || hyphen then none else some rest
    else if c = '.' then if size = 0 || hyphen then none else hostRest 0 false rest
    else if 63 ≤ size then none
    else if c = '-' then if size = 0 then none else hostRest (size + 1) true rest
    else if c.isAlphanum then hostRest (size + 1) false rest
    else none

/-- The characters of an address with a scheme that cannot stand in it. -/
def isBarred (c : Char) : Bool := c.toNat ≤ 32 || c == '<' || c == '>' || c.toNat == 127

/-- The address in angle brackets that a text begins with: whether it is one of mail, and
what follows it. -/
def bracketed? (cs : List Char) : Option (Bool × List Char) :=
  match cs with
  | '<' :: rest =>
    let scheme := rest.takeWhile fun c => c.isAlphanum || c == '+' || c == '-' || c == '.'
    let after := rest.drop scheme.length
    let address : Option (List Char) :=
      match after with
      | ':' :: body =>
        if rest.head?.any Char.isAlpha && 2 ≤ scheme.length && scheme.length ≤ 32 then
          match body.dropWhile fun c => !isBarred c with
          | '>' :: rest => some rest
          | _ => none
        else none
      | _ => none
    match address with
    | some rest => some (false, rest)
    | none =>
      let name := rest.takeWhile isLocal
      match rest.drop name.length with
      | '@' :: host =>
        if name.isEmpty then none else (hostRest 0 false host).map fun rest => (true, rest)
      | _ => none
  | _ => none

/-! ### In the text -/

/-- What is left after letters and a semicolon. -/
def afterEntity (some_ : Bool) : List Char → Option (List Char)
  | ';' :: rest => if some_ then some rest else none
  | c :: rest => if c.isAlpha then afterEntity true rest else none
  | [] => none

/-- Whether a text begins with punctuation marks after which an address cannot go on. -/
def endsAt : Nat → List Char → Bool
  | 0, _ => false
  | fuel + 1, cs =>
    match cs with
    | [] => true
    | c :: rest =>
      if "!\"')*,.:;?_~".toList.contains c then endsAt fuel rest
      else if c = '&' then
        match afterEntity false rest with
        | some rest => endsAt fuel rest
        | none => false
      else if c = '<' then true
      else if c = ']' then
        match rest with
        | [] => true
        | d :: _ =>
          if d = '\t' || d = '\n' || d = ' ' || d = '(' || d = '[' then true else endsAt fuel rest
      else CharKind.of (some c) = .space

/-- The length of the name of a host.  `seen` tells that a letter has been; the last two
parts must have no underscore, `low` and `lower` tell whether they have. -/
def hostLength (seen low lower : Bool) : List Char → Option Nat
  | [] => if low || lower || !seen then none else some 0
  | c :: rest =>
    let finish := if low || lower || !seen then none else some 0
    if c = '.' || c = '_' then
      if endsAt (rest.length + 2) (c :: rest) then finish
      else if c = '_' then (hostLength seen true lower rest).map (· + 1)
      else (hostLength seen false low rest).map (· + 1)
    else if c = '-' then (hostLength seen low lower rest).map (· + 1)
    else if CharKind.of (some c) = .other then (hostLength true low lower rest).map (· + 1)
    else finish

/-- The length of the path behind a host, with the parentheses so far. -/
def pathLength : Nat → Nat → List Char → Nat
  | _, _, [] => 0
  | opened, closed, c :: rest =>
    if c = '(' then pathLength (opened + 1) closed rest + 1
    else if "!\"&')*,.:;<?]_~".toList.contains c then
      let balanced := c = ')' && closed < opened
      if endsAt (rest.length + 2) (c :: rest) && !balanced then 0
      else pathLength opened (if c = ')' then closed + 1 else closed) rest + 1
    else if CharKind.of (some c) = .space then 0
    else pathLength opened closed rest + 1

/-- What follows a fixed text, whose letters may also be capital. -/
def afterWord? : List Char → List Char → Option (List Char)
  | [], cs => some cs
  | a :: as, c :: cs => if a = c.toLower then afterWord? as cs else none
  | _ :: _, [] => none

/-- The length of the address with a scheme that a text begins with. -/
def schemeLength? (before : Option Char) (cs : List Char) : Option Nat :=
  if before.any Char.isAlpha then none
  else
    let head := match afterWord? "https://".toList cs with
      | some rest => some (8, rest)
      | none => (afterWord? "http://".toList cs).map fun rest => (7, rest)
    match head with
    | some (n, rest) =>
      (hostLength false false false rest).map fun m => n + m + pathLength 0 0 (rest.drop m)
    | none => none

/-- The length of the address without a scheme that a text begins with. -/
def hostOnlyLength? (before : Option Char) (cs : List Char) : Option Nat :=
  if before.all fun c => "\t\n (*_[]~".toList.contains c then
    match afterWord? "www.".toList cs with
    | some (_ :: _) =>
      (hostLength false false false cs).map fun m => m + pathLength 0 0 (cs.drop m)
    | _ => none
  else none

/-! ### At signs -/

/-- A part of a text: plain, or an address with its link. -/
structure Part where
  text : List Char
  url : Option String

/-- A character before the at sign of an address in a text. -/
def isMailChar (c : Char) : Bool := c.isAlphanum || c == '+' || c == '-' || c == '.' || c == '_'

/-- The host of an address of mail. -/
def mailHost (slash : Bool) : List Char → List Char
  | [] => []
  | c :: rest =>
    if c.isAlphanum || c == '-' || c == '_' || (slash && c == '/') then c :: mailHost slash rest
    else if c = '.' && rest.head?.any Char.isAlphanum then c :: mailHost slash rest
    else []

/-- The host behind an at sign, which has a dot and ends in a letter. -/
def mailHost? (slash : Bool) (cs : List Char) : Option (List Char) :=
  let host := mailHost slash cs
  if host.contains '.' && (host.getLast?.any fun c => c.isAlpha || c == '.') then some host
  else none

/-- The address around an at sign: what is left before it, the address with its link, and
what follows it.  The text before is given backwards. -/
def mailAt (before after : List Char) : Option (List Char × Part × List Char) :=
  let name := before.takeWhile isMailChar
  let left := before.drop name.length
  if name.isEmpty || left.head? == some '/' then none
  else
    let (scheme, left) :=
      match left with
      | ':' :: more =>
        let word := more.takeWhile Char.isAlphanum
        let low := String.ofList (word.reverse.map Char.toLower)
        if low = "mailto" || low = "xmpp" then (':' :: word, more.drop word.length) else ([], left)
      | _ => ([], left)
    let xmpp := scheme.length == 5
    match mailHost? xmpp after with
    | none => none
    | some host =>
      let text := (name ++ scheme).reverse ++ '@' :: host
      let url := if scheme.isEmpty then "mailto:" ++ String.ofList text else String.ofList text
      some (left, ⟨text, some url⟩, after.drop host.length)

/-- A text cut at the addresses of mail in it; the text before is given backwards. -/
def mailParts : Nat → List Char → List Char → List Part
  | 0, before, cs => [⟨before.reverse ++ cs, none⟩]
  | _, before, [] => if before.isEmpty then [] else [⟨before.reverse, none⟩]
  | fuel + 1, before, c :: rest =>
    if c = '@' then
      match mailAt before rest with
      | some (left, part, rest) =>
        let more := part :: mailParts fuel [] rest
        if left.isEmpty then more else ⟨left.reverse, none⟩ :: more
      | none => mailParts fuel (c :: before) rest
    else mailParts fuel (c :: before) rest

end Autolink

end Frontmatter.Markdown
