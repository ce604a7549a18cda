/-
Frontmatter/Esm/Fragment.lean

The items of a module, and reading a whole source.

`Fragment.parse` reads a source as the body of a module.  A source with a
problem has no body, not even when reading could go on after the problem: the
problem that ended the reading is reported, and otherwise the one that was
noted first.  `Problem.location` says where a problem is: lines end at a line
feed, at a carriage return or at both together, and a column counts the
columns that the text before it takes when displayed.
-/
import Frontmatter.Esm.Statement
import Frontmatter.Text.Width

namespace Frontmatter.Esm

/-- The words that an export list needs a source for. -/
def needsSource (word : String) : Bool :=
  ["await", "break", "case", "catch", "class", "const", "continue", "debugger", "default", "delete",
   "do", "else", "enum", "export", "extends", "false", "finally", "for", "function", "if", "import",
   "in", "instanceof", "new", "null", "package", "return", "super", "switch", "this", "throw",
   "true", "try", "typeof", "var", "void", "while", "with", "yield"].contains word

namespace Read

open Parse

/-! ### Imports -/

/-- A name in a list, which may be a string. -/
def exportName : Parse ExportName := do
  match ← glance with
  | .str value _ =>
    let start ← pos
    let _ ← bump
    return .str start value
  | .word _ =>
    let (start, name) ← identifierName
    return .ident start name
  | _ => unexpected "identifier or string"

/-- The source that an import or an export names. -/
def sourceName : Parse String := do
  match ← need with
  | .str value _ =>
    let _ ← bump
    return value
  | _ => unexpected "a string literal"

def fromClause : Parse String := do
  expect "from"
  let source ← sourceName
  let _ ← glance
  expectStatementEnd
  return source

def importedBinding (ctx : Context) : Parse String := do
  let (_, name) ← bindingIdentifier ctx
  return name

def importSpecifier (ctx : Context) : Parse ImportSpecifier := do
  match ← glance with
  | .word _ =>
    let (start, name) ← identifierName
    if ← eat "as" then return .named (← importedBinding ctx) (some (.ident start name))
    else if isReserved name then fail start .reservedImport
    else return .named name none
  | .str value _ =>
    let start ← pos
    let _ ← bump
    if ← eat "as" then return .named (← importedBinding ctx) (some (.str start value))
    else fail start (.stringImport value)
  | _ => unexpected "an identifier"

/-- The names in braces that an import binds. -/
def importList (ctx : Context) : Parse (List ImportSpecifier) := do
  let specifiers ← loop [] fun (acc : List ImportSpecifier) => do
    if (← isEnd) || (← is "\x7d") then return .inr acc.reverse
    else
      let s ← importSpecifier ctx
      if !(← is "\x7d") then expect ","
      return .inl (s :: acc)
  expect "\x7d"
  return specifiers

/-- The first name of an import.  The names of the phases of an import are
marks when another name follows. -/
def importedDefault (ctx : Context) : Parse (Option String) := do
  let name ← importedBinding ctx
  if name = "source" || name = "defer" then
    let t ← need
    let marks ← match t with
      | .word "from" => secondIs "from"
      | t => pure (Token.isIdentifier t)
    if marks then return some (← importedBinding ctx)
    else if name = "defer" && Token.isText "*" t then return none
    else return some name
  else return some name

def importItem (g : Grammar) (ctx : Context) : Parse ItemForm := do
  if (← secondIs ".") || (← secondIs "(") then
    let e ← expression g ctx
    let _ ← eatStatementEnd
    return .stmt (.expr e)
  else
    let _ ← bump
    match ← glance with
    | .str value _ =>
      let _ ← bump
      let _ ← glance
      expectStatementEnd
      return .importFrom [] value
    | _ =>
      let first ← if ← isIdentifier then do
          match ← importedDefault ctx with
          | none => pure []
          | some name =>
            if !(← is "from") then expect ","
            pure [ImportSpecifier.default name]
        else pure []
      let more ← if ← eat "*" then do
          expect "as"
          pure [ImportSpecifier.all (← importedBinding ctx)]
        else if ← eat "\x7b" then importList ctx
        else pure []
      let source ← fromClause
      return .importFrom (first ++ more) source

/-! ### Exports -/

def exportSpecifier : Parse ExportSpecifier := do
  let orig ← exportName
  let exported ← if ← eat "as" then some <$> exportName else pure none
  return .named orig exported

/-- Names in a list without a source have to be names of bindings. -/
def checkExported : ExportSpecifier → Parse Unit
  | .named (.ident start name) _ => do
    if needsSource name then note start (.exportWithoutFrom name)
  | .named (.str start _) _ => note start .stringExport
  | .all _ => return ()

/-- An export that names what it exports in a list. -/
def exportList : Parse ItemForm := do
  if (← is "*") && !(← secondIs "as") then
    let _ ← bump
    return .exportAll (← fromClause)
  else if ← is "*" then
    let _ ← bump
    let _ ← glance
    expect "as"
    let name ← exportName
    if ← is "from" then return .exportNamed [.all name] (some (← fromClause))
    else
      expect "from"
      return .exportNamed [.all name] none
  else
    expect "\x7b"
    let specifiers ← loop [] fun (acc : List ExportSpecifier) => do
      if (← isEnd) || (← is "\x7d") then return .inr acc.reverse
      else
        let s ← exportSpecifier
        if !(← is "\x7d") then expect ","
        return .inl (s :: acc)
    expect "\x7d"
    if ← is "from" then return .exportNamed specifiers (some (← fromClause))
    else
      specifiers.forM checkExported
      let _ ← eatStatementEnd
      return .exportNamed specifiers none

/-- `async function` follows, on one line. -/
def asyncFunctionAhead : Parse Bool := do
  if ← is "async" then
    let (next, newline) ← second
    return Token.isText "function" next && !newline
  else return false

def exportItem (g : Grammar) (ctx : Context) : Parse ItemForm := do
  let _ ← bump
  let _ ← glance
  if ← eat "default" then
    if ← is "class" then return .exportDefaultDecl (.classDecl (← cls g ctx false))
    else if (← is "function") || (← asyncFunctionAhead) then
      return .exportDefaultDecl (.functionDecl (← function g ctx false false))
    else
      let e ← g.assignment ctx.withIn
      expectStatementEnd
      return .exportDefaultExpr e
  else if ← is "class" then return .exportDecl (.classDecl (← cls g ctx true))
  else if (← is "function") || (← asyncFunctionAhead) then
    return .exportDecl (.functionDecl (← function g ctx true false))
  else
    let declares ← if ← isOneOf ["var", "const"] then pure true
      else if ← is "let" then letDeclares
      else pure false
    if declares then return .exportDecl (← varDeclaration g ctx false)
    else exportList

/-! ### Modules -/

/-- An item of a module. -/
def item (g : Grammar) (ctx : Context) : Parse Item := do
  let start ← pos
  let form ← if ← is "import" then importItem g ctx
    else if ← is "export" then exportItem g ctx
    else ItemForm.stmt <$> statement g ctx true
  return ⟨start, ← prevStop, form⟩

/-- One item of a module, or its end. -/
def itemsStep (g : Grammar) (ctx : Context) (acc : List Item) : Parse (List Item ⊕ List Item) := do
  let t ← glance
  if t = .eof then return .inr acc.reverse
  else
    let i ← item g ctx
    return .inl (i :: acc)

/-- The items up to the end of the source. -/
def items (g : Grammar) (ctx : Context) : Parse (List Item) := loop [] (itemsStep g ctx)

end Read

/-! ### Sources -/

/-- The line that tells a system how to run a file, if the source begins with
one. -/
def afterShebang (cs : List Char) : List Char × Nat :=
  match cs with
  | '#' :: '!' :: rest => Lexer.skipLine rest 2
  | _ => (cs, 0)

/-- A byte order mark at the beginning does not belong to the source. -/
def withoutMark (cs : List Char) : List Char :=
  match cs with
  | '\ufeff' :: rest => rest
  | _ => cs

/-- The cursor at the first token of a source. -/
def Cursor.ofSource (cs : List Char) : Cursor :=
  let bound := cs.length + 1
  let (rest, pos) := afterShebang cs
  { bound := bound
    cur := Lexer.next bound rest pos true
    prevStart := pos
    prevStop := pos
    noted := none
    labels := []
    arrowStart := none }

namespace Fragment

/-- Reads a source, without a byte order mark, as the body of a module. -/
def parseChars (cs : List Char) : Except Problem (List Item) :=
  match (Read.items (Grammar.levels (cs.length + 2)) {}).run (Cursor.ofSource cs) with
  | .failed p _ => .error p
  | .done body c =>
    match (Parse.settle c).noted with
    | some p => .error p
    | none => .ok body

/-- Reads a source as the body of a module. -/
def parse (source : String) : Except Problem (List Item) := parseChars (withoutMark source.toList)

end Fragment

/-! ### Where a problem is -/

/-- The line and the column after a text, when it is displayed. -/
def displayedAfter (line column : Nat) : List Char → Location
  | [] => Location.inText line column
  | '\r' :: '\n' :: rest => displayedAfter (line + 1) 1 rest
  | c :: rest =>
    if c = '\n' || c = '\r' then displayedAfter (line + 1) 1 rest
    else displayedAfter line (column + Text.displayWidth c) rest

/-- Where a problem is in a source. -/
def Problem.location (p : Problem) (source : String) : Location :=
  displayedAfter 1 1 (Lexer.takeBytes p.start (withoutMark source.toList))

end Frontmatter.Esm
