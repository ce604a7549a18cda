/-
Frontmatter/Esm/Statement.lean

Statements and declarations.
-/
import Frontmatter.Esm.Expression

namespace Frontmatter.Esm

def Token.followsLet : Token → Bool
  | .word w => !isKeyword w || w = "let" || w = "yield" || w = "await"
  | .punct text => text = "\x7b" || text = "["
  | _ => false

namespace Read

open Parse

/-! ### Declarations of variables -/

/-- One binding of a declaration. -/
def declarator (g : Grammar) (ctx : Context) (inFor : Bool) (kind : VarKind) :
    Parse Declarator := do
  let start ← pos
  let pattern ← binding g ctx
  if inFor && (← isOneOf ["in", "of"]) then return .mk pattern .omitted
  else if ← eat "=" then
    let value ← g.assignment ctx
    return .mk pattern value
  else if kind = .constant && !inFor then
    note start .constWithoutValue
    return .mk pattern .omitted
  else
    match pattern with
    | .ident _ _ => return .mk pattern .omitted
    | _ => fail start .patternWithoutValue

/-- One binding of a declaration with the comma before it.  A comma needs a
binding after it; `wordStart` is where the problem is when there is no binding
at all. -/
def declaratorStep (g : Grammar) (ctx : Context) (inFor : Bool) (kind : VarKind) (wordStart : Nat)
    (acc : List Declarator) : Parse (List Declarator ⊕ List Declarator) := do
  let more ← if acc.isEmpty then pure true else eat ","
  if !more then return .inr acc.reverse
  else if (← is ";") || (← isEnd) then
    let at' ← if (← prevStart) = wordStart then prevStop else prevStart
    note at' .trailingComma
    return .inr acc.reverse
  else
    let d ← declarator g ctx inFor kind
    return .inl (d :: acc)

/-- The bindings of a declaration. -/
def declarators (g : Grammar) (ctx : Context) (inFor : Bool) (kind : VarKind) (wordStart : Nat) :
    Parse (List Declarator) :=
  loop [] (declaratorStep g ctx inFor kind wordStart)

/-- A declaration of variables.  After a declaration that does not end where it
should, everything up to the end of a statement is skipped. -/
def varDeclaration (g : Grammar) (ctx : Context) (inFor : Bool) : Parse Stmt := do
  let start ← pos
  let word ← bump
  let kind : VarKind := match word with
    | .word "const" => .constant
    | .word "let" => .block
    | _ => .var
  let inner := if kind ≠ .var || !inFor then ctx.withIn else ctx
  let ds ← declarators g inner inFor kind start
  if !inFor then
    if !(← eatStatementEnd) then
      note (← spot) .semicolonExpected
      let _ ← attempt (expression g ctx)
      loop () fun _ => do
        if ← eatStatementEnd then return .inr ()
        else
          let _ ← bump
          match ← look with
          | .bad _ => return .inr ()
          | _ => return .inl ()
  return .varDecl kind ds

/-- A declaration of resources, which is read but not enabled.  It is none
unless a name follows on the same line. -/
def usingDeclaration (g : Grammar) (ctx : Context) (start : Nat) (await : Bool) :
    Parse (Option Stmt) := do
  let (next, newline) ← second
  if newline || !Token.isIdentifier next then return none
  else
    let _ ← bump
    note start .usingDisabled
    if !ctx.usingAllowed then note (← prevStart) .usingNotAllowed
    let ds ← declarators g ctx false .var start
    ds.forM fun d => match d with
      | .mk (.ident _ _) .omitted => note start .usingWithoutValue
      | .mk (.ident _ _) _ => return ()
      | .mk _ _ => note start .usingPattern
    return some (.resource await ds)

/-! ### Statements with parts -/

def parenthesized (g : Grammar) (ctx : Context) : Parse Expr := do
  expect "("
  let e ← expression g ctx.withIn
  expect ")"
  return e

/-- The `else` branches of an `if` statement, a chain of them as long as each is
an `if` statement again. -/
def elseBranches (g : Grammar) (ctx : Context) : Parse Stmt := do
  let (ifs, last) ← loop [] fun (acc : List Stmt) => do
    if !(← eat "else") then return .inr (acc, Stmt.omitted)
    else if ← is "if" then
      let s ← g.ifOnly ctx
      return .inl (s :: acc)
    else
      let s ← g.statement ctx false
      return .inr (acc, s)
  return ifs.foldl (fun last s => match s with
    | .ifElse test yes _ => .ifElse test yes last
    | s => s) last

/-- An `if` statement without its `else`. -/
def ifOnly (g : Grammar) (ctx : Context) : Parse Stmt := do
  let _ ← bump
  let test ← parenthesized g ctx
  let yes ← g.statement ctx false
  return .ifElse test yes .omitted

def ifStatement (g : Grammar) (ctx : Context) : Parse Stmt := do
  match ← ifOnly g ctx with
  | .ifElse test yes _ =>
    let no ← elseBranches g ctx
    return .ifElse test yes no
  | s => return s

def switchStatement (g : Grammar) (ctx : Context) : Parse Stmt := do
  let _ ← bump
  let value ← parenthesized g ctx
  expect "\x7b"
  let inner := { ctx with breakAllowed := true }
  let cases ← loop (([] : List Stmt), false) fun (acc, defaulted) => do
    if !(← isOneOf ["case", "default"]) then return .inr acc.reverse
    else
      let isCase ← is "case"
      let start ← pos
      let _ ← bump
      let test ← if isCase then expression g inner.withIn
        else if defaulted then fail start .duplicateDefault
        else pure .omitted
      expect ":"
      let body ← loop [] fun (acc : List Stmt) => do
        if (← isEnd) || (← isOneOf ["case", "default", "\x7d"]) then return .inr acc.reverse
        else
          let s ← g.statement inner true
          return .inl (s :: acc)
      return .inl (.case test body :: acc, defaulted || !isCase)
  expect "\x7d"
  return .switch value cases

def catchClause (g : Grammar) (ctx : Context) : Parse (Option (Pattern × List Stmt)) := do
  if ← eat "catch" then
    let param ← if ← eat "(" then do
        let p ← binding g ctx
        expect ")"
        pure p
      else pure .hole
    let body ← block g ctx
    return some (param, body)
  else return none

def finallyClause (g : Grammar) (ctx : Context) : Parse (Option (List Stmt)) := do
  if ← eat "finally" then return some (← block g ctx) else return none

def tryStatement (g : Grammar) (ctx : Context) : Parse Stmt := do
  let _ ← bump
  let body ← block g ctx
  let after ← pos
  let handler ← catchClause g ctx
  let finalizer ← finallyClause g ctx
  if handler.isNone && finalizer.isNone then note after .semicolonExpected
  let (param, handlerBody) := handler.getD (.hole, [])
  return .tryCatch body handler.isSome param handlerBody finalizer.isSome (finalizer.getD [])

def inLoop (ctx : Context) : Context := { ctx with breakAllowed := true, continueAllowed := true }

def whileStatement (g : Grammar) (ctx : Context) : Parse Stmt := do
  let _ ← bump
  let test ← parenthesized g ctx
  let body ← g.statement (inLoop ctx) false
  return .whileLoop test body

def doStatement (g : Grammar) (ctx : Context) : Parse Stmt := do
  let _ ← bump
  let body ← g.statement (inLoop ctx) false
  expect "while"
  let test ← parenthesized g ctx
  let _ ← eatStatementEnd
  return .doWhile body test

/-- The head of a loop: what comes before the body. -/
inductive ForHead where
  | plain (init : Stmt) (test update : Expr)
  | overKeys (left : Stmt) (right : Expr)
  | overValues (left : Stmt) (right : Expr)

/-- The test and the step of a loop, after the first semicolon. -/
def plainHead (g : Grammar) (ctx : Context) (init : Stmt) : Parse ForHead := do
  let test ← if ← eat ";" then pure .omitted
    else do
      let e ← expression g ctx.withIn
      expect ";"
      pure e
  let update ← if ← is ")" then pure .omitted else expression g ctx.withIn
  return .plain init test update

/-- What a loop runs over, after the word `of` or `in`. -/
def eachHead (g : Grammar) (ctx : Context) (left : Stmt) : Parse ForHead := do
  let word ← bump
  if Token.isText "of" word then return .overValues left (← g.assignment ctx.withIn)
  else return .overKeys left (← expression g ctx.withIn)

def declaratorStart : Declarator → Nat
  | .mk p _ => p.start

def hasValue : Declarator → Bool
  | .mk _ .omitted => false
  | .mk _ _ => true

def forHead (g : Grammar) (ctx : Context) : Parse ForHead := do
  let declares ← if ← isOneOf ["const", "var"] then pure true
    else if ← is "let" then pure (Token.followsLet (← second).1)
    else pure false
  if declares then
    let decl ← varDeclaration g ctx true
    if ← isOneOf ["of", "in"] then
      match decl with
      | .varDecl _ [d] => if hasValue d then note (declaratorStart d) .forInitializer
      | .varDecl _ ds => (ds.drop 1).forM fun d => note (declaratorStart d) .forVariables
      | _ => pure ()
      eachHead g ctx decl
    else
      expect ";"
      plainHead g ctx decl
  else if ← eat ";" then plainHead g ctx .omitted
  else
    let init ← expression g { ctx with inOperator := false }
    if ← isOneOf ["of", "in"] then
      let p ← asPattern (← depth) .assignment init
      eachHead g ctx (.target p)
    else
      expect ";"
      plainHead g ctx (.expr init)

def forStatement (g : Grammar) (ctx : Context) : Parse Stmt := do
  let _ ← bump
  let awaitAt ← pos
  let await ← eat "await"
  expect "("
  let head ← forHead g { ctx with forInit := true, forAwait := await }
  expect ")"
  let body ← g.statement (inLoop ctx) false
  match head with
  | .plain init test update =>
    if await then fail awaitAt .forAwait else return .forLoop init test update body
  | .overKeys left right => if await then fail awaitAt .forAwait else return .forIn left right body
  | .overValues left right => return .forOf await left right body

/-! ### Jumps and labels -/

def hasLabel (label : String) : Parse Bool := peek fun c => c.labels.contains label

def setLabels (f : List String → List String) : Parse Unit :=
  ⟨fun c => .done () { c with labels := f c.labels }, fun _ => ⟨rfl, fun _ h => h⟩⟩

/-- A `break` or a `continue`, and its label. -/
def jumpStatement (ctx : Context) : Parse Stmt := do
  let start ← pos
  let isBreak ← is "break"
  let _ ← bump
  let label ← if ← eatStatementEnd then pure none
    else do
      let (_, name) ← identifier ctx
      expectStatementEnd
      pure (some name)
  let known ← match label with
    | some l => hasLabel l
    | none => pure true
  if isBreak then
    if !known then note start .breakLabel
    else if !ctx.breakAllowed then note start .breakOutside
    return .breakTo label
  else
    if !ctx.continueAllowed then note start .continueOutside
    else if !known then note start .continueLabel
    return .continueTo label

def returnStatement (g : Grammar) (ctx : Context) : Parse Stmt := do
  let start ← pos
  let _ ← bump
  let value ← if ← isStatementEnd then pure .omitted else expression g ctx.withIn
  expectStatementEnd
  if !ctx.inFunction then note start .returnOutside
  return .ret value

def throwStatement (g : Grammar) (ctx : Context) : Parse Stmt := do
  let _ ← bump
  if ← newlineBefore then fail (← spot) .lineBreakAfterThrow
  let value ← expression g ctx.withIn
  expectStatementEnd
  return .throw value

/-- A statement after its label. -/
def labeledStatement (g : Grammar) (ctx : Context) (start : Nat) (label : String) : Parse Stmt := do
  let known ← hasLabel label
  setLabels (label :: ·)
  let inner := { ctx with breakAllowed := true, usingAllowed := false }
  let body ← if ← is "function" then do
      let f ← function g inner true false
      note f.start .labeledFunction
      match f with
      | .mk s _ async generator _ _ => if async || generator then note s .labeledAsyncFunction
      pure (Stmt.functionDecl f)
    else g.statement inner false
  if known then note start (.duplicateLabel label)
  setLabels (List.erase · label)
  return .labeled label body

/-! ### Statements -/

/-- An expression as a statement, or a label with its statement. -/
def expressionStatement (g : Grammar) (ctx : Context) : Parse Stmt := do
  let e ← expression g ctx.withIn
  let label ← match e with
    | .ident start name => do
      if ← eat ":" then pure (some (start, name)) else pure none
    | _ => pure none
  match label with
  | some (start, name) => labeledStatement g ctx start name
  | none =>
    if ← eatStatementEnd then return .expr e
    else
      match ← look with
      | .punct text =>
        if isBinaryText text then
          note (← spot) .semicolonExpected
          let e ← binaryRest g ctx ((← depth) + 2) 0 e
          return .expr e
        else fail (← spot) .endOfStatementExpected
      | _ => fail (← spot) .endOfStatementExpected

/-- A `let` that declares something, and is not used as a name. -/
def letDeclares : Parse Bool := do return Token.followsLet (← second).1

/-- A statement; with `declarations` a declaration, too. -/
def statement (g : Grammar) (ctx : Context) (declarations : Bool) : Parse Stmt := do
  let start ← pos
  if ← isOneOf ["import", "export"] then
    if (← is "import") && ((← secondIs "(") || (← secondIs ".")) then
      let e ← expression g ctx
      let _ ← eatStatementEnd
      return .expr e
    else fail (← spot) .importOrExportNested
  else
    checkSlash
    let t ← need
    match t with
    | .punct "\x7b" => return .block (← block g { ctx with usingAllowed := true })
    | .punct ";" =>
      let _ ← bump
      return .empty
    | .word "break" | .word "continue" => jumpStatement ctx
    | .word "debugger" =>
      let _ ← bump
      expectStatementEnd
      return .debugger
    | .word "do" => doStatement g ctx
    | .word "for" => forStatement g ctx
    | .word "function" =>
      if !declarations then note start .declarationNotAllowed
      return .functionDecl (← function g ctx true false)
    | .word "class" =>
      if !declarations then note start .declarationNotAllowed
      return .classDecl (← cls g ctx true)
    | .word "if" => ifStatement g ctx
    | .word "return" => returnStatement g ctx
    | .word "switch" => switchStatement g ctx
    | .word "throw" => throwStatement g ctx
    | .word "catch" =>
      note start .semicolonExpected
      let _ ← attempt (catchClause g ctx)
      let _ ← attempt (finallyClause g ctx)
      return .expr (.missing start)
    | .word "finally" =>
      note start .semicolonExpected
      let _ ← attempt (finallyClause g ctx)
      return .expr (.missing start)
    | .word "try" => tryStatement g ctx
    | .word "with" =>
      note start .withStatement
      let _ ← bump
      let object ← parenthesized g ctx
      let body ← g.statement { ctx with inFunction := true } false
      return .withObject object body
    | .word "while" => whileStatement g ctx
    | .word "var" => varDeclaration g ctx false
    | .word "const" =>
      if declarations then varDeclaration g ctx false else expressionStatement g ctx
    | .word "let" =>
      if declarations && (← letDeclares) then varDeclaration g ctx false
      else expressionStatement g ctx
    | .word "using" =>
      if declarations then
        match ← usingDeclaration g ctx start false with
        | some s => return s
        | none => expressionStatement g ctx
      else expressionStatement g ctx
    | .word "await" =>
      if declarations && (← secondIs "using") then
        let _ ← bump
        match ← usingDeclaration g ctx start true with
        | some s => return s
        | none =>
          let e ← awaitExpr g ctx (some start)
          let _ ← eatStatementEnd
          return .expr e
      else expressionStatement g ctx
    | .word "async" =>
      let (next, newline) ← second
      if Token.isText "function" next && !newline then
        return .functionDecl (← function g ctx true false)
      else expressionStatement g ctx
    | _ => expressionStatement g ctx

end Read

/-- The grammar with `n` levels of nesting. -/
def Grammar.levels : Nat → Grammar
  | 0 => Grammar.ground
  | n + 1 =>
    { assignment := fun ctx => Read.assignment (levels n) ctx
      unary := fun ctx => Read.unary (levels n) ctx
      member := fun ctx => Read.memberOrNew (levels n) ctx
      lhs := fun ctx => Read.leftHandSide (levels n) ctx
      binding := fun ctx => Read.binding (levels n) ctx
      statement := fun ctx declarations => Read.statement (levels n) ctx declarations
      ifOnly := fun ctx => Read.ifOnly (levels n) ctx }

end Frontmatter.Esm
