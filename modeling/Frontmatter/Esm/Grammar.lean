/-
Frontmatter/Esm/Grammar.lean

The context in which a phrase is read, and the phrases that nest in others.

Expressions, patterns and statements nest in each other without end.  The
readers of the single phrases are therefore not written as one large
recursion: each takes a `Grammar`, which holds the readers of the phrases that
may stand inside it.  `Grammar` values are stacked, one on top of the other,
where the source of a module is read; every level of the stack stands for one
level of nesting.
-/
import Frontmatter.Esm.Cursor

namespace Frontmatter.Esm

/-- What is allowed where a phrase stands. -/
structure Context where
  async : Bool := false
  generator : Bool := false
  inFunction : Bool := false
  inParameters : Bool := false
  inClass : Bool := false
  classField : Bool := false
  staticBlock : Bool := false
  /-- `super` may be used. -/
  superAllowed : Bool := false
  /-- Inside a function that is not an arrow function. -/
  functionScope : Bool := false
  breakAllowed : Bool := false
  continueAllowed : Bool := false
  /-- The word `in` is an operator here. -/
  inOperator : Bool := true
  forInit : Bool := false
  forAwait : Bool := false
  usingAllowed : Bool := true

/-- The readers of the phrases that nest. -/
structure Grammar where
  assignment : Context → Parse Expr
  unary : Context → Parse Expr
  /-- The operand of `new`: a member expression, in which no call is read. -/
  member : Context → Parse Expr
  /-- What can stand on the left of an assignment, calls included. -/
  lhs : Context → Parse Expr
  binding : Context → Parse Pattern
  /-- A statement; the flag says that a declaration may stand here, too. -/
  statement : Context → Bool → Parse Stmt
  /-- An `if` statement that leaves a following `else` alone. -/
  ifOnly : Context → Parse Stmt

/-- The grammar below the last level of the stack. -/
def Grammar.ground : Grammar where
  assignment _ := Parse.fail 0 .outOfReach
  unary _ := Parse.fail 0 .outOfReach
  member _ := Parse.fail 0 .outOfReach
  lhs _ := Parse.fail 0 .outOfReach
  binding _ := Parse.fail 0 .outOfReach
  statement _ _ := Parse.fail 0 .outOfReach
  ifOnly _ := Parse.fail 0 .outOfReach

def Context.withIn (ctx : Context) : Context := { ctx with inOperator := true }

namespace Read

open Parse

/-! ### Identifiers and keys -/

/-- The words that strict code does not accept as identifiers, although they
are not keywords everywhere. -/
def strictWords : List String :=
  ["enum", "yield", "static", "implements", "interface", "let", "package", "private", "protected",
   "public"]

/-- Any word, and where it starts. -/
def identifierName : Parse (Nat × String) := do
  match ← need with
  | .word w =>
    let start ← pos
    let _ ← bump
    return (start, w)
  | _ => fail (← spot) .identifierExpected

/-- A word that names a variable.  Words that only strict code refuses are
noted. -/
def identifier (ctx : Context) : Parse (Nat × String) := do
  match ← need with
  | .word w =>
    let start ← pos
    let _ ← bump
    if strictWords.contains w then note start (.strictIdentifier w)
    if w = "await" then
      if ctx.staticBlock then fail start .identifierExpected else fail start .awaitIdentifier
    else if w = "let" || w = "yield" then return (start, w)
    else if isKeyword w then fail start .identifierExpected
    else
      if w = "arguments" && ctx.classField then note start .argumentsInField
      return (start, w)
  | _ => fail (← spot) .identifierExpected

/-- A word that is bound to a value. -/
def bindingIdentifier (ctx : Context) : Parse (Nat × String) := do
  let (start, name) ← identifier ctx
  if ctx.generator && name = "yield" then note start .identifierExpected
  if name = "eval" || name = "arguments" then note start .evalOrArguments
  return (start, name)

/-- A private name, after whose mark no blank may stand. -/
def privateName : Parse (Nat × String) := do
  let start ← pos
  let _ ← bump
  let hashStop ← prevStop
  if (← pos) ≠ hashStop then fail start .spaceAfterHash
  let (_, name) ← identifierName
  return (start, name)

/-- Expressions with commas between them. -/
def expression (g : Grammar) (ctx : Context) : Parse Expr := do
  let first ← g.assignment ctx
  if ← is "," then
    let rest ← loop [first] fun (acc : List Expr) => do
      if ← eat "," then
        let e ← g.assignment ctx
        return .inl (e :: acc)
      else return .inr acc.reverse
    return .seq first.start rest
  else return first

/-- The name of a property. -/
def key (g : Grammar) (ctx : Context) : Parse Key := do
  let t ← need
  let start ← pos
  match t with
  | .str value _ =>
    let _ ← bump
    return .str start value
  | .num value _ =>
    let _ ← bump
    return .num start value
  | .bigint value _ =>
    let _ ← bump
    return .bigint start value
  | .word name =>
    let _ ← bump
    return .name start name
  | .punct "[" =>
    let _ ← bump
    let e ← g.assignment ctx.withIn
    expect "]"
    return .computed start e
  | _ => unexpected "identifier, string literal, numeric literal or [ for the computed key"

/-! ### Binding patterns -/

/-- A pattern that may have a default value. -/
def bindingElement (g : Grammar) (ctx : Context) : Parse Pattern := do
  let target ← g.binding ctx
  if ← eat "=" then
    let value ← g.assignment ctx.withIn
    return .withDefault target.start target value
  else return target

/-- The elements of an array pattern.  Commas at the end leave no holes. -/
def arrayBinding (g : Grammar) (ctx : Context) : Parse Pattern := do
  let start ← pos
  let _ ← bump
  let elements ← loop (([] : List Pattern), 0) fun (acc, holes) => do
    if (← isEnd) || (← is "]") then return .inr acc.reverse
    else if ← eat "," then return .inl (acc, holes + 1)
    else
      let acc := List.replicate holes Pattern.hole ++ acc
      let at' ← pos
      let isRest ← eat "..."
      let element ← if isRest then do
          let target ← g.binding ctx
          pure (Pattern.rest at' target)
        else bindingElement g ctx
      if !(← is "]") then
        expect ","
        if isRest && (← is "]") then note (← prevStart) .commaAfterRest
      return .inl (element :: acc, 0)
  expect "]"
  return .array start elements

/-- A property of an object pattern. -/
def propertyBinding (g : Grammar) (ctx : Context) : Parse Pattern := do
  let start ← pos
  if ← eat "..." then
    let target ← g.binding ctx
    return .rest start target
  else
    let k ← key g ctx
    if ← eat ":" then
      let target ← bindingElement g ctx
      return .pair k target
    else
      match k with
      | .name at' name =>
        if ← eat "=" then
          let value ← g.assignment ctx.withIn
          return .short at' name value
        else
          if isReserved name then note at' .reservedShorthand
          return .short at' name .omitted
      | _ => unexpected "an identifier"

/-- A rest pattern of an object has to be a plain name, and the last one. -/
def checkRests (trailing : Option Nat) : List Pattern → Parse Unit
  | [] => return ()
  | [.rest start target] =>
    match target with
    | .ident _ _ =>
      match trailing with
      | some comma => note comma .commaAfterRest
      | none => return ()
    | _ => fail start .restNeedsIdentifier
  | [_] => return ()
  | .rest start _ :: more => do
    note start .restNotLast
    checkRests trailing more
  | _ :: more => checkRests trailing more

def objectBinding (g : Grammar) (ctx : Context) : Parse Pattern := do
  let start ← pos
  let _ ← bump
  let (props, trailing) ← loop (([] : List Pattern), (none : Option Nat)) fun (acc, trailing) => do
    if ← eat "\x7d" then return .inr (acc.reverse, trailing)
    else
      let p ← propertyBinding g ctx
      if ← is "\x7d" then return .inl (p :: acc, trailing)
      else
        expect ","
        if ← is "\x7d" then return .inl (p :: acc, some (← prevStart))
        else return .inl (p :: acc, trailing)
  checkRests trailing props
  return .object start props

/-- A name or a pattern that a declaration binds. -/
def binding (g : Grammar) (ctx : Context) : Parse Pattern := do
  match ← need with
  | .word _ =>
    let (start, name) ← bindingIdentifier ctx
    return .ident start name
  | .punct "[" => arrayBinding g ctx
  | .punct "\x7b" => objectBinding g ctx
  | _ => unexpected "yield, an identifier, [ or \x7b"

end Read
end Frontmatter.Esm
