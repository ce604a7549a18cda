/-
Frontmatter/Esm/Function.lean

Functions, the properties of objects, and classes.
-/
import Frontmatter.Esm.Target

namespace Frontmatter.Esm

/-- A list of parameters without defaults, rests and patterns. -/
def isSimpleList (params : List Pattern) : Bool :=
  params.all fun p => match p with
    | .ident _ _ => true
    | _ => false

/-- The directive that asks for strict code, among the first statements. -/
def strictDirective? : List Stmt → Option Nat
  | .expr (.str start value) :: rest =>
    if value = "use strict" then some start else strictDirective? rest
  | _ => none

def Key.isConstructor : Key → Bool
  | .name _ n => n = "constructor"
  | .str _ value => value = "constructor"
  | _ => false

namespace Read

open Parse

/-! ### Blocks and bodies -/

/-- One statement of a block, or the closing brace.  A missing brace is noted. -/
def blockStep (g : Grammar) (ctx : Context) (acc : List Stmt) :
    Parse (List Stmt ⊕ List Stmt) := do
  if ← isEnd then
    note (← spot) (.expected "\x7d" "<eof>")
    return .inr acc.reverse
  else
    let _ ← glance
    if ← eat "\x7d" then return .inr acc.reverse
    else
      let s ← g.statement ctx true
      return .inl (s :: acc)

/-- The statements up to the closing brace. -/
def blockBody (g : Grammar) (ctx : Context) : Parse (List Stmt) := loop [] (blockStep g ctx)

def block (g : Grammar) (ctx : Context) : Parse (List Stmt) := do
  expect "\x7b"
  blockBody g ctx

/-- A step in which the labels outside are out of sight. -/
def withoutLabels {α : Type} (x : Parse α) : Parse α where
  run c :=
    match x.run { c with labels := [] } with
    | .done a d => .done a { d with labels := c.labels }
    | .failed p d => .failed p { d with labels := c.labels }
  before c := by
    have h := x.before { c with labels := [] }
    split
    · next a d e => rw [e] at h; exact ⟨h.bound, h.noted⟩
    · next p d e => rw [e] at h; exact ⟨h.bound, h.noted⟩

/-- What is allowed in the body of a function. -/
def Context.inBody (ctx : Context) (async generator arrow : Bool) : Context :=
  { ctx with
    async := async
    generator := generator
    inFunction := true
    functionScope := if arrow then ctx.functionScope else true
    breakAllowed := false
    continueAllowed := false
    staticBlock := false }

def functionBody (g : Grammar) (ctx : Context) (async generator : Bool) (params : List Pattern) :
    Parse (List Stmt) := do
  let body ← withoutLabels (block g (Context.inBody ctx async generator false))
  if !isSimpleList params then
    match strictDirective? body with
    | some start => note start .strictDirective
    | none => pure ()
  return body

/-- The body of an arrow function: a block or an expression. -/
def arrowBody (g : Grammar) (ctx : Context) (start : Nat) (async : Bool) (params : List Pattern) :
    Parse Expr := do
  let inner := Context.inBody ctx async false true
  if ← is "\x7b" then
    let body ← withoutLabels (block g inner)
    if !isSimpleList params then
      match strictDirective? body with
      | some at' => note at' .strictDirective
      | none => pure ()
    return .arrow start async params body
  else
    let e ← withoutLabels (g.assignment inner)
    return .arrowExpr start async params e

/-! ### Parameters -/

/-- The parameters of a function, without the parentheses. -/
def parameters (g : Grammar) (ctx : Context) : Parse (List Pattern) :=
  loop (([] : List Pattern), (none : Option Nat)) fun (acc, restAt) => do
    if (← isEnd) || (← is ")") then return .inr acc.reverse
    else
      match restAt with
      | some start => note start .restParameterNotLast
      | none => pure ()
      let start ← pos
      let isRest ← eat "..."
      let target ← g.binding ctx
      let p ← if isRest then
          if ← eat "=" then
            let value ← g.assignment ctx
            note target.start .restWithDefault
            pure (Pattern.rest start (.withDefault target.start target value))
          else pure (Pattern.rest start target)
        else if ← eat "=" then
          let value ← g.assignment ctx
          pure (Pattern.withDefault target.start target value)
        else pure target
      if !(← is ")") then
        expect ","
        if isRest && (← is ")") then note (← prevStart) .commaAfterRest
      return .inl (p :: acc, if isRest then some start else restAt)

/-- The parameters and the body of a function.  `check` looks at the parameters
before the closing parenthesis. -/
def functionRest (g : Grammar) (ctx : Context) (start : Nat) (name : Option String)
    (async generator : Bool) (check : List Pattern → Parse Unit) : Parse Function := do
  expect "("
  let params ← parameters g
    { ctx with inParameters := true, inFunction := false, async := async, generator := generator }
  check params
  expect ")"
  let body ←
    functionBody g { ctx with async := async, generator := generator } async generator params
  return .mk start name async generator params body

def anyParameters (_ : List Pattern) : Parse Unit := return ()

/-- A getter has no parameters. -/
def getterCheck (keyStart : Nat) (params : List Pattern) : Parse Unit := do
  if !params.isEmpty then note keyStart .getterParameters

/-- A setter has one parameter, and it is no rest. -/
def setterCheck (keyStart : Nat) (params : List Pattern) : Parse Unit := do
  if params.length ≠ 1 then note keyStart .setterParameters
  match params with
  | .rest start _ :: _ => note start .setterRest
  | _ => return ()

/-- A function after the word `function`; a declaration needs a name unless it
is a default export. -/
def functionAfter (g : Grammar) (ctx : Context) (start : Nat) (async needsName isExpr : Bool) :
    Parse Function := do
  let generator ← eat "*"
  let outer := { ctx with superAllowed := false, classField := false }
  let nameContext := if isExpr then { outer with async := async, generator := generator } else outer
  let name ← if needsName then do
      let (_, name) ← bindingIdentifier nameContext
      pure (some name)
    else if ← isIdentifier then do
      let (_, name) ← bindingIdentifier nameContext
      pure (some name)
    else pure none
  functionRest g outer start name async generator anyParameters

/-- A function that begins with `function`, or with `async function`. -/
def function (g : Grammar) (ctx : Context) (needsName isExpr : Bool) : Parse Function := do
  let start ← pos
  let async ← eat "async"
  let _ ← bump
  functionAfter g ctx start async needsName isExpr

/-! ### Objects -/

/-- A property of an object. -/
def property (g : Grammar) (ctx : Context) : Parse Property := do
  let start ← pos
  let method := { ctx with superAllowed := true, classField := false }
  if ← eat "..." then
    let e ← g.assignment ctx.withIn
    return .spread start e
  else if ← eat "*" then
    let k ← key g ctx
    let f ← functionRest g method start none false true anyParameters
    return .method start .method k f
  else
    let k ← key g ctx
    if ← eat ":" then
      let value ← g.assignment ctx.withIn
      return .pair k value
    else if ← is "(" then
      let f ← functionRest g method start none false false anyParameters
      return .method start .method k f
    else
      match k with
      | .name at' name =>
        if ← eat "?" then note (← prevStart) .optionalMember
        if ← isOneOf ["=", ",", "\x7d"] then
          if isReserved name then note at' .reservedShorthand
          if ← eat "=" then
            let value ← g.assignment ctx.withIn
            return .assign start name value
          else return .shorthand at' name
        else if name = "get" then
          let k ← key g ctx
          let f ← functionRest g method start none false false (getterCheck k.start)
          return .method start .getter k f
        else if name = "set" then
          let k ← key g ctx
          let f ← functionRest g method start none false false (setterCheck k.start)
          return .method start .setter k f
        else if name = "async" then
          let generator ← eat "*"
          let k ← key g ctx
          let f ← functionRest g method start none true generator anyParameters
          return .method start .method k f
        else unexpected "... , *,  (, [, :, , ?, = or an identifier"
      | _ => unexpected "identifier"

/-- One property of an object, with the comma after it, or the closing brace. -/
def objectStep (g : Grammar) (ctx : Context) (acc : List Property) :
    Parse (List Property ⊕ List Property) := do
  if ← eat "\x7d" then return .inr acc.reverse
  else
    let p ← property g ctx
    if !(← is "\x7d") then expect ","
    return .inl (p :: acc)

def object (g : Grammar) (ctx : Context) : Parse Expr := do
  let start ← pos
  let _ ← bump
  let props ← loop [] (objectStep g ctx)
  return .object start props

/-! ### Classes -/

/-- The name of a member of a class. -/
def memberKey (g : Grammar) (ctx : Context) : Parse Key := do
  if ← is "#" then
    let (start, name) ← privateName
    if name = "constructor" then note start .constructorPrivate
    return .privateName start name
  else key g ctx

/-- A field ends here, or its value begins. -/
def atFieldEnd (lineEnds : Bool) : Parse Bool := do
  if ← isOneOf ["=", "\x7d", ";"] then return true
  else if lineEnds then isStatementEnd
  else return false

def classField (g : Grammar) (ctx : Context) (isStatic : Bool) (k : Key) : Parse ClassMember := do
  if k.isConstructor then fail k.start .constructorProperty
  else
    let value ← if ← eat "=" then g.assignment { ctx with inOperator := true, classField := true }
      else pure .omitted
    if !(← eatStatementEnd) then note (← spot) .semicolonExpected
    return .field isStatic k value

/-- A member of a class after the word `static`, if that was there. -/
def classMemberAfter (g : Grammar) (ctx : Context) (start : Nat) (isStatic : Bool) :
    Parse ClassMember := do
  let method := { ctx with superAllowed := true, classField := false }
  let make (kind : MethodKind) (k : Key) (async generator : Bool)
      (check : List Pattern → Parse Unit) : Parse ClassMember := do
    let f ← functionRest g method start none async generator check
    return .method isStatic kind k f
  if ← eat "*" then
    let k ← memberKey g ctx
    if k.isConstructor then note k.start .constructorGenerator
    make .method k false true anyParameters
  else
    let k ← memberKey g ctx
    if ← is "(" then
      if k.isConstructor && !isStatic then
        expect "("
        let params ← parameters g { method with inParameters := true, inFunction := false }
        expect ")"
        let body ← functionBody g method false false params
        return .constructor params body
      else make .method k false false anyParameters
    else
      let generatorNext := (← newlineBefore) && (← is "*")
      let accessor : Option MethodKind := match k with
        | .name _ "get" => some .getter
        | .name _ "set" => some .setter
        | _ => none
      let accessor ← match accessor with
        | some kind =>
          if (← atFieldEnd false) || generatorNext then pure none else pure (some kind)
        | none => pure none
      match accessor with
      | some kind =>
        let target ← memberKey g ctx
        if target.isConstructor then note target.start .constructorAccessor
        make kind target false false
          (match kind with
            | .setter => setterCheck k.start
            | _ => getterCheck k.start)
      | none =>
        if ← atFieldEnd true then classField g ctx isStatic k
        else
          match k with
          | .name _ "async" =>
            let generator ← eat "*"
            let target ← memberKey g ctx
            if target.isConstructor then note target.start .constructorAsync
            make .method target true generator anyParameters
          | _ => unexpected "* for generator, private key, identifier or async"

/-- A member of a class.  The word `static` may be a mark, or a name. -/
def classMember (g : Grammar) (ctx : Context) : Parse ClassMember := do
  let start ← pos
  if ← is "static" then
    let at' ← pos
    let _ ← bump
    let k := Key.name at' "static"
    if ← is "(" then
      let f ← functionRest g { ctx with superAllowed := true, classField := false } start none false
        false anyParameters
      return .method false .method k f
    else if ← atFieldEnd false then classField g ctx false k
    else if ← is "\x7b" then
      let body ← withoutLabels (block g
        { ctx with staticBlock := true, classField := true, superAllowed := true,
                   breakAllowed := false, continueAllowed := false, functionScope := true })
      return .staticBlock body
    else classMemberAfter g ctx start true
  else classMemberAfter g ctx start false

def isConstructorMember : ClassMember → Bool
  | .constructor _ _ => true
  | _ => false

/-- The members of a class, up to the closing brace.  A second constructor is
noted. -/
def classBody (g : Grammar) (ctx : Context) : Parse (List ClassMember) :=
  loop (([] : List ClassMember), false) fun (acc, constructed) => do
    if (← isEnd) || (← is "\x7d") then return .inr acc.reverse
    else if ← eat ";" then return .inl (.empty :: acc, constructed)
    else
      let start ← pos
      let m ← classMember g { ctx with superAllowed := true }
      if constructed && isConstructorMember m then note start .duplicateConstructor
      return .inl (m :: acc, constructed || isConstructorMember m)

/-- A class that begins at the word `class`. -/
def cls (g : Grammar) (ctx : Context) (needsName : Bool) : Parse Class := do
  expect "class"
  let name ← if needsName then do
      let (_, name) ← bindingIdentifier ctx
      pure (some name)
    else if ← isIdentifier then do
      let (_, name) ← bindingIdentifier ctx
      pure (some name)
    else pure none
  let superclass ← if ← eat "extends" then g.lhs ctx else pure .omitted
  if ← eat "extends" then
    note (← prevStart) .duplicateExtends
    let _ ← g.lhs ctx
  expect "\x7b"
  let members ← classBody g { ctx with inClass := true }
  if ← isEnd then note (← spot) (.expected "\x7d" "<eof>")
  else expect "\x7d"
  return .mk name superclass members

end Read
end Frontmatter.Esm
