/-
Frontmatter/Esm/Expression.lean

Expressions, from the operands up to assignments.

The readers are ordered by how tightly their phrase binds: primary
expressions, then what may follow them, then operators.  Where a phrase may
contain any expression again, its reader asks the grammar.

An operand that cannot be read does not end the reading if an operator follows
at that place: then the operand is noted as missing.  At the end of the source
the problem is always that the source ended.
-/
import Frontmatter.Esm.Function

namespace Frontmatter.Esm

def Expr.isOptional : Expr → Bool
  | .optional _ _ => true
  | _ => false

def Expr.isArrow : Expr → Bool
  | .arrow _ _ _ _ | .arrowExpr _ _ _ _ => true
  | _ => false

/-! ### Operators -/

/-- The binary operators, with how tightly they bind. -/
def binaryPrecedence : List (String × Nat) :=
  [("??", 1), ("||", 1), ("&&", 2), ("|", 3), ("^", 4), ("&", 5), ("==", 6), ("!=", 6), ("===", 6),
   ("!==", 6), ("<", 7), ("<=", 7), (">", 7), (">=", 7), ("<<", 8), (">>", 8), (">>>", 8), ("+", 9),
   ("-", 9), ("*", 10), ("/", 10), ("%", 10), ("**", 11)]

def assignOperators : List String :=
  ["=", "+=", "-=", "*=", "/=", "%=", "<<=", ">>=", ">>>=", "|=", "^=", "&=", "**=", "&&=", "||=",
   "??="]

def isBinaryText (text : String) : Bool := binaryPrecedence.any (·.1 = text)

/-- The binary operator that a token is, and how tightly it binds. -/
def binaryOp? (ctx : Context) : Token → Option (String × Nat)
  | .punct text => binaryPrecedence.find? (·.1 = text)
  | .word "instanceof" => some ("instanceof", 7)
  | .word "in" => if ctx.inOperator then some ("in", 7) else none
  | _ => none

def unaryOp? : Token → Option UnaryOp
  | .punct "-" => some .minus
  | .punct "+" => some .plus
  | .punct "!" => some .not
  | .punct "~" => some .complement
  | .word "typeof" => some .typeof
  | .word "void" => some .void
  | .word "delete" => some .delete
  | _ => none

def updateOp? : Token → Option UpdateOp
  | .punct "++" => some .increment
  | .punct "--" => some .decrement
  | _ => none

/-- A logical operator that must not be mixed with `??`. -/
def Expr.isAndOr : Expr → Bool
  | .binary _ op _ _ => op = "&&" || op = "||"
  | _ => false

def Expr.isNullish : Expr → Bool
  | .binary _ op _ _ => op = "??"
  | _ => false

namespace Read

open Parse

/-! ### Lists of expressions -/

def element (g : Grammar) (ctx : Context) : Parse Expr := do
  let start ← pos
  if ← eat "..." then
    let e ← g.assignment ctx.withIn
    return .spread start e
  else g.assignment ctx.withIn

/-- Arguments in parentheses. -/
def arguments (g : Grammar) (ctx : Context) (ofImport : Bool) : Parse (List Expr) := do
  let start ← pos
  expect "("
  let args ← loop [] fun (acc : List Expr) => do
    if (← isEnd) || (← is ")") then return .inr acc.reverse
    else
      if !acc.isEmpty then expect ","
      if !acc.isEmpty && (← is ")") then
        if ofImport then fail start .trailingImportComma else return .inr acc.reverse
      else
        let e ← element g ctx
        return .inl (e :: acc)
  expect ")"
  return args

/-- One element of an array, or a hole, with the comma after it. -/
def arrayStep (g : Grammar) (ctx : Context) (acc : List Expr) :
    Parse (List Expr ⊕ List Expr) := do
  if (← isEnd) || (← is "]") then return .inr acc.reverse
  else if ← eat "," then return .inl (.omitted :: acc)
  else
    let e ← element g ctx
    if !(← is "]") then expect ","
    return .inl (e :: acc)

def array (g : Grammar) (ctx : Context) : Parse Expr := do
  let start ← pos
  let _ ← bump
  let elements ← loop [] (arrayStep g ctx)
  expect "]"
  return .array start elements

/-! ### Templates and regular expressions -/

/-- The text from the token at the cursor on, and after it. -/
def textAround : Parse (List Char × List Char × Nat × Nat) :=
  peek fun c => (c.cur.chars, c.cur.rest, c.cur.stop, c.bound)

/-- Moves to the end of the source. -/
def runOut (start : Nat) (rest : List Char) (stop : Nat) : Parse Unit :=
  jump start [] (stop + byteLength rest)

/-- The texts and the expressions of a template whose opening quote is at the
cursor. -/
def templateParts (g : Grammar) (ctx : Context) (tagged : Bool) :
    Parse (List String × List Expr) := do
  let start ← pos
  loop (([] : List String), ([] : List Expr)) fun (texts, exprs) => do
    -- the cursor is at the opening quote, or at the brace that ends a substitution
    let (_, rest, stop, bound) ← textAround
    match Lexer.templateText bound rest stop with
    | none =>
      runOut start rest stop
      fail start .unterminatedTemplate
    | some t =>
      match t.badEscape, tagged with
      | some p, false =>
        jump start t.rest t.pos
        fail p.start p.cause
      | _, _ =>
        let texts := t.raw :: texts
        if t.last then
          jump t.pos (t.rest.drop 1) (t.pos + 1)
          return .inr (texts.reverse, exprs.reverse)
        else
          jump t.pos (t.rest.drop 2) (t.pos + 2)
          let e ← expression g ctx.withIn
          if !(← is "\x7d") then expect "\x7d"
          return .inl (texts, e :: exprs)

/-- A slash at the cursor, where an operand is due, begins a regular expression. -/
def atSlash : Parse Bool := isOneOf ["/", "/="]

/-- Reads the regular expression at the cursor: its body and its flags. -/
def regexParts : Parse (String × String) := do
  let start ← pos
  let (chars, _, _, bound) ← textAround
  match Lexer.regexBody (chars.drop 1) false false [] with
  | none =>
    let (rest, stop) := Lexer.skipLine chars start
    jump start rest stop
    fail start .unterminatedRegex
  | some (body, rest) =>
    let stop := start + 2 + byteLength body
    match rest with
    | c :: _ =>
      if isWordStart c then
        let w := Lexer.readWord bound rest stop
        jump start w.rest w.pos
        return (String.ofList body, String.ofList w.chars)
      else
        jump start rest stop
        return (String.ofList body, "")
    | [] =>
      jump start rest stop
      return (String.ofList body, "")

/-- A regular expression without an end is found where an expression begins,
before the expression is read. -/
def checkSlash : Parse Unit := do
  if ← atSlash then
    let start ← pos
    let (chars, _, _, _) ← textAround
    if (Lexer.regexBody (chars.drop 1) false false []).isNone then
      let (rest, stop) := Lexer.skipLine chars start
      jump start rest stop
      fail start .unterminatedRegex

/-- The flags of a regular expression: each one at most once. -/
def checkFlags (start : Nat) (flags : String) : Parse Unit := do
  let known : List Char := ['d', 'g', 'i', 'm', 's', 'u', 'v', 'y']
  if flags.toList.any fun f => !known.contains f then note start .unknownRegexFlags
  match flags.toList.find? fun f => known.contains f && 1 < flags.toList.count f with
  | some f => note start (.duplicateRegexFlag f)
  | none => return ()

/-! ### Parentheses and arrow functions -/

/-- An object that could only be a pattern is noted. -/
def checkAssignedProps : List Expr → Parse Unit
  | [] => return ()
  | .object _ props :: rest => do
    props.forM fun p => match p with
      | .assign start _ _ => note start .assignedProperty
      | _ => return ()
    checkAssignedProps rest
  | _ :: rest => checkAssignedProps rest

/-- The items between parentheses, and the comma after the last one. -/
def parenItems (g : Grammar) (ctx : Context) : Parse (List Expr × Option Nat) := do
  expect "("
  let items ← loop (([] : List Expr), (none : Option Nat)) fun (acc, trailing) => do
    if (← isEnd) || (← is ")") then return .inr (acc.reverse, trailing)
    else
      let e ← element g ctx
      if ← is ")" then return .inl (e :: acc, trailing)
      else
        expect ","
        if ← is ")" then return .inl (e :: acc, some (← prevStart))
        else return .inl (e :: acc, trailing)
  expect ")"
  return items

/-- An expression in parentheses, or an arrow function whose parameters are in
parentheses, or a call of something named `async`. -/
def parens (g : Grammar) (ctx : Context) (canBeArrow : Bool) (asyncAt : Option Nat) :
    Parse Expr := do
  let start ← match asyncAt with
    | some a => pure a
    | none => pos
  let (items, trailing) ← parenItems g ctx.withIn
  if ← is "=>" then
    if ← newlineBefore then fail start .lineBreakBeforeArrow
    if !canBeArrow then fail start .arrowNotAllowed
    expect "=>"
    let params ← asParameters items trailing
    arrowBody g ctx start asyncAt.isSome params
  else
    checkAssignedProps items
    match asyncAt with
    | some a => return .call a (.ident a "async") items
    | none =>
      match items with
      | [] => fail start .emptyParens
      | [.spread _ inner] => fail inner.start .spreadInParens
      | [e] => return .paren start e
      | first :: _ =>
        match items.find? isSpread with
        | some (.spread _ inner) => fail inner.start .spreadInParens
        | _ => return .paren start (.seq first.start items)

/-! ### Primary expressions -/

/-- An arrow function may start at an offset. -/
def mayBeArrow (start : Nat) : Parse Bool := peek fun c => c.arrowStart = some start

/-- An expression is an arrow function that stands where one may start. -/
def isArrowHere (e : Expr) : Parse Bool :=
  peek fun c => e.isArrow && c.arrowStart = some e.start

/-- Remembers where an arrow function may start. -/
def setArrowStart (start : Option Nat) : Parse Unit :=
  ⟨fun c => .done () { c with arrowStart := start }, fun _ => ⟨rfl, fun _ h => h⟩⟩

/-- An identifier, or an arrow function with a single parameter. -/
def identifierOrArrow (g : Grammar) (ctx : Context) (canBeArrow : Bool) : Parse Expr := do
  let (start, name) ← identifier ctx
  if name = "async" && ctx.forInit && (← is "of") && !(← secondIs "=>") then
    if !ctx.forAwait then note start .forOfAsync
    return .ident start name
  else if name = "async" && canBeArrow && !(← newlineBefore) && (← isIdentifier) then
    let (at', param) ← bindingIdentifier ctx
    expect "=>"
    arrowBody g ctx start true [.ident at' param]
  else if canBeArrow && !(← newlineBefore) && (← is "=>") then
    let _ ← bump
    if name = "eval" || name = "arguments" then note start .evalOrArguments
    arrowBody g ctx start false [.ident start name]
  else return .ident start name

/-- An operand without anything after it. -/
def primary (g : Grammar) (ctx : Context) : Parse Expr := do
  let t ← need
  let start ← pos
  let canBeArrow ← mayBeArrow start
  match t with
  | .str value _ =>
    let _ ← bump
    return .str start value
  | .num value _ =>
    let _ ← bump
    return .num start value
  | .bigint value _ =>
    let _ ← bump
    return .bigint start value
  | .punct "[" => array g ctx
  | .punct "\x7b" => object g ctx
  | .punct "(" => parens g ctx canBeArrow none
  | .punct "`" =>
    let (texts, exprs) ← templateParts g ctx false
    return .template start texts exprs
  | .punct "#" =>
    let _ ← bump
    let (_, name) ← identifierName
    return .privateName start name
  | .word "this" =>
    let _ ← bump
    return .this start
  | .word "null" =>
    let _ ← bump
    return .null start
  | .word "true" =>
    let _ ← bump
    return .bool start true
  | .word "false" =>
    let _ ← bump
    return .bool start false
  | .word "function" => return .function (← function g ctx false true)
  | .word "class" => return .cls start (← cls g ctx false)
  | .word "async" =>
    let (next, newline) ← second
    if Token.isText "function" next && !newline then return .function (← function g ctx false true)
    else if canBeArrow && Token.isText "(" next && !newline then
      let _ ← bump
      parens g ctx canBeArrow (some start)
    else identifierOrArrow g ctx canBeArrow
  | .word name =>
    if name = "let" || !isReserved name then identifierOrArrow g ctx canBeArrow
    else fail start .expressionExpected
  | _ =>
    if ← atSlash then
      let (body, flags) ← regexParts
      checkFlags start flags
      return .regex start body flags
    else fail (← spot) .expressionExpected

/-! ### Members and calls -/

/-- A name after a point. -/
def memberName : Parse Key := do
  if ← is "#" then
    let (start, name) ← privateName
    return .privateName start name
  else
    let (start, name) ← identifierName
    return .name start name

/-- The beginning of an optional link, `?.`, up to its question mark. -/
def eatQuestion : Parse Bool := do
  if (← is "?") && (← secondIs ".") then eat "?" else return false

/-- Inside a chain with an optional link every further link belongs to it. -/
def link (optional : Bool) (object : Expr) (e : Expr) : Expr :=
  if optional || object.isOptional then .optional object.start e else e

/-- What may follow an expression: members, calls and templates, any number of
them.  With `noCall` a call is left alone. -/
def subscripts (g : Grammar) (ctx : Context) (noCall : Bool) (first : Expr) : Parse Expr :=
  loop first fun (e : Expr) => do
    let _ ← glance
    let optional ← eatQuestion
    let computed ← if optional then
        if ← secondIs "[" then
          let _ ← eat "."
          eat "["
        else pure false
      else eat "["
    if computed then
      let k ← expression g ctx.withIn
      let at' ← pos
      expect "]"
      return .inl (link optional e (.member e.start e (.computed at' k)))
    else
      let calls ← if optional then
          if ← secondIs "(" then eat "." else pure false
        else if noCall then pure false
        else is "("
      if calls then
        let args ← arguments g ctx false
        return .inl (link optional e (.call e.start e args))
      else if ← eat "." then
        let k ← memberName
        return .inl (link optional e (.member e.start e k))
      else if ← is "`" then
        let (texts, exprs) ← templateParts g ctx true
        if e.isOptional then note e.start .taggedOptional
        return .inl (.tagged e.start e texts exprs)
      else return .inr e

/-- What follows the word `super`. -/
def superAfter (g : Grammar) (ctx : Context) (noCall : Bool) (start : Nat) : Parse Expr := do
  let _ ← glance
  if ← eat "[" then
    let k ← expression g ctx.withIn
    expect "]"
    if !ctx.superAllowed then fail (← spot) .superNotAllowed
    else subscripts g ctx noCall (.superMember start (.computed start k))
  else if !noCall && (← is "(") then
    let args ← arguments g ctx false
    subscripts g ctx noCall (.superCall start args)
  else if ← eat "." then
    let k ← memberName
    if !ctx.superAllowed then fail (← spot) .superNotAllowed
    else subscripts g ctx noCall (.superMember start k)
  else if noCall then fail (← spot) .superCallNotAllowed
  else fail (← spot) .superNotAllowed

/-- What follows the word `import` in an expression. -/
def importAfter (g : Grammar) (ctx : Context) (noCall : Bool) (start : Nat) : Parse Expr := do
  let call : Parse Expr := do
    let _ ← glance
    if !noCall && (← is "(") then
      let args ← arguments g ctx true
      subscripts g ctx noCall (.importCall start args)
    else fail (← spot) .importNotAllowed
  if ← eat "." then
    let (_, name) ← identifierName
    if name = "meta" then subscripts g ctx noCall (.importMeta start)
    else if name = "defer" || name = "source" then call
    else unexpected "meta"
  else call

/-- A member expression, or `new` with its operand.  Outside of `operand`, a
`new` needs no arguments. -/
def memberOrNew (g : Grammar) (ctx : Context) : Parse Expr := do
  let start ← pos
  if ← eat "new" then
    if ← eat "." then
      if ← eat "target" then
        if !ctx.functionScope && !ctx.inParameters && !ctx.inClass then note start .newTargetOutside
        subscripts g ctx true (.newTarget start)
      else unexpected "target"
    else
      let callee ← g.member ctx
      match callee with
      | .optional at' _ => fail at' .newOptional
      | .member _ (.optional at' _) _ => fail at' .newOptional
      | _ =>
        if ← is "(" then
          let args ← arguments g ctx false
          subscripts g ctx true (.new start callee true args)
        else return .new start callee false []
  else if ← eat "super" then superAfter g ctx true start
  else if ← eat "import" then importAfter g ctx true start
  else
    let e ← primary g ctx
    if e.isArrow then return e else subscripts g ctx true e

/-- An expression that can stand on the left of an assignment. -/
def leftHandSide (g : Grammar) (ctx : Context) : Parse Expr := do
  let start ← pos
  if ← eat "super" then superAfter g ctx false start
  else if ← eat "import" then importAfter g ctx false start
  else
    let callee ← memberOrNew g ctx
    match callee with
    | .new _ _ false _ => return callee
    | _ =>
      if callee.isArrow then return callee
      else if ← is "(" then
        let args ← arguments g ctx false
        subscripts g ctx false (link false callee (.call callee.start callee args))
      else return callee

/-! ### Operators -/

/-- The operand of an update has to be a variable or a property. -/
def checkPlace (e : Expr) : Parse Unit := do
  if !e.isPlace then note e.start .assignmentOperand

/-- An `await`, which is an operator all over a module, though not every
function may use it. -/
def awaitExpr (g : Grammar) (ctx : Context) (eaten : Option Nat) : Parse Expr := do
  let start ← match eaten with
    | some start => pure start
    | none => do
      let start ← pos
      let _ ← bump
      pure start
  if ← is "*" then fail (← spot) .awaitStar
  else if ((← isEnd) || (← isOneOf [")", "]", ";", ","])) && !ctx.async then
    note start .awaitIdentifier
    return .ident start "await"
  else
    if ctx.inFunction && !ctx.async then note (← spot) .awaitInFunction
    if ctx.inParameters && !ctx.inFunction then note start .awaitInParameters
    let arg ← g.unary ctx
    return .await start arg

def unary (g : Grammar) (ctx : Context) : Parse Expr := do
  let start ← pos
  let t ← look
  match updateOp? t with
  | some op =>
    let _ ← bump
    let arg ← g.unary ctx
    checkPlace arg
    return .update start op true arg
  | none =>
    match unaryOp? t with
    | some op =>
      let _ ← bump
      let argStart ← pos
      match ← attempt (g.unary ctx) with
      | .ok arg =>
        match op, arg with
        | .delete, .ident at' _ => note at' .deleteIdentifier
        | _, _ => pure ()
        return .unary start op arg
      | .error p =>
        note p.start p.cause
        return .unary start op (.missing (argStart - 1))
    | none =>
      if ← is "await" then awaitExpr g ctx none
      else
        let e ← leftHandSide g ctx
        if e.isArrow then return e
        else if ← newlineBefore then return e
        else
          match updateOp? (← look) with
          | some op =>
            checkPlace e
            let _ ← bump
            return .update e.start op false e
          | none => return e

/-- The operators after an operand that bind more tightly than `least`. -/
def binaryRest (g : Grammar) (ctx : Context) : Nat → Nat → Expr → Parse Expr
  | 0, _, _ => fail 0 .outOfReach
  | fuel + 1, least, left => do
    match binaryOp? ctx (← glance) with
    | none => return left
    | some (op, precedence) =>
      if precedence ≤ least then return left
      else
        let unaryLeft := match left with
          | .unary _ _ _ | .await _ _ => true
          | _ => false
        if op = "**" && unaryLeft then fail (← spot) .unaryBeforePower
        else
          let _ ← bump
          let operand ← g.unary ctx
          let right ←
            binaryRest g ctx fuel (if op = "**" then precedence - 1 else precedence) operand
          if op = "??" then
            if left.isAndOr then note left.start .mixedNullish
            if right.isAndOr then note right.start .mixedNullish
          if (op = "&&" || op = "||") && left.isNullish then note left.start .mixedNullish
          binaryRest g ctx fuel least (.binary left.start op left right)

/-- An expression of operands and binary operators. -/
def binary (g : Grammar) (ctx : Context) : Parse Expr := do
  let left ← match ← attempt (unary g ctx) with
    | .ok e => pure e
    | .error p => do
      let t ← need
      let goesOn : Bool := match t with
        | .word "in" => ctx.inOperator
        | .word "instanceof" => true
        | .punct text => isBinaryText text
        | _ => false
      if goesOn then
        note (← spot) .expressionExpected
        pure (Expr.missing p.start)
      else fail p.start p.cause
  let arrowHere ← isArrowHere left
  if arrowHere then return left
  else binaryRest g ctx ((← depth) + 2) 0 left

/-- A choice between two expressions, or only what would be its condition. -/
def conditional (g : Grammar) (ctx : Context) : Parse Expr := do
  let test ← binary g ctx
  let arrowHere ← isArrowHere test
  if arrowHere then return test
  else if ← eat "?" then
    let yes ← g.assignment ctx.withIn
    expect ":"
    let no ← g.assignment ctx
    return .cond test.start test yes no
  else return test

/-- Inside a generator, `yield` and its value. -/
def yieldExpr (g : Grammar) (ctx : Context) : Parse Expr := do
  let start ← pos
  let _ ← bump
  if ctx.inParameters && !ctx.inFunction then note start .identifierExpected
  let t ← look
  let stops := match t with
    | .eof => true
    | .punct text => [")", "]", "\x7d", ",", ";", ":"].contains text
    | .word w => w = "in"
    | _ => false
  if stops || (← newlineBefore) then return .yield start false .omitted
  else
    let delegate ← eat "*"
    let arg ← g.assignment ctx
    return .yield start delegate arg

/-- An assignment whose left side was read. -/
def assignmentAfter (g : Grammar) (ctx : Context) (left : Expr) : Parse Expr := do
  match ← glance with
  | .punct op =>
    if !assignOperators.contains op then return left
    else
      let target ← if op = "=" then asPattern (← depth) .assignment left
        else do
          checkPlace left
          match left with
          | .ident start name => pure (Pattern.ident start name)
          | e => pure (Pattern.target e)
      if !target.isTarget then fail left.start .assignmentTarget
      else
        let _ ← bump
        let value ← g.assignment ctx
        return .assign left.start op target value
  | _ => return left

/-- An assignment, or an expression that could be its left side. -/
def assignment (g : Grammar) (ctx : Context) : Parse Expr := do
  checkSlash
  let t ← need
  if ctx.generator && Token.isText "yield" t then yieldExpr g ctx
  else
    let start ← pos
    let arrow : Bool := match t with
      | .word w => !isKeyword w || w = "yield"
      | .punct "(" => true
      | _ => false
    setArrowStart (if arrow then some start else none)
    let e ← conditional g ctx
    let arrowHere ← isArrowHere e
    if arrowHere then return e
    else
      match e with
      | .cond _ _ _ _ | .binary _ _ _ _ | .unary _ _ _ | .update _ _ _ _ => return e
      | _ => assignmentAfter g ctx e

end Read
end Frontmatter.Esm
