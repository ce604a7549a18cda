/-
Frontmatter/Esm/Target.lean

Expressions that turn out to be patterns.

The left side of an assignment and the parameters of an arrow function are
read as expressions, because only the `=` or the `=>` after them tells what
they are.  `Read.asPattern` reads such an expression again as a pattern.  What
it may contain depends on its role: an assignment may go to a member of an
object, a parameter has to be a new name.
-/
import Frontmatter.Esm.Grammar

namespace Frontmatter.Esm

/-- The role of an expression that is read as a pattern. -/
inductive Role where
  | assignment | assignmentElement | binding | bindingElement
deriving DecidableEq

/-- The role of the parts of a pattern. -/
def Role.element : Role → Role
  | .assignment | .assignmentElement => .assignmentElement
  | .binding | .bindingElement => .bindingElement

/-- A variable or a property, to which a value can be assigned. -/
def Expr.isPlace : Expr → Bool
  | .ident _ name => name ≠ "eval" && name ≠ "arguments"
  | .member _ _ _ | .superMember _ _ => true
  | .paren _ inner => inner.isPlace
  | _ => false

/-- The expressions that an assignment keeps as they are on its left side. -/
def Expr.staysTarget : Expr → Bool
  | .member _ _ _ | .superMember _ _ | .call _ _ _ | .superCall _ _ | .importCall _ _ | .new _ _ _ _
  | .null _ | .bool _ _ | .num _ _ | .bigint _ _ | .str _ _ | .regex _ _ _ | .ident _ _
  | .function _ | .cls _ _ | .paren _ _ | .template _ _ _ => true
  | _ => false

/-- The expressions that can stand on the left of an assignment in the end. -/
def Expr.isTarget : Expr → Bool
  | .ident _ _ | .member _ _ _ | .superMember _ _ | .optional _ _ | .paren _ _ => true
  | _ => false

def Pattern.isTarget : Pattern → Bool
  | .target e => e.isTarget
  | _ => true

namespace Read

open Parse

def isSpread : Expr → Bool
  | .spread _ _ => true
  | _ => false

/-- The holes at the end of an array. -/
def trailingHoles (es : List Expr) : Nat :=
  (es.reverse.takeWhile fun e => match e with
    | .omitted => true
    | _ => false).length

mutual

/-- Reads an expression again as a pattern. -/
def asPattern : Nat → Role → Expr → Parse Pattern
  | 0, _, _ => fail 0 .outOfReach
  | fuel + 1, role, e => do
    let container := match e with
      | .object _ _ | .array _ _ => true
      | _ => false
    if role = .assignment && !container then
      if !e.isPlace then note e.start .assignmentOperand
    if (role = .assignment || role = .assignmentElement) && e.staysTarget then
      match e with
      | .ident start name => return .ident start name
      | _ => return .target e
    else
      match e with
      | .missing start => return .missing start
      | .paren start _ => fail start .notAPattern
      | .assign start "=" target value => do
        let target ← match target with
          | .target e => asPattern fuel role e
          | p => pure p
        return .withDefault start target value
      | .object start props => return .object start (← propsAsPatterns fuel role props)
      | .ident start name => return .ident start name
      | .array start elements =>
        let holes := trailingHoles elements
        if holes = 0 then
          match elements.getLast? with
          | none => return .array start []
          | some last =>
            let firsts ← elementsAsPatterns fuel role elements.dropLast
            let lastPattern ← match last with
              | .spread at' inner => do
                match inner with
                | .assign _ _ _ _ => note at' .restWithDefault
                | _ => pure ()
                let p ← asPattern fuel role.element inner
                pure (Pattern.rest at' p)
              | e => asPattern fuel role.element e
            return .array start (firsts ++ [lastPattern])
        else
          return .array start
            (← elementsAsPatterns fuel role (elements.take (elements.length - holes)))
      | _ => do
        note e.start .notAPattern
        return .missing e.start

/-- Elements of an array that are not the last one. -/
def elementsAsPatterns : Nat → Role → List Expr → Parse (List Pattern)
  | 0, _, _ => fail 0 .outOfReach
  | _ + 1, _, [] => return []
  | fuel + 1, role, e :: rest => do
    match e with
    | .spread _ inner =>
      note inner.start .restNotLast
      elementsAsPatterns fuel role rest
    | .omitted => return .hole :: (← elementsAsPatterns fuel role rest)
    | e =>
      let p ← asPattern fuel role.element e
      return p :: (← elementsAsPatterns fuel role rest)

def propsAsPatterns : Nat → Role → List Property → Parse (List Pattern)
  | 0, _, _ => fail 0 .outOfReach
  | _ + 1, _, [] => return []
  | fuel + 1, role, p :: rest => do
    let pattern ← match p with
      | .shorthand start name => pure (Pattern.short start name .omitted)
      | .pair k value => do
        let target ← asPattern fuel role.element value
        pure (Pattern.pair k target)
      | .assign start name value => pure (Pattern.short start name value)
      | .method start _ _ _ => fail start .notAPattern
      | .spread start e => do
        if !rest.isEmpty then note start .restNotLast
        let target ← if role.element = .bindingElement then
            match e with
            | .ident at' name => pure (Pattern.ident at' name)
            | _ => do
              note start .restNeedsIdentifier
              pure (Pattern.missing start)
          else asPattern fuel role.element e
        match target with
        | .withDefault _ _ _ => note start .restWithDefault
        | _ => pure ()
        pure (Pattern.rest start target)
    return pattern :: (← propsAsPatterns fuel role rest)

end

/-- The names that a parameter must not have. -/
def checkParameter : Nat → Pattern → Parse Unit
  | 0, _ => fail 0 .outOfReach
  | fuel + 1, p =>
    match p with
    | .ident start name =>
      if name = "eval" || name = "arguments" then note start .evalOrArguments else return ()
    | .array _ elements => elements.forM (checkParameter fuel)
    | .rest _ target | .withDefault _ target _ | .pair _ target => checkParameter fuel target
    | .object _ props => props.forM (checkParameter fuel)
    | .short start name _ =>
      if name = "eval" || name = "arguments" then note start .evalOrArguments else return ()
    | _ => return ()

/-- The most that patterns of a source can be nested. -/
def depth : Parse Nat := peek fun c => c.bound + 2

/-- Reads the items between parentheses again as the parameters of an arrow
function; `trailing` is the comma after the last one. -/
def asParameters (items : List Expr) (trailing : Option Nat) : Parse (List Pattern) := do
  let n ← depth
  match items.getLast? with
  | none => return []
  | some last =>
    let firsts ← items.dropLast.foldlM (fun (acc : List Pattern) e => do
      match e with
      | .spread start _ =>
        note start .restParameterNotLast
        return acc
      | e => return (← asPattern n .binding e) :: acc) []
    let lastPattern ← match last with
      | .spread start inner => do
        match inner with
        | .assign _ _ _ _ => note start .restWithDefault
        | _ => pure ()
        match trailing with
        | some comma => note comma .commaAfterRest
        | none => pure ()
        let p ← asPattern n .binding inner
        pure (Pattern.rest start p)
      | e => asPattern n .binding e
    let params := firsts.reverse ++ [lastPattern]
    params.forM (checkParameter n)
    return params

end Read
end Frontmatter.Esm
