/-
Frontmatter/Esm/Tree.lean

The tree of an ECMAScript module: the items of its body, and the statements,
declarations, patterns and expressions in them.

Every node carries the byte offset at which it starts, because errors point
there; the items of a module also carry the offset at which they stop.

An expression may turn out to be the left side of an assignment or the
parameters of an arrow function, so patterns and expressions are nested in
each other.  An expression that could not be read, although reading went on
after it, is `missing`.
-/
import Frontmatter.Decimal.Binary64

namespace Frontmatter.Esm

inductive UnaryOp where
  | minus | plus | not | complement | typeof | void | delete
deriving DecidableEq, Inhabited

inductive UpdateOp where
  | increment | decrement
deriving DecidableEq, Inhabited

inductive VarKind where
  | var | block | constant
deriving DecidableEq, Inhabited

inductive MethodKind where
  | method | getter | setter
deriving DecidableEq, Inhabited

/-- The value of a number literal; a literal too large for a finite number
stands for infinity. -/
inductive NumericValue where
  | finite (x : Binary64)
  | infinity
deriving DecidableEq, Inhabited

mutual

/-- An expression, or what stands in its place: `omitted` where the language
lets one be left out (a hole of an array, a `return` without a value), and
`spread` among elements and arguments. -/
inductive Expr where
  | omitted
  | missing (start : Nat)
  | this (start : Nat)
  | ident (start : Nat) (name : String)
  | privateName (start : Nat) (name : String)
  | null (start : Nat)
  | bool (start : Nat) (value : Bool)
  | num (start : Nat) (value : NumericValue)
  | bigint (start : Nat) (value : Nat)
  | str (start : Nat) (value : String)
  | regex (start : Nat) (body flags : String)
  | template (start : Nat) (texts : List String) (exprs : List Expr)
  | tagged (start : Nat) (tag : Expr) (texts : List String) (exprs : List Expr)
  | array (start : Nat) (elements : List Expr)
  | spread (start : Nat) (e : Expr)
  | object (start : Nat) (props : List Property)
  | function (f : Function)
  | cls (start : Nat) (c : Class)
  | unary (start : Nat) (op : UnaryOp) (arg : Expr)
  | update (start : Nat) (op : UpdateOp) (before : Bool) (arg : Expr)
  | await (start : Nat) (arg : Expr)
  | yield (start : Nat) (delegate : Bool) (arg : Expr)
  | binary (start : Nat) (op : String) (left right : Expr)
  | cond (start : Nat) (test thenBranch elseBranch : Expr)
  | assign (start : Nat) (op : String) (target : Pattern) (value : Expr)
  | seq (start : Nat) (exprs : List Expr)
  | paren (start : Nat) (inner : Expr)
  | member (start : Nat) (object : Expr) (key : Key)
  | superMember (start : Nat) (key : Key)
  | call (start : Nat) (callee : Expr) (args : List Expr)
  | superCall (start : Nat) (args : List Expr)
  | importCall (start : Nat) (args : List Expr)
  | optional (start : Nat) (base : Expr)
  | new (start : Nat) (callee : Expr) (called : Bool) (args : List Expr)
  | newTarget (start : Nat)
  | importMeta (start : Nat)
  | arrow (start : Nat) (async : Bool) (params : List Pattern) (body : List Stmt)
  | arrowExpr (start : Nat) (async : Bool) (params : List Pattern) (body : Expr)

/-- How a property or a member is named. -/
inductive Key where
  | name (start : Nat) (name : String)
  | privateName (start : Nat) (name : String)
  | str (start : Nat) (value : String)
  | num (start : Nat) (value : NumericValue)
  | bigint (start : Nat) (value : Nat)
  | computed (start : Nat) (e : Expr)

inductive Property where
  | pair (key : Key) (value : Expr)
  | shorthand (start : Nat) (name : String)
  | assign (start : Nat) (name : String) (value : Expr)
  | spread (start : Nat) (e : Expr)
  | method (start : Nat) (kind : MethodKind) (key : Key) (f : Function)

inductive Function where
  | mk (start : Nat) (name : Option String) (async generator : Bool) (params : List Pattern)
      (body : List Stmt)

inductive Class where
  | mk (name : Option String) (superclass : Expr) (members : List ClassMember)

inductive ClassMember where
  | empty
  | constructor (params : List Pattern) (body : List Stmt)
  | method (isStatic : Bool) (kind : MethodKind) (key : Key) (f : Function)
  | field (isStatic : Bool) (key : Key) (value : Expr)
  | staticBlock (body : List Stmt)

/-- A binding pattern or the target of an assignment.  The properties of an
object pattern are `pair`, `short` and `rest` patterns. -/
inductive Pattern where
  | hole
  | missing (start : Nat)
  | ident (start : Nat) (name : String)
  | withDefault (start : Nat) (target : Pattern) (value : Expr)
  | rest (start : Nat) (target : Pattern)
  | array (start : Nat) (elements : List Pattern)
  | object (start : Nat) (props : List Pattern)
  | pair (key : Key) (target : Pattern)
  | short (start : Nat) (name : String) (value : Expr)
  | target (e : Expr)

/-- One binding of a declaration, and its initial value. -/
inductive Declarator where
  | mk (pattern : Pattern) (init : Expr)

/-- A statement or a declaration.  The part of a loop head before its first
semicolon, `of` or `in` is kept as a statement, too; `target` is a pattern in
that place, and `case` a part of a `switch`. -/
inductive Stmt where
  | omitted
  | empty
  | debugger
  | expr (e : Expr)
  | target (p : Pattern)
  | block (body : List Stmt)
  | ret (value : Expr)
  | ifElse (test : Expr) (thenBranch elseBranch : Stmt)
  | forLoop (init : Stmt) (test update : Expr) (body : Stmt)
  | forIn (left : Stmt) (right : Expr) (body : Stmt)
  | forOf (await : Bool) (left : Stmt) (right : Expr) (body : Stmt)
  | whileLoop (test : Expr) (body : Stmt)
  | doWhile (body : Stmt) (test : Expr)
  | breakTo (label : Option String)
  | continueTo (label : Option String)
  | throw (value : Expr)
  | tryCatch (body : List Stmt) (caught : Bool) (param : Pattern) (handler : List Stmt)
      (finished : Bool) (finalizer : List Stmt)
  | switch (value : Expr) (cases : List Stmt)
  | case (test : Expr) (body : List Stmt)
  | labeled (label : String) (body : Stmt)
  | withObject (object : Expr) (body : Stmt)
  | varDecl (kind : VarKind) (declarators : List Declarator)
  | resource (await : Bool) (declarators : List Declarator)
  | functionDecl (f : Function)
  | classDecl (c : Class)

end

instance : Inhabited Expr := ⟨.omitted⟩
instance : Inhabited Pattern := ⟨.hole⟩
instance : Inhabited Stmt := ⟨.empty⟩
instance : Inhabited Function := ⟨.mk 0 none false false [] []⟩
instance : Inhabited Class := ⟨.mk none .omitted []⟩

def Function.start : Function → Nat
  | .mk s _ _ _ _ _ => s

/-- Where an expression starts. -/
def Expr.start : Expr → Nat
  | .omitted => 0
  | .missing s | .this s | .ident s _ | .privateName s _ | .null s | .bool s _ | .num s _
  | .bigint s _ | .str s _ | .regex s _ _ | .template s _ _ | .tagged s _ _ _ | .array s _
  | .spread s _ | .object s _ | .cls s _ | .unary s _ _ | .update s _ _ _ | .await s _
  | .yield s _ _ | .binary s _ _ _ | .cond s _ _ _ | .assign s _ _ _ | .seq s _ | .paren s _
  | .member s _ _ | .superMember s _ | .call s _ _ | .superCall s _ | .importCall s _
  | .optional s _ | .new s _ _ _ | .newTarget s | .importMeta s | .arrow s _ _ _
  | .arrowExpr s _ _ _ => s
  | .function f => f.start

def Key.start : Key → Nat
  | .name s _ | .privateName s _ | .str s _ | .num s _ | .bigint s _ | .computed s _ => s

/-- Where a pattern starts. -/
def Pattern.start : Pattern → Nat
  | .hole => 0
  | .missing s | .ident s _ | .withDefault s _ _ | .rest s _ | .array s _ | .object s _
  | .short s _ _ => s
  | .pair k _ => k.start
  | .target e => e.start

/-- A name in an import or export list: a name, or a string. -/
inductive ExportName where
  | ident (start : Nat) (name : String)
  | str (start : Nat) (value : String)
deriving DecidableEq, Inhabited

inductive ImportSpecifier where
  | named (binding : String) (imported : Option ExportName)
  | default (binding : String)
  | all (binding : String)
deriving DecidableEq, Inhabited

inductive ExportSpecifier where
  | named (orig : ExportName) (exported : Option ExportName)
  | all (name : ExportName)
deriving DecidableEq, Inhabited

/-- The forms of an item in the body of a module. -/
inductive ItemForm where
  | importFrom (specifiers : List ImportSpecifier) (source : String)
  | exportDecl (d : Stmt)
  | exportNamed (specifiers : List ExportSpecifier) (source : Option String)
  | exportDefaultDecl (d : Stmt)
  | exportDefaultExpr (e : Expr)
  | exportAll (source : String)
  | stmt (s : Stmt)
deriving Inhabited

/-- An item of the body of a module, from the byte offset `start` to `stop`. -/
structure Item where
  start : Nat
  stop : Nat
  form : ItemForm
deriving Inhabited

end Frontmatter.Esm
