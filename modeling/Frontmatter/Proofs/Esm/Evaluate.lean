/-
Frontmatter/Proofs/Esm/Evaluate.lean

What expressions of literals evaluate to.

An object literal creates its object property by property, from left to right.  A
property creates an own property of its name, or gives the existing one a new value,
with one exception: `__proto__: v`, where the name is written out and not computed,
creates nothing.  It makes `v` the prototype of the object if `v` is an object or
null, and is without effect otherwise.

`Expr.eval?` is defined for literals, arrays, objects with named properties, and for a
minus sign before a number, which is all that a rendered value consists of.
-/
import Frontmatter.Esm.Tree

namespace Frontmatter.Esm

/-! ### Values -/

/-- A value at run time.  The sign of a number is kept apart, as literals do.  An object
has its own properties, in the order in which they were created, and a prototype, if
one was set for it. -/
inductive Value where
  | null
  | bool (b : Bool)
  | num (negative : Bool) (value : NumericValue)
  | str (s : String)
  | array (elements : List Value)
  | object (prototype : Option Value) (own : List (String × Value))

/-- A value that can be a prototype. -/
def Value.isPrototype : Value → Bool
  | .null | .array _ | .object _ _ => true
  | _ => false

/-- An object under construction. -/
structure ObjectState where
  prototype : Option Value := none
  own : List (String × Value) := []

/-- Gives the own property of a name a value; a new one comes last. -/
def createProperty (k : String) (v : Value) : List (String × Value) → List (String × Value)
  | [] => [(k, v)]
  | (k', v') :: own => if k' = k then (k, v) :: own else (k', v') :: createProperty k v own

/-- The name of a property, and whether it is computed. -/
structure PropertyName where
  name : String
  computed : Bool

namespace ObjectState

/-- What a property of an object literal does. -/
def initialise (o : ObjectState) (k : PropertyName) (v : Value) : ObjectState :=
  if k.name = "__proto__" ∧ k.computed = false then
    if v.isPrototype then { o with prototype := some v } else o
  else { o with own := createProperty k.name v o.own }

end ObjectState

/-! ### Evaluation -/

mutual

/-- The value of an expression of literals. -/
def Expr.eval? : Expr → Option Value
  | .null _ => some .null
  | .bool _ b => some (.bool b)
  | .num _ value => some (.num false value)
  | .unary _ .minus (.num _ value) => some (.num true value)
  | .str _ s => some (.str s)
  | .array _ elements => (evalElements? elements).map .array
  | .object _ props => (evalProperties? props {}).map fun o => .object o.prototype o.own
  | _ => none

def evalElements? : List Expr → Option (List Value)
  | [] => some []
  | e :: es =>
    match e.eval?, evalElements? es with
    | some v, some vs => some (v :: vs)
    | _, _ => none

def evalProperties? : List Property → ObjectState → Option ObjectState
  | [], o => some o
  | .pair key e :: ps, o =>
    match key.propertyName?, e.eval? with
    | some k, some v => evalProperties? ps (o.initialise k v)
    | _, _ => none
  | _ :: _, _ => none

/-- Names that are written out, and computed ones that are strings. -/
def Key.propertyName? : Key → Option PropertyName
  | .name _ s | .str _ s => some ⟨s, false⟩
  | .computed _ e =>
    match e.eval? with
    | some (.str s) => some ⟨s, true⟩
    | _ => none
  | _ => none

end

/-! ### Creating properties -/

theorem createProperty_of_not_mem {k : String} {v : Value} {own : List (String × Value)}
    (h : k ∉ own.map Prod.fst) : createProperty k v own = own ++ [(k, v)] := by
  induction own with
  | nil => rfl
  | cons p own ih =>
    rw [List.map_cons, List.mem_cons, not_or] at h
    rw [createProperty, if_neg (Ne.symm h.1), ih h.2]
    rfl

/-- The name `__proto__`, written out, creates no property. -/
theorem ObjectState.own_initialise_proto (o : ObjectState) (v : Value) :
    (o.initialise ⟨"__proto__", false⟩ v).own = o.own := by
  rw [initialise, if_pos ⟨rfl, rfl⟩]
  split <;> rfl

/-- Any other name creates one. -/
theorem ObjectState.own_initialise {o : ObjectState} {k : String} {v : Value}
    (hk : k ≠ "__proto__") (fresh : k ∉ o.own.map Prod.fst) :
    (o.initialise ⟨k, false⟩ v).own = o.own ++ [(k, v)] := by
  rw [initialise, if_neg fun h => hk h.1]
  exact createProperty_of_not_mem fresh

end Frontmatter.Esm
