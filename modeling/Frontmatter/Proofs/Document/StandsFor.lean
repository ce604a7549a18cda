/-
Frontmatter/Proofs/Document/StandsFor.lean

The shape of an expression that stands for some data.

Such an expression is built as the data are: a literal for a null, a truth value or
a string, a number literal with or without a minus sign for a number, an array for a
list and an object for a record (`StandsFor.eq_array` and so on).  The elements stand
for the items and the properties for the fields, each in its turn.

So the places of the data are places of the expression.  A place is a path of
positions from the outside in (`Data.at?`, `Expr.at?`), and what stands at a place of
the one stands for what stands at that place of the other (`StandsFor.at?`).
-/
import Frontmatter.Proofs.Document.Renderer

namespace Frontmatter

open Esm

/-! ### Expressions with a constant -/

namespace Esm.Expr

variable {e : Expr}

theorem eq_null_of_constant? (h : e.constant? = some .null) : ∃ start, e = .null start := by
  unfold constant? at h
  split at h <;> simp_all

theorem eq_bool_of_constant? {b : Bool} (h : e.constant? = some (.bool b)) :
    ∃ start, e = .bool start b := by
  unfold constant? at h
  split at h <;> simp_all

theorem eq_str_of_constant? {s : String} (h : e.constant? = some (.str s)) :
    ∃ start, e = .str start s := by
  unfold constant? at h
  split at h <;> simp_all

theorem eq_array_of_constant? {vs : List Constant} (h : e.constant? = some (.list vs)) :
    ∃ start es, e = .array start es ∧ elementConstants? es = some vs := by
  unfold constant? at h
  split at h <;> simp_all

theorem eq_object_of_constant? {vs : List (String × Constant)}
    (h : e.constant? = some (.record vs)) :
    ∃ start ps, e = .object start ps ∧ propertyConstants? ps = some vs := by
  unfold constant? at h
  split at h <;> simp_all

/-- A number literal, under a minus sign or not. -/
def IsNumeral (negative : Bool) (value : NumericValue) : Expr → Prop
  | .num _ v => negative = false ∧ v = value
  | .unary _ .minus (.num _ v) => negative = true ∧ v = value
  | _ => False

theorem isNumeral_of_constant? {negative : Bool} {value : NumericValue}
    (h : e.constant? = some (.num negative value)) : e.IsNumeral negative value := by
  unfold constant? at h
  split at h <;> simp_all [IsNumeral]

end Esm.Expr

/-! ### Expressions that stand for data -/

/-- A property that is named by the key of a field and stands for its value. -/
def StandsForField (p : Property) (f : String × Data) : Prop :=
  ∃ start e, p = .pair (.str start f.1) e ∧ StandsFor e f.2

theorem standsFor_items {es : List Expr} {items : List Data} {vs : List Constant}
    (hes : elementConstants? es = some vs) (hitems : Data.itemConstants? items = some vs) :
    List.Forall₂ StandsFor es items := by
  induction items generalizing es vs with
  | nil =>
    cases hitems
    cases es with
    | nil => exact .nil
    | cons e es =>
      rw [elementConstants?] at hes
      split at hes <;> cases hes
  | cons d items ih =>
    rw [Data.itemConstants?] at hitems
    split at hitems
    · next v vs' hd hitems' =>
      cases hitems
      cases es with
      | nil => cases hes
      | cons e es =>
        rw [elementConstants?] at hes
        split at hes
        · next he hes' =>
          cases hes
          exact .cons ⟨v, hd, he⟩ (ih hes' hitems')
        · cases hes
    · cases hitems

theorem standsFor_fields {ps : List Property} {fields : List (String × Data)}
    {vs : List (String × Constant)} (hps : propertyConstants? ps = some vs)
    (hfields : Data.fieldConstants? fields = some vs) :
    List.Forall₂ StandsForField ps fields := by
  induction fields generalizing ps vs with
  | nil =>
    cases hfields
    unfold propertyConstants? at hps
    split at hps
    · exact .nil
    · split at hps <;> cases hps
    · cases hps
  | cons f fields ih =>
    obtain ⟨k, d⟩ := f
    rw [Data.fieldConstants?] at hfields
    split at hfields
    · next v vs' hd hfields' =>
      cases hfields
      unfold propertyConstants? at hps
      split at hps
      · cases hps
      · split at hps
        · next he hps' =>
          cases hps
          exact .cons ⟨_, _, rfl, v, hd, he⟩ (ih hps' hfields')
        · cases hps
      · cases hps
    · cases hfields

namespace StandsFor

variable {e : Expr} {d : Data}

theorem eq_null (h : StandsFor e .null) : ∃ start, e = .null start := by
  obtain ⟨v, hv, he⟩ := h
  cases hv
  exact Expr.eq_null_of_constant? he

theorem eq_bool {b : Bool} (h : StandsFor e (.bool b)) : ∃ start, e = .bool start b := by
  obtain ⟨v, hv, he⟩ := h
  cases hv
  exact Expr.eq_bool_of_constant? he

theorem eq_str {s : String} (h : StandsFor e (.str s)) : ∃ start, e = .str start s := by
  obtain ⟨v, hv, he⟩ := h
  cases hv
  exact Expr.eq_str_of_constant? he

theorem isNumeral {n : Number} (h : StandsFor e (.num n)) :
    e.IsNumeral n.isNegative n.numeral.value := by
  obtain ⟨v, hv, he⟩ := h
  rw [Data.constant?, n.constant?_eq] at hv
  cases hv
  exact Expr.isNumeral_of_constant? he

theorem eq_array {items : List Data} (h : StandsFor e (.list items)) :
    ∃ start es, e = .array start es ∧ List.Forall₂ StandsFor es items := by
  obtain ⟨v, hv, he⟩ := h
  rw [Data.constant?] at hv
  obtain ⟨vs, hitems, rfl⟩ := Option.map_eq_some_iff.mp hv
  obtain ⟨start, es, rfl, hes⟩ := Expr.eq_array_of_constant? he
  exact ⟨start, es, rfl, standsFor_items hes hitems⟩

theorem eq_object {fields : List (String × Data)} (h : StandsFor e (.record fields)) :
    ∃ start ps, e = .object start ps ∧ List.Forall₂ StandsForField ps fields := by
  obtain ⟨v, hv, he⟩ := h
  rw [Data.constant?] at hv
  obtain ⟨vs, hfields, rfl⟩ := Option.map_eq_some_iff.mp hv
  obtain ⟨start, ps, rfl, hps⟩ := Expr.eq_object_of_constant? he
  exact ⟨start, ps, rfl, standsFor_fields hps hfields⟩

end StandsFor

/-! ### Places -/

/-- What stands at a place of some data. -/
def Data.at? : List Nat → Data → Option Data
  | [], d => some d
  | i :: path, .list items => items[i]?.bind (Data.at? path)
  | i :: path, .record fields => fields[i]?.bind fun f => Data.at? path f.2
  | _ :: _, _ => none

/-- What stands at a place of an expression. -/
def Esm.Expr.at? : List Nat → Expr → Option Expr
  | [], e => some e
  | i :: path, .array _ elements => elements[i]?.bind (Expr.at? path)
  | i :: path, .object _ props =>
    props[i]?.bind fun
      | .pair _ e => Expr.at? path e
      | _ => none
  | _ :: _, _ => none

/-- Lists that are related item by item are related at each position. -/
theorem exists_getElem?_of_forall₂ {α β : Type} {R : α → β → Prop} {as : List α} {bs : List β}
    (h : List.Forall₂ R as bs) {i : Nat} {b : β} (hb : bs[i]? = some b) :
    ∃ a, as[i]? = some a ∧ R a b := by
  obtain ⟨length, related⟩ := List.forall₂_iff_get.mp h
  obtain ⟨hi, rfl⟩ := List.getElem?_eq_some_iff.mp hb
  have hi' : i < as.length := length ▸ hi
  exact ⟨as[i], List.getElem?_eq_getElem hi', related i hi' hi⟩

/-- At each place of the data the expression has a part that stands for it. -/
theorem StandsFor.at? {path : List Nat} {e : Expr} {d part : Data} (h : StandsFor e d)
    (there : Data.at? path d = some part) :
    ∃ e', Expr.at? path e = some e' ∧ StandsFor e' part := by
  induction path generalizing e d with
  | nil =>
    cases there
    exact ⟨e, rfl, h⟩
  | cons i path ih =>
    cases d with
    | list items =>
      obtain ⟨start, es, rfl, hes⟩ := h.eq_array
      obtain ⟨item, hitem, there⟩ := Option.bind_eq_some_iff.mp there
      obtain ⟨e, he, stands⟩ := exists_getElem?_of_forall₂ hes hitem
      rw [Expr.at?, he]
      exact ih stands there
    | record fields =>
      obtain ⟨start, ps, rfl, hps⟩ := h.eq_object
      obtain ⟨field, hfield, there⟩ := Option.bind_eq_some_iff.mp there
      obtain ⟨_, hp, _, e, rfl, stands⟩ := exists_getElem?_of_forall₂ hps hfield
      rw [Expr.at?, hp]
      exact ih stands there
    | _ => cases there

end Frontmatter
