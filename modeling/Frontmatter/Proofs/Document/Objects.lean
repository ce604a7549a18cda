/-
Frontmatter/Proofs/Document/Objects.lean

The records of a block in the module that is compiled for it.

A record is written as an object literal.  Evaluated, it is an object that has an own
property for each field, with one exception: a field with the key `__proto__` sets the
prototype instead.  So the expression of some data evaluates to the data without these
fields, and to the data themselves if and only if there are none, at any depth
(`records_kept_iff`).

`Value.Holds` says when a value is some data.  What a number is, is left to the lexer.
-/
import Frontmatter.Proofs.Data.Fields
import Frontmatter.Proofs.Document.StandsFor
import Frontmatter.Proofs.Esm.Evaluate

namespace Frontmatter

open Esm

/-! ### Data with a key -/

mutual

/-- Some record inside the data has the key. -/
def Data.HasKey (k : String) : Data → Prop
  | .list items => Data.ItemsHaveKey k items
  | .record fields => Data.FieldsHaveKey k fields
  | _ => False

def Data.ItemsHaveKey (k : String) : List Data → Prop
  | [] => False
  | d :: items => d.HasKey k ∨ Data.ItemsHaveKey k items

def Data.FieldsHaveKey (k : String) : List (String × Data) → Prop
  | [] => False
  | (k', d) :: fields => k' = k ∨ d.HasKey k ∨ Data.FieldsHaveKey k fields

end

mutual

/-- The data without the fields with the key, at every depth. -/
def Data.without (k : String) : Data → Data
  | .list items => .list (Data.itemsWithout k items)
  | .record fields => .record (Data.fieldsWithout k fields)
  | d => d

def Data.itemsWithout (k : String) : List Data → List Data
  | [] => []
  | d :: items => d.without k :: Data.itemsWithout k items

def Data.fieldsWithout (k : String) : List (String × Data) → List (String × Data)
  | [] => []
  | (k', d) :: fields =>
    if k' = k then Data.fieldsWithout k fields
    else (k', d.without k) :: Data.fieldsWithout k fields

end

mutual

theorem Data.without_of_not_hasKey {k : String} : ∀ d : Data, ¬ d.HasKey k → d.without k = d
  | .null, _ | .bool _, _ | .num _, _ | .str _, _ => rfl
  | .list items, h => congrArg Data.list (Data.itemsWithout_of_not_hasKey items h)
  | .record fields, h => congrArg Data.record (Data.fieldsWithout_of_not_hasKey fields h)

theorem Data.itemsWithout_of_not_hasKey {k : String} :
    ∀ items : List Data, ¬ Data.ItemsHaveKey k items → Data.itemsWithout k items = items
  | [], _ => rfl
  | d :: items, h => by
    rw [Data.ItemsHaveKey, not_or] at h
    rw [Data.itemsWithout, d.without_of_not_hasKey h.1, Data.itemsWithout_of_not_hasKey items h.2]

theorem Data.fieldsWithout_of_not_hasKey {k : String} :
    ∀ fields : List (String × Data), ¬ Data.FieldsHaveKey k fields →
      Data.fieldsWithout k fields = fields
  | [], _ => rfl
  | (k', d) :: fields, h => by
    rw [Data.FieldsHaveKey, not_or, not_or] at h
    rw [Data.fieldsWithout, if_neg h.1, d.without_of_not_hasKey h.2.1,
      Data.fieldsWithout_of_not_hasKey fields h.2.2]

end

theorem Data.length_fieldsWithout_le (k : String) (fields : List (String × Data)) :
    (Data.fieldsWithout k fields).length ≤ fields.length := by
  induction fields with
  | nil => exact Nat.le_refl 0
  | cons f fields ih =>
    rw [Data.fieldsWithout]
    split
    · exact Nat.le_succ_of_le ih
    · exact Nat.succ_le_succ ih

/-! ### Values that are data -/

mutual

/-- The value is the data: an array has the items as elements, and the own properties of
an object are the fields of the record. -/
def Esm.Value.Holds : Esm.Value → Data → Prop
  | v, .null => v = .null
  | v, .bool b => v = .bool b
  | v, .num n => v = .num n.isNegative n.numeral.value
  | v, .str s => v = .str s
  | v, .list items => ∃ vs, v = .array vs ∧ HoldItems vs items
  | v, .record fields => ∃ prototype own, v = .object prototype own ∧ HoldFields own fields

def Esm.HoldItems : List Esm.Value → List Data → Prop
  | [], [] => True
  | v :: vs, d :: items => v.Holds d ∧ HoldItems vs items
  | _, _ => False

def Esm.HoldFields : List (String × Esm.Value) → List (String × Data) → Prop
  | [], [] => True
  | (k, v) :: own, (k', d) :: fields => k = k' ∧ v.Holds d ∧ HoldFields own fields
  | _, _ => False

end

theorem Esm.HoldFields.length_eq {own : List (String × Esm.Value)} {fields : List (String × Data)}
    (h : HoldFields own fields) : own.length = fields.length := by
  induction own generalizing fields with
  | nil =>
    cases fields with
    | nil => rfl
    | cons f fields => cases h
  | cons p own ih =>
    cases fields with
    | nil => cases h
    | cons f fields => exact congrArg (· + 1) (ih h.2.2)

mutual

/-- A value that is the data without a key is the data only if the key is not there. -/
theorem Esm.Value.Holds.not_hasKey {k : String} : ∀ (d : Data) {v : Esm.Value},
    v.Holds (d.without k) → v.Holds d → ¬ d.HasKey k
  | .null, _, _, _ | .bool _, _, _, _ | .num _, _, _, _ | .str _, _, _, _ => id
  | .list items, v, h, h' => by
    obtain ⟨vs, rfl, items_⟩ := h
    obtain ⟨vs', same, items'⟩ := h'
    cases same
    exact Esm.HoldItems.not_hasKey items items_ items'
  | .record fields, v, h, h' => by
    obtain ⟨_, own, rfl, fields_⟩ := h
    obtain ⟨_, own', same, fields'⟩ := h'
    cases same
    exact Esm.HoldFields.not_hasKey fields fields_ fields'

theorem Esm.HoldItems.not_hasKey {k : String} : ∀ (items : List Data) {vs : List Esm.Value},
    HoldItems vs (Data.itemsWithout k items) → HoldItems vs items → ¬ Data.ItemsHaveKey k items
  | [], _, _, _ => id
  | d :: items, [], _, h' => by cases h'
  | d :: items, v :: vs, h, h' =>
    not_or.mpr ⟨Esm.Value.Holds.not_hasKey d h.1 h'.1, Esm.HoldItems.not_hasKey items h.2 h'.2⟩

theorem Esm.HoldFields.not_hasKey {k : String} :
    ∀ (fields : List (String × Data)) {own : List (String × Esm.Value)},
      HoldFields own (Data.fieldsWithout k fields) → HoldFields own fields →
        ¬ Data.FieldsHaveKey k fields
  | [], _, _, _ => id
  | f :: fields, [], _, h' => by cases h'
  | (k', d) :: fields, (k'', v) :: own, h, h' => by
    by_cases here : k' = k
    · -- a field fewer on one side than on the other
      have fewer := h.length_eq.symm.trans h'.length_eq
      have := Data.length_fieldsWithout_le k fields
      rw [Data.fieldsWithout, if_pos here, List.length_cons] at fewer
      omega
    · rw [Data.fieldsWithout, if_neg here] at h
      exact not_or.mpr ⟨here, not_or.mpr ⟨Esm.Value.Holds.not_hasKey d h.2.1 h'.2.1,
        Esm.HoldFields.not_hasKey fields h.2.2 h'.2.2⟩⟩

end

/-! ### Evaluating what stands for data -/

mutual

/-- An expression that stands for some data evaluates to the data, but for the fields that
set a prototype. -/
theorem StandsFor.eval? : ∀ (d : Data) {e : Expr}, StandsFor e d → d.KeysDistinct →
    ∃ v, e.eval? = some v ∧ v.Holds (d.without "__proto__")
  | .null, e, h, _ => by
    obtain ⟨start, rfl⟩ := h.eq_null
    exact ⟨.null, rfl, rfl⟩
  | .bool b, e, h, _ => by
    obtain ⟨start, rfl⟩ := h.eq_bool
    exact ⟨.bool b, rfl, rfl⟩
  | .num n, e, h, _ => by
    refine ⟨.num n.isNegative n.numeral.value, ?_, rfl⟩
    have literal := h.isNumeral
    unfold Expr.IsNumeral at literal
    split at literal
    · rw [literal.1, ← literal.2]
      rfl
    · rw [literal.1, ← literal.2]
      rfl
    · cases literal
  | .str s, e, h, _ => by
    obtain ⟨start, rfl⟩ := h.eq_str
    exact ⟨.str s, rfl, rfl⟩
  | .list items, e, h, distinct => by
    obtain ⟨start, es, rfl, hes⟩ := h.eq_array
    obtain ⟨vs, evaluated, holds⟩ := evalElements?_standsFor items hes distinct
    exact ⟨.array vs, by rw [Expr.eval?, evaluated]; rfl, vs, rfl, holds⟩
  | .record fields, e, h, distinct => by
    obtain ⟨start, ps, rfl, hps⟩ := h.eq_object
    obtain ⟨o, own, evaluated, grown, holds⟩ := evalProperties?_standsFor fields (o := {}) hps
      distinct.2 distinct.1 (fun _ _ => List.not_mem_nil)
    refine ⟨.object o.prototype o.own, by rw [Expr.eval?, evaluated]; rfl, o.prototype, o.own,
      rfl, ?_⟩
    rw [grown]
    exact holds

theorem evalElements?_standsFor : ∀ (items : List Data) {es : List Expr},
    List.Forall₂ StandsFor es items → Data.ItemsDistinct items →
      ∃ vs, evalElements? es = some vs ∧ HoldItems vs (Data.itemsWithout "__proto__" items)
  | [], _, .nil, _ => ⟨[], rfl, trivial⟩
  | d :: items, e :: es, .cons he hes, distinct => by
    obtain ⟨v, evaluated, holds⟩ := StandsFor.eval? d he distinct.1
    obtain ⟨vs, evaluated', holds'⟩ := evalElements?_standsFor items hes distinct.2
    exact ⟨v :: vs, by rw [evalElements?, evaluated, evaluated'], holds, holds'⟩

/-- The properties that are there stay, and a property is created for each field with a
key of its own. -/
theorem evalProperties?_standsFor : ∀ (fields : List (String × Data)) {ps : List Property}
    {o : ObjectState}, List.Forall₂ StandsForField ps fields → Data.FieldsDistinct fields →
      (Data.keys fields).Nodup → (∀ k ∈ Data.keys fields, k ∉ o.own.map Prod.fst) →
      ∃ o' own, evalProperties? ps o = some o' ∧ o'.own = o.own ++ own ∧
        HoldFields own (Data.fieldsWithout "__proto__" fields)
  | [], _, o, .nil, _, _, _ => ⟨o, [], rfl, (List.append_nil _).symm, trivial⟩
  | (k, d) :: fields, p :: ps, o, .cons hp hps, inner, distinct, fresh => by
    obtain ⟨start, e, rfl, he⟩ := hp
    obtain ⟨v, evaluated, holds⟩ := StandsFor.eval? d he inner.1
    rw [Data.keys_cons, List.nodup_cons] at distinct
    have step : evalProperties? (.pair (.str start k) e :: ps) o
        = evalProperties? ps (o.initialise ⟨k, false⟩ v) := by
      rw [evalProperties?, Key.propertyName?, evaluated]
    by_cases hk : k = "__proto__"
    · -- a prototype is set at most, so the names that are taken stay the same
      subst hk
      have same := o.own_initialise_proto v
      obtain ⟨o', own, evaluated', grown, holds'⟩ := evalProperties?_standsFor fields hps inner.2
        distinct.2 (o := o.initialise ⟨"__proto__", false⟩ v)
        (fun k' hk' => by rw [same]; exact fresh k' (List.mem_cons_of_mem _ hk'))
      refine ⟨o', own, step.trans evaluated', by rw [grown, same], ?_⟩
      rw [Data.fieldsWithout, if_pos rfl]
      exact holds'
    · have grows := ObjectState.own_initialise (v := v) hk (fresh k List.mem_cons_self)
      obtain ⟨o', own, evaluated', grown, holds'⟩ := evalProperties?_standsFor fields hps inner.2
        distinct.2 (o := o.initialise ⟨k, false⟩ v)
        (fun k' hk' => by
          rw [grows, List.map_append, List.mem_append, not_or]
          refine ⟨fresh k' (List.mem_cons_of_mem _ hk'), fun same => ?_⟩
          cases List.mem_singleton.mp same
          exact distinct.1 hk')
      refine ⟨o', (k, v) :: own, step.trans evaluated', by rw [grown, grows]; simp, ?_⟩
      rw [Data.fieldsWithout, if_neg hk]
      exact ⟨rfl, holds, holds'⟩

end

/-! ### The modules of the renderers -/

/-- A value that is the data without the fields named `__proto__`, and so is the data
exactly if there are none. -/
def Esm.Value.HoldsBesideProto (v : Esm.Value) (d : Data) : Prop :=
  v.Holds (d.without "__proto__") ∧ (v.Holds d ↔ ¬ d.HasKey "__proto__")

theorem StandsFor.exists_value {e : Expr} {d : Data} (h : StandsFor e d)
    (distinct : d.KeysDistinct) : ∃ v, e.eval? = some v ∧ v.HoldsBesideProto d := by
  obtain ⟨v, evaluated, holds⟩ := h.eval? d distinct
  refine ⟨v, evaluated, holds, Esm.Value.Holds.not_hasKey d holds, fun absent => ?_⟩
  rwa [d.without_of_not_hasKey absent] at holds

/-- Records are kept but for their fields named `__proto__`.  Take any data whose records
have distinct keys.  The default renderer gives a module that returns an expression under
`props`, and a renderer of constants gives a module with one constant, for every name that
a constant can have.  In both, the expression has a value: the data without the fields
named `__proto__`, at every depth.  So the value is the data if and only if no record has
such a field. -/
theorem records_kept_iff {d : Data} (distinct : d.KeysDistinct) (b : Block) :
    (∃ source body e v, Renderer.staticProps d b = .ok source ∧
      compileSource source = .ok body ∧ IsPropsModule body e ∧
      e.eval? = some v ∧ v.HoldsBesideProto d) ∧
    ∀ name, IsConstantName name →
      ∃ source body e v, Renderer.constant name d b = .ok source ∧
        compileSource source = .ok body ∧ IsConstantModule name body e ∧
        e.eval? = some v ∧ v.HoldsBesideProto d := by
  constructor
  · obtain ⟨source, body, e, rendered, compiled, shape, stands⟩ := exists_propsModule d b
    obtain ⟨v, evaluated, holds⟩ := stands.exists_value distinct
    exact ⟨source, body, e, v, rendered, compiled, shape, evaluated, holds⟩
  · intro name hname
    obtain ⟨source, body, e, rendered, compiled, shape, stands⟩ := exists_constantModule hname d b
    obtain ⟨v, evaluated, holds⟩ := stands.exists_value distinct
    exact ⟨source, body, e, v, rendered, compiled, shape, evaluated, holds⟩

/-- A field named `__proto__` is not there in either module, and the field beside it is. -/
theorem records_kept_beside_proto :
    Data.KeysDistinct (.record [("__proto__", .bool true), ("k", .null)]) ∧
      IsConstantName Renderer.defaultName ∧
      (∃ source body e prototype,
        Renderer.staticProps (.record [("__proto__", .bool true), ("k", .null)]) ⟨.yaml, "", none⟩
          = .ok source ∧
        compileSource source = .ok body ∧ IsPropsModule body e ∧
        e.eval? = some (.object prototype [("k", .null)])) ∧
      ∃ source body e v,
        Renderer.constant Renderer.defaultName (.record [("__proto__", .bool true), ("k", .null)])
          ⟨.yaml, "", none⟩ = .ok source ∧
        compileSource source = .ok body ∧ IsConstantModule Renderer.defaultName body e ∧
        e.eval? = some v ∧ ¬ v.Holds (.record [("__proto__", .bool true), ("k", .null)]) := by
  have distinct : Data.KeysDistinct (.record [("__proto__", .bool true), ("k", .null)]) :=
    ⟨by decide, trivial, trivial, trivial⟩
  obtain ⟨props, constant⟩ := records_kept_iff distinct ⟨.yaml, "", none⟩
  obtain ⟨source, body, e, v, rendered, compiled, shape, evaluated, holds, -⟩ := props
  obtain ⟨source', body', e', v', rendered', compiled', shape', evaluated', -, exactly⟩ :=
    constant Renderer.defaultName isConstantName_default
  obtain ⟨prototype, own, rfl, fields⟩ := holds
  obtain ⟨⟨k, u⟩, rfl⟩ : ∃ p, own = [p] := List.length_eq_one_iff.mp fields.length_eq
  obtain ⟨rfl, rfl, -⟩ := fields
  refine ⟨distinct, isConstantName_default,
    ⟨source, body, e, prototype, rendered, compiled, shape, evaluated⟩,
    source', body', e', v', rendered', compiled', shape', evaluated', fun same => ?_⟩
  exact exactly.mp same (.inl rfl)

end Frontmatter
