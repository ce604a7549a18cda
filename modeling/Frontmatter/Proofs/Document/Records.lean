/-
Frontmatter/Proofs/Document/Records.lean

The log of a pass accounts for the pass.

A child that the pass gets over has the records that can be told from what it was and what it
has become (`Registry.recordsOf`): a fragment in the place of a block stands for one rendering,
and a block without a decoder is mentioned once.  The records of a pass are those of its
children, in their order (`runChildren_append_logs`), and a last one with the count, if it ends
without an error.

A source is recorded after it has been rendered and before it is compiled.  So the child that a
pass fails at has a record of its own if and only if its source has been rendered, and this is
the one record of a rendering that no fragment stands for (`logs_of_error`).
-/
import Frontmatter.Proofs.Document.Retry

namespace Frontmatter

/-! ### Records -/

namespace LogRecord

/-- The tag and the source, for the record of a rendering. -/
def rendering? : LogRecord → Option (String × String)
  | rendered tag source => some (tag, source)
  | _ => none

/-- The tag, for the record of a block without a decoder. -/
def unknownTag? : LogRecord → Option String
  | noDecoder tag => some tag
  | _ => none

/-- The record is the one that ends a pass. -/
def IsCount (record : LogRecord) : Prop := ∃ count total, record = .replaced count total

end LogRecord

/-- The blocks that have become fragments, each with its fragment, in their order. -/
def madeFragments (before after : List Node) : List (Block × Fragment) :=
  (before.zip after).filterMap fun
    | (.block b, .fragment f) => some (b, f)
    | _ => none

section MadeFragments

variable {before after : List Node}

/-- Where nothing changes, no fragment is made. -/
theorem madeFragments_self (cs : List Node) : madeFragments cs cs = [] := by
  induction cs with
  | nil => rfl
  | cons c cs ih =>
    cases c with
    | _ => exact ih

theorem madeFragments_append (same : before.length = after.length) (cs ds : List Node) :
    madeFragments (before ++ cs) (after ++ ds)
      = madeFragments before after ++ madeFragments cs ds := by
  rw [madeFragments, List.zip_append same, List.filterMap_append]
  rfl

end MadeFragments

namespace Registry

variable (r : Registry)

/-- The records of a child that a pass got over, by what it was and what it has become. -/
def recordsOf : Node → Node → List LogRecord
  | .block b, .fragment f => [.rendered b.tag.name f.source]
  | .block b, _ => if r.isRegistered b.tag then [] else [.noDecoder b.tag.name]
  | _, _ => []

/-- The records of the children that a pass got over, child by child. -/
def childrenRecords (before after : List Node) : List LogRecord :=
  (before.zip after).flatMap fun c => r.recordsOf c.1 c.2

/-- The spelling of the tag of a block without a decoder. -/
def unknownTag? : Node → Option String
  | .block b => if r.isRegistered b.tag then none else some b.tag.name
  | _ => none

variable {r} {b : Block}

theorem childrenRecords_cons (c d : Node) (before after : List Node) :
    r.childrenRecords (c :: before) (d :: after)
      = r.recordsOf c d ++ r.childrenRecords before after := by
  rw [childrenRecords, List.zip_cons_cons, List.flatMap_cons]
  rfl

/-- A block is recorded in decoding if there is no decoder, and only then. -/
theorem logs_decodeBlock :
    (r.decodeBlock b).1 = if r.isRegistered b.tag then [] else [.noDecoder b.tag.name] := by
  have decoding := r.decoding b
  generalize r.decodeBlock b = result at decoding
  cases decoding with
  | unregistered absent => simp [isRegistered, absent]
  | null found => simp [isRegistered, found]
  | present found => simp [isRegistered, found]
  | refused found => simp [isRegistered, found]

theorem isRegistered_of_decodeBlock (h : (r.decodeBlock b).2 ≠ .ok none) :
    r.isRegistered b.tag = true := by
  have decoding := r.decoding b
  generalize r.decodeBlock b = result at h decoding
  cases decoding with
  | unregistered => exact absurd rfl h
  | null => exact absurd rfl h
  | present found => simp [isRegistered, found]
  | refused found => simp [isRegistered, found]

/-- So there is no record of a decoding that gives a value or fails. -/
theorem eq_nil_of_decodeBlock {logs : List LogRecord} {outcome : Except Error (Option Data)}
    (h : r.decodeBlock b = (logs, outcome)) (something : outcome ≠ .ok none) : logs = [] := by
  have decoded := logs_decodeBlock (r := r) (b := b)
  rwa [isRegistered_of_decodeBlock (by rwa [h]), if_pos rfl, h] at decoded

/-- The recorded renderings are those of the fragments that have been made. -/
theorem renderings_childrenRecords (before after : List Node) :
    (r.childrenRecords before after).filterMap LogRecord.rendering?
      = (madeFragments before after).map fun m => (m.1.tag.name, m.2.source) := by
  rw [childrenRecords, madeFragments]
  induction before.zip after with
  | nil => rfl
  | cons c cs ih =>
    rw [List.flatMap_cons, List.filterMap_append, ih]
    obtain ⟨b | f | m, d | g | n⟩ := c
    case block.fragment => rfl
    all_goals simp [recordsOf, LogRecord.rendering?]

theorem not_isCount_of_mem_childrenRecords {before after : List Node} {record : LogRecord}
    (h : record ∈ r.childrenRecords before after) : ¬ record.IsCount := by
  obtain ⟨⟨c, d⟩, -, h⟩ := List.mem_flatMap.mp h
  rintro ⟨count, total, rfl⟩
  revert h
  cases c with
  | block b =>
    cases d with
    | fragment f => simp [recordsOf]
    | _ => simp [recordsOf]
  | _ => simp [recordsOf]

end Registry

namespace Transform

variable {t : Transform} {b : Block} {c : Node} {before after : List Node} {e : Error} {r : Root}

/-! ### One child -/

/-- The records of a child that the pass gets over. -/
theorem logs_compileNode (h : t.Compiles c) :
    (t.compileNode c).1 = t.registry.recordsOf c (t.replacement c) := by
  obtain ⟨o, h⟩ := h
  cases c with
  | fragment f => rfl
  | markdown m => rfl
  | block b =>
    have work := t.blockWork b
    rw [replacement, h]
    rw [compileNode] at h ⊢
    generalize t.compileBlock b = result at h work
    cases work with
    | undecoded => cases h
    | unrendered => cases h
    | uncompiled => cases h
    | absent decoded =>
      -- the block is kept, and the records are those of the decoding
      cases h
      have logs := t.registry.logs_decodeBlock (b := b)
      rwa [decoded] at logs
    | made decoded =>
      cases h
      obtain rfl := Registry.eq_nil_of_decodeBlock decoded (by simp)
      rfl

/-- The block is decoded, and the source is rendered from its data. -/
def Renders (t : Transform) (b : Block) (source : String) : Prop :=
  ∃ data, (t.registry.decodeBlock b).2 = .ok (some data) ∧ t.renderer data b = .ok source

/-- The records of a block that the pass fails at: its rendering, if the work got so far. -/
theorem logs_of_error (h : (t.compileBlock b).2 = .error e) :
    (∃ source, t.Renders b source ∧ compileSource source = .error e ∧
        (t.compileBlock b).1 = [.rendered b.tag.name source]) ∨
      (∀ source, ¬ t.Renders b source) ∧ (t.compileBlock b).1 = [] := by
  have work := t.blockWork b
  generalize t.compileBlock b = result at h work
  cases work with
  | absent => cases h
  | made => cases h
  | undecoded decoded =>
    refine .inr ⟨?_, Registry.eq_nil_of_decodeBlock decoded (by simp)⟩
    rintro source ⟨data, decoded', -⟩
    rw [decoded] at decoded'
    cases decoded'
  | unrendered decoded rendered =>
    refine .inr ⟨?_, Registry.eq_nil_of_decodeBlock decoded (by simp)⟩
    rintro source ⟨data, decoded', rendered'⟩
    rw [decoded] at decoded'
    cases decoded'
    rw [rendered] at rendered'
    cases rendered'
  | uncompiled decoded rendered compiled =>
    cases h
    obtain rfl := Registry.eq_nil_of_decodeBlock decoded (by simp)
    exact .inl ⟨_, ⟨_, congrArg Prod.snd decoded, rendered⟩, compiled, rfl⟩

theorem not_isCount_of_error (h : (t.compileBlock b).2 = .error e) {record : LogRecord}
    (own : record ∈ (t.compileBlock b).1) : ¬ record.IsCount := by
  rintro ⟨count, total, rfl⟩
  rcases logs_of_error h with ⟨source, -, -, logs⟩ | ⟨-, logs⟩
  · rw [logs] at own
    simp at own
  · rw [logs] at own
    cases own

/-- A child that the pass gets over is recorded as unknown if it is a block without a decoder. -/
theorem unknownTags_recordsOf (h : t.Compiles c) :
    (t.registry.recordsOf c (t.replacement c)).filterMap LogRecord.unknownTag?
      = (t.registry.unknownTag? c).toList := by
  obtain ⟨o, h⟩ := h
  cases c with
  | fragment f => rfl
  | markdown m => rfl
  | block b =>
    cases o with
    | none =>
      rw [replacement_of_none h, Registry.recordsOf, Registry.unknownTag?]
      · split
        · rfl
        · rfl
      · exact nofun
    | some f =>
      -- a fragment was made of the block, so there is a decoder
      obtain ⟨data, body, decoded, -⟩ := compileBlock_fragment h
      rw [replacement_of_some h, Registry.unknownTag?,
        Registry.isRegistered_of_decodeBlock (by simp [decoded])]
      rfl

/-! ### One child after another -/

/-- A child that the pass gets over is counted if a fragment was made of it. -/
theorem count_runChildren_cons (h : t.Compiles c) (cs : List Node) :
    (t.runChildren (c :: cs)).2.2.1
      = (madeFragments [c] [t.replacement c]).length + (t.runChildren cs).2.2.1 := by
  obtain ⟨o, h⟩ := h
  rcases result : t.compileNode c with ⟨logs, d | _ | f⟩
  · rw [result] at h
    cases h
  · rw [runChildren, replacement, result, madeFragments_self]
    exact (Nat.zero_add _).symm
  · rw [runChildren, replacement, result]
    -- the work on what is no block makes no fragment
    cases c with
    | fragment g => cases result
    | markdown m => cases result
    | block b => exact Nat.add_comm _ 1

/-- The children that the pass gets over have the records that can be told from what they were
and what they have become, and the fragments that were made of them are counted. -/
theorem runChildren_append_logs (all : ∀ b ∈ before, t.Compiles b) (cs : List Node) :
    (t.runChildren (before ++ cs)).2.1
        = t.registry.childrenRecords before (before.map t.replacement)
          ++ (t.runChildren cs).2.1 ∧
      (t.runChildren (before ++ cs)).2.2.1
        = (madeFragments before (before.map t.replacement)).length + (t.runChildren cs).2.2.1 := by
  induction before with
  | nil => exact ⟨rfl, (Nat.zero_add _).symm⟩
  | cons b before ih =>
    obtain ⟨hb, all⟩ := List.forall_mem_cons.mp all
    obtain ⟨ihl, ihc⟩ := ih all
    constructor
    · rw [List.cons_append, logs_runChildren_cons hb, ihl, logs_compileNode hb, List.map_cons,
        Registry.childrenRecords_cons, List.append_assoc]
    · have first : madeFragments (b :: before) (t.replacement b :: before.map t.replacement)
          = madeFragments [b] [t.replacement b]
            ++ madeFragments before (before.map t.replacement) :=
        madeFragments_append (show [b].length = [t.replacement b].length from rfl) _ _
      rw [List.cons_append, count_runChildren_cons hb, ihc, List.map_cons, first,
        List.length_append, Nat.add_assoc]

theorem unknownTags_childrenRecords (all : ∀ b ∈ before, t.Compiles b) :
    (t.registry.childrenRecords before (before.map t.replacement)).filterMap
        LogRecord.unknownTag?
      = before.filterMap t.registry.unknownTag? := by
  induction before with
  | nil => rfl
  | cons b before ih =>
    obtain ⟨hb, all⟩ := List.forall_mem_cons.mp all
    rw [List.map_cons, Registry.childrenRecords_cons, List.filterMap_append,
      unknownTags_recordsOf hb, ih all, List.filterMap_cons]
    cases t.registry.unknownTag? b with
    | none => rfl
    | some tag => rfl

/-! ### The fragments -/

/-- A document has the fragments that it had, and those that were made. -/
theorem length_fragments_of_turns {cs ds : List Node} (h : List.Forall₂ t.Turns cs ds)
    (span : Option Markdown.Span) :
    (Root.mk ds span).fragments.length
      = (Root.mk cs span).fragments.length + (madeFragments cs ds).length := by
  induction h with
  | nil => rfl
  | @cons c d cs ds turns _ ih =>
    cases turns with
    | kept =>
      cases c with
      | fragment f => exact (congrArg (· + 1) ih).trans (Nat.add_right_comm _ _ 1)
      | block b => exact ih
      | markdown m => exact ih
    | replaced => exact congrArg (· + 1) ih

/-! ### The pass -/

/-- The records of a pass without an error. -/
theorem logs_of_compiles (all : ∀ c ∈ r.children, t.Compiles c) :
    (t.run r).logs = t.registry.childrenRecords r.children (r.children.map t.replacement)
      ++ [.replaced (madeFragments r.children (r.children.map t.replacement)).length
        r.children.length] := by
  obtain ⟨logs, count⟩ := runChildren_append_logs all []
  rw [List.append_nil] at logs count
  rw [run_logs, run_error_eq_none_iff.mpr all, run_root_of_compiles all, logs, count,
    List.length_map]
  simp only [runChildren, List.append_nil, Nat.add_zero]

/-- The records of a pass that fails at a block. -/
theorem logs_of_fails (split : r.children = before ++ .block b :: after)
    (all : ∀ c ∈ before, t.Compiles c) (failed : (t.compileBlock b).2 = .error e) :
    (t.run r).logs = t.registry.childrenRecords before (before.map t.replacement)
      ++ (t.compileBlock b).1 := by
  have error : (t.run r).error = some e :=
    run_error_eq_some_iff.mpr ⟨before.length, before, .block b, after, split, rfl, all, failed⟩
  have failed' : (t.compileNode (.block b)).2 = .error e := failed
  rw [run_logs, error, split, (runChildren_append_logs all _).1,
    logs_runChildren_cons_of_error failed', compileNode]
  simp only [List.append_nil]

/-- The fragments that a pass has made that fails: those of the children before. -/
theorem madeFragments_of_fails (split : r.children = before ++ c :: after)
    (all : ∀ c ∈ before, t.Compiles c) (failed : (t.compileNode c).2 = .error e) :
    madeFragments r.children (t.run r).root.children
      = madeFragments before (before.map t.replacement) := by
  rw [children_of_fails split all failed, split,
    madeFragments_append (List.length_map _).symm, madeFragments_self, List.append_nil]

/-- The log accounts for the pass.

A pass without an error has the records of its children, one child after another: the rendering
of each fragment that it has made, with the tag of the block and the source of the fragment, and
the tag of each block without a decoder.  The last record has the number of children, and the
number of fragments that were made, which is also the number of fragments that have come in.

A pass with an error has failed at some block.  Then it has no such last record, and no record of
a child behind that block; the children before it have the same records as above.  The block has
the record of its rendering if its source has been rendered, so that compiling it was the error,
and otherwise none. -/
theorem run_logs_account (t : Transform) (r : Root) :
    ((t.run r).error = none ∧
      ∃ count, (t.run r).logs
          = t.registry.childrenRecords r.children (t.run r).root.children
            ++ [.replaced count r.children.length] ∧
        (t.run r).root.children.length = r.children.length ∧
        (madeFragments r.children (t.run r).root.children).length = count ∧
        (t.run r).root.fragments.length = r.fragments.length + count ∧
        (t.run r).logs.filterMap LogRecord.rendering?
          = (madeFragments r.children (t.run r).root.children).map
            (fun made => (made.1.tag.name, made.2.source)) ∧
        (t.run r).logs.filterMap LogRecord.unknownTag?
          = r.children.filterMap t.registry.unknownTag?) ∨
    ∃ before b after e, r.children = before ++ .block b :: after ∧
      (t.run r).error = some e ∧ (t.compileBlock b).2 = .error e ∧
      (∀ record ∈ (t.run r).logs, ¬ record.IsCount) ∧
      ∃ own, (t.run r).logs
          = t.registry.childrenRecords before ((t.run r).root.children.take before.length)
            ++ own ∧
        ((∃ source, t.Renders b source ∧ compileSource source = .error e ∧
            own = [.rendered b.tag.name source] ∧
            ((t.run r).logs.filterMap LogRecord.rendering?).length
              = (madeFragments r.children (t.run r).root.children).length + 1) ∨
          (∀ source, ¬ t.Renders b source) ∧ own = [] ∧
            ((t.run r).logs.filterMap LogRecord.rendering?).length
              = (madeFragments r.children (t.run r).root.children).length) := by
  rcases error : (t.run r).error with _ | e
  · have all := run_error_eq_none_iff.mp error
    have children : (t.run r).root.children = r.children.map t.replacement := by
      rw [run_root_of_compiles all]
    have logs := logs_of_compiles all
    have fragments := length_fragments_of_turns (t.turns_map_replacement r.children) r.span
    rw [← run_root_of_compiles all] at fragments
    rw [← children] at logs fragments
    refine .inl ⟨rfl, _, logs, ?_, rfl, fragments, ?_, ?_⟩
    · rw [children, List.length_map]
    · rw [logs, List.filterMap_append, Registry.renderings_childrenRecords]
      exact List.append_nil _
    · rw [logs, List.filterMap_append, children, unknownTags_childrenRecords all]
      exact List.append_nil _
  · obtain ⟨i, before, c, after, split, -, all, failed⟩ := run_error_eq_some_iff.mp error
    cases c with
    | fragment f => cases failed
    | markdown m => cases failed
    | block b =>
      have logs := logs_of_fails split all failed
      have made := madeFragments_of_fails split all failed
      have left : (t.run r).root.children.take before.length = before.map t.replacement := by
        rw [children_of_fails split all failed, List.take_left' (List.length_map _)]
      have renderings : ((t.run r).logs.filterMap LogRecord.rendering?).length
          = (madeFragments r.children (t.run r).root.children).length
            + ((t.compileBlock b).1.filterMap LogRecord.rendering?).length := by
        rw [logs, List.filterMap_append, Registry.renderings_childrenRecords, List.length_append,
          List.length_map, made]
      refine .inr ⟨before, b, after, e, split, rfl, failed, ?_, (t.compileBlock b).1, ?_, ?_⟩
      · intro record h
        rw [logs] at h
        rcases List.mem_append.mp h with earlier | own
        · exact Registry.not_isCount_of_mem_childrenRecords earlier
        · exact not_isCount_of_error failed own
      · rw [logs, left]
      · rcases logs_of_error failed with ⟨source, renders, compiled, own⟩ | ⟨nothing, own⟩
        · rw [own] at renderings
          exact .inl ⟨source, renders, compiled, own, renderings⟩
        · rw [own] at renderings
          exact .inr ⟨nothing, own, renderings⟩

/-- The second block has been rendered when the pass fails at it, and the third one is never
looked at.  So there are two renderings on record, and one fragment. -/
example :
    let r : Root := ⟨[.block ⟨.yaml, "", none⟩, .block ⟨.yaml, "(", none⟩,
      .block ⟨.toml, "", none⟩], none⟩
    ((echo .yaml).run r).logs = [.rendered "yaml" "", .rendered "yaml" "("] ∧
      ((echo .yaml).run r).root.fragments.map (·.source) = [""] := by
  decide +kernel

end Transform
end Frontmatter
