/-
Frontmatter/Proofs/Document/Registrations.lean

What a pass can tell of the registrations before it.

A host fills a registry by one registration after another.  Of all of them, the decoder of a
tag is the one that was registered last (`find?_registry`), and a pass asks for the decoders
of the tags in its document only (`run_congr`).  So two registries that were filled in
different ways, and that have the same decoders for these tags, cannot be told apart by a
pass: it ends with the same document, the same records and the same error
(`run_reads_last_registration`).
-/
import Frontmatter.Document.Config
import Frontmatter.Proofs.Document.Pass
import Mathlib.Data.List.Induction

namespace Frontmatter

/-! ### Registrations -/

/-- What registrations begin with: an empty registry, or the two built-in decoders. -/
inductive Start where
  | empty
  | builtin

namespace Start

def registry : Start → Registry
  | empty => Registry.empty
  | builtin => Registry.builtin

/-- The decoder that a tag has from the start. -/
def decoder? : Start → Tag → Option Decoder
  | builtin, .yaml => some Yaml.decode
  | builtin, .toml => some Toml.decode
  | _, _ => none

theorem find?_registry (start : Start) (tag : Tag) :
    start.registry.find? tag = start.decoder? tag := by
  cases start with
  | empty => rfl
  | builtin =>
    cases tag with
    | yaml => rfl
    | toml => rfl
    | custom name => rfl

end Start

/-- A registry and how it was filled: what it began with, and the registrations in order. -/
structure Registrations where
  start : Start
  calls : List (Tag × Decoder)

namespace Registrations

/-- The decoder that was registered last for a tag. -/
def last? (calls : List (Tag × Decoder)) (tag : Tag) : Option Decoder :=
  (calls.filter (·.1 = tag)).getLast?.map (·.2)

/-- The decoder that was registered last for a tag, or the one it had from the start. -/
def decoder? (s : Registrations) (tag : Tag) : Option Decoder :=
  (last? s.calls tag).or (s.start.decoder? tag)

def registry (s : Registrations) : Registry :=
  s.calls.foldl (fun r call => r.register call.1 call.2) s.start.registry

/-- The transform with these decoders and a renderer. -/
def transform (s : Registrations) (renderer : Renderer) : Transform := ⟨s.registry, renderer⟩

end Registrations

/-! ### The last registration -/

variable {tag other : Tag} {decoder : Decoder} {calls : List (Tag × Decoder)}

/-- What is dropped by its tag is not missed by the tags that are kept. -/
theorem filter_of_kept (keep : Tag → Bool) (kept : keep tag = true)
    (entries : List (Tag × Decoder)) :
    (entries.filter fun entry => keep entry.1).filter (·.1 = tag)
      = entries.filter (·.1 = tag) := by
  rw [List.filter_filter]
  refine List.filter_congr fun entry _ => ?_
  by_cases here : entry.1 = tag
  · rw [here, kept, Bool.and_true]
  · rw [decide_eq_false here, Bool.false_and]

theorem Registry.find?_register (r : Registry) (other : Tag) (decoder : Decoder) :
    (r.register other decoder).find? tag = if other = tag then some decoder else r.find? tag := by
  rw [register, find?, List.find?_cons]
  by_cases same : other = tag
  · simp only [if_pos same, decide_eq_true same, Option.map_some]
  · have kept : decide (tag ≠ other) = true := decide_eq_true (Ne.symm same)
    have dropped : (r.decoders.filter (·.1 ≠ other)).filter (·.1 = tag)
        = r.decoders.filter (·.1 = tag) := filter_of_kept (fun t => t ≠ other) kept r.decoders
    simp only [if_neg same, decide_eq_false same]
    rw [← List.head?_filter, dropped, List.head?_filter, find?]

namespace Registrations

theorem last?_append (calls calls' : List (Tag × Decoder)) (tag : Tag) :
    last? (calls ++ calls') tag = (last? calls' tag).or (last? calls tag) := by
  rw [last?, List.filter_append, List.getLast?_append, Option.map_or]
  rfl

theorem last?_singleton (other : Tag) (decoder : Decoder) :
    last? [(other, decoder)] tag = if other = tag then some decoder else none := by
  by_cases same : other = tag
  · simp [last?, same]
  · simp [last?, same]

theorem last?_ne_none (registered : (tag, decoder) ∈ calls) : last? calls tag ≠ none := by
  intro absent
  rw [last?, Option.map_eq_none_iff, List.getLast?_eq_none_iff, List.filter_eq_nil_iff] at absent
  exact absent _ registered (decide_eq_true rfl)

/-- Of all registrations of a tag, the last one counts.  By induction on the registrations from
the end: the last of them is on top of the registry. -/
theorem find?_registry (s : Registrations) (tag : Tag) :
    s.registry.find? tag = s.decoder? tag := by
  obtain ⟨start, calls⟩ := s
  induction calls using List.reverseRecOn with
  | nil => exact start.find?_registry tag
  | append_singleton calls call ih =>
    have before : (registry ⟨start, calls ++ [call]⟩)
        = (registry ⟨start, calls⟩).register call.1 call.2 := by
      rw [registry, List.foldl_append]
      rfl
    rw [before, Registry.find?_register, ih, decoder?, decoder?, last?_append, last?_singleton]
    -- the last registration is for this tag, or else what was there before it counts
    by_cases same : call.1 = tag
    · rw [if_pos same, if_pos same, Option.some_or, Option.some_or]
    · rw [if_neg same, if_neg same, Option.none_or]

/-- The registration of a tag has no effect on another tag. -/
theorem last?_insert_of_ne (different : other ≠ tag) (before after : List (Tag × Decoder))
    (decoder : Decoder) :
    last? (before ++ (other, decoder) :: after) tag = last? (before ++ after) tag := by
  rw [← List.singleton_append, last?_append, last?_append, last?_append, last?_singleton,
    if_neg different, Option.or_none]

/-- A registration that is overwritten has no effect at all. -/
theorem last?_insert_of_overwritten {later : Decoder} {after : List (Tag × Decoder)}
    (overwritten : (other, later) ∈ after) (before : List (Tag × Decoder)) (decoder : Decoder) :
    last? (before ++ (other, decoder) :: after) tag = last? (before ++ after) tag := by
  by_cases same : other = tag
  · subst same
    -- the later registration hides this one and all that come before it
    obtain ⟨d, found⟩ := Option.ne_none_iff_exists'.mp (last?_ne_none overwritten)
    rw [← List.singleton_append, last?_append, last?_append, last?_append, found]
    rfl
  · exact last?_insert_of_ne same before after decoder

end Registrations

/-! ### What a pass asks for -/

namespace Transform

variable {t t' : Transform} {b : Block} {r : Root}

/-- The work on a block depends on the renderer and on the decoder of its tag. -/
theorem compileBlock_congr (renderer : t.renderer = t'.renderer)
    (same : t.registry.find? b.tag = t'.registry.find? b.tag) :
    t.compileBlock b = t'.compileBlock b := by
  have decoded : t.registry.decodeBlock b = t'.registry.decodeBlock b := by
    rw [Registry.decodeBlock, Registry.decodeBlock, same]
  rw [compileBlock, compileBlock, decoded, renderer]

theorem runChildren_congr {cs : List Node} (same : ∀ c ∈ cs, t.compileNode c = t'.compileNode c) :
    t.runChildren cs = t'.runChildren cs := by
  induction cs with
  | nil => rfl
  | cons c cs ih =>
    have rest := ih fun d hd => same d (List.mem_cons_of_mem c hd)
    rw [runChildren, runChildren, same c List.mem_cons_self, rest]

/-- A pass depends on the renderer and on the decoders of the tags in its document. -/
theorem run_congr (renderer : t.renderer = t'.renderer)
    (same : ∀ b, .block b ∈ r.children → t.registry.find? b.tag = t'.registry.find? b.tag) :
    t.run r = t'.run r := by
  have nodes : ∀ c ∈ r.children, t.compileNode c = t'.compileNode c := by
    intro c hc
    cases c with
    | block b => exact compileBlock_congr renderer (same b hc)
    | fragment f => rfl
    | markdown n => rfl
  rw [run, run, runChildren_congr nodes]

/-- Registrations do not interfere with each other.  If, for each tag in the document, the
decoder that was registered last, or else the one it had from the start, is the same after two
sequences of registrations, then passes with the same renderer are the same: the document, the
records and the error.  So nothing comes of registrations of tags that are not in the document,
of registrations that are overwritten, and of the order of registrations of different tags.
Nor does a registration of the custom tag that is spelled `yaml` change what is done with a
YAML block. -/
theorem run_reads_last_registration (renderer : Renderer) (r : Root) :
    (∀ s s' : Registrations,
      (∀ b, .block b ∈ r.children →
        (Registrations.last? s.calls b.tag).or (s.start.decoder? b.tag)
          = (Registrations.last? s'.calls b.tag).or (s'.start.decoder? b.tag)) →
      (s.transform renderer).run r = (s'.transform renderer).run r) ∧
    (∀ (start : Start) (calls : List (Tag × Decoder)) (keep : Tag → Bool),
      (∀ b, .block b ∈ r.children → keep b.tag = true) →
      ((Registrations.mk start (calls.filter fun call => keep call.1)).transform renderer).run r
        = ((Registrations.mk start calls).transform renderer).run r) ∧
    (∀ (start : Start) (before after : List (Tag × Decoder)) (tag : Tag) (decoder later : Decoder),
      (tag, later) ∈ after →
      ((Registrations.mk start (before ++ (tag, decoder) :: after)).transform renderer).run r
        = ((Registrations.mk start (before ++ after)).transform renderer).run r) ∧
    (∀ (start : Start) (calls calls' : List (Tag × Decoder)),
      (∀ tag, calls.filter (·.1 = tag) = calls'.filter (·.1 = tag)) →
      ((Registrations.mk start calls).transform renderer).run r
        = ((Registrations.mk start calls').transform renderer).run r) ∧
    (Tag.custom "yaml").name = Tag.yaml.name ∧
    ∀ (start : Start) (before after : List (Tag × Decoder)) (decoder : Decoder) (b : Block),
      b.tag = .yaml →
      ((Registrations.mk start (before ++ (.custom "yaml", decoder) :: after)).transform
          renderer).compileBlock b
        = ((Registrations.mk start (before ++ after)).transform renderer).compileBlock b := by
  have agree : ∀ s s' : Registrations,
      (∀ b, .block b ∈ r.children → s.decoder? b.tag = s'.decoder? b.tag) →
      (s.transform renderer).run r = (s'.transform renderer).run r := by
    intro s s' same
    refine run_congr rfl fun b hb => ?_
    show s.registry.find? b.tag = s'.registry.find? b.tag
    rw [s.find?_registry, s'.find?_registry, same b hb]
  refine ⟨agree, ?_, ?_, ?_, rfl, ?_⟩
  · intro start calls keep kept
    refine agree _ _ fun b hb => ?_
    rw [Registrations.decoder?, Registrations.decoder?, Registrations.last?, Registrations.last?,
      filter_of_kept keep (kept b hb)]
  · intro start before after tag decoder later overwritten
    refine agree _ _ fun b _ => ?_
    rw [Registrations.decoder?, Registrations.decoder?,
      Registrations.last?_insert_of_overwritten overwritten]
  · intro start calls calls' same
    refine agree _ _ fun b _ => ?_
    rw [Registrations.decoder?, Registrations.decoder?, Registrations.last?, Registrations.last?,
      same b.tag]
  · intro start before after decoder b yaml
    have different : Tag.custom "yaml" ≠ b.tag := by
      rw [yaml]
      intro same
      cases same
    refine compileBlock_congr rfl ?_
    show (Registrations.registry _).find? b.tag = (Registrations.registry _).find? b.tag
    rw [Registrations.find?_registry, Registrations.find?_registry, Registrations.decoder?,
      Registrations.decoder?, Registrations.last?_insert_of_ne different]

/-- Of the registrations on top of the built-in ones, the pass over a YAML block reads the last
one of the tag `yaml`, which reads the block; the others would refuse it. -/
theorem run_reads_last_registration_of_yaml :
    let refuses : Decoder := fun _ => .error ⟨"refused", none⟩
    let reads : Decoder := fun text => .ok (.str text)
    let renderer : Renderer := fun _ b => .error (.render b.value)
    let r : Root := ⟨[.block ⟨.yaml, "a", none⟩], none⟩
    let s : Registrations :=
      ⟨.builtin, [(.yaml, refuses), (.custom "yaml", refuses), (.yaml, reads), (.toml, refuses)]⟩
    let s' : Registrations := ⟨.empty, [(.yaml, reads)]⟩
    (s.transform renderer).run r = (s'.transform renderer).run r ∧
      ((s.transform renderer).run r).error = some (.render "a") := by
  intro refuses reads renderer r s s'
  have same : (s.transform renderer).run r = (s'.transform renderer).run r := by
    refine (run_reads_last_registration renderer r).1 s s' fun b hb => ?_
    cases List.mem_singleton.mp hb
    rfl
  refine ⟨same, ?_⟩
  rw [same]
  rfl

end Transform
end Frontmatter
