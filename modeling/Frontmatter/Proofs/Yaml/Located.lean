/-
Frontmatter/Proofs/Yaml/Located.lean

The locations of the failures of a YAML text.

The marks of the tokens are handed on once more: a reader gives them to the events and to its
problems (`Reader.Marked.step`), and the composer gives the marks of the events to the
failures.  So every failure of a text with `n` lines is located in line `n + 1` at most, counted
from one (`located_valueOf`).
-/
import Frontmatter.Proofs.Yaml.Marks
import Frontmatter.Yaml.Decode

namespace Frontmatter.Yaml

/-! ### Events -/

namespace Reader

/-- The marks of the tokens that are left, and of the problem behind them, are in line `n` at
most. -/
structure Marked (n : Nat) (r : Reader) : Prop where
  tokens : ∀ t ∈ r.tokens, t.Marked n
  problem : ∀ p ∈ r.problem, p.mark.line ≤ n

/-- A step gives an event at such a mark, if any, and a reader with such marks. -/
def StaysMarked (n : Nat) : Step → Prop :=
  Stays n fun result => (∀ e ∈ result.1, e.2.line ≤ n) ∧ result.2.Marked n

variable {n : Nat} {r : Reader} {m : Mark}

namespace Marked

theorem advance (h : r.Marked n) : r.advance.Marked n :=
  { h with tokens := fun t ht => h.tokens t (List.mem_of_mem_tail ht) }

theorem turnTo (h : r.Marked n) (rule : Rule) : (r.turnTo rule).Marked n := { h with }

theorem push (h : r.Marked n) (rule : Rule) : (r.push rule).Marked n := { h with }

theorem openAt (h : r.Marked n) (m : Mark) : (r.openAt m).Marked n := { h with }

theorem withHandles (h : r.Marked n) (handles : List (List Char × TagText)) :
    ({ r with handles } : Reader).Marked n := { h with }

theorem pop (h : r.Marked n) : r.pop.Marked n := by
  unfold Reader.pop
  split
  · exact h.turnTo _
  · exact { h with }

theorem close (h : r.Marked n) : r.close.Marked n := by
  have popped := h.pop
  exact { popped with }

theorem peek (h : r.Marked n) : Stays n (Lexeme.Marked n) r.peek := by
  unfold Reader.peek
  split
  · next found => exact h.tokens _ (found ▸ List.mem_cons_self)
  · next found => exact h.problem _ found
  · exact ⟨Nat.zero_le n, Nat.zero_le n⟩

theorem event (h : r.Marked n) (e : Event) (hm : m.line ≤ n) : StaysMarked n (r.event e m) := by
  refine ⟨?_, h⟩
  rintro e ⟨⟩
  exact hm

theorem emptyScalar (h : r.Marked n) (hm : m.line ≤ n) : StaysMarked n (r.emptyScalar m) :=
  h.event (.scalar none none "" true) hm

/-- A step without an event. -/
theorem silent (h : r.Marked n) : StaysMarked n (.ok (none, r)) := by
  refine ⟨?_, h⟩
  intro e he
  cases he

theorem misplaced {t : Lexeme} (ht : t.Marked n) (cause : Cause) (construct : Construct) :
    StaysMarked n (r.misplaced t cause construct) := ht.start

/-! ### Directives -/

theorem directives (h : r.Marked n) (fuel : Nat) (versioned : Bool) :
    Stays n (Marked n) (directives fuel versioned r) := by
  induction fuel generalizing r versioned with
  | zero => exact h
  | succ fuel ih =>
    rw [Reader.directives]
    refine h.peek.bind ?_
    intro t ht
    split
    · refine Stays.ite (fun _ => ht.start) fun _ => ?_
      exact Stays.ite (fun _ => ht.start) fun _ => ih h.advance true
    · refine Stays.ite (fun _ => ht.start) fun _ => ?_
      exact ih (h.advance.withHandles _) versioned
    · exact h.withHandles _

/-! ### Nodes -/

theorem resolveTag {start tagStart : Mark} (htag : tagStart.line ≤ n) (r : Reader)
    (handle : List Char) (rest : TagText) :
    Stays n (fun _ => True) (r.resolveTag start tagStart handle rest) := by
  unfold Reader.resolveTag
  refine Stays.ite (fun _ => trivial) fun _ => ?_
  split
  · trivial
  · exact htag

theorem properties (h : r.Marked n) :
    Stays n (fun result => result.1.start.line ≤ n ∧ result.2.Marked n) r.properties := by
  unfold Reader.properties
  refine h.peek.bind ?_
  intro t ht
  split
  · refine h.advance.peek.bind ?_
    intro u hu
    split
    · refine h.advance.advance.peek.bind fun _ _ => ?_
      exact (resolveTag hu.start _ _ _).bind fun _ _ => ⟨ht.start, h.advance.advance⟩
    · exact ⟨ht.start, h.advance⟩
  · refine h.advance.peek.bind ?_
    intro u hu
    split
    · refine h.advance.advance.peek.bind fun _ _ => ?_
      exact (resolveTag ht.start _ _ _).bind fun _ _ => ⟨ht.start, h.advance.advance⟩
    · exact (resolveTag ht.start _ _ _).bind fun _ _ => ⟨ht.start, h.advance⟩
  · exact ⟨ht.start, h⟩

theorem content (h : r.Marked n) (block bare : Bool) {p : Properties} (hp : p.start.line ≤ n) :
    StaysMarked n (content block bare p r) := by
  unfold Reader.content
  refine h.peek.bind ?_
  intro t ht
  split
  · exact h.advance.pop.event _ hp
  · exact (h.turnTo _).event _ hp
  · exact (h.turnTo _).event _ hp
  · refine Stays.ite (fun _ => (h.turnTo _).event _ hp) fun _ => ?_
    refine Stays.ite (fun _ => (h.turnTo _).event _ hp) fun _ => ?_
    refine Stays.ite (fun _ => (h.turnTo _).event _ hp) fun _ => ?_
    exact Stays.ite (fun _ => h.pop.event _ hp) fun _ => ht.start

theorem node (h : r.Marked n) (block bare : Bool) : StaysMarked n (node block bare r) := by
  unfold Reader.node
  refine h.peek.bind ?_
  intro t ht
  split
  · exact h.advance.pop.event _ ht.start
  · refine h.properties.bind ?_
    rintro ⟨p, r'⟩ ⟨hp, hr⟩
    exact hr.content block bare hp

/-! ### One step -/

theorem document (h : r.Marked n) : StaysMarked n r.document := by
  unfold Reader.document
  refine h.peek.bind ?_
  intro t ht
  have marked : StaysMarked n (do
      let r ← Reader.directives (r.tokens.length + 1) false r
      let t ← r.peek
      if t.token = .documentStart then
        return (none, (r.advance.push .documentEnd).turnTo .documentContent)
      else .error ⟨.noDocumentStart, t.start, none⟩) := by
    refine (h.directives _ _).bind ?_
    intro r' h'
    refine h'.peek.bind ?_
    intro u hu
    exact Stays.ite (fun _ => ((h'.advance.push _).turnTo _).silent) fun _ => hu.start
  have plain := h.withHandles defaultHandles
  split
  · exact h.advance.silent
  · exact (h.turnTo _).silent
  · exact marked
  · exact marked
  · exact ((plain.push _).turnTo _).silent

theorem documentContent (h : r.Marked n) : StaysMarked n r.documentContent := by
  unfold Reader.documentContent
  refine h.peek.bind ?_
  intro t ht
  split
  all_goals first
    | exact h.pop.emptyScalar ht.start
    | exact h.node true false

theorem documentEnd (h : r.Marked n) : StaysMarked n r.documentEnd := by
  unfold Reader.documentEnd
  refine h.peek.bind ?_
  intro t ht
  apply silent
  apply turnTo
  split
  · exact h.advance
  · exact h

/-- The first entry of a collection opens it. -/
theorem opened (h : r.Marked n) (first : Bool) (m : Mark) :
    (if first then r.advance.openAt m else r).Marked n := by
  split
  · exact h.advance.openAt m
  · exact h

/-- There is no comma before the first entry. -/
theorem behindComma (h : r.Marked n) (first : Bool) :
    (if first then r else r.advance).Marked n := by
  split
  · exact h
  · exact h.advance

theorem blockSequenceEntry (h : r.Marked n) (first : Bool) :
    StaysMarked n (r.blockSequenceEntry first) := by
  unfold Reader.blockSequenceEntry
  refine h.peek.bind ?_
  intro t ht
  have h := h.opened first t.start
  refine h.peek.bind ?_
  intro t ht
  split
  · refine h.advance.peek.bind ?_
    intro u hu
    refine Stays.ite (fun _ => (h.advance.turnTo _).emptyScalar ht.stop) fun _ => ?_
    exact (h.advance.push _).node true false
  · exact h.advance.close.event _ ht.start
  · exact misplaced ht _ _

theorem bareSequenceEntry (h : r.Marked n) : StaysMarked n r.bareSequenceEntry := by
  unfold Reader.bareSequenceEntry
  refine h.peek.bind ?_
  intro t ht
  split
  · refine h.advance.peek.bind ?_
    intro u hu
    split
    all_goals first
      | exact (h.advance.turnTo _).emptyScalar ht.stop
      | exact (h.advance.push _).node true false
  · exact h.pop.event _ ht.start

theorem blockMappingKey (h : r.Marked n) (first : Bool) :
    StaysMarked n (r.blockMappingKey first) := by
  unfold Reader.blockMappingKey
  refine h.peek.bind ?_
  intro t ht
  have h := h.opened first t.start
  refine h.peek.bind ?_
  intro t ht
  split
  · refine h.advance.peek.bind ?_
    intro u hu
    split
    all_goals first
      | exact (h.advance.turnTo _).emptyScalar ht.stop
      | exact (h.advance.push _).node true true
  · exact h.advance.close.event _ ht.start
  · exact misplaced ht _ _

theorem blockMappingValue (h : r.Marked n) : StaysMarked n r.blockMappingValue := by
  unfold Reader.blockMappingValue
  refine h.peek.bind ?_
  intro t ht
  split
  · refine h.advance.peek.bind ?_
    intro u hu
    split
    all_goals first
      | exact (h.advance.turnTo _).emptyScalar ht.stop
      | exact (h.advance.push _).node true true
  · exact (h.turnTo _).emptyScalar ht.start

theorem flowSequenceEntry (h : r.Marked n) (first : Bool) :
    StaysMarked n (r.flowSequenceEntry first) := by
  unfold Reader.flowSequenceEntry
  refine h.peek.bind ?_
  intro t ht
  have h := h.opened first t.start
  refine h.peek.bind ?_
  intro t ht
  refine Stays.ite (fun _ => h.advance.close.event _ ht.start) fun _ => ?_
  refine Stays.ite (fun _ => misplaced ht _ _) fun _ => ?_
  have behind := h.behindComma first
  refine behind.peek.bind ?_
  intro u hu
  split
  · exact (behind.advance.turnTo _).event _ hu.start
  · exact behind.advance.close.event _ hu.start
  · exact (behind.push _).node false false

theorem flowPairKey (h : r.Marked n) : StaysMarked n r.flowPairKey := by
  unfold Reader.flowPairKey
  refine h.peek.bind ?_
  intro t ht
  split
  all_goals first
    | exact (h.advance.turnTo _).emptyScalar ht.stop
    | exact (h.push _).node false false

theorem flowPairValue (h : r.Marked n) : StaysMarked n r.flowPairValue := by
  unfold Reader.flowPairValue
  refine h.peek.bind ?_
  intro t ht
  refine Stays.ite (fun _ => ?_) fun _ => (h.turnTo _).emptyScalar ht.start
  refine h.advance.peek.bind ?_
  intro u hu
  split
  all_goals first
    | exact (h.advance.turnTo _).emptyScalar hu.start
    | exact (h.advance.push _).node false false

theorem flowPairEnd (h : r.Marked n) : StaysMarked n r.flowPairEnd := by
  unfold Reader.flowPairEnd
  refine h.peek.bind ?_
  intro t ht
  exact (h.turnTo _).event _ ht.start

theorem flowMappingKey (h : r.Marked n) (first : Bool) :
    StaysMarked n (r.flowMappingKey first) := by
  unfold Reader.flowMappingKey
  refine h.peek.bind ?_
  intro t ht
  have h := h.opened first t.start
  refine h.peek.bind ?_
  intro t ht
  refine Stays.ite (fun _ => h.advance.close.event _ ht.start) fun _ => ?_
  refine Stays.ite (fun _ => misplaced ht _ _) fun _ => ?_
  have behind := h.behindComma first
  refine behind.peek.bind ?_
  intro u hu
  split
  · refine behind.advance.peek.bind ?_
    intro v hv
    split
    all_goals first
      | exact (behind.advance.turnTo _).emptyScalar hv.start
      | exact (behind.advance.push _).node false false
  · exact behind.advance.close.event _ hu.start
  · exact (behind.push _).node false false

theorem flowMappingValue (h : r.Marked n) : StaysMarked n r.flowMappingValue := by
  unfold Reader.flowMappingValue
  refine h.peek.bind ?_
  intro t ht
  refine Stays.ite (fun _ => ?_) fun _ => (h.turnTo _).emptyScalar ht.start
  refine h.advance.peek.bind ?_
  intro u hu
  split
  all_goals first
    | exact (h.advance.turnTo _).emptyScalar hu.start
    | exact (h.advance.push _).node false false

theorem flowMappingNoValue (h : r.Marked n) : StaysMarked n r.flowMappingNoValue := by
  unfold Reader.flowMappingNoValue
  refine h.peek.bind ?_
  intro t ht
  exact (h.turnTo _).emptyScalar ht.start

/-- Whatever rule is followed. -/
theorem step (h : r.Marked n) : StaysMarked n r.step := by
  unfold Reader.step
  split
  · exact h.document
  · exact h.documentContent
  · exact h.documentEnd
  · exact h.node true false
  · exact h.blockSequenceEntry _
  · exact h.bareSequenceEntry
  · exact h.blockMappingKey _
  · exact h.blockMappingValue
  · exact h.flowSequenceEntry _
  · exact h.flowPairKey
  · exact h.flowPairValue
  · exact h.flowPairEnd
  · exact h.flowMappingKey _
  · exact h.flowMappingValue
  · exact h.flowMappingNoValue
  · exact h.silent
  · exact h.silent

end Marked
end Reader

/-! ### Documents -/

/-- The marks of the events, and of the problem that ended them, are in line `n` at most. -/
structure Document.Marked (n : Nat) (d : Document) : Prop where
  events : ∀ e ∈ d.events, e.2.line ≤ n
  problem : ∀ p ∈ d.problem, p.mark.line ≤ n

/-- By induction on the steps, each of which gives one event at most. -/
theorem Document.marked_run {n : Nat} (fuel : Nat) {r : Reader} {events : List (Event × Mark)}
    (h : r.Marked n) (hevents : ∀ e ∈ events, e.2.line ≤ n) :
    (Document.run fuel r events).Marked n := by
  have without : ∀ endsText, Document.Marked n ⟨events.reverse, none, endsText⟩ := fun _ =>
    { events := fun e he => hevents e (List.mem_reverse.mp he)
      problem := fun p hp => nomatch hp }
  induction fuel generalizing r events with
  | zero => exact without _
  | succ fuel ih =>
    rw [Document.run]
    split
    · exact without _
    · exact without _
    · have step := h.step
      generalize r.step = result at step
      rcases result with p | ⟨_ | e, r'⟩
      · refine ⟨(without true).events, ?_⟩
        rintro q ⟨⟩
        exact step
      · exact ih step.2 hevents without
      · have more : ∀ e' ∈ e :: events, e'.2.line ≤ n :=
          List.forall_mem_cons.mpr ⟨step.1 e rfl, hevents⟩
        exact ih step.2 more fun _ =>
          { events := fun e he => more e (List.mem_reverse.mp he)
            problem := fun p hp => nomatch hp }

theorem Document.marked_ofText (text : List Char) :
    (Document.ofText text).Marked (lineEnds text + 1) := by
  obtain ⟨tokens, problem⟩ := Scanner.marked_tokens text
  unfold Document.ofText
  generalize Scanner.tokens text = scanned at tokens problem
  exact marked_run _ ⟨tokens, problem⟩ fun e he => nomatch he

/-! ### Values -/

/-- The failure has no location, or one in line `n + 1` at most, counted from one. -/
def Failure.Located (n : Nat) (f : Failure) : Prop := ∀ loc ∈ f.location, loc.line ≤ n + 1

theorem Failure.located_of_mark {n : Nat} {f : Failure} {m : Mark}
    (at' : f.location = some m.location)
    (hm : m.line ≤ n) : f.Located n := by
  intro loc hloc
  rw [at'] at hloc
  cases hloc
  exact Nat.succ_le_succ hm

/-- The computation fails with located failures only. -/
def Locates {α : Type} (n : Nat) (x : Except Failure α) : Prop :=
  ∀ f, x = .error f → f.Located n

section Locates

variable {α β : Type} {n : Nat} {x : Except Failure α}

theorem Locates.ok (a : α) : Locates n (.ok a) := by
  intro f h
  cases h

theorem Locates.error {f : Failure} (h : f.Located n) :
    Locates n (.error f : Except Failure α) := by
  rintro g ⟨⟩
  exact h

theorem Locates.bind {f : α → Except Failure β} (hx : Locates n x) (hf : ∀ a, Locates n (f a)) :
    Locates n (x >>= f) := by
  cases x with
  | error e => exact .error (hx e rfl)
  | ok a => exact hf a

end Locates

namespace Parts

/-- The marks of the parts are in line `n` at most, and what ends the parts is located. -/
structure Marked (n : Nat) (ps : Parts) : Prop where
  parts : ∀ p ∈ ps.parts, p.2.line ≤ n
  failure : ps.failure.Located n

variable {n : Nat} {ps : Parts} {read : ValueReader} {path : Path} {m : Mark}

theorem Marked.mark (h : ps.Marked n) {pos : Nat} {part : Part}
    (here : ps.parts[pos]? = some (part, m)) :
    m.line ≤ n :=
  h.parts (part, m) (Array.mem_of_getElem? here)

/-- Whatever value it is asked for, the reader fails with located failures only. -/
def LocatesAll (n : Nat) (read : ValueReader) : Prop :=
  ∀ path pos jumps, Locates n (read path pos jumps)

theorem locates_items (h : ps.Marked n) (hread : LocatesAll n read)
    (fuel index pos jumps : Nat) : Locates n (ps.items read path fuel index pos jumps) := by
  induction fuel generalizing index pos jumps with
  | zero => exact .error h.failure
  | succ fuel ih =>
    rw [items]
    split
    · exact .error h.failure
    · exact .ok _
    · refine (hread _ _ _).bind ?_
      rintro ⟨v, pos, jumps⟩
      refine (ih _ _ _).bind ?_
      rintro ⟨vs, pos, jumps⟩
      exact .ok _

theorem locates_misfit (hm : m.line ≤ n) (what : Misfit) (path : Path) {α : Type} :
    Locates n (failAt what path m : Except Failure (Found α)) :=
  .error (Failure.located_of_mark rfl hm)

theorem locates_entries (h : ps.Marked n) (hread : LocatesAll n read)
    (hm : m.line ≤ n) (fuel : Nat) (before : List (Value × Value)) (pos jumps : Nat) :
    Locates n (ps.entries read path m fuel before pos jumps) := by
  induction fuel generalizing before pos jumps with
  | zero => exact .error h.failure
  | succ fuel ih =>
    rw [entries]
    split
    · exact .error h.failure
    · exact .ok _
    · refine (hread _ _ _).bind ?_
      rintro ⟨key, pos, jumps⟩
      dsimp only
      split
      · exact locates_misfit hm _ _
      · refine (hread _ _ _).bind ?_
        rintro ⟨value, pos, jumps⟩
        exact ih _ _ _

theorem locates_contentAt (h : ps.Marked n) {inside : Option ValueReader}
    (hinside : ∀ read ∈ inside, LocatesAll n read)
    (hm : m.line ≤ n) (tag : Option TagText) (part : Part) (pos jumps : Nat) :
    Locates n (ps.contentAt inside path tag part m pos jumps) := by
  unfold contentAt
  split
  · split
    · exact .ok _
    · exact locates_misfit hm _ _
  · split
    · exact .error (Failure.located_of_mark rfl hm)
    · refine (locates_items h (hinside _ rfl) _ _ _ _).bind ?_
      rintro ⟨vs, pos, jumps⟩
      exact .ok _
  · split
    · exact .error (Failure.located_of_mark rfl hm)
    · refine (locates_entries h (hinside _ rfl) hm _ _ _ _).bind ?_
      rintro ⟨es, pos, jumps⟩
      exact .ok _
  · exact .ok _
  all_goals exact .error h.failure

theorem locates_valueAt (h : ps.Marked n) {inside : Option ValueReader}
    (hinside : ∀ read ∈ inside, LocatesAll n read)
    (hm : m.line ≤ n) (part : Part) (pos jumps : Nat) :
    Locates n (ps.valueAt inside path part m pos jumps) := by
  unfold valueAt
  split
  · refine (locates_contentAt h hinside hm _ _ _ _).bind ?_
    rintro ⟨v, pos, jumps⟩
    exact .ok _
  · exact locates_contentAt h hinside hm _ _ _ _

theorem locates_node (h : ps.Marked n) {inside : Option ValueReader}
    (hinside : ∀ read ∈ inside, LocatesAll n read) : LocatesAll n (ps.node inside) := by
  intro path pos jumps
  unfold node
  split
  · exact .error h.failure
  · split
    · refine .error fun loc hloc => ?_
      cases hloc
    · split
      · exact .error h.failure
      · next target part m found =>
        obtain ⟨s, -, there⟩ := Option.bind_eq_some_iff.mp found
        obtain ⟨p, here, same⟩ := Option.map_eq_some_iff.mp there
        cases same
        refine (locates_valueAt h hinside (h.mark here) _ _ _).bind ?_
        rintro ⟨v, pos, jumps⟩
        exact .ok _
  · next here => exact locates_valueAt h hinside (h.mark here) _ _ _

/-- By induction on how deep collections may be nested: at the bottom there is no reader for
what is inside of them. -/
theorem locates_read (h : ps.Marked n) (depth : Nat) : LocatesAll n (ps.read depth) := by
  induction depth with
  | zero =>
    apply locates_node h
    rintro read ⟨⟩
  | succ depth ih =>
    apply locates_node h
    rintro read ⟨⟩
    exact ih

end Parts

theorem forall_mem_push {n : Nat} {parts : Array (Part × Mark)} (h : ∀ p ∈ parts, p.2.line ≤ n)
    (part : Part) {m : Mark} (hm : m.line ≤ n) : ∀ p ∈ parts.push (part, m), p.2.line ≤ n := by
  intro p hp
  rcases Array.mem_push.mp hp with old | rfl
  · exact h p old
  · exact hm

/-- Slots in the place of anchors and aliases change no mark.  By induction on the events: each
one becomes a part at its own mark, or it is an unknown anchor, which is a failure there. -/
theorem marked_partsOf {n : Nat} {failure : Failure} (hfailure : failure.Located n)
    (events : List (Event × Mark)) (names : Names) {parts : Array (Part × Mark)}
    (hevents : ∀ e ∈ events, e.2.line ≤ n) (hparts : ∀ p ∈ parts, p.2.line ≤ n) :
    (partsOf failure events names parts).Marked n := by
  induction events generalizing names parts with
  | nil => exact ⟨hparts, hfailure⟩
  | cons e events ih =>
    obtain ⟨event, m⟩ := e
    obtain ⟨hm, others⟩ := List.forall_mem_cons.mp hevents
    have next : ∀ (names : Names) (part : Part),
        (partsOf failure events names (parts.push (part, m))).Marked n :=
      fun names part => ih names others (forall_mem_push hparts part hm)
    rcases event with name | ⟨anchor, tag, value, plain⟩ | ⟨anchor, tag⟩ | _ | ⟨anchor, tag⟩ | _
    · rw [partsOf]
      split
      · exact next _ _
      · exact ⟨hparts, Failure.located_of_mark rfl hm⟩
    all_goals exact next _ _

/-- The value that is read from the events, with what ended them; `absent` says that there is
no document. -/
theorem locates_valueOfEvents {n : Nat} {failure : Failure} (hfailure : failure.Located n)
    {events : List (Event × Mark)} (hevents : ∀ e ∈ events, e.2.line ≤ n) (absent endsText : Bool) :
    Locates n (do
      let ps := partsOf failure events ⟨[], []⟩ #[]
      let ps := if absent then { ps with parts := #[(.absent, Mark.start)] } else ps
      let (v, _, _) ← ps.read 128 .root 0 0
      match ps.failure with
      | .endOfEvents => if endsText then return v else .error .severalDocuments
      | failure => .error failure) := by
  have none : ∀ p ∈ (#[] : Array (Part × Mark)), p.2.line ≤ n := by
    intro p hp
    cases Array.mem_toList_iff.mpr hp
  have marked := marked_partsOf hfailure events ⟨[], []⟩ hevents none
  generalize partsOf failure events ⟨[], []⟩ #[] = ps at marked
  dsimp only
  generalize hps : (if absent then { ps with parts := #[(.absent, Mark.start)] } else ps) = ps'
  have marked' : ps'.Marked n := by
    rw [← hps]
    split
    · refine { marked with parts := ?_ }
      intro p hp
      obtain rfl := List.mem_singleton.mp (Array.mem_toList_iff.mpr hp)
      exact Nat.zero_le n
    · exact marked
  refine (Parts.locates_read marked' 128 .root 0 0).bind ?_
  rintro ⟨v, pos, jumps⟩
  dsimp only
  split
  · split
    · exact .ok _
    · refine .error fun loc hloc => ?_
      cases hloc
  · exact .error marked'.failure

theorem Document.Marked.locates_value {n : Nat} {d : Document} (h : d.Marked n) :
    Locates n d.value := by
  obtain ⟨events, problem, endsText⟩ := d
  cases problem with
  | none =>
    have failure : Failure.Located n .endOfEvents := by
      intro loc hloc
      cases hloc
    exact locates_valueOfEvents failure h.events _ endsText
  | some p =>
    have failure := Failure.located_of_mark (f := .syntaxProblem p) rfl (h.problem p rfl)
    exact locates_valueOfEvents failure h.events _ endsText

/-- A text with `n` lines fails in line `n + 1` at most, counted from one. -/
theorem located_valueOf {text : List Char} {f : Failure} (h : valueOf text = .error f) :
    f.Located (lineEnds text + 1) := by
  unfold valueOf at h
  split at h
  · cases h
    exact Failure.located_of_mark rfl (Nat.zero_le _)
  · exact (Document.marked_ofText text).locates_value f h

end Frontmatter.Yaml
