/-
Frontmatter/Proofs/Yaml/Marks.lean

The marks of the tokens of a YAML text.

A scanner hands on the marks of its cursor: to the tokens, to the places where keys may
start, and to problems.  `Scanner.Keeps` says that all marks it has handed on are in line `n`
at most, and that its cursor has a property that is left open.  While the scanner reads, that
property is being within the first `n` lines; the end of the text puts the cursor into the
line behind them, and then it is that only (`Scanner.Reached`).

Each step of the scanner keeps this (`stays_fetch`), so all tokens of a text with `n` lines,
and the problem that ends them, have their marks in line `n` at most (`marked_tokens`).
-/
import Frontmatter.Proofs.Yaml.Lines
import Frontmatter.Yaml.Token
import Mathlib.Data.List.InsertIdx

namespace Frontmatter.Yaml

/-- The results of a computation on each item keep what each computation asks for. -/
theorem Stays.mapM {α β : Type} {n : Nat} {P : β → Prop} {f : α → Except Problem β} {as : List α}
    (h : ∀ a ∈ as, Stays n P (f a)) : Stays n (fun bs => ∀ b ∈ bs, P b) (as.mapM f) := by
  induction as with
  | nil =>
    intro b hb
    cases hb
  | cons a as ih =>
    rw [List.mapM_cons]
    refine (h a List.mem_cons_self).bind ?_
    intro b hb
    refine (ih fun a ha => h a (List.mem_cons_of_mem _ ha)).bind ?_
    intro bs hbs
    exact List.forall_mem_cons.mpr ⟨hb, hbs⟩

/-- Both marks of the token are in line `n` at most. -/
structure Lexeme.Marked (n : Nat) (t : Lexeme) : Prop where
  start : t.start.line ≤ n
  stop : t.stop.line ≤ n

namespace Scanner

/-- The marks that the scanner has handed on are in line `n` at most. -/
structure Keeps (n : Nat) (C : Cursor → Prop) (s : Scanner) : Prop where
  cursor : C s.cursor
  certain : ∀ t ∈ s.certain, t.Marked n
  held : ∀ t ∈ s.held, t.Marked n
  place : ∀ k ∈ s.place, k.mark.line ≤ n
  places : ∀ p ∈ s.places, ∀ k ∈ p, k.mark.line ≤ n

variable {n : Nat} {C : Cursor → Prop} {s : Scanner} {m : Mark}

namespace Keeps

/-! ### Adding tokens -/

theorem addEmpty (h : s.Keeps n C) (token : Token) (hm : m.line ≤ n) :
    (s.addEmpty token m).Keeps n C where
  cursor := h.cursor
  certain := h.certain
  held := List.forall_mem_append.mpr ⟨h.held, List.forall_mem_singleton.mpr ⟨hm, hm⟩⟩
  place := h.place
  places := h.places

theorem addTo {after : Cursor} (h : s.Keeps n (·.Within n)) (token : Token)
    (hafter : after.Within n) : (s.addTo token after).Keeps n (·.Within n) where
  cursor := hafter
  certain := h.certain
  held := List.forall_mem_append.mpr
    ⟨h.held, List.forall_mem_singleton.mpr ⟨h.cursor.mark_le, hafter.mark_le⟩⟩
  place := h.place
  places := h.places

theorem insertAt (h : s.Keeps n C) (number : Nat) (token : Token) (hm : m.line ≤ n) :
    (s.insertAt number token m).Keeps n C where
  cursor := h.cursor
  certain := h.certain
  held := by
    intro t ht
    rcases List.eq_or_mem_of_mem_insertIdx ht with rfl | old
    · exact ⟨hm, hm⟩
    · exact h.held t old
  place := h.place
  places := h.places

/-- What the scanner knows about indentation does not count. -/
theorem of_indent (h : s.Keeps n C) (indent : Int) (indents : List Int) :
    ({ s with indent, indents } : Scanner).Keeps n C := { h with }

theorem keyAllowed (h : s.Keeps n C) (allowed : Bool) :
    ({ s with keyAllowed := allowed } : Scanner).Keeps n C := { h with }

/-! ### Places of keys -/

theorem missingKey {α : Type} {P : α → Prop} (hm : s.mark.line ≤ n) (k : KeyPlace) :
    Stays n P (s.missingKey k : Except Problem α) := hm

theorem refresh (hm : s.mark.line ≤ n) {place : Option KeyPlace}
    (hplace : ∀ k ∈ place, k.mark.line ≤ n) :
    Stays n (fun p => ∀ k ∈ p, k.mark.line ≤ n) (s.refresh place) := by
  have none : ∀ k ∈ (none : Option KeyPlace), k.mark.line ≤ n := by
    intro k hk
    cases hk
  unfold Scanner.refresh
  split
  · exact none
  · refine Stays.ite (fun _ => ?_) fun _ => hplace
    exact Stays.ite (fun _ => missingKey hm _) fun _ => none

theorem refreshPlaces (hC : ∀ c, C c → c.mark.line ≤ n) (h : s.Keeps n C) :
    Stays n (fun s' => s'.Keeps n C ∧ s'.finished = s.finished) s.refreshPlaces := by
  have hm := hC _ h.cursor
  unfold Scanner.refreshPlaces
  refine (Stays.mapM fun p hp => refresh hm (h.places p (List.mem_reverse.mp hp))).bind ?_
  intro places hplaces
  refine (refresh hm h.place).bind ?_
  intro place hplace
  refine ⟨{ h with place := hplace, places := ?_ }, rfl⟩
  intro p hp
  exact hplaces p (List.mem_reverse.mp hp)

theorem dropPlace (hC : ∀ c, C c → c.mark.line ≤ n) (h : s.Keeps n C) :
    Stays n (Keeps n C) s.dropPlace := by
  unfold Scanner.dropPlace
  split
  · refine Stays.ite (fun _ => missingKey (hC _ h.cursor) _) fun _ => ?_
    refine { h with place := ?_ }
    intro k hk
    cases hk
  · exact h

theorem savePlace (h : s.Keeps n (·.Within n)) : Stays n (Keeps n (·.Within n)) s.savePlace := by
  unfold Scanner.savePlace
  refine Stays.ite (fun _ => ?_) fun _ => h
  refine (dropPlace (fun _ hc => hc.mark_le) h).bind ?_
  intro s' h'
  refine { h' with place := ?_ }
  rintro k ⟨⟩
  exact h.cursor.mark_le

/-! ### Indentation -/

theorem openBlock (h : s.Keeps n C) (column : Nat) {put : Scanner → Scanner}
    (hput : ∀ s : Scanner, s.Keeps n C → (put s).Keeps n C) :
    (s.openBlock column put).Keeps n C := by
  unfold Scanner.openBlock
  split
  · exact hput _ (h.of_indent _ _)
  · exact h

theorem openBlockHere (h : s.Keeps n (·.Within n)) (token : Token) :
    (s.openBlockHere token).Keeps n (·.Within n) :=
  h.openBlock _ fun _ h' => h'.addEmpty token h.cursor.mark_le

theorem closeBlocks (hC : ∀ c, C c → c.mark.line ≤ n) (h : s.Keeps n C) (column : Int) :
    (s.closeBlocks column).Keeps n C := by
  have closed : ∀ (indents : List Int) (s : Scanner), s.Keeps n C →
      (closeBlocks.go column indents s).Keeps n C := by
    intro indents
    induction indents with
    | nil => exact fun s h => h
    | cons outer rest ih =>
      intro s h
      rw [closeBlocks.go]
      split
      · exact ih _ ((h.addEmpty .blockEnd (hC _ h.cursor)).of_indent _ _)
      · exact h
  unfold Scanner.closeBlocks
  split
  · exact h
  · exact closed _ _ h

/-! ### One token -/

/-- Blanks, comments and line ends before a token. -/
theorem skipToToken (h : s.Keeps n (·.Within n)) (fuel : Nat) :
    (s.skipToToken fuel).Keeps n (·.Within n) := by
  induction fuel generalizing s with
  | zero => exact h
  | succ fuel ih =>
    rw [Scanner.skipToToken]
    -- the byte order mark, the blanks and the comment, one after the other
    have mark : Cursor.Within n
        (if s.cursor.mark.index = 0 && s.cursor.isAt '\ufeff' then s.cursor.skip
        else s.cursor) := by
      split
      · exact h.cursor.skip
      · exact h.cursor
    generalize (if s.cursor.mark.index = 0 && s.cursor.isAt '\ufeff' then s.cursor.skip
      else s.cursor) = c at mark ⊢
    have blanks := mark.skipWhile fun ch => ch = ' ' || ((s.inFlow || !s.keyAllowed) && ch = '\t')
    have comment := blanks.skipWhile (!isBreak ·)
    generalize hd : (if (Cursor.skipWhile _ _).isAt '#' = true then _ else _) = d
    have within : d.Within n := by
      rw [← hd]
      split
      · exact comment
      · exact blanks
    split
    · exact ih { h with cursor := within.skipLineEnd }
    · exact { h with cursor := within }

end Keeps

/-! ### Fetching -/

/-- What a step of the scanner leaves.  Behind the end of the text the cursor is in line `n` at
most; before it, within the first `n` lines. -/
def Reached (n : Nat) (s : Scanner) : Prop :=
  s.Keeps n fun c => c.mark.line ≤ n ∧ (s.finished = false → c.Within n)

theorem Keeps.reached (h : s.Keeps n (·.Within n)) : s.Reached n :=
  { h with cursor := ⟨h.cursor.mark_le, fun _ => h.cursor⟩ }

theorem within_mark_le (c : Cursor) (h : c.Within n) : c.mark.line ≤ n := h.mark_le

/-- The end of the text stands at the start of a line, which may be the one behind the last. -/
theorem stays_fetchEnd (h : s.Keeps n (·.Within n)) : Stays n (Reached n) s.fetchEnd := by
  unfold fetchEnd
  dsimp only
  have below : s.mark.line + 1 ≤ n := by
    have := h.cursor
    unfold Cursor.Within at this
    show s.cursor.mark.line + 1 ≤ n
    omega
  -- only a last line that is not empty takes the mark out of the lines
  generalize hm : (if s.mark.column = 0 then s.mark else ⟨s.mark.index, s.mark.line + 1, 0⟩) = m
  have line : m.line ≤ n := by
    rw [← hm]
    split
    · omega
    · exact below
  have moved :
      Keeps n (fun c => c.mark.line ≤ n) { s with cursor := { s.cursor with mark := m } } :=
    { h with cursor := line }
  refine ((moved.closeBlocks (fun _ hc => hc) (-1)).dropPlace fun _ hc => hc).bind ?_
  intro s' h'
  have ended := h'.addEmpty .textEnd line
  exact { ended with cursor := ⟨ended.cursor, fun unfinished => nomatch unfinished⟩ }

theorem stays_fetchDirective (h : s.Keeps n (·.Within n)) :
    Stays n (Keeps n (·.Within n)) s.fetchDirective := by
  unfold fetchDirective
  refine ((h.closeBlocks within_mark_le (-1)).dropPlace within_mark_le).bind ?_
  intro s' h'
  refine (stays_directive h'.cursor).bind ?_
  rintro ⟨d, after⟩ hafter
  exact (h'.addTo (.directive d) hafter).keyAllowed false

theorem stays_fetchBorder (h : s.Keeps n (·.Within n)) (token : Token) :
    Stays n (Keeps n (·.Within n)) (s.fetchBorder token) := by
  unfold fetchBorder
  refine ((h.closeBlocks within_mark_le (-1)).dropPlace within_mark_le).bind ?_
  intro s' h'
  exact (h'.addTo token (h'.cursor.skips 3)).keyAllowed false

theorem stays_fetchOpening (h : s.Keeps n (·.Within n)) (token : Token) :
    Stays n (Keeps n (·.Within n)) (s.fetchOpening token) := by
  unfold fetchOpening
  refine h.savePlace.bind ?_
  intro s' h'
  have opened := h'.addTo token h'.cursor.skip
  refine { opened with place := ?_, places := List.forall_mem_cons.mpr ⟨h'.place, h'.places⟩ }
  intro k hk
  cases hk

theorem stays_fetchClosing (h : s.Keeps n (·.Within n)) (token : Token) :
    Stays n (Keeps n (·.Within n)) (s.fetchClosing token) := by
  unfold fetchClosing
  refine (h.dropPlace within_mark_le).bind ?_
  intro s' h'
  dsimp only
  split
  · exact (h'.addTo token h'.cursor.skip).keyAllowed false
  · next outer rest found =>
    have places := h'.places
    rw [found] at places
    obtain ⟨first, others⟩ := List.forall_mem_cons.mp places
    have closed : Keeps n (·.Within n) { s' with place := outer, places := rest } :=
      { h' with place := first, places := others }
    exact (closed.addTo token closed.cursor.skip).keyAllowed false

theorem stays_fetchFlowEntry (h : s.Keeps n (·.Within n)) :
    Stays n (Keeps n (·.Within n)) s.fetchFlowEntry := by
  unfold fetchFlowEntry
  refine (h.dropPlace within_mark_le).bind ?_
  intro s' h'
  exact (h'.addTo .flowEntry h'.cursor.skip).keyAllowed true

theorem stays_fetchBlockEntry (h : s.Keeps n (·.Within n)) :
    Stays n (Keeps n (·.Within n)) s.fetchBlockEntry := by
  unfold fetchBlockEntry
  refine Stays.ite (fun _ => h.cursor.mark_le) fun _ => ?_
  refine ((h.openBlockHere .blockSequenceStart).dropPlace within_mark_le).bind ?_
  intro s' h'
  exact (h'.addTo .blockEntry h'.cursor.skip).keyAllowed true

theorem stays_fetchKey (h : s.Keeps n (·.Within n)) :
    Stays n (Keeps n (·.Within n)) s.fetchKey := by
  unfold fetchKey
  refine Stays.ite (fun _ => h.cursor.mark_le) fun _ => ?_
  refine ((h.openBlockHere .blockMappingStart).dropPlace within_mark_le).bind ?_
  intro s' h'
  exact (h'.addTo .key h'.cursor.skip).keyAllowed _

/-- The key token and the block that a colon asks for stand at a place that was remembered. -/
theorem stays_fetchValue (h : s.Keeps n (·.Within n)) :
    Stays n (Keeps n (·.Within n)) s.fetchValue := by
  unfold fetchValue
  split
  · next k found =>
    have line := h.place k found
    have inserted := (h.insertAt k.number .key line).openBlock k.mark.column
      fun _ h' => h'.insertAt k.number .blockMappingStart line
    have added := inserted.addTo .value inserted.cursor.skip
    refine { added with place := ?_ }
    intro k hk
    cases hk
  · refine Stays.ite (fun _ => h.cursor.mark_le) fun _ => ?_
    have opened := h.openBlockHere .blockMappingStart
    exact (opened.addTo .value opened.cursor.skip).keyAllowed _

theorem stays_fetchAlias (h : s.Keeps n (·.Within n)) :
    Stays n (Keeps n (·.Within n)) s.fetchAlias := by
  unfold fetchAlias
  refine h.savePlace.bind ?_
  intro s' h'
  refine (stays_anchorName .alias h'.cursor).bind ?_
  rintro ⟨name, after⟩ hafter
  exact (h'.addTo (.alias name) hafter).keyAllowed false

theorem stays_fetchAnchor (h : s.Keeps n (·.Within n)) :
    Stays n (Keeps n (·.Within n)) s.fetchAnchor := by
  unfold fetchAnchor
  refine h.savePlace.bind ?_
  intro s' h'
  refine (stays_anchorName .anchor h'.cursor).bind ?_
  rintro ⟨name, after⟩ hafter
  exact (h'.addTo (.anchor name) hafter).keyAllowed false

theorem stays_fetchTag (h : s.Keeps n (·.Within n)) :
    Stays n (Keeps n (·.Within n)) s.fetchTag := by
  unfold fetchTag
  refine h.savePlace.bind ?_
  intro s' h'
  refine (stays_tag s'.inFlow h'.cursor).bind ?_
  rintro ⟨handle, rest, after⟩ hafter
  exact (h'.addTo (.tag handle rest) hafter).keyAllowed false

theorem stays_fetchBlockScalar (h : s.Keeps n (·.Within n)) (folded : Bool) :
    Stays n (Keeps n (·.Within n)) (s.fetchBlockScalar folded) := by
  unfold fetchBlockScalar
  refine (h.dropPlace within_mark_le).bind ?_
  intro s' h'
  refine (stays_blockScalar folded s'.indent h'.cursor).bind ?_
  rintro ⟨text, after⟩ hafter
  exact (h'.addTo (scalarToken text false) hafter).keyAllowed true

theorem stays_fetchQuoted (h : s.Keeps n (·.Within n)) (quote : Char) :
    Stays n (Keeps n (·.Within n)) (s.fetchQuoted quote) := by
  unfold fetchQuoted
  refine h.savePlace.bind ?_
  intro s' h'
  refine (stays_quotedScalar quote h'.cursor).bind ?_
  rintro ⟨text, after⟩ hafter
  exact (h'.addTo (scalarToken text false) hafter).keyAllowed false

theorem stays_fetchPlain (h : s.Keeps n (·.Within n)) :
    Stays n (Keeps n (·.Within n)) s.fetchPlain := by
  unfold fetchPlain
  refine h.savePlace.bind ?_
  intro s' h'
  refine (stays_plainScalar s'.inFlow s'.indent h'.cursor).bind ?_
  rintro ⟨text, broken, after⟩ hafter
  exact (h'.addTo (scalarToken text true) hafter).keyAllowed broken

/-- A step of the scanner.  Only the end of the text takes the cursor out of the lines. -/
theorem stays_fetch (h : s.Keeps n (·.Within n)) : Stays n (Reached n) s.fetch := by
  unfold fetch
  refine ((h.skipToToken _).refreshPlaces within_mark_le).bind ?_
  rintro s' ⟨h', -⟩
  have closed := h'.closeBlocks within_mark_le (s'.mark.column : Int)
  have inside : ∀ {x : Except Problem Scanner}, Stays n (Keeps n (·.Within n)) x →
      Stays n (Reached n) x := fun hx => hx.mono fun _ => Keeps.reached
  generalize s'.closeBlocks (s'.mark.column : Int) = s at closed
  dsimp only
  split
  · exact stays_fetchEnd closed
  · next ch _ =>
    apply inside
    refine Stays.ite (fun _ => stays_fetchDirective closed) fun _ => ?_
    refine Stays.ite (fun _ => stays_fetchBorder closed _) fun _ => ?_
    refine Stays.ite (fun _ => stays_fetchBorder closed _) fun _ => ?_
    refine Stays.ite (fun _ => stays_fetchOpening closed _) fun _ => ?_
    refine Stays.ite (fun _ => stays_fetchOpening closed _) fun _ => ?_
    refine Stays.ite (fun _ => stays_fetchClosing closed _) fun _ => ?_
    refine Stays.ite (fun _ => stays_fetchClosing closed _) fun _ => ?_
    refine Stays.ite (fun _ => stays_fetchFlowEntry closed) fun _ => ?_
    refine Stays.ite (fun _ => stays_fetchBlockEntry closed) fun _ => ?_
    refine Stays.ite (fun _ => stays_fetchKey closed) fun _ => ?_
    refine Stays.ite (fun _ => stays_fetchValue closed) fun _ => ?_
    refine Stays.ite (fun _ => stays_fetchAlias closed) fun _ => ?_
    refine Stays.ite (fun _ => stays_fetchAnchor closed) fun _ => ?_
    refine Stays.ite (fun _ => stays_fetchTag closed) fun _ => ?_
    refine Stays.ite (fun _ => stays_fetchBlockScalar closed _) fun _ => ?_
    refine Stays.ite (fun _ => stays_fetchBlockScalar closed _) fun _ => ?_
    refine Stays.ite (fun _ => stays_fetchQuoted closed _) fun _ => ?_
    refine Stays.ite (fun _ => stays_fetchPlain closed) fun _ => ?_
    exact closed.cursor.problem _ _ _

/-! ### All tokens -/

/-- Letting tokens go that were held back changes no mark. -/
theorem Reached.release (h : s.Reached n) : s.release.Reached n := by
  have all : ∀ (held : List Lexeme) (s : Scanner), s.Reached n → (∀ t ∈ held, t.Marked n) →
      (release.go held s).Reached n := by
    intro held
    induction held with
    | nil => exact fun s h hheld => { h with held := hheld }
    | cons t rest ih =>
      intro s h hheld
      obtain ⟨first, others⟩ := List.forall_mem_cons.mp hheld
      rw [release.go]
      split
      · exact { h with held := hheld }
      · exact ih _ { h with certain := List.forall_mem_cons.mpr ⟨first, h.certain⟩ } others
  exact all s.held s h h.held

/-- By induction on the steps: each one ends with a problem, or leaves what it found. -/
theorem marked_run (fuel : Nat) (h : s.Reached n) :
    (∀ t ∈ (run fuel s).1, t.Marked n) ∧ ∀ p ∈ (run fuel s).2, p.mark.line ≤ n := by
  have certain : ∀ t ∈ s.certain.reverse, t.Marked n :=
    fun t ht => h.certain t (List.mem_reverse.mp ht)
  have none : ∀ p ∈ (none : Option Problem), p.mark.line ≤ n := by
    intro p hp
    cases hp
  induction fuel generalizing s with
  | zero => exact ⟨certain, none⟩
  | succ fuel ih =>
    rw [run]
    split
    · exact ⟨certain, none⟩
    · next unfinished =>
      have within : s.Keeps n (·.Within n) :=
        { h with cursor := h.cursor.2 (Bool.eq_false_iff.mpr unfinished) }
      have step : Stays n (Reached n) (s.fetch >>= refreshPlaces) := by
        refine (stays_fetch within).bind ?_
        intro s' h'
        refine (Keeps.refreshPlaces (fun _ hc => hc.1) h').mono ?_
        rintro s'' ⟨h'', same⟩
        rw [Reached, same]
        exact h''
      generalize s.fetch >>= refreshPlaces = result at step
      cases result with
      | error p =>
        refine ⟨certain, ?_⟩
        rintro q ⟨⟩
        exact step
      | ok next =>
        have released := Reached.release step
        exact ih released fun t ht => released.certain t (List.mem_reverse.mp ht)

/-- The tokens of a text, and the problem that ends them. -/
theorem marked_tokens (text : List Char) :
    (∀ t ∈ (tokens text).1, t.Marked (lineEnds text + 1)) ∧
      ∀ p ∈ (tokens text).2, p.mark.line ≤ lineEnds text + 1 := by
  apply marked_run
  have origin : Mark.start.line ≤ lineEnds text + 1 := Nat.zero_le _
  have within : Cursor.Within (lineEnds text + 1) ⟨text, Mark.start⟩ := by
    show 0 + lineEnds text < lineEnds text + 1
    omega
  apply Keeps.reached
  exact {
    cursor := within
    certain := List.forall_mem_singleton.mpr ⟨origin, origin⟩
    held := fun t ht => nomatch ht
    place := fun k hk => nomatch hk
    places := fun p hp => nomatch hp }

end Scanner
end Frontmatter.Yaml
