/-
Frontmatter/Proofs/Document/YamlErrors.lean

In which line of the document the error of a YAML block is reported.

The line of the opening fence is added to the line that the YAML reader gives, so the result is
right only if both count lines in the same way.  They do not.  Markdown ends a line at a line
feed, at a carriage return, and at the two together.  YAML does so as well, and ends a line at
three more characters: these are the *foreign* line ends (`isForeignBreak`).

A text of `n` Markdown lines with `k` foreign line ends has `n + k` YAML lines
(`lineEnds_eq`), and YAML reports nothing behind the line after its last one.  So the reported
line is the one of the closing fence at most, if there are no foreign line ends, and for each
of them it may be one line further down (`yaml_error_lines`).  The bound is reached by every
text of line ends with an open bracket behind them (`value_openBracket`): the reader misses
the content of the bracket at the very end of the text.
-/
import Frontmatter.Document.Config
import Frontmatter.Markdown.Cell
import Frontmatter.Proofs.Document.Pass
import Frontmatter.Proofs.Yaml.Located
import Mathlib.Data.List.TakeWhile
import Mathlib.Order.Bounds.Image

namespace Frontmatter

/-! ### Lines of Markdown and lines of YAML -/

/-- The lines of a text, as Markdown counts them: one more than there are line endings. -/
def Markdown.lineCount (text : List Char) : Nat :=
  (cellsFrom Point.origin none text).countP Cell.isEnding + 1

namespace Yaml

/-- A line end of YAML that is none of Markdown. -/
def isForeignBreak (c : Char) : Bool := c = '\u0085' || c = '\u2028' || c = '\u2029'

def foreignBreaks (text : List Char) : Nat := text.countP isForeignBreak

theorem isBreak_cases {c : Char} (h : isBreak c) :
    c = '\n' ∨ c = '\r' ∨ c = '\u0085' ∨ c = '\u2028' ∨ c = '\u2029' := by
  simpa only [isBreak, Bool.or_eq_true, decide_eq_true_eq, or_assoc] using h

theorem isBreak_eq (c : Char) : isBreak c = (c = '\n' || c = '\r' || isForeignBreak c) := by
  simp only [isBreak, isForeignBreak, Bool.or_assoc]

theorem countP_isEnding_tabCells (before after : Option Char) (p : Markdown.Point)
    (tail left : Nat) :
    (Markdown.tabCells before after p tail left).countP Markdown.Cell.isEnding = 0 := by
  induction left generalizing p tail with
  | zero => rfl
  | succ left ih =>
    rw [Markdown.tabCells]
    rcases Nat.eq_zero_or_pos tail with rfl | inside
    · exact ih _ _
    · rw [if_neg (Nat.ne_of_gt inside)]
      exact ih _ _

/-- The first character of a text is an ending of its own, or the endings are those of the rest;
the cells of the rest depend on what stands before it, their number does not. -/
theorem endings_cons (p : Markdown.Point) (before : Option Char) {c : Char} {rest : List Char}
    (single : ∀ more, c = '\r' → rest = '\n' :: more → False) :
    ∃ q behind, (Markdown.cellsFrom p before (c :: rest)).countP Markdown.Cell.isEnding =
      (Markdown.cellsFrom q behind rest).countP Markdown.Cell.isEnding +
        if c = '\n' || c = '\r' then 1 else 0 := by
  rw [Markdown.cellsFrom]
  · split
    · exact ⟨_, _, List.countP_cons_of_pos rfl⟩
    · next inner =>
      split
      · refine ⟨⟨p.line, p.column + Markdown.tabWidth p.column, p.offset + 1⟩, some c, ?_⟩
        rw [List.countP_append, countP_isEnding_tabCells, Nat.zero_add]
        rfl
      · have own : ¬ (c == '\n') = true := by
          intro ending
          rw [beq_iff_eq.mp ending] at inner
          exact inner rfl
        exact ⟨_, _, List.countP_cons_of_neg own⟩
  · exact single

theorem lineEnds_eq_endings (p : Markdown.Point) (before : Option Char) (text : List Char) :
    lineEnds text =
      (Markdown.cellsFrom p before text).countP Markdown.Cell.isEnding + foreignBreaks text := by
  induction text using lineEnds.induct generalizing p before with
  | case1 => rfl
  | case2 rest ih =>
    rw [lineEnds_crlf, Markdown.cellsFrom, List.countP_cons_of_pos rfl,
      ih (p.nextLine 2) (some '\n')]
    show _ = _ + foreignBreaks rest
    omega
  | case3 c rest single breaks ih =>
    obtain ⟨q, behind, endings⟩ := endings_cons p before single
    rw [lineEnds_of_break breaks single, endings, ih q behind]
    -- a line end is one of Markdown or a foreign one, and not both
    have once : foreignBreaks (c :: rest) + (if c = '\n' || c = '\r' then 1 else 0) =
        foreignBreaks rest + 1 := by
      unfold foreignBreaks
      rw [List.countP_cons, Nat.add_assoc]
      rcases isBreak_cases breaks with rfl | rfl | rfl | rfl | rfl
      all_goals rfl
    omega
  | case4 c rest single solid ih =>
    obtain ⟨q, behind, endings⟩ := endings_cons p before single
    have inner : ¬ (c = '\n' || c = '\r') ∧ ¬ isForeignBreak c := by
      rw [isBreak_eq, Bool.or_eq_true] at solid
      exact not_or.mp solid
    rw [lineEnds, if_neg solid, endings, if_neg inner.1, foreignBreaks,
      List.countP_cons_of_neg inner.2, Nat.add_zero]
    · exact ih q behind
    · exact single

/-- The line ends of YAML, with one more for the last line, are the lines of Markdown and the
foreign line ends. -/
theorem lineEnds_eq (text : List Char) :
    lineEnds text + 1 = Markdown.lineCount text + foreignBreaks text := by
  rw [lineEnds_eq_endings Markdown.Point.origin none text, Markdown.lineCount]
  omega

/-! ### Line ends with an open bracket behind them -/

theorem lineEnd_of_break {c : Char} {rest : List Char} (m : Mark) (h : isBreak c)
    (single : ∀ more, c = '\r' → rest = '\n' :: more → False) :
    (Cursor.lineEnd ⟨c :: rest, m⟩).2 = ⟨rest, m.nextLine 1⟩ := by
  unfold Cursor.lineEnd
  dsimp only
  split
  · next more at' =>
    cases at'
    exact (single more rfl rfl).elim
  · next at' =>
    cases at'
    split
    · rfl
    · rfl
  · next at' => cases at'

namespace Scanner

theorem skipToToken_bracket (s : Scanner) (fuel : Nat) (m : Mark) :
    skipToToken (fuel + 1) { s with cursor := ⟨['['], m⟩ } = { s with cursor := ⟨['['], m⟩ } := by
  simp [skipToToken, Cursor.isAt, Cursor.peek, Cursor.skipWhile, Cursor.span, Cursor.span.go,
    Cursor.nextIs, isBreak]

section LineEnds

variable {s : Scanner} (outside : s.inFlow = false) (allowed : s.keyAllowed = true)

include outside allowed

theorem skipToToken_lineEnd {c : Char} (h : isBreak c) (fuel : Nat) (rest : List Char) (m : Mark) :
    skipToToken (fuel + 1) { s with cursor := ⟨c :: rest, m⟩ } =
      skipToToken fuel { s with cursor := (Cursor.lineEnd ⟨c :: rest, m⟩).2 } := by
  obtain ⟨cursor, indent, indents, keyAllowed, place, places, certain, count, held, finished⟩ := s
  subst allowed
  rw [skipToToken]
  rcases isBreak_cases h with rfl | rfl | rfl | rfl | rfl
  all_goals
    simp [Cursor.isAt, Cursor.peek, Cursor.skipWhile, Cursor.span, Cursor.span.go, Cursor.nextIs, h,
      Cursor.skipLineEnd]

/-- By induction on the line ends: behind each of them the scanner is at the start of a line. -/
theorem skipToToken_lineEnds {breaks : List Char} (h : ∀ c ∈ breaks, isBreak c)
    (fuel index line : Nat) :
    skipToToken (breaks.length + fuel + 1)
        { s with cursor := ⟨breaks ++ ['['], ⟨index, line, 0⟩⟩ } =
      { s with cursor := ⟨['['], ⟨index + breaks.length, line + lineEnds breaks, 0⟩⟩ } := by
  induction breaks using lineEnds.induct generalizing fuel index line with
  | case1 =>
    rw [List.length_nil, Nat.zero_add]
    exact skipToToken_bracket s fuel _
  | case2 rest ih =>
    have hrest : ∀ c ∈ rest, isBreak c := by
      intro c hc
      exact h c (List.mem_cons_of_mem _ (List.mem_cons_of_mem _ hc))
    -- the two characters take one step, so one is left over
    have left : ('\r' :: '\n' :: rest).length + fuel + 1 = rest.length + (fuel + 1) + 1 + 1 := by
      simp only [List.length_cons]
      omega
    have step := skipToToken_lineEnd outside allowed (h '\r' List.mem_cons_self)
      (rest.length + (fuel + 1) + 1) ('\n' :: rest ++ ['[']) ⟨index, line, 0⟩
    rw [left, lineEnds_crlf]
    refine (step.trans (ih hrest (fuel + 1) (index + 2) (line + 1))).trans ?_
    simp only [List.length_cons, Nat.add_assoc, Nat.add_comm 1, Nat.add_comm 2]
  | case3 c rest single breaks ih =>
    have hrest : ∀ c ∈ rest, isBreak c := by
      intro c hc
      exact h c (List.mem_cons_of_mem _ hc)
    -- what follows the last line end is the bracket, which is no line feed
    have alone : ∀ more, c = '\r' → rest ++ ['['] = '\n' :: more → False := by
      rintro more rfl next
      cases rest with
      | nil => cases next
      | cons _ rest =>
        cases next
        exact single rest rfl rfl
    have left : (c :: rest).length + fuel + 1 = rest.length + fuel + 1 + 1 := by
      simp only [List.length_cons]
      omega
    have step := skipToToken_lineEnd outside allowed breaks (rest.length + fuel + 1)
      (rest ++ ['[']) ⟨index, line, 0⟩
    rw [lineEnd_of_break _ breaks alone] at step
    rw [left, lineEnds_of_break breaks single]
    refine (step.trans (ih hrest fuel (index + 1) (line + 1))).trans ?_
    simp only [List.length_cons, Nat.add_assoc, Nat.add_comm 1]
  | case4 c rest _ solid => exact absurd (h c List.mem_cons_self) solid

end LineEnds

/-- The scanner behind a bracket at a mark, which may still be the start of a key. -/
def behindBracket (m : Mark) : Scanner where
  cursor := ⟨[], m.nextColumn⟩
  indent := -1
  indents := []
  keyAllowed := true
  place := none
  places := [some ⟨1, false, m⟩]
  certain := [⟨.textStart, Mark.start, Mark.start⟩]
  count := 1
  held := [⟨.flowSequenceStart, m, m.nextColumn⟩]
  finished := false

/-- The mark of the end of a text that ends behind a bracket: the start of the next line. -/
def endBehind (m : Mark) : Mark := ⟨m.index + 1, m.line + 1, 0⟩

theorem fetch_bracket {breaks : List Char} (h : ∀ c ∈ breaks, isBreak c) :
    (ofText (breaks ++ ['['])).fetch >>= refreshPlaces =
      .ok (behindBracket ⟨breaks.length, lineEnds breaks, 0⟩) := by
  have skipped := skipToToken_lineEnds (s := ofText (breaks ++ ['['])) rfl rfl h 1 0 0
  rw [Nat.zero_add, Nat.zero_add] at skipped
  have fuel : (ofText (breaks ++ ['['])).cursor.rest.length + 1 = breaks.length + 1 + 1 := by
    show (breaks ++ ['[']).length + 1 = _
    rw [List.length_append, List.length_singleton]
  unfold fetch
  rw [fuel]
  -- the cursor is written out, to be exchanged for the one at the bracket
  show (do
    let s ← (skipToToken (breaks.length + 1 + 1)
      { ofText (breaks ++ ['[']) with cursor := ⟨breaks ++ ['['], ⟨0, 0, 0⟩⟩ }).refreshPlaces
    _) >>= refreshPlaces = _
  rw [skipped]
  simp [ofText, refreshPlaces, refresh, closeBlocks, inFlow, closeBlocks.go, mark, Cursor.peek,
    Cursor.atMarker, Cursor.isAt, Cursor.ahead, fetchOpening, savePlace, dropPlace, addTo,
    Cursor.skip, bind, Except.bind, pure, Except.pure, behindBracket, Mark.nextColumn]

theorem fetch_behindBracket (m : Mark) :
    (behindBracket m).fetch >>= refreshPlaces =
      .ok { behindBracket m with
        cursor := ⟨[], endBehind m⟩, keyAllowed := false, places := [none], finished := true
        held :=
          [⟨.flowSequenceStart, m, m.nextColumn⟩, ⟨.textEnd, endBehind m, endBehind m⟩] } := by
  unfold fetch
  simp [behindBracket, endBehind, skipToToken, Cursor.isAt, Cursor.peek, Cursor.skipWhile,
    Cursor.span, Cursor.span.go, Cursor.nextIs, refreshPlaces, refresh, closeBlocks, inFlow, mark,
    fetchEnd, dropPlace, addEmpty, bind, Except.bind, pure, Except.pure, Mark.nextColumn]

theorem tokens_bracket {breaks : List Char} (h : ∀ c ∈ breaks, isBreak c) :
    let m : Mark := ⟨breaks.length, lineEnds breaks, 0⟩
    tokens (breaks ++ ['[']) =
      ([⟨.textStart, Mark.start, Mark.start⟩, ⟨.flowSequenceStart, m, m.nextColumn⟩,
        ⟨.textEnd, endBehind m, endBehind m⟩], none) := by
  intro m
  have fuel : (breaks ++ ['[']).length + 2 = breaks.length + 1 + 1 + 1 := by
    rw [List.length_append, List.length_singleton]
  rw [tokens, fuel, run, fetch_bracket h]
  show run _ (behindBracket m) = _
  rw [run, fetch_behindBracket]
  rfl

end Scanner

/-- The content of the bracket is missed at the end of the text. -/
theorem value_openBracket {breaks : List Char} (h : ∀ c ∈ breaks, isBreak c) :
    let m := Scanner.endBehind ⟨breaks.length, lineEnds breaks, 0⟩
    (Document.ofText (breaks ++ ['['])).value =
      .error (.syntaxProblem ⟨.noContent, m, some (.flowNode, m)⟩) := by
  intro m
  rw [Document.ofText, Scanner.tokens_bracket h]
  rfl

theorem valueOf_openBracket {breaks : List Char} (h : ∀ c ∈ breaks, isBreak c) :
    let m := Scanner.endBehind ⟨breaks.length, lineEnds breaks, 0⟩
    valueOf (breaks ++ ['[']) = .error (.syntaxProblem ⟨.noContent, m, some (.flowNode, m)⟩) := by
  intro m
  -- no line end is a control character that is refused at once
  have allowed : (breaks ++ ['[']).dropWhile isAllowed = [] := by
    rw [List.dropWhile_eq_nil_iff]
    intro c hc
    rcases List.mem_append.mp hc with hc | hc
    · rcases isBreak_cases (h c hc) with rfl | rfl | rfl | rfl | rfl
      all_goals decide
    · rw [List.mem_singleton.mp hc]
      decide
  rw [valueOf, allowed]
  exact value_openBracket h

/-! ### The line of an error -/

theorem Failure.line_pos {f : Failure} {loc : Location} (h : f.location = some loc) :
    1 ≤ loc.line := by
  cases f <;> cases h <;> exact Nat.succ_pos _

theorem decode_line {text : String} {e : DecodeError} {loc : Location}
    (failed : decode text = .error e) (located : e.location = some loc) :
    1 ≤ loc.line ∧ loc.line ≤ Markdown.lineCount text.toList + foreignBreaks text.toList + 1 := by
  unfold decode at failed
  split at failed
  · next f value =>
    cases failed
    have behind : loc.line ≤ lineEnds text.toList + 1 + 1 := located_valueOf value loc located
    rw [lineEnds_eq] at behind
    exact ⟨Failure.line_pos located, behind⟩
  · split at failed
    · cases failed
    · -- what is wrong with a key has no location
      cases failed
      cases located

/-- The text of some line feeds and some foreign line ends, with an open bracket behind them. -/
def overrun (lines foreign : Nat) : List Char :=
  List.replicate lines '\n' ++ List.replicate foreign '\u0085' ++ ['[']

theorem lineEnds_replicate {c : Char} (h : isBreak c) (other : c ≠ '\r') (n : Nat)
    (rest : List Char) : lineEnds (List.replicate n c ++ rest) = n + lineEnds rest := by
  induction n with
  | zero => exact (Nat.zero_add _).symm
  | succ n ih =>
    rw [List.replicate_succ, List.cons_append,
      lineEnds_of_break h fun _ carriage => absurd carriage other, ih]
    omega

theorem lineEnds_overrun (lines foreign : Nat) (rest : List Char) :
    lineEnds (List.replicate lines '\n' ++ List.replicate foreign '\u0085' ++ rest) =
      lines + foreign + lineEnds rest := by
  rw [List.append_assoc, lineEnds_replicate (by decide) (by decide),
    lineEnds_replicate (by decide) (by decide), Nat.add_assoc]

theorem foreignBreaks_overrun (lines foreign : Nat) :
    foreignBreaks (overrun lines foreign) = foreign := by
  simp [foreignBreaks, overrun, isForeignBreak, List.countP_replicate]

theorem lineCount_overrun (lines foreign : Nat) :
    Markdown.lineCount (overrun lines foreign) = lines + 1 := by
  have whole := lineEnds_eq (overrun lines foreign)
  have none : lineEnds ['['] = 0 := rfl
  rw [foreignBreaks_overrun, overrun, lineEnds_overrun, none] at whole
  rw [overrun]
  omega

/-- The error is in the line behind the last one, as YAML counts them. -/
theorem decode_overrun (lines foreign : Nat) :
    ∃ message, decode (String.ofList (overrun lines foreign)) =
      .error ⟨message, some (.inText (lines + 1 + foreign + 1) 1)⟩ := by
  have breaks : ∀ c ∈ List.replicate lines '\n' ++ List.replicate foreign '\u0085', isBreak c := by
    intro c hc
    rcases List.mem_append.mp hc with hc | hc
    · rw [List.eq_of_mem_replicate hc]
      decide
    · rw [List.eq_of_mem_replicate hc]
      decide
  have ends := lineEnds_overrun lines foreign []
  rw [List.append_nil] at ends
  have line : lines + foreign + lineEnds [] + 1 + 1 = lines + 1 + foreign + 1 := by
    have none : lineEnds [] = 0 := rfl
    omega
  rw [decode, String.toList_ofList, overrun, valueOf_openBracket breaks, ends, ← line]
  exact ⟨_, rfl⟩

end Yaml

/-! ### The lines of all errors -/

/-- The lines in which errors are reported, over all texts of so many lines of Markdown with so
many foreign line ends. -/
def Yaml.errorLines (lines foreign : Nat) : Set Nat :=
  {line | ∃ text e loc, Markdown.lineCount text.toList = lines ∧
    foreignBreaks text.toList = foreign ∧ decode text = .error e ∧
    e.location = some loc ∧ loc.line = line}

/-- The same for blocks at a place of a document: the lines of the document. -/
def Registry.yamlErrorLines (r : Registry) (span : Markdown.Span) (lines foreign : Nat) : Set Nat :=
  {line | ∃ value tag message loc, Markdown.lineCount value.toList = lines ∧
    Yaml.foreignBreaks value.toList = foreign ∧
    (r.decodeBlock ⟨.yaml, value, some span⟩).2 = .error (.decode tag message (some loc)) ∧
    loc.line = line}

/-- The line of the opening fence is added to the line in the block. -/
theorem Registry.yamlErrorLines_eq {r : Registry} (found : r.find? .yaml = some Yaml.decode)
    (span : Markdown.Span) (lines foreign : Nat) :
    r.yamlErrorLines span lines foreign =
      Set.image (· + span.start.line) (Yaml.errorLines lines foreign) := by
  ext line
  constructor
  · rintro ⟨value, tag, message, loc, count, foreigns, failed, rfl⟩
    obtain ⟨decoder, failure, found', refused, same⟩ := decodeBlock_error failed
    obtain rfl : Yaml.decode = decoder := Option.some.inj (found.symm.trans found')
    rw [Error.decode.injEq] at same
    rcases own : failure.location with _ | inBlock
    · rw [own] at same
      cases same.2.2
    · rw [own] at same
      cases same.2.2
      exact ⟨inBlock.line, ⟨value, failure, inBlock, count, foreigns, refused, own, rfl⟩, rfl⟩
  · rintro ⟨_, ⟨value, failure, loc, count, foreigns, refused, own, rfl⟩, rfl⟩
    have failed := (Decoding.refused (b := ⟨.yaml, value, some span⟩) found refused).eq
    rw [own] at failed
    exact ⟨value, _, _, _, count, foreigns, congrArg Prod.snd failed, rfl⟩

namespace Yaml

variable {lines foreign line : Nat}

theorem pos_of_mem_errorLines (h : line ∈ errorLines lines foreign) : 1 ≤ line := by
  obtain ⟨text, e, loc, -, -, failed, located, rfl⟩ := h
  exact (decode_line failed located).1

theorem le_of_mem_errorLines (h : line ∈ errorLines lines foreign) :
    line ≤ lines + foreign + 1 := by
  obtain ⟨text, e, loc, rfl, rfl, failed, located, rfl⟩ := h
  exact (decode_line failed located).2

theorem isGreatest_errorLines (lines foreign : Nat) :
    IsGreatest (errorLines (lines + 1) foreign) (lines + 1 + foreign + 1) := by
  refine ⟨?_, fun line => le_of_mem_errorLines⟩
  obtain ⟨message, failed⟩ := decode_overrun lines foreign
  refine ⟨String.ofList (overrun lines foreign), _, _, ?_, ?_, failed, rfl, rfl⟩
  · rw [String.toList_ofList]
    exact lineCount_overrun lines foreign
  · rw [String.toList_ofList]
    exact foreignBreaks_overrun lines foreign

end Yaml

/-- YAML errors and the lines of a document.  For texts of `lines + 1` lines of Markdown with
`foreign` foreign line ends, errors are reported in the first line or below, and down to
`foreign` lines below the line behind the last one.  So they stay in the text and the line
behind it if and only if there are no foreign line ends.  The same holds for the blocks at a
place of a document: errors are reported below the opening fence, and not below the closing
fence if and only if there are no foreign line ends. -/
theorem yaml_error_lines (lines foreign : Nat) :
    ((∀ line ∈ Yaml.errorLines (lines + 1) foreign, 1 ≤ line) ∧
      IsGreatest (Yaml.errorLines (lines + 1) foreign) (lines + 1 + foreign + 1) ∧
      ((∀ line ∈ Yaml.errorLines (lines + 1) foreign, line ≤ lines + 1 + 1) ↔ foreign = 0)) ∧
    ∀ (r : Registry) (span : Markdown.Span), r.find? .yaml = some Yaml.decode →
      (∀ line ∈ r.yamlErrorLines span (lines + 1) foreign, span.start.line < line) ∧
      IsGreatest (r.yamlErrorLines span (lines + 1) foreign)
        (lines + 1 + foreign + 1 + span.start.line) ∧
      ((∀ line ∈ r.yamlErrorLines span (lines + 1) foreign,
        line ≤ span.start.line + (lines + 1) + 1) ↔ foreign = 0) := by
  have greatest := Yaml.isGreatest_errorLines lines foreign
  refine ⟨⟨fun line => Yaml.pos_of_mem_errorLines, greatest, ?_⟩, ?_⟩
  · refine (isLUB_le_iff greatest.isLUB).symm.trans ?_
    omega
  · intro r span found
    have shift : Monotone (· + span.start.line) := fun _ _ h => Nat.add_le_add_right h _
    have shifted := shift.map_isGreatest greatest
    rw [r.yamlErrorLines_eq found span]
    refine ⟨?_, shifted, (isLUB_le_iff shifted.isLUB).symm.trans ?_⟩
    · rintro _ ⟨line, h, rfl⟩
      have := Yaml.pos_of_mem_errorLines h
      show span.start.line < line + span.start.line
      omega
    · show lines + 1 + foreign + 1 + span.start.line ≤ _ ↔ _
      omega

/-- One next line character, in a text of one line: the bracket is missed in line three, and
below the closing fence of a block. -/
theorem yaml_error_lines_of_next_line :
    3 ∈ Yaml.errorLines 1 1 ∧ (3 ≤ 1 + 1 + 1 ∧ ¬ ∀ line ∈ Yaml.errorLines 1 1, line ≤ 1 + 1) ∧
      ¬ ∀ line ∈ Registry.builtin.yamlErrorLines ⟨⟨1, 1, 0⟩, ⟨3, 4, 20⟩⟩ 1 1, line ≤ 1 + 1 + 1 := by
  have found : (match Yaml.decode "a: 1\u0085b: [" with
      | .error e => e.location
      | .ok _ => none) = some (.inText 3 1) := by decide +kernel
  obtain ⟨⟨-, greatest, inText⟩, blocks⟩ := yaml_error_lines 0 1
  have reported : 3 ∈ Yaml.errorLines 1 1 := by
    split at found
    · next e failed =>
      exact ⟨"a: 1\u0085b: [", e, _, by decide +kernel, by decide +kernel, failed, found, rfl⟩
    · cases found
  obtain ⟨-, -, inBlock⟩ := blocks Registry.builtin ⟨⟨1, 1, 0⟩, ⟨3, 4, 20⟩⟩ rfl
  refine ⟨reported, ⟨greatest.2 reported, fun all => ?_⟩, fun all => ?_⟩
  · exact absurd (inText.mp all) (by decide)
  · exact absurd (inBlock.mp all) (by decide)

end Frontmatter
