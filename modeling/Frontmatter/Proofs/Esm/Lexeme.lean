/-
Frontmatter/Proofs/Esm/Lexeme.lean

Which tokens a text begins with.

`Lexer.next` reads one token, at any offset and with any bound that is large
enough.  A text *lexes* to a list of tokens (`Lexer.Lexes`) if reading on and on
shows these tokens, whatever the offset and the bound are, and notes nothing.
Each token comes with whether a line ended before it.  Longer and longer
beginnings of a text are put together (`Lexer.LexesTo`) from single tokens, with
gaps before them.

The tokens themselves are read by `Lexer.tokenAt`, after the gap before them:
words (`tokenAt_word`), punctuators (`tokenAt_lone`), quoted strings
(`tokenAt_quote`).
-/
import Frontmatter.Proofs.Data.Literal
import Frontmatter.Proofs.Text.Location
import Frontmatter.Proofs.Text.WordChar

namespace Frontmatter.Esm

/-- A token, and whether a line ended before it. -/
abbrev Seen := Token × Bool

namespace Lexer

/-- The lexeme and the ones after it are the given tokens, without a problem.
Nothing is said about what follows them. -/
def Lexeme.Shows (bound : Nat) : Lexeme → List Seen → Prop
  | _, [] => True
  | l, (t, newline) :: ts =>
    l.token = t ∧ l.newline = newline ∧ l.problems = [] ∧
      Shows bound (next bound l.rest l.stop false) ts

/-- The text lexes to the given tokens, and perhaps more.  `newline` says that
a line ended just before the text. -/
def Lexes (newline : Bool) (cs : List Char) (ts : List Seen) : Prop :=
  ∀ bound pos, cs.length < bound → (next bound cs pos newline).Shows bound ts

/-- The text begins with the given tokens, and `rest` follows them: it shows
them, and after them whatever `rest` shows. -/
structure LexesTo (newline : Bool) (cs : List Char) (ts : List Seen) (rest : List Char) : Prop where
  shorter : rest.length ≤ cs.length
  shows : ∀ bound pos, cs.length < bound → ∃ stop, ∀ us,
    (next bound rest stop false).Shows bound us → (next bound cs pos newline).Shows bound (ts ++ us)

/-- After the given tokens the text has a bad one. -/
def Breaks (newline : Bool) (cs : List Char) (ts : List Seen) : Prop :=
  ∀ bound pos, cs.length < bound →
    ∃ p nl, (next bound cs pos newline).Shows bound (ts ++ [(.bad p, nl)])

theorem Lexes.nil (newline : Bool) (cs : List Char) : Lexes newline cs [] := fun _ _ _ => trivial

/-! ### Gaps -/

/-- Blanks and line feeds. -/
def IsGap (gap : List Char) : Prop := ∀ c ∈ gap, c = ' ' ∨ c = '\n'

/-- A text that begins with a token at once: with no gap, no comment, and no
conflict marker. -/
structure Solid (newline : Bool) (cs : List Char) : Prop where
  head : ∀ c ∈ cs.head?, isBlank c = false ∧ isLineEnd c = false ∧ c ≠ '/'
  noLegacy : legacyComment? newline cs = none
  noMarker : (newline && isConflictMarker cs) = false

theorem skipGap_blank {c : Char} (h : isBlank c = true) (fuel : Nat) (cs : List Char) (pos : Nat)
    (newline : Bool) :
    skipGap (fuel + 1) (c :: cs) pos newline = skipGap fuel cs (pos + c.utf8Size) newline :=
  if_pos h

theorem skipGap_lineEnd {c : Char} (h : isBlank c = false) (h' : isLineEnd c = true) (fuel : Nat)
    (cs : List Char) (pos : Nat) (newline : Bool) :
    skipGap (fuel + 1) (c :: cs) pos newline = skipGap fuel cs (pos + c.utf8Size) true :=
  (if_neg (by rw [h]; exact Bool.false_ne_true)).trans (if_pos h')

theorem skipGap_stop {c : Char} (h : isBlank c = false) (h' : isLineEnd c = false) (hc : c ≠ '/')
    (fuel : Nat) (cs : List Char) (pos : Nat) (newline : Bool) :
    skipGap (fuel + 1) (c :: cs) pos newline = ⟨c :: cs, pos, newline, none⟩ :=
  (if_neg (by rw [h]; exact Bool.false_ne_true)).trans
    ((if_neg (by rw [h']; exact Bool.false_ne_true)).trans (if_neg hc))

theorem skipGap_solid {cs : List Char}
    (h : ∀ c ∈ cs.head?, isBlank c = false ∧ isLineEnd c = false ∧ c ≠ '/') (fuel pos : Nat)
    (newline : Bool) : skipGap fuel cs pos newline = ⟨cs, pos, newline, none⟩ := by
  cases fuel with
  | zero => rfl
  | succ fuel =>
    cases cs with
    | nil => rfl
    | cons c cs =>
      obtain ⟨h₁, h₂, h₃⟩ := h c rfl
      exact skipGap_stop h₁ h₂ h₃ fuel cs pos newline

theorem skipGap_gap {gap cs : List Char} (hgap : IsGap gap)
    (h : ∀ c ∈ cs.head?, isBlank c = false ∧ isLineEnd c = false ∧ c ≠ '/') :
    ∀ (fuel pos : Nat) (newline : Bool), gap.length < fuel →
      skipGap fuel (gap ++ cs) pos newline
        = ⟨cs, pos + gap.length, newline || gap.contains '\n', none⟩ := by
  -- by induction on the gap; that a line has ended is remembered from then on
  induction gap with
  | nil =>
    intro fuel pos newline _
    simpa using skipGap_solid h fuel pos newline
  | cons c gap ih =>
    intro fuel pos newline hf
    obtain ⟨fuel, rfl⟩ : ∃ n, fuel = n + 1 := ⟨fuel - 1, by simp at hf; omega⟩
    have hf' : gap.length < fuel := by simpa using hf
    have hgap' : IsGap gap := fun d hd => hgap d (List.mem_cons_of_mem c hd)
    have step : skipGap (fuel + 1) (c :: gap ++ cs) pos newline
        = skipGap fuel (gap ++ cs) (pos + 1) (newline || c == '\n') := by
      rcases hgap c List.mem_cons_self with rfl | rfl
      · rw [List.cons_append, skipGap_blank (by decide)]
        simp [show ' '.utf8Size = 1 by decide]
      · rw [List.cons_append, skipGap_lineEnd (by decide) (by decide)]
        simp [show '\n'.utf8Size = 1 by decide]
    rw [step, ih hgap' fuel _ _ hf', List.contains_cons, List.length_cons, Bool.or_assoc,
      Nat.add_assoc, Nat.add_comm 1, BEq.comm]

/-- What a text begins with, read by `tokenAt` with any fuel and at any offset. -/
structure TokenAt (cs : List Char) (t : Token) (after : List Char) : Prop where
  shorter : after.length ≤ cs.length
  token : ∀ fuel pos, cs.length < fuel → (tokenAt fuel cs pos).token = t
  problems : ∀ fuel pos, cs.length < fuel → (tokenAt fuel cs pos).problems = []
  rest : ∀ fuel pos, cs.length < fuel → (tokenAt fuel cs pos).rest = after

/-- The next token of a text stands after the gap. -/
theorem next_gap {gap cs : List Char} {newline : Bool} (hgap : IsGap gap)
    (hcs : Solid (newline || gap.contains '\n') cs) {bound : Nat} (pos : Nat)
    (hb : (gap ++ cs).length < bound) :
    next bound (gap ++ cs) pos newline =
      ⟨(tokenAt bound cs (pos + gap.length)).token, pos + gap.length,
        (tokenAt bound cs (pos + gap.length)).pos, newline || gap.contains '\n', cs,
        (tokenAt bound cs (pos + gap.length)).rest,
        (tokenAt bound cs (pos + gap.length)).problems⟩ := by
  obtain ⟨fuel, rfl⟩ : ∃ n, bound = n + 1 := ⟨bound - 1, by omega⟩
  have hlt : gap.length < fuel + 1 := by simp at hb; omega
  rw [next, token, skipGap_gap hgap hcs.head (fuel + 1) pos newline hlt]
  simp only [hcs.noLegacy, hcs.noMarker]
  simp

/-- Without a gap the next token stands in front. -/
theorem next_solid {cs : List Char} {newline : Bool} (hcs : Solid newline cs) {bound : Nat}
    (pos : Nat) (hb : cs.length < bound) :
    next bound cs pos newline =
      ⟨(tokenAt bound cs pos).token, pos, (tokenAt bound cs pos).pos, newline, cs,
        (tokenAt bound cs pos).rest, (tokenAt bound cs pos).problems⟩ := by
  have noGap : IsGap [] := fun c hc => nomatch hc
  have hcs' : Solid (newline || [].contains '\n') cs := by simpa using hcs
  simpa using next_gap noGap hcs' pos hb

/-- A gap in front of a token moves it, and no more. -/
theorem next_gap_eq {gap cs : List Char} {newline : Bool} (hgap : IsGap gap)
    (hcs : Solid (newline || gap.contains '\n') cs) {bound : Nat} (pos : Nat)
    (hb : (gap ++ cs).length < bound) :
    next bound (gap ++ cs) pos newline
      = next bound cs (pos + gap.length) (newline || gap.contains '\n') := by
  have hb' : cs.length < bound := by
    rw [List.length_append] at hb
    omega
  rw [next_gap hgap hcs pos hb, next_solid hcs _ hb']

theorem LexesTo.tokenAt {cs rest : List Char} {t : Token} {newline : Bool}
    (hcs : Solid newline cs) (ht : TokenAt cs t rest) :
    LexesTo newline cs [(t, newline)] rest := by
  refine ⟨ht.shorter, fun bound pos hb => ?_⟩
  refine ⟨(Lexer.tokenAt bound cs pos).pos, fun us h => ?_⟩
  rw [next_solid hcs pos hb]
  refine ⟨ht.token _ _ hb, rfl, ht.problems _ _ hb, ?_⟩
  rw [ht.rest _ _ hb]
  exact h

theorem LexesTo.gap {gap cs rest : List Char} {ts : List Seen} {newline : Bool}
    (hgap : IsGap gap) (hcs : Solid (newline || gap.contains '\n') cs)
    (h : LexesTo (newline || gap.contains '\n') cs ts rest) :
    LexesTo newline (gap ++ cs) ts rest := by
  refine ⟨Nat.le_trans h.shorter (by simp), fun bound pos hb => ?_⟩
  rw [next_gap_eq hgap hcs pos hb]
  refine h.shows bound _ ?_
  rw [List.length_append] at hb
  omega

theorem LexesTo.refl (cs : List Char) : LexesTo false cs [] cs :=
  ⟨Nat.le_refl _, fun _ pos _ => ⟨pos, fun _ h => h⟩⟩

theorem LexesTo.trans {cs mid rest : List Char} {ts us : List Seen} {newline : Bool}
    (h : LexesTo newline cs ts mid) (h' : LexesTo false mid us rest) :
    LexesTo newline cs (ts ++ us) rest := by
  refine ⟨Nat.le_trans h'.shorter h.shorter, fun bound pos hb => ?_⟩
  obtain ⟨stop, shows⟩ := h.shows bound pos hb
  obtain ⟨stop', shows'⟩ := h'.shows bound stop (Nat.lt_of_le_of_lt h.shorter hb)
  refine ⟨stop', fun vs hvs => ?_⟩
  rw [List.append_assoc]
  exact shows _ (shows' vs hvs)

theorem LexesTo.lexes {cs rest : List Char} {ts us : List Seen} {newline : Bool}
    (h : LexesTo newline cs ts rest) (h' : Lexes false rest us) : Lexes newline cs (ts ++ us) := by
  intro bound pos hb
  obtain ⟨stop, shows⟩ := h.shows bound pos hb
  exact shows us (h' bound stop (Nat.lt_of_le_of_lt h.shorter hb))

theorem LexesTo.breaks {cs rest : List Char} {ts us : List Seen} {newline : Bool}
    (h : LexesTo newline cs ts rest) (h' : Breaks false rest us) :
    Breaks newline cs (ts ++ us) := by
  intro bound pos hb
  obtain ⟨stop, shows⟩ := h.shows bound pos hb
  obtain ⟨p, nl, hp⟩ := h' bound stop (Nat.lt_of_le_of_lt h.shorter hb)
  refine ⟨p, nl, ?_⟩
  rw [List.append_assoc]
  exact shows _ hp

/-! ### Where a token may begin -/

/-- The characters with which something else than a token may begin. -/
def doubtful : List Char := ['/', '<', '-', '=', '>']

theorem legacyComment?_of_ne {c : Char} (h₁ : c ≠ '<') (h₂ : c ≠ '-') (newline : Bool)
    (cs : List Char) : legacyComment? newline (c :: cs) = none := by
  unfold legacyComment?
  split
  · next heq => cases heq; exact absurd rfl h₁
  · next heq => cases heq; exact absurd rfl h₂
  · rfl

theorem isConflictMarker_of_ne {c : Char} (h₁ : c ≠ '<') (h₂ : c ≠ '=') (h₃ : c ≠ '>')
    (cs : List Char) : isConflictMarker (c :: cs) = false := by
  simp [isConflictMarker, afterText?, h₁.symm, h₂.symm, h₃.symm]

theorem Solid.of_head {c : Char} (h₁ : isBlank c = false) (h₂ : isLineEnd c = false)
    (h₃ : c ∉ doubtful) (newline : Bool) (cs : List Char) : Solid newline (c :: cs) := by
  simp only [doubtful, List.mem_cons, List.not_mem_nil, or_false, not_or] at h₃
  obtain ⟨hs, hl, hm, he, hg⟩ := h₃
  refine ⟨?_, legacyComment?_of_ne hl hm newline cs, ?_⟩
  · intro d hd
    cases hd
    exact ⟨h₁, h₂, hs⟩
  · rw [isConflictMarker_of_ne hl he hg, Bool.and_false]

/-- Where no line has ended, an equals sign begins no conflict marker. -/
theorem Solid.equals (cs : List Char) : Solid false ('=' :: cs) := by
  refine ⟨?_, legacyComment?_of_ne (by decide) (by decide) false cs, rfl⟩
  intro d hd
  cases hd
  decide

/-- A minus sign begins no comment, unless another one follows. -/
theorem Solid.minus {c : Char} (hc : c ≠ '-') (cs : List Char) : Solid false ('-' :: c :: cs) := by
  refine ⟨?_, ?_, rfl⟩
  · intro d hd
    cases hd
    decide
  · unfold legacyComment?
    split
    · next heq => cases heq
    · next heq => cases heq; exact absurd rfl hc
    · rfl

theorem Solid.nil (newline : Bool) : Solid newline [] := by
  refine ⟨?_, rfl, ?_⟩
  · intro d hd
    cases hd
  · cases newline <;> decide

theorem tokenAt_nil : TokenAt [] .eof [] :=
  ⟨Nat.le_refl 0, fun _ _ _ => rfl, fun _ _ _ => rfl, fun _ _ _ => rfl⟩

/-- After the last gap a text lexes to its end, again and again. -/
theorem Lexes.end {gap : List Char} (hgap : IsGap gap) (n : Nat) :
    Lexes false gap ((.eof, gap.contains '\n') :: List.replicate n (.eof, false)) := by
  have ends : Lexes false [] (List.replicate n (.eof, false)) := by
    induction n with
    | zero => exact Lexes.nil false []
    | succ n ih => exact (LexesTo.tokenAt (Solid.nil false) tokenAt_nil).lexes ih
  have h := (LexesTo.gap hgap (Solid.nil (false || gap.contains '\n'))
    (LexesTo.tokenAt (Solid.nil _) tokenAt_nil)).lexes ends
  rw [List.append_nil, Bool.false_or] at h
  exact h

/-! ### Words -/

/-- The characters of a word. -/
def isWordText : List Char → Bool
  | [] => false
  | c :: cs => isWordStart c && cs.all isWordPart

theorem wordPart_ne_backslash {c : Char} (h : isWordPart c = true) : c ≠ '\\' := by
  rintro rfl
  revert h
  decide

/-- The text does not go on with a word. -/
def EndsWord (cs : List Char) : Prop := ∀ c ∈ cs.head?, isWordPart c = false ∧ c ≠ '\\'

/-- A character of a word is read as it stands. -/
theorem wordBody_cons {c : Char} (hc : c ≠ '\\') (fuel : Nat) (cs : List Char) (pos : Nat)
    {s : Word} (h : (if s.chars.isEmpty then isWordStart c else isWordPart c) = true) :
    wordBody (fuel + 1) (c :: cs) pos s
      = wordBody fuel cs (pos + c.utf8Size) { s with chars := c :: s.chars } :=
  (if_neg hc).trans (if_pos h)

/-- Inside a word, reading takes all its characters. -/
theorem wordBody_append {w cs : List Char} (hw : w.all isWordPart = true) (hcs : EndsWord cs) :
    ∀ (fuel pos : Nat) (s : Word), s.chars ≠ [] → w.length < fuel →
      wordBody fuel (w ++ cs) pos s
        = { s with chars := w.reverse ++ s.chars, rest := cs, pos := pos + byteLength w } := by
  -- the first character has been read before, so every further one may be any part of a word
  induction w with
  | nil =>
    intro fuel pos s hs hf
    obtain ⟨fuel, rfl⟩ : ∃ n, fuel = n + 1 := ⟨fuel - 1, by omega⟩
    cases cs with
    | nil => simp [wordBody, byteLength]
    | cons c cs =>
      obtain ⟨h₁, h₂⟩ := hcs c rfl
      simp [wordBody, byteLength, h₁, h₂, hs]
  | cons c w ih =>
    intro fuel pos s hs hf
    obtain ⟨fuel, rfl⟩ : ∃ n, fuel = n + 1 := ⟨fuel - 1, by omega⟩
    rw [List.all_cons, Bool.and_eq_true] at hw
    have hne := wordPart_ne_backslash hw.1
    have hf' : w.length < fuel := by simpa using hf
    have hs' : (if s.chars.isEmpty then isWordStart c else isWordPart c) = true := by
      simp [hs, hw.1]
    rw [List.cons_append, wordBody_cons hne fuel _ _ hs', ih hw.2 fuel _ _ (by simp) hf']
    simp [byteLength, Nat.add_assoc]

theorem readWord_append {w cs : List Char} (hw : isWordText w = true) (hcs : EndsWord cs)
    {fuel : Nat} (pos : Nat) (hf : (w ++ cs).length < fuel) :
    readWord fuel (w ++ cs) pos = ⟨w, false, cs, pos + byteLength w, [], none⟩ := by
  cases w with
  | nil => cases hw
  | cons c w =>
    rw [isWordText, Bool.and_eq_true] at hw
    obtain ⟨fuel, rfl⟩ : ∃ n, fuel = n + 1 := ⟨fuel - 1, by omega⟩
    have hne := wordPart_ne_backslash (isWordPart_of_isWordStart hw.1)
    have hlt : w.length < fuel := by simp at hf; omega
    rw [readWord, List.cons_append, wordBody_cons hne fuel _ _ (by simpa using hw.1),
      wordBody_append hw.2 hcs fuel _ _ (by simp) hlt]
    simp [byteLength, Nat.add_assoc]

theorem isWordStart_not_isDigit {c : Char} (h : isWordStart c = true) : c.isDigit = false := by
  by_cases hc : c.toNat < 128
  · revert h
    exact forall_ascii (p := fun c => isWordStart c = true → c.isDigit = false)
      (by decide +kernel) hc
  · exact not_isDigit_of_le (by omega)

/-- What begins a word begins no string and no number. -/
theorem tokenAt_of_isWordStart {c : Char} (h : isWordStart c = true) (fuel : Nat) (cs : List Char)
    (pos : Nat) : tokenAt fuel (c :: cs) pos = word fuel (c :: cs) pos := by
  have h₁ : c ≠ '"' := by rintro rfl; revert h; decide
  have h₂ : c ≠ '\'' := by rintro rfl; revert h; decide
  have h₃ : c ≠ '.' := by rintro rfl; revert h; decide
  simp [tokenAt, h₁, h₂, h₃, isWordStart_not_isDigit h, h]

theorem tokenAt_word {w cs : List Char} (hw : isWordText w = true) (hcs : EndsWord cs) :
    TokenAt (w ++ cs) (.word (String.ofList w)) cs := by
  have read : ∀ fuel pos, (w ++ cs).length < fuel →
      tokenAt fuel (w ++ cs) pos = ⟨.word (String.ofList w), cs, pos + byteLength w, []⟩ := by
    intro fuel pos hf
    have hr := readWord_append hw hcs pos hf
    cases w with
    | nil => cases hw
    | cons c w =>
      rw [isWordText, Bool.and_eq_true] at hw
      rw [List.cons_append, tokenAt_of_isWordStart hw.1, ← List.cons_append, word, hr]
      simp
  refine ⟨by simp, ?_, ?_, ?_⟩
  all_goals
    intro fuel pos hf
    rw [read fuel pos hf]

/-! ### Punctuators -/

/-- The punctuators that are the beginning of no longer one. -/
def lonePunctuators : List (Char × String) :=
  [('[', "["), (']', "]"), ('{', "\x7b"), ('}', "\x7d"), ('(', "("), (')', ")"), (',', ","),
   (':', ":"), (';', ";")]

/-- A token that `tokenAt` reads in the same way at every offset. -/
theorem TokenAt.of_eq {cs rest : List Char} {t : Token} (stop : Nat → Nat)
    (h : ∀ fuel pos, cs.length < fuel → tokenAt fuel cs pos = ⟨t, rest, stop pos, []⟩)
    (hle : rest.length ≤ cs.length) : TokenAt cs t rest := by
  refine ⟨hle, ?_, ?_, ?_⟩
  all_goals
    intro fuel pos hf
    rw [h fuel pos hf]

theorem tokenAt_lone {c : Char} {text : String} (h : (c, text) ∈ lonePunctuators)
    (cs : List Char) : TokenAt (c :: cs) (.punct text) cs := by
  refine TokenAt.of_eq (· + 1) (fun fuel pos _ => ?_) (Nat.le_succ _)
  simp only [lonePunctuators, List.mem_cons, Prod.mk.injEq, List.not_mem_nil, or_false] at h
  rcases h with ⟨rfl, rfl⟩ | ⟨rfl, rfl⟩ | ⟨rfl, rfl⟩ | ⟨rfl, rfl⟩ | ⟨rfl, rfl⟩ | ⟨rfl, rfl⟩ |
    ⟨rfl, rfl⟩ | ⟨rfl, rfl⟩ | ⟨rfl, rfl⟩
  all_goals rfl

theorem tokenAt_equals (cs : List Char) :
    TokenAt ('=' :: ' ' :: cs) (.punct "=") (' ' :: cs) :=
  TokenAt.of_eq (· + 1) (fun _ _ _ => rfl) (Nat.le_succ _)

theorem tokenAt_fatArrow (cs : List Char) : TokenAt ('=' :: '>' :: cs) (.punct "=>") cs :=
  TokenAt.of_eq (· + 2) (fun _ _ _ => rfl) (Nat.le_add_right _ 2)

theorem tokenAt_minus {d : Char} (hd : d.isDigit = true) (cs : List Char) :
    TokenAt ('-' :: d :: cs) (.punct "-") (d :: cs) := by
  have h₁ : '-' ≠ d := by rintro rfl; revert hd; decide
  have h₂ : '=' ≠ d := by rintro rfl; revert hd; decide
  refine TokenAt.of_eq (· + 1) (fun fuel pos _ => ?_) (Nat.le_succ _)
  show punctuator ('-' :: d :: cs) pos = _
  simp [punctuator, punctuators, afterText?, h₁, h₂]
  rfl

/-- No punctuator begins with a character beyond 128. -/
theorem punctuator_of_le {c : Char} (hc : 128 ≤ c.toNat) (cs : List Char) (pos : Nat) :
    punctuator (c :: cs) pos = ⟨.bad ⟨pos, .unexpectedChar c⟩, cs, pos + c.utf8Size, []⟩ := by
  have ascii : ∀ p ∈ punctuators, (p.toList.head?.any fun d => d.toNat < 128) = true := by
    decide +kernel
  have differs : ∀ p ∈ punctuators, afterText? p.toList (c :: cs) = none := by
    intro p hp
    have hlt := ascii p hp
    cases e : p.toList with
    | nil =>
      rw [e] at hlt
      cases hlt
    | cons d ds =>
      rw [e] at hlt
      have hd : d.toNat < 128 := of_decide_eq_true hlt
      have hdc : d ≠ c := by rintro rfl; omega
      exact if_neg hdc
  have noneFound : (punctuators.findSome? fun p =>
      (afterText? p.toList (c :: cs)).map fun rest => (p, rest)) = none := by
    rw [List.findSome?_eq_none_iff]
    intro p hp
    rw [differs p hp]
    rfl
  rw [punctuator, noneFound]

/-- A character beyond 128 that begins no word begins no token at all. -/
theorem breaks_of_le {gap : List Char} {c : Char} (hgap : IsGap gap) (hc : 128 ≤ c.toNat)
    (hword : isWordStart c = false) (hblank : isBlank c = false) (hline : isLineEnd c = false)
    (newline : Bool) (cs : List Char) : Breaks newline (gap ++ c :: cs) [] := by
  intro bound pos hb
  have plain : ∀ d ∈ ['"', '\'', '.', '\\'] ++ doubtful, c ≠ d := by
    have small : ∀ d ∈ ['"', '\'', '.', '\\'] ++ doubtful, d.toNat < 128 :=
      forall_of_all (by decide)
    rintro d hd rfl
    have := small c hd
    omega
  have solid : Solid (newline || gap.contains '\n') (c :: cs) := by
    refine Solid.of_head hblank hline ?_ _ cs
    intro hd
    exact plain c (List.mem_append_right _ hd) rfl
  have bad : ∀ pos, tokenAt bound (c :: cs) pos
      = ⟨.bad ⟨pos, .unexpectedChar c⟩, cs, pos + c.utf8Size, []⟩ := by
    intro pos
    rw [← punctuator_of_le hc cs pos]
    simp [tokenAt, plain '"' (by decide), plain '\'' (by decide), plain '.' (by decide),
      plain '\\' (by decide), not_isDigit_of_le hc, hword]
  refine ⟨⟨pos + gap.length, .unexpectedChar c⟩, newline || gap.contains '\n', ?_⟩
  rw [next_gap hgap solid pos hb, bad]
  exact ⟨rfl, rfl, rfl, trivial⟩

/-! ### Strings -/

/-- The characters that take as many bytes as the beginning of a text are that
beginning. -/
theorem takeBytes_append (cs ds : List Char) : takeBytes (byteLength cs) (cs ++ ds) = cs := by
  induction cs with
  | nil =>
    cases ds with
    | nil => rfl
    | cons d ds =>
      have hd := d.utf8Size_pos
      have : ¬ d.utf8Size ≤ 0 := by omega
      simp [takeBytes, byteLength_nil, this]
  | cons c cs ih => simp [takeBytes, byteLength_cons, ih]

theorem digitOf?_hexDigit : ∀ n < 16, digitOf? 16 (hexDigit n) = some n := by decide

/-- An escape of four digits for a character that is no half of a pair. -/
theorem unicodeEscape_four {a b : Char} {x y : Nat} (ha : digitOf? 16 a = some x)
    (hb : digitOf? 16 b = some y) (hlt : x * 16 + y < 0xD800) (cs : List Char) (pos : Nat) :
    unicodeEscape ('0' :: '0' :: a :: b :: cs) pos
      = ⟨.chars [Char.ofNat (x * 16 + y)], cs, pos + 4, []⟩ := by
  have run : hexRun 4 ('0' :: '0' :: a :: b :: cs) = (x * 16 + y, 4, cs) := by
    have h₀ : digitOf? 16 '0' = some 0 := by decide
    simp [hexRun, hexRun.go, h₀, ha, hb]
  have chars : charsOf (x * 16 + y) = [Char.ofNat (x * 16 + y)] := by
    rw [charsOf, if_neg (by omega)]
  have notHigh : ¬ 0xD800 ≤ x * 16 + y := by omega
  rw [unicodeEscape]
  · rw [run]
    simp only [if_true, chars]
    split
    · simp [notHigh]
    · rfl
  · rintro body h
    cases h

/-- The escape of a character: what follows the backslash stands for it. -/
structure Escapes (escaped : List Char) (c : Char) : Prop where
  escape : ∀ (cs : List Char) (pos : Nat),
    escape false (escaped ++ cs) pos = ⟨.chars [c], cs, pos + 1 + byteLength escaped, []⟩

theorem Escapes.letter {letter c : Char} (stands : (letter, c) ∈ escapeLetters) :
    Escapes [letter] c := by
  simp only [escapeLetters, List.mem_cons, Prod.mk.injEq, List.not_mem_nil, or_false] at stands
  rcases stands with ⟨rfl, rfl⟩ | ⟨rfl, rfl⟩ | ⟨rfl, rfl⟩ | ⟨rfl, rfl⟩ | ⟨rfl, rfl⟩ | ⟨rfl, rfl⟩ |
    ⟨rfl, rfl⟩
  all_goals exact ⟨fun _ _ => rfl⟩

theorem Escapes.control {c : Char} (hc : c.toNat < 32) :
    Escapes ['u', '0', '0', hexDigit (c.toNat / 16), hexDigit (c.toNat % 16)] c := by
  refine ⟨fun cs pos => ?_⟩
  have ha := digitOf?_hexDigit (c.toNat / 16) (by omega)
  have hb := digitOf?_hexDigit (c.toNat % 16) (by omega)
  have hv : c.toNat / 16 * 16 + c.toNat % 16 = c.toNat := by omega
  have size : byteLength ['u', '0', '0', hexDigit (c.toNat / 16), hexDigit (c.toNat % 16)] = 5 := by
    have hex : ∀ n < 16, (hexDigit n).utf8Size = 1 := by decide
    have h₁ := hex (c.toNat / 16) (by omega)
    have h₂ := hex (c.toNat % 16) (by omega)
    simp [byteLength, h₁, h₂, show 'u'.utf8Size = 1 by decide, show '0'.utf8Size = 1 by decide]
  have key := unicodeEscape_four ha hb (by omega) cs (pos + 2)
  rw [hv, Char.ofNat_toNat] at key
  rw [size]
  exact key

theorem stringBody_close (q : Char) (start : Nat) (whole cs : List Char) (fuel pos : Nat)
    (value : List Char) (ps : List Problem) :
    stringBody q start whole (fuel + 1) (q :: cs) pos value ps
      = ⟨.str (String.ofList value.reverse) (spanText whole start (pos + 1)), cs, pos + 1, ps⟩ :=
  if_pos rfl

theorem stringBody_plain {q c : Char} (hq : c ≠ q) (hc : c ≠ '\\')
    (hl : (c = '\n' || c = '\r') = false) (start : Nat) (whole cs : List Char) (fuel pos : Nat)
    (value : List Char) (ps : List Problem) :
    stringBody q start whole (fuel + 1) (c :: cs) pos value ps
      = stringBody q start whole fuel cs (pos + c.utf8Size) (c :: value) ps :=
  (if_neg hq).trans ((if_neg hc).trans (if_neg (by rw [hl]; exact Bool.false_ne_true)))

theorem stringBody_escape {escaped : List Char} {c : Char} (h : Escapes escaped c) (start : Nat)
    (whole cs : List Char) (fuel pos : Nat) (value : List Char) :
    stringBody '"' start whole (fuel + 1) ('\\' :: (escaped ++ cs)) pos value []
      = stringBody '"' start whole fuel cs (pos + byteLength ('\\' :: escaped)) (c :: value)
          [] := by
  have notQuote : '\\' ≠ '"' := by decide
  rw [stringBody]
  simp only [if_neg notQuote, if_true, h.escape cs pos, byteLength_cons]
  rw [Nat.add_assoc]
  rfl

/-- Inside quotes a character is read back, whether it is escaped or not. -/
theorem stringBody_escapeChar (c : Char) (start : Nat) (whole cs : List Char) (fuel pos : Nat)
    (value : List Char) :
    stringBody '"' start whole (fuel + 1) (escapeChar c ++ cs) pos value []
      = stringBody '"' start whole fuel cs (pos + byteLength (escapeChar c)) (c :: value) [] := by
  have escaped := escaped_escapeChar c
  generalize escapeChar c = written at escaped ⊢
  cases escaped with
  | plain quote backslash visible =>
    have noBreak : (c = '\n' || c = '\r') = false := by
      simp only [Bool.or_eq_false_iff, decide_eq_false_iff_not]
      constructor
      all_goals
        rintro rfl
        revert visible
        decide
    rw [List.singleton_append, stringBody_plain quote backslash noBreak, byteLength_cons,
      byteLength_nil, Nat.add_zero]
  | letter stands => exact stringBody_escape (.letter stands) start whole cs fuel pos value
  | digits control => exact stringBody_escape (.control control) start whole cs fuel pos value

/-- The inside of a quoted string is read back up to the closing quote. -/
theorem stringBody_quoted (s : List Char) (start : Nat) (whole cs : List Char) :
    ∀ (fuel pos : Nat) (value : List Char), s.length < fuel →
      stringBody '"' start whole fuel (s.flatMap escapeChar ++ '"' :: cs) pos value []
        = ⟨.str (String.ofList (value.reverse ++ s))
            (spanText whole start (pos + byteLength (s.flatMap escapeChar) + 1)), cs,
            pos + byteLength (s.flatMap escapeChar) + 1, []⟩ := by
  induction s with
  | nil =>
    intro fuel pos value hf
    obtain ⟨fuel, rfl⟩ : ∃ n, fuel = n + 1 := ⟨fuel - 1, by omega⟩
    rw [List.flatMap_nil, List.nil_append, stringBody_close]
    simp [byteLength_nil]
  | cons c s ih =>
    intro fuel pos value hf
    obtain ⟨fuel, rfl⟩ : ∃ n, fuel = n + 1 := ⟨fuel - 1, by omega⟩
    have hf' : s.length < fuel := by simpa using hf
    rw [List.flatMap_cons, List.append_assoc, stringBody_escapeChar, ih fuel _ _ hf',
      byteLength_append]
    simp [Nat.add_assoc]

theorem tokenAt_quote (s : String) (cs : List Char) :
    TokenAt (quote s ++ cs) (.str s (String.ofList (quote s))) cs := by
  have read : ∀ fuel pos, (quote s ++ cs).length < fuel → tokenAt fuel (quote s ++ cs) pos
      = ⟨.str s (String.ofList (quote s)), cs, pos + byteLength (quote s), []⟩ := by
    intro fuel pos hf
    have hlen := length_le_flatMap_escapeChar s.toList
    have hq : byteLength (quote s) = 1 + byteLength (s.toList.flatMap escapeChar) + 1 := by
      simp [quote, byteLength_cons, byteLength_append, byteLength_nil,
        show '"'.utf8Size = 1 by decide, Nat.add_assoc]
    have hf' : s.toList.length < fuel := by
      simp only [quote, List.cons_append, List.length_cons, List.length_append] at hf
      omega
    show stringBody '"' pos (quote s ++ cs) fuel (s.toList.flatMap escapeChar ++ ['"'] ++ cs)
      (pos + 1) [] [] = _
    rw [List.append_assoc, List.singleton_append,
      stringBody_quoted s.toList pos (quote s ++ cs) cs fuel (pos + 1) [] hf']
    have hstop : pos + 1 + byteLength (s.toList.flatMap escapeChar) + 1
        = pos + byteLength (quote s) := by omega
    rw [hstop, spanText, Nat.add_sub_cancel_left, takeBytes_append]
    simp
  exact TokenAt.of_eq _ read (by simp)

end Lexer
end Frontmatter.Esm
