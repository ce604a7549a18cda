/-
Frontmatter/Proofs/Document/ExportSource.lean

Sources of the shape `export const name = value`.

The name has passed the check of export names (`isExportName`), and nothing
more is known of it.  If it is a word of the module language and neither `eval`
nor `arguments`, the source is read up to the value, and what the module is
depends on the value only (`parseChars_exportSource`).  In all other cases the
source is refused, whatever the value is (`parseChars_exportSource_error`):

* a name that is not made of identifier characters has one that begins no token
  (`breaks_exportSource`), and there the reading ends;
* `eval` and `arguments` are words that cannot be bound.

The check itself keeps out everything else: the words that are reserved
(`isBindable_of_isExportName`), and every character that would end the name and
begin something new.
-/
import Frontmatter.Proofs.Esm.Constant
import Frontmatter.Proofs.Esm.Export

namespace Frontmatter

open Esm Esm.Lexer Esm.Parse

/-- The words `export const`. -/
def exportConst : List Char := ['e', 'x', 'p', 'o', 'r', 't', ' ', 'c', 'o', 'n', 's', 't']

/-- A source that exports a constant, of which the part after the equals sign
is given. -/
def exportSource (name : String) (value : List Char) : List Char :=
  exportConst ++ ' ' :: (name.toList ++ ' ' :: '=' :: value)

variable {name : String} {value rest : List Char}

/-! ### Names -/

/-- A name that passes the check can be bound, with two exceptions. -/
theorem isBindable_of_isExportName (h : isExportName name = true) (h₁ : name ≠ "eval")
    (h₂ : name ≠ "arguments") : isBindable name = true := by
  rw [isExportName, Bool.and_eq_true, Bool.not_eq_true'] at h
  have reserved : ∀ w ∈ keywords ++ Read.strictWords, reservedWords.contains w = true := by
    decide +kernel
  have free : name ∉ keywords ++ Read.strictWords := by
    intro hw
    have := reserved name hw
    rw [h.1] at this
    cases this
  rw [List.mem_append, not_or] at free
  simp [isBindable, isKeyword, free.1, free.2, h₁, h₂]

theorem not_isBindable (h : name = "eval" ∨ name = "arguments") : isBindable name = false := by
  rcases h with rfl | rfl
  · decide
  · decide

/-- The characters of a name that passes the check. -/
theorem isNamePart_of_mem (h : isExportName name = true) :
    ∀ c ∈ name.toList, isNamePart c = true := by
  rw [isExportName, Bool.and_eq_true] at h
  obtain ⟨-, h⟩ := h
  intro c hc
  cases chars : name.toList with
  | nil =>
    rw [chars] at hc
    cases hc
  | cons d ds =>
    rw [chars] at h hc
    simp only [Bool.and_eq_true, List.all_eq_true] at h
    rcases List.mem_cons.mp hc with rfl | hc
    · exact isNamePart_of_isNameStart h.1
    · exact h.2 c hc

theorem isNameStart_of_head (h : isExportName name = true) :
    ∃ c cs, name.toList = c :: cs ∧ isNameStart c = true := by
  rw [isExportName, Bool.and_eq_true] at h
  cases chars : name.toList with
  | nil =>
    rw [chars] at h
    cases h.2
  | cons c cs =>
    rw [chars] at h
    have hc := h.2
    rw [Bool.and_eq_true] at hc
    exact ⟨c, cs, rfl, hc.1⟩

/-! ### The tokens up to the name -/

theorem isGap_blank : IsGap [' '] := fun _ hc => .inl (List.mem_singleton.mp hc)

theorem isGap_line : IsGap ['\n'] := fun _ hc => .inr (List.mem_singleton.mp hc)

/-- A blank before a token does not count. -/
theorem lexes_blank {cs : List Char} {ts : List Seen} (hcs : Solid false cs)
    (h : LexesTo false cs ts rest) : LexesTo false (' ' :: cs) ts rest :=
  LexesTo.gap isGap_blank hcs h

theorem endsWord_blank (rest : List Char) : EndsWord (' ' :: rest) :=
  (delimited_cons (by decide) rest).endsWord

theorem lexes_opening (rest : List Char) :
    LexesTo true (exportConst ++ ' ' :: rest)
      [(.word "export", true), (.word "const", false)] (' ' :: rest) := by
  have first := lexes_word 'e' ['x', 'p', 'o', 'r', 't'] true (by decide) (by decide)
    (endsWord_blank (['c', 'o', 'n', 's', 't'] ++ ' ' :: rest))
  have second := lexes_word 'c' ['o', 'n', 's', 't'] false (by decide) (by decide)
    (endsWord_blank rest)
  have solid : Solid false ('c' :: ['o', 'n', 's', 't'] ++ ' ' :: rest) :=
    Solid.of_head (by decide) (by decide) (by decide) false _
  exact first.trans (lexes_blank solid second)

/-- A word in the name, after the blank before it. -/
theorem lexes_name {w : List Char} (hw : isWordText w = true) (h : ∀ c ∈ w, isNamePart c = true)
    (hrest : EndsWord rest) :
    LexesTo false (' ' :: (w ++ rest)) [(.word (String.ofList w), false)] rest := by
  have solid : Solid false (w ++ rest) := by
    cases w with
    | nil => cases hw
    | cons c w =>
      have hc := h c List.mem_cons_self
      rw [isWordText, Bool.and_eq_true] at hw
      refine Solid.of_head (not_isBlank_of_isNamePart hc) (not_isLineEnd_of_isNamePart hc) ?_ _ _
      intro doubt
      have noStart : ∀ d ∈ doubtful, isWordStart d = false := forall_of_all (by decide)
      rw [noStart c doubt] at hw
      cases hw.1
  exact lexes_blank solid (LexesTo.tokenAt solid (tokenAt_word hw hrest))

/-- The tokens before the value. -/
def openingTokens (name : String) : List Seen :=
  [(.word "export", true), (.word "const", false), (.word name, false), (.punct "=", false)]

theorem lexes_exportSource (h : isExportName name = true) (hw : isWordText name.toList = true)
    (rest : List Char) :
    LexesTo true (exportSource name (' ' :: rest)) (openingTokens name) (' ' :: rest) := by
  have word := lexes_name hw (isNamePart_of_mem h) (endsWord_blank ('=' :: ' ' :: rest))
  rw [String.ofList_toList] at word
  have equals : LexesTo false (' ' :: '=' :: ' ' :: rest) [(.punct "=", false)] (' ' :: rest) :=
    lexes_blank (Solid.equals _) (LexesTo.tokenAt (Solid.equals _) (tokenAt_equals rest))
  exact ((lexes_opening _).trans word).trans equals

/-! ### Names that are no words -/

/-- A text that is no word has a character that does not go on with the word
before it. -/
theorem exists_break {cs : List Char} (hne : cs ≠ []) (h : isWordText cs = false) :
    ∃ w d rest, cs = w ++ d :: rest ∧ isWordStart d = false ∧
      (w = [] ∨ isWordText w = true ∧ isWordPart d = false) := by
  cases cs with
  | nil => exact absurd rfl hne
  | cons c cs =>
    by_cases hc : isWordStart c = true
    · rw [isWordText, hc, Bool.true_and] at h
      have outside : (cs.find? fun d => !isWordPart d).isSome := by
        simpa [List.find?_isSome] using h
      obtain ⟨d, found⟩ := Option.isSome_iff_exists.mp outside
      obtain ⟨hd, w, rest, rfl, hw⟩ := List.find?_eq_some_iff_append.mp found
      rw [Bool.not_eq_true'] at hd
      refine ⟨c :: w, d, rest, rfl, ?_, .inr ⟨?_, hd⟩⟩
      · refine Bool.eq_false_iff.mpr fun hs => ?_
        rw [isWordPart_of_isWordStart hs] at hd
        cases hd
      · rw [isWordText, hc, Bool.true_and, List.all_eq_true]
        intro x hx
        simpa using hw x hx
    · exact ⟨[], c, cs, rfl, Bool.eq_false_iff.mpr hc, .inl rfl⟩

theorem exportSource_of_split {w : List Char} {d : Char} (h : name.toList = w ++ d :: rest)
    (value : List Char) : exportSource name value
      = exportConst ++ ' ' :: (w ++ d :: (rest ++ ' ' :: '=' :: value)) := by
  rw [exportSource, h, List.append_assoc, List.cons_append]

/-- A name that is no word breaks the source, at its beginning or after a word. -/
theorem breaks_exportSource (h : isExportName name = true) (hw : isWordText name.toList = false)
    (value : List Char) :
    Breaks true (exportSource name value) [(.word "export", true), (.word "const", false)] ∨
      ∃ w : String, isWordText w.toList = true ∧ Breaks true (exportSource name value)
        [(.word "export", true), (.word "const", false), (.word w, false)] := by
  obtain ⟨c, cs, chars, hc⟩ := isNameStart_of_head h
  obtain ⟨w, d, rest, split, hd, before⟩ := exists_break (by rw [chars]; exact nofun) hw
  have hn : ∀ x ∈ w ++ d :: rest, isNamePart x = true := by
    rw [← split]
    exact isNamePart_of_mem h
  have hnd := hn d (List.mem_append_right w List.mem_cons_self)
  have hblank := not_isBlank_of_isNamePart hnd
  have hline := not_isLineEnd_of_isNamePart hnd
  have source := exportSource_of_split split value
  -- below 128 the check and the language agree, so the character is beyond
  rcases before with rfl | ⟨hw, hdw⟩
  · have hle : 128 ≤ d.toNat := by
      refine Nat.le_of_not_lt fun hlt => ?_
      rw [split] at chars
      cases chars
      rw [isWordStart_of_isNameStart hlt hc] at hd
      cases hd
    have broken := breaks_of_le isGap_blank hle hd hblank hline false (rest ++ ' ' :: '=' :: value)
    left
    rw [source]
    exact (lexes_opening _).breaks broken
  · have hle : 128 ≤ d.toNat := by
      refine Nat.le_of_not_lt fun hlt => ?_
      rw [isWordPart_of_isNamePart hlt hnd] at hdw
      cases hdw
    have ends : EndsWord (d :: (rest ++ ' ' :: '=' :: value)) := by
      intro x hx
      cases hx
      refine ⟨hdw, ?_⟩
      rintro rfl
      exact absurd hle (by decide)
    have word := lexes_name hw (fun x hx => hn x (List.mem_append_left _ hx)) ends
    have noGap : IsGap [] := fun x hx => nomatch hx
    have broken := breaks_of_le noGap hle hd hblank hline false (rest ++ ' ' :: '=' :: value)
    right
    refine ⟨String.ofList w, by rw [String.toList_ofList]; exact hw, ?_⟩
    rw [source]
    exact ((lexes_opening _).trans word).breaks broken

/-! ### Reading the source -/

/-- A word is no semicolon. -/
theorem isText_semicolon_word (hw : isWordText name.toList = true) :
    Token.isText ";" (.word name) = false := by
  refine decide_eq_false ?_
  rintro rfl
  exact absurd hw (by decide)

theorem exportSource_noShebang (name : String) (value : List Char) :
    ∀ rest, exportSource name value ≠ '#' :: '!' :: rest := by
  intro rest h
  cases h

/-- The source is read if its value is, and the value ends the statement.  What
is known of the value is known of the module. -/
theorem parseChars_exportSource {ts us vs : List Seen} {u : Token} {nu nv : Bool} {P : Expr → Prop}
    (h : isExportName name = true) (hw : isWordText name.toList = true) (h₁ : name ≠ "eval")
    (h₂ : name ≠ "arguments") (hvalue : Lexes false (' ' :: value) ts)
    (hread : ∀ c : Cursor, c.Sees ts → c.bound = (exportSource name (' ' :: value)).length + 1 →
      ∃ e, P e ∧ (Read.assignment (Grammar.levels ((exportSource name (' ' :: value)).length + 1))
        (Context.withIn {})).Reads c e ((u, nu) :: us))
    (hu : Token.isText "," u = false)
    (hend : ∀ d : Cursor, d.Sees ((u, nu) :: us) →
      Parse.eatStatementEnd.Reads d true ((.eof, nv) :: vs)) :
    ∃ start stop p e, P e ∧ Fragment.parseChars (exportSource name (' ' :: value))
      = .ok [⟨start, stop, .exportDecl (.varDecl .constant [.mk (.ident p name) e])⟩] := by
  have shows := (lexes_exportSource h hw value).lexes hvalue
  obtain ⟨hc, hbound, hnoted⟩ := Cursor.sees_ofSource (shows _ 0 (Nat.lt_succ_self _))
    (exportSource_noShebang name (' ' :: value))
  obtain ⟨e, he, read⟩ := hread _ hc.advance.advance.advance.advance hbound
  obtain ⟨start, stop, p, items⟩ := Read.reads_items_constant
    (g := Grammar.levels ((exportSource name (' ' :: value)).length + 2)) hc
    (isBindable_of_isExportName h h₁ h₂) (isText_semicolon_word hw) read hu hend
  exact ⟨start, stop, p, e, he, Fragment.parseChars_of_reads hnoted items⟩

/-- A name that is no word, or that cannot be bound, is refused. -/
theorem parseChars_exportSource_error (h : isExportName name = true)
    (hbad : ¬ (isWordText name.toList = true ∧ name ≠ "eval" ∧ name ≠ "arguments"))
    (value : List Char) :
    ∃ p, Fragment.parseChars (exportSource name (' ' :: value)) = .error p := by
  have noShebang := exportSource_noShebang name (' ' :: value)
  apply Fragment.parseChars_of_stumbles
  by_cases hw : isWordText name.toList = true
  · have unbindable : isBindable name = false := by
      refine not_isBindable ?_
      by_contra other
      rw [not_or] at other
      exact hbad ⟨hw, other⟩
    have shows := (lexes_exportSource h hw value).lexes (Lexes.nil false _)
    obtain ⟨hc, -, -⟩ := Cursor.sees_ofSource (shows _ 0 (Nat.lt_succ_self _)) noShebang
    refine Read.stumbles_items_declarator hc (isText_semicolon_word hw) (by simp) ?_
    exact Read.stumbles_declarator_binding (by simp) hc.advance.advance
      (Read.stumbles_binding rfl hc.advance.advance unbindable)
  · rw [Bool.not_eq_true] at hw
    rcases breaks_exportSource h hw (' ' :: value) with breaks | ⟨w, hword, breaks⟩
    · obtain ⟨p, nl, shows⟩ := breaks _ 0 (Nat.lt_succ_self _)
      obtain ⟨hc, -, -⟩ := Cursor.sees_ofSource shows noShebang
      refine Read.stumbles_items_declarator hc rfl (by simp) ?_
      exact Read.stumbles_declarator_binding (by simp) hc.advance.advance
        (Read.stumbles_binding_bad hc.advance.advance)
    · obtain ⟨p, nl, shows⟩ := breaks _ 0 (Nat.lt_succ_self _)
      obtain ⟨hc, -, -⟩ := Cursor.sees_ofSource shows noShebang
      refine Read.stumbles_items_declarator hc (isText_semicolon_word hword) (by simp) ?_
      exact Read.stumbles_declarator_word rfl hc.advance.advance

end Frontmatter
