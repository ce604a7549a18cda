/-
Frontmatter/Proofs/Document/Renderer.lean

Rendered sources as modules.

What a renderer writes is compiled afterwards by the reader of modules, which
knows nothing of renderers.  The theorems here say what it finds:

* `staticProps_round_trip`: the source of the default renderer is always
  accepted, and it is the one exported function that it looks like; under
  `props` the function returns the data.  Such a pass fails in decoding only.
* `constant_exports_name_and_data`: if the source of an exported constant is
  accepted, it exports the data under the name, and it does nothing else.
* `constant_compiles_iff`: it is accepted for exactly those names that are words
  of the module language and neither `eval` nor `arguments`.

That data are read back (`StandsFor`) is said by constants: an expression of
literals has the same constant as the data.
-/
import Frontmatter.Proofs.Document.ExportSource
import Frontmatter.Proofs.Document.Pass
import Frontmatter.Proofs.Esm.Arrow

namespace Frontmatter

open Esm Esm.Lexer Esm.Parse

variable {name source : String} {value : List Char} {d : Data} {b : Block}

/-! ### Compiling -/

/-- The expression is built from literals only, and it stands for the data. -/
def StandsFor (e : Expr) (d : Data) : Prop := ∃ v, d.constant? = some v ∧ e.constant? = some v

/-- A source without a byte order mark is read as it is. -/
theorem parse_exportSource (name : String) (value : List Char) :
    Fragment.parse (String.ofList (exportSource name value))
      = Fragment.parseChars (exportSource name value) := by
  have mark : withoutMark (exportSource name value) = exportSource name value := rfl
  rw [Fragment.parse, String.toList_ofList, mark]

/-! ### An exported constant -/

/-- What stands after the equals sign of an exported constant. -/
def constantValue (d : Data) : List Char := d.literalChars ++ [';', '\n']

theorem constant_eq_ok (h : Renderer.constant name d b = .ok source) :
    isExportName name = true ∧
      source = String.ofList (exportSource name (' ' :: constantValue d)) := by
  rw [Renderer.constant] at h
  split at h
  · next hname =>
    cases h
    refine ⟨hname, congrArg String.ofList ?_⟩
    rw [exportSource, constantValue, List.append_assoc, List.append_assoc]
    rfl
  · cases h

theorem constant_eq_error {e : Error} (h : Renderer.constant name d b = .error e) :
    e = .render ("'" ++ name ++ "' is not a valid export name") := by
  rw [Renderer.constant] at h
  split at h
  · cases h
  · cases h
    rfl

theorem constant_of_isExportName (h : isExportName name = true) (d : Data) (b : Block) :
    Renderer.constant name d b
      = .ok (String.ofList (exportSource name (' ' :: constantValue d))) := by
  rcases rendered : Renderer.constant name d b with e | source
  · rw [Renderer.constant, if_pos h] at rendered
    cases rendered
  · obtain ⟨-, rfl⟩ := constant_eq_ok rendered
    rfl

theorem lexes_constantValue (d : Data) :
    Lexes false (' ' :: constantValue d)
      (d.tokens ++ [(.punct ";", false), (.eof, true), (.eof, false)]) := by
  have literal := lexes_literal d (delimited_cons (c := ';') (by decide) ['\n'])
  have semicolon := lexes_lone ';' ";" (by decide) ['\n']
  have value := lexes_blank (solid_literal d [';', '\n']) literal
  have whole := (value.trans semicolon).lexes (Lexes.end isGap_line 1)
  rw [List.append_assoc] at whole
  exact whole

/-- The value is read, and it is the data. -/
theorem reads_constantValue {n : Nat} {c : Cursor} (hn : d.tokens.length ≤ n)
    (hb : d.tokens.length ≤ c.bound)
    (hc : c.Sees (d.tokens ++ [(.punct ";", false), (.eof, true), (.eof, false)])) :
    ∃ e, StandsFor e d ∧ (Read.assignment (Grammar.levels n) (Context.withIn {})).Reads c e
      [(.punct ";", false), (.eof, true), (.eof, false)] := by
  obtain ⟨e, v, hv, he, reads⟩ := Read.reads_literal d n (Context.withIn {}) c hn hb rfl rfl hc
  exact ⟨e, ⟨v, hv, he⟩, reads⟩

/-- A name that is a word and can be bound is compiled. -/
theorem compiles_constant (h : isExportName name = true) (hw : isWordText name.toList = true)
    (h₁ : name ≠ "eval") (h₂ : name ≠ "arguments") (d : Data) :
    ∃ start stop p e, StandsFor e d ∧
      compileSource (String.ofList (exportSource name (' ' :: constantValue d)))
        = .ok [⟨start, stop, .exportDecl (.varDecl .constant [.mk (.ident p name) e])⟩] := by
  have enough : d.tokens.length ≤ (exportSource name (' ' :: constantValue d)).length + 1 := by
    have := d.length_tokens_le
    simp only [exportSource, constantValue, List.length_append, List.length_cons]
    omega
  obtain ⟨start, stop, p, e, he, parsed⟩ := parseChars_exportSource
    (P := fun e => StandsFor e d) h hw h₁ h₂ (lexes_constantValue d)
    (fun c hc hbound => reads_constantValue enough (enough.trans (Nat.le_of_eq hbound.symm)) hc) rfl
    (fun _ hd => Read.reads_eatStatementEnd_semicolon hd)
  refine ⟨start, stop, p, e, he, ?_⟩
  rw [compileSource, parse_exportSource, parsed]

/-- Every other name is refused in compiling. -/
theorem not_compiles_constant (h : isExportName name = true)
    (hbad : ¬ (isWordText name.toList = true ∧ name ≠ "eval" ∧ name ≠ "arguments")) (d : Data)
    (body : List Item) :
    compileSource (String.ofList (exportSource name (' ' :: constantValue d))) ≠ .ok body := by
  obtain ⟨p, parsed⟩ := parseChars_exportSource_error h hbad (constantValue d)
  rw [compileSource, parse_exportSource, parsed]
  intro compiled
  cases compiled

/-! ### An exported function -/

/-- The function up to the data that it returns. -/
def arrowOpening : List Char :=
  ['a', 's', 'y', 'n', 'c', ' ', '(', ')', ' ', '=', '>', ' ', '{', '\n', ' ', ' ',
   'r', 'e', 't', 'u', 'r', 'n', ' ', '{', ' ', 'p', 'r', 'o', 'p', 's', ':']

/-- What stands after the equals sign of the exported function. -/
def arrowValue (d : Data) : List Char :=
  arrowOpening ++ ' ' :: (d.literalChars ++ [' ', '}', '\n', '}', '\n'])

theorem staticProps_eq (d : Data) (b : Block) :
    Renderer.staticProps d b
      = .ok (String.ofList (exportSource "getStaticProps" (' ' :: arrowValue d))) := by
  rw [Renderer.staticProps, List.append_assoc]
  rfl

def arrowOpeningTokens : List Seen :=
  [(.word "async", false), (.punct "(", false), (.punct ")", false), (.punct "=>", false),
   (.punct "\x7b", false), (.word "return", true), (.punct "\x7b", false), (.word "props", false),
   (.punct ":", false)]

/-- A punctuator after a gap. -/
theorem lexes_gap_lone {gap : List Char} (hgap : IsGap gap) (c : Char) (text : String)
    (h : (c, text) ∈ lonePunctuators) (rest : List Char) :
    LexesTo false (gap ++ c :: rest) [(.punct text, gap.contains '\n')] rest :=
  LexesTo.gap hgap (solid_lone c text h _ rest)
    (LexesTo.tokenAt (solid_lone c text h _ rest) (tokenAt_lone h rest))

/-- A word of letters after a gap. -/
theorem lexes_gap_word {gap : List Char} (hgap : IsGap gap) (c : Char) (w : List Char)
    {rest : List Char} (hw : isWordText (c :: w) = true)
    (hc : isBlank c = false ∧ isLineEnd c = false ∧ c ∉ doubtful) (hrest : EndsWord rest) :
    LexesTo false (gap ++ (c :: w ++ rest))
      [(.word (String.ofList (c :: w)), gap.contains '\n')] rest :=
  LexesTo.gap hgap (Solid.of_head hc.1 hc.2.1 hc.2.2 _ _) (lexes_word c w _ hw hc hrest)

theorem lexes_arrowOpening (rest : List Char) :
    LexesTo false (' ' :: (arrowOpening ++ rest)) arrowOpeningTokens rest := by
  have indent : IsGap ['\n', ' ', ' '] := by
    intro c hc
    simp only [List.mem_cons, List.not_mem_nil, or_false, or_self] at hc
    exact hc.symm
  have afterProps : EndsWord (':' :: rest) := (delimited_cons (by decide) rest).endsWord
  have props := (lexes_gap_word isGap_blank 'p' ['r', 'o', 'p', 's'] (by decide) (by decide)
    afterProps).trans (lexes_lone ':' ":" (by decide) rest)
  have object := (lexes_gap_lone isGap_blank '{' "\x7b" (by decide) _).trans props
  have ret := (lexes_gap_word indent 'r' ['e', 't', 'u', 'r', 'n'] (by decide) (by decide)
    (endsWord_blank _)).trans object
  have body := (lexes_gap_lone isGap_blank '{' "\x7b" (by decide) _).trans ret
  have arrow := (lexes_blank (Solid.equals _)
    (LexesTo.tokenAt (Solid.equals _) (tokenAt_fatArrow _))).trans body
  have params := ((lexes_gap_lone isGap_blank '(' "(" (by decide) _).trans
    (lexes_lone ')' ")" (by decide) _)).trans arrow
  exact (lexes_gap_word isGap_blank 'a' ['s', 'y', 'n', 'c'] (by decide) (by decide)
    (endsWord_blank _)).trans params

theorem lexes_arrowValue (d : Data) :
    Lexes false (' ' :: arrowValue d)
      (arrowOpeningTokens ++ (d.tokens ++ [(.punct "\x7d", false), (.punct "\x7d", true),
        (.eof, true), (.eof, false)])) := by
  have literal := lexes_literal d (delimited_cons (c := ' ') (by decide) ['}', '\n', '}', '\n'])
  have value := lexes_blank (solid_literal d [' ', '}', '\n', '}', '\n']) literal
  have object := lexes_gap_lone isGap_blank '}' "\x7d" (by decide) ['\n', '}', '\n']
  have body := lexes_gap_lone isGap_line '}' "\x7d" (by decide) ['\n']
  have inner := (value.trans object).trans body
  have whole := ((lexes_arrowOpening _).trans inner).lexes (Lexes.end isGap_line 1)
  rw [List.append_assoc, List.append_assoc, List.append_assoc] at whole
  exact whole

/-- The expression is an asynchronous function without parameters that returns
the data under `props`, and does nothing else. -/
def ReturnsProps (e : Expr) (d : Data) : Prop :=
  ∃ start o k value, e = .arrow start true [] [.ret (.object o [.pair (.name k "props") value])] ∧
    StandsFor value d

/-- The function is read, and what it returns is the data. -/
theorem reads_arrowValue {n : Nat} {c : Cursor} (hn : d.tokens.length ≤ n)
    (hb : d.tokens.length ≤ c.bound)
    (hc : c.Sees (arrowOpeningTokens ++ (d.tokens ++ [(.punct "\x7d", false),
      (.punct "\x7d", true), (.eof, true), (.eof, false)]))) :
    ∃ e, ReturnsProps e d ∧ (Read.assignment (Grammar.levels (n + 3)) (Context.withIn {})).Reads c e
      [(.eof, true), (.eof, false)] := by
  have value : ∀ (c' : Cursor) (ctx : Context), c'.Sees (d.tokens ++ [(.punct "\x7d", false),
      (.punct "\x7d", true), (.eof, true), (.eof, false)]) → c'.bound = c.bound →
      ctx.generator = false →
      ∃ e, StandsFor e d ∧ (Read.assignment (Grammar.levels n) ctx).Reads c' e
        [(.punct "\x7d", false), (.punct "\x7d", true), (.eof, true), (.eof, false)] := by
    intro c' ctx hc' hbound hgen
    rw [← hbound] at hb
    obtain ⟨e, v, hv, he, reads⟩ := Read.reads_literal d n ctx c' hn hb hgen rfl hc'
    exact ⟨e, ⟨v, hv, he⟩, reads⟩
  have noGenerator : (Context.withIn {}).generator = false := rfl
  -- three levels go to the function, its statement and the object
  obtain ⟨e, o, k, he, reads⟩ := Read.reads_arrow noGenerator hc rfl rfl value
  exact ⟨_, ⟨c.cur.start, o, k, e, rfl, he⟩, reads⟩

/-- Whatever the data are, the exported function is compiled. -/
theorem compiles_staticProps (d : Data) :
    ∃ start stop p e, ReturnsProps e d ∧
      compileSource (String.ofList (exportSource "getStaticProps" (' ' :: arrowValue d)))
        = .ok [⟨start, stop, .exportDecl (.varDecl .constant
            [.mk (.ident p "getStaticProps") e])⟩] := by
  obtain ⟨n, hn, enough⟩ : ∃ n,
      (exportSource "getStaticProps" (' ' :: arrowValue d)).length + 1 = n + 3 ∧
        d.tokens.length ≤ n := by
    have := d.length_tokens_le
    refine ⟨(exportSource "getStaticProps" (' ' :: arrowValue d)).length - 2, ?_, ?_⟩
    all_goals
      simp only [exportSource, arrowValue, List.length_append, List.length_cons]
      omega
  have hname : isExportName "getStaticProps" = true := by decide +kernel
  obtain ⟨start, stop, p, e, he, parsed⟩ := parseChars_exportSource
    (P := fun e => ReturnsProps e d) hname (by decide) (by decide) (by decide) (lexes_arrowValue d)
    (fun c hc hbound => by
      rw [hn] at hbound ⊢
      exact reads_arrowValue enough (by omega) hc)
    rfl (fun _ hd => Read.reads_eatStatementEnd_eof hd)
  refine ⟨start, stop, p, e, he, ?_⟩
  rw [compileSource, parse_exportSource, parsed]

/-! ### The modules of the renderers -/

/-- A module that exports nothing but `getStaticProps`, an asynchronous function that
returns an expression under `props`. -/
def IsPropsModule (body : List Item) (value : Expr) : Prop :=
  ∃ start stop p s o k, body = [⟨start, stop, .exportDecl (.varDecl .constant
    [.mk (.ident p "getStaticProps")
      (.arrow s true [] [.ret (.object o [.pair (.name k "props") value])])])⟩]

/-- A module that exports nothing but an expression as a constant. -/
def IsConstantModule (name : String) (body : List Item) (value : Expr) : Prop :=
  ∃ start stop p, body = [⟨start, stop, .exportDecl (.varDecl .constant
    [.mk (.ident p name) value])⟩]

theorem exists_propsModule (d : Data) (b : Block) :
    ∃ source body value, Renderer.staticProps d b = .ok source ∧
      compileSource source = .ok body ∧ IsPropsModule body value ∧ StandsFor value d := by
  obtain ⟨start, stop, p, e, ⟨s, o, k, value, rfl, he⟩, compiled⟩ := compiles_staticProps d
  exact ⟨_, _, value, staticProps_eq d b, compiled, ⟨start, stop, p, s, o, k, rfl⟩, he⟩

/-- A name that passes the check and that a module can bind. -/
structure IsConstantName (name : String) : Prop where
  checked : isExportName name = true
  word : isWordText name.toList = true
  ne_eval : name ≠ "eval"
  ne_arguments : name ≠ "arguments"

theorem exists_constantModule (h : IsConstantName name) (d : Data) (b : Block) :
    ∃ source body value, Renderer.constant name d b = .ok source ∧
      compileSource source = .ok body ∧ IsConstantModule name body value ∧ StandsFor value d := by
  obtain ⟨start, stop, p, e, he, compiled⟩ :=
    compiles_constant h.checked h.word h.ne_eval h.ne_arguments d
  exact ⟨_, _, e, constant_of_isExportName h.checked d b, compiled, ⟨start, stop, p, rfl⟩, he⟩

theorem isConstantName_default : IsConstantName Renderer.defaultName :=
  ⟨by decide +kernel, by decide +kernel, by decide, by decide⟩

/-! ### Passes with an exported constant -/

/-- If such a pass fails in compiling, the name has passed the check and is bad
all the same. -/
theorem bad_name_of_run_error {registry : Registry} {r : Root} {message : String}
    {location : Location}
    (failed : (Transform.run ⟨registry, Renderer.constant name⟩ r).error
      = some (.compile message location)) :
    isExportName name = true ∧
      ¬ (isWordText name.toList = true ∧ name ≠ "eval" ∧ name ≠ "arguments") := by
  rcases Transform.run_error_cases failed with ⟨_, _, _, h⟩ | ⟨d, b, unrendered | ⟨source, h⟩⟩
  · cases h
  · have h := constant_eq_error (b := b) unrendered
    cases h
  · obtain ⟨rendered, uncompiled⟩ := h
    obtain ⟨hname, rfl⟩ := constant_eq_ok (b := b) rendered
    refine ⟨hname, fun ⟨hw, h₁, h₂⟩ => ?_⟩
    obtain ⟨start, stop, p, e, -, compiled⟩ := compiles_constant hname hw h₁ h₂ d
    rw [compiled] at uncompiled
    cases uncompiled

/-- A pass over one block that decodes to some data fails in compiling, if the
name is bad. -/
theorem run_error_of_bad_name (hname : isExportName name = true)
    (bad : ¬ (isWordText name.toList = true ∧ name ≠ "eval" ∧ name ≠ "arguments"))
    {registry : Registry} (decoded : (registry.decodeBlock b).2 = .ok (some d))
    (span : Option Markdown.Span) :
    ∃ message location, (Transform.run ⟨registry, Renderer.constant name⟩ ⟨[.block b], span⟩).error
      = some (.compile message location) := by
  rcases result : compileSource (String.ofList (exportSource name (' ' :: constantValue d)))
    with e | body
  · obtain ⟨message, location, rfl⟩ := compileSource_error result
    refine ⟨message, location, Transform.run_error_single ?_ span⟩
    exact Transform.compileBlock_of_uncompiled decoded (constant_of_isExportName hname d b) result
  · exact absurd result (not_compiles_constant hname bad d body)

/-! ### The renderers -/

/-- The round trip of the default renderer.  Whatever the data are, their source
is rendered and compiled.  The module has one item, which exports one constant
`getStaticProps`: an asynchronous function without parameters that returns an
object with the one property `props`, and the expression under it is the data.
So a pass with this renderer fails in decoding only, whatever its registry and
its document are. -/
theorem staticProps_round_trip (d : Data) (b : Block) (registry : Registry) (r : Root) :
    (∃ source start stop p e, Renderer.staticProps d b = .ok source ∧
      compileSource source = .ok [⟨start, stop, .exportDecl (.varDecl .constant
        [.mk (.ident p "getStaticProps") e])⟩] ∧
      ReturnsProps e d) ∧
    ∀ error, (Transform.run ⟨registry, Renderer.staticProps⟩ r).error = some error →
      ∃ tag message location, error = .decode tag message location := by
  refine ⟨?_, fun error failed => ?_⟩
  · obtain ⟨start, stop, p, e, he, compiled⟩ := compiles_staticProps d
    exact ⟨_, start, stop, p, e, staticProps_eq d b, compiled, he⟩
  · refine Transform.run_error_of_total (fun d b => ?_) failed
    obtain ⟨start, stop, p, e, -, compiled⟩ := compiles_staticProps d
    exact ⟨_, _, staticProps_eq d b, compiled⟩

/-- Nothing gets out of the name and the data of an exported constant.  If its
source is compiled, the module has one item, which exports one constant; the
constant is bound to the name, character for character, and its value is the
data. -/
theorem constant_exports_name_and_data {body : List Item}
    (rendered : Renderer.constant name d b = .ok source)
    (compiled : compileSource source = .ok body) :
    ∃ start stop p e, body = [⟨start, stop, .exportDecl (.varDecl .constant
      [.mk (.ident p name) e])⟩] ∧ StandsFor e d := by
  obtain ⟨hname, rfl⟩ := constant_eq_ok rendered
  by_cases good : isWordText name.toList = true ∧ name ≠ "eval" ∧ name ≠ "arguments"
  · obtain ⟨hw, h₁, h₂⟩ := good
    obtain ⟨start, stop, p, e, he, compiled'⟩ := compiles_constant hname hw h₁ h₂ d
    rw [compiled] at compiled'
    exact ⟨start, stop, p, e, Except.ok.inj compiled', he⟩
  · exact absurd compiled (not_compiles_constant hname good d body)

/-- Quotes, comments and line ends in the data stay in the data. -/
theorem constant_exports_quotes :
    Renderer.constant "meta" (.record [("\"k", .str "*/;\n")]) ⟨.yaml, "", none⟩
        = .ok "export const meta = \x7b\"\\\"k\":\"*/;\\n\"\x7d;\n" ∧
      ∃ start stop p e, compileSource "export const meta = \x7b\"\\\"k\":\"*/;\\n\"\x7d;\n"
          = .ok [⟨start, stop, .exportDecl (.varDecl .constant [.mk (.ident p "meta") e])⟩] ∧
        StandsFor e (.record [("\"k", .str "*/;\n")]) := by
  have rendered : Renderer.constant "meta" (.record [("\"k", .str "*/;\n")]) ⟨.yaml, "", none⟩
      = .ok "export const meta = \x7b\"\\\"k\":\"*/;\\n\"\x7d;\n" := by
    rfl
  have compiled : compileSource "export const meta = \x7b\"\\\"k\":\"*/;\\n\"\x7d;\n"
      = .ok [⟨0, 36, .exportDecl (.varDecl .constant [.mk (.ident 13 "meta")
          (.object 20 [.pair (.str 21 "\"k") (.str 27 "*/;\n")])])⟩] := by
    rfl
  obtain ⟨start, stop, p, e, h, he⟩ := constant_exports_name_and_data rendered compiled
  exact ⟨rendered, start, stop, p, e, compiled.trans (congrArg _ h), he⟩

/-- A name that passes the check need not name a constant of a module.  The
rendered source is compiled if and only if the name is a word of the module
language and is not `eval` or `arguments`; and for each name that passes the
check and is none of those, there is a pass that fails in compiling. -/
theorem constant_compiles_iff (name : String) :
    (∀ d b source, Renderer.constant name d b = .ok source →
      ((∃ body, compileSource source = .ok body) ↔
        isWordText name.toList = true ∧ name ≠ "eval" ∧ name ≠ "arguments")) ∧
    ((∃ registry r message location,
        (Transform.run ⟨registry, Renderer.constant name⟩ r).error
          = some (.compile message location)) ↔
      isExportName name = true ∧
        ¬ (isWordText name.toList = true ∧ name ≠ "eval" ∧ name ≠ "arguments")) := by
  refine ⟨fun d b source rendered => ?_, ?_, ?_⟩
  · obtain ⟨hname, rfl⟩ := constant_eq_ok rendered
    constructor
    · rintro ⟨body, compiled⟩
      by_contra bad
      exact not_compiles_constant hname bad d body compiled
    · rintro ⟨hw, h₁, h₂⟩
      obtain ⟨start, stop, p, e, -, compiled⟩ := compiles_constant hname hw h₁ h₂ d
      exact ⟨_, compiled⟩
  · rintro ⟨registry, r, message, location, failed⟩
    exact bad_name_of_run_error failed
  · rintro ⟨hname, bad⟩
    let registry : Registry := Registry.empty.register .yaml fun _ => .ok (.bool true)
    have decoded : (registry.decodeBlock ⟨.yaml, "", none⟩).2 = .ok (some (.bool true)) := rfl
    obtain ⟨message, location, failed⟩ := run_error_of_bad_name hname bad decoded none
    exact ⟨registry, _, message, location, failed⟩

/-- The name `eval` passes the check and is refused afterwards. -/
theorem constant_eval_not_compiled :
    Renderer.constant "eval" .null ⟨.yaml, "", none⟩ = .ok "export const eval = null;\n" ∧
      ¬ ∃ body, compileSource "export const eval = null;\n" = .ok body := by
  have rendered : Renderer.constant "eval" .null ⟨.yaml, "", none⟩
      = .ok "export const eval = null;\n" := by
    rfl
  refine ⟨rendered, fun compiled => ?_⟩
  have good := ((constant_compiles_iff "eval").1 _ _ _ rendered).mp compiled
  exact good.2.1 rfl

/-- So does a letter that is no identifier character. -/
example : isExportName "ⓐ" = true ∧ isWordText "ⓐ".toList = false := by decide +kernel

end Frontmatter
