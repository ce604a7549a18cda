/-
Frontmatter/Proofs/Toml/Forward.lean

The readers of a TOML text only move forward.

Whatever a reader comes to, it leaves an end of the characters that it was given, also
where it fails (`Parser.Forward`).  This holds for the smallest readers, and every way of
putting readers together keeps it; so it holds for the reader of documents
(`forward_document`).  The offset of a failure is therefore the place of a character of
the text, or its end (`exists_offset`).
-/
import Frontmatter.Proofs.Text.Location
import Frontmatter.Toml.Document

namespace Frontmatter.Toml

/-- The characters that are left. -/
def Reply.rest {α : Type} : Reply α → List Char
  | .done _ rest => rest
  | .failed _ _ rest => rest

namespace Parser

variable {α β : Type} {p q : Parser α} {f : α → Parser β}

/-- The reader leaves an end of what it was given. -/
def Forward (p : Parser α) : Prop := ∀ cs, (p cs).rest <:+ cs

namespace Forward

/-- It is enough to leave what another reader leaves, or everything. -/
theorem of_rest {q : Parser β} (hp : Forward p)
    (left : ∀ cs, (q cs).rest = (p cs).rest ∨ (q cs).rest = cs) : Forward q := by
  intro cs
  rcases left cs with same | all
  · rw [same]
    exact hp cs
  · exact ⟨[], all⟩

/-- A choice leaves an end if both sides do. -/
theorem ite {c : Prop} [Decidable c] {r r' : Reply α} {cs : List Char} (h : r.rest <:+ cs)
    (h' : r'.rest <:+ cs) : (if c then r else r').rest <:+ cs :=
  iteInduction (motive := fun r : Reply α => r.rest <:+ cs) (fun _ => h) fun _ => h'

/-! ### Ways of putting readers together -/

theorem pure (a : α) : Forward (Pure.pure a : Parser α) := fun cs => List.suffix_refl cs

theorem bind (hp : Forward p) (hf : ∀ a, Forward (f a)) : Forward (p >>= f) := by
  intro cs
  have first := hp cs
  show (Parser.bind p f cs).rest <:+ cs
  unfold Parser.bind
  cases h : p cs with
  | done a rest =>
    rw [h] at first
    exact (hf a rest).trans first
  | failed isFinal why rest =>
    rw [h] at first
    exact first

theorem map (hp : Forward p) (g : α → β) : Forward (g <$> p) :=
  hp.bind fun a => pure (g a)

theorem fail : Forward (fail : Parser α) := fun cs => List.suffix_refl cs

theorem refuse (e : Fault) : Forward (refuse e : Parser α) := fun cs => List.suffix_refl cs

theorem must (hp : Forward p) : Forward (must p) := by
  refine hp.of_rest fun cs => .inl ?_
  unfold Parser.must
  cases p cs <;> rfl

theorem named (hp : Forward p) (l : Label) : Forward (named l p) := by
  refine hp.of_rest fun cs => .inl ?_
  unfold Parser.named
  cases p cs <;> rfl

theorem expecting (hp : Forward p) (e : Expected) : Forward (expecting e p) := by
  refine hp.of_rest fun cs => .inl ?_
  unfold Parser.expecting
  cases p cs <;> rfl

theorem orElse (hp : Forward p) (hq : Forward q) : Forward (orElse p q) := by
  intro cs
  unfold Parser.orElse
  split
  · exact hq cs
  · exact hp cs

theorem optional (hp : Forward p) : Forward (optional p) := by
  refine hp.of_rest fun cs => ?_
  unfold Parser.optional
  rcases p cs with ⟨a, rest⟩ | ⟨_ | _, why, rest⟩
  · exact .inl rfl
  · exact .inr rfl
  · exact .inl rfl

/-- Looking leaves everything, whatever the reader does. -/
theorem look (p : Parser α) : Forward (look p) := by
  intro cs
  unfold Parser.look
  split <;> exact List.suffix_refl cs

theorem check (hp : Forward p) (g : α → Except Fault β) : Forward (check p g) := by
  refine hp.of_rest fun cs => ?_
  unfold Parser.check
  rcases p cs with ⟨a, rest⟩ | ⟨isFinal, why, rest⟩
  · rcases h : g a with fault | b
    · exact .inr (by simp only [h]; rfl)
    · exact .inl (by simp only [h]; rfl)
  · exact .inl rfl

theorem times (hp : Forward p) (n : Nat) : Forward (times p n) := by
  induction n with
  | zero => exact pure _
  | succ n ih =>
    intro cs
    have first := hp cs
    unfold Parser.times
    split
    · next rest h =>
      rw [h] at first
      have more := (ih rest).trans first
      split
      · next h' =>
        rw [h'] at more
        exact more
      · next h' =>
        rw [h'] at more
        exact more
    · exact List.suffix_refl cs
    · next h =>
      rw [h] at first
      exact first

theorem many (hp : Forward p) : Forward (many p) := fun cs => hp.times (cs.length + 1) cs

theorem separated {sep : Parser β} (hp : Forward p) (hsep : Forward sep) :
    Forward (separated p sep) :=
  hp.bind fun _ => (hsep.bind fun _ => hp).many.bind fun _ => pure _

theorem taken (hp : Forward p) : Forward (taken p) := by
  refine hp.of_rest fun cs => .inl ?_
  unfold Parser.taken
  cases p cs <;> rfl

/-! ### The smallest readers -/

theorem next : Forward next := by
  rintro (_ | ⟨c, cs⟩)
  · exact List.suffix_refl _
  · exact List.suffix_cons c cs

theorem oneOf (test : Char → Bool) : Forward (oneOf test) := by
  rintro (_ | ⟨c, cs⟩)
  · exact List.suffix_refl _
  · unfold Parser.oneOf
    simp only
    split
    · exact List.suffix_cons c cs
    · exact List.suffix_refl _

theorem char (c : Char) : Forward (char c) := oneOf _

theorem literal (s : List Char) : Forward (literal s) := by
  intro cs
  unfold Parser.literal
  split
  · exact List.drop_suffix s.length cs
  · exact List.suffix_refl cs

theorem takeWhile (test : Char → Bool) : Forward (takeWhile test) := fun _ =>
  List.dropWhile_suffix test

theorem takeWhile1 (test : Char → Bool) : Forward (takeWhile1 test) := by
  intro cs
  unfold Parser.takeWhile1
  split
  · exact List.suffix_refl cs
  · exact List.dropWhile_suffix test

theorem takeExactly (n : Nat) (test : Char → Bool) : Forward (takeExactly n test) := by
  intro cs
  unfold Parser.takeExactly
  simp only
  split
  · exact List.drop_suffix n cs
  · exact List.suffix_refl cs

theorem atEnd : Forward atEnd := by
  rintro (_ | ⟨c, cs⟩) <;> exact List.suffix_refl _

end Forward
end Parser

open Frontmatter.Toml.Parser

/-! ### Blanks, comments and line ends -/

theorem forward_blanks : Forward blanks := .takeWhile _

theorem forward_newline : Forward newline :=
  ((Forward.char _).bind fun _ => .pure _).orElse
    ((Forward.char _).bind fun _ => (Forward.char _).bind fun _ => .pure _)

theorem forward_lineEnd : Forward lineEnd := forward_newline.orElse .atEnd

theorem forward_comment : Forward comment :=
  (Forward.char _).bind fun _ => (Forward.takeWhile _).bind fun _ => .pure _

theorem forward_restOfLine : Forward restOfLine :=
  forward_blanks.bind fun _ => forward_comment.optional.bind fun _ => forward_lineEnd

theorem forward_arrayLine : Forward arrayLine := by
  intro cs
  unfold arrayLine
  split
  · exact forward_comment.bind (fun _ => forward_newline) _
  · exact forward_newline _
  · exact forward_newline _
  · exact List.suffix_refl _

theorem forward_arrayGap : Forward arrayGap := by
  have go : ∀ fuel, Forward (arrayGap.go fuel) := by
    intro fuel
    induction fuel with
    | zero => exact .pure _
    | succ fuel ih =>
      refine forward_blanks.bind fun _ => (Forward.look _).optional.bind fun c => ?_
      split
      · exact forward_arrayLine.bind fun _ => ih
      · exact .pure _
  exact fun cs => go (cs.length + 1) cs

/-! ### Strings -/

theorem forward_hexCode (width : Nat) : Forward (hexCode width) := (Forward.takeExactly _ _).check _

theorem forward_noEscape : Forward noEscape := fun cs => List.suffix_refl cs

theorem forward_escape : Forward escape := by
  refine (Forward.char _).bind fun _ => Forward.next.bind fun letter => ?_
  split
  case h_8 => exact (forward_hexCode 4).must.named _
  case h_9 => exact (forward_hexCode 8).must.named _
  case h_10 => exact forward_noEscape
  all_goals exact .pure _

theorem forward_basicPiece : Forward basicPiece :=
  (Forward.takeWhile1 _).orElse (forward_escape.bind fun _ => .pure _)

theorem forward_basicString : Forward basicString :=
  (Forward.char _).bind fun _ => forward_basicPiece.many.bind fun _ =>
    ((Forward.char _).must.named _).bind fun _ => .pure _

theorem forward_literalString : Forward literalString :=
  Forward.named ((Forward.char _).bind fun _ => (Forward.takeWhile _).bind fun _ =>
    (Forward.char _).must.bind fun _ => .pure _) _

theorem forward_quotesBefore (quote : Char) (follow : Parser Unit) :
    Forward (quotesBefore quote follow) :=
  ((Forward.literal _).bind fun _ => (Forward.look _).bind fun _ => .pure _).orElse
    ((Forward.literal _).bind fun _ => (Forward.look _).bind fun _ => .pure _)

theorem forward_escapedBreak : Forward escapedBreak :=
  (Forward.char _).bind fun _ => forward_blanks.bind fun _ => forward_newline.bind fun _ =>
    (forward_newline.orElse ((Forward.takeWhile1 _).bind fun _ => .pure _)).many.bind fun _ =>
      .pure _

theorem forward_escapedBreaks : Forward escapedBreaks :=
  forward_escapedBreak.bind fun _ => forward_escapedBreak.many.bind fun _ => .pure _

theorem forward_longBasicPiece : Forward longBasicPiece :=
  (Forward.takeWhile1 _).orElse (forward_escapedBreaks.orElse
    ((forward_escape.bind fun _ => .pure _).orElse (forward_newline.bind fun _ => .pure _)))

theorem forward_longBody (quote : Char) {piece : Parser (List Char)} (h : Forward piece) :
    Forward (longBody quote piece) :=
  h.many.bind fun _ =>
    ((forward_quotesBefore _ _).bind fun _ => h.bind fun _ => h.many.bind fun _ =>
      .pure _).many.bind fun _ =>
        (forward_quotesBefore _ _).optional.bind fun _ => .pure _

theorem forward_longBasicString : Forward longBasicString :=
  Forward.named ((Forward.literal _).bind fun _ => forward_newline.optional.bind fun _ =>
    (forward_longBody _ forward_longBasicPiece).must.bind fun _ =>
      (Forward.literal _).must.bind fun _ => .pure _) _

theorem forward_longLiteralPiece : Forward longLiteralPiece :=
  ((Forward.oneOf _).bind fun _ => .pure _).orElse (forward_newline.bind fun _ => .pure _)

theorem forward_longLiteralString : Forward longLiteralString :=
  Forward.named ((Forward.literal _).bind fun _ => forward_newline.optional.bind fun _ =>
    (forward_longBody _ forward_longLiteralPiece).must.bind fun _ =>
      (Forward.literal _).must.bind fun _ => .pure _) _

theorem forward_string : Forward string :=
  (forward_longBasicString.orElse (forward_basicString.orElse
    (forward_longLiteralString.orElse forward_literalString))).bind fun _ => .pure _

/-! ### Numbers -/

theorem forward_moreDigits (test : Char → Bool) : Forward (moreDigits test) :=
  ((Forward.oneOf _).orElse ((Forward.char _).bind fun _ =>
    (Forward.oneOf _).must.expecting _)).many.bind fun _ => .pure _

theorem forward_decimalInteger : Forward decimalInteger :=
  ((Forward.oneOf _).optional.bind fun _ =>
    ((Forward.oneOf _).bind fun _ => forward_moreDigits _).orElse
      ((Forward.oneOf _).bind fun _ => .pure _)).taken.named _

theorem forward_markedInteger (marker : Char) (l : Label) (base : Nat) (test : Char → Bool) :
    Forward (markedInteger marker l base test) :=
  Forward.must (Forward.check (Forward.named ((Forward.literal _).bind fun _ =>
    ((Forward.oneOf _).bind fun _ => forward_moreDigits _).taken.must) _) _)

theorem forward_integer : Forward integer := by
  intro cs
  unfold integer
  split
  · exact forward_markedInteger _ _ _ _ _
  · exact forward_markedInteger _ _ _ _ _
  · exact forward_markedInteger _ _ _ _ _
  · have first := forward_decimalInteger cs
    split
    · next h =>
      rw [h] at first
      exact first
    · next h =>
      rw [h] at first
      split
      · exact first
      · exact List.suffix_refl cs

theorem forward_digits : Forward digits :=
  (Forward.oneOf _).bind fun _ => forward_moreDigits _

theorem forward_exponent : Forward exponent :=
  (Forward.oneOf _).bind fun _ => (Forward.oneOf _).optional.bind fun _ => forward_digits.must

theorem forward_fraction : Forward fraction :=
  (Forward.char _).bind fun _ => forward_digits.must.expecting _

theorem forward_decimalFloat : Forward decimalFloat :=
  (forward_decimalInteger.bind fun _ => forward_exponent.orElse
    (forward_fraction.bind fun _ => forward_exponent.optional.bind fun _ => .pure _)).taken

theorem forward_infinity : Forward infinity := (Forward.literal _).bind fun _ => .pure _

theorem forward_notANumber : Forward notANumber := (Forward.literal _).bind fun _ => .pure _

theorem forward_specialFloat : Forward specialFloat := by
  refine (Forward.oneOf _).optional.bind fun _ =>
    (forward_infinity.orElse forward_notANumber).bind fun x => ?_
  split <;> exact .pure _

theorem forward_finiteFloat : Forward finiteFloat := by
  refine forward_decimalFloat.of_rest fun cs => ?_
  unfold finiteFloat
  rcases decimalFloat cs with ⟨ds, rest⟩ | ⟨isFinal, why, rest⟩
  · rcases h : toFloat? ds with _ | x
    · exact .inr (by simp only [h]; rfl)
    · exact .inl (by simp only [h]; rfl)
  · exact .inl rfl

theorem forward_float : Forward float := (forward_finiteFloat.orElse forward_specialFloat).named _

/-! ### Dates and times -/

theorem forward_numberIn (width low high : Nat) : Forward (numberIn width low high) :=
  (Forward.takeExactly _ _).check _

theorem forward_dateParser : Forward dateParser :=
  (Forward.takeExactly _ _).bind fun _ => (Forward.char _).bind fun _ =>
    (forward_numberIn _ _ _).must.bind fun _ => (Forward.char _).must.bind fun _ =>
      ((forward_numberIn _ _ _).check _).must.bind fun _ => .pure _

theorem forward_timeParser : Forward timeParser :=
  (forward_numberIn _ _ _).bind fun _ => (Forward.char _).bind fun _ =>
    Forward.must ((forward_numberIn _ _ _).bind fun _ => (Forward.char _).bind fun _ =>
      (forward_numberIn _ _ _).bind fun _ =>
        ((Forward.char _).bind fun _ => Forward.takeWhile1 _).optional.bind fun _ => .pure _)

theorem forward_offsetParser : Forward offsetParser :=
  Forward.named (((Forward.oneOf _).bind fun _ => .pure _).orElse
    ((Forward.oneOf _).bind fun _ => Forward.must ((forward_numberIn _ _ _).bind fun _ =>
      (Forward.char _).bind fun _ => (forward_numberIn _ _ _).bind fun _ => .pure _))) _

theorem forward_timeOfDay : Forward timeOfDay :=
  (Forward.oneOf _).bind fun _ => forward_timeParser.bind fun _ =>
    forward_offsetParser.optional.bind fun _ => .pure _

theorem forward_datetime : Forward datetime := by
  refine Forward.orElse (Forward.named (forward_dateParser.bind fun date =>
    forward_timeOfDay.optional.bind fun time => ?_) _)
    (Forward.named (forward_timeParser.bind fun _ => .pure _) _)
  split <;> exact .pure _

/-! ### Keys and values -/

theorem forward_simpleKey : Forward simpleKey := by
  intro cs
  unfold simpleKey
  split
  · exact forward_basicString.map _ _
  · exact forward_literalString.map _ _
  · exact (Forward.takeWhile1 _).map _ _

theorem forward_spacedKey : Forward spacedKey :=
  forward_blanks.bind fun _ => forward_simpleKey.bind fun _ => forward_blanks.bind fun _ => .pure _

theorem forward_key : Forward key :=
  ((forward_spacedKey.separated (.char _)).named _).check _

theorem forward_equalSign : Forward equalSign :=
  (((Forward.char _).expecting _).expecting _).bind fun _ => .pure _

variable {inner : Parser Value}

theorem forward_asString {α : Type} {p : Parser α} (h : Forward p) : Forward (asString p) :=
  ((h.named _).expecting _).expecting _

theorem forward_word (s : List Char) (v : Value) : Forward (word s v) :=
  (Forward.literal _).must.bind fun _ => .pure _

theorem forward_inlinePair (h : Forward inner) : Forward (inlinePair inner) :=
  forward_key.bind fun _ => Forward.must (forward_equalSign.bind fun _ =>
    forward_blanks.bind fun _ => h.bind fun _ => forward_blanks.bind fun _ => .pure _)

theorem forward_inlineTable (h : Forward inner) : Forward (inlineTable inner) :=
  (Forward.char _).bind fun _ =>
    (Forward.check (((forward_inlinePair h).separated (.char _)).optional.bind fun _ =>
      forward_blanks.bind fun _ => .pure _) _).must.bind fun _ =>
        (((Forward.char _).must.named _).expecting _).bind fun _ => .pure _

theorem forward_arrayItem (h : Forward inner) :
    Forward (do arrayGap; let v ← inner; arrayGap; return v) :=
  forward_arrayGap.bind fun _ => h.bind fun _ => forward_arrayGap.bind fun _ => .pure _

theorem forward_array (h : Forward inner) : Forward (array inner) := by
  refine (Forward.char _).bind fun _ => (Forward.must ((Forward.look _).optional.bind fun closed =>
    ?_)).bind fun _ => (((Forward.char _).must.named _).expecting _).bind fun _ => .pure _
  split
  · exact .pure _
  · exact (((forward_arrayItem h).separated (.char _)).bind fun _ =>
      (Forward.char _).optional.bind fun _ => .pure _).optional.bind fun _ =>
        forward_arrayGap.bind fun _ => .pure _

theorem forward_number : Forward number :=
  (forward_datetime.map _).orElse ((forward_float.map _).orElse (forward_integer.map _))

theorem forward_nested {value : Option (Parser Value)} (h : ∀ p ∈ value, Forward p)
    {p : Parser Value → Parser Value} (hp : ∀ {inner}, Forward inner → Forward (p inner)) :
    Forward (nested value p) := by
  unfold nested
  split
  · exact hp (h _ rfl)
  · exact (Forward.refuse _).must

theorem forward_valueWith {value : Option (Parser Value)} (h : ∀ p ∈ value, Forward p) :
    Forward (valueWith value) := by
  intro cs
  unfold valueWith
  split
  · exact Forward.fail _
  · -- one reader for each first character
    exact Forward.ite (forward_string.map _ _) <|
      Forward.ite (forward_nested h forward_array _) <|
      Forward.ite (forward_nested h forward_inlineTable _) <|
      Forward.ite (forward_number _) <|
      Forward.ite ((forward_integer.map _).expecting _ _) <|
      Forward.ite ((forward_float.map _).expecting _ _) <|
      Forward.ite (forward_asString (forward_word _ _) _) <|
      Forward.ite (forward_asString (forward_word _ _) _) <|
      Forward.ite (forward_asString (forward_infinity.map _) _) <|
      Forward.ite (forward_asString (forward_notANumber.map _) _) <|
      forward_asString Forward.fail _

/-- However deep values may be nested. -/
theorem forward_valueWithin (depth : Nat) : Forward (valueWithin depth) := by
  induction depth with
  | zero => exact forward_valueWith fun _ h => absurd h (by simp)
  | succ depth ih =>
    refine forward_valueWith fun p h => ?_
    cases h
    exact ih

theorem forward_value : Forward value := forward_valueWithin _

/-! ### Lines and documents -/

theorem forward_expectingLineEnd {α : Type} {p : Parser α} (h : Forward p) :
    Forward (expectingLineEnd p) := (h.expecting _).expecting _

theorem forward_pairLine (s : State) : Forward (pairLine s) :=
  Forward.check (forward_key.bind fun _ => Forward.must (forward_equalSign.bind fun _ =>
    forward_blanks.bind fun _ => forward_value.bind fun _ =>
      (forward_expectingLineEnd forward_restOfLine).bind fun _ => .pure _)) _

theorem forward_header (opening closing : List Char) : Forward (header opening closing) :=
  (Forward.literal _).bind fun _ => forward_key.must.bind fun _ =>
    (((Forward.literal _).must.expecting _).expecting _).bind fun _ =>
      (forward_expectingLineEnd forward_restOfLine.must).bind fun _ => .pure _

theorem forward_headerLine (s : State) : Forward (headerLine s) := by
  refine Forward.named (fun cs => ?_) _
  split
  · exact (forward_header _ _).check _ _
  · exact (forward_header _ _).check _ _
  · exact Forward.fail _

theorem forward_line (s : State) : Forward (line s) := by
  intro cs
  unfold line
  split
  · exact Forward.fail _
  · have commentLine := forward_comment.bind fun _ => forward_lineEnd.bind fun _ => Forward.pure s
    have emptyLine := forward_newline.bind fun _ => Forward.pure s
    exact Forward.ite (commentLine.must _) <| Forward.ite ((forward_headerLine s).must _) <|
      Forward.ite (emptyLine _) ((forward_pairLine s).must _)

theorem forward_linesFrom (fuel : Nat) (s : State) : Forward (linesFrom fuel s) := by
  induction fuel generalizing s with
  | zero => exact .pure _
  | succ fuel ih =>
    intro cs
    have first : Forward (do let s ← line s; let _ ← blanks; return s : Parser State) :=
      (forward_line s).bind fun _ => forward_blanks.bind fun _ => .pure _
    have first := first cs
    unfold linesFrom
    split
    · next h =>
      rw [h] at first
      exact (ih _ _).trans first
    · -- what is no line is left for the end of the document
      exact List.suffix_refl cs
    · next h =>
      rw [h] at first
      exact first

theorem forward_document : Forward document :=
  (Forward.char _).optional.bind fun _ => forward_blanks.bind fun _ =>
    (show Forward fun cs => linesFrom (cs.length + 1) State.start cs from
      fun cs => forward_linesFrom _ _ cs).bind fun _ => Forward.atEnd.bind fun _ => .pure _

/-! ### Offsets of failures -/

/-- A failure is at the place of a character of the text, or at its end. -/
theorem exists_offset {text : List Char} {f : Failure} (h : parse text = .error f) :
    ∃ before after, text = before ++ after ∧ f.offset = byteLength before := by
  have forward := forward_document text
  unfold parse at h
  split at h
  · next found =>
    cases h
    rw [found] at forward
    obtain ⟨before, rfl⟩ := forward
    refine ⟨before, _, rfl, ?_⟩
    rw [byteLength_append]
    exact Nat.add_sub_cancel _ _
  · split at h
    · cases h
    · cases h
      exact ⟨[], text, rfl, rfl⟩

end Frontmatter.Toml
