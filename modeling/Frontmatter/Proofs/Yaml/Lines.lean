/-
Frontmatter/Proofs/Yaml/Lines.lean

The lines of a YAML text, and the readers of scalars, tags and directives inside of them.

A text with `k` line ends has `k + 1` lines; lines are counted from zero, and a mark at the
end of the text may stand in the line behind the last one.  A cursor is *within* the first `n`
lines if its line, together with the line ends that are left, does not get to `n`
(`Cursor.Within`).  No elementary step leaves these lines: a step over a line end uses up one
that was left, and a step over anything else uses up none.

A computation *stays* within the lines if its result keeps what is asked of it and its problem
is at a mark in line `n` at most (`Stays`).  The readers are put together from the elementary
steps, and each stays within the lines of its cursor.
-/
import Frontmatter.Yaml.Scalar
import Frontmatter.Yaml.Tag

namespace Frontmatter.Yaml

/-! ### Line ends -/

/-- The line ends of a text. -/
def lineEnds : List Char → Nat
  | [] => 0
  | '\r' :: '\n' :: rest => lineEnds rest + 1
  | c :: rest => if isBreak c then lineEnds rest + 1 else lineEnds rest

theorem lineEnds_crlf (rest : List Char) :
    lineEnds ('\r' :: '\n' :: rest) = lineEnds rest + 1 := rfl

theorem lineEnds_of_break {c : Char} {rest : List Char} (h : isBreak c)
    (single : ∀ more, c = '\r' → rest ≠ '\n' :: more) :
    lineEnds (c :: rest) = lineEnds rest + 1 := by
  rw [lineEnds, if_pos h]
  intro more carriage
  exact single more carriage

/-- What is left has no more line ends than the whole.  A carriage return with a line feed is
one line end, and so is the line feed alone. -/
theorem lineEnds_le_cons (c : Char) (rest : List Char) : lineEnds rest ≤ lineEnds (c :: rest) := by
  rw [lineEnds.eq_def (c :: rest)]
  split
  · next h => cases h
  · next more h =>
    cases h
    exact Nat.le_of_eq (lineEnds_of_break (by decide) fun _ h => absurd h (by decide))
  · next h =>
    cases h
    split
    · exact Nat.le_succ _
    · exact Nat.le_refl _

namespace Cursor

/-- The cursor is within the first `n` lines, and will be behind all line ends that are left. -/
def Within (n : Nat) (c : Cursor) : Prop := c.mark.line + lineEnds c.rest < n

variable {n : Nat} {c : Cursor}

/-! ### Elementary steps -/

namespace Within

theorem mark_le (h : c.Within n) : c.mark.line ≤ n := by
  unfold Within at h
  omega

theorem skip (h : c.Within n) : c.skip.Within n := by
  obtain ⟨_ | ⟨ch, rest⟩, m⟩ := c
  · exact h
  · have := lineEnds_le_cons ch rest
    show m.line + lineEnds rest < n
    change m.line + lineEnds (ch :: rest) < n at h
    omega

theorem skips (k : Nat) (h : c.Within n) : (c.skips k).Within n := by
  induction k generalizing c with
  | zero => exact h
  | succ k ih => exact ih h.skip

theorem span_go (p : Char → Bool) (rest : List Char) (m : Mark) (h : Within n ⟨rest, m⟩) :
    (span.go p rest m).2.Within n := by
  induction rest generalizing m with
  | nil => exact h
  | cons ch rest ih =>
    rw [span.go]
    split
    · exact ih _ (skip h)
    · exact h

theorem span (p : Char → Bool) (h : c.Within n) : (c.span p).2.Within n := span_go p _ _ h

theorem skipWhile (p : Char → Bool) (h : c.Within n) : (c.skipWhile p).Within n := h.span p

/-- A step over a line end uses up one line end and gets to one more line. -/
theorem lineEnd (h : c.Within n) : c.lineEnd.2.Within n := by
  obtain ⟨rest, m⟩ := c
  unfold Cursor.lineEnd
  unfold Within at h
  dsimp only at h ⊢
  split
  · next more =>
    -- the carriage return and the line feed are used up together
    show m.line + 1 + lineEnds more < n
    rw [lineEnds_crlf] at h
    omega
  · next ch more single =>
    have step : isBreak ch → m.line + 1 + lineEnds more < n := by
      intro ends
      rw [lineEnds_of_break ends fun tail carriage => single tail carriage] at h
      omega
    split
    · next separator =>
      apply step
      simp only [Bool.or_eq_true, decide_eq_true_eq] at separator
      rcases separator with rfl | rfl <;> decide
    · split
      · next ends => exact step ends
      · exact h
  · exact h

theorem skipLineEnd (h : c.Within n) : c.skipLineEnd.Within n := h.lineEnd

theorem skipComment (h : c.Within n) : c.skipComment.Within n := by
  unfold Cursor.skipComment
  simp only
  split
  · exact (h.skipWhile _).skipWhile _
  · exact h.skipWhile _

end Within
end Cursor

/-! ### Computations -/

/-- The result keeps `P`, and the problem is at a mark in line `n` at most. -/
def Stays {α : Type} (n : Nat) (P : α → Prop) : Except Problem α → Prop
  | .ok a => P a
  | .error p => p.mark.line ≤ n

namespace Stays

variable {α β : Type} {n : Nat} {P : α → Prop} {Q : β → Prop} {x : Except Problem α}

theorem bind {f : α → Except Problem β} (hx : Stays n P x) (hf : ∀ a, P a → Stays n Q (f a)) :
    Stays n Q (x >>= f) := by
  cases x with
  | error p => exact hx
  | ok a => exact hf a hx

theorem mono {P' : α → Prop} (hx : Stays n P x) (h : ∀ a, P a → P' a) : Stays n P' x := by
  cases x with
  | error p => exact hx
  | ok a => exact h a hx

theorem ite {c : Prop} [Decidable c] {y : Except Problem α} (hx : c → Stays n P x)
    (hy : ¬ c → Stays n P y) : Stays n P (if c then x else y) := by
  split
  · next h => exact hx h
  · next h => exact hy h

end Stays

variable {n : Nat} {c : Cursor} {start : Mark}

theorem Cursor.Within.problem {α : Type} {P : α → Prop} (h : c.Within n) (cause : Cause)
    (construct : Construct) (start : Mark) :
    Stays n P (c.problem cause construct start : Except Problem α) := h.mark_le

/-! ### Plain scalars -/

theorem stays_plainPiece (inFlow : Bool) (start : Mark) (fuel : Nat) (text : Collected)
    (h : c.Within n) : Stays n (·.2.Within n) (plainPiece inFlow start fuel c text) := by
  induction fuel generalizing c text with
  | zero => exact h
  | succ fuel ih =>
    rw [plainPiece]
    split
    · exact h
    · refine Stays.ite (fun _ => h) fun _ => Stays.ite (fun _ => ?_) fun _ => ?_
      · exact h.problem _ _ _
      · exact Stays.ite (fun _ => h) fun _ => ih _ h.skip

theorem stays_plainGap (indent : Int) (start : Mark) (fuel : Nat) (g : Gap) (h : c.Within n) :
    Stays n (·.2.Within n) (plainGap indent start fuel c g) := by
  induction fuel generalizing c g with
  | zero => exact h
  | succ fuel ih =>
    rw [plainGap]
    split
    · exact h
    · refine Stays.ite (fun _ => Stays.ite (fun _ => ?_) fun _ => ?_) fun _ => ?_
      · exact h.problem _ _ _
      · exact ih _ h.skip
      · exact Stays.ite (fun _ => ih _ h.lineEnd) fun _ => h

theorem stays_plainPieces (inFlow : Bool) (indent : Int) (start : Mark) (fuel : Nat) (g : Gap)
    (text : Collected) (h : c.Within n) :
    Stays n (·.cursor.Within n) (plainPieces inFlow indent start fuel c g text) := by
  induction fuel generalizing c g text with
  | zero => exact h
  | succ fuel ih =>
    rw [plainPieces]
    refine Stays.ite (fun _ => h) fun _ => ?_
    refine (stays_plainPiece inFlow start _ [] h).bind ?_
    rintro ⟨piece, after⟩ hafter
    refine Stays.ite (fun _ => hafter) fun _ => ?_
    refine (stays_plainGap indent start _ _ hafter).bind ?_
    rintro ⟨g, c⟩ hc
    exact Stays.ite (fun _ => hc) fun _ => ih _ _ hc

theorem stays_plainScalar (inFlow : Bool) (blockIndent : Int) (h : c.Within n) :
    Stays n (·.cursor.Within n) (plainScalar inFlow blockIndent c) :=
  stays_plainPieces inFlow _ _ _ _ _ h

/-! ### Quoted scalars -/

theorem stays_escape (start : Mark) (h : c.Within n) :
    Stays n (·.2.Within n) (escape start c) := by
  unfold escape
  split
  · exact h.problem _ _ _
  · split
    · exact h.skips 2
    · split
      · exact h.problem _ _ _
      · next width _ =>
        have h := h.skips 2
        dsimp only
        split
        · exact h.problem _ _ _
        · exact Stays.ite (fun _ => h.skips width) fun _ => h.problem _ _ _

theorem stays_quotedPiece (quote : Char) (start : Mark) (fuel : Nat) (text : Collected)
    (h : c.Within n) : Stays n (·.2.2.Within n) (quotedPiece quote start fuel c text) := by
  induction fuel generalizing c text with
  | zero => exact h
  | succ fuel ih =>
    rw [quotedPiece]
    split
    · exact h
    · refine Stays.ite (fun _ => h) fun _ => Stays.ite (fun _ => ih _ (h.skips 2)) fun _ => ?_
      refine Stays.ite (fun _ => h) fun _ => Stays.ite (fun _ => ?_) fun _ => ih _ h.skip
      refine Stays.ite (fun _ => h.skip.skipLineEnd) fun _ => ?_
      refine (stays_escape start h).bind ?_
      rintro ⟨escaped, c⟩ hc
      exact ih _ hc

theorem within_quotedGap (fuel : Nat) (g : Gap) (h : c.Within n) :
    (quotedGap fuel c g).2.Within n := by
  induction fuel generalizing c g with
  | zero => exact h
  | succ fuel ih =>
    rw [quotedGap]
    split
    · exact h
    · split
      · exact ih _ h.skip
      · split
        · exact ih _ h.lineEnd
        · exact h

theorem stays_quotedPieces (quote : Char) (start : Mark) (fuel : Nat) (text : Collected)
    (h : c.Within n) : Stays n (·.2.Within n) (quotedPieces quote start fuel c text) := by
  induction fuel generalizing c text with
  | zero => exact h.problem _ _ _
  | succ fuel ih =>
    rw [quotedPieces]
    refine Stays.ite (fun _ => h.problem _ _ _) fun _ => ?_
    refine Stays.ite (fun _ => h.problem _ _ _) fun _ => ?_
    refine (stays_quotedPiece quote start _ text h).bind ?_
    rintro ⟨text, escapedBreak, c⟩ hc
    have gap := within_quotedGap (c.rest.length + 1) { Gap.empty with broken := escapedBreak } hc
    exact Stays.ite (fun _ => hc.skip) fun _ => ih _ gap

theorem stays_quotedScalar (quote : Char) (h : c.Within n) :
    Stays n (·.2.Within n) (quotedScalar quote c) :=
  stays_quotedPieces quote _ _ _ h.skip

/-! ### Block scalars -/

theorem within_chompSign (h : c.Within n) : (chompSign c).2.Within n := by
  unfold chompSign
  split
  · exact h.skip
  · exact h

theorem stays_indentDigit (start : Mark) (h : c.Within n) :
    Stays n (·.2.Within n) (indentDigit start c) := by
  unfold indentDigit
  split
  · refine Stays.ite (fun _ => h.problem _ _ _) fun _ => ?_
    exact Stays.ite (fun _ => h.skip) fun _ => h
  · exact h

theorem stays_blockHeader (start : Mark) (h : c.Within n) :
    Stays n (·.2.2.Within n) (blockHeader start c) := by
  have sign := within_chompSign h
  unfold blockHeader
  rcases found : chompSign c with ⟨_ | chomp, d⟩ <;> rw [found] at sign
  · refine (stays_indentDigit start sign).bind ?_
    rintro ⟨increment, c⟩ hc
    exact Stays.ite (fun _ => hc) fun _ => within_chompSign hc
  · refine (stays_indentDigit start sign).bind ?_
    rintro ⟨increment, c⟩ hc
    exact hc

theorem stays_blankLines (indent : Nat) (start : Mark) (fuel deepest : Nat) (breaks : Collected)
    (h : c.Within n) :
    Stays n (·.2.2.Within n) (blankLines indent start fuel c deepest breaks) := by
  induction fuel generalizing c deepest breaks with
  | zero => exact h
  | succ fuel ih =>
    rw [blankLines]
    -- the blanks before the line may be counted or not; the line is the same
    generalize indented : (if indent = 0 then c.skipWhile (· = ' ')
      else c.skips (min (indent - c.mark.column) (c.rest.takeWhile (· = ' ')).length)) = d
    have hd : d.Within n := by
      rw [← indented]
      split
      · exact h.skipWhile _
      · exact h.skips _
    refine Stays.ite (fun _ => hd.problem _ _ _) fun _ => ?_
    exact Stays.ite (fun _ => ih _ _ hd.lineEnd) fun _ => hd

theorem stays_blockLines (folded : Bool) (indent : Nat) (start : Mark) (fuel : Nat)
    (afterBlank : Bool) (pending : List Char) (breaks text : Collected) (h : c.Within n) :
    Stays n (·.2.2.2.Within n)
      (blockLines folded indent start fuel c afterBlank pending breaks text) := by
  induction fuel generalizing c afterBlank pending breaks text with
  | zero => exact h
  | succ fuel ih =>
    rw [blockLines]
    refine Stays.ite (fun _ => h) fun _ => ?_
    refine (stays_blankLines indent start _ _ _ (h.span (!isBreak ·)).lineEnd).bind ?_
    rintro ⟨breaks, deepest, c⟩ hc
    exact ih _ _ _ _ hc

theorem stays_blockScalar (folded : Bool) (blockIndent : Int) (h : c.Within n) :
    Stays n (·.2.Within n) (blockScalar folded blockIndent c) := by
  unfold blockScalar
  refine (stays_blockHeader c.mark h.skip).bind ?_
  rintro ⟨chomp, increment, d⟩ hd
  refine Stays.ite (fun _ => hd.skipComment.problem _ _ _) fun _ => ?_
  refine (stays_blankLines _ c.mark _ _ _ hd.skipComment.skipLineEnd).bind ?_
  rintro ⟨breaks, deepest, d⟩ hd
  refine (stays_blockLines folded _ c.mark _ _ _ _ _ hd).bind ?_
  rintro ⟨text, pending, breaks, d⟩ hd
  exact hd

/-! ### Tags and anchors -/

theorem stays_escapedByte (construct : Construct) (start : Mark) (h : c.Within n) :
    Stays n (·.2.Within n) (escapedByte construct start c) := by
  unfold escapedByte
  dsimp only
  split
  · exact h.skips 3
  · exact h.problem _ _ _

theorem stays_trailingBytes (construct : Construct) (start : Mark) (count : Nat)
    (h : c.Within n) : Stays n (·.2.Within n) (trailingBytes construct start count c) := by
  induction count generalizing c with
  | zero => exact h
  | succ count ih =>
    rw [trailingBytes]
    refine (stays_escapedByte construct start h).bind ?_
    rintro ⟨byte, after⟩ hafter
    refine Stays.ite (fun _ => ?_) fun _ => h.problem _ _ _
    refine (ih hafter).bind ?_
    rintro ⟨bytes, after⟩ hafter
    exact hafter

theorem stays_escapedChar (construct : Construct) (start : Mark) (h : c.Within n) :
    Stays n (·.2.Within n) (escapedChar construct start c) := by
  unfold escapedChar
  refine (stays_escapedByte construct start h).bind ?_
  rintro ⟨byte, after⟩ hafter
  dsimp only
  split
  · exact h.problem _ _ _
  · refine (stays_trailingBytes construct start _ hafter).bind ?_
    rintro ⟨bytes, after⟩ hafter
    exact hafter

theorem stays_tagChars (verbatim : Bool) (construct : Construct) (start : Mark) (fuel : Nat)
    (h : c.Within n) : Stays n (·.2.Within n) (tagChars verbatim construct start fuel c) := by
  induction fuel generalizing c with
  | zero => exact h
  | succ fuel ih =>
    rw [tagChars]
    split
    · exact h
    · refine Stays.ite (fun _ => ?_) fun _ => Stays.ite (fun _ => ?_) fun _ => h
      · refine (stays_escapedChar construct start h).bind ?_
        rintro ⟨escaped, c⟩ hc
        refine (ih hc).bind ?_
        rintro ⟨more, c⟩ hc
        exact hc
      · refine (ih h.skip).bind ?_
        rintro ⟨more, c⟩ hc
        exact hc

theorem stays_tagText (verbatim : Bool) (construct : Construct) (start : Mark)
    (before : List Char) (h : c.Within n) :
    Stays n (·.2.Within n) (tagText verbatim construct start before c) := by
  unfold tagText
  refine (stays_tagChars verbatim construct start _ h).bind ?_
  rintro ⟨text, c⟩ hc
  exact Stays.ite (fun _ => hc.problem _ _ _) fun _ => hc

theorem stays_tagHandle (directive : Bool) (start : Mark) (h : c.Within n) :
    Stays n (·.2.Within n) (tagHandle directive start c) := by
  have name := h.skip.span isNameChar
  unfold tagHandle
  refine Stays.ite (fun _ => h.problem _ _ _) fun _ => ?_
  refine Stays.ite (fun _ => name.skip) fun _ => ?_
  exact Stays.ite (fun _ => name.problem _ _ _) fun _ => name

theorem stays_tagParts (start : Mark) (h : c.Within n) :
    Stays n (·.2.2.Within n) (tag.tagParts start c) := by
  unfold tag.tagParts
  refine Stays.ite (fun _ => ?_) fun _ => ?_
  · refine (stays_tagText true .tagPart start [] (h.skips 2)).bind ?_
    rintro ⟨text, c⟩ hc
    exact Stays.ite (fun _ => hc.skip) fun _ => hc.problem _ _ _
  · refine (stays_tagHandle false start h).bind ?_
    rintro ⟨handle, c⟩ hc
    refine Stays.ite (fun _ => ?_) fun _ => ?_
    · refine (stays_tagText false .tagPart start [] hc).bind ?_
      rintro ⟨text, c⟩ hc
      exact hc
    · refine (stays_tagText false .tagPart start handle hc).bind ?_
      rintro ⟨text, c⟩ hc
      exact Stays.ite (fun _ => hc) fun _ => hc

theorem stays_tag (inFlow : Bool) (h : c.Within n) :
    Stays n (·.2.2.Within n) (tag inFlow c) := by
  unfold tag
  refine (stays_tagParts c.mark h).bind ?_
  rintro ⟨handle, rest, d⟩ hd
  exact Stays.ite (fun _ => hd) fun _ => hd.problem _ _ _

theorem stays_anchorName (construct : Construct) (h : c.Within n) :
    Stays n (·.2.Within n) (anchorName construct c) := by
  have name := h.skip.span isNameChar
  unfold anchorName
  exact Stays.ite (fun _ => name) fun _ => name.problem _ _ _

/-! ### Directives -/

theorem stays_versionNumber (start : Mark) (fuel count value : Nat) (h : c.Within n) :
    Stays n (·.2.Within n) (versionNumber start fuel count value c) := by
  induction fuel generalizing c count value with
  | zero =>
    rw [versionNumber]
    refine Stays.ite (fun _ => h.problem _ _ _) fun _ => ?_
    exact Stays.ite (fun _ => h.problem _ _ _) fun _ => h
  | succ fuel ih =>
    rw [versionNumber]
    split
    · refine Stays.ite (fun _ => ih _ _ h.skip) fun _ => ?_
      exact Stays.ite (fun _ => h.problem _ _ _) fun _ => h
    · exact Stays.ite (fun _ => h.problem _ _ _) fun _ => h

theorem stays_versionValue (start : Mark) (h : c.Within n) :
    Stays n (·.2.Within n) (versionValue start c) := by
  unfold versionValue
  refine (stays_versionNumber start 9 0 0 (h.skipWhile isBlank)).bind ?_
  rintro ⟨major, c⟩ hc
  refine Stays.ite (fun _ => hc.problem _ _ _) fun _ => ?_
  refine (stays_versionNumber start 9 0 0 hc.skip).bind ?_
  rintro ⟨minor, c⟩ hc
  exact hc

theorem stays_tagValue (start : Mark) (h : c.Within n) :
    Stays n (·.2.Within n) (tagValue start c) := by
  unfold tagValue
  refine (stays_tagHandle true start (h.skipWhile isBlank)).bind ?_
  rintro ⟨handle, c⟩ hc
  refine Stays.ite (fun _ => hc.problem _ _ _) fun _ => ?_
  refine (stays_tagText true .tagDirectivePart start [] (hc.skipWhile isBlank)).bind ?_
  rintro ⟨stands, c⟩ hc
  exact Stays.ite (fun _ => hc.problem _ _ _) fun _ => hc

theorem stays_directive (h : c.Within n) : Stays n (·.2.Within n) (directive c) := by
  have name := h.skip.span isNameChar
  unfold directive
  refine Stays.ite (fun _ => name.problem _ _ _) fun _ => ?_
  refine Stays.ite (fun _ => name.problem _ _ _) fun _ => ?_
  -- whatever the value was read by, the rest of the line comes after it
  have restOfLine : ∀ value : Directive × Cursor, value.2.Within n →
      Stays n (·.2.Within n) (if !value.2.skipComment.atLineEnd then
          value.2.skipComment.problem .noCommentOrBreak .directive c.mark
        else .ok (value.1, value.2.skipComment.skipLineEnd)) := by
    intro value hd
    exact Stays.ite (fun _ => hd.skipComment.problem _ _ _) fun _ => hd.skipComment.skipLineEnd
  refine Stays.ite (fun _ => (stays_versionValue _ name).bind restOfLine) fun _ => ?_
  refine Stays.ite (fun _ => (stays_tagValue _ name).bind restOfLine) fun _ => ?_
  exact name.problem _ _ _

end Frontmatter.Yaml
