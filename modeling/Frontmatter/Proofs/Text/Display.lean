/-
Frontmatter/Proofs/Text/Display.lean

The text that displays a location tells the location.

The text is the line and the column with a colon in between, behind the file's name and one
more colon if there is a file.  Any text may be the name, so a name may end in what looks like
a line and a column.  But no number has a colon in it: the last colon of the text stands
before the column, and the last one of what is left, if there is any, before the line.

`Parts.ofText?` cuts a text at these two colons, and finds the parts that the text was made of
and no others (`Parts.ofText?_eq_some_iff`).  `ofDisplay?` reads the two numbers as well: it
takes the texts that display a location, and no others (`ofDisplay?_eq_some_iff`).
`display_determines_location` adds the shifts from blocks to documents, which change the line
in the text and leave the other parts alone.  The numbers of a place are words, so the shifts
are said of lines whose sum is one.
-/
import Frontmatter.Text.Location
import Mathlib.Algebra.Ring.Nat

namespace Frontmatter
namespace Location

/-! ### The last colon -/

/-- A text cut at its last colon, which is in neither part. -/
def cutAtColon? : List Char → Option (List Char × List Char)
  | [] => none
  | c :: rest =>
    match cutAtColon? rest with
    | some (front, back) => some (c :: front, back)
    | none => if c = ':' then some ([], rest) else none

variable {cs front back : List Char}

theorem cutAtColon?_cons_of_some (c : Char) (h : cutAtColon? cs = some (front, back)) :
    cutAtColon? (c :: cs) = some (c :: front, back) := by
  rw [cutAtColon?, h]

theorem cutAtColon?_cons_of_none (c : Char) (h : cutAtColon? cs = none) :
    cutAtColon? (c :: cs) = if c = ':' then some ([], cs) else none := by
  rw [cutAtColon?, h]

theorem cutAtColon?_of_not_mem (h : ':' ∉ cs) : cutAtColon? cs = none := by
  induction cs with
  | nil => rfl
  | cons c cs ih =>
    have other := (List.ne_of_not_mem_cons h).symm
    rw [cutAtColon?_cons_of_none c (ih (List.not_mem_of_not_mem_cons h)), if_neg other]

theorem cutAtColon?_append (front : List Char) (h : ':' ∉ back) :
    cutAtColon? (front ++ ':' :: back) = some (front, back) := by
  induction front with
  | nil =>
    rw [List.nil_append, cutAtColon?_cons_of_none ':' (cutAtColon?_of_not_mem h), if_pos rfl]
  | cons c front ih => exact cutAtColon?_cons_of_some c ih

theorem not_mem_of_cutAtColon? (h : cutAtColon? cs = none) : ':' ∉ cs := by
  intro colon
  -- the last colon is the first one of the text read from its end
  obtain ⟨back, front, reversed, last⟩ :=
    List.eq_append_cons_of_mem (List.mem_reverse.mpr colon)
  have split : cs = front.reverse ++ ':' :: back.reverse := by
    rw [← List.reverse_reverse cs, reversed]
    simp
  rw [split, cutAtColon?_append _ (fun h => last (List.mem_reverse.mp h))] at h
  cases h

theorem eq_append_of_cutAtColon? (h : cutAtColon? cs = some (front, back)) :
    cs = front ++ ':' :: back ∧ ':' ∉ back := by
  induction cs generalizing front with
  | nil => cases h
  | cons c cs ih =>
    -- the text is cut at its first character only if there is no colon behind it
    cases cut : cutAtColon? cs with
    | some parts =>
      rw [cutAtColon?_cons_of_some c cut] at h
      cases h
      obtain ⟨split, last⟩ := ih cut
      exact ⟨congrArg (c :: ·) split, last⟩
    | none =>
      rw [cutAtColon?_cons_of_none c cut] at h
      split at h
      · next colon =>
        cases h
        exact ⟨congrArg (· :: _) colon, not_mem_of_cutAtColon? cut⟩
      · cases h

/-! ### The parts of a text -/

/-- The file's name if there is one, the line and the column, as they are displayed. -/
structure Parts where
  file : Option String
  line : String
  column : String
deriving DecidableEq

/-- The number that a text displays.  No number is displayed with zeros in front. -/
def number? (s : String) : Option Nat :=
  let n := Nat.ofDigitChars 10 s.toList 0
  if s = Nat.repr n then some n else none

theorem number?_eq_some_iff {s : String} {n : Nat} : number? s = some n ↔ s = Nat.repr n := by
  constructor
  · intro h
    rw [number?] at h
    split at h
    · next shown =>
      cases h
      exact shown
    · cases h
  · rintro rfl
    rw [number?, Nat.toList_repr, Nat.ofDigitChars_ten_toDigits, if_pos rfl]

/-- A number has no colon in it. -/
theorem colon_not_mem_repr (n : Nat) : ':' ∉ (Nat.repr n).toList := by
  intro h
  rw [Nat.toList_repr] at h
  have digit : ':'.isDigit = true := Nat.isDigit_of_mem_toDigits (by decide) (by decide) h
  cases digit

/-- A location as it is displayed, part by part. -/
def parts (l : Location) : Parts := ⟨l.file, Nat.repr l.line, Nat.repr l.column⟩

namespace Parts

/-- The parts with colons in between. -/
def text (p : Parts) : String :=
  match p.file with
  | some file => file ++ ":" ++ p.line ++ ":" ++ p.column
  | none => p.line ++ ":" ++ p.column

/-- What the parts but the column make up. -/
def beforeColumn (p : Parts) : List Char :=
  match p.file with
  | some file => file.toList ++ ':' :: p.line.toList
  | none => p.line.toList

/-- The parts with a given column, and what the others make up cut at its last colon. -/
def ofBeforeColumn (cs : List Char) (column : String) : Parts :=
  match cutAtColon? cs with
  | some (file, line) => ⟨some (String.ofList file), String.ofList line, column⟩
  | none => ⟨none, String.ofList cs, column⟩

/-- The parts of a text that is cut at its last two colons, or at the only one. -/
def ofText? (text : String) : Option Parts :=
  (cutAtColon? text.toList).map fun cut => ofBeforeColumn cut.1 (String.ofList cut.2)

/-- The place that the parts name, if the line and the column are numbers. -/
def location? (p : Parts) : Option Location :=
  (number? p.line).bind fun line => (number? p.column).map fun column => ⟨p.file, line, column⟩

theorem toList_text (p : Parts) : p.text.toList = p.beforeColumn ++ ':' :: p.column.toList := by
  obtain ⟨_ | file, line, column⟩ := p <;> simp [text, beforeColumn]

theorem ofBeforeColumn_beforeColumn {p : Parts} (h : ':' ∉ p.line.toList) :
    ofBeforeColumn p.beforeColumn p.column = p := by
  obtain ⟨_ | file, line, column⟩ := p
  · simp only [ofBeforeColumn, beforeColumn, cutAtColon?_of_not_mem h, String.ofList_toList]
  · simp only [ofBeforeColumn, beforeColumn, cutAtColon?_append _ h, String.ofList_toList]

theorem column_ofBeforeColumn (cs : List Char) (column : String) :
    (ofBeforeColumn cs column).column = column := by
  unfold ofBeforeColumn
  split <;> rfl

theorem beforeColumn_ofBeforeColumn (cs : List Char) (column : String) :
    (ofBeforeColumn cs column).beforeColumn = cs ∧
      ':' ∉ (ofBeforeColumn cs column).line.toList := by
  unfold ofBeforeColumn
  split
  · next file line cut =>
    obtain ⟨rfl, last⟩ := eq_append_of_cutAtColon? cut
    simp only [beforeColumn, String.toList_ofList]
    exact ⟨trivial, last⟩
  · next cut =>
    simp only [beforeColumn, String.toList_ofList]
    exact ⟨trivial, not_mem_of_cutAtColon? cut⟩

/-- A text has the parts that it was made of and no others, if the line and the column have no
colon.  The file's name may have some. -/
theorem ofText?_eq_some_iff {text : String} {p : Parts} :
    ofText? text = some p ↔ text = p.text ∧ ':' ∉ p.line.toList ∧ ':' ∉ p.column.toList := by
  constructor
  · intro h
    obtain ⟨⟨front, column⟩, cut, rfl⟩ := Option.map_eq_some_iff.mp h
    obtain ⟨split, last⟩ := eq_append_of_cutAtColon? cut
    obtain ⟨whole, hline⟩ := beforeColumn_ofBeforeColumn front (String.ofList column)
    refine ⟨String.toList_inj.mp ?_, hline, ?_⟩
    · rw [toList_text, whole, column_ofBeforeColumn, String.toList_ofList, split]
    · rwa [column_ofBeforeColumn, String.toList_ofList]
  · rintro ⟨rfl, hline, hcolumn⟩
    rw [ofText?, toList_text, cutAtColon?_append _ hcolumn, Option.map_some, String.ofList_toList,
      ofBeforeColumn_beforeColumn hline]

theorem location?_eq_some_iff {p : Parts} {l : Location} :
    p.location? = some l ↔ p = l.parts := by
  constructor
  · intro h
    obtain ⟨line, hline, h⟩ := Option.bind_eq_some_iff.mp h
    obtain ⟨column, hcolumn, rfl⟩ := Option.map_eq_some_iff.mp h
    rw [parts, ← number?_eq_some_iff.mp hline, ← number?_eq_some_iff.mp hcolumn]
  · rintro rfl
    rw [location?, parts, number?_eq_some_iff.mpr rfl, number?_eq_some_iff.mpr rfl]
    rfl

end Parts

/-! ### The parts of a location -/

theorem display_eq_text (l : Location) : l.display = l.parts.text := rfl

theorem ofText?_display (l : Location) : Parts.ofText? l.display = some l.parts :=
  Parts.ofText?_eq_some_iff.mpr
    ⟨display_eq_text l, colon_not_mem_repr l.line, colon_not_mem_repr l.column⟩

/-- The location that a text displays. -/
def ofDisplay? (text : String) : Option Location := (Parts.ofText? text).bind Parts.location?

theorem ofDisplay?_eq_some_iff {text : String} {l : Location} :
    ofDisplay? text = some l ↔ text = l.display := by
  constructor
  · intro h
    obtain ⟨p, cut, read⟩ := Option.bind_eq_some_iff.mp h
    obtain rfl := Parts.location?_eq_some_iff.mp read
    obtain ⟨whole, -, -⟩ := Parts.ofText?_eq_some_iff.mp cut
    exact whole
  · rintro rfl
    rw [ofDisplay?, ofText?_display]
    exact Parts.location?_eq_some_iff.mpr rfl

theorem ofDisplay?_display (l : Location) : ofDisplay? l.display = some l :=
  ofDisplay?_eq_some_iff.mpr rfl

/-! ### Shifts -/

/-- The line and the column are words, as all numbers of a place are. -/
def IsWords (l : Location) : Prop := l.line < 2 ^ 64 ∧ l.column < 2 ^ 64

instance (l : Location) : Decidable l.IsWords := by unfold IsWords; infer_instance

/-- Shifts one after the other are one shift by their sum. -/
theorem foldl_shift (l : Location) (lines : List Nat) :
    lines.foldl shift l = l.shift lines.sum := by
  induction lines generalizing l with
  | nil => rfl
  | cons n lines ih =>
    rw [List.foldl_cons, ih, List.sum_cons, shift, shift, shift, Nat.add_assoc]

/-- No addition on the way passes the words, if the last one does not. -/
theorem isWords_foldl_shift_take {l : Location} (words : l.IsWords) {lines : List Nat}
    (bound : l.line + lines.sum < 2 ^ 64) (k : Nat) : ((lines.take k).foldl shift l).IsWords := by
  have part : (lines.take k).sum + (lines.drop k).sum = lines.sum := by
    rw [← List.sum_append, List.take_append_drop]
  rw [foldl_shift]
  refine ⟨?_, words.2⟩
  show l.line + (lines.take k).sum < 2 ^ 64
  omega

/-- The text that displays a location tells the file, the line and the column: no other location
has the same text.  It tells them to a reader that cuts the text at its last two colons, or at
the only one, and this reader takes no text but those of locations.

Shifts, however many, change the text by their sum, which is added to the line: in the shifted
text the reader finds the same file and the same column.  The line and the column are words, and
so is the line with the sum; then all lines on the way are words, and no addition wraps around. -/
theorem display_determines_location :
    Function.Injective display ∧
      (∀ text l, ofDisplay? text = some l ↔ text = l.display) ∧
      ∀ (l : Location) (lines : List Nat), l.IsWords → l.line + lines.sum < 2 ^ 64 →
        (∀ k, ((lines.take k).foldl shift l).IsWords) ∧
        (lines.foldl shift l).display = display { l with line := l.line + lines.sum } ∧
        Parts.ofText? (lines.foldl shift l).display =
          some { l.parts with line := Nat.repr (l.line + lines.sum) } ∧
        ofDisplay? (lines.foldl shift l).display =
          some { l with line := l.line + lines.sum } := by
  refine ⟨?unambiguous, fun text l => ofDisplay?_eq_some_iff, ?shifted⟩
  case unambiguous =>
    intro l l' same
    have read : ofDisplay? l.display = some l' := ofDisplay?_eq_some_iff.mpr same
    rw [ofDisplay?_display] at read
    exact Option.some.inj read
  case shifted =>
    intro l lines words bound
    refine ⟨isWords_foldl_shift_take words bound, ?_⟩
    rw [foldl_shift]
    exact ⟨rfl, ofText?_display _, ofDisplay?_display _⟩

/-- A file whose name ends in a line and a column, and a file without a name. -/
theorem display_determines_location_among_colons :
    (inText 3 7).display ≠ display ⟨some "", 3, 7⟩ ∧
      IsWords ⟨some "a:3", 2, 4⟩ ∧ 2 + [1, 10].sum < 2 ^ 64 ∧
      ([1, 10].foldl shift ⟨some "a:3", 2, 4⟩).display = "a:3:13:4" ∧
      ofDisplay? "a:3:13:4" = some ⟨some "a:3", 13, 4⟩ := by
  obtain ⟨unambiguous, read, shifted⟩ := display_determines_location
  have words : IsWords ⟨some "a:3", 2, 4⟩ := by decide
  have bound : 2 + [1, 10].sum < 2 ^ 64 := by decide
  obtain ⟨-, text, -, place⟩ := shifted ⟨some "a:3", 2, 4⟩ [1, 10] words bound
  refine ⟨fun same => ?_, words, bound, text, place⟩
  cases unambiguous same

end Location
end Frontmatter
