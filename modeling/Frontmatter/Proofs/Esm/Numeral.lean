/-
Frontmatter/Proofs/Esm/Numeral.lean

The numbers that a literal contains, as the lexer of modules reads them.

A `Numeral` is a number without a sign in its three parts: the whole part, the
fraction and the exponent.  A well-formed one is read as one token whose raw
text is the numeral itself (`tokenAt_numeral`), and its value depends on
nothing else (`Numeral.value`).

Every number has a literal of that kind, with a minus sign in front of a
negative one (`Number.literal_eq`, `Number.wellFormed_numeral`).
-/
import Frontmatter.Decimal.Reading
import Frontmatter.Proofs.Decimal.Shortest
import Frontmatter.Proofs.Esm.Lexeme

namespace Frontmatter

/-! ### Rows of digits -/

theorem appendDigits_append (n : Nat) (ds es : List Char) :
    appendDigits n (ds ++ es) = appendDigits (appendDigits n ds) es := List.foldl_append

/-- Digits make up the number that `Nat.ofDigitChars` makes of them. -/
theorem appendDigits_eq_ofDigitChars (n : Nat) (ds : List Char) :
    appendDigits n ds = Nat.ofDigitChars 10 ds n := by
  induction ds generalizing n with
  | nil => rfl
  | cons d ds ih =>
    rw [Nat.ofDigitChars_cons, ← ih, Nat.mul_comm 10]
    rfl

theorem appendDigits_eq (n : Nat) (ds : List Char) :
    appendDigits n ds = n * 10 ^ ds.length + appendDigits 0 ds := by
  rw [appendDigits_eq_ofDigitChars, appendDigits_eq_ofDigitChars,
    Nat.ofDigitChars_eq_ofDigitChars_zero, Nat.mul_comm]

theorem appendDigits_zeros (n k : Nat) :
    appendDigits n (List.replicate k '0') = n * 10 ^ k := by
  rw [appendDigits_eq_ofDigitChars, Nat.ofDigitChars_replicate_zero, Nat.mul_comm]

theorem appendDigits_toDigits (n : Nat) : appendDigits 0 (Nat.toDigits 10 n) = n := by
  rw [appendDigits_eq_ofDigitChars, Nat.ofDigitChars_ten_toDigits]

/-! ### Numerals -/

/-- A number without a sign: the digits of the whole part, those of the
fraction, and the exponent with whether it is negative. -/
structure Numeral where
  whole : List Char
  fraction : Option (List Char)
  exponent : Option (Bool × List Char)

namespace Numeral

/-- The sign of an exponent and its digits. -/
def exponentChars : Bool × List Char → List Char
  | (true, ds) => '-' :: ds
  | (false, ds) => ds

/-- What follows the whole part. -/
def tail (n : Numeral) : List Char :=
  (match n.fraction with
    | some ds => '.' :: ds
    | none => []) ++ (match n.exponent with
    | some e => 'e' :: exponentChars e
    | none => [])

def chars (n : Numeral) : List Char := n.whole ++ n.tail

/-- The parts are digits, the whole part has one and begins with a zero only if
it is zero, and an exponent has digits. -/
structure WellFormed (n : Numeral) : Prop where
  digits : n.whole.all Char.isDigit = true
  nonempty : n.whole ≠ []
  zero : n.whole.head? = some '0' → n.whole = ['0']
  fraction : ∀ ds ∈ n.fraction, ds.all Char.isDigit = true
  exponent : ∀ e ∈ n.exponent, e.2 ≠ [] ∧ e.2.all Char.isDigit = true

theorem WellFormed.whole_eq {n : Numeral} (h : n.WellFormed) :
    ∃ d ds, n.whole = d :: ds ∧ d.isDigit = true ∧ ds.all Char.isDigit = true := by
  have hds := h.digits
  cases e : n.whole with
  | nil => exact absurd e h.nonempty
  | cons d ds =>
    rw [e, List.all_cons, Bool.and_eq_true] at hds
    exact ⟨d, ds, rfl, hds⟩

/-- The digits around the point as one natural. -/
def digits (n : Numeral) : Nat := appendDigits (appendDigits 0 n.whole) (n.fraction.getD [])

/-- How many of the digits stand behind the point. -/
def places (n : Numeral) : Nat := (n.fraction.getD []).length

/-- The power of ten of an exponent. -/
def power : Bool × List Char → Int
  | (down, ds) => if down then -(appendDigits 0 ds : Int) else appendDigits 0 ds

/-- The power of ten of an exponent that may be missing. -/
def powerOf : Option (Bool × List Char) → Int
  | some e => power e
  | none => 0

/-- The value that the lexer of modules gives to a numeral: the double nearest to what is
written. -/
def value (n : Numeral) : Esm.NumericValue :=
  Esm.Lexer.numericValue (match n.fraction, n.exponent with
    | none, none => Binary64.nearest false n.digits 1
    | _, _ => Binary64.ofDecimal false n.digits (powerOf n.exponent - n.places))

end Numeral

namespace Esm.Lexer

/-! ### Digits -/

theorem digitOf?_of_isDigit {c : Char} (h : c.isDigit = true) :
    digitOf? 10 c = some (c.toNat - 48) := by
  have hlt : c.toNat - 48 < 10 := by
    simp only [Char.isDigit, Bool.and_eq_true, decide_eq_true_eq] at h
    have h₂ : c.toNat ≤ 57 := h.2
    omega
  simp [digitOf?, digitValue?, h, hlt]

theorem digitOf?_of_not_isDigit {c : Char} (h : c.isDigit = false) : digitOf? 10 c = none := by
  unfold digitOf? digitValue?
  rw [h, if_neg (by decide)]
  split
  · next v hv =>
    refine if_neg ?_
    have ge : ∀ {a : Char}, a ≤ c → a.toNat ≤ c.toNat := fun h => h
    split at hv
    · next hc =>
      have := ge hc.1
      simp at hv this
      omega
    · split at hv
      · next hc =>
        have := ge hc.1
        simp at hv this
        omega
      · cases hv
  · rfl

/-- The text does not go on with a digit or a separator. -/
def EndsDigits (cs : List Char) : Prop := ∀ c ∈ cs.head?, c.isDigit = false ∧ c ≠ '_'

/-- The largest of some digits. -/
def largestDigit (n : Nat) (ds : List Char) : Nat :=
  ds.foldl (fun n c => max n (c.toNat - 48)) n

theorem digits_append {ds cs : List Char} (hds : ds.all Char.isDigit = true)
    (hcs : EndsDigits cs) (start : Nat) :
    ∀ (before : Option Char) (pos : Nat) (run : Run),
      digits 10 start before (ds ++ cs) pos run
        = { run with
            value := appendDigits run.value ds
            count := run.count + ds.length
            largest := largestDigit run.largest ds
            chars := ds.reverse ++ run.chars
            rest := cs
            pos := pos + ds.length } := by
  induction ds with
  | nil =>
    intro before pos run
    cases cs with
    | nil => rfl
    | cons c cs =>
      -- what follows is neither a digit nor a separator, so the run ends
      obtain ⟨h₁, h₂⟩ := hcs c rfl
      rw [List.nil_append, digits, if_neg h₂, digitOf?_of_not_isDigit h₁]
      rfl
  | cons d ds ih =>
    intro before pos run
    rw [List.all_cons, Bool.and_eq_true] at hds
    have hd : d ≠ '_' := by
      rintro rfl
      exact absurd hds.1 (by decide)
    rw [List.cons_append, digits, if_neg hd, digitOf?_of_isDigit hds.1]
    simp only
    rw [ih hds.2]
    simp [appendDigits, largestDigit, Nat.add_assoc, Nat.add_comm 1]

theorem readDigits_append {ds cs : List Char} (hds : ds.all Char.isDigit = true)
    (hcs : EndsDigits cs) (before : Option Char) (pos : Nat) :
    readDigits 10 before (ds ++ cs) pos
      = ⟨appendDigits 0 ds, ds.length, largestDigit 0 ds, ds, cs, pos + ds.length, []⟩ := by
  simp [readDigits, digits_append hds hcs]

/-! ### Numbers -/

/-- The text does not go on with a number, and no word follows at once. -/
def EndsNumber (cs : List Char) : Prop :=
  ∀ c ∈ cs.head?, isWordStart c = false ∧ c.isDigit = false ∧ c ≠ '.'

theorem EndsNumber.endsDigits {cs : List Char} (h : EndsNumber cs) : EndsDigits cs := by
  intro c hc
  obtain ⟨hw, hd, -⟩ := h c hc
  refine ⟨hd, ?_⟩
  rintro rfl
  exact absurd hw (by decide)

theorem EndsNumber.head_ne {cs : List Char} (h : EndsNumber cs) {c : Char}
    (hc : isWordStart c = true) : cs.head? ≠ some c := by
  intro e
  exact absurd (h c e).1 (by rw [hc]; decide)

theorem endNumber_of_ends {cs : List Char} (h : EndsNumber cs) (whole : List Char) (start : Nat)
    (value : NumericValue) (pos : Nat) :
    endNumber whole start value cs pos []
      = ⟨.num value (spanText whole start pos), cs, pos, []⟩ := by
  cases cs with
  | nil => rfl
  | cons c cs =>
    rw [endNumber, (h c rfl).1]
    rfl

theorem ne_of_isDigit {c d : Char} (h : c.isDigit = true) (hd : d.isDigit = false) : c ≠ d := by
  rintro rfl
  rw [h] at hd
  cases hd

/-- The digits of an exponent, with its sign, are read up to their end. -/
theorem exponent_append {e : Bool × List Char} (he : e.2 ≠ [] ∧ e.2.all Char.isDigit = true)
    {cs : List Char} (hcs : EndsNumber cs) (whole : List Char) (start digits places pos : Nat) :
    exponent whole start digits places (Numeral.exponentChars e ++ cs) pos []
      = endNumber whole start
          (numericValue (Binary64.ofDecimal false digits (Numeral.power e - places))) cs
          (pos + (Numeral.exponentChars e).length) [] := by
  obtain ⟨down, ds⟩ := e
  obtain ⟨hne, hds⟩ := he
  have hlen : ds.length ≠ 0 := fun h => hne (List.length_eq_zero_iff.mp h)
  cases down with
  | true =>
    have read := readDigits_append hds hcs.endsDigits (some '-') (pos + 1)
    simp only [Numeral.exponentChars, List.cons_append]
    rw [exponent]
    simp [read, hlen, Numeral.power, Nat.add_assoc, Nat.add_comm 1]
  | false =>
    cases ds with
    | nil => exact absurd rfl hne
    | cons d ds =>
      have hd : d.isDigit = true := by
        rw [List.all_cons, Bool.and_eq_true] at hds
        exact hds.1
      have plus : d ≠ '+' := ne_of_isDigit hd (by decide)
      have minus : d ≠ '-' := ne_of_isDigit hd (by decide)
      have read := readDigits_append hds hcs.endsDigits (some d) pos
      simp only [Numeral.exponentChars, List.cons_append] at read ⊢
      rw [exponent]
      simp [read, plus, minus, Numeral.power]

/-- The whole part was read, and no fraction follows. -/
theorem decimalTail_append_none {w : List Char} {exponent : Option (Bool × List Char)}
    (h : Numeral.WellFormed ⟨w, none, exponent⟩) {cs : List Char} (hcs : EndsNumber cs)
    (whole : List Char) (start : Nat) (run : Run) (hvalue : run.value = appendDigits 0 w)
    (hrest : run.rest = Numeral.tail ⟨w, none, exponent⟩ ++ cs) :
    decimalTail whole start run (Binary64.nearest false (appendDigits 0 w) 1) []
      = endNumber whole start (Numeral.value ⟨w, none, exponent⟩) cs
          (run.pos + (Numeral.tail ⟨w, none, exponent⟩).length) [] := by
  have notPoint : cs.head? ≠ some '.' := fun e => (hcs '.' e).2.2 rfl
  have notLower := hcs.head_ne (c := 'e') (by decide)
  have notUpper := hcs.head_ne (c := 'E') (by decide)
  cases exponent with
  | none =>
    simp only [Numeral.tail, List.nil_append] at hrest
    rw [decimalTail, hrest]
    cases cs with
    | nil => rfl
    | cons c cs =>
      split
      · next heq => cases heq; exact absurd rfl notPoint
      · next heq => cases heq; exact absurd rfl notLower
      · next heq => cases heq; exact absurd rfl notUpper
      · rfl
  | some e =>
    simp only [Numeral.tail, List.nil_append, List.cons_append] at hrest
    rw [decimalTail, hrest]
    simp only
    have stop : run.pos + 1 + (Numeral.exponentChars e).length
        = run.pos + (Numeral.tail ⟨w, none, some e⟩).length := by
      simp [Numeral.tail]
      omega
    rw [exponent_append (h.exponent e rfl) hcs, hvalue, stop]
    rfl

/-- The whole part was read, and a fraction follows. -/
theorem decimalTail_append_some {w ds : List Char} {exponent : Option (Bool × List Char)}
    (h : Numeral.WellFormed ⟨w, some ds, exponent⟩) {cs : List Char} (hcs : EndsNumber cs)
    (whole : List Char) (start : Nat) (run : Run) (hvalue : run.value = appendDigits 0 w)
    (hrest : run.rest = Numeral.tail ⟨w, some ds, exponent⟩ ++ cs) :
    decimalTail whole start run (Binary64.nearest false (appendDigits 0 w) 1) []
      = endNumber whole start (Numeral.value ⟨w, some ds, exponent⟩) cs
          (run.pos + (Numeral.tail ⟨w, some ds, exponent⟩).length) [] := by
  have notLower := hcs.head_ne (c := 'e') (by decide)
  have notUpper := hcs.head_ne (c := 'E') (by decide)
  have hds := h.fraction ds rfl
  cases exponent with
  | none =>
    have read := readDigits_append hds hcs.endsDigits (some '.') (run.pos + 1)
    simp only [Numeral.tail, List.append_nil, List.cons_append] at hrest
    rw [decimalTail, hrest]
    simp only [read, hvalue, ← appendDigits_eq (appendDigits 0 w)]
    have stop : run.pos + 1 + ds.length
        = run.pos + (Numeral.tail ⟨w, some ds, none⟩).length := by
      simp [Numeral.tail]
      omega
    have value : numericValue (Binary64.ofDecimal false (appendDigits (appendDigits 0 w) ds)
        (-(ds.length : Int))) = Numeral.value ⟨w, some ds, none⟩ := by
      simp [Numeral.value, Numeral.powerOf, Numeral.digits, Numeral.places]
    rw [value, stop]
    cases cs with
    | nil => rfl
    | cons c cs =>
      split
      · next heq => cases heq; exact absurd rfl notLower
      · next heq => cases heq; exact absurd rfl notUpper
      · rfl
  | some e =>
    -- the digits of the fraction end at the mark of the exponent
    have ends : EndsDigits ('e' :: (Numeral.exponentChars e ++ cs)) := by
      intro c hc
      cases hc
      decide
    have read := readDigits_append hds ends (some '.') (run.pos + 1)
    simp only [Numeral.tail, List.append_assoc, List.cons_append] at hrest
    rw [decimalTail, hrest]
    simp only [read, hvalue, ← appendDigits_eq (appendDigits 0 w)]
    have stop : run.pos + 1 + ds.length + 1 + (Numeral.exponentChars e).length
        = run.pos + (Numeral.tail ⟨w, some ds, some e⟩).length := by
      simp [Numeral.tail]
      omega
    rw [List.append_nil, exponent_append (h.exponent e rfl) hcs, stop]
    rfl

/-- The whole part was read; the rest of the numeral is read up to its end. -/
theorem decimalTail_append {n : Numeral} (h : n.WellFormed) {cs : List Char} (hcs : EndsNumber cs)
    (whole : List Char) (start : Nat) (run : Run) (hvalue : run.value = appendDigits 0 n.whole)
    (hrest : run.rest = n.tail ++ cs) :
    decimalTail whole start run (Binary64.nearest false (appendDigits 0 n.whole) 1) []
      = endNumber whole start n.value cs (run.pos + n.tail.length) [] := by
  obtain ⟨w, fraction, exponent⟩ := n
  cases fraction with
  | none => exact decimalTail_append_none h hcs whole start run hvalue hrest
  | some ds => exact decimalTail_append_some h hcs whole start run hvalue hrest

theorem EndsNumber.endsDigits_tail {n : Numeral} {cs : List Char} (hcs : EndsNumber cs) :
    EndsDigits (n.tail ++ cs) := by
  intro c hc
  obtain ⟨w, fraction, exponent⟩ := n
  cases fraction <;> cases exponent
  · exact hcs.endsDigits c hc
  all_goals
    cases hc
    decide

/-- After the whole part no mark of a radix and no `n` follows. -/
theorem EndsNumber.head_tail {n : Numeral} {cs : List Char} (hcs : EndsNumber cs) :
    ∀ c ∈ (n.tail ++ cs).head?, isWordStart c = false ∨ c = 'e' := by
  intro c hc
  obtain ⟨w, fraction, exponent⟩ := n
  cases fraction <;> cases exponent
  · exact .inl (hcs c hc).1
  all_goals
    cases hc
    decide

theorem wholeNumber_append {n : Numeral} (h : n.WellFormed) {cs : List Char} (hcs : EndsNumber cs)
    (pos : Nat) :
    wholeNumber (n.chars ++ cs) pos
      = endNumber (n.chars ++ cs) pos n.value cs (pos + n.chars.length) [] := by
  have read : readDigits 10 none (n.chars ++ cs) pos
      = ⟨appendDigits 0 n.whole, n.whole.length, largestDigit 0 n.whole, n.whole, n.tail ++ cs,
          pos + n.whole.length, []⟩ := by
    rw [Numeral.chars, List.append_assoc]
    exact readDigits_append h.digits hcs.endsDigits_tail none pos
  have tail := decimalTail_append h hcs (n.chars ++ cs) pos
    ⟨appendDigits 0 n.whole, n.whole.length, largestDigit 0 n.whole, n.whole, n.tail ++ cs,
      pos + n.whole.length, []⟩ rfl rfl
  have stop : pos + n.whole.length + n.tail.length = pos + n.chars.length := by
    rw [Numeral.chars, List.length_append, Nat.add_assoc]
  rw [stop] at tail
  have head : (n.chars ++ cs).head? = n.whole.head? := by
    rw [Numeral.chars, List.append_assoc, List.head?_append_of_ne_nil _ h.nonempty]
  rw [wholeNumber, read]
  simp only
  split
  · -- an `n` would make it a number without a bound
    next heq =>
    have notBig := hcs.head_tail (n := n) 'n' (by rw [heq]; rfl)
    exact absurd notBig (by decide)
  · rw [head]
    split
    · -- a zero in front stands alone, so nothing is read as octal
      next hz =>
      rw [h.zero hz] at tail ⊢
      simpa [appendDigits] using tail
    · exact tail

theorem not_isWordStart_of_isDigit {c : Char} (h : c.isDigit = true) : isWordStart c = false := by
  cases hw : isWordStart c with
  | false => rfl
  | true =>
    rw [isWordStart_not_isDigit hw] at h
    cases h

/-- Digits that are followed by no mark of a radix make a decimal number. -/
theorem number_eq_wholeNumber {d : Char} (hd : d.isDigit = true) {cs : List Char}
    (hcs : ∀ c ∈ cs.head?, isWordStart c = false ∨ c = 'e') (pos : Nat) :
    number (d :: cs) pos = wholeNumber (d :: cs) pos := by
  have notMark : ∀ {c : Char} {more : List Char}, cs = c :: more → isWordStart c = true →
      c = 'e' := by
    intro c more heq hc
    rcases hcs c (by rw [heq]; rfl) with h | h
    · rw [h] at hc
      cases hc
    · exact h
  unfold number
  split
  · next heq =>
    cases heq
    exact absurd hd (by decide)
  -- every other branch but the last one has a mark of a radix after a zero
  all_goals first
    | rfl
    | next heq =>
      cases heq
      exact absurd (notMark rfl (by decide)) (by decide)

/-! ### Whole numerals -/

theorem byteLength_of_ascii {cs : List Char} (h : ∀ c ∈ cs, c.toNat < 128) :
    byteLength cs = cs.length := by
  induction cs with
  | nil => rfl
  | cons c cs ih =>
    have size : c.utf8Size = 1 := by
      have : c.val ≤ 0x7f := Nat.le_of_lt_succ (h c List.mem_cons_self)
      simp [Char.utf8Size, this]
    rw [byteLength_cons, size, ih fun d hd => h d (List.mem_cons_of_mem c hd), List.length_cons,
      Nat.add_comm]

theorem ascii_of_isDigit {c : Char} (h : c.isDigit = true) : c.toNat < 128 := by
  simp only [Char.isDigit, Bool.and_eq_true, decide_eq_true_eq] at h
  have h' : c.toNat ≤ 57 := h.2
  omega

theorem ascii_exponentChars {e : Bool × List Char} (he : e.2.all Char.isDigit = true) :
    ∀ c ∈ Numeral.exponentChars e, c.toNat < 128 := by
  obtain ⟨down, ds⟩ := e
  have hds : ∀ c ∈ ds, c.toNat < 128 := fun c hc => ascii_of_isDigit (List.all_eq_true.mp he c hc)
  cases down with
  | true =>
    intro c hc
    rcases List.mem_cons.mp hc with rfl | hc
    · decide
    · exact hds c hc
  | false => exact hds

theorem ascii_numeral {n : Numeral} (h : n.WellFormed) : ∀ c ∈ n.chars, c.toNat < 128 := by
  intro c hc
  rw [Numeral.chars, Numeral.tail, List.mem_append, List.mem_append] at hc
  rcases hc with hc | hc | hc
  · exact ascii_of_isDigit (List.all_eq_true.mp h.digits c hc)
  · split at hc
    · next ds e =>
      rcases List.mem_cons.mp hc with rfl | hc
      · decide
      · exact ascii_of_isDigit (List.all_eq_true.mp (h.fraction ds e) c hc)
    · cases hc
  · split at hc
    · next e he =>
      rcases List.mem_cons.mp hc with rfl | hc
      · decide
      · exact ascii_exponentChars (h.exponent e he).2 c hc
    · cases hc

/-- A numeral is read as a number with its value. -/
theorem number_append {n : Numeral} (h : n.WellFormed) {cs : List Char} (hcs : EndsNumber cs)
    (pos : Nat) :
    number (n.chars ++ cs) pos
      = ⟨.num n.value (String.ofList n.chars), cs, pos + n.chars.length, []⟩ := by
  have text : spanText (n.chars ++ cs) pos (pos + n.chars.length) = String.ofList n.chars := by
    rw [spanText, Nat.add_sub_cancel_left, ← byteLength_of_ascii (ascii_numeral h),
      takeBytes_append]
  have whole : number (n.chars ++ cs) pos = wholeNumber (n.chars ++ cs) pos := by
    obtain ⟨d, ds, e, hd, hds⟩ := h.whole_eq
    rw [Numeral.chars, e, List.cons_append, List.cons_append, List.append_assoc]
    refine number_eq_wholeNumber hd (fun c hc => ?_) pos
    cases ds with
    | nil => exact hcs.head_tail c hc
    | cons b ds =>
      cases hc
      rw [List.all_cons, Bool.and_eq_true] at hds
      exact .inl (not_isWordStart_of_isDigit hds.1)
  rw [whole, wholeNumber_append h hcs, endNumber_of_ends hcs, text]

theorem tokenAt_numeral {n : Numeral} (h : n.WellFormed) {cs : List Char} (hcs : EndsNumber cs) :
    TokenAt (n.chars ++ cs) (.num n.value (String.ofList n.chars)) cs := by
  refine TokenAt.of_eq (· + n.chars.length) (fun fuel pos _ => ?_) (by simp)
  rw [← number_append h hcs pos]
  obtain ⟨d, ds, e, hd, -⟩ := h.whole_eq
  have h₁ : d ≠ '"' := ne_of_isDigit hd (by decide)
  have h₂ : d ≠ '\'' := ne_of_isDigit hd (by decide)
  rw [Numeral.chars, e, List.cons_append, List.cons_append]
  simp [tokenAt, h₁, h₂, hd]

end Esm.Lexer

/-! ### The numerals of numbers -/

theorem all_isDigit_toDigits (n : Nat) : (Nat.toDigits 10 n).all Char.isDigit = true :=
  List.all_eq_true.mpr fun _ hc => Nat.isDigit_of_mem_toDigits (by decide) (by decide) hc

/-- Only zero is written with a zero in front. -/
theorem head?_toDigits {n : Nat} (hn : n ≠ 0) : (Nat.toDigits 10 n).head? ≠ some '0' := by
  induction n using Nat.strongRecOn with
  | ind n ih =>
    rw [Nat.toDigits_eq_if (by decide)]
    split
    · next hlt =>
      have small : ∀ n < 10, n ≠ 0 → [Nat.digitChar n].head? ≠ some '0' := by decide
      exact small n hlt hn
    · rw [List.head?_append_of_ne_nil _ Nat.toDigits_ne_nil]
      exact ih (n / 10) (by omega) (by omega)

/-- A row without leading zeros needs none to be put in front of it. -/
theorem Digits.toChars_eq {d : Digits} (h : 10 ^ (d.count - 1) ≤ d.value) :
    d.toChars = Nat.toDigits 10 d.value := by
  have hlen : d.count ≤ (Nat.toDigits 10 d.value).length := by
    by_cases h₁ : d.count ≤ 1
    · exact Nat.le_trans h₁ Nat.length_toDigits_pos
    · have := (Nat.length_toDigits_le_iff (b := 10) (n := d.value) (k := d.count - 1) (by decide)
        (by omega)).not.mpr (by omega)
      omega
  simp [Digits.toChars, Nat.sub_eq_zero_of_le hlen]

/-- A number as an exponent. -/
def Numeral.exponentOf (n : Int) : Bool × List Char := (n < 0, Nat.toDigits 10 n.natAbs)

/-- The text of a double without its sign. -/
def Binary64.numeral (x : Binary64) : Numeral :=
  if x.significand = 0 then ⟨['0'], some ['0'], none⟩
  else
    let d := x.shortest
    let ds := d.toChars
    if d.count ≤ d.point ∧ d.point ≤ 16 then
      ⟨ds ++ List.replicate (d.point.toNat - d.count) '0', some ['0'], none⟩
    else if 0 < d.point ∧ d.point ≤ 16 then
      ⟨ds.take d.point.toNat, some (ds.drop d.point.toNat), none⟩
    else if -5 < d.point ∧ d.point ≤ 0 then
      ⟨['0'], some (List.replicate (-d.point).toNat '0' ++ ds), none⟩
    else if d.count = 1 then ⟨ds, none, some (Numeral.exponentOf (d.point - 1))⟩
    else ⟨ds.take 1, some (ds.drop 1), some (Numeral.exponentOf (d.point - 1))⟩

namespace Number

/-- The literal of a number without its sign. -/
def numeral : Number → Numeral
  | .whole n => ⟨Nat.toDigits 10 n.natAbs, none, none⟩
  | .real x => x.numeral

/-- A number that is written with a minus sign. -/
def isNegative : Number → Bool
  | .whole n => n < 0
  | .real x => x.negative

end Number

theorem Numeral.exponentChars_exponentOf (n : Int) :
    Numeral.exponentChars (Numeral.exponentOf n) = Binary64.intText n := by
  unfold Numeral.exponentOf Binary64.intText
  by_cases h : n < 0 <;> simp [h, Numeral.exponentChars]

theorem Binary64.text_eq (x : Binary64) :
    x.text = (if x.negative then ['-'] else []) ++ x.numeral.chars := by
  unfold Binary64.text Binary64.numeral
  simp only
  repeat' split
  all_goals simp [Numeral.chars, Numeral.tail, Numeral.exponentChars_exponentOf]

theorem Number.literal_eq (n : Number) :
    n.literal = (if n.isNegative then ['-'] else []) ++ n.numeral.chars := by
  cases n with
  | whole n =>
    by_cases h : n < 0 <;>
      simp [Number.literal, Number.isNegative, Number.numeral, Numeral.chars, Numeral.tail,
        Binary64.intText, h]
  | real x => exact x.text_eq

theorem all_isDigit_zeros (n : Nat) : (List.replicate n '0').all Char.isDigit = true := by
  induction n with
  | zero => rfl
  | succ n ih => rw [List.replicate_succ, List.all_cons, ih]; rfl

/-- Digits, the first of which is not zero. -/
structure IsRow (ds : List Char) : Prop where
  digits : ds.all Char.isDigit = true
  nonempty : ds ≠ []
  head : ds.head? ≠ some '0'

theorem isRow_toDigits {n : Nat} (hn : n ≠ 0) : IsRow (Nat.toDigits 10 n) :=
  ⟨all_isDigit_toDigits n, Nat.toDigits_ne_nil, head?_toDigits hn⟩

/-- The first digits of a row are a row. -/
theorem IsRow.take {ds : List Char} (h : IsRow ds) {k : Nat} (hk : k ≠ 0) : IsRow (ds.take k) := by
  refine ⟨?_, by simp [hk, h.nonempty], ?_⟩
  · rw [List.all_eq_true]
    intro c hc
    exact List.all_eq_true.mp h.digits c (List.mem_of_mem_take hc)
  · rw [List.head?_take, if_neg hk]
    exact h.head

theorem IsRow.all_drop {ds : List Char} (h : IsRow ds) (k : Nat) :
    (ds.drop k).all Char.isDigit = true := by
  rw [List.all_eq_true]
  intro c hc
  exact List.all_eq_true.mp h.digits c (List.mem_of_mem_drop hc)

theorem IsRow.append_zeros {ds : List Char} (h : IsRow ds) (k : Nat) :
    IsRow (ds ++ List.replicate k '0') := by
  refine ⟨?_, by simp [h.nonempty], ?_⟩
  · rw [List.all_append, h.digits, all_isDigit_zeros]
    rfl
  · rw [List.head?_append_of_ne_nil _ h.nonempty]
    exact h.head

/-- A row is the whole part of a numeral, whatever digits follow the point and
the mark of the exponent. -/
theorem IsRow.wellFormed {ds : List Char} (h : IsRow ds) {fraction : Option (List Char)}
    {exponent : Option (Bool × List Char)}
    (hf : ∀ fs ∈ fraction, fs.all Char.isDigit = true)
    (he : ∀ e ∈ exponent, e.2 ≠ [] ∧ e.2.all Char.isDigit = true) :
    Numeral.WellFormed ⟨ds, fraction, exponent⟩ :=
  ⟨h.digits, h.nonempty, fun hz => absurd hz h.head, hf, he⟩

/-- The shortest digits of a double that is not zero. -/
theorem Binary64.isRow_shortest {x : Binary64} (hx : x.significand ≠ 0) :
    IsRow x.shortest.toChars := by
  have hrow := pow_le_value_shortest hx
  have hpow := Nat.pow_pos (n := x.shortest.count - 1) (show 0 < 10 by decide)
  rw [Digits.toChars_eq hrow]
  exact isRow_toDigits (by omega)

/-- The text of a double is a numeral of the language of modules. -/
theorem Binary64.wellFormed_numeral (x : Binary64) : x.numeral.WellFormed := by
  by_cases hx : x.significand = 0
  · have h : x.numeral = ⟨['0'], some ['0'], none⟩ := by simp [Binary64.numeral, hx]
    rw [h]
    exact ⟨by decide, by decide, fun _ => rfl, by decide, by simp⟩
  have row := isRow_shortest hx
  have exponent : ∀ e ∈ some (Numeral.exponentOf (x.shortest.point - 1)),
      e.2 ≠ [] ∧ e.2.all Char.isDigit = true := by
    intro e he
    cases he
    exact ⟨Nat.toDigits_ne_nil, all_isDigit_toDigits _⟩
  have fraction : ∀ k, ∀ fs ∈ some (x.shortest.toChars.drop k), fs.all Char.isDigit = true := by
    intro k fs hfs
    cases hfs
    exact row.all_drop k
  unfold Binary64.numeral
  rw [if_neg hx]
  simp only
  split
  · exact (row.append_zeros _).wellFormed (by simp) (by simp)
  split
  · exact (row.take (by omega)).wellFormed (fraction _) (by simp)
  split
  · -- the only shape with a zero in front, and then the zero is the whole part
    refine ⟨rfl, List.cons_ne_nil _ _, fun _ => rfl, ?_, by simp⟩
    intro fs hfs
    cases hfs
    rw [List.all_append, row.digits, all_isDigit_zeros]
    rfl
  split
  · exact row.wellFormed (by simp) exponent
  · exact (row.take (by decide)).wellFormed (fraction 1) exponent

theorem Number.wellFormed_numeral (n : Number) : n.numeral.WellFormed := by
  cases n with
  | whole n =>
    refine ⟨all_isDigit_toDigits _, Nat.toDigits_ne_nil, ?_, by simp [Number.numeral],
      by simp [Number.numeral]⟩
    intro hz
    have : n.natAbs = 0 := by
      by_contra hn
      exact head?_toDigits hn hz
    simp [Number.numeral, this]
  | real x => exact x.wellFormed_numeral

end Frontmatter
