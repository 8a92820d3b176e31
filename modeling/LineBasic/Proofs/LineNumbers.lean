import LineBasic.Proofs.BracketedTokens
import LineBasic.Proofs.SnippetCompilation
import LineBasic.Proofs.ProgramText

/-!
# The two readings of a line number

The number of a line is read twice.  A program stores the line under its leading digits, and that is
where it is sorted and jumped to.  The compiler reads the first token, which may go on behind these
digits with places and a power of ten, and takes its value for the number of the line.

Both readings see the same digits, and where the token ends with them its value is what they denote.
A token that goes on can have another value, and the two numbers of the line differ then.  Places can
do that as well as a power: enough nines round up to the next number.

## Main definitions

* `Numeral.wholePart`: the digits of a numeral before its point and its power.

## Main results

* `ofText_digit`: a digit begins a number.
* `number_of_compile`: the number of a compiled line is the value of its first token.
* `lineNumberOf?_exact`: a whole number is a line number if it is in the range of those.
* `parse_numbers`: the two numbers of a line, and when they agree.
-/

namespace LineBasic

open Number (isDigit Numeral)

variable {c : Char} {rest : List Char}

/-! ## The first token -/

/-- A digit begins a number. -/
theorem ofText_digit (hdigit : isDigit c = true) (rest : List Char) :
    Lexeme.ofText c rest =
      .token (.number (Lexeme.decimal (c :: rest)).1.value)
        ((Lexeme.decimal (c :: rest)).2 - 1) := by
  have hblank : ¬ Text.isBlank c = true := by
    intro hblank
    cases hdigit.symm.trans (Text.isDigit_of_isBlank hblank)
  unfold Lexeme.ofText
  rw [if_neg hblank, if_pos (.inl hdigit)]

section Tokens

variable {eol pos : Nat} {value : Float} {ts : List Token}

/-- A number at the head of a line is read as its line number. -/
theorem yields_parseNumber :
    Yields (fun number => ∃ n, lineNumberOf? value = some n ∧ number.value = some n)
      (Line.parseNumber eol (⟨.number value, pos⟩ :: ts)) := by
  have hstarts : startsWithNumber (⟨.number value, pos⟩ :: ts) = true := rfl
  have hread : Yields (fun number => lineNumberOf? value = some number.value)
      (parseLineNumber eol (⟨.number value, pos⟩ :: ts)) := by
    unfold parseLineNumber
    dsimp only
    split
    · next n hn => exact yields_ok hn
    · exact yields_error _
  unfold Line.parseNumber
  rw [if_pos hstarts]
  exact yields_bind hread fun number hnumber => yields_pure ⟨_, hnumber, rfl⟩

/-- A line that begins with a number has that number, and it is one that lines can have. -/
theorem yields_ofTokens :
    Yields (fun line => ∃ n, lineNumberOf? value = some n ∧ line.number = some n)
      (Line.ofTokens eol (⟨.number value, pos⟩ :: ts)) := by
  unfold Line.ofTokens
  refine yields_bind yields_parseNumber fun number hnumber => ?_
  refine yields_bind (yields_any _) fun statements _ => ?_
  split
  · exact yields_pure hnumber
  · exact yields_error _

end Tokens

/-- The number of a line that begins with a digit is the value of the numeral there. -/
theorem number_of_compile {source : String} {line : Line}
    (hdigits : source.toList.takeWhile isDigit ≠ []) (compiled : Line.compile source = .ok line) :
    ∃ n, lineNumberOf? (Lexeme.decimal source.toList).1.value = some n ∧ line.number = some n := by
  have hcompile : Yields (fun line : Line => ∃ n,
      lineNumberOf? (Lexeme.decimal source.toList).1.value = some n ∧ line.number = some n)
      (Line.compile source) := by
    unfold Line.compile tokenize
    cases hsource : source.toList with
    | nil => simp [hsource] at hdigits
    | cons c rest =>
        have hdigit : isDigit c = true := by
          by_contra hc
          simp [hsource, hc] at hdigits
        rw [tokensFrom_token (ofText_digit hdigit rest)]
        cases tokensFrom _ _ with
        | error e => exact yields_error e
        | ok ts => exact yields_ofTokens
  exact hcompile line compiled

/-! ## Digits alone -/

/-- The digits of a numeral before its point and its power. -/
def Number.Numeral.wholePart (n : Numeral) : Numeral := ⟨n.whole, [], 0⟩

/-- A whole number that is exact as a double is a line number if it is in the range of those. -/
theorem lineNumberOf?_exact {n : Nat} (small : n < 9007199254740992) :
    lineNumberOf? (Float.ofNat n) = if 1 ≤ n ∧ n ≤ 65535 then some n else none := by
  by_cases hrange : 1 ≤ n ∧ n ≤ 65535
  · rw [if_pos hrange, lineNumberOf?_ofNat hrange]
  · rw [if_neg hrange]
    by_cases hzero : n = 0
    · subst hzero
      with_unfolding_all rfl
    · have hint : ¬ ((1 : Int) ≤ n ∧ (n : Int) ≤ 65535) := by omega
      rw [lineNumberOf?, Number.whole?_ofNat (Nat.pos_of_ne_zero hzero)
        (Number.log2_le_of_lt small)]
      exact if_neg hint

/-- A line number is in the range of those. -/
theorem isLineNumber_of_lineNumberOf? {value : Float} {n : Nat}
    (h : lineNumberOf? value = some n) : IsLineNumber n := by
  unfold lineNumberOf? at h
  split at h
  · split at h
    · next k _ hrange =>
        cases h
        unfold IsLineNumber
        omega
    · cases h
  · cases h

theorem value_wholePart (numeral : Numeral) :
    numeral.wholePart.value = Float.ofNat (Number.ofDecimalDigits numeral.whole) := by
  unfold Numeral.wholePart Numeral.value
  rw [List.append_nil]
  rfl

/-- A power of no characters is the power zero. -/
theorem powerOf_of_width {cs : List Char} (width : (Lexeme.powerOf cs).2 = 0) :
    (Lexeme.powerOf cs).1 = 0 := by
  cases cs with
  | nil => rfl
  | cons mark rest =>
      rw [Lexeme.powerOf_cons] at width ⊢
      by_cases hmark : mark = 'e' ∨ mark = 'E'
      · rw [if_pos hmark] at width ⊢
        by_cases hdigits : (Lexeme.powerSign rest).2.1.takeWhile isDigit = []
        · simp only [hdigits, if_true]
        · have hlength := List.length_pos_iff.2 hdigits
          simp only [hdigits, if_false] at width
          omega
      · rw [if_neg hmark]

/-- A numeral that ends with its leading digits has neither places nor a power. -/
theorem eq_wholePart_of_width {cs : List Char}
    (width : (Lexeme.decimal cs).2 = (cs.takeWhile isDigit).length) :
    (Lexeme.decimal cs).1 = (Lexeme.decimal cs).1.wholePart := by
  rw [Lexeme.decimal_eq] at width ⊢
  dsimp only at width ⊢
  have hplaces : (Lexeme.places (cs.dropWhile isDigit)).1 = [] :=
    List.length_eq_zero_iff.1 (by omega)
  have hpower : (Lexeme.powerOf (Lexeme.places (cs.dropWhile isDigit)).2.2).1 = 0 :=
    powerOf_of_width (by omega)
  rw [hplaces, hpower]
  rfl

namespace Program

/--
A line is stored under the number that the digits at its start denote, and compiled with the number
that is the value of the numeral there.  The two agree exactly if the numeral is the same line number
as its digits before the point and the power.  So they do where neither follows these digits.
-/
theorem parse_numbers {source : String} {p : Program} (parsed : parse source = .ok p) :
    ∀ line ∈ p.lines,
      let numeral := (Lexeme.decimal line.text.toList).1
      numeral.whole = line.text.toList.takeWhile isDigit ∧ numeral.whole ≠ [] ∧
      line.number = Number.ofDecimalDigits numeral.whole ∧
      (∃ n, lineNumberOf? numeral.value = some n ∧ line.compiled.number = some n) ∧
      (line.compiled.number = some line.number ↔
        lineNumberOf? numeral.value = lineNumberOf? numeral.wholePart.value) ∧
      ((Lexeme.decimal line.text.toList).2 = numeral.whole.length →
        line.compiled.number = some line.number) := by
  intro line hline numeral
  obtain ⟨before, raw, after, -, hstands, -⟩ := (comesFrom_of_mem parsed hline).split
  have hleading := hstands.number
  rw [← hstands.text] at hleading
  unfold leadingNumber? at hleading
  dsimp only at hleading
  split at hleading
  · next hdigits =>
      have hnumber : Number.ofDecimalDigits numeral.whole = line.number := Option.some.inj hleading
      have hsmall : Number.ofDecimalDigits numeral.whole < 9007199254740992 :=
        Nat.lt_trans hdigits.2 (by decide)
      have hwhole : lineNumberOf? numeral.wholePart.value =
          if 1 ≤ line.number ∧ line.number ≤ 65535 then some line.number else none := by
        rw [value_wholePart, lineNumberOf?_exact hsmall, hnumber]
      obtain ⟨n, hvalue, hcompiled⟩ := number_of_compile hdigits.1 hstands.compiled
      have hagree : line.compiled.number = some line.number ↔
          lineNumberOf? numeral.value = lineNumberOf? numeral.wholePart.value := by
        have hrange := isLineNumber_of_lineNumberOf? hvalue
        rw [hcompiled, hvalue, hwhole]
        by_cases hline : 1 ≤ line.number ∧ line.number ≤ 65535
        · rw [if_pos hline]
        · rw [if_neg hline]
          refine iff_of_false (fun hsame => hline ?_) nofun
          rw [← Option.some.inj hsame]
          exact hrange
      refine ⟨rfl, hdigits.1, hnumber.symm, ⟨n, hvalue, hcompiled⟩, hagree, fun width => ?_⟩
      rw [hagree, ← eq_wholePart_of_width width]
  · cases hleading

/-- A line that is written with a power of ten. -/
def powered : String := "1e1 stop"

/-- It is stored as line one and compiled as line ten. -/
def ofPowered : Program :=
  ⟨⟨[(1, ⟨1, "1e1 stop", 0, 8, ⟨some 10, [.stop]⟩⟩)], by decide⟩⟩

/-- The power makes another line number of the numeral. -/
theorem parse_numbers_powered :
    parse powered = .ok ofPowered ∧
      lineNumberOf? (Lexeme.decimal powered.toList).1.value ≠
        lineNumberOf? (Lexeme.decimal powered.toList).1.wholePart.value := by
  have parsed : parse powered = .ok ofPowered := by with_unfolding_all rfl
  obtain ⟨-, -, -, -, hagree, -⟩ :=
    parse_numbers parsed ⟨1, "1e1 stop", 0, 8, ⟨some 10, [.stop]⟩⟩ (.head _)
  refine ⟨parsed, fun hsame => ?_⟩
  cases hagree.2 hsame

end Program

end LineBasic
