import LineBasic.Proofs.FirstWords

/-!
# How tokens are spelled

The lexer decides what stands at the head of a text by looking at the characters one after another,
and hands over a token with the number of its characters.  What these characters are is a matter of
the language, and is written down here without the lexer: the digits of a number around its point and
behind its letters, the quotes around a text, the letters of a word, and the signs.  Every token that
the lexer hands over is spelled by exactly the characters that it counts.

Two tokens are spelled by more than that, and nothing can follow them in their line: a quotation that
is never closed, and a remark.

## Main definitions

* `Spells`: the characters that a token is written with.
* `Fills`: what a token takes of its line, the blanks behind it included.

## Main results

* `ofText_spells`: a token is spelled by the characters that the lexer counts for it.
* `ofText_remark`: a comment is spelled by the mark of a remark and anything behind it.
-/

namespace LineBasic

open Number (isDigit Numeral)

/-! ## Spelling -/

/-- The places of a numeral in writing: nothing, or a point with any number of digits behind it. -/
inductive SpellsPlaces : List Char → List Char → Prop
  | whole : SpellsPlaces [] []
  | point {fraction : List Char} (hdigits : ∀ c ∈ fraction, isDigit c = true) :
      SpellsPlaces fraction ('.' :: fraction)

/-- The sign of a power of ten in writing, and whether it is negative. -/
inductive SpellsSign : Bool → List Char → Prop
  | unsigned : SpellsSign false []
  | plus : SpellsSign false ['+']
  | minus : SpellsSign true ['-']

/-- The power of ten of a numeral in writing. -/
inductive SpellsPower : Int → List Char → Prop
  | unit : SpellsPower 0 []
  | power {mark : Char} {negative : Bool} {sign digits : List Char} (hmark : mark = 'e' ∨ mark = 'E')
      (hsign : SpellsSign negative sign) (hdigits : ∀ c ∈ digits, isDigit c = true)
      (some_digit : digits ≠ []) :
      SpellsPower
        (if negative then -(Number.ofDecimalDigits digits : Int) else Number.ofDecimalDigits digits)
        (mark :: (sign ++ digits))

/-- What stands between `&` and the digits of a number: its base, the digits of this base, and the
letter for it. -/
inductive SpellsBase : Nat → (Char → Bool) → List Char → Prop
  | unmarked : SpellsBase 16 Lexeme.isHexDigit []
  | hexadecimal {mark : Char} (hmark : mark = 'h' ∨ mark = 'H') :
      SpellsBase 16 Lexeme.isHexDigit [mark]
  | binary {mark : Char} (hmark : mark = 'x' ∨ mark = 'X') : SpellsBase 2 Lexeme.isBinaryDigit [mark]

/-- A letter with letters, digits and dots behind it. -/
def IsWord : List Char → Prop
  | [] => False
  | c :: rest => Text.isLetter c = true ∧ ∀ d ∈ rest, Lexeme.isNameChar d = true

/-- The characters that a token is written with. -/
inductive Spells : TokenKind → List Char → Prop
  | decimal {whole fraction places tail : List Char} {power : Int}
      (hwhole : ∀ c ∈ whole, isDigit c = true) (some_digit : whole ≠ [] ∨ fraction ≠ [])
      (hplaces : SpellsPlaces fraction places) (hpower : SpellsPower power tail) :
      Spells (.number (Numeral.value ⟨whole, fraction, power⟩)) (whole ++ places ++ tail)
  | radix {base : Nat} {isDigitOf : Char → Bool} {mark digits : List Char}
      (hbase : SpellsBase base isDigitOf mark) (hdigits : ∀ c ∈ digits, isDigitOf c = true)
      (some_digit : digits ≠ []) (small : Number.ofDigits base Lexeme.hexValue digits ≤ 0xffff) :
      Spells (.number (Float.ofNat (Number.ofDigits base Lexeme.hexValue digits)))
        ('&' :: (mark ++ digits))
  | text {quoted : List Char} (closed : '"' ∉ quoted) :
      Spells (.text (String.ofList quoted)) ('"' :: (quoted ++ ['"']))
  | name {letters : List Char} (hword : IsWord letters)
      (other : ∀ k : Keyword, Text.asciiLower (String.ofList letters) ≠ k.word) :
      Spells (.name (String.ofList letters)) letters
  | marked {letters : List Char} {mark : Char} (hword : IsWord letters)
      (hmark : Lexeme.isTypeMark mark = true) :
      Spells (.name (String.ofList (letters ++ [mark]))) (letters ++ [mark])
  | keyword {letters : List Char} {k : Keyword} (hrem : k ≠ .rem)
      (hword : Text.asciiLower (String.ofList letters) = k.word) : Spells (.keyword k) letters
  | questionMark : Spells (.keyword .print) ['?']
  | sign (s : Sign) : Spells (.sign s) s.toText.toList
  /-- The inclusive comparisons are also read with their signs the other way round. -/
  | equalLess : Spells (.sign .le) ['=', '<']
  | equalGreater : Spells (.sign .ge) ['=', '>']

/-- What a token takes of its line: the characters that spell it, and blanks.  Only the last token can
be a quotation that goes on to the end of the line, or a remark. -/
inductive Fills (last : Prop) : TokenKind → List Char → Prop
  | spelled {kind : TokenKind} {own blanks : List Char} (hown : Spells kind own)
      (hblanks : ∀ c ∈ blanks, Text.isBlank c = true) : Fills last kind (own ++ blanks)
  | quotation {quoted : List Char} (hlast : last) (never_closed : '"' ∉ quoted) :
      Fills last (.text (String.ofList quoted)) ('"' :: quoted)
  | apostrophe (hlast : last) (ignored : List Char) :
      Fills last (.keyword .rem) ('\x27' :: ignored)
  | remark {letters ignored : List Char} (hlast : last)
      (hword : Text.asciiLower (String.ofList letters) = "rem")
      (ends : ∀ c ∈ ignored.head?, Lexeme.isNameChar c = false ∧ Lexeme.isTypeMark c = false) :
      Fills last (.keyword .rem) (letters ++ ignored)

namespace Lexeme

variable {p : Char → Bool} {c : Char} {cs rest : List Char} {kind : TokenKind} {more : Nat}

theorem take_length_takeWhile (p : Char → Bool) (cs : List Char) :
    cs.take (cs.takeWhile p).length = cs.takeWhile p :=
  (List.prefix_iff_eq_take.1 (List.takeWhile_prefix p)).symm

/-! ## Numbers -/

theorem powerSign_spells (rest : List Char) :
    ∃ sign, rest = sign ++ (powerSign rest).2.1 ∧ (powerSign rest).2.2 = 1 + sign.length ∧
      SpellsSign (powerSign rest).1 sign := by
  unfold powerSign
  split
  · exact ⟨['+'], rfl, rfl, .plus⟩
  · exact ⟨['-'], rfl, rfl, .minus⟩
  · exact ⟨[], rfl, rfl, .unsigned⟩

theorem powerOf_spells (cs : List Char) : SpellsPower (powerOf cs).1 (cs.take (powerOf cs).2) := by
  cases cs with
  | nil => exact .unit
  | cons mark rest =>
      obtain ⟨sign, hrest, hwidth, hsign⟩ := powerSign_spells rest
      rw [powerOf_cons]
      dsimp only
      split
      · next hmark =>
          split
          · exact .unit
          · next some_digit =>
              have hown : (mark :: rest).take
                  ((powerSign rest).2.2 + ((powerSign rest).2.1.takeWhile isDigit).length) =
                    mark :: (sign ++ (powerSign rest).2.1.takeWhile isDigit) := by
                rw [hwidth, Nat.add_assoc, Nat.add_comm 1, List.take_succ_cons]
                conv_lhs => rw [hrest]
                rw [List.take_length_add_append, ← hrest, take_length_takeWhile]
              rw [hown]
              exact .power hmark hsign (fun c hc => List.mem_takeWhile_imp hc) some_digit
      · exact .unit

theorem places_spells (rest : List Char) :
    ∃ text, rest = text ++ (places rest).2.2 ∧
      text.length = (places rest).2.1 + (places rest).1.length ∧
      SpellsPlaces (places rest).1 text := by
  unfold places
  split
  · next tail =>
      refine ⟨'.' :: tail.takeWhile isDigit, ?_, ?_, .point fun c hc => List.mem_takeWhile_imp hc⟩
      · rw [List.cons_append, List.takeWhile_append_dropWhile]
      · rw [List.length_cons, Nat.add_comm]
  · exact ⟨[], rfl, rfl, .whole⟩

/-- A numeral begins with a digit, or with a point before one. -/
theorem decimal_some_digit (h : OpensNumber c rest) :
    (c :: rest).takeWhile isDigit ≠ [] ∨ (places ((c :: rest).dropWhile isDigit)).1 ≠ [] := by
  by_cases hdigit : isDigit c = true
  · rw [List.takeWhile_cons_of_pos hdigit]
    exact .inl (List.cons_ne_nil _ _)
  · obtain ⟨rfl, hnext⟩ := h.resolve_left hdigit
    cases rest with
    | nil => cases hnext
    | cons d rest =>
        have hd : isDigit d = true := hnext
        rw [List.dropWhile_cons_of_neg hdigit]
        show _ ∨ (d :: rest).takeWhile isDigit ≠ []
        rw [List.takeWhile_cons_of_pos hd]
        exact .inr (List.cons_ne_nil _ _)

theorem decimal_spells (h : OpensNumber c rest) :
    Spells (.number (decimal (c :: rest)).1.value)
      ((c :: rest).take (decimal (c :: rest)).2) := by
  have some_digit := decimal_some_digit h
  have hwhole : ∀ d ∈ (c :: rest).takeWhile isDigit, isDigit d = true :=
    fun d hd => List.mem_takeWhile_imp hd
  have hcs := List.takeWhile_append_dropWhile (p := isDigit) (l := c :: rest)
  rw [decimal_eq]
  dsimp only
  generalize (c :: rest).takeWhile isDigit = whole at *
  generalize (c :: rest).dropWhile isDigit = behind at *
  obtain ⟨text, hbehind, hlength, hplaces⟩ := places_spells behind
  have hpower := powerOf_spells (places behind).2.2
  have hown : (c :: rest).take (whole.length + (places behind).2.1 + (places behind).1.length +
      (powerOf (places behind).2.2).2) =
        whole ++ text ++ (places behind).2.2.take (powerOf (places behind).2.2).2 := by
    rw [← hcs, Nat.add_assoc whole.length, ← hlength, Nat.add_assoc, List.take_length_add_append]
    conv_lhs => rw [hbehind]
    rw [List.take_length_add_append, ← hbehind, List.append_assoc]
  rw [hown]
  exact .decimal hwhole some_digit hplaces hpower

theorem decimal_width_pos (h : OpensNumber c rest) :
    0 < (decimal (c :: rest)).2 := by
  rw [decimal_eq]
  dsimp only
  obtain hwhole | hfraction := decimal_some_digit h
  · have hlength := List.length_pos_iff.2 hwhole
    omega
  · have hlength := List.length_pos_iff.2 hfraction
    omega

theorem radix_spells {base : Nat} {mark : List Char} (hbase : SpellsBase base p mark)
    (h : radix base p mark.length cs = .token kind more) :
    Spells kind ('&' :: (mark ++ cs).take more) := by
  unfold radix at h
  dsimp only at h
  split at h
  · cases h
  · next some_digit =>
      split at h
      · next small =>
          cases h
          rw [List.take_length_add_append, take_length_takeWhile]
          exact .radix hbase (fun c hc => List.mem_takeWhile_imp hc) some_digit small
      · cases h

theorem ampersand_spells (h : ampersand cs = .token kind more) :
    Spells kind ('&' :: cs.take more) := by
  cases cs with
  | nil => cases h
  | cons mark rest =>
      rw [ampersand] at h
      split at h
      · next hmark => exact radix_spells (.hexadecimal hmark) h
      · split at h
        · next hmark => exact radix_spells (.binary hmark) h
        · exact radix_spells .unmarked h

/-! ## Words and signs -/

theorem isWord_letters (hletter : Text.isLetter c = true) (rest : List Char) :
    IsWord (c :: rest.takeWhile isNameChar) :=
  ⟨hletter, fun _ hd => List.mem_takeWhile_imp hd⟩

theorem word_spells (hletter : Text.isLetter c = true) (h : word (c :: rest) = .token kind more) :
    Spells kind (c :: rest.take more) := by
  have hname := isNameChar_of_isLetter hletter
  have hword := isWord_letters hletter rest
  unfold word at h
  rw [List.takeWhile_cons_of_pos hname, List.dropWhile_cons_of_pos hname] at h
  dsimp only at h
  split at h
  · next mark hmark =>
      cases h
      obtain ⟨hhead, hmark⟩ := Option.filter_eq_some_iff.1 hmark
      obtain ⟨tail, htail⟩ := List.head?_eq_some_iff.1 hhead
      have hown : rest.take (c :: rest.takeWhile isNameChar).length =
          rest.takeWhile isNameChar ++ [mark] := by
        conv_lhs => arg 2; rw [eq_takeWhile_append htail]
        rw [List.length_cons, List.take_length_add_append]
        rfl
      rw [hown]
      exact .marked hword hmark
  · split at h
    · cases h
    · next k hrem hk =>
        cases h
        rw [List.length_cons, Nat.add_sub_cancel, take_length_takeWhile]
        refine .keyword ?_ (Keyword.eq_word_of_ofWord? hk)
        rintro rfl
        exact hrem rfl
    · next hk =>
        cases h
        rw [List.length_cons, Nat.add_sub_cancel, take_length_takeWhile]
        exact .name hword (Keyword.ne_word_of_ofWord? hk)

theorem pair?_spells {d : Char} {s : Sign} (h : pair? c d = some s) : Spells (.sign s) [c, d] := by
  unfold pair? at h
  split at h <;> cases h
  · exact .sign .ne
  · exact .sign .le
  · exact .equalLess
  · exact .sign .ge
  · exact .equalGreater

theorem toText_of_single? {s : Sign} (h : single? c = some s) : s.toText.toList = [c] := by
  unfold single? at h
  split at h <;> cases h <;> rfl

theorem sign_spells (h : sign c rest = .token kind more) : Spells kind (c :: rest.take more) := by
  unfold sign at h
  split at h
  · next s hpair =>
      cases h
      obtain ⟨d, hd, hpair⟩ := Option.bind_eq_some_iff.1 hpair
      obtain ⟨tail, rfl⟩ := List.head?_eq_some_iff.1 hd
      exact pair?_spells hpair
  · split at h
    · next s hsingle =>
        cases h
        rw [List.take_zero, ← toText_of_single? hsingle]
        exact .sign s
    · split at h
      · next hmark =>
          cases h
          rw [hmark]
          exact .questionMark
      · cases h

/-! ## Blanks and remarks -/

/-- Behind `&` there is a number or a mistake. -/
theorem ampersand_ne (cs : List Char) : ampersand cs ≠ .blank ∧ ampersand cs ≠ .comment := by
  have hradix : ∀ base p letters cs,
      radix base p letters cs ≠ .blank ∧ radix base p letters cs ≠ .comment := by
    intro base p letters cs
    unfold radix
    dsimp only
    split
    · exact ⟨nofun, nofun⟩
    · split <;> exact ⟨nofun, nofun⟩
  unfold ampersand
  split
  · split
    · exact hradix _ _ _ _
    · split <;> exact hradix _ _ _ _
  · exact ⟨nofun, nofun⟩

theorem sign_ne (c : Char) (rest : List Char) : sign c rest ≠ .blank ∧ sign c rest ≠ .comment := by
  unfold sign
  split
  · exact ⟨nofun, nofun⟩
  · split
    · exact ⟨nofun, nofun⟩
    · split <;> exact ⟨nofun, nofun⟩

theorem word_ne_blank (cs : List Char) : word cs ≠ .blank := by
  unfold word
  dsimp only
  split
  · nofun
  · split <;> nofun

theorem word_remark_spells {last : Prop} (hlast : last) (hletter : Text.isLetter c = true)
    (h : word (c :: rest) = .comment) : Fills last (.keyword .rem) (c :: rest) := by
  have hname := isNameChar_of_isLetter hletter
  unfold word at h
  rw [List.takeWhile_cons_of_pos hname, List.dropWhile_cons_of_pos hname] at h
  dsimp only at h
  split at h
  · cases h
  · next hmark =>
      split at h
      · next hk =>
          have hword := Keyword.eq_word_of_ofWord? hk
          have hends : ∀ d ∈ (rest.dropWhile isNameChar).head?,
              isNameChar d = false ∧ isTypeMark d = false := by
            intro d hd
            have hstop := List.head?_dropWhile_not isNameChar rest
            rw [Option.mem_def.1 hd] at hmark hstop
            refine ⟨by simpa using hstop, ?_⟩
            rw [← Bool.not_eq_true]
            exact fun hmarked => by simp [hmarked] at hmark
          have hfills := Fills.remark hlast hword hends
          rwa [List.cons_append, List.takeWhile_append_dropWhile] at hfills
      · cases h
      · cases h

end Lexeme

/-! ## What stands at the head of a text -/

section Heads

variable {c : Char} {rest : List Char} {kind : TokenKind} {more : Nat}

/-- A number begins with a digit, or with a point before one. -/
theorem ofText_number (h : Lexeme.OpensNumber c rest) :
    Lexeme.ofText c rest =
      .token (.number (Lexeme.decimal (c :: rest)).1.value)
        ((Lexeme.decimal (c :: rest)).2 - 1) := by
  obtain hdigit | ⟨rfl, hnext⟩ := h
  · exact ofText_digit hdigit rest
  · unfold Lexeme.ofText
    rw [if_neg (by decide), if_pos (.inr ⟨rfl, hnext⟩)]

/-- The first character alone decides which reader is asked, numbers that begin with a point apart. -/
theorem ofText_of_headed {l : Lexeme} (h : Lexeme.Headed c rest l) : Lexeme.ofText c rest = l := by
  cases h with
  | blank hc h => exact (ofText_blank hc rest).trans h
  | number hc h => exact (ofText_number hc).trans h
  | ampersand hc h =>
      subst hc
      refine .trans ?_ h
      unfold Lexeme.ofText
      rw [if_neg (by decide), if_neg (by simp; decide), if_pos rfl]
  | quotation hc h =>
      subst hc
      exact (Lexeme.ofText_quote rest).trans h
  | word hc h => exact (ofText_letter hc rest).trans h
  | apostrophe hc h =>
      subst hc
      exact h
  | sign hblank hnumber hletter hc h =>
      obtain ⟨hampersand, hquote, hremark⟩ := hc
      refine .trans ?_ h
      unfold Lexeme.ofText
      rw [if_neg hblank]
      refine (if_neg hnumber).trans ?_
      rw [if_neg hampersand, if_neg hquote, if_neg hletter, if_neg hremark]

/-- The characters of a token spell it, unless it is a quotation that is never closed. -/
theorem ofText_spells (h : Lexeme.ofText c rest = .token kind more) :
    Spells kind (c :: rest.take more) ∨
      (c = '"' ∧ '"' ∉ rest ∧ kind = .text (String.ofList rest) ∧ more = rest.length) := by
  have hhead := Lexeme.headed c rest
  rw [h] at hhead
  cases hhead with
  | blank hc h => cases h
  | number hc h =>
      have hspells := Lexeme.decimal_spells hc
      rw [List.take_cons (Lexeme.decimal_width_pos hc)] at hspells
      cases h
      exact .inl hspells
  | ampersand hc h =>
      subst hc
      exact .inl (Lexeme.ampersand_spells h)
  | quotation hc hl =>
      subst hc
      by_cases hclosed : '"' ∈ rest
      · obtain ⟨quoted, behind, rfl, hquoted⟩ := List.eq_append_cons_of_mem hclosed
        rw [Lexeme.quotation_closed hquoted] at hl
        cases hl
        rw [List.take_length_add_append]
        exact .inl (.text hquoted)
      · rw [Lexeme.quotation_open hclosed] at hl
        cases hl
        exact .inr ⟨rfl, hclosed, rfl, rfl⟩
  | word hc h => exact .inl (Lexeme.word_spells hc h)
  | apostrophe hc h => cases h
  | sign hblank hnumber hletter hc h => exact .inl (Lexeme.sign_spells h)

theorem isBlank_of_ofText (h : Lexeme.ofText c rest = .blank) : Text.isBlank c = true := by
  have hhead := Lexeme.headed c rest
  rw [h] at hhead
  cases hhead with
  | blank hc h => exact hc
  | number hc h => cases h
  | ampersand hc h => exact absurd h (Lexeme.ampersand_ne rest).1
  | quotation hc h => cases h
  | word hc h => exact absurd h (Lexeme.word_ne_blank (c :: rest))
  | apostrophe hc h => cases h
  | sign hblank hnumber hletter hc h => exact absurd h (Lexeme.sign_ne c rest).1

/-- A comment is a remark, whatever its characters are. -/
theorem ofText_remark {last : Prop} (hlast : last) (h : Lexeme.ofText c rest = .comment) :
    Fills last (.keyword .rem) (c :: rest) := by
  have hhead := Lexeme.headed c rest
  rw [h] at hhead
  cases hhead with
  | blank hc h => cases h
  | number hc h => cases h
  | ampersand hc h => exact absurd h (Lexeme.ampersand_ne rest).2
  | quotation hc h => cases h
  | word hc h => exact Lexeme.word_remark_spells hlast hc h
  | apostrophe hc h =>
      subst hc
      exact .apostrophe hlast rest
  | sign hblank hnumber hletter hc h => exact absurd h (Lexeme.sign_ne c rest).2

end Heads

end LineBasic
