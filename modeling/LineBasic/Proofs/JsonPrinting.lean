import LineBasic.Json.Reader
import Mathlib.Data.List.Forall2

/-!
# Reading back written JSON

The writer puts line ends and indentation between the parts of a document, and the reader passes
over blanks wherever a part may begin.  So what is followed here is not the text of a document but
the text behind the blanks: a reader takes a document off any text that is, behind its blanks, the
written document and a rest.  The rest matters to numbers alone, which end where no more of them
follows; all that the writer puts behind a document ends a number.

A text is written character by character, and every way of writing one is a piece that the reader
knows: the character itself, a backslash and a letter, or the four digits of a control character.
None of the pieces is half a character, so the reader puts them together one by one.

Not every document can be read back.  A text whose content was lost is written as an empty one, and
a number is written as it stands, whether or not it is one.

## Main definitions

* `Json.Takes`: a reader takes a value off a text and leaves a rest.
* `Json.IsNumeral`: characters that are read as a number.
* `Json.WellFormed`: all texts of a document have their content and all its numbers are numerals.

## Main results

* `Json.takes_content`: every text is read back from between its quotes.
* `Json.isNumeral_repr`: natural numbers are written as numerals.
* `Json.read_pretty`: every well-formed document is read back.
-/

namespace LineBasic.Json

open Number (isDigit)

/-- A reader takes a value off the head of a text and leaves a rest. -/
def Takes {α : Type} {cs : List Char} (r : Option (Taken α cs)) (a : α) (rest : List Char) : Prop :=
  ∃ shorter, r = some ⟨a, rest, shorter⟩

variable {c d : Char} {cs tail rest rest' : List Char}

/-! ## Blanks -/

theorem skipBlanks_cons (hc : isBlank c = false) (cs : List Char) :
    skipBlanks (c :: cs) = c :: cs :=
  List.dropWhile_cons_of_neg (by rw [hc]; exact Bool.false_ne_true)

theorem skipBlanks_newline (depth : Nat) (cs : List Char) :
    skipBlanks ((newline depth).toList ++ cs) = skipBlanks cs := by
  unfold newline skipBlanks
  rw [String.toList_ofList]
  refine List.dropWhile_append_of_pos fun c hc => ?_
  rcases List.mem_cons.1 hc with rfl | hc
  · rfl
  · rw [List.eq_of_mem_replicate hc]
    rfl

theorem takes_eatChar (h : skipBlanks cs = c :: rest) : Takes (eatChar? c cs) () rest := by
  unfold eatChar?
  split
  · next heq =>
      rw [h] at heq
      cases heq
  · next heq =>
      rw [h] at heq
      cases heq
      exact ⟨_, if_pos rfl⟩

theorem eatChar?_eq_none (h : skipBlanks cs = d :: rest) (hne : d ≠ c) : eatChar? c cs = none := by
  unfold eatChar?
  split
  · rfl
  · next heq =>
      rw [h] at heq
      cases heq
      exact if_neg hne

/-! ## Texts -/

/-- A piece of a text stands for a character, without a neighbour. -/
inductive Piece.StandsFor : Piece → Char → Prop where
  | char (c : Char) : StandsFor (.char c) c
  | unit {c : Char} (control : c.toNat < 32) : StandsFor (.unit c.toNat) c

/-- A code unit below the halves is a character of its own, whatever stands behind it. -/
theorem not_half {code : Nat} (h : code < 32) :
    isHighHalf code = false ∧ isLowHalf code = false := by
  unfold isHighHalf isLowHalf
  constructor
  · rw [decide_eq_false (by omega), Bool.false_and]
  · rw [decide_eq_false (by omega), Bool.false_and]

theorem ofPieces?_of_standsFor {ps : List Piece} (h : List.Forall₂ Piece.StandsFor ps cs) :
    ofPieces? ps = some cs := by
  induction h with
  | nil => rfl
  | @cons p c ps cs hp hps ih =>
      cases hp with
      | char c => rw [ofPieces?, ih, Option.map_some]
      | unit control =>
          obtain ⟨hhigh, hlow⟩ := not_half control
          -- the reader looks at two code units at once, but here neither is half a character
          cases hps with
          | nil => simp [ofPieces?, hhigh, hlow, Char.ofNat_toNat]
          | cons hp' hps' =>
              cases hp' with
              | char c' =>
                  rw [ofPieces?]
                  · simp [hhigh, hlow, ih, Char.ofNat_toNat]
                  · exact fun low _ h => nomatch h
              | unit control' =>
                  rw [ofPieces?]
                  simp [hhigh, hlow, (not_half control').2, ih, Char.ofNat_toNat]

variable {ps : List Piece}

theorem takes_closingQuote (rest : List Char) : Takes (pieces ('"' :: rest)) [] rest := by
  refine ⟨Nat.lt_succ_self _, ?_⟩
  rw [pieces.eq_def]
  exact if_pos rfl

theorem takes_plain (hquote : c ≠ '"') (hslash : c ≠ '\\') (hcontrol : ¬ c.toNat < 32)
    (h : Takes (pieces tail) ps rest) : Takes (pieces (c :: tail)) (.char c :: ps) rest := by
  obtain ⟨shorter, h⟩ := h
  refine ⟨Nat.lt_succ_of_lt shorter, ?_⟩
  rw [pieces.eq_def]
  simp only [if_neg hquote, if_neg hslash, if_neg hcontrol, h]
  rfl

theorem takes_short (hunit : d ≠ 'u') (hd : shortEscape? d = some c)
    (h : Takes (pieces tail) ps rest) :
    Takes (pieces ('\\' :: d :: tail)) (.char c :: ps) rest := by
  obtain ⟨shorter, h⟩ := h
  refine ⟨Nat.lt_succ_of_lt (Nat.lt_succ_of_lt shorter), ?_⟩
  rw [pieces.eq_def]
  simp only [reduceIte, Char.reduceEq, if_neg hunit, hd, h]
  rfl

theorem takes_unit {h₁ h₂ h₃ h₄ : Char} {code : Nat} (hcode : codeUnit? h₁ h₂ h₃ h₄ = some code)
    (h : Takes (pieces tail) ps rest) :
    Takes (pieces ('\\' :: 'u' :: h₁ :: h₂ :: h₃ :: h₄ :: tail)) (.unit code :: ps) rest := by
  obtain ⟨shorter, h⟩ := h
  refine ⟨by simp only [List.length_cons]; omega, ?_⟩
  rw [pieces.eq_def]
  simp only [reduceIte, Char.reduceEq, hcode, h]
  rfl

theorem hexDigit?_digitChar {n : Nat} (h : n < 16) : hexDigit? (Nat.digitChar n) = some n := by
  revert n
  decide

/-- The four digits of a control character: two zeros, its half and its place in that half. -/
theorem controlEscape_eq (control : c.toNat < 32) :
    controlEscape c = ['\\', 'u', '0', '0', Nat.digitChar (c.toNat / 16),
      Nat.digitChar (c.toNat % 16)] := by
  unfold controlEscape
  rw [Nat.toDigits_eq_if (by decide)]
  split
  · next h =>
      rw [Nat.div_eq_of_lt h, Nat.mod_eq_of_lt h]
      rfl
  · next h =>
      rw [Nat.toDigits_of_lt_base (by omega : c.toNat / 16 < 16)]
      rfl

theorem codeUnit?_control (control : c.toNat < 32) :
    codeUnit? '0' '0' (Nat.digitChar (c.toNat / 16)) (Nat.digitChar (c.toNat % 16)) =
      some c.toNat := by
  have hzero : hexDigit? '0' = some 0 := by decide
  have hsum : ((0 * 16 + 0) * 16 + c.toNat / 16) * 16 + c.toNat % 16 = c.toNat := by omega
  unfold codeUnit?
  rw [hzero, hexDigit?_digitChar (by omega), hexDigit?_digitChar (by omega)]
  exact congrArg some hsum

/-- A character is read as a piece of its own where it is written so. -/
def IsWritten (written : List Char) (c : Char) : Prop :=
  ∃ p : Piece, p.StandsFor c ∧ ∀ {tail ps rest}, Takes (pieces tail) ps rest →
    Takes (pieces (written ++ tail)) (p :: ps) rest

theorem isWritten_short (hunit : d ≠ 'u') (hd : shortEscape? d = some c) :
    IsWritten ['\\', d] c :=
  ⟨.char c, .char c, takes_short hunit hd⟩

theorem isWritten_escape (c : Char) : IsWritten (escape c) c := by
  unfold escape
  split
  · next h =>
      rw [h]
      exact isWritten_short (by decide) rfl
  split
  · next h =>
      rw [h]
      exact isWritten_short (by decide) rfl
  split
  · next h =>
      rw [h]
      exact isWritten_short (by decide) rfl
  split
  · next h =>
      rw [h]
      exact isWritten_short (by decide) rfl
  split
  · next h =>
      rw [h]
      exact isWritten_short (by decide) rfl
  split
  · next h =>
      have hc : c = '\x08' := Char.toNat_inj.1 h
      rw [hc]
      exact isWritten_short (by decide) rfl
  split
  · next h =>
      have hc : c = '\x0c' := Char.toNat_inj.1 h
      rw [hc]
      exact isWritten_short (by decide) rfl
  split
  · next control =>
      refine ⟨.unit c.toNat, .unit control, fun h => ?_⟩
      rw [controlEscape_eq control]
      exact takes_unit (codeUnit?_control control) h
  · next hquote hslash _ _ _ _ _ hcontrol =>
      exact ⟨.char c, .char c, takes_plain hquote hslash hcontrol⟩

theorem takes_pieces (cs rest : List Char) : ∃ ps, List.Forall₂ Piece.StandsFor ps cs ∧
    Takes (pieces (cs.flatMap escape ++ '"' :: rest)) ps rest := by
  induction cs with
  | nil => exact ⟨[], .nil, takes_closingQuote rest⟩
  | cons c cs ih =>
      obtain ⟨ps, hps, htakes⟩ := ih
      obtain ⟨p, hp, hwritten⟩ := isWritten_escape c
      refine ⟨p :: ps, .cons hp hps, ?_⟩
      rw [List.flatMap_cons, List.append_assoc]
      exact hwritten htakes

/-- A text is read back from behind its opening quote. -/
theorem takes_content (s : String) (rest : List Char) :
    Takes (readContent (s.toList.flatMap escape ++ '"' :: rest)) (some s) rest := by
  obtain ⟨ps, hps, shorter, h⟩ := takes_pieces s.toList rest
  have hcontent : (ofPieces? ps).map String.ofList = some s := by
    rw [ofPieces?_of_standsFor hps, Option.map_some, String.ofList_toList]
  refine ⟨shorter, ?_⟩
  unfold readContent
  rw [h, Option.map_some]
  simp only [hcontent]

/-! ## Numbers -/

/-- What stands behind a number does not go on with it. -/
def EndsNumber (rest : List Char) : Prop :=
  ∀ c ∈ rest.head?, isDigit c = false ∧ c ≠ '.' ∧ c ≠ 'e' ∧ c ≠ 'E'

theorem endsNumber_nil : EndsNumber [] := fun _ h => nomatch h

theorem endsNumber_cons (h : isDigit c = false ∧ c ≠ '.' ∧ c ≠ 'e' ∧ c ≠ 'E') :
    EndsNumber (c :: rest) := by
  intro d hd
  cases hd
  exact h

/-- Characters that are read as a number, whatever ends it. -/
structure IsNumeral (digits : List Char) : Prop where
  opens : ∃ c tail, digits = c :: tail ∧ (c = '-' ∨ isDigit c = true)
  read : ∀ rest, EndsNumber rest → numberText? (digits ++ rest) = some digits

theorem isDigit_eq (c : Char) : isDigit c = c.isDigit := by
  unfold isDigit Char.isDigit
  rw [Bool.decide_and]
  rfl

theorem isDigit_of_mem_toDigits {n : Nat} (h : c ∈ Nat.toDigits 10 n) : isDigit c = true := by
  rw [isDigit_eq]
  exact Nat.isDigit_of_mem_toDigits (by decide) (by decide) h

/-- Only zero is written with a leading zero. -/
theorem toDigits_ne_zero_cons {n : Nat} (hn : 0 < n) (tail : List Char) :
    Nat.toDigits 10 n ≠ '0' :: tail := by
  induction n using Nat.strongRecOn generalizing tail with
  | ind n ih =>
      intro heq
      rw [Nat.toDigits_eq_if (by decide)] at heq
      split at heq
      · next hlt =>
          obtain ⟨hzero, -⟩ := List.cons.inj heq
          exact absurd (Nat.digitChar_eq_zero.1 hzero) (Nat.ne_of_gt hn)
      · next hge =>
          cases hhead : Nat.toDigits 10 (n / 10) with
          | nil => exact Nat.toDigits_ne_nil hhead
          | cons c digits =>
              rw [hhead, List.cons_append] at heq
              obtain ⟨rfl, -⟩ := List.cons.inj heq
              exact ih (n / 10) (by omega) (by omega) digits hhead

theorem takeWhile_isDigit {digits : List Char} (hdigits : ∀ c ∈ digits, isDigit c = true)
    (hrest : EndsNumber rest) : (digits ++ rest).takeWhile isDigit = digits := by
  rw [List.takeWhile_append_of_pos hdigits]
  cases rest with
  | nil => rw [List.takeWhile_nil, List.append_nil]
  | cons c rest =>
      have hc : ¬ isDigit c = true := by
        rw [(hrest c rfl).1]
        exact Bool.false_ne_true
      rw [List.takeWhile_cons_of_neg hc, List.append_nil]

theorem wholeDigits_toDigits (n : Nat) (hrest : EndsNumber rest) :
    wholeDigits (Nat.toDigits 10 n ++ rest) = Nat.toDigits 10 n := by
  rcases Nat.eq_zero_or_pos n with rfl | hn
  · rfl
  · unfold wholeDigits
    split
    · next heq =>
        cases hdigits : Nat.toDigits 10 n with
        | nil => exact absurd hdigits Nat.toDigits_ne_nil
        | cons c digits =>
            rw [hdigits, List.cons_append] at heq
            obtain ⟨rfl, -⟩ := List.cons.inj heq
            exact absurd hdigits (toDigits_ne_zero_cons hn digits)
    · exact takeWhile_isDigit (fun c hc => isDigit_of_mem_toDigits hc) hrest

theorem fractionPart?_of_ends (hrest : EndsNumber rest) : fractionPart? rest = some [] := by
  unfold fractionPart?
  split
  · exact absurd rfl (hrest '.' rfl).2.1
  · rfl

theorem powerPart?_of_ends (hrest : EndsNumber rest) : powerPart? rest = some [] := by
  cases rest with
  | nil => rfl
  | cons c rest =>
      obtain ⟨-, -, hlower, hupper⟩ := hrest c rfl
      exact if_neg fun h => h.elim hlower hupper

/-- A natural number is written as a numeral. -/
theorem isNumeral_repr (n : Nat) : IsNumeral (Nat.repr n).toList := by
  rw [Nat.toList_repr]
  cases hdigits : Nat.toDigits 10 n with
  | nil => exact absurd hdigits Nat.toDigits_ne_nil
  | cons c digits =>
      have hc : isDigit c = true := isDigit_of_mem_toDigits (hdigits ▸ List.mem_cons_self)
      have hsign : c ≠ '-' := by
        rintro rfl
        exact absurd hc (by decide)
      refine ⟨⟨c, digits, rfl, .inr hc⟩, fun rest hrest => ?_⟩
      have hwhole := wholeDigits_toDigits n hrest
      rw [hdigits] at hwhole
      have hnone : (c :: digits ++ rest).takeWhile (· = '-') = [] :=
        List.takeWhile_cons_of_neg (by rw [decide_eq_true_eq]; exact hsign)
      have hbehind : (c :: digits ++ rest).drop (c :: digits).length = rest := List.drop_left
      unfold numberText?
      simp only [hnone, List.take_nil, List.length_nil, List.drop_zero, hwhole, hbehind]
      simp only [reduceCtorEq, reduceIte, Option.bind_eq_bind, fractionPart?_of_ends hrest,
        Option.bind_some, List.length_nil, List.drop_zero, powerPart?_of_ends hrest,
        List.nil_append, List.append_nil]
      rfl

/-! ## Words and numbers -/

/-- A word that begins with another character does not stand at the head of a text. -/
theorem not_isPrefixOf {word : List Char} (hword : word.head? = some d) (hcs : cs.head? = some c)
    (hne : c ≠ d) : ¬ word.isPrefixOf cs = true := by
  intro h
  obtain ⟨behind, rfl⟩ := List.isPrefixOf_iff_prefix.1 h
  rw [List.head?_append, hword] at hcs
  exact hne (Option.some.inj hcs).symm

theorem length_lt_append {word : List Char} (hne : word ≠ []) (rest : List Char) :
    rest.length < (word ++ rest).length := by
  rw [List.length_append]
  exact Nat.lt_add_of_pos_left (List.length_pos_iff.2 hne)

theorem takes_null (rest : List Char) : Takes (readScalar ("null".toList ++ rest)) null rest := by
  refine ⟨length_lt_append (by decide) rest, ?_⟩
  unfold readScalar
  exact dif_pos (List.isPrefixOf_iff_prefix.2 (List.prefix_append _ _))

theorem takes_true (rest : List Char) :
    Takes (readScalar ("true".toList ++ rest)) (bool true) rest := by
  have hNull : ¬ "null".toList.isPrefixOf ("true".toList ++ rest) = true :=
    not_isPrefixOf (d := 'n') (c := 't') rfl rfl (by decide)
  refine ⟨length_lt_append (by decide) rest, ?_⟩
  unfold readScalar
  rw [dif_neg hNull]
  exact dif_pos (List.isPrefixOf_iff_prefix.2 (List.prefix_append _ _))

theorem takes_false (rest : List Char) :
    Takes (readScalar ("false".toList ++ rest)) (bool false) rest := by
  have hNull : ¬ "null".toList.isPrefixOf ("false".toList ++ rest) = true :=
    not_isPrefixOf (d := 'n') (c := 'f') rfl rfl (by decide)
  have hTrue : ¬ "true".toList.isPrefixOf ("false".toList ++ rest) = true :=
    not_isPrefixOf (d := 't') (c := 'f') rfl rfl (by decide)
  refine ⟨length_lt_append (by decide) rest, ?_⟩
  unfold readScalar
  rw [dif_neg hNull, dif_neg hTrue]
  exact dif_pos (List.isPrefixOf_iff_prefix.2 (List.prefix_append _ _))

theorem ne_of_opensNumber (hc : c = '-' ∨ isDigit c = true) (hd : d ≠ '-' ∧ isDigit d = false) :
    c ≠ d := by
  rintro rfl
  rcases hc with hc | hc
  · exact hd.1 hc
  · rw [hd.2] at hc
    cases hc

/-- A numeral begins with none of the words. -/
theorem IsNumeral.not_isPrefixOf {digits word : List Char} (h : IsNumeral digits)
    (hword : word.head? = some d) (hd : d ≠ '-' ∧ isDigit d = false) (rest : List Char) :
    ¬ word.isPrefixOf (digits ++ rest) = true := by
  obtain ⟨c, tail, rfl, hc⟩ := h.opens
  exact Json.not_isPrefixOf hword rfl (ne_of_opensNumber hc hd)

theorem IsNumeral.ne_nil {digits : List Char} (h : IsNumeral digits) : digits ≠ [] := by
  obtain ⟨c, tail, hdigits, -⟩ := h.opens
  exact List.ne_nil_of_mem (hdigits ▸ List.mem_cons_self)

theorem takes_number {digits : String} (h : IsNumeral digits.toList) (hrest : EndsNumber rest) :
    Takes (readScalar (digits.toList ++ rest)) (number digits) rest := by
  have hsome : digits.toList ≠ [] ∧ digits.toList ++ rest ≠ [] :=
    ⟨h.ne_nil, List.append_ne_nil_of_left_ne_nil h.ne_nil rest⟩
  have hbehind : (digits.toList ++ rest).drop digits.toList.length = rest := List.drop_left
  refine ⟨length_lt_append h.ne_nil rest, ?_⟩
  unfold readScalar
  rw [dif_neg (h.not_isPrefixOf (d := 'n') rfl (by decide) rest),
    dif_neg (h.not_isPrefixOf (d := 't') rfl (by decide) rest),
    dif_neg (h.not_isPrefixOf (d := 'f') rfl (by decide) rest), h.read rest hrest]
  simp only [Option.bind_eq_bind, Option.bind_some, dif_pos hsome, hbehind, String.ofList_toList]
  rfl

/-! ## Documents

What stands at the head of a text behind its blanks tells which document is read. -/

section Steps

variable {item value : Json} {items : List Json} {fields : List (Option String × Json)}
  {content name : Option String}

theorem takes_emptyArray (hopen : skipBlanks cs = '[' :: tail)
    (hclose : skipBlanks tail = ']' :: rest) : Takes (readValue cs) (array []) rest := by
  obtain ⟨h₁, hopen⟩ := takes_eatChar hopen
  obtain ⟨h₂, hclose⟩ := takes_eatChar hclose
  refine ⟨Nat.lt_trans h₂ h₁, ?_⟩
  rw [readValue, hopen]
  simp only [hclose]

theorem takes_array (hopen : skipBlanks cs = '[' :: tail) (hclose : eatChar? ']' tail = none)
    (hitems : Takes (readItems tail) items rest) : Takes (readValue cs) (array items) rest := by
  obtain ⟨h₁, hopen⟩ := takes_eatChar hopen
  obtain ⟨h₂, hitems⟩ := hitems
  refine ⟨Nat.lt_trans h₂ h₁, ?_⟩
  rw [readValue, hopen]
  simp only [hclose, hitems]
  rfl

theorem takes_lastItem (hitem : Takes (readValue cs) item tail)
    (hclose : skipBlanks tail = ']' :: rest) : Takes (readItems cs) [item] rest := by
  have hcomma : eatChar? ',' tail = none := eatChar?_eq_none hclose (by decide)
  obtain ⟨h₁, hitem⟩ := hitem
  obtain ⟨h₂, hclose⟩ := takes_eatChar hclose
  refine ⟨Nat.lt_trans h₂ h₁, ?_⟩
  rw [readItems, hitem]
  simp only [Option.bind_eq_bind, Option.bind_some, hcomma, hclose]
  rfl

theorem takes_item (hitem : Takes (readValue cs) item rest')
    (hcomma : skipBlanks rest' = ',' :: tail) (hitems : Takes (readItems tail) items rest) :
    Takes (readItems cs) (item :: items) rest := by
  obtain ⟨h₁, hitem⟩ := hitem
  obtain ⟨h₂, hcomma⟩ := takes_eatChar hcomma
  obtain ⟨h₃, hitems⟩ := hitems
  refine ⟨Nat.lt_trans h₃ (Nat.lt_trans h₂ h₁), ?_⟩
  rw [readItems, hitem]
  simp only [Option.bind_eq_bind, Option.bind_some, hcomma, hitems]
  rfl

theorem takes_emptyObject (hopen : skipBlanks cs = '\x7b' :: tail)
    (hclose : skipBlanks tail = '\x7d' :: rest) : Takes (readValue cs) (object []) rest := by
  have harray : eatChar? '[' cs = none := eatChar?_eq_none hopen (by decide)
  obtain ⟨h₁, hopen⟩ := takes_eatChar hopen
  obtain ⟨h₂, hclose⟩ := takes_eatChar hclose
  refine ⟨Nat.lt_trans h₂ h₁, ?_⟩
  rw [readValue, harray]
  simp only [hopen, hclose]

theorem takes_object (hopen : skipBlanks cs = '\x7b' :: tail)
    (hclose : eatChar? '\x7d' tail = none) (hfields : Takes (readFields tail) fields rest) :
    Takes (readValue cs) (object fields) rest := by
  have harray : eatChar? '[' cs = none := eatChar?_eq_none hopen (by decide)
  obtain ⟨h₁, hopen⟩ := takes_eatChar hopen
  obtain ⟨h₂, hfields⟩ := hfields
  refine ⟨Nat.lt_trans h₂ h₁, ?_⟩
  rw [readValue, harray]
  simp only [hopen, hclose, hfields]
  rfl

theorem takes_text (hopen : skipBlanks cs = '"' :: tail)
    (hcontent : Takes (readContent tail) content rest) :
    Takes (readValue cs) (text content) rest := by
  have harray : eatChar? '[' cs = none := eatChar?_eq_none hopen (by decide)
  have hobject : eatChar? '\x7b' cs = none := eatChar?_eq_none hopen (by decide)
  obtain ⟨h₁, hopen⟩ := takes_eatChar hopen
  obtain ⟨h₂, hcontent⟩ := hcontent
  refine ⟨Nat.lt_trans h₂ h₁, ?_⟩
  rw [readValue, harray]
  simp only [hobject, hopen, hcontent]
  rfl

theorem takes_scalar (hopen : skipBlanks cs = c :: tail) (hc : c ≠ '[' ∧ c ≠ '\x7b' ∧ c ≠ '"')
    (hscalar : Takes (readScalar (c :: tail)) value rest) : Takes (readValue cs) value rest := by
  have harray : eatChar? '[' cs = none := eatChar?_eq_none hopen hc.1
  have hobject : eatChar? '\x7b' cs = none := eatChar?_eq_none hopen hc.2.1
  have htext : eatChar? '"' cs = none := eatChar?_eq_none hopen hc.2.2
  rw [← hopen] at hscalar
  obtain ⟨shorter, hscalar⟩ := hscalar
  refine ⟨Nat.lt_of_lt_of_le shorter (length_skipBlanks_le cs), ?_⟩
  rw [readValue, harray]
  simp only [hobject, htext, hscalar]
  rfl

/-- A name, a colon and a document stand at the head of a text. -/
def TakesField (cs : List Char) (name : Option String) (value : Json) (rest : List Char) : Prop :=
  ∃ afterQuote afterName afterColon, skipBlanks cs = '"' :: afterQuote ∧
    Takes (readContent afterQuote) name afterName ∧ skipBlanks afterName = ':' :: afterColon ∧
    Takes (readValue afterColon) value rest

theorem takes_lastField (hfield : TakesField cs name value tail)
    (hclose : skipBlanks tail = '\x7d' :: rest) : Takes (readFields cs) [(name, value)] rest := by
  have hcomma : eatChar? ',' tail = none := eatChar?_eq_none hclose (by decide)
  obtain ⟨afterQuote, afterName, afterColon, hquote, ⟨h₂, hname⟩, hcolon, ⟨h₄, hvalue⟩⟩ := hfield
  obtain ⟨h₁, hquote⟩ := takes_eatChar hquote
  obtain ⟨h₃, hcolon⟩ := takes_eatChar hcolon
  obtain ⟨h₅, hclose⟩ := takes_eatChar hclose
  refine ⟨by omega, ?_⟩
  rw [readFields, hquote]
  simp only [Option.bind_eq_bind, Option.bind_some, hname, hcolon, hvalue, hcomma, hclose]
  rfl

theorem takes_field (hfield : TakesField cs name value rest')
    (hcomma : skipBlanks rest' = ',' :: tail) (hfields : Takes (readFields tail) fields rest) :
    Takes (readFields cs) ((name, value) :: fields) rest := by
  obtain ⟨afterQuote, afterName, afterColon, hquote, ⟨h₂, hname⟩, hcolon, ⟨h₄, hvalue⟩⟩ := hfield
  obtain ⟨h₁, hquote⟩ := takes_eatChar hquote
  obtain ⟨h₃, hcolon⟩ := takes_eatChar hcolon
  obtain ⟨h₅, hcomma⟩ := takes_eatChar hcomma
  obtain ⟨h₆, hfields⟩ := hfields
  refine ⟨by omega, ?_⟩
  rw [readFields, hquote]
  simp only [Option.bind_eq_bind, Option.bind_some, hname, hcolon, hvalue, hcomma, hfields]
  rfl

end Steps

/-! ## Written documents -/

/-- All texts of a document have their content, and all its numbers are numerals. -/
inductive WellFormed : Json → Prop where
  | null : WellFormed null
  | bool (b : Bool) : WellFormed (bool b)
  | number {digits : String} (numeral : IsNumeral digits.toList) : WellFormed (number digits)
  | text (s : String) : WellFormed (text (some s))
  | array {items : List Json} (values : ∀ item ∈ items, WellFormed item) : WellFormed (array items)
  | object {fields : List (Option String × Json)} (names : ∀ field ∈ fields, field.1.isSome)
      (values : ∀ field ∈ fields, WellFormed field.2) : WellFormed (object fields)

/-- Characters that are read as a document wherever they stand behind blanks. -/
structure ReadsAs (written : List Char) (j : Json) : Prop where
  opens : ∃ c tail, written = c :: tail ∧ isBlank c = false ∧ c ≠ ']'
  read : ∀ cs rest, skipBlanks cs = written ++ rest → EndsNumber rest → Takes (readValue cs) j rest

theorem toList_quote (s : String) :
    (quote s).toList = '"' :: (s.toList.flatMap escape ++ ['"']) := by
  unfold quote
  simp only [String.toList_append, String.toList_ofList]
  rfl

theorem readsAs_text (s : String) : ReadsAs (quote s).toList (text (some s)) := by
  rw [toList_quote]
  refine ⟨⟨'"', _, rfl, rfl, by decide⟩, fun cs rest hcs _ => ?_⟩
  rw [List.cons_append, List.append_assoc] at hcs
  exact takes_text hcs (takes_content s rest)

/-- A scalar is read as soon as its first character is seen not to open anything else. -/
theorem readsAs_scalar {written : List Char} {j : Json} (hwritten : written = c :: tail)
    (hblank : isBlank c = false) (hclose : c ≠ ']') (hc : c ≠ '[' ∧ c ≠ '\x7b' ∧ c ≠ '"')
    (read : ∀ rest, EndsNumber rest → Takes (readScalar (written ++ rest)) j rest) :
    ReadsAs written j := by
  subst hwritten
  exact ⟨⟨c, tail, rfl, hblank, hclose⟩,
    fun cs rest hcs hrest => takes_scalar hcs hc (read rest hrest)⟩

theorem readsAs_number {digits : String} (h : IsNumeral digits.toList) :
    ReadsAs digits.toList (number digits) := by
  obtain ⟨c, tail, hdigits, hc⟩ := h.opens
  have hblank : isBlank c = false := by
    unfold isBlank
    rw [decide_eq_false (ne_of_opensNumber hc (by decide)),
      decide_eq_false (ne_of_opensNumber hc (by decide)),
      decide_eq_false (ne_of_opensNumber hc (by decide)),
      decide_eq_false (ne_of_opensNumber hc (by decide))]
    rfl
  have hopens : c ≠ '[' ∧ c ≠ '\x7b' ∧ c ≠ '"' :=
    ⟨ne_of_opensNumber hc (by decide), ne_of_opensNumber hc (by decide),
      ne_of_opensNumber hc (by decide)⟩
  exact readsAs_scalar hdigits hblank (ne_of_opensNumber hc (by decide)) hopens
    fun rest => takes_number h

/-- Neither a blank nor what stands behind blanks goes on with a number. -/
theorem endsNumber_of_skipBlanks (h : skipBlanks tail = c :: rest)
    (hc : isDigit c = false ∧ c ≠ '.' ∧ c ≠ 'e' ∧ c ≠ 'E') : EndsNumber tail := by
  cases tail with
  | nil => exact endsNumber_nil
  | cons d tail =>
      refine endsNumber_cons ?_
      cases hblank : isBlank d with
      | false =>
          rw [skipBlanks_cons hblank] at h
          obtain ⟨rfl, -⟩ := List.cons.inj h
          exact hc
      | true =>
          simp only [isBlank, Bool.or_eq_true, decide_eq_true_eq] at hblank
          rcases hblank with ((rfl | rfl) | rfl) | rfl <;> decide

theorem ReadsAs.skipBlanks_newline {written : List Char} {j : Json} (h : ReadsAs written j)
    (depth : Nat) (rest : List Char) :
    skipBlanks ((newline depth).toList ++ (written ++ rest)) = written ++ rest := by
  obtain ⟨c, tail, rfl, hblank, -⟩ := h.opens
  rw [Json.skipBlanks_newline]
  exact skipBlanks_cons hblank _

/-- On a line of its own a document is read as well. -/
theorem ReadsAs.read_newline {written : List Char} {j : Json} (h : ReadsAs written j) (depth : Nat)
    (hrest : EndsNumber rest) :
    Takes (readValue ((newline depth).toList ++ (written ++ rest))) j rest :=
  h.read _ rest (h.skipBlanks_newline depth rest) hrest

theorem toList_prettyItems_cons (depth : Nat) (item next : Json) (others : List Json) :
    (prettyItems depth (item :: next :: others)).toList =
      (newline depth).toList ++
        ((item.prettyAt depth).toList ++ ',' :: (prettyItems depth (next :: others)).toList) := by
  have hwritten : prettyItems depth (item :: next :: others) =
      newline depth ++ item.prettyAt depth ++ "," ++ prettyItems depth (next :: others) := by
    rw [prettyItems]
    exact List.cons_ne_nil _ _
  rw [hwritten]
  simp only [String.toList_append, List.append_assoc]
  rfl

theorem toList_prettyFields_last (depth : Nat) (name : Option String) (value : Json) :
    (prettyFields depth [(name, value)]).toList =
      (newline depth).toList ++
        ((quoteContent name).toList ++ ':' :: ' ' :: (value.prettyAt depth).toList) := by
  rw [prettyFields]
  simp only [String.toList_append, List.append_assoc]
  rfl

theorem toList_prettyFields_cons (depth : Nat) (name : Option String) (value : Json)
    (next : Option String × Json) (others : List (Option String × Json)) :
    (prettyFields depth ((name, value) :: next :: others)).toList =
      (newline depth).toList ++
        ((quoteContent name).toList ++ ':' :: ' ' :: ((value.prettyAt depth).toList ++
          ',' :: (prettyFields depth (next :: others)).toList)) := by
  have hwritten : prettyFields depth ((name, value) :: next :: others) =
      newline depth ++ quoteContent name ++ ": " ++ value.prettyAt depth ++ "," ++
        prettyFields depth (next :: others) := by
    rw [prettyFields]
    exact List.cons_ne_nil _ _
  rw [hwritten]
  simp only [String.toList_append, List.append_assoc]
  rfl

theorem takes_prettyItems {depth : Nat} {items : List Json} (hne : items ≠ [])
    (hitems : ∀ item ∈ items, ReadsAs (item.prettyAt depth).toList item)
    (hclose : skipBlanks tail = ']' :: rest) :
    Takes (readItems ((prettyItems depth items).toList ++ tail)) items rest := by
  induction items with
  | nil => exact absurd rfl hne
  | cons item others ih =>
      have hitem := hitems item List.mem_cons_self
      cases others with
      | nil =>
          have hends := endsNumber_of_skipBlanks hclose (by decide)
          rw [prettyItems, String.toList_append, List.append_assoc]
          exact takes_lastItem (hitem.read_newline depth hends) hclose
      | cons next others =>
          have htail := ih (List.cons_ne_nil _ _)
            fun item h => hitems item (List.mem_cons_of_mem _ h)
          have hends : EndsNumber (',' :: ((prettyItems depth (next :: others)).toList ++ tail)) :=
            endsNumber_cons (by decide)
          rw [toList_prettyItems_cons, List.append_assoc, List.append_assoc]
          exact takes_item (hitem.read_newline depth hends) (skipBlanks_cons rfl _) htail

theorem takesField_pretty {value : Json} {depth : Nat}
    (hvalue : ReadsAs (value.prettyAt depth).toList value) (name : String)
    (hrest : EndsNumber rest) :
    TakesField ((newline depth).toList ++ ((quoteContent (some name)).toList ++ ':' :: ' ' ::
      ((value.prettyAt depth).toList ++ rest))) (some name) value rest := by
  obtain ⟨c, tail, hwritten, hblank, -⟩ := hvalue.opens
  have hquote : (quoteContent (some name)).toList =
      '"' :: (name.toList.flatMap escape ++ ['"']) := toList_quote name
  have hbehind : skipBlanks (' ' :: ((value.prettyAt depth).toList ++ rest)) =
      (value.prettyAt depth).toList ++ rest := by
    rw [hwritten]
    exact skipBlanks_cons hblank _
  rw [hquote]
  simp only [List.cons_append, List.append_assoc]
  refine ⟨_, _, _, ?_, takes_content name _, skipBlanks_cons rfl _, hvalue.read _ _ hbehind hrest⟩
  rw [Json.skipBlanks_newline]
  exact skipBlanks_cons rfl _

theorem takes_prettyFields {depth : Nat} {fields : List (Option String × Json)} (hne : fields ≠ [])
    (hnames : ∀ field ∈ fields, field.1.isSome)
    (hvalues : ∀ field ∈ fields, ReadsAs (field.2.prettyAt depth).toList field.2)
    (hclose : skipBlanks tail = '\x7d' :: rest) :
    Takes (readFields ((prettyFields depth fields).toList ++ tail)) fields rest := by
  induction fields with
  | nil => exact absurd rfl hne
  | cons field others ih =>
      obtain ⟨name?, value⟩ := field
      obtain ⟨name, rfl⟩ := Option.isSome_iff_exists.1 (hnames _ List.mem_cons_self)
      have hvalue := hvalues _ List.mem_cons_self
      cases others with
      | nil =>
          have hends := endsNumber_of_skipBlanks hclose (by decide)
          rw [toList_prettyFields_last, List.append_assoc, List.append_assoc]
          exact takes_lastField (takesField_pretty hvalue name hends) hclose
      | cons next others =>
          have htail := ih (List.cons_ne_nil _ _)
            (fun field h => hnames field (List.mem_cons_of_mem _ h))
            fun field h => hvalues field (List.mem_cons_of_mem _ h)
          have hends : EndsNumber (',' :: ((prettyFields depth (next :: others)).toList ++ tail)) :=
            endsNumber_cons (by decide)
          rw [toList_prettyFields_cons, List.append_assoc, List.append_assoc, List.cons_append,
            List.cons_append, List.append_assoc]
          exact takes_field (takesField_pretty hvalue name hends) (skipBlanks_cons rfl _) htail

/-- No bracket closes an array before its first item. -/
theorem eatChar?_prettyItems {depth : Nat} {item : Json} (others : List Json)
    (hitem : ReadsAs (item.prettyAt depth).toList item) (tail : List Char) :
    eatChar? ']' ((prettyItems depth (item :: others)).toList ++ tail) = none := by
  have hfirst : ∃ behind, (prettyItems depth (item :: others)).toList =
      (newline depth).toList ++ ((item.prettyAt depth).toList ++ behind) := by
    cases others with
    | nil => exact ⟨[], by rw [prettyItems, String.toList_append, List.append_nil]⟩
    | cons next others => exact ⟨_, toList_prettyItems_cons depth item next others⟩
  obtain ⟨behind, hbehind⟩ := hfirst
  obtain ⟨c, written, hwritten, -, hc⟩ := hitem.opens
  have hopen : skipBlanks ((newline depth).toList ++ ((item.prettyAt depth).toList ++
      (behind ++ tail))) = c :: (written ++ (behind ++ tail)) := by
    rw [hitem.skipBlanks_newline, hwritten, List.cons_append]
  rw [hbehind, List.append_assoc, List.append_assoc]
  exact eatChar?_eq_none hopen hc

/-- No brace closes an object before its first field. -/
theorem eatChar?_prettyFields (depth : Nat) (field : Option String × Json)
    (others : List (Option String × Json)) (tail : List Char) :
    eatChar? '\x7d' ((prettyFields depth (field :: others)).toList ++ tail) = none := by
  obtain ⟨name, value⟩ := field
  have hfirst : ∃ behind, (prettyFields depth ((name, value) :: others)).toList =
      (newline depth).toList ++ ((quoteContent name).toList ++ behind) := by
    cases others with
    | nil => exact ⟨_, toList_prettyFields_last depth name value⟩
    | cons next others => exact ⟨_, toList_prettyFields_cons depth name value next others⟩
  obtain ⟨behind, hbehind⟩ := hfirst
  rw [hbehind, quoteContent, toList_quote, List.append_assoc, List.append_assoc]
  exact eatChar?_eq_none ((skipBlanks_newline depth _).trans (skipBlanks_cons rfl _)) (by decide)

theorem readsAs_array {depth : Nat} {items : List Json}
    (hitems : ∀ item ∈ items, ReadsAs (item.prettyAt (depth + 1)).toList item) :
    ReadsAs ((array items).prettyAt depth).toList (array items) := by
  cases items with
  | nil =>
      have hwritten : ((array []).prettyAt depth).toList = ['[', ']'] := by
        rw [prettyAt]
        rfl
      rw [hwritten]
      refine ⟨⟨'[', _, rfl, rfl, by decide⟩, fun cs rest hcs _ => ?_⟩
      exact takes_emptyArray hcs (skipBlanks_cons rfl _)
  | cons item others =>
      have hwritten : ((array (item :: others)).prettyAt depth).toList =
          '[' :: ((prettyItems (depth + 1) (item :: others)).toList ++
            ((newline depth).toList ++ [']'])) := by
        rw [prettyAt]
        · simp only [String.toList_append, List.append_assoc]
          rfl
        · exact List.cons_ne_nil _ _
      rw [hwritten]
      refine ⟨⟨'[', _, rfl, rfl, by decide⟩, fun cs rest hcs _ => ?_⟩
      rw [List.cons_append, List.append_assoc, List.append_assoc] at hcs
      refine takes_array hcs (eatChar?_prettyItems others (hitems item List.mem_cons_self) _) ?_
      refine takes_prettyItems (List.cons_ne_nil _ _) hitems ?_
      exact (skipBlanks_newline depth _).trans (skipBlanks_cons rfl _)

theorem readsAs_object {depth : Nat} {fields : List (Option String × Json)}
    (hnames : ∀ field ∈ fields, field.1.isSome)
    (hvalues : ∀ field ∈ fields, ReadsAs (field.2.prettyAt (depth + 1)).toList field.2) :
    ReadsAs ((object fields).prettyAt depth).toList (object fields) := by
  cases fields with
  | nil =>
      have hwritten : ((object []).prettyAt depth).toList = ['\x7b', '\x7d'] := by
        rw [prettyAt]
        rfl
      rw [hwritten]
      refine ⟨⟨'\x7b', _, rfl, rfl, by decide⟩, fun cs rest hcs _ => ?_⟩
      exact takes_emptyObject hcs (skipBlanks_cons rfl _)
  | cons field others =>
      have hwritten : ((object (field :: others)).prettyAt depth).toList =
          '\x7b' :: ((prettyFields (depth + 1) (field :: others)).toList ++
            ((newline depth).toList ++ ['\x7d'])) := by
        rw [prettyAt]
        · simp only [String.toList_append, List.append_assoc]
          rfl
        · exact List.cons_ne_nil _ _
      rw [hwritten]
      refine ⟨⟨'\x7b', _, rfl, rfl, by decide⟩, fun cs rest hcs _ => ?_⟩
      rw [List.cons_append, List.append_assoc, List.append_assoc] at hcs
      refine takes_object hcs (eatChar?_prettyFields _ field others _) ?_
      refine takes_prettyFields (List.cons_ne_nil _ _) hnames hvalues ?_
      exact (skipBlanks_newline depth _).trans (skipBlanks_cons rfl _)

/-- Every well-formed document is read back at every nesting depth. -/
theorem readsAs_pretty {j : Json} (h : j.WellFormed) (depth : Nat) :
    ReadsAs (j.prettyAt depth).toList j := by
  induction h generalizing depth with
  | null =>
      have hnull : ReadsAs "null".toList null :=
        readsAs_scalar (c := 'n') rfl rfl (by decide) (by decide) fun rest _ => takes_null rest
      exact hnull
  | bool b =>
      have htrue : ReadsAs "true".toList (bool true) :=
        readsAs_scalar (c := 't') rfl rfl (by decide) (by decide) fun rest _ => takes_true rest
      have hfalse : ReadsAs "false".toList (bool false) :=
        readsAs_scalar (c := 'f') rfl rfl (by decide) (by decide) fun rest _ => takes_false rest
      cases b with
      | true => exact htrue
      | false => exact hfalse
  | number numeral => exact readsAs_number numeral
  | text s => exact readsAs_text s
  | array values ih => exact readsAs_array fun item hitem => ih item hitem (depth + 1)
  | object names values ih =>
      exact readsAs_object names fun field hfield => ih field hfield (depth + 1)

/-- Every well-formed document is read back from its written form. -/
theorem read_pretty {j : Json} (h : j.WellFormed) : read j.pretty = some j := by
  obtain ⟨c, tail, hwritten, hblank, -⟩ := (readsAs_pretty h 0).opens
  have hskip : skipBlanks j.pretty.toList = (j.prettyAt 0).toList ++ [] := by
    rw [List.append_nil, pretty, hwritten]
    exact skipBlanks_cons hblank tail
  obtain ⟨shorter, hread⟩ := (readsAs_pretty h 0).read _ [] hskip endsNumber_nil
  unfold read
  rw [hread]
  rfl

/-! ## Well-formed documents -/

theorem wellFormed_ofString (s : String) : (ofString s).WellFormed := .text s

theorem wellFormed_ofNat (n : Nat) : (ofNat n).WellFormed := .number (isNumeral_repr n)

theorem wellFormed_ofFields {fields : List (String × Json)}
    (values : ∀ field ∈ fields, field.2.WellFormed) : (ofFields fields).WellFormed := by
  refine .object (fun field hfield => ?_) fun field hfield => ?_
  · obtain ⟨named, -, rfl⟩ := List.mem_map.1 hfield
    rfl
  · obtain ⟨named, hnamed, rfl⟩ := List.mem_map.1 hfield
    exact values named hnamed

end LineBasic.Json
