import LineBasic.Token.Lexer

/-!
# The tokens of a text in brackets

A text is cut into tokens from left to right, and a closing bracket that stands behind it is a token
of its own, because it can go on with no number, word or sign.  There are two exceptions: a quotation
that is never closed takes in all that follows, and behind a remark nothing is read.

## Main definitions

* `Token.IsClosed`: a text token has its closing quote.
* `Lexeme.Headed`: which reader decides what stands at the head of a text.
* `BracketBehind`: how the tokens of a text change when a bracket is put behind it.

## Main results

* `ofText_bracket`: what stands at the head of a text is the same with a bracket behind the text.
* `tokensFrom_bracket`: the tokens change in one of these ways.
* `tokensFrom_elsewhere`: the place of a text in its line has no part in the kinds of its tokens.
-/

namespace LineBasic

namespace Lexeme

open Number (isDigit)

variable {p : Char → Bool} {c : Char} {cs rest tail : List Char} {kind : TokenKind} {more : Nat}

/-! ## Runs of characters -/

theorem takeWhile_bracket (h : p ')' = false) (cs tail : List Char) :
    (cs ++ ')' :: tail).takeWhile p = cs.takeWhile p := by
  induction cs with
  | nil => rw [List.nil_append, List.takeWhile_cons, h]; rfl
  | cons c cs ih => rw [List.cons_append, List.takeWhile_cons, List.takeWhile_cons, ih]

theorem dropWhile_bracket (h : p ')' = false) (cs tail : List Char) :
    (cs ++ ')' :: tail).dropWhile p = cs.dropWhile p ++ ')' :: tail := by
  induction cs with
  | nil => rw [List.nil_append, List.dropWhile_cons, h]; rfl
  | cons c cs ih =>
      rw [List.cons_append, List.dropWhile_cons, List.dropWhile_cons, ih]
      split <;> rfl

/-- A bracket tells a look at the next character no more than the end of the text does. -/
theorem head?_bracket {β : Type} (f : Option Char → β) (h : f (some ')') = f none)
    (cs tail : List Char) : f (cs ++ ')' :: tail).head? = f cs.head? := by
  cases cs with
  | nil => exact h
  | cons c cs => rfl

theorem length_takeWhile_add (p : Char → Bool) (cs : List Char) :
    (cs.takeWhile p).length + (cs.dropWhile p).length = cs.length := by
  rw [← List.length_append, List.takeWhile_append_dropWhile]

/-- A run of characters goes up to the first one that does not belong to it. -/
theorem takeWhile_stops (h : ∀ d ∈ cs, p d = true) (hc : p c = false) (rest : List Char) :
    (cs ++ c :: rest).takeWhile p = cs := by
  rw [List.takeWhile_append_of_pos h, List.takeWhile_cons, hc]
  exact List.append_nil cs

theorem dropWhile_stops (h : ∀ d ∈ cs, p d = true) (hc : p c = false) (rest : List Char) :
    (cs ++ c :: rest).dropWhile p = c :: rest := by
  rw [List.dropWhile_append_of_pos h, List.dropWhile_cons, hc]
  rfl

/-! ## Numerals -/

/-- The sign of a power of ten behind its letter: whether it is negative, what follows, and the number
of characters up to there, the letter included. -/
def powerSign (rest : List Char) : Bool × List Char × Nat :=
  match rest with
  | '+' :: tail => (false, tail, 2)
  | '-' :: tail => (true, tail, 2)
  | _ => (false, rest, 1)

theorem powerOf_cons (mark : Char) (rest : List Char) :
    powerOf (mark :: rest) =
      if mark = 'e' ∨ mark = 'E' then
        let digits := (powerSign rest).2.1.takeWhile isDigit
        if digits = [] then (0, 0)
        else
          let n : Int := Number.ofDecimalDigits digits
          (if (powerSign rest).1 then -n else n, (powerSign rest).2.2 + digits.length)
      else (0, 0) := rfl

/-- The places of a numeral: their digits, the width of the point before them, and what follows. -/
def places (rest : List Char) : List Char × Nat × List Char :=
  match rest with
  | '.' :: tail => (tail.takeWhile isDigit, 1, tail.dropWhile isDigit)
  | _ => ([], 0, rest)

theorem decimal_eq (cs : List Char) :
    decimal cs =
      let whole := cs.takeWhile isDigit
      let behind := places (cs.dropWhile isDigit)
      let power := powerOf behind.2.2
      (⟨whole, behind.1, power.1⟩,
        whole.length + behind.2.1 + behind.1.length + power.2) := rfl

theorem powerSign_bracket (rest tail : List Char) :
    powerSign (rest ++ ')' :: tail) =
      ((powerSign rest).1, (powerSign rest).2.1 ++ ')' :: tail, (powerSign rest).2.2) := by
  cases rest with
  | nil => rfl
  | cons c rest =>
      by_cases hplus : c = '+'
      · subst hplus
        rfl
      · by_cases hminus : c = '-'
        · subst hminus
          rfl
        · simp [powerSign, hplus, hminus]

theorem powerSign_length (rest : List Char) :
    (powerSign rest).2.2 + (powerSign rest).2.1.length = rest.length + 1 := by
  unfold powerSign
  split <;> simp only [List.length_cons] <;> omega

theorem powerOf_bracket (cs tail : List Char) : powerOf (cs ++ ')' :: tail) = powerOf cs := by
  cases cs with
  | nil => rfl
  | cons mark rest =>
      rw [List.cons_append, powerOf_cons, powerOf_cons, powerSign_bracket]
      dsimp only
      rw [takeWhile_bracket rfl]

theorem powerOf_width (cs : List Char) : (powerOf cs).2 ≤ cs.length := by
  cases cs with
  | nil => exact Nat.le_refl 0
  | cons mark rest =>
      have hdigits := length_takeWhile_add isDigit (powerSign rest).2.1
      have hsign := powerSign_length rest
      rw [powerOf_cons, List.length_cons]
      dsimp only
      split
      · split
        · exact Nat.zero_le _
        · omega
      · exact Nat.zero_le _

theorem places_bracket (rest tail : List Char) :
    places (rest ++ ')' :: tail) =
      ((places rest).1, (places rest).2.1, (places rest).2.2 ++ ')' :: tail) := by
  cases rest with
  | nil => rfl
  | cons c rest =>
      by_cases hpoint : c = '.'
      · subst hpoint
        rw [List.cons_append, places, places, takeWhile_bracket rfl, dropWhile_bracket rfl]
      · simp [places, hpoint]

theorem places_length (rest : List Char) :
    (places rest).2.1 + (places rest).1.length + (places rest).2.2.length = rest.length := by
  unfold places
  split
  · next tail =>
      have hdigits := length_takeWhile_add isDigit tail
      simp only [List.length_cons]
      omega
  · simp

theorem decimal_bracket (cs tail : List Char) : decimal (cs ++ ')' :: tail) = decimal cs := by
  rw [decimal_eq, decimal_eq, takeWhile_bracket rfl, dropWhile_bracket rfl, places_bracket]
  dsimp only
  rw [powerOf_bracket]

theorem decimal_width (cs : List Char) : (decimal cs).2 ≤ cs.length := by
  have hwhole := length_takeWhile_add isDigit cs
  have hplaces := places_length (cs.dropWhile isDigit)
  have hpower := powerOf_width (places (cs.dropWhile isDigit)).2.2
  rw [decimal_eq]
  dsimp only
  omega

theorem radix_bracket {base letters : Nat} (h : p ')' = false) (cs tail : List Char) :
    radix base p letters (cs ++ ')' :: tail) = radix base p letters cs := by
  unfold radix
  rw [takeWhile_bracket h]

theorem radix_width {base letters : Nat} (h : radix base p letters cs = .token kind more) :
    more ≤ letters + cs.length := by
  have hdigits := length_takeWhile_add p cs
  unfold radix at h
  dsimp only at h
  split at h
  · cases h
  · split at h
    · cases h
      omega
    · cases h

theorem ampersand_bracket (cs tail : List Char) :
    ampersand (cs ++ ')' :: tail) = ampersand cs := by
  cases cs with
  | nil => rfl
  | cons mark rest =>
      rw [List.cons_append, ampersand, ampersand, radix_bracket rfl, radix_bracket rfl,
        ← List.cons_append, radix_bracket rfl]

theorem ampersand_width (h : ampersand cs = .token kind more) : more ≤ cs.length := by
  cases cs with
  | nil => cases h
  | cons mark rest =>
      rw [ampersand] at h
      rw [List.length_cons]
      split at h
      · have hwidth := radix_width h
        omega
      · split at h
        · have hwidth := radix_width h
          omega
        · have hwidth := radix_width h
          rw [List.length_cons] at hwidth
          omega

/-! ## Words, signs and quotations -/

theorem isNameChar_of_isLetter (h : Text.isLetter c = true) : isNameChar c = true := by
  simp [isNameChar, h]

theorem word_bracket (cs tail : List Char) : word (cs ++ ')' :: tail) = word cs := by
  unfold word
  rw [takeWhile_bracket rfl, dropWhile_bracket rfl,
    head?_bracket (fun c => c.filter isTypeMark) rfl]

/-- A word has a letter at its head. -/
theorem word_width (hletter : Text.isLetter c = true) (h : word (c :: rest) = .token kind more) :
    more ≤ rest.length := by
  have hname := isNameChar_of_isLetter hletter
  have hletters := length_takeWhile_add isNameChar rest
  unfold word at h
  rw [List.takeWhile_cons_of_pos hname, List.dropWhile_cons_of_pos hname] at h
  dsimp only at h
  split at h
  · next mark hmark =>
      cases hbehind : rest.dropWhile isNameChar with
      | nil =>
          rw [hbehind] at hmark
          cases hmark
      | cons d behind =>
          rw [hbehind] at hletters
          cases h
          simp only [List.length_cons] at hletters ⊢
          omega
  · split at h
    · cases h
    · cases h
      simp only [List.length_cons]
      omega
    · cases h
      simp only [List.length_cons]
      omega

@[simp] theorem pair?_bracket (c : Char) : pair? c ')' = none := by
  unfold pair?
  split <;> simp_all

theorem sign_bracket (c : Char) (cs tail : List Char) : sign c (cs ++ ')' :: tail) = sign c cs := by
  unfold sign
  rw [head?_bracket (fun next => next.bind (pair? c)) (pair?_bracket c)]

theorem sign_width (h : sign c rest = .token kind more) : more ≤ rest.length := by
  unfold sign at h
  split at h
  · next s hpair =>
      cases h
      cases rest with
      | nil => cases hpair
      | cons d rest => exact Nat.succ_le_succ (Nat.zero_le _)
  · split at h
    · cases h
      exact Nat.zero_le _
    · split at h
      · cases h
        exact Nat.zero_le _
      · cases h

/-- A quotation ends at its closing quote. -/
theorem quotation_closed {quoted : List Char} (h : '"' ∉ quoted) (behind : List Char) :
    quotation (quoted ++ '"' :: behind) =
      .token (.text (String.ofList quoted)) (quoted.length + 1) := by
  have hquoted : ∀ d ∈ quoted, decide (d ≠ '"') = true :=
    fun d hd => decide_eq_true fun hd' => h (hd' ▸ hd)
  unfold quotation
  rw [takeWhile_stops hquoted rfl, dropWhile_stops hquoted rfl]
  rfl

/-- A quotation without a closing quote goes on to the end of the text. -/
theorem quotation_open (h : '"' ∉ cs) :
    quotation cs = .token (.text (String.ofList cs)) cs.length := by
  have hquoted : ∀ d ∈ cs, decide (d ≠ '"') = true :=
    fun d hd => decide_eq_true fun hd' => h (hd' ▸ hd)
  have htake := @List.takeWhile_append_of_pos _ _ cs [] hquoted
  have hdrop := @List.dropWhile_append_of_pos _ _ cs [] hquoted
  rw [List.append_nil] at htake hdrop
  unfold quotation
  rw [htake, hdrop, List.takeWhile_nil, List.append_nil]
  rfl

theorem quotation_append (h : '"' ∈ cs) (tail : List Char) :
    quotation (cs ++ tail) = quotation cs := by
  obtain ⟨quoted, behind, rfl, hquoted⟩ := List.eq_append_cons_of_mem h
  rw [List.append_assoc, List.cons_append, quotation_closed hquoted, quotation_closed hquoted]

theorem quotation_width (h : quotation cs = .token kind more) : more ≤ cs.length := by
  by_cases hquote : '"' ∈ cs
  · obtain ⟨quoted, behind, rfl, hquoted⟩ := List.eq_append_cons_of_mem hquote
    rw [quotation_closed hquoted] at h
    cases h
    rw [List.length_append, List.length_cons]
    omega
  · rw [quotation_open hquote] at h
    cases h
    exact Nat.le_refl _

/-! ## What stands at the head of a text -/

/-- A number begins with a digit, or with a point before one. -/
def OpensNumber (c : Char) (rest : List Char) : Prop :=
  isDigit c = true ∨ (c = '.' ∧ rest.head?.any isDigit = true)

/-- Which reader decides what stands at the head of a text, by the first character. -/
inductive Headed (c : Char) (rest : List Char) (l : Lexeme) : Prop
  | blank (hc : Text.isBlank c = true) (h : .blank = l)
  | number (hc : OpensNumber c rest)
      (h : .token (.number (decimal (c :: rest)).1.value) ((decimal (c :: rest)).2 - 1) = l)
  | ampersand (hc : c = '&') (h : ampersand rest = l)
  | quotation (hc : c = '"') (h : quotation rest = l)
  | word (hc : Text.isLetter c = true) (h : word (c :: rest) = l)
  | apostrophe (hc : c = '\x27') (h : .comment = l)
  | sign (hblank : ¬ Text.isBlank c = true) (hnumber : ¬ OpensNumber c rest)
      (hletter : ¬ Text.isLetter c = true) (hc : c ≠ '&' ∧ c ≠ '"' ∧ c ≠ '\x27')
      (h : sign c rest = l)

theorem headed (c : Char) (rest : List Char) : Headed c rest (ofText c rest) := by
  unfold ofText
  by_cases hblank : Text.isBlank c = true
  · rw [if_pos hblank]
    exact .blank hblank rfl
  rw [if_neg hblank]
  by_cases hnumber : isDigit c = true ∨ (c = '.' ∧ rest.head?.any isDigit = true)
  · rw [if_pos hnumber]
    exact .number hnumber rfl
  rw [if_neg hnumber]
  by_cases hampersand : c = '&'
  · rw [if_pos hampersand]
    exact .ampersand hampersand rfl
  rw [if_neg hampersand]
  by_cases hquote : c = '"'
  · rw [if_pos hquote]
    exact .quotation hquote rfl
  rw [if_neg hquote]
  by_cases hletter : Text.isLetter c = true
  · rw [if_pos hletter]
    exact .word hletter rfl
  rw [if_neg hletter]
  by_cases hremark : c = '\x27'
  · rw [if_pos hremark]
    exact .apostrophe hremark rfl
  rw [if_neg hremark]
  exact .sign hblank hnumber hletter ⟨hampersand, hquote, hremark⟩ rfl

theorem ofText_quote (rest : List Char) : ofText '"' rest = quotation rest := by
  unfold ofText
  rw [if_neg (by decide), if_neg (by simp; decide), if_neg (by decide), if_pos rfl]

/-- With a bracket behind a text the same stands at its head, open quotations apart. -/
theorem ofText_bracket (hquote : c = '"' → '"' ∈ rest) (tail : List Char) :
    ofText c (rest ++ ')' :: tail) = ofText c rest := by
  unfold ofText
  rw [head?_bracket (fun next => next.any isDigit) rfl, ← List.cons_append, decimal_bracket,
    ampersand_bracket, word_bracket, sign_bracket]
  by_cases hc : c = '"'
  · rw [quotation_append (hquote hc)]
  · rw [if_neg hc, if_neg hc]

/-- A quotation is a token, so what is none has the bracket behind it. -/
theorem ofText_bracket_of_ne (h : ∀ kind more, ofText c rest ≠ .token kind more)
    (tail : List Char) : ofText c (rest ++ ')' :: tail) = ofText c rest := by
  refine ofText_bracket ?_ tail
  rintro rfl
  exact absurd (ofText_quote rest) (h _ _)

/-- A token does not reach beyond its text. -/
theorem ofText_width (h : ofText c rest = .token kind more) : more ≤ rest.length := by
  have hhead := headed c rest
  rw [h] at hhead
  cases hhead with
  | blank hc h => cases h
  | number hc h =>
      have hwidth := decimal_width (c :: rest)
      rw [List.length_cons] at hwidth
      cases h
      omega
  | ampersand hc h => exact ampersand_width h
  | quotation hc h => exact quotation_width h
  | word hc h => exact word_width hc h
  | apostrophe hc h => cases h
  | sign hblank hnumber hletter hc h => exact sign_width h

section Kinds

theorem radix_kind {base letters : Nat} (h : radix base p letters cs = .token kind more) :
    ∃ n, kind = .number n := by
  unfold radix at h
  dsimp only at h
  split at h
  · cases h
  · split at h
    · cases h
      exact ⟨_, rfl⟩
    · cases h

theorem ampersand_kind (h : ampersand cs = .token kind more) : ∃ n, kind = .number n := by
  unfold ampersand at h
  split at h
  · split at h
    · exact radix_kind h
    · split at h <;> exact radix_kind h
  · cases h

theorem word_kind (h : word cs = .token kind more) :
    (∃ name, kind = .name name) ∨ ∃ k, kind = .keyword k := by
  unfold word at h
  dsimp only at h
  split at h
  · cases h
    exact .inl ⟨_, rfl⟩
  · split at h
    · cases h
    · cases h
      exact .inr ⟨_, rfl⟩
    · cases h
      exact .inl ⟨_, rfl⟩

theorem sign_kind (h : sign c rest = .token kind more) :
    (∃ s, kind = .sign s) ∨ ∃ k, kind = .keyword k := by
  unfold sign at h
  split at h
  · cases h
    exact .inl ⟨_, rfl⟩
  · split at h
    · cases h
      exact .inl ⟨_, rfl⟩
    · split at h
      · cases h
        exact .inr ⟨_, rfl⟩
      · cases h

/-- A text begins with a quote. -/
theorem eq_quote_of_text {s : String} (h : ofText c rest = .token (.text s) more) : c = '"' := by
  have hhead := headed c rest
  rw [h] at hhead
  cases hhead with
  | quotation hc h => exact hc
  | blank hc h => cases h
  | number hc h => cases h
  | ampersand hc h =>
      obtain ⟨n, hkind⟩ := ampersand_kind h
      cases hkind
  | word hc h => obtain ⟨name, hkind⟩ | ⟨k, hkind⟩ := word_kind h <;> cases hkind
  | apostrophe hc h => cases h
  | sign hblank hnumber hletter hc h =>
      obtain ⟨sign, hkind⟩ | ⟨k, hkind⟩ := sign_kind h <;> cases hkind

end Kinds

end Lexeme

/-! ## Closed texts -/

/-- A text token has its closing quote in its line. -/
def Token.IsClosed (source : List Char) (t : Token) : Prop :=
  match t.kind with
  | .text s => source[t.pos + 1 + s.length]? = some '"'
  | _ => True

instance (source : List Char) (t : Token) : Decidable (t.IsClosed source) :=
  match t with
  | ⟨.text s, pos⟩ => inferInstanceAs (Decidable (source[pos + 1 + s.length]? = some '"'))
  | ⟨.number _, _⟩ | ⟨.name _, _⟩ | ⟨.keyword _, _⟩ | ⟨.sign _, _⟩ =>
      inferInstanceAs (Decidable True)

variable {c : Char} {before cs rest source : List Char} {kind : TokenKind} {more pos : Nat}

theorem isClosed_of_ofText (hquote : c = '"' → '"' ∈ rest)
    (h : Lexeme.ofText c rest = .token kind more) :
    Token.IsClosed (before ++ c :: rest) ⟨kind, before.length⟩ := by
  cases kind with
  | number _ | name _ | keyword _ | sign _ => exact trivial
  | text s =>
      have hc := Lexeme.eq_quote_of_text h
      obtain ⟨quoted, behind, rfl, hquoted⟩ := List.eq_append_cons_of_mem (hquote hc)
      subst hc
      rw [Lexeme.ofText_quote, Lexeme.quotation_closed hquoted] at h
      cases h
      show (before ++ '"' :: (quoted ++ '"' :: behind))[_]? = some '"'
      rw [String.length_ofList, ← List.cons_append, ← List.append_assoc,
        List.getElem?_append_right (by simp; omega)]
      simp only [List.length_append, List.length_cons]
      rw [Nat.sub_eq_zero_of_le (by omega)]
      rfl

/-! ## A bracket behind the text -/

/-- The tokens behind a first one. -/
theorem exists_later {t : Token} {ts : List Token} {r : Except CompileError (List Token)}
    (h : r.map (t :: ·) = .ok ts) : ∃ later, r = .ok later ∧ ts = t :: later := by
  cases r with
  | error e => cases h
  | ok later =>
      cases h
      exact ⟨later, rfl, rfl⟩

/-- How the tokens of a text change when a bracket is put behind it. -/
inductive BracketBehind (source : List Char) :
    Except CompileError (List Token) → Except CompileError (List Token) → Prop
  /-- A mistake stays the same. -/
  | refused (e : CompileError) : BracketBehind source (.error e) (.error e)
  /-- The bracket is a token of its own. -/
  | separate {ts : List Token} (closed : ∀ t ∈ ts, t.IsClosed source) :
      BracketBehind source (.ok ts) (.ok (ts ++ [⟨.sign .rightParen, source.length⟩]))
  /-- The bracket stands in a remark. -/
  | remark {ts : List Token} {t : Token} (rem : t.kind = .keyword .rem) :
      BracketBehind source (.ok (ts ++ [t])) (.ok (ts ++ [t]))
  /-- The bracket stands in a quotation that has no closing quote. -/
  | quoted {ts : List Token} {s : String} {pos : Nat} (last : pos + 1 + s.length = source.length) :
      BracketBehind source (.ok (ts ++ [⟨.text s, pos⟩])) (.ok (ts ++ [⟨.text (s ++ ")"), pos⟩]))

theorem BracketBehind.cons {r r' : Except CompileError (List Token)} {t : Token}
    (h : BracketBehind source r r') (closed : t.IsClosed source) :
    BracketBehind source (r.map (t :: ·)) (r'.map (t :: ·)) := by
  cases h with
  | refused e => exact .refused e
  | separate hclosed => exact .separate (List.forall_mem_cons.2 ⟨closed, hclosed⟩)
  | @remark ts _ hrem => exact @BracketBehind.remark source (t :: ts) _ hrem
  | @quoted ts _ _ hlast => exact @BracketBehind.quoted source (t :: ts) _ _ hlast

/-- The tokens of a text, and those of the text with a bracket behind it. -/
theorem tokensFrom_bracket (before cs : List Char) :
    BracketBehind (before ++ cs) (tokensFrom before.length cs)
      (tokensFrom before.length (cs ++ [')'])) := by
  generalize hpos : before.length = pos
  -- The induction is on the text that is left.  The text before it counts for the place of a quotation.
  induction pos, cs using tokensFrom_induction generalizing before with
  | nil pos =>
      have hlex : Lexeme.ofText ')' [] = .token (.sign .rightParen) 0 := by rfl
      rw [List.nil_append, tokensFrom_token hlex, List.drop_nil, tokensFrom_nil, tokensFrom_nil,
        List.append_nil, ← hpos]
      exact .separate (List.forall_mem_nil _)
  | blank pos c rest hlex ih =>
      have hlex' := (Lexeme.ofText_bracket_of_ne (by rw [hlex]; nofun) []).trans hlex
      rw [List.cons_append, tokensFrom_blank hlex, tokensFrom_blank hlex']
      have hmore := ih (before ++ [c]) (by rw [List.length_append, hpos]; rfl)
      rwa [List.append_assoc, List.singleton_append] at hmore
  | comment pos c rest hlex =>
      have hlex' := (Lexeme.ofText_bracket_of_ne (by rw [hlex]; nofun) []).trans hlex
      rw [List.cons_append, tokensFrom_comment hlex, tokensFrom_comment hlex']
      exact @BracketBehind.remark _ [] _ rfl
  | invalid pos c rest problem hlex =>
      have hlex' := (Lexeme.ofText_bracket_of_ne (by rw [hlex]; nofun) []).trans hlex
      rw [List.cons_append, tokensFrom_invalid hlex, tokensFrom_invalid hlex']
      exact .refused _
  | token pos c rest kind more hlex ih =>
      -- Only a quotation that is never closed can take the bracket in.
      by_cases hquote : c = '"' → '"' ∈ rest
      · have hwidth := Lexeme.ofText_width hlex
        have hsplit : before ++ c :: rest =
            (before ++ c :: rest.take more) ++ rest.drop more := by
          rw [List.append_assoc, List.cons_append, List.take_append_drop]
        rw [List.cons_append, tokensFrom_token hlex,
          tokensFrom_token ((Lexeme.ofText_bracket hquote []).trans hlex),
          List.drop_append_of_le_length hwidth]
        have hmore := ih (before ++ c :: rest.take more) (by simp; omega)
        rw [← hsplit] at hmore
        exact hmore.cons (hpos ▸ isClosed_of_ofText hquote hlex)
      · obtain ⟨rfl, hopen⟩ := Classical.not_imp.1 hquote
        have hopen' : '"' ∉ rest ++ [')'] := by simp [hopen]
        have hquoted := (Lexeme.ofText_quote rest).trans (Lexeme.quotation_open hopen)
        have hquoted' := (Lexeme.ofText_quote _).trans (Lexeme.quotation_open hopen')
        rw [List.cons_append, tokensFrom_token hquoted, tokensFrom_token hquoted', List.drop_length,
          List.drop_length, tokensFrom_nil, tokensFrom_nil, String.ofList_append]
        refine @BracketBehind.quoted _ [] _ _ ?_
        rw [String.length_ofList, List.length_append, List.length_cons]
        omega

/-! ## Another place in the line -/

/-- In another place of its line a text has tokens of the same kinds. -/
theorem tokensFrom_elsewhere {ts : List Token} (h : tokensFrom pos cs = .ok ts) (pos' : Nat) :
    ∃ ts', tokensFrom pos' cs = .ok ts' ∧ ts'.map Token.kind = ts.map Token.kind := by
  induction pos, cs using tokensFrom_induction generalizing pos' ts with
  | nil pos =>
      rw [tokensFrom_nil] at h ⊢
      exact ⟨[], rfl, by cases h; rfl⟩
  | blank pos c rest hlex ih =>
      rw [tokensFrom_blank hlex] at h ⊢
      exact ih h (pos' + 1)
  | comment pos c rest hlex =>
      rw [tokensFrom_comment hlex] at h ⊢
      exact ⟨_, rfl, by cases h; rfl⟩
  | invalid pos c rest problem hlex =>
      rw [tokensFrom_invalid hlex] at h
      cases h
  | token pos c rest kind more hlex ih =>
      rw [tokensFrom_token hlex] at h ⊢
      obtain ⟨later, hmore, rfl⟩ := exists_later h
      obtain ⟨later', hlater, hkinds⟩ := ih hmore (pos' + 1 + more)
      rw [hlater]
      exact ⟨_, rfl, congrArg (kind :: ·) hkinds⟩

end LineBasic
