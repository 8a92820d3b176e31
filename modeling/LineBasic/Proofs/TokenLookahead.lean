import LineBasic.Proofs.TokenSpelling

/-!
# How far the lexer looks

To decide what a token is, the lexer looks ahead: for the point and the power of a number, for the base
of another, for the type mark of a name, for the second character of a comparison, for the closing
quote of a text.  What it finds there either belongs to the token, or makes no difference.  So a token
stays the same when its text is cut off anywhere behind the token's own characters.

Cut off within the token, a text can be read otherwise: `1e5` is one number, and `1e` is a number and a
name.  So for each reader it is shown that it finds the same as long as the characters that it has
counted are there.

## Main results

* `decimal_take`, `ampersand_take`, `word_take`, `sign_take`, `quotation_take`: the readers of tokens
  find the same in a text that is cut off behind the token.
* `ofText_take`: a token stays the same without what stands behind it.
-/

namespace LineBasic

open Number (isDigit)

namespace Lexeme

variable {p : Char → Bool} {c : Char} {cs rest : List Char} {kind : TokenKind} {more n : Nat}

/-! ## Runs of characters in a text that is cut off -/

theorem takeWhile_kept (h : (cs.takeWhile p).length ≤ n) :
    (cs.take n).takeWhile p = cs.takeWhile p := by
  rw [← List.take_takeWhile, List.take_of_length_le h]

theorem dropWhile_kept (h : (cs.takeWhile p).length ≤ n) :
    (cs.take n).dropWhile p = (cs.dropWhile p).take (n - (cs.takeWhile p).length) := by
  have hcut : (cs.take n).takeWhile p ++ (cs.take n).dropWhile p =
      cs.takeWhile p ++ (cs.dropWhile p).take (n - (cs.takeWhile p).length) := by
    rw [List.takeWhile_append_dropWhile, ← List.take_length_add_append,
      List.takeWhile_append_dropWhile, Nat.add_sub_cancel' h]
  rw [takeWhile_kept h] at hcut
  exact List.append_cancel_left hcut

/-- A look at the next character that finds nothing finds nothing at the end of the text either. -/
theorem head?_take_none {α : Type} {f : Option Char → Option α} (hend : f none = none)
    (h : f cs.head? = none) (n : Nat) : f (cs.take n).head? = none := by
  rw [List.head?_take]
  split
  · exact hend
  · exact h

/-! ## Numbers -/

theorem powerSign_take (h : 0 < n) (rest : List Char) :
    powerSign (rest.take n) =
      ((powerSign rest).1, (powerSign rest).2.1.take (n + 1 - (powerSign rest).2.2),
        (powerSign rest).2.2) := by
  obtain ⟨k, rfl⟩ := Nat.exists_eq_succ_of_ne_zero (Nat.ne_of_gt h)
  cases rest with
  | nil => rfl
  | cons c rest =>
      rw [List.take_succ_cons]
      by_cases hplus : c = '+'
      · subst hplus
        rfl
      · by_cases hminus : c = '-'
        · subst hminus
          rfl
        · simp [powerSign, hplus, hminus]

/-- A power without digits has none in a text that is cut off. -/
theorem powerSign_take_nil (h : (powerSign rest).2.1.takeWhile isDigit = []) (n : Nat) :
    (powerSign (rest.take n)).2.1.takeWhile isDigit = [] := by
  cases n with
  | zero => rfl
  | succ n =>
      rw [powerSign_take (Nat.succ_pos n)]
      dsimp only
      rw [← List.take_takeWhile, h, List.take_nil]

theorem powerOf_take (h : (powerOf cs).2 ≤ n) : powerOf (cs.take n) = powerOf cs := by
  cases cs with
  | nil => rw [List.take_nil]
  | cons mark rest =>
      cases n with
      | zero =>
          have hwidth := Nat.le_zero.1 h
          exact Prod.ext (powerOf_of_width hwidth).symm hwidth.symm
      | succ n =>
          rw [powerOf_cons] at h
          rw [List.take_succ_cons, powerOf_cons, powerOf_cons]
          split
          · next hmark =>
              rw [if_pos hmark] at h
              by_cases hdigits : (powerSign rest).2.1.takeWhile isDigit = []
              · simp only [powerSign_take_nil hdigits n, hdigits, if_true]
              · obtain ⟨sign, -, hwidth, -⟩ := powerSign_spells rest
                have hlength := List.length_pos_iff.2 hdigits
                simp only [hdigits, if_false] at h
                rw [powerSign_take (by omega)]
                dsimp only
                rw [takeWhile_kept (by omega)]
          · rfl

theorem places_take (h : (places rest).2.1 + (places rest).1.length ≤ n) :
    places (rest.take n) =
      ((places rest).1, (places rest).2.1,
        (places rest).2.2.take (n - ((places rest).2.1 + (places rest).1.length))) := by
  cases rest with
  | nil => simp [places]
  | cons c rest =>
      by_cases hpoint : c = '.'
      · subst hpoint
        cases n with
        | zero =>
            have hnone : 1 + (rest.takeWhile isDigit).length ≤ 0 := h
            omega
        | succ n =>
            have hlength : 1 + (rest.takeWhile isDigit).length ≤ n + 1 := h
            rw [List.take_succ_cons, places, places]
            dsimp only
            rw [takeWhile_kept (by omega), dropWhile_kept (by omega)]
            congr 3
            omega
      · cases n <;> simp [places, hpoint]

theorem decimal_take (h : (decimal cs).2 ≤ n) : decimal (cs.take n) = decimal cs := by
  rw [decimal_eq] at h
  dsimp only at h
  rw [decimal_eq, decimal_eq, takeWhile_kept (by omega), dropWhile_kept (by omega)]
  dsimp only
  rw [places_take (by omega)]
  dsimp only
  rw [powerOf_take (by omega)]

/-- A numeral that begins with a point has a digit behind it. -/
theorem decimal_width_point (h : rest.head?.any isDigit = true) :
    1 < (decimal ('.' :: rest)).2 := by
  cases rest with
  | nil => cases h
  | cons d rest =>
      have hd : isDigit d = true := h
      have hwhole : ('.' :: d :: rest).takeWhile isDigit = [] := rfl
      have hbehind : ('.' :: d :: rest).dropWhile isDigit = '.' :: d :: rest := rfl
      rw [decimal_eq, hwhole, hbehind, places, List.takeWhile_cons_of_pos hd]
      dsimp only
      rw [List.length_cons]
      omega

theorem radix_take {base letters : Nat} (h : radix base p letters cs = .token kind more)
    (hn : more ≤ letters + n) : radix base p letters (cs.take n) = .token kind more := by
  unfold radix at h ⊢
  dsimp only at h ⊢
  split at h
  · cases h
  · next some_digit =>
      split at h
      · next small =>
          cases h
          rw [takeWhile_kept (by omega), if_neg some_digit, if_pos small]
      · cases h

/-- A number behind `&` has a digit. -/
theorem radix_more {base letters : Nat} (h : radix base p letters cs = .token kind more) :
    letters < more := by
  unfold radix at h
  dsimp only at h
  split at h
  · cases h
  · next some_digit =>
      have hlength := List.length_pos_iff.2 some_digit
      split at h
      · cases h
        omega
      · cases h

theorem ampersand_more (h : ampersand cs = .token kind more) : 0 < more := by
  unfold ampersand at h
  split at h
  · split at h
    · exact Nat.zero_lt_of_lt (radix_more h)
    · split at h <;> exact Nat.zero_lt_of_lt (radix_more h)
  · cases h

theorem ampersand_take (h : ampersand cs = .token kind more) (hn : more ≤ n) :
    ampersand (cs.take n) = .token kind more := by
  cases cs with
  | nil => cases h
  | cons mark rest =>
      obtain ⟨k, rfl⟩ := Nat.exists_eq_add_of_le' (Nat.lt_of_lt_of_le (ampersand_more h) hn)
      rw [List.take_succ_cons]
      rw [ampersand] at h ⊢
      split at h
      · next hmark => rw [if_pos hmark, radix_take h (by omega)]
      · next hhex =>
          rw [if_neg hhex]
          split at h
          · next hmark => rw [if_pos hmark, radix_take h (by omega)]
          · next hbinary =>
              rw [if_neg hbinary, ← List.take_succ_cons, radix_take h (by omega)]

/-! ## Words, signs and quotations -/

theorem quotation_take (h : quotation cs = .token kind more) (hn : more ≤ n) :
    quotation (cs.take n) = .token kind more := by
  by_cases hclosed : '"' ∈ cs
  · obtain ⟨quoted, behind, rfl, hquoted⟩ := List.eq_append_cons_of_mem hclosed
    rw [quotation_closed hquoted] at h
    cases h
    obtain ⟨k, rfl⟩ := Nat.exists_eq_add_of_le hn
    rw [Nat.add_assoc, List.take_length_add_append, Nat.add_comm 1, List.take_succ_cons,
      quotation_closed hquoted]
  · have hwhole := h
    rw [quotation_open hclosed] at h
    cases h
    rwa [List.take_of_length_le hn]

theorem word_take (h : word cs = .token kind more) (hn : more < n) :
    word (cs.take n) = .token kind more := by
  unfold word at h ⊢
  dsimp only at h ⊢
  split at h
  · next mark hmark =>
      cases h
      rw [takeWhile_kept (Nat.le_of_lt hn), dropWhile_kept (Nat.le_of_lt hn), List.head?_take,
        if_neg (by omega), hmark]
  · next hmark =>
      have hlength : (cs.takeWhile isNameChar).length ≤ n := by
        split at h <;> cases h <;> omega
      rw [takeWhile_kept hlength, dropWhile_kept hlength,
        head?_take_none (f := fun next => next.filter isTypeMark) rfl hmark]
      exact h

theorem sign_take (h : sign c rest = .token kind more) (hn : more ≤ n) :
    sign c (rest.take n) = .token kind more := by
  unfold sign at h ⊢
  split at h
  · next s hpair =>
      cases h
      rw [List.head?_take, if_neg (by omega), hpair]
  · next hpair =>
      rw [head?_take_none (f := fun next => next.bind (pair? c)) rfl hpair]
      exact h

/-! ## What stands at the head of a text -/

/-- Cut off behind its numeral, a text opens with a number as before. -/
theorem opensNumber_take (h : OpensNumber c rest) (hn : (decimal (c :: rest)).2 ≤ n + 1) :
    OpensNumber c (rest.take n) := by
  refine h.imp_right ?_
  rintro ⟨rfl, hnext⟩
  have hpoint := decimal_width_point hnext
  rw [List.head?_take, if_neg (by omega)]
  exact ⟨rfl, hnext⟩

theorem opensNumber_of_take (h : OpensNumber c (rest.take n)) : OpensNumber c rest := by
  refine h.imp_right ?_
  rintro ⟨rfl, hnext⟩
  rw [List.head?_take] at hnext
  split at hnext
  · cases hnext
  · exact ⟨rfl, hnext⟩

/-- A token stays the same without what stands behind it. -/
theorem ofText_take (h : ofText c rest = .token kind more) (hn : more ≤ n) :
    ofText c (rest.take n) = .token kind more := by
  have hhead := headed c rest
  rw [h] at hhead
  refine ofText_of_headed ?_
  cases hhead with
  | blank hc h => cases h
  | number hc h =>
      have hpositive := decimal_width_pos hc
      cases h
      have hkept : decimal (c :: rest.take n) = decimal (c :: rest) := by
        rw [← List.take_succ_cons, decimal_take (by omega)]
      exact .number (opensNumber_take hc (by omega)) (by rw [hkept])
  | ampersand hc h => exact .ampersand hc (ampersand_take h hn)
  | quotation hc h => exact .quotation hc (quotation_take h hn)
  | word hc h =>
      refine .word hc ?_
      rw [← List.take_succ_cons]
      exact word_take h (Nat.lt_succ_of_le hn)
  | apostrophe hc h => cases h
  | sign hblank hnumber hletter hc h =>
      exact .sign hblank (fun hcut => hnumber (opensNumber_of_take hcut)) hletter hc (sign_take h hn)

theorem ofText_append {own behind : List Char}
    (h : ofText c (own ++ behind) = .token kind own.length) (n : Nat) :
    ofText c (own ++ behind.take n) = .token kind own.length := by
  rw [← List.take_length_add_append]
  exact ofText_take h (Nat.le_add_right _ _)

end Lexeme

end LineBasic
