import LineBasic.Proofs.TokenLookahead

/-!
# Tokens are cut out of their line one by one

A line is read from left to right, and each token is decided by its own characters: what stands behind
them makes no difference, and neither does the place in the line.  From one token to the next, a line
is therefore cut into slices that are tokenized each for itself.  Nothing of the line is left out but
the blanks before the first token, and a slice holds nothing but the characters of its token, blanks,
and what a remark says.

The lexer hands over the tokens of all that is left of the line.  `Cut` says the same step by step, so
that the line can be cut off at any token, at either side, and what is left is cut as before.

## Main definitions

* `Token.start`: where a token of a line starts.
* `Token.slice`: the characters of a line from one token to the next.
* `Cut`: how a text is cut into tokens, character by character and token by token.
* `CutIntoSlices`: what the tokens of a line are to the characters of that line.

## Main results

* `cut_iff`: the lexer cuts a text in this way.
* `Cut.take`, `Cut.drop`: a text before one of its tokens, and from that token on.
* `Cut.alone`: from one token to the next a text is cut into that token.
* `tokenize_local`: tokens ascend inside their line, and each is what its own slice is tokenized to.
-/

namespace LineBasic

/-! ## Where tokens start -/

namespace Token

/-- Where the token at an index starts.  Behind the last token this is the end of the text. -/
def start (stop : Nat) (ts : List Token) (i : Nat) : Nat := (ts[i]?.map Token.pos).getD stop

/-- The characters of a line from the token at an index to the next one. -/
def slice (source : String) (ts : List Token) (i : Nat) : List Char :=
  source.toList.extract (start source.length ts i) (start source.length ts (i + 1))

variable {stop i : Nat} {t : Token} {ts : List Token}

@[simp] theorem start_nil (stop i : Nat) : start stop [] i = stop := rfl

@[simp] theorem start_length (stop : Nat) (ts : List Token) : start stop ts ts.length = stop := by
  unfold start
  rw [List.getElem?_eq_none (Nat.le_refl _)]
  rfl

@[simp] theorem start_zero (stop : Nat) (t : Token) (ts : List Token) : start stop (t :: ts) 0 = t.pos := rfl

@[simp] theorem start_succ (stop : Nat) (t : Token) (ts : List Token) (i : Nat) :
    start stop (t :: ts) (i + 1) = start stop ts i := by
  unfold start
  rw [List.getElem?_cons_succ]

theorem start_of_getElem? (stop : Nat) (h : ts[i]? = some t) : start stop ts i = t.pos := by
  unfold start
  rw [h]
  rfl

@[simp] theorem start_drop (stop : Nat) (ts : List Token) (i j : Nat) :
    start stop (ts.drop i) j = start stop ts (i + j) := by
  unfold start
  rw [List.getElem?_drop]

end Token

/-! ## How a text is cut -/

/-- How a text that starts some characters into its line is cut into tokens. -/
inductive Cut : Nat → List Char → List Token → Prop
  | nil (pos : Nat) : Cut pos [] []
  | blank {pos : Nat} {c : Char} {rest : List Char} {ts : List Token} (hc : Text.isBlank c = true)
      (h : Cut (pos + 1) rest ts) : Cut pos (c :: rest) ts
  | remark {pos : Nat} {c : Char} {rest : List Char} (hlex : Lexeme.ofText c rest = .comment) :
      Cut pos (c :: rest) [⟨.keyword .rem, pos⟩]
  | token {pos : Nat} {c : Char} {own behind : List Char} {kind : TokenKind} {later : List Token}
      (hlex : Lexeme.ofText c (own ++ behind) = .token kind own.length)
      (h : Cut (pos + 1 + own.length) behind later) :
      Cut pos (c :: (own ++ behind)) (⟨kind, pos⟩ :: later)

variable {c : Char} {cs rest own behind : List Char} {kind : TokenKind} {pos place stop : Nat}
  {t : Token} {ts later : List Token}

theorem cut_iff : Cut pos cs ts ↔ tokensFrom pos cs = .ok ts := by
  constructor
  · intro h
    induction h with
    | nil pos => exact tokensFrom_nil pos
    | blank hc h ih =>
        rw [tokensFrom_blank (ofText_blank hc _)]
        exact ih
    | remark hlex => exact tokensFrom_comment hlex _
    | token hlex h ih =>
        rw [tokensFrom_token hlex, List.drop_left, ih]
        rfl
  · intro h
    induction pos, cs using tokensFrom_induction generalizing ts with
    | nil pos =>
        rw [tokensFrom_nil] at h
        cases h
        exact .nil pos
    | blank pos c rest hlex ih =>
        rw [tokensFrom_blank hlex] at h
        exact .blank (isBlank_of_ofText hlex) (ih h)
    | comment pos c rest hlex =>
        rw [tokensFrom_comment hlex] at h
        cases h
        exact .remark hlex
    | invalid pos c rest problem hlex =>
        rw [tokensFrom_invalid hlex] at h
        cases h
    | token pos c rest kind more hlex ih =>
        rw [tokensFrom_token hlex] at h
        obtain ⟨later, hlater, rfl⟩ := exists_later h
        have hlength : (rest.take more).length = more :=
          List.length_take_of_le (Lexeme.ofText_width hlex)
        rw [← List.take_append_drop more rest] at hlex ⊢
        refine .token (hlex.trans ?_) ?_
        · rw [hlength]
        · rw [hlength]
          exact ih hlater

namespace Cut

/-- Tokens stand in their text. -/
theorem pos_of_mem (h : Cut pos cs ts) : ∀ t ∈ ts, pos ≤ t.pos ∧ t.pos < pos + cs.length := by
  induction h with
  | nil pos => exact List.forall_mem_nil _
  | blank hc h ih =>
      intro t ht
      have hplace := ih t ht
      rw [List.length_cons]
      omega
  | remark hlex =>
      rw [List.forall_mem_singleton, List.length_cons]
      dsimp only
      omega
  | token hlex h ih =>
      rw [List.length_cons, List.length_append, List.forall_mem_cons]
      refine ⟨by dsimp only; omega, fun t ht => ?_⟩
      have hplace := ih t ht
      omega

/-- A token takes a character. -/
theorem length_le (h : Cut pos cs ts) : ts.length ≤ cs.length := by
  induction h with
  | nil pos => exact Nat.le_refl 0
  | blank hc h ih => exact Nat.le_succ_of_le ih
  | remark hlex => exact Nat.succ_le_succ (Nat.zero_le _)
  | token hlex h ih =>
      rw [List.length_cons, List.length_cons, List.length_append]
      omega

/-- Tokens stand in their text in the order of their list. -/
theorem ascending (h : Cut pos cs ts) : ts.Pairwise fun t u => t.pos < u.pos := by
  induction h with
  | nil pos => exact .nil
  | blank hc h ih => exact ih
  | remark hlex => exact List.pairwise_singleton _ _
  | token hlex h ih =>
      refine List.pairwise_cons.2 ⟨fun u hu => ?_, ih⟩
      have hplace := h.pos_of_mem u hu
      dsimp only
      omega

theorem start_bounds (h : Cut pos cs ts) (hstop : pos + cs.length = stop) (i : Nat) :
    pos ≤ Token.start stop ts i ∧ Token.start stop ts i ≤ stop := by
  cases hi : ts[i]? with
  | none =>
      unfold Token.start
      rw [hi]
      exact ⟨hstop ▸ Nat.le_add_right _ _, Nat.le_refl _⟩
  | some t =>
      rw [Token.start_of_getElem? stop hi]
      have hplace := h.pos_of_mem t (List.mem_of_getElem? hi)
      omega

/-! ## Before a token and from a token on -/

theorem take_cons_place (h : pos < place) :
    (c :: rest).take (place - pos) = c :: rest.take (place - (pos + 1)) := by
  rw [List.take_cons (by omega), Nat.sub_sub]

theorem take_append_place (h : pos + own.length ≤ place) :
    (own ++ behind).take (place - pos) = own ++ behind.take (place - (pos + own.length)) := by
  rw [List.take_append, List.take_of_length_le (by omega), Nat.sub_sub]

theorem drop_cons_place (h : pos < place) :
    (c :: rest).drop (place - pos) = rest.drop (place - (pos + 1)) := by
  rw [show place - pos = place - (pos + 1) + 1 by omega, List.drop_succ_cons]

theorem drop_append_place (h : pos + own.length ≤ place) :
    (own ++ behind).drop (place - pos) = behind.drop (place - (pos + own.length)) := by
  rw [List.drop_append, List.drop_of_length_le (by omega), Nat.sub_sub, List.nil_append]

/-- Before the first token there are blanks. -/
theorem blank_of_mem_take (h : Cut pos cs ts) (hstop : pos + cs.length = stop) :
    ∀ d ∈ cs.take (Token.start stop ts 0 - pos), Text.isBlank d = true := by
  induction h with
  | nil | remark | token => simp
  | blank hc h ih =>
      rw [List.length_cons] at hstop
      have hplace := h.start_bounds (show _ = stop by omega) 0
      rw [take_cons_place (by omega), List.forall_mem_cons]
      exact ⟨hc, ih (by omega)⟩

/-- Cut off before a token, a text keeps the tokens before that place. -/
theorem take (h : Cut pos cs ts) (hstop : pos + cs.length = stop) (i : Nat) :
    Cut pos (cs.take (Token.start stop ts i - pos)) (ts.take i) := by
  induction h generalizing i with
  | nil pos =>
      rw [List.take_nil, List.take_nil]
      exact .nil pos
  | blank hc h ih =>
      rw [List.length_cons] at hstop
      have hplace := h.start_bounds (show _ = stop by omega) i
      rw [take_cons_place (by omega)]
      exact .blank hc (ih (by omega) i)
  | @remark pos c rest hlex =>
      cases i with
      | zero => simpa using .nil pos
      | succ i =>
          rw [Token.start_succ, Token.start_nil, ← hstop, Nat.add_sub_cancel_left, List.take_length,
            List.take_succ_cons, List.take_nil]
          exact .remark hlex
  | @token pos c own behind kind later hlex h ih =>
      cases i with
      | zero => simpa using .nil pos
      | succ i =>
          rw [List.length_cons, List.length_append] at hstop
          have hplace := h.start_bounds (show _ = stop by omega) i
          rw [Token.start_succ, take_cons_place (by omega), take_append_place (by omega),
            List.take_succ_cons]
          exact .token (Lexeme.ofText_append hlex _) (ih (by omega) i)

/-- From a token on, a text has the tokens from there on. -/
theorem drop (h : Cut pos cs ts) (hstop : pos + cs.length = stop) (i : Nat) :
    Cut (Token.start stop ts i) (cs.drop (Token.start stop ts i - pos)) (ts.drop i) := by
  induction h generalizing i with
  | nil pos =>
      rw [List.drop_nil, List.drop_nil]
      exact .nil _
  | blank hc h ih =>
      rw [List.length_cons] at hstop
      have hplace := h.start_bounds (show _ = stop by omega) i
      rw [drop_cons_place (by omega)]
      exact ih (by omega) i
  | @remark pos c rest hlex =>
      cases i with
      | zero =>
          rw [Token.start_zero, Nat.sub_self]
          exact .remark hlex
      | succ i =>
          rw [Token.start_succ, Token.start_nil, ← hstop, Nat.add_sub_cancel_left, List.drop_length,
            List.drop_succ_cons, List.drop_nil]
          exact .nil _
  | @token pos c own behind kind later hlex h ih =>
      cases i with
      | zero =>
          rw [Token.start_zero, Nat.sub_self]
          exact .token hlex h
      | succ i =>
          rw [List.length_cons, List.length_append] at hstop
          have hplace := h.start_bounds (show _ = stop by omega) i
          rw [Token.start_succ, drop_cons_place (by omega), drop_append_place (by omega),
            List.drop_succ_cons]
          exact ih (by omega) i

/-- Later tokens start later. -/
theorem start_mono (h : Cut pos cs ts) (hstop : pos + cs.length = stop) (i : Nat) :
    Token.start stop ts i ≤ Token.start stop ts (i + 1) := by
  have hbounds := h.start_bounds hstop i
  have hlength : Token.start stop ts i + (cs.drop (Token.start stop ts i - pos)).length = stop := by
    rw [List.length_drop]
    omega
  have hbehind := (h.drop hstop i).start_bounds hlength 1
  rw [Token.start_drop] at hbehind
  exact hbehind.1

/-! ## A token by itself -/

theorem of_blanks {blanks : List Char} (h : ∀ c ∈ blanks, Text.isBlank c = true) (pos : Nat) :
    Cut pos blanks [] := by
  induction blanks generalizing pos with
  | nil => exact .nil pos
  | cons c blanks ih =>
      obtain ⟨hc, hblanks⟩ := List.forall_mem_cons.1 h
      exact .blank hc (ih hblanks (pos + 1))

/-- From its first character up to the next token, a text is cut into one token. -/
theorem alone (h : Cut pos cs (⟨kind, pos⟩ :: later)) (hstop : pos + cs.length = stop) :
    Cut 0 (cs.take (Token.start stop later 0 - pos)) [⟨kind, 0⟩] ∧
      Fills (later = []) kind (cs.take (Token.start stop later 0 - pos)) := by
  cases h with
  | blank hc h =>
      have hplace := h.pos_of_mem _ (.head _)
      dsimp only at hplace
      omega
  | remark hlex =>
      rw [Token.start_nil, ← hstop, Nat.add_sub_cancel_left, List.take_length]
      exact ⟨.remark hlex, ofText_remark rfl hlex⟩
  | @token _ c own behind _ _ hlex h =>
      rw [List.length_cons, List.length_append] at hstop
      have hplace := h.start_bounds (show _ = stop by omega) 0
      have hblanks := h.blank_of_mem_take (show _ = stop by omega)
      rw [take_cons_place (by omega), take_append_place (by omega)]
      refine ⟨.token (Lexeme.ofText_append hlex _) (of_blanks hblanks _), ?_⟩
      obtain hspells | ⟨rfl, hopen, rfl, hlength⟩ := ofText_spells hlex
      · rw [List.take_left] at hspells
        exact .spelled hspells hblanks
      · -- A quotation that is never closed has taken everything.
        rw [List.length_append, Nat.left_eq_add, List.length_eq_zero_iff] at hlength
        subst hlength
        have hlast : later = [] := by
          cases h
          rfl
        rw [List.take_nil]
        exact .quotation hlast hopen

end Cut

/-! ## The slices of a line -/

/-- What the tokens of a line are to its characters. -/
structure CutIntoSlices (source : String) (ts : List Token) : Prop where
  /-- Tokens stand one behind the other. -/
  ascending : ts.Pairwise fun t u => t.pos < u.pos
  inside : ∀ t ∈ ts, t.pos < source.length
  /-- The line is the blanks before its first token, and one slice behind the other. -/
  leading : ∀ c ∈ source.toList.take (Token.start source.length ts 0), Text.isBlank c = true
  whole : source.toList =
    source.toList.take (Token.start source.length ts 0) ++
      (List.range ts.length).flatMap (Token.slice source ts)
  /-- By itself, a slice is tokenized to its token. -/
  alone : ∀ i t, ts[i]? = some t →
    tokenize (String.ofList (Token.slice source ts i)) = .ok [⟨t.kind, 0⟩]
  /-- A slice holds what spells its token, and otherwise blanks or the rest of a remark. -/
  filled : ∀ i t, ts[i]? = some t → Fills (i + 1 = ts.length) t.kind (Token.slice source ts i)
  /-- Without what stands from some token on, the tokens before it are the same. -/
  before : ∀ i, tokenize (String.ofList (source.toList.take (Token.start source.length ts i))) =
    .ok (ts.take i)

section Slices

variable {source : String}

theorem zero_add_length (source : String) : 0 + source.toList.length = source.length := by
  rw [Nat.zero_add, String.length_toList]

/-- Up to a token, a line is the blanks at its start and the slices before that token. -/
theorem take_start (h : Cut 0 source.toList ts) (i : Nat) :
    source.toList.take (Token.start source.length ts i) =
      source.toList.take (Token.start source.length ts 0) ++
        (List.range i).flatMap (Token.slice source ts) := by
  induction i with
  | zero => rw [List.range_zero, List.flatMap_nil, List.append_nil]
  | succ i ih =>
      obtain ⟨k, hk⟩ := Nat.exists_eq_add_of_le (h.start_mono (zero_add_length source) i)
      have hslice : Token.slice source ts i =
          (source.toList.drop (Token.start source.length ts i)).take k := by
        unfold Token.slice
        rw [List.extract_eq_take_drop, hk, Nat.add_sub_cancel_left]
      rw [List.range_succ, List.flatMap_append, List.flatMap_singleton, ← List.append_assoc, ← ih,
        hslice, hk, List.take_add]

theorem slice_alone (h : Cut 0 source.toList ts) {i : Nat} (ht : ts[i]? = some t) :
    Cut 0 (Token.slice source ts i) [⟨t.kind, 0⟩] ∧
      Fills (i + 1 = ts.length) t.kind (Token.slice source ts i) := by
  obtain ⟨hi, rfl⟩ := List.getElem?_eq_some_iff.1 ht
  have hstart := Token.start_of_getElem? source.length ht
  have hbounds := h.start_bounds (zero_add_length source) i
  have hbehind := h.drop (zero_add_length source) i
  rw [List.drop_eq_getElem_cons hi, hstart] at hbehind
  rw [hstart] at hbounds
  have hlength : ts[i].pos + (source.toList.drop (ts[i].pos - 0)).length = source.length := by
    rw [List.length_drop, String.length_toList]
    omega
  have hslice := hbehind.alone hlength
  have hlast : ts.drop (i + 1) = [] ↔ i + 1 = ts.length := by
    rw [List.drop_eq_nil_iff]
    omega
  unfold Token.slice
  rw [List.extract_eq_take_drop, hstart]
  rwa [Token.start_drop, Nat.sub_zero, Nat.add_zero, propext hlast] at hslice

/-- A line that is accepted is cut into slices, each of which is tokenized for itself. -/
theorem tokenize_local (tokenized : tokenize source = .ok ts) : CutIntoSlices source ts := by
  have h : Cut 0 source.toList ts := cut_iff.2 tokenized
  have hlength := zero_add_length source
  refine {
    ascending := h.ascending
    inside := fun t ht => ?inside
    leading := h.blank_of_mem_take hlength
    whole := ?whole
    alone := fun i t ht => ?alone
    filled := fun i t ht => (slice_alone h ht).2
    before := fun i => ?before }
  case inside =>
    have hplace := h.pos_of_mem t ht
    omega
  case whole =>
    have hwhole := take_start h ts.length
    rwa [Token.start_length, List.take_of_length_le (String.length_toList.le)] at hwhole
  case alone =>
    unfold tokenize
    rw [String.toList_ofList]
    exact cut_iff.1 (slice_alone h ht).1
  case before =>
    unfold tokenize
    rw [String.toList_ofList]
    exact cut_iff.1 (h.take hlength i)

/-- Numbers of three kinds, a name with its mark, a quotation, a comparison and a remark. -/
theorem tokenize_local_mixed :
    let source := "10 a$ =\"x\"+&hF=<.5e1 ' rest"
    let ts : List Token := [
      ⟨.number (Number.Numeral.value ⟨['1', '0'], [], 0⟩), 0⟩, ⟨.name "a$", 3⟩, ⟨.sign .eq, 6⟩,
      ⟨.text "x", 7⟩, ⟨.sign .plus, 10⟩, ⟨.number (Float.ofNat 15), 11⟩, ⟨.sign .le, 14⟩,
      ⟨.number (Number.Numeral.value ⟨[], ['5'], 1⟩), 16⟩, ⟨.keyword .rem, 21⟩]
    tokenize source = .ok ts ∧ CutIntoSlices source ts := by
  intro source ts
  have tokenized : tokenize source = .ok ts := by
    unfold source ts
    with_unfolding_all rfl
  exact ⟨tokenized, tokenize_local tokenized⟩

end Slices

end LineBasic
