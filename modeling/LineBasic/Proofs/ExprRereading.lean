import LineBasic.Proofs.ExprPrinting

/-!
# Expressions in another place

The reader of expressions looks at the kinds of the tokens that it uses and at the one behind them,
which tells it where the expression ends.  So what it has read once it reads again wherever the same
kinds of tokens stand, before anything that ends an expression: behind other tokens, at other
positions and before another rest of the line.

Printed expressions are covered by `reads_print`.  Here the tokens need not be printed ones: they
may hold parentheses that nothing needs, and plus signs, which leave no trace in the tree.

## Main definitions

* `Rereads`: what a reader has used is read again in another place.

## Main results

* `readsAgain`: all functions of the expression reader read again what they have read.
* `parse_again`: an expression is read again in another place.
* `parse_bracketed`, `yields_openParen`: an expression in brackets, and what stands in brackets.
-/

namespace LineBasic

/-! ## Results of a reader -/

theorem yields_reads {α : Type} {ts : List Token} (r : Except CompileError (Taken α ts)) :
    Yields (fun taken => Reads r taken.value taken.rest) r := by
  rintro taken rfl
  exact .ok ⟨rfl, rfl⟩

theorem eq_of_reads {α : Type} {ts rest : List Token} {r : Except CompileError (Taken α ts)} {a : α}
    (h : Reads r a rest) : ∃ shorter, r = .ok ⟨a, rest, shorter⟩ := by
  cases h with
  | @ok taken leaves =>
      cases taken with
      | mk value rest' shorter =>
          cases leaves.value
          cases leaves.rest
          exact ⟨shorter, rfl⟩

/-! ## Reading again -/

/-- A reader has used up the tokens before `rest`, and no remark is among them.  Tokens of the same
kinds are `read` again, before any other rest that has the property `P`. -/
def Rereads (P : List Token → Prop) (read : List Token → List Token → Prop)
    (ts rest : List Token) : Prop :=
  ∃ used, ts = used ++ rest ∧ (∀ t ∈ used, t.kind ≠ .keyword .rem) ∧
    ∀ {ts' rest' : List Token}, ts'.map Token.kind = used.map Token.kind → P rest' →
      read (ts' ++ rest') rest'

/-- A closing parenthesis follows. -/
def Closes (rest : List Token) : Prop := ∃ t tail, rest = t :: tail ∧ t.kind = .sign .rightParen

theorem closes_cons {t : Token} (ht : t.kind = .sign .rightParen) (tail : List Token) :
    Closes (t :: tail) := ⟨t, tail, rfl, ht⟩

/-- The kind of the first token. -/
def headKind? (ts : List Token) : Option TokenKind := ts.head?.map Token.kind

section Rereads

variable {P Q : List Token → Prop} {read read' read'' : List Token → List Token → Prop}
  {ts ts' tail middle rest used : List Token}

theorem headKind?_eq_of_used (shorter : rest.length < ts.length) (split : ts = used ++ rest)
    (kinds : ts'.map Token.kind = used.map Token.kind) (rest' : List Token) :
    headKind? (ts' ++ rest') = headKind? ts := by
  subst split
  cases used with
  | nil => exact absurd shorter (Nat.lt_irrefl _)
  | cons t used =>
      obtain ⟨t', ts', rfl, ht', -⟩ := List.map_eq_cons_iff.1 kinds
      exact congrArg some ht'

theorem eat?_of_headKind? {kind : TokenKind} (h : eat? kind ts = none)
    (same : headKind? ts' = headKind? ts) : eat? kind ts' = none := by
  cases ts' with
  | nil => rfl
  | cons t' ts' =>
      refine eat?_cons_of_ne (fun hkind => ?_) _
      cases ts with
      | nil => cases same
      | cons t ts =>
          have hsame : t'.kind = t.kind := Option.some.inj same
          rw [eat?_of_kind (hsame.symm.trans hkind)] at h
          cases h

/-- A reader that uses nothing. -/
theorem rereads_nothing (hread : ∀ {rest'}, P rest' → read rest' rest') : Rereads P read ts ts := by
  refine ⟨[], rfl, List.forall_mem_nil _, fun {ts' rest'} kinds hrest => ?_⟩
  rw [List.map_eq_nil_iff.1 kinds]
  exact hread hrest

/-- A reader that uses one token. -/
theorem rereads_single {t : Token} (noRemark : t.kind ≠ .keyword .rem)
    (hread : ∀ {ts' rest'}, ts'.map Token.kind = [t.kind] → P rest' → read (ts' ++ rest') rest') :
    Rereads P read (t :: ts) ts :=
  ⟨[t], rfl, List.forall_mem_singleton.2 noRemark, hread⟩

/-- A reader that uses a token first. -/
theorem Rereads.behind {t : Token} (h : Rereads Q read tail rest) (first : ts = t :: tail)
    (noRemark : t.kind ≠ .keyword .rem) (imp : ∀ {rest'}, P rest' → Q rest')
    (hread : ∀ {t' ts' rest'}, t'.kind = t.kind → P rest' → read ts' rest' →
      read' (t' :: ts') rest') : Rereads P read' ts rest := by
  obtain ⟨used, split, remarks, again⟩ := h
  refine ⟨t :: used, by rw [first, split, List.cons_append],
    List.forall_mem_cons.2 ⟨noRemark, remarks⟩, fun {ts' rest'} kinds hrest => ?_⟩
  obtain ⟨t', ts', rfl, ht', kinds⟩ := List.map_eq_cons_iff.1 kinds
  exact hread ht' hrest (again kinds (imp hrest))

/-- A reader that does what another one does, for the kind of the first token. -/
theorem Rereads.mono (h : Rereads Q read ts rest) (shorter : rest.length < ts.length)
    (imp : ∀ {rest'}, P rest' → Q rest')
    (hread : ∀ {ts' rest'}, headKind? ts' = headKind? ts → P rest' → read ts' rest' →
      read' ts' rest') : Rereads P read' ts rest := by
  obtain ⟨used, split, remarks, again⟩ := h
  refine ⟨used, split, remarks, fun {ts' rest'} kinds hrest => ?_⟩
  exact hread (headKind?_eq_of_used shorter split kinds rest') hrest (again kinds (imp hrest))

/-- A reader that goes on where another one has ended. -/
theorem Rereads.trans (first : Rereads P read ts middle) (shorter : middle.length < ts.length)
    (second : Rereads Q read' middle rest)
    (meets : ∀ {middle' rest'}, Q rest' → read' middle' rest' → P middle')
    (hread : ∀ {ts' middle' rest'}, headKind? ts' = headKind? ts → Q rest' → read ts' middle' →
      read' middle' rest' → read'' ts' rest') : Rereads Q read'' ts rest := by
  obtain ⟨used, split, remarks, again⟩ := first
  obtain ⟨used', split', remarks', again'⟩ := second
  refine ⟨used ++ used', by rw [split, split', List.append_assoc],
    List.forall_mem_append.2 ⟨remarks, remarks'⟩, ?_⟩
  intro ts' rest' kinds hrest
  rw [List.map_append] at kinds
  obtain ⟨ts', middle', rfl, kinds, kinds'⟩ := List.map_eq_append_iff.1 kinds
  have hsecond := again' kinds' hrest
  rw [List.append_assoc]
  exact hread (headKind?_eq_of_used shorter split kinds _) hrest
    (again kinds (meets hrest hsecond)) hsecond

/-- A token of a kind, and what a reader uses behind it. -/
theorem Rereads.headed {t : Token} {kind : TokenKind} (h : Rereads P read tail rest)
    (first : ts = t :: tail) (ht : t.kind = kind) (noRemark : kind ≠ .keyword .rem) :
    Rereads P (fun ts rest => ∃ t tail, ts = t :: tail ∧ t.kind = kind ∧ read tail rest) ts rest :=
  h.behind first (ht ▸ noRemark) id fun ht' _ hread => ⟨_, _, rfl, ht'.trans ht, hread⟩

/-- A token, and what two readers in a row use behind it. -/
theorem Rereads.behind_trans {t : Token} (operand : Rereads P read tail middle)
    (shorter : middle.length < tail.length) (more : Rereads Q read' middle rest)
    (first : ts = t :: tail) (noRemark : t.kind ≠ .keyword .rem)
    (meets : ∀ {middle' rest'}, Q rest' → read' middle' rest' → P middle')
    (hread : ∀ {t' ts' middle' rest'}, t'.kind = t.kind → read ts' middle' → read' middle' rest' →
      read'' (t' :: ts') rest') : Rereads Q read'' ts rest := by
  have hboth : Rereads Q (fun ts rest => ∃ middle, read ts middle ∧ read' middle rest) tail rest :=
    operand.trans shorter more meets fun _ _ hoperand hmore => ⟨_, hoperand, hmore⟩
  refine hboth.behind first noRemark id fun ht' _ hread' => ?_
  obtain ⟨middle', hoperand, hmore⟩ := hread'
  exact hread ht' hoperand hmore

/-- A reader that a closing parenthesis follows, which is used up as well. -/
theorem Rereads.closed {close : Token} (h : Rereads Closes read ts (close :: rest))
    (hclose : close.kind = .sign .rightParen) :
    Rereads P (fun ts rest => ∃ close, close.kind = .sign .rightParen ∧ read ts (close :: rest))
      ts rest := by
  obtain ⟨used, split, remarks, again⟩ := h
  have hnoRemark : close.kind ≠ .keyword .rem := by
    rw [hclose]
    decide
  refine ⟨used ++ [close], by rw [split, List.append_assoc, List.singleton_append],
    List.forall_mem_append.2 ⟨remarks, List.forall_mem_singleton.2 hnoRemark⟩, ?_⟩
  intro ts' rest' kinds hrest
  rw [List.map_append] at kinds
  obtain ⟨ts', closing, rfl, hused, hclosing⟩ := List.map_eq_append_iff.1 kinds
  obtain ⟨close', rfl, hkind⟩ := List.map_eq_singleton_iff.1 hclosing
  rw [List.append_assoc, List.singleton_append]
  have hclose' : close'.kind = .sign .rightParen := hkind.trans hclose
  exact ⟨close', hclose', again hused (closes_cons hclose' rest')⟩

end Rereads

namespace Expr

variable {eol : Nat} {ts tail rest : List Token}

/-! ## What has been read -/

theorem yields_combine_eq (op : BinaryOp) (lhs rhs : Expr) (pos : Nat) :
    Yields (fun e => op.accepts lhs.type rhs.type = true ∧ e = .binary op lhs rhs)
      (combine op lhs rhs pos) := by
  unfold combine
  split
  · next haccepts => exact yields_ok ⟨haccepts, rfl⟩
  · exact yields_error _

/-- A token that was taken has its kind. -/
theorem eq_cons_of_eat? {kind : TokenKind} {taken : Taken Unit ts} (h : eat? kind ts = some taken) :
    ∃ t, ts = t :: taken.rest ∧ t.kind = kind := by
  unfold eat? at h
  split at h
  · cases h
  · split at h
    · next t tail hkind =>
        cases h
        exact ⟨t, rfl, hkind⟩
    · cases h

theorem yields_expectSign (s : Sign) (what : String) (ts : List Token) :
    Yields (fun r => ∃ t, ts = t :: r.rest ∧ t.kind = .sign s) (expectSign eol s what ts) := by
  unfold expectSign
  split
  · next taken hEat => exact yields_ok (eq_cons_of_eat? hEat)
  · exact yields_error _

/-! ## What ends an expression -/

theorem Closes.ends {level : Nat} (h : Closes rest) : Ends level rest := by
  obtain ⟨t, tail, rfl, ht⟩ := h
  exact ends_rightParen ht

/-- An operand ends before an operator of the level above its own. -/
theorem ends_of_ofToken {below : Nat} {op : BinaryOp} {t : Token}
    (hop : BinaryOp.ofToken (below + 1) t.kind = some op) (tail : List Token) :
    Ends below (t :: tail) := by
  obtain ⟨hop, hlevel⟩ := Option.filter_eq_some_iff.1 hop
  constructor
  · rintro t' ⟨⟩ hparen
    rw [hparen] at hop
    cases hop
  · rintro t' ⟨⟩ op' hop'
    cases hop.symm.trans hop'
    rw [eq_of_beq hlevel]
    exact Nat.lt_succ_self below

theorem noRemark_of_ofToken {level : Nat} {op : BinaryOp} {t : Token}
    (hop : BinaryOp.ofToken level t.kind = some op) : t.kind ≠ .keyword .rem := by
  intro hrem
  obtain ⟨hop, -⟩ := Option.filter_eq_some_iff.1 hop
  rw [hrem] at hop
  cases hop

theorem noCall_of_kind {kind : TokenKind} {t : Token} (ht : t.kind = kind)
    (hparen : kind ≠ .sign .leftParen) (tail : List Token) : NoCall (t :: tail) := by
  rintro t' ⟨⟩
  rw [ht]
  exact hparen

/-! ## The reader -/

/-- A reader of numbers behind a sign or a `NOT`, which `make` puts into the tree. -/
theorem rereads_signed {P : List Token → Prop} {kind : TokenKind} {taken : Taken Unit ts}
    {read read' again : ∀ ts, Except CompileError (Taken Expr ts)}
    {eol : Nat} (eol' : Nat) (make : Expr → Expr) (hEat : eat? kind ts = some taken)
    (noRemark : kind ≠ .keyword .rem)
    (inner : Yields (fun r => Rereads P (fun ts rest => Reads (read' ts) r.value rest)
      taken.rest r.rest) (read taken.rest))
    (unfolds : ∀ {t' ts'}, t'.kind = kind → again (t' :: ts') = (do
      let ⟨arg, rest, h⟩ ← read' ts'
      requireNumber arg (posOf eol' (t' :: ts'))
      return ⟨make arg, rest, Nat.lt_succ_of_lt h⟩)) :
    Yields (fun r : Taken Expr ts =>
      Rereads P (fun ts rest => Reads (again ts) r.value rest) ts r.rest) (do
        let ⟨arg, rest, h⟩ ← read taken.rest
        requireNumber arg (posOf eol ts)
        return ⟨make arg, rest, Nat.lt_trans h taken.shorter⟩) := by
  obtain ⟨t, split, ht⟩ := eq_cons_of_eat? hEat
  refine yields_bind inner fun arg harg => ?_
  refine yields_bind (yields_requireNumber _ _) fun _ hnumber => ?_
  refine yields_pure (harg.behind split (ht ▸ noRemark) id fun {t' ts' rest'} ht' hrest hread => ?_)
  rw [unfolds (ht'.trans ht)]
  refine reads_bind hread fun shorter => ?_
  exact succeeds_bind (requireNumber_number hnumber _) fun _ _ => .ok ⟨rfl, rfl⟩

/-- The functions of the expression reader read again what they have read off fewer than `bound`
tokens.  A chain of operators also ends the operand before it. -/
structure ReadsAgain (eol eol' bound : Nat) : Prop where
  level (n : Nat) (ts : List Token) (fewer : ts.length < bound) :
    Yields (fun r => Rereads (Ends n)
      (fun ts rest => Reads (parseLevel eol' n ts) r.value rest) ts r.rest) (parseLevel eol n ts)
  chain (below : Nat) (lhs : Expr) (ts : List Token) (fewer : ts.length < bound) :
    Yields (fun r => Rereads (Ends (below + 1))
      (fun ts rest => Ends below ts ∧ ReadsUpTo (parseChain eol' below lhs ts) r.value rest)
      ts r.rest) (parseChain eol below lhs ts)
  signed (ts : List Token) (fewer : ts.length < bound) :
    Yields (fun r => Rereads (Ends 0)
      (fun ts rest => Reads (parseSigned eol' ts) r.value rest) ts r.rest) (parseSigned eol ts)
  powers (lhs : Expr) (ts : List Token) (fewer : ts.length < bound) :
    Yields (fun r => Rereads (Ends 0)
      (fun ts rest => NoCall ts ∧ ReadsUpTo (parsePowers eol' lhs ts) r.value rest) ts r.rest)
      (parsePowers eol lhs ts)
  exponent (ts : List Token) (fewer : ts.length < bound) :
    Yields (fun r => Rereads NoCall
      (fun ts rest => Reads (parseExponent eol' ts) r.value rest) ts r.rest) (parseExponent eol ts)
  arguments (f : Builtin) (ts : List Token) (fewer : ts.length < bound) :
    Yields (fun r => Rereads Closes
      (fun ts rest => ReadsUpTo (parseArguments eol' f ts) r.value rest) ts r.rest)
      (parseArguments eol f ts)
  argumentsFrom (f : Builtin) (index : Nat) (ts : List Token) (fewer : ts.length < bound) :
    Yields (fun r => Rereads Closes
      (fun ts rest => Reads (parseArgumentsFrom eol' f index ts) r.value rest) ts r.rest)
      (parseArgumentsFrom eol f index ts)

section Readers

variable {eol' : Nat} {t : Token}

/-- A variable ends before anything but a parenthesis, and a call with one. -/
theorem rereads_name {name : String} (behind : ReadsAgain eol eol' (t :: tail).length)
    (hkind : t.kind = .name name) :
    Yields (fun r => Rereads NoCall
      (fun ts rest => Reads (parseOperand eol' ts) r.value rest) (t :: tail) r.rest)
      (parseOperand eol (t :: tail)) := by
  rw [parseOperand, hkind]
  dsimp only
  cases hEat : eat? (.sign .leftParen) tail with
  | none =>
      refine yields_ok (rereads_single (by rw [hkind]; rintro ⟨⟩) fun {ts' rest'} kinds hrest => ?_)
      exact (readsOperand_var eol' name).reads (kinds.trans (congrArg (fun k => [k]) hkind)) hrest
  | some paren =>
      obtain ⟨u, hsplit, hu⟩ := eq_cons_of_eat? hEat
      dsimp only
      cases hknown : Builtin.ofName? (Text.asciiLower name) with
      | none => exact yields_error _
      | some f =>
          refine yields_bind (behind.arguments f paren.rest (Nat.lt_succ_of_lt paren.shorter))
            fun args hargs => ?_
          refine yields_bind (yields_expectSign _ _ _) fun close hclose => ?_
          obtain ⟨c, hrest, hc⟩ := hclose
          rw [hrest] at hargs
          split
          · next haccepts =>
              have hparens := (hargs.closed (P := NoCall) hc).headed hsplit hu (by decide)
              refine yields_pure (hparens.behind rfl (by rw [hkind]; rintro ⟨⟩) id
                fun {t' ts' rest'} ht' hrest' hread => ?_)
              obtain ⟨u', inner', rfl, hu', c', hc', hread⟩ := hread
              rw [parseOperand, ht', hkind]
              dsimp only
              rw [eat?_of_kind hu']
              dsimp only [Taken.ofHead, TakenUpTo.behind, TakenUpTo.nothing]
              rw [hknown]
              refine readsUpTo_bind hread fun noLonger => ?_
              refine reads_bind (expectSign_of_kind hc' _) fun shorter => ?_
              dsimp only
              rw [if_pos haccepts]
              exact .ok ⟨rfl, rfl⟩
          · exact yields_error _

/-- An expression in parentheses, whatever follows them. -/
theorem rereads_parens (behind : ReadsAgain eol eol' (t :: tail).length)
    (hkind : t.kind = .sign .leftParen) :
    Yields (fun r => Rereads NoCall
      (fun ts rest => Reads (parseOperand eol' ts) r.value rest) (t :: tail) r.rest)
      (parseOperand eol (t :: tail)) := by
  rw [parseOperand, hkind]
  refine yields_bind (behind.level BinaryOp.topLevel tail (Nat.lt_succ_self _)) fun e he => ?_
  refine yields_bind (yields_expectSign _ _ _) fun close hclose => ?_
  obtain ⟨c, hrest, hc⟩ := hclose
  have hinner := he.mono (P := Closes) e.shorter Closes.ends fun _ _ hread => hread
  rw [hrest] at hinner
  have hparens := hinner.closed (P := NoCall) hc
  refine yields_pure (hparens.behind rfl (by rw [hkind]; decide) id
    fun {t' ts' rest'} ht' hrest' hread => ?_)
  obtain ⟨c', hc', hread⟩ := hread
  rw [parseOperand, ht', hkind]
  refine reads_bind hread fun shorter => ?_
  exact reads_bind (expectSign_of_kind hc' _) fun shorter' => .ok ⟨rfl, rfl⟩

theorem rereads_parseOperand (behind : ReadsAgain eol eol' ts.length) :
    Yields (fun r => Rereads NoCall
      (fun ts rest => Reads (parseOperand eol' ts) r.value rest) ts r.rest)
      (parseOperand eol ts) := by
  cases ts with
  | nil =>
      rw [parseOperand]
      exact yields_error _
  | cons t tail =>
      cases hkind : t.kind with
      | number n =>
          rw [parseOperand, hkind]
          refine yields_ok (rereads_single (by rw [hkind]; rintro ⟨⟩) fun kinds hrest => ?_)
          exact (readsOperand_number eol' n).reads (kinds.trans (congrArg (fun k => [k]) hkind))
            hrest
      | text s =>
          rw [parseOperand, hkind]
          refine yields_ok (rereads_single (by rw [hkind]; rintro ⟨⟩) fun kinds hrest => ?_)
          exact (readsOperand_text eol' s).reads (kinds.trans (congrArg (fun k => [k]) hkind)) hrest
      | name name => exact rereads_name behind hkind
      | keyword k =>
          rw [parseOperand, hkind]
          exact yields_error _
      | sign s =>
          cases s with
          | leftParen => exact rereads_parens behind hkind
          | _ =>
              rw [parseOperand, hkind]
              exact yields_error _

theorem rereads_parseExponent (behind : ReadsAgain eol eol' ts.length) :
    Yields (fun r => Rereads NoCall
      (fun ts rest => Reads (parseExponent eol' ts) r.value rest) ts r.rest)
      (parseExponent eol ts) := by
  rw [parseExponent]
  cases hEat : eat? (.sign .minus) ts with
  | some minus =>
      refine rereads_signed eol' (.unary .neg) hEat (by decide)
        (behind.exponent minus.rest minus.shorter) fun {t' ts'} ht' => ?_
      rw [parseExponent, eat?_of_kind ht']
      rfl
  | none =>
      intro r hr
      refine (rereads_parseOperand behind r hr).mono r.shorter id
        fun {ts' rest'} hsame hrest hread => ?_
      rw [parseExponent, eat?_of_headKind? hEat hsame]
      exact hread

theorem rereads_parsePowers (lhs : Expr) (behind : ReadsAgain eol eol' ts.length) :
    Yields (fun r => Rereads (Ends 0)
      (fun ts rest => NoCall ts ∧ ReadsUpTo (parsePowers eol' lhs ts) r.value rest) ts r.rest)
      (parsePowers eol lhs ts) := by
  rw [parsePowers]
  cases hEat : eat? (.sign .caret) ts with
  | some caret =>
      obtain ⟨t, hsplit, ht⟩ := eq_cons_of_eat? hEat
      refine yields_bind (behind.exponent caret.rest caret.shorter) fun rhs hrhs => ?_
      refine yields_bind (yields_combine_eq .pow lhs rhs.value _) ?_
      rintro _ ⟨haccepts, rfl⟩
      refine yields_bind (behind.powers _ rhs.rest (Nat.lt_trans rhs.shorter caret.shorter))
        fun e he => ?_
      refine yields_pure (hrhs.behind_trans rhs.shorter he hsplit (by rw [ht]; decide)
        (fun _ h => h.1) fun {t' ts' middle' rest'} ht' hread hgoes => ?_)
      have hcaret : t'.kind = .sign .caret := ht'.trans ht
      exact ⟨noCall_of_kind hcaret (by decide) ts',
        parsePowers_operator hcaret hread haccepts hgoes.2⟩
  | none =>
      refine yields_ok (rereads_nothing fun {rest'} hrest => ⟨hrest.noCall, ?_⟩)
      rw [parsePowers_ends hrest]
      exact .ok ⟨rfl, rfl⟩

/-- An operand needs a rest that ends it, and what the powers behind it say about their own head
gives that. -/
theorem rereads_parseSigned (behind : ReadsAgain eol eol' ts.length) :
    Yields (fun r => Rereads (Ends 0)
      (fun ts rest => Reads (parseSigned eol' ts) r.value rest) ts r.rest) (parseSigned eol ts) := by
  rw [parseSigned]
  cases hEat : eat? (.sign .minus) ts with
  | some minus =>
      refine rereads_signed eol' (.unary .neg) hEat (by decide)
        (behind.signed minus.rest minus.shorter) fun {t' ts'} ht' => ?_
      rw [parseSigned, eat?_of_kind ht']
      rfl
  | none =>
      dsimp only
      cases hEat' : eat? (.sign .plus) ts with
      | some plus =>
          refine rereads_signed eol' id hEat' (by decide)
            (behind.signed plus.rest plus.shorter) fun {t' ts'} ht' => ?_
          have hminus : eat? (.sign .minus) (t' :: ts') = none :=
            eat?_cons_of_ne (by rw [ht']; decide) ts'
          rw [parseSigned, hminus, eat?_of_kind ht']
          rfl
      | none =>
          refine yields_bind (rereads_parseOperand behind) fun lhs hlhs => ?_
          refine yields_bind (behind.powers _ lhs.rest lhs.shorter) fun e he => ?_
          refine yields_pure (hlhs.trans lhs.shorter he (fun _ h => h.1) ?_)
          intro ts' middle' rest' hsame hrest hread hgoes
          rw [parseSigned, eat?_of_headKind? hEat hsame, eat?_of_headKind? hEat' hsame]
          refine reads_bind hread fun shorter => ?_
          exact readsUpTo_bind hgoes.2 fun noLonger => .ok ⟨rfl, rfl⟩

theorem rereads_parseChain (below : Nat) (lhs : Expr) (behind : ReadsAgain eol eol' ts.length) :
    Yields (fun r => Rereads (Ends (below + 1))
      (fun ts rest => Ends below ts ∧ ReadsUpTo (parseChain eol' below lhs ts) r.value rest)
      ts r.rest) (parseChain eol below lhs ts) := by
  have hends (ts : List Token) : Rereads (Ends (below + 1))
      (fun ts rest => Ends below ts ∧ ReadsUpTo (parseChain eol' below lhs ts) lhs rest) ts ts := by
    refine rereads_nothing fun {rest'} hrest => ⟨hrest.mono (Nat.le_succ below), ?_⟩
    rw [parseChain_ends hrest]
    exact .ok ⟨rfl, rfl⟩
  cases ts with
  | nil =>
      rw [parseChain]
      exact yields_ok (hends _)
  | cons t tail =>
      rw [parseChain]
      cases hop : BinaryOp.ofToken (below + 1) t.kind with
      | none => exact yields_ok (hends _)
      | some op =>
          refine yields_bind (behind.level below tail (Nat.lt_succ_self _)) fun rhs hrhs => ?_
          refine yields_bind (yields_combine_eq op lhs rhs.value t.pos) ?_
          rintro _ ⟨haccepts, rfl⟩
          refine yields_bind (behind.chain below _ rhs.rest (Nat.lt_succ_of_lt rhs.shorter))
            fun e he => ?_
          refine yields_pure (hrhs.behind_trans rhs.shorter he rfl (noRemark_of_ofToken hop)
            (fun _ h => h.1) fun {t' ts' middle' rest'} ht' hread hgoes => ?_)
          rw [← ht'] at hop
          refine ⟨ends_of_ofToken hop ts', ?_⟩
          rw [parseChain, hop]
          refine reads_bind hread fun shorter => ?_
          refine succeeds_bind (combine_accepted haccepts _) ?_
          rintro _ rfl
          exact readsUpTo_bind hgoes.2 fun noLonger => .ok ⟨rfl, rfl⟩

/-- The level below is read off the same tokens, and what the chain behind it says about its own head
ends it. -/
theorem rereads_parseLevel (n : Nat) (behind : ReadsAgain eol eol' ts.length) :
    Yields (fun r => Rereads (Ends n)
      (fun ts rest => Reads (parseLevel eol' n ts) r.value rest) ts r.rest)
      (parseLevel eol n ts) := by
  induction n with
  | zero =>
      rw [parseLevel]
      intro r hr
      refine (rereads_parseSigned behind r hr).mono r.shorter id
        fun {ts' rest'} hsame hrest hread => ?_
      rw [parseLevel]
      exact hread
  | succ below ih =>
      by_cases hnot : below + 1 = BinaryOp.notLevel
      · rw [parseLevel, if_pos hnot]
        cases hEat : eat? (.keyword .not) ts with
        | some word =>
            refine rereads_signed eol' (.unary .not) hEat (by decide)
              (behind.level (below + 1) word.rest word.shorter) fun {t' ts'} ht' => ?_
            rw [parseLevel, if_pos hnot, eat?_of_kind ht']
            rfl
        | none =>
            intro r hr
            refine (ih r hr).mono r.shorter (fun hrest => hrest.mono (Nat.le_succ below)) ?_
            intro ts' rest' hsame hrest hread
            rw [parseLevel, if_pos hnot, eat?_of_headKind? hEat hsame]
            exact hread
      · rw [parseLevel, if_neg hnot]
        refine yields_bind ih fun lhs hlhs => ?_
        refine yields_bind (behind.chain below _ lhs.rest lhs.shorter) fun e he => ?_
        refine yields_pure (hlhs.trans lhs.shorter he (fun _ h => h.1) ?_)
        intro ts' middle' rest' hsame hrest hread hgoes
        rw [parseLevel, if_neg hnot]
        refine reads_bind hread fun shorter => ?_
        exact readsUpTo_bind hgoes.2 fun noLonger => .ok ⟨rfl, rfl⟩

theorem rereads_parseArgumentsFrom (f : Builtin) (index : Nat)
    (behind : ReadsAgain eol eol' ts.length) :
    Yields (fun r => Rereads Closes
      (fun ts rest => Reads (parseArgumentsFrom eol' f index ts) r.value rest) ts r.rest)
      (parseArgumentsFrom eol f index ts) := by
  rw [parseArgumentsFrom]
  refine yields_bind (rereads_parseLevel BinaryOp.topLevel behind) fun arg harg => ?_
  dsimp only
  split
  · exact yields_error _
  · next htype =>
      cases hEat : eat? (.sign .comma) arg.rest with
      | some comma =>
          obtain ⟨u, hsplit, hu⟩ := eq_cons_of_eat? hEat
          refine yields_bind (behind.argumentsFrom f (index + 1) comma.rest
            (Nat.lt_trans comma.shorter arg.shorter)) fun args hargs => ?_
          have hmore := hargs.headed hsplit hu (by decide)
          refine yields_pure (harg.trans arg.shorter hmore ?_ ?_)
          · rintro middle' rest' hrest' ⟨comma', tail', rfl, hcomma', -⟩
            exact ends_other hcomma' (by decide) rfl tail'
          · rintro ts' middle' rest' hsame hrest' hread ⟨comma', tail', rfl, hcomma', hmore'⟩
            rw [parseArgumentsFrom]
            refine reads_bind hread fun shorter => ?_
            dsimp only
            rw [if_neg htype, eat?_of_kind hcomma']
            exact reads_bind hmore' fun shorter' => .ok ⟨rfl, rfl⟩
      | none =>
          refine yields_ok (harg.mono arg.shorter Closes.ends
            fun {ts' rest'} hsame hrest' hread => ?_)
          obtain ⟨c, tail, rfl, hc⟩ := hrest'
          have hEat' : eat? (.sign .comma) (c :: tail) = none :=
            eat?_cons_of_ne (by rw [hc]; decide) tail
          rw [parseArgumentsFrom]
          refine reads_bind hread fun shorter => ?_
          dsimp only
          rw [if_neg htype, hEat']
          exact .ok ⟨rfl, rfl⟩

theorem rereads_parseArguments (f : Builtin) (behind : ReadsAgain eol eol' ts.length) :
    Yields (fun r => Rereads Closes
      (fun ts rest => ReadsUpTo (parseArguments eol' f ts) r.value rest) ts r.rest)
      (parseArguments eol f ts) := by
  rw [parseArguments]
  cases hEat : eat? (.sign .rightParen) ts with
  | some paren =>
      refine yields_ok (rereads_nothing fun {rest'} hrest => ?_)
      obtain ⟨c, tail, rfl, hc⟩ := hrest
      rw [parseArguments, eat?_of_kind hc]
      exact .ok ⟨rfl, rfl⟩
  | none =>
      refine yields_bind (rereads_parseArgumentsFrom f 0 behind) fun args hargs => ?_
      refine yields_pure (hargs.mono args.shorter id fun {ts' rest'} hsame hrest hread => ?_)
      rw [parseArguments, eat?_of_headKind? hEat hsame]
      exact reads_bind hread fun shorter => .ok ⟨rfl, rfl⟩

end Readers

/-- All functions of the expression reader read again what they have read, by induction on the number
of tokens. -/
theorem readsAgain (eol eol' bound : Nat) : ReadsAgain eol eol' bound := by
  induction bound using Nat.strongRecOn with
  | ind bound ih => exact {
      level := fun n ts fewer => rereads_parseLevel n (ih _ fewer)
      chain := fun below lhs ts fewer => rereads_parseChain below lhs (ih _ fewer)
      signed := fun ts fewer => rereads_parseSigned (ih _ fewer)
      powers := fun lhs ts fewer => rereads_parsePowers lhs (ih _ fewer)
      exponent := fun ts fewer => rereads_parseExponent (ih _ fewer)
      arguments := fun f ts fewer => rereads_parseArguments f (ih _ fewer)
      argumentsFrom := fun f index ts fewer => rereads_parseArgumentsFrom f index (ih _ fewer) }

/-- An expression that has been read is read again wherever tokens of its kinds stand, before
anything that ends an expression. -/
theorem parse_again {e : Expr} (h : Reads (parse eol ts) e rest) (eol' : Nat) :
    Rereads (Ends BinaryOp.topLevel) (fun ts rest => Reads (parse eol' ts) e rest) ts rest := by
  unfold parse at h ⊢
  have hagain := rereads_parseLevel BinaryOp.topLevel (readsAgain eol eol' ts.length)
  generalize parseLevel eol BinaryOp.topLevel ts = r at h hagain
  cases h with
  | ok leaves =>
      have hthis := hagain _ rfl
      dsimp only at hthis
      rw [leaves.value, leaves.rest] at hthis
      exact hthis

/-! ## Brackets around an expression -/

variable {e : Expr} {kinds : List TokenKind}

/-- An expression in brackets is read as that expression. -/
theorem parse_bracketed
    (h : ∀ {ts rest : List Token}, ts.map Token.kind = kinds → Ends BinaryOp.topLevel rest →
      Reads (parse eol (ts ++ rest)) e rest)
    (hts : ts.map Token.kind = Slot.parenthesize kinds) : Reads (parse eol ts) e [] := by
  have hlevel : ReadsAt eol BinaryOp.topLevel e (Slot.parenthesize kinds) :=
    readsAt_mono (readsOperand_parenthesize h).power.readsAt (Nat.zero_le _)
  have hread := hlevel.read hts (ends_nil _)
  rwa [List.append_nil] at hread

/-- Whatever begins with a bracket is read only if an expression stands behind it, and then a closing
one. -/
theorem yields_openParen {t : Token} (ht : t.kind = .sign .leftParen) (level : Nat) :
    Yields (fun _ => ∃ e close rest, close.kind = .sign .rightParen ∧
      Reads (parse eol tail) e (close :: rest)) (parseLevel eol level (t :: tail)) := by
  have hother {kind : TokenKind} (hne : kind ≠ .sign .leftParen) : eat? kind (t :: tail) = none :=
    eat?_cons_of_ne (by rw [ht]; exact hne.symm) tail
  induction level with
  | zero =>
      rw [parseLevel, parseSigned, hother (by decide), hother (by decide)]
      refine yields_bind (P := fun _ => ∃ e close rest, close.kind = .sign .rightParen ∧
        Reads (parse eol tail) e (close :: rest)) ?_ fun lhs hlhs => ?_
      · rw [parseOperand, ht]
        refine yields_bind (yields_reads _) fun inner hinner => ?_
        refine yields_bind (yields_expectSign _ _ _) fun close hclose => ?_
        obtain ⟨c, hrest, hc⟩ := hclose
        rw [hrest] at hinner
        exact yields_pure ⟨inner.value, c, close.rest, hc, hinner⟩
      · refine yields_bind (yields_any _) fun _ _ => ?_
        exact yields_pure hlhs
  | succ below ih =>
      rw [parseLevel]
      split
      · rw [hother (by decide)]
        exact ih
      · refine yields_bind ih fun lhs hlhs => ?_
        refine yields_bind (yields_any _) fun _ _ => ?_
        exact yields_pure hlhs

end Expr

end LineBasic
