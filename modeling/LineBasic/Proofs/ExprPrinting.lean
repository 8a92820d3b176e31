import LineBasic.Proofs.Typing

/-!
# Printed expressions

An expression is printed as tokens by precedence: an operation stands in parentheses where it binds
less tightly than its slot asks for.  From the loosest on, `OR` and `XOR`, `AND`, `NOT`, the
comparisons, `+` and `-`, `MOD`, `\`, `*` and `/`, the minus sign and `^` bind each more tightly
than the one before.  Operators of one precedence group to the left, so the right operand has to
bind more tightly than the operator.  An exponent is a single operand that may carry minus signs.

## Main definitions

* `BinaryOp.binding`, `Slot`: how tightly operators bind, and what the slot of an operand asks for.
* `Expr.print`: the tokens of an expression, with parentheses where they are needed or around every
  operation.

## Main results

* `reads_print`: a printed expression is read back in its slot, up to what follows it.
* `parse_print`: the reader inverts printing.
-/

namespace LineBasic

/-! ## Precedence -/

namespace BinaryOp

/-- How tightly an operator binds. -/
def binding : BinaryOp → Nat
  | or | xor => 1
  | and => 2
  | eq | ne | lt | gt | le | ge => 4
  | add | sub => 5
  | mod => 6
  | intDiv => 7
  | mul | div => 8
  | pow => 10

/-- How tightly `NOT` binds. -/
abbrev notBinding : Nat := 3

/-- How tightly a minus sign binds. -/
abbrev signBinding : Nat := 9

end BinaryOp

/-- The slot of an expression. -/
inductive Slot where
  /-- An operand, of something that asks it to bind this tightly. -/
  | operand (binding : Nat)
  /-- An exponent. -/
  | exponent
deriving DecidableEq

namespace Slot

/-- The slot of an expression that is no operand. -/
abbrev whole : Slot := .operand 1

/-- Whether an operation that binds this tightly can stand in a slot without parentheses. -/
def admits : Slot → Nat → Bool
  | operand b, binding => b ≤ binding
  | exponent, _ => false

/-- Puts tokens in parentheses. -/
def parenthesize (kinds : List TokenKind) : List TokenKind :=
  .sign .leftParen :: kinds ++ [.sign .rightParen]

/-- The tokens of an operation in a slot: in parentheses where they are needed, or if they stand
around every operation. -/
def enclose (slot : Slot) (everywhere : Bool) (binding : Nat) (kinds : List TokenKind) :
    List TokenKind :=
  if slot.admits binding ∧ everywhere = false then kinds else parenthesize kinds

end Slot

theorem BinaryOp.level_ne_notLevel (op : BinaryOp) : op.level ≠ notLevel := by cases op <;> decide

/-- Operators other than `^` have the levels above that of the signs, in the order in which they
bind. -/
theorem BinaryOp.level_of_ne_pow {op : BinaryOp} (h : op ≠ .pow) :
    ∃ below, op.level = below + 1 ∧ op.binding + (below + 1) = signBinding := by
  cases op with
  | pow => exact absurd rfl h
  | _ => exact ⟨_, rfl, rfl⟩

@[simp] theorem Builtin.accepts_zero (f : Builtin) : f.accepts 0 = false := by cases f <;> rfl

/-- The slot of the right operand of an operator. -/
def BinaryOp.rightSlot (op : BinaryOp) : Slot :=
  if op = .pow then .exponent else .operand (op.binding + 1)

section Printing

variable (names : Variable → String) (everywhere : Bool)

mutual

/-- The tokens of an expression, with names for its variables. -/
def Expr.print (slot : Slot) : Expr → List TokenKind
  | .number n => [.number n]
  | .text s => [.text s]
  | .var v => [.name (names v)]
  | .unary .neg arg =>
      if slot = .exponent ∧ everywhere = false then .sign .minus :: arg.print .exponent
      else slot.enclose everywhere BinaryOp.signBinding
        (.sign .minus :: arg.print (.operand BinaryOp.signBinding))
  | .unary .not arg =>
      slot.enclose everywhere BinaryOp.notBinding
        (.keyword .not :: arg.print (.operand BinaryOp.notBinding))
  | .binary op lhs rhs =>
      slot.enclose everywhere op.binding
        (lhs.print (.operand op.binding) ++ op.token :: rhs.print op.rightSlot)
  | .call f args => .name f.name :: Slot.parenthesize (Expr.printAll args)

/-- The tokens of expressions with commas between them. -/
def Expr.printAll : List Expr → List TokenKind
  | [] => []
  | [e] => e.print .whole
  | e :: rest => e.print .whole ++ .sign .comma :: Expr.printAll rest

end

end Printing

/-! ## Results of a reader -/

/-- A reader gives something, and that has a property. -/
inductive Succeeds {ε α : Type} (P : α → Prop) : Except ε α → Prop where
  | ok {a : α} (holds : P a) : Succeeds P (.ok a)

theorem succeeds_bind {ε α β : Type} {P : α → Prop} {Q : β → Prop} {r : Except ε α}
    {k : α → Except ε β} (hr : Succeeds P r) (hk : ∀ a, P a → Succeeds Q (k a)) :
    Succeeds Q (r >>= k) := by
  cases hr with
  | ok ha => exact hk _ ha

section Results

variable {α : Type} {ts : List Token}

/-- A reader has taken a value and left a rest. -/
structure Taken.Leaves (t : Taken α ts) (a : α) (rest : List Token) : Prop where
  value : t.value = a
  rest : t.rest = rest

/-- A reader has taken a value, perhaps from nothing, and left a rest. -/
structure TakenUpTo.Leaves (t : TakenUpTo α ts) (a : α) (rest : List Token) : Prop where
  value : t.value = a
  rest : t.rest = rest

/-- A reader reads a value and leaves a rest. -/
abbrev Reads (r : Except CompileError (Taken α ts)) (a : α) (rest : List Token) : Prop :=
  Succeeds (fun t => t.Leaves a rest) r

/-- A reader reads a value, perhaps from nothing, and leaves a rest. -/
abbrev ReadsUpTo (r : Except CompileError (TakenUpTo α ts)) (a : α) (rest : List Token) : Prop :=
  Succeeds (fun t => t.Leaves a rest) r

variable {β : Type} {Q : β → Prop} {a : α} {rest : List Token}

theorem reads_bind {r : Except CompileError (Taken α ts)} {k : Taken α ts → Except CompileError β}
    (hr : Reads r a rest) (hk : ∀ shorter, Succeeds Q (k ⟨a, rest, shorter⟩)) :
    Succeeds Q (r >>= k) := by
  refine succeeds_bind hr fun t ht => ?_
  cases t with
  | mk value rest' shorter =>
      cases ht.value
      cases ht.rest
      exact hk shorter

theorem readsUpTo_bind {r : Except CompileError (TakenUpTo α ts)}
    {k : TakenUpTo α ts → Except CompileError β} (hr : ReadsUpTo r a rest)
    (hk : ∀ noLonger, Succeeds Q (k ⟨a, rest, noLonger⟩)) : Succeeds Q (r >>= k) := by
  refine succeeds_bind hr fun t ht => ?_
  cases t with
  | mk value rest' noLonger =>
      cases ht.value
      cases ht.rest
      exact hk noLonger

end Results

/-! ## What follows an expression -/

/-- No parenthesis follows, which would make a call of a name. -/
def NoCall (rest : List Token) : Prop := ∀ t ∈ rest.head?, t.kind ≠ .sign .leftParen

/-- The tokens behind an expression of a level do not belong to it: no call, and no operator of the
level or a tighter one. -/
structure Ends (level : Nat) (rest : List Token) : Prop where
  noCall : NoCall rest
  looser : ∀ t ∈ rest.head?, ∀ op, BinaryOp.ofToken? t.kind = some op → level < op.level

theorem ends_nil (level : Nat) : Ends level [] := by
  constructor
  · rintro t ⟨⟩
  · rintro t ⟨⟩

theorem Ends.mono {level level' : Nat} {rest : List Token} (h : Ends level rest)
    (hle : level' ≤ level) : Ends level' rest :=
  ⟨h.noCall, fun t ht op hop => Nat.lt_of_le_of_lt hle (h.looser t ht op hop)⟩

theorem noCall_operator {op : BinaryOp} {t : Token} (ht : t.kind = op.token)
    (rest : List Token) : NoCall (t :: rest) := by
  rintro t' ⟨⟩
  rw [ht]
  cases op <;> decide

theorem ends_operator {level : Nat} {op : BinaryOp} {t : Token} (ht : t.kind = op.token)
    (hlevel : level < op.level) (rest : List Token) : Ends level (t :: rest) := by
  refine ⟨noCall_operator ht rest, ?_⟩
  rintro t' ⟨⟩ op' hop
  rw [ht, BinaryOp.ofToken?_token] at hop
  cases hop
  exact hlevel

theorem ends_other {level : Nat} {kind : TokenKind} {t : Token} (ht : t.kind = kind)
    (hparen : kind ≠ .sign .leftParen) (hop : BinaryOp.ofToken? kind = none) (rest : List Token) :
    Ends level (t :: rest) := by
  cases ht
  constructor
  · rintro t' ⟨⟩
    exact hparen
  · rintro t' ⟨⟩ op hop'
    cases hop.symm.trans hop'

namespace Expr

variable {eol : Nat} {e lhs rhs : Expr} {rest tail : List Token}

/-! ## Chains -/

theorem ofToken_eq_none {below : Nat} {t : Token} (h : Ends (below + 1) (t :: tail)) :
    BinaryOp.ofToken (below + 1) t.kind = none := by
  unfold BinaryOp.ofToken
  rw [Option.filter_eq_none_iff]
  intro op hop hlevel
  have hlt := h.looser t rfl op hop
  rw [eq_of_beq hlevel] at hlt
  exact Nat.lt_irrefl _ hlt

/-- A chain ends before what does not belong to it. -/
theorem parseChain_ends {below : Nat} (h : Ends (below + 1) rest) :
    parseChain eol below e rest = .ok (.nothing e rest) := by
  cases rest with
  | nil => rw [parseChain]
  | cons t tail => rw [parseChain, ofToken_eq_none h]

theorem combine_accepted {op : BinaryOp} (accepts : op.accepts lhs.type rhs.type = true)
    (pos : Nat) : Succeeds (fun e => e = .binary op lhs rhs) (combine op lhs rhs pos) := by
  rw [combine, if_pos accepts]
  exact .ok rfl

theorem requireNumber_number (number : e.type = .number) (pos : Nat) :
    Succeeds (fun _ => True) (requireNumber e pos) := by
  rw [requireNumber, if_pos number]
  exact .ok trivial

/-- A chain goes on with an operator of its level. -/
theorem parseChain_operator {below : Nat} {op : BinaryOp} {t : Token} {x : Expr}
    {rest' : List Token} (ht : t.kind = op.token) (hlevel : op.level = below + 1)
    (hrhs : Reads (parseLevel eol below tail) rhs rest)
    (accepts : op.accepts lhs.type rhs.type = true)
    (goesOn : ReadsUpTo (parseChain eol below (.binary op lhs rhs) rest) x rest') :
    ReadsUpTo (parseChain eol below lhs (t :: tail)) x rest' := by
  have hop : BinaryOp.ofToken (below + 1) t.kind = some op := by
    unfold BinaryOp.ofToken
    rw [ht, BinaryOp.ofToken?_token, Option.filter_some, hlevel, beq_self_eq_true, if_pos rfl]
  rw [parseChain, hop]
  refine reads_bind hrhs fun shorter => ?_
  refine succeeds_bind (combine_accepted accepts _) ?_
  rintro _ rfl
  exact readsUpTo_bind goesOn fun noLonger => .ok ⟨rfl, rfl⟩

/-- The powers end before what is no operator of the level of a power. -/
theorem parsePowers_ends (h : Ends 0 rest) :
    parsePowers eol e rest = .ok (.nothing e rest) := by
  have hEat : eat? (.sign .caret) rest = none := by
    cases rest with
    | nil => rfl
    | cons t tail =>
        refine eat?_cons_of_ne (fun hcaret => ?_) tail
        have hlt := h.looser t rfl .pow (by rw [hcaret]; rfl)
        exact Nat.lt_irrefl _ hlt
  rw [parsePowers, hEat]

/-- The powers go on with another exponent. -/
theorem parsePowers_operator {t : Token} {x : Expr} {rest' : List Token}
    (ht : t.kind = .sign .caret) (hrhs : Reads (parseExponent eol tail) rhs rest)
    (accepts : BinaryOp.pow.accepts lhs.type rhs.type = true)
    (goesOn : ReadsUpTo (parsePowers eol (.binary .pow lhs rhs) rest) x rest') :
    ReadsUpTo (parsePowers eol lhs (t :: tail)) x rest' := by
  rw [parsePowers, eat?_of_kind ht]
  refine reads_bind hrhs fun shorter => ?_
  refine succeeds_bind (combine_accepted accepts _) ?_
  rintro _ rfl
  exact readsUpTo_bind goesOn fun noLonger => .ok ⟨rfl, rfl⟩

/-! ## Expressions by level -/

/-- The tokens that a single operand begins with. -/
def opensOperand : TokenKind → Bool
  | .number _ | .text _ | .name _ | .sign .leftParen => true
  | _ => false

/-- The tokens that a printed expression of a level begins with. -/
def opensLevel (level : Nat) : TokenKind → Bool
  | .sign .minus => true
  | .keyword .not => BinaryOp.notLevel ≤ level
  | kind => opensOperand kind

/-- The tokens begin with one of some kinds. -/
def Opens (opens : TokenKind → Bool) (kinds : List TokenKind) : Prop :=
  ∃ kind tail, kinds = kind :: tail ∧ opens kind = true

/-- Reading an expression of a level goes on with the operators of the level. -/
def readOn (eol level : Nat) (e : Expr) (rest : List Token) :
    Except CompileError (TakenUpTo Expr rest) :=
  match level with
  | 0 => .ok (.nothing e rest)
  | below + 1 => parseChain eol below e rest

/-- Tokens are those of an expression of a level: reading them at that level gives the expression,
and goes on behind it. -/
structure ReadsAt (eol level : Nat) (e : Expr) (kinds : List TokenKind) : Prop where
  opens : Opens (opensLevel level) kinds
  reads : ∀ {ts rest : List Token} {x : Expr} {rest' : List Token}, ts.map Token.kind = kinds →
    Ends (level - 1) rest → ReadsUpTo (readOn eol level e rest) x rest' →
    Reads (parseLevel eol level (ts ++ rest)) x rest'

/-- Tokens are those of powers of single operands. -/
structure ReadsPower (eol : Nat) (e : Expr) (kinds : List TokenKind) : Prop where
  opens : Opens opensOperand kinds
  reads : ∀ {ts rest : List Token} {x : Expr} {rest' : List Token}, ts.map Token.kind = kinds →
    NoCall rest → ReadsUpTo (parsePowers eol e rest) x rest' →
    Reads (parseSigned eol (ts ++ rest)) x rest'

/-- Tokens are those of a single operand. -/
structure ReadsOperand (eol : Nat) (e : Expr) (kinds : List TokenKind) : Prop where
  opens : Opens opensOperand kinds
  reads : ∀ {ts rest : List Token}, ts.map Token.kind = kinds →
    NoCall rest → Reads (parseOperand eol (ts ++ rest)) e rest

/-- Tokens are those of an exponent. -/
structure ReadsExponent (eol : Nat) (e : Expr) (kinds : List TokenKind) : Prop where
  reads : ∀ {ts rest : List Token}, ts.map Token.kind = kinds → NoCall rest →
    Reads (parseExponent eol (ts ++ rest)) e rest

variable {level : Nat} {kinds : List TokenKind}

theorem ReadsAt.read (h : ReadsAt eol level e kinds) {ts : List Token}
    (hts : ts.map Token.kind = kinds) (hrest : Ends level rest) :
    Reads (parseLevel eol level (ts ++ rest)) e rest := by
  refine h.reads hts (hrest.mono (Nat.sub_le _ _)) ?_
  cases level with
  | zero => exact .ok ⟨rfl, rfl⟩
  | succ below =>
      rw [readOn, parseChain_ends hrest]
      exact .ok ⟨rfl, rfl⟩

theorem Opens.exists_head {opens : TokenKind → Bool} {ts : List Token}
    (h : Opens opens (ts.map Token.kind)) : ∃ t tail, ts = t :: tail ∧ opens t.kind = true := by
  obtain ⟨kind, kinds, hkinds, hkind⟩ := h
  obtain ⟨t, tail, rfl, rfl, -⟩ := List.map_eq_cons_iff.1 hkinds
  exact ⟨t, tail, rfl, hkind⟩

theorem ne_of_opens {opens : TokenKind → Bool} {kind other : TokenKind} (h : opens kind = true)
    (hother : opens other = false) : kind ≠ other := by
  rintro rfl
  cases h.symm.trans hother

/-- The tokens do not begin with a kind that is none of those. -/
theorem eat?_of_opens {opens : TokenKind → Bool} {kind : TokenKind} (hopens : Opens opens kinds)
    (hkind : opens kind = false) {ts : List Token} (hts : ts.map Token.kind = kinds) :
    eat? kind (ts ++ rest) = none := by
  rw [← hts] at hopens
  obtain ⟨t, tail, rfl, ht⟩ := hopens.exists_head
  exact eat?_cons_of_ne (ne_of_opens ht hkind) _

theorem Opens.mono {opens opens' : TokenKind → Bool} (h : Opens opens kinds)
    (himp : ∀ kind, opens kind = true → opens' kind = true) : Opens opens' kinds := by
  obtain ⟨kind, tail, hkinds, hkind⟩ := h
  exact ⟨kind, tail, hkinds, himp kind hkind⟩

theorem opensLevel_of_operand {kind : TokenKind} (h : opensOperand kind = true) (level : Nat) :
    opensLevel level kind = true := by
  unfold opensLevel
  split
  · rfl
  · cases h
  · exact h

theorem opensLevel_mono {level level' : Nat} (hle : level ≤ level') {kind : TokenKind}
    (h : opensLevel level kind = true) : opensLevel level' kind = true := by
  unfold opensLevel at h ⊢
  split at h
  · rfl
  · exact decide_eq_true (Nat.le_trans (of_decide_eq_true h) hle)
  · exact h

/-- At the levels of the prefix operators nothing goes on behind an expression. -/
theorem readsAt_of_prefix (hlevel : level = 0 ∨ level = BinaryOp.notLevel)
    (opens : Opens (opensLevel level) kinds)
    (reads : ∀ {ts rest : List Token}, ts.map Token.kind = kinds → Ends level rest →
      Reads (parseLevel eol level (ts ++ rest)) e rest) : ReadsAt eol level e kinds := by
  refine ⟨opens, fun {ts rest x rest'} hts hends goesOn => ?_⟩
  have hends' : Ends level rest := by
    refine ⟨hends.noCall, fun t ht op hop => ?_⟩
    have hlt := hends.looser t ht op hop
    have hne := op.level_ne_notLevel
    omega
  have hnothing : readOn eol level e rest = .ok (.nothing e rest) := by
    cases level with
    | zero => rfl
    | succ below => exact parseChain_ends hends'
  rw [hnothing] at goesOn
  cases goesOn with
  | ok leaves =>
      cases leaves.value
      cases leaves.rest
      exact reads hts hends'

/-- An expression of a level is one of the next looser level. -/
theorem readsAt_succ (h : ReadsAt eol level e kinds) : ReadsAt eol (level + 1) e kinds := by
  have hopens := h.opens.mono fun kind => opensLevel_mono (Nat.le_succ level)
  by_cases hnot : level + 1 = BinaryOp.notLevel
  · refine readsAt_of_prefix (.inr hnot) hopens fun {ts rest} hts hends => ?_
    have hclosed : opensLevel level (.keyword .not) = false := decide_eq_false (by omega)
    rw [parseLevel, if_pos hnot, eat?_of_opens h.opens hclosed hts]
    exact h.read hts (hends.mono (Nat.le_succ level))
  · refine ⟨hopens, fun {ts rest x rest'} hts hends goesOn => ?_⟩
    rw [parseLevel, if_neg hnot]
    refine reads_bind (h.read hts hends) fun shorter => ?_
    exact readsUpTo_bind goesOn fun noLonger => .ok ⟨rfl, rfl⟩

theorem readsAt_mono {level' : Nat} (h : ReadsAt eol level e kinds) (hle : level ≤ level') :
    ReadsAt eol level' e kinds := by
  induction hle with
  | refl => exact h
  | step _ ih => exact readsAt_succ ih

/-! ## Operands and powers -/

/-- A single operand is a power without an exponent. -/
theorem ReadsOperand.power (h : ReadsOperand eol e kinds) : ReadsPower eol e kinds := by
  refine ⟨h.opens, fun {ts rest x rest'} hts hcall goesOn => ?_⟩
  rw [parseSigned, eat?_of_opens h.opens rfl hts, eat?_of_opens h.opens rfl hts]
  refine reads_bind (h.reads hts hcall) fun shorter => ?_
  exact readsUpTo_bind goesOn fun noLonger => .ok ⟨rfl, rfl⟩

/-- A single operand is an exponent without signs. -/
theorem ReadsOperand.exponent (h : ReadsOperand eol e kinds) : ReadsExponent eol e kinds := by
  refine ⟨fun {ts rest} hts hcall => ?_⟩
  rw [parseExponent, eat?_of_opens h.opens rfl hts]
  exact h.reads hts hcall

/-- A power is an expression of the tightest level. -/
theorem ReadsPower.readsAt (h : ReadsPower eol e kinds) : ReadsAt eol 0 e kinds := by
  refine readsAt_of_prefix (.inl rfl) (h.opens.mono fun kind hkind => opensLevel_of_operand hkind 0)
    fun {ts rest} hts hends => ?_
  rw [parseLevel]
  refine h.reads hts hends.noCall ?_
  rw [parsePowers_ends hends]
  exact .ok ⟨rfl, rfl⟩

/-! ## Operations -/

variable {kinds' : List TokenKind}

theorem Opens.append {opens : TokenKind → Bool} (h : Opens opens kinds) :
    Opens opens (kinds ++ kinds') := by
  obtain ⟨kind, tail, rfl, hkind⟩ := h
  exact ⟨kind, tail ++ kinds', rfl, hkind⟩

/-- An operation of a level, with a left operand of that level and a right one of the level
below. -/
theorem readsAt_binary {below : Nat} {op : BinaryOp} (hlhs : ReadsAt eol (below + 1) lhs kinds)
    (hrhs : ReadsAt eol below rhs kinds') (hlevel : op.level = below + 1)
    (accepts : op.accepts lhs.type rhs.type = true) :
    ReadsAt eol (below + 1) (.binary op lhs rhs) (kinds ++ op.token :: kinds') := by
  refine ⟨hlhs.opens.append, fun {ts rest x rest'} hts hends goesOn => ?_⟩
  obtain ⟨tsl, tsr, rfl, hl, hr⟩ := List.map_eq_append_iff.1 hts
  obtain ⟨t, tsr, rfl, ht, hr⟩ := List.map_eq_cons_iff.1 hr
  rw [List.append_assoc, List.cons_append]
  refine hlhs.reads hl (ends_operator ht (by omega) _) ?_
  exact parseChain_operator ht hlevel (hrhs.read hr hends) accepts goesOn

theorem readsPower_pow (hlhs : ReadsPower eol lhs kinds) (hrhs : ReadsExponent eol rhs kinds')
    (accepts : BinaryOp.pow.accepts lhs.type rhs.type = true) :
    ReadsPower eol (.binary .pow lhs rhs) (kinds ++ BinaryOp.pow.token :: kinds') := by
  refine ⟨hlhs.opens.append, fun {ts rest x rest'} hts hcall goesOn => ?_⟩
  obtain ⟨tsl, tsr, rfl, hl, hr⟩ := List.map_eq_append_iff.1 hts
  obtain ⟨t, tsr, rfl, ht, hr⟩ := List.map_eq_cons_iff.1 hr
  rw [List.append_assoc, List.cons_append]
  refine hlhs.reads hl (noCall_operator ht _) ?_
  exact parsePowers_operator ht (hrhs.reads hr hcall) accepts goesOn

theorem readsAt_neg (h : ReadsAt eol 0 e kinds) (number : e.type = .number) :
    ReadsAt eol 0 (.unary .neg e) (.sign .minus :: kinds) := by
  refine readsAt_of_prefix (.inl rfl) ⟨_, _, rfl, rfl⟩ fun {ts rest} hts hends => ?_
  obtain ⟨t, ts, rfl, ht, hts⟩ := List.map_eq_cons_iff.1 hts
  have hread := h.read hts hends
  rw [parseLevel] at hread
  rw [parseLevel, List.cons_append, parseSigned, eat?_of_kind ht]
  refine reads_bind hread fun shorter => ?_
  exact succeeds_bind (requireNumber_number number _) fun _ _ => .ok ⟨rfl, rfl⟩

theorem readsAt_not (h : ReadsAt eol BinaryOp.notLevel e kinds) (number : e.type = .number) :
    ReadsAt eol BinaryOp.notLevel (.unary .not e) (.keyword .not :: kinds) := by
  refine readsAt_of_prefix (.inr rfl) ⟨_, _, rfl, rfl⟩ fun {ts rest} hts hends => ?_
  obtain ⟨t, ts, rfl, ht, hts⟩ := List.map_eq_cons_iff.1 hts
  rw [parseLevel, if_pos rfl, List.cons_append, eat?_of_kind ht]
  refine reads_bind (h.read hts hends) fun shorter => ?_
  exact succeeds_bind (requireNumber_number number _) fun _ _ => .ok ⟨rfl, rfl⟩

theorem readsExponent_neg (h : ReadsExponent eol e kinds) (number : e.type = .number) :
    ReadsExponent eol (.unary .neg e) (.sign .minus :: kinds) := by
  refine ⟨fun {ts rest} hts hcall => ?_⟩
  obtain ⟨t, ts, rfl, ht, hts⟩ := List.map_eq_cons_iff.1 hts
  rw [List.cons_append, parseExponent, eat?_of_kind ht]
  refine reads_bind (h.reads hts hcall) fun shorter => ?_
  exact succeeds_bind (requireNumber_number number _) fun _ _ => .ok ⟨rfl, rfl⟩

/-! ## Single operands -/

theorem readsOperand_number (eol : Nat) (n : Float) :
    ReadsOperand eol (.number n) [.number n] := by
  refine ⟨⟨_, _, rfl, rfl⟩, fun {ts rest} hts hcall => ?_⟩
  obtain ⟨t, rfl, ht⟩ := List.map_eq_singleton_iff.1 hts
  rw [List.singleton_append, parseOperand, ht]
  exact .ok ⟨rfl, rfl⟩

theorem readsOperand_text (eol : Nat) (s : String) : ReadsOperand eol (.text s) [.text s] := by
  refine ⟨⟨_, _, rfl, rfl⟩, fun {ts rest} hts hcall => ?_⟩
  obtain ⟨t, rfl, ht⟩ := List.map_eq_singleton_iff.1 hts
  rw [List.singleton_append, parseOperand, ht]
  exact .ok ⟨rfl, rfl⟩

theorem readsOperand_var (eol : Nat) (name : String) :
    ReadsOperand eol (.var (Variable.ofName name)) [.name name] := by
  refine ⟨⟨_, _, rfl, rfl⟩, fun {ts rest} hts hcall => ?_⟩
  obtain ⟨t, rfl, ht⟩ := List.map_eq_singleton_iff.1 hts
  have hEat : eat? (.sign .leftParen) rest = none := by
    cases rest with
    | nil => rfl
    | cons u tail => exact eat?_cons_of_ne (hcall u rfl) tail
  rw [List.singleton_append, parseOperand, ht]
  dsimp only
  rw [hEat]
  exact .ok ⟨rfl, rfl⟩

theorem expectSign_of_kind {s : Sign} {t : Token} (ht : t.kind = .sign s) (what : String) :
    Reads (expectSign eol s what (t :: tail)) () tail := by
  rw [expectSign_head eol ht]
  exact .ok ⟨rfl, rfl⟩

theorem ends_rightParen {t : Token} (ht : t.kind = .sign .rightParen) :
    Ends level (t :: tail) := ends_other ht (by decide) rfl tail

/-- An expression in parentheses is a single operand. -/
theorem readsOperand_parenthesize
    (h : ∀ {ts rest : List Token}, ts.map Token.kind = kinds → Ends BinaryOp.topLevel rest →
      Reads (parseLevel eol BinaryOp.topLevel (ts ++ rest)) e rest) :
    ReadsOperand eol e (Slot.parenthesize kinds) := by
  refine ⟨⟨_, _, rfl, rfl⟩, fun {ts rest} hts hcall => ?_⟩
  obtain ⟨t, ts, rfl, ht, hts⟩ := List.map_eq_cons_iff.1 hts
  obtain ⟨inner, closing, rfl, hinner, hclosing⟩ := List.map_eq_append_iff.1 hts
  obtain ⟨close, rfl, hclose⟩ := List.map_eq_singleton_iff.1 hclosing
  rw [List.cons_append, List.append_assoc, parseOperand, ht]
  refine reads_bind (h hinner (ends_rightParen hclose)) fun shorter => ?_
  exact reads_bind (expectSign_of_kind hclose _) fun shorter' => .ok ⟨rfl, rfl⟩

/-! ## Calls -/

/-- Tokens are those of arguments, from the one with `index` arguments before it on. -/
structure ReadsFrom (eol : Nat) (f : Builtin) (index : Nat) (args : List Expr)
    (kinds : List TokenKind) : Prop where
  reads : ∀ {ts rest : List Token} {close : Token}, ts.map Token.kind = kinds →
    close.kind = .sign .rightParen →
    Reads (parseArgumentsFrom eol f index (ts ++ close :: rest)) args (close :: rest)

variable {f : Builtin} {index : Nat} {args : List Expr}

theorem readsFrom_last (h : ReadsAt eol BinaryOp.topLevel e kinds)
    (type : e.type = f.paramType index) : ReadsFrom eol f index [e] kinds := by
  refine ⟨fun {ts rest close} hts hclose => ?_⟩
  rw [parseArgumentsFrom]
  refine reads_bind (h.read hts (ends_rightParen hclose)) fun shorter => ?_
  have hEat : eat? (.sign .comma) (close :: rest) = none :=
    eat?_cons_of_ne (by rw [hclose]; decide) rest
  dsimp only
  rw [if_neg (not_not_intro type), hEat]
  exact .ok ⟨rfl, rfl⟩

theorem readsFrom_cons (h : ReadsAt eol BinaryOp.topLevel e kinds)
    (type : e.type = f.paramType index) (hrest : ReadsFrom eol f (index + 1) args kinds') :
    ReadsFrom eol f index (e :: args) (kinds ++ .sign .comma :: kinds') := by
  refine ⟨fun {ts rest close} hts hclose => ?_⟩
  obtain ⟨first, more, rfl, hfirst, hmore⟩ := List.map_eq_append_iff.1 hts
  obtain ⟨comma, more, rfl, hcomma, hmore⟩ := List.map_eq_cons_iff.1 hmore
  have hends : Ends BinaryOp.topLevel (comma :: (more ++ close :: rest)) :=
    ends_other hcomma (by decide) rfl _
  rw [List.append_assoc, List.cons_append, parseArgumentsFrom]
  refine reads_bind (h.read hfirst hends) fun shorter => ?_
  dsimp only
  rw [if_neg (not_not_intro type), eat?_of_kind hcomma]
  exact reads_bind (hrest.reads hmore hclose) fun shorter' => .ok ⟨rfl, rfl⟩

@[simp] theorem asciiLower_name (f : Builtin) : Text.asciiLower f.name = f.name := by cases f <;> decide

/-- A call is a single operand. -/
theorem readsOperand_call (hargs : ReadsFrom eol f 0 args kinds)
    (hopens : Opens (opensLevel BinaryOp.topLevel) kinds) (accepts : f.accepts args.length = true) :
    ReadsOperand eol (.call f args) (.name f.name :: Slot.parenthesize kinds) := by
  refine ⟨⟨_, _, rfl, rfl⟩, fun {ts rest} hts hcall => ?_⟩
  obtain ⟨t, ts, rfl, ht, hts⟩ := List.map_eq_cons_iff.1 hts
  obtain ⟨u, ts, rfl, hu, hts⟩ := List.map_eq_cons_iff.1 hts
  obtain ⟨inner, closing, rfl, hinner, hclosing⟩ := List.map_eq_append_iff.1 hts
  obtain ⟨close, rfl, hclose⟩ := List.map_eq_singleton_iff.1 hclosing
  have hread : ReadsUpTo (parseArguments eol f (inner ++ close :: rest)) args (close :: rest) := by
    rw [parseArguments, eat?_of_opens hopens rfl hinner]
    exact reads_bind (hargs.reads hinner hclose) fun shorter => .ok ⟨rfl, rfl⟩
  rw [List.cons_append, List.cons_append, List.append_assoc, List.singleton_append, parseOperand,
    ht]
  dsimp only
  rw [eat?_of_kind hu]
  dsimp only [Taken.ofHead, TakenUpTo.behind, TakenUpTo.nothing]
  rw [asciiLower_name, Builtin.ofName?_name]
  refine readsUpTo_bind hread fun noLonger => ?_
  refine reads_bind (expectSign_of_kind hclose _) fun shorter => ?_
  dsimp only
  rw [if_pos accepts]
  exact .ok ⟨rfl, rfl⟩

end Expr

/-! ## Slots -/

open LineBasic.Expr

namespace Slot

variable {eol : Nat} {e : Expr} {kinds : List TokenKind} {b b' : Nat}

/-- Tokens are those of an expression in a slot. -/
def Reads (eol : Nat) (slot : Slot) (e : Expr) (kinds : List TokenKind) : Prop :=
  match slot with
  | .exponent => ReadsExponent eol e kinds
  | .operand b =>
      if b ≤ BinaryOp.signBinding then ReadsAt eol (BinaryOp.signBinding - b) e kinds
      else if b = BinaryOp.pow.binding then ReadsPower eol e kinds
      else ReadsOperand eol e kinds

theorem reads_operand (hb : b ≤ BinaryOp.signBinding) :
    (operand b).Reads eol e kinds ↔ ReadsAt eol (BinaryOp.signBinding - b) e kinds := by
  rw [Reads, if_pos hb]

/-- A single operand can stand in any slot. -/
theorem reads_of_operand (h : ReadsOperand eol e kinds) (slot : Slot) :
    slot.Reads eol e kinds := by
  cases slot with
  | exponent => exact h.exponent
  | operand b =>
      unfold Reads
      dsimp only
      split
      · exact readsAt_mono h.power.readsAt (Nat.zero_le _)
      · split
        · exact h.power
        · exact h

/-- What can stand in a slot can stand in one that asks for less. -/
theorem reads_mono (h : (operand b').Reads eol e kinds) (hle : b ≤ b') :
    (operand b).Reads eol e kinds := by
  unfold Reads at h ⊢
  dsimp only at h ⊢
  split at h
  · next hb' =>
      rw [if_pos (Nat.le_trans hle hb')]
      exact readsAt_mono h (Nat.sub_le_sub_left hle _)
  · split at h
    · next hpow =>
        split
        · exact readsAt_mono h.readsAt (Nat.zero_le _)
        · next hb =>
            have hsame : b = BinaryOp.pow.binding := by
              simp only [BinaryOp.binding, BinaryOp.signBinding] at hb hpow ⊢
              omega
            rw [if_pos hsame]
            exact h
    · exact reads_of_operand h (operand b)

/-- An operation can stand in any slot, with parentheses where they are needed. -/
theorem reads_enclose (h : (operand b).Reads eol e kinds) (hb : 1 ≤ b) (slot : Slot)
    (everywhere : Bool) : slot.Reads eol e (slot.enclose everywhere b kinds) := by
  unfold enclose
  split
  · next hbare =>
      cases slot with
      | exponent => cases hbare.1
      | operand b' => exact reads_mono h (of_decide_eq_true hbare.1)
  · have hwhole : ReadsAt eol BinaryOp.topLevel e kinds := reads_mono h hb
    exact reads_of_operand (readsOperand_parenthesize hwhole.read) slot

end Slot

/-! ## Round trip -/

section RoundTrip

variable {names : Variable → String} {everywhere : Bool} {eol : Nat}

/-- The arguments of a call, each of which can be read, can be read one after the other. -/
theorem readsFrom_printAll {f : Builtin} {index : Nat} {args : List Expr} (hne : args ≠ [])
    (typed : TypedFrom f index args)
    (each : ∀ e ∈ args, Slot.whole.Reads eol e (e.print names everywhere .whole)) :
    ReadsFrom eol f index args (Expr.printAll names everywhere args) ∧
      Opens (opensLevel BinaryOp.topLevel) (Expr.printAll names everywhere args) := by
  induction args generalizing index with
  | nil => exact absurd rfl hne
  | cons e rest ih =>
      have hread := each e List.mem_cons_self
      rw [Slot.reads_operand (by decide)] at hread
      have htype : e.type = f.paramType index := typed.type 0 e.type rfl
      cases rest with
      | nil =>
          rw [Expr.printAll]
          exact ⟨readsFrom_last hread htype, hread.opens⟩
      | cons e' rest =>
          obtain ⟨hfrom, -⟩ := ih (List.cons_ne_nil _ _) typed.tail
            fun e he => each e (List.mem_cons_of_mem _ he)
          rw [Expr.printAll]
          · exact ⟨readsFrom_cons hread htype hfrom, hread.opens.append⟩
          · rintro ⟨⟩

/-- A printed expression can stand in the slot that it was printed for. -/
theorem reads_print {e : Expr} (typed : e.WellTyped)
    (named : ∀ v, Expr.PartOf (.var v) e → Variable.ofName (names v) = v) (slot : Slot) :
    slot.Reads eol e (e.print names everywhere slot) := by
  induction typed generalizing slot with
  | number n =>
      rw [Expr.print]
      exact Slot.reads_of_operand (readsOperand_number eol n) slot
  | text s =>
      rw [Expr.print]
      exact Slot.reads_of_operand (readsOperand_text eol s) slot
  | @var v marked =>
      have hread := readsOperand_var eol (names v)
      rw [named v .self] at hread
      rw [Expr.print]
      exact Slot.reads_of_operand hread slot
  | @unary op arg operand number ih =>
      have hnamed := fun v part => named v (.operand part)
      cases op with
      | neg =>
          rw [Expr.print]
          split
          · next hbare =>
              rw [hbare.1]
              exact readsExponent_neg (ih hnamed .exponent) number
          · have hread := ih hnamed (.operand BinaryOp.signBinding)
            rw [Slot.reads_operand (Nat.le_refl _)] at hread
            refine Slot.reads_enclose ?_ (by decide) slot everywhere
            rw [Slot.reads_operand (Nat.le_refl _)]
            exact readsAt_neg hread number
      | not =>
          have hread := ih hnamed (.operand BinaryOp.notBinding)
          rw [Slot.reads_operand (by decide)] at hread
          rw [Expr.print]
          refine Slot.reads_enclose ?_ (by decide) slot everywhere
          rw [Slot.reads_operand (by decide)]
          exact readsAt_not hread number
  | @binary op lhs rhs left right accepts ihl ihr =>
      have hl := ihl (fun v part => named v (.left part)) (.operand op.binding)
      have hr := ihr (fun v part => named v (.right part)) op.rightSlot
      rw [Expr.print]
      refine Slot.reads_enclose ?_ (by cases op <;> decide) slot everywhere
      by_cases hpow : op = .pow
      · subst hpow
        exact readsPower_pow hl hr accepts
      · obtain ⟨below, hlevel, hbinding⟩ := op.level_of_ne_pow hpow
        have hslot : BinaryOp.signBinding - op.binding = below + 1 := by omega
        have hright : BinaryOp.signBinding - (op.binding + 1) = below := by omega
        rw [BinaryOp.rightSlot, if_neg hpow] at hr ⊢
        rw [Slot.reads_operand (by omega)] at hl hr ⊢
        rw [hslot] at hl ⊢
        rw [hright] at hr
        exact readsAt_binary hl hr hlevel accepts
  | @call f args each takes ih =>
      have hcount : f.accepts args.length = true := by
        rw [← List.length_map Expr.type]
        exact takes.count
      have hne : args ≠ [] := by
        rintro rfl
        cases f.accepts_zero.symm.trans hcount
      have htyped : TypedFrom f 0 args :=
        ⟨each, fun i t ht => (takes.type i t ht).trans (congrArg f.paramType (Nat.zero_add i).symm)⟩
      obtain ⟨hfrom, hopens⟩ := readsFrom_printAll hne htyped fun e he =>
        ih e he (fun v part => named v (.argument he part)) .whole
      rw [Expr.print]
      exact Slot.reads_of_operand (readsOperand_call hfrom hopens hcount) slot

/-- A printed expression that is no operand is one of the loosest level. -/
theorem readsAt_print {e : Expr} (typed : e.WellTyped)
    (named : ∀ v, Expr.PartOf (.var v) e → Variable.ofName (names v) = v) :
    ReadsAt eol BinaryOp.topLevel e (e.print names everywhere .whole) :=
  (Slot.reads_operand (by decide)).1 (reads_print typed named .whole)

end RoundTrip

/--
Reading inverts printing: the tokens of a well-typed expression, with parentheses where they are
needed or around every operation, are read as that expression and nothing is left.
-/
theorem parse_print {e : Expr} (typed : e.WellTyped) {names : Variable → String}
    (named : ∀ v, Expr.PartOf (.var v) e → Variable.ofName (names v) = v) (everywhere : Bool)
    (eol : Nat) {ts : List Token} (printed : ts.map Token.kind = e.print names everywhere .whole) :
    ∃ taken, Expr.parse eol ts = .ok taken ∧ taken.value = e ∧ taken.rest = [] := by
  have hreads : Reads (parseLevel eol BinaryOp.topLevel (ts ++ [])) e [] :=
    (readsAt_print typed named).read printed (ends_nil _)
  rw [List.append_nil] at hreads
  unfold Expr.parse
  generalize parseLevel eol BinaryOp.topLevel ts = r at hreads
  cases hreads with
  | ok leaves => exact ⟨_, rfl, leaves.value, leaves.rest⟩

/-- A difference to the power of minus two. -/
def Expr.inverseSquare : Expr :=
  .binary .pow (.binary .sub (.var ⟨"aR", .number⟩) (.var ⟨"bR", .number⟩))
    (.unary .neg (.number 2.0))

/-- A letter for each of its variables. -/
def Variable.letter (v : Variable) : String := if v.key = "aR" then "A" else "b!"

/-- The tokens of `(A-b!)^-2`, each at the place of its first character. -/
def inverseSquareTokens : List Token := [
  ⟨.sign .leftParen, 0⟩, ⟨.name "A", 1⟩, ⟨.sign .minus, 2⟩, ⟨.name "b!", 3⟩, ⟨.sign .rightParen, 5⟩,
  ⟨.sign .caret, 6⟩, ⟨.sign .minus, 7⟩, ⟨.number 2.0, 8⟩]

/-- The difference needs its parentheses, and the sign of the exponent needs none. -/
theorem parse_print_inverseSquare :
    Expr.inverseSquare.WellTyped ∧
      inverseSquareTokens.map Token.kind = Expr.inverseSquare.print Variable.letter false .whole ∧
      ∃ taken, Expr.parse 9 inverseSquareTokens = .ok taken ∧ taken.value = .inverseSquare ∧
        taken.rest = [] := by
  have htyped : Expr.inverseSquare.WellTyped :=
    .binary (.binary (.var rfl) (.var rfl) rfl) (.unary .neg (.number _) rfl) rfl
  have hnamed : ∀ v, Expr.PartOf (.var v) .inverseSquare → Variable.ofName v.letter = v := by
    intro v part
    cases part with
    | left part =>
        cases part with
        | left part =>
            cases part with
            | self => rfl
        | right part =>
            cases part with
            | self => rfl
    | right part =>
        cases part with
        | operand part => cases part
  have hprinted : inverseSquareTokens.map Token.kind =
      Expr.inverseSquare.print Variable.letter false .whole := by
    rfl
  exact ⟨htyped, hprinted, parse_print htyped hnamed false 9 hprinted⟩

end LineBasic
