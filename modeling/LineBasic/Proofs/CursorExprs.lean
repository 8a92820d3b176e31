import LineBasic.Proofs.ExprRereading

/-!
# Reading expressions with a cursor

The readers of a line hand on the tokens that are left.  That these are fewer stands in their types, and
is the reason why their definitions are accepted.  Nothing is left to say then about a loop that goes
round for ever, as it could not have been written down.

Here the readers are written down a second time, in the way that leaves this open: as loops and calls
that move a cursor over the tokens of a line and promise nothing.  A loop goes round by a call of itself,
and every call goes one deeper.  A reader is told how deep its calls may go, and has no outcome where
they would go deeper.  So one that never comes to an end has no outcome at any depth.

The theorems say that a depth which grows with the number of tokens is always enough, that the outcome
is that of the first reader then, and that the cursor moves onward and stays among the tokens, with a
mistake as well as with a value.

## Main definitions

* `Cursor.Reader`: a reader that moves a cursor, may find a mistake, and may not come to an end.
* `Cursor.level` and what it calls: the reader of expressions.
* `Cursor.Before`: the tokens that are left where the cursor stands.
* `Cursor.Follows`: a reader with a cursor comes to the outcome of a reader that hands on tokens.
* `Cursor.Tracks`: it does so wherever those tokens are left, if its calls may go deep enough.
* `Cursor.Extends`: a reader has every outcome of another one.

## Main results

* `Cursor.follows_bind`: outcomes are followed through the parts of a reader.
* `Cursor.exprsTrack`: the readers of expressions end as the first ones.
* `Cursor.extends_exprs`: deeper calls keep what was read to its end.
-/

namespace LineBasic

/-- What was read and what is left. -/
def Taken.toPair {τ α : Type} {input : List τ} (t : Taken α input) : α × List τ := (t.value, t.rest)

/-- What was read and what is left. -/
def TakenUpTo.toPair {τ α : Type} {input : List τ} (t : TakenUpTo α input) : α × List τ :=
  (t.value, t.rest)

namespace Cursor

/-- A reader that moves a cursor, may find a mistake, and may not come to an end. -/
abbrev Reader (α : Type) := ExceptT CompileError (StateT Nat Option) α

/-- What becomes of a reader that starts with the cursor at some token: what it reads or the mistake it
finds, and where it leaves the cursor.  There is nothing if its calls go too deep. -/
def outcome {α : Type} (r : Reader α) (i : Nat) : Option (Except CompileError α × Nat) := r.run.run i

/-- A reader whose calls would go deeper than they may. -/
def tooDeep {α : Type} : Reader α := ExceptT.mk fun _ => none

/-! ## Moves of the cursor -/

section Readers

variable (eol : Nat) (tokens : List Token)

/-- The token at the cursor. -/
def peek : Reader (Option Token) := do return tokens[← get]?

/-- The place of that token, or the end of the line. -/
def place : Reader Nat := do return (tokens[← get]?.map Token.pos).getD eol

/-- Whether a token of a kind stands at the cursor. -/
def stands (kind : TokenKind) : Reader Bool := do
  return (← peek tokens).map Token.kind = some kind

/-- Takes the token at the cursor. -/
def advance : Reader (Option Token) := do
  match ← peek tokens with
  | none => return none
  | some t =>
      modify (· + 1)
      return some t

/-- Takes a token of a kind if it stands at the cursor. -/
def eat (kind : TokenKind) : Reader Bool := do
  if ← stands tokens kind then
    modify (· + 1)
    return true
  else return false

/-- Takes a sign, and refuses anything else. -/
def expect (s : Sign) (what : String) : Reader Unit := do
  if ← eat tokens (.sign s) then return ()
  else throw (.malformed (.expected what ((← peek tokens).map Token.kind)) (← place eol tokens))

open LineBasic.Expr (combine requireNumber)

/-- A call of the function with a name, from its parenthesis on. -/
def call (arguments : Builtin → Reader (List Expr)) (name : String) (start : Nat) : Reader Expr := do
  match Builtin.ofName? (Text.asciiLower name) with
  | none => throw (.unknownFunction name start)
  | some func =>
      expect eol tokens .leftParen "'('"
      let args ← arguments func
      expect eol tokens .rightParen "')'"
      if func.accepts args.length then return .call func args
      else throw (.malformed (.argumentCount name) start)

/-- An operand from behind its first token on. -/
def operandFrom (inner : Reader Expr) (arguments : Builtin → Reader (List Expr)) (kind : TokenKind)
    (start : Nat) : Reader Expr :=
  match kind with
  | .number n => return .number n
  | .text s => return .text s
  | .name name => do
      if ← stands tokens (.sign .leftParen) then call eol tokens arguments name start
      else return .var (Variable.ofName name)
  | .sign .leftParen => do
      let e ← inner
      expect eol tokens .rightParen "')'"
      return e
  | kind => throw (.malformed (.unexpected kind) start)

/-! ## Loops

The number in front is how deep calls may go. -/

mutual

/-- An expression of a level. -/
def level : Nat → Nat → Reader Expr
  | 0, _ => tooDeep
  | depth + 1, 0 => signed depth
  | depth + 1, below + 1 =>
      if below + 1 = BinaryOp.notLevel then do
        let start ← place eol tokens
        if ← eat tokens (.keyword .not) then
          let arg ← level depth (below + 1)
          requireNumber arg start
          return .unary .not arg
        else level depth below
      else do
        let lhs ← level depth below
        chain depth below lhs

/-- The operators of the level above `below`, and their right operands, behind `lhs`. -/
def chain : Nat → Nat → Expr → Reader Expr
  | 0, _, _ => tooDeep
  | depth + 1, below, lhs => do
      match ← peek tokens with
      | none => return lhs
      | some t =>
          match BinaryOp.ofToken (below + 1) t.kind with
          | none => return lhs
          | some op =>
              let start ← place eol tokens
              let _ ← advance tokens
              let rhs ← level depth below
              let e ← combine op lhs rhs start
              chain depth below e

/-- Signs and what they stand before. -/
def signed : Nat → Reader Expr
  | 0 => tooDeep
  | depth + 1 => do
      let start ← place eol tokens
      if ← eat tokens (.sign .minus) then
        let arg ← signed depth
        requireNumber arg start
        return .unary .neg arg
      else if ← eat tokens (.sign .plus) then
        let arg ← signed depth
        requireNumber arg start
        return arg
      else
        let lhs ← operand depth
        powers depth lhs

/-- The powers behind `lhs`. -/
def powers : Nat → Expr → Reader Expr
  | 0, _ => tooDeep
  | depth + 1, lhs => do
      let start ← place eol tokens
      if ← eat tokens (.sign .caret) then
        let rhs ← exponent depth
        let e ← combine .pow lhs rhs start
        powers depth e
      else return lhs

/-- An exponent: an operand that may carry minus signs. -/
def exponent : Nat → Reader Expr
  | 0 => tooDeep
  | depth + 1 => do
      let start ← place eol tokens
      if ← eat tokens (.sign .minus) then
        let arg ← exponent depth
        requireNumber arg start
        return .unary .neg arg
      else operand depth

/-- A literal, a variable, a call or an expression in parentheses. -/
def operand : Nat → Reader Expr
  | 0 => tooDeep
  | depth + 1 => do
      let start ← place eol tokens
      match ← advance tokens with
      | none => throw (.malformed .unexpectedEnd start)
      | some t => operandFrom eol tokens (level depth BinaryOp.topLevel) (arguments depth) t.kind start

/-- The arguments of a call, none if a closing parenthesis follows at once. -/
def arguments : Nat → Builtin → Reader (List Expr)
  | 0, _ => tooDeep
  | depth + 1, func => do
      if ← stands tokens (.sign .rightParen) then return []
      else argumentsFrom depth func 0

/-- The arguments from the one with `index` arguments before it on, divided by commas. -/
def argumentsFrom : Nat → Builtin → Nat → Reader (List Expr)
  | 0, _, _ => tooDeep
  | depth + 1, func, index => do
      let start ← place eol tokens
      let arg ← level depth BinaryOp.topLevel
      if arg.type ≠ func.paramType index then throw (.typeMismatch start)
      else if ← eat tokens (.sign .comma) then
        let args ← argumentsFrom depth func (index + 1)
        return arg :: args
      else return [arg]

end

/-- An expression. -/
def expression (depth : Nat) : Reader Expr := level eol tokens depth BinaryOp.topLevel

end Readers

/-! ## Where the cursor stands -/

/-- The tokens that are left where the cursor stands. -/
structure Before (tokens : List Token) (i : Nat) (ts : List Token) : Prop where
  inside : i ≤ tokens.length
  left : tokens.drop i = ts

/-- A place is that of some token, or the end of the line. -/
def IsPlace (eol : Nat) (tokens : List Token) (pos : Nat) : Prop :=
  ∃ i ts, Before tokens i ts ∧ pos = posOf eol ts

section Places

variable {eol i : Nat} {t : Token} {tokens ts later : List Token}

theorem before_zero (tokens : List Token) : Before tokens 0 tokens := ⟨Nat.zero_le _, rfl⟩

theorem before_drop (h : i ≤ tokens.length) : Before tokens i (tokens.drop i) := ⟨h, rfl⟩

theorem Before.head? (h : Before tokens i ts) : tokens[i]? = ts.head? := by
  rw [← h.left, List.head?_drop]

theorem Before.next (h : Before tokens i (t :: later)) : Before tokens (i + 1) later := by
  have hlt : i < tokens.length := by
    have hlength := congrArg List.length h.left
    rw [List.length_drop, List.length_cons] at hlength
    omega
  refine ⟨hlt, ?_⟩
  rw [← List.tail_drop, h.left, List.tail_cons]

theorem Before.taken {kind : TokenKind} {taken : Taken Unit ts} (h : Before tokens i ts)
    (hEat : eat? kind ts = some taken) : Before tokens (i + 1) taken.rest := by
  obtain ⟨t, hts, -⟩ := Expr.eq_cons_of_eat? hEat
  rw [hts] at h
  exact h.next

theorem Before.isPlace (h : Before tokens i ts) : IsPlace eol tokens (posOf eol ts) :=
  ⟨i, ts, h, rfl⟩

/-- A place is not behind the end of the line if all tokens start before it. -/
theorem IsPlace.le {pos : Nat} (h : IsPlace eol tokens pos) (inside : ∀ t ∈ tokens, t.pos ≤ eol) :
    pos ≤ eol := by
  obtain ⟨i, ts, hbefore, rfl⟩ := h
  cases ts with
  | nil => exact Nat.le_refl _
  | cons t tail =>
      refine inside t (List.mem_of_mem_drop (i := i) ?_)
      rw [hbefore.left]
      exact List.mem_cons_self

end Places

/-! ## Readers that come to the same outcome -/

/-- A reader with a cursor that starts at some token comes to the outcome of a reader that hands on
tokens.  The cursor ends at what is left, or on the way to it, and a mistake has a place in the line. -/
inductive Follows {α : Type} (eol : Nat) (tokens : List Token) (i : Nat) (r : Reader α) :
    Except CompileError (α × List Token) → Prop
  | ok {a : α} {j : Nat} {rest : List Token} (ends : outcome r i = some (.ok a, j))
      (onward : i ≤ j) (before : Before tokens j rest) : Follows eol tokens i r (.ok (a, rest))
  | error {e : CompileError} {j : Nat} (ends : outcome r i = some (.error e, j)) (onward : i ≤ j)
      (inside : j ≤ tokens.length) (placed : IsPlace eol tokens e.pos) :
      Follows eol tokens i r (.error e)

section Moves

variable {α : Type} {eol i : Nat} {kind : TokenKind} {t : Token} {tokens ts later : List Token}

@[simp] theorem outcome_pure (a : α) (i : Nat) : outcome (pure a) i = some (.ok a, i) := rfl

@[simp] theorem outcome_throw (e : CompileError) (i : Nat) :
    outcome (throw e : Reader α) i = some (.error e, i) := rfl

@[simp] theorem outcome_lift (x : Except CompileError α) (i : Nat) :
    outcome (liftM x) i = some (x, i) := by
  cases x <;> rfl

@[simp] theorem outcome_bind {β : Type} (r : Reader α) (k : α → Reader β) (i : Nat) :
    outcome (r >>= k) i = (outcome r i).bind fun
      | (.ok a, j) => outcome (k a) j
      | (.error e, j) => some (.error e, j) := by
  unfold outcome
  rw [ExceptT.run_bind, StateT.run_bind]
  cases hr : r.run.run i with
  | none => rfl
  | some result =>
      obtain ⟨x, j⟩ := result
      cases x <;> rfl

theorem outcome_peek (h : Before tokens i ts) :
    outcome (peek tokens) i = some (.ok ts.head?, i) := by
  rw [← h.head?]
  rfl

theorem outcome_place (h : Before tokens i ts) :
    outcome (place eol tokens) i = some (.ok (posOf eol ts), i) := by
  have hplace : (tokens[i]?.map Token.pos).getD eol = posOf eol ts := by
    rw [h.head?]
    cases ts <;> rfl
  rw [← hplace]
  rfl

theorem outcome_stands {taken : Taken Unit ts} (h : Before tokens i ts)
    (hEat : eat? kind ts = some taken) : outcome (stands tokens kind) i = some (.ok true, i) := by
  obtain ⟨t, hts, rfl⟩ := Expr.eq_cons_of_eat? hEat
  unfold stands
  rw [outcome_bind, outcome_peek h, hts]
  simp

theorem outcome_stands_other (h : Before tokens i ts) (other : eat? kind ts = none) :
    outcome (stands tokens kind) i = some (.ok false, i) := by
  have hkind : ts.head?.map Token.kind ≠ some kind := by
    cases ts with
    | nil => nofun
    | cons t later =>
        intro heq
        simp [eat?, Option.some.inj heq] at other
  unfold stands
  rw [outcome_bind, outcome_peek h]
  change some (Except.ok (decide (ts.head?.map Token.kind = some kind)), i) = _
  rw [decide_eq_false hkind]

theorem outcome_advance (h : Before tokens i (t :: later)) :
    outcome (advance tokens) i = some (.ok (some t), i + 1) := by
  unfold advance
  rw [outcome_bind, outcome_peek h]
  rfl

theorem outcome_advance_end (h : Before tokens i []) :
    outcome (advance tokens) i = some (.ok none, i) := by
  unfold advance
  rw [outcome_bind, outcome_peek h]
  rfl

theorem outcome_eat {taken : Taken Unit ts} (h : Before tokens i ts)
    (hEat : eat? kind ts = some taken) : outcome (eat tokens kind) i = some (.ok true, i + 1) := by
  unfold eat
  rw [outcome_bind, outcome_stands h hEat]
  rfl

theorem outcome_eat_other (h : Before tokens i ts) (other : eat? kind ts = none) :
    outcome (eat tokens kind) i = some (.ok false, i) := by
  unfold eat
  rw [outcome_bind, outcome_stands_other h other]
  rfl

end Moves

section Combinators

variable {α β ρ σ : Type} {eol i j : Nat} {tokens ts : List Token} {r : Reader α}
  {k : α → Reader β} {y : Except CompileError (β × List Token)}

theorem Follows.after {a : α} (h : Follows eol tokens j (k a) y)
    (ends : outcome r i = some (.ok a, j)) (onward : i ≤ j) : Follows eol tokens i (r >>= k) y := by
  have hbind : outcome (r >>= k) i = outcome (k a) j := by
    rw [outcome_bind, ends]
    rfl
  cases h with
  | ok ends' onward' before => exact .ok (hbind.trans ends') (Nat.le_trans onward onward') before
  | error ends' onward' inside placed =>
      exact .error (hbind.trans ends') (Nat.le_trans onward onward') inside placed

/-- A followed reader comes to an end, among the tokens. -/
theorem Follows.returns {x : Except CompileError (α × List Token)} (h : Follows eol tokens i r x) :
    ∃ j, outcome r i = some (x.map Prod.fst, j) ∧ i ≤ j ∧ j ≤ tokens.length := by
  cases h with
  | ok ends onward before => exact ⟨_, ends, onward, before.inside⟩
  | error ends onward inside placed => exact ⟨_, ends, onward, inside⟩

/-- A followed reader that leaves fewer tokens moves the cursor onward. -/
theorem Follows.progresses {a : α} {rest : List Token} (h : Follows eol tokens i r (.ok (a, rest)))
    (start : Before tokens i ts) (shorter : rest.length < ts.length) :
    ∃ j, outcome r i = some (.ok a, j) ∧ i < j ∧ Before tokens j rest := by
  cases h with
  | @ok _ j _ ends onward before =>
      refine ⟨j, ends, ?_, before⟩
      rw [← before.left, ← start.left, List.length_drop, List.length_drop] at shorter
      omega

theorem Follows.placed {e : CompileError} (h : Follows eol tokens i r (.error e)) :
    IsPlace eol tokens e.pos := by
  cases h with
  | error ends onward inside placed => exact placed

theorem follows_pure {a : α} (h : Before tokens i ts) :
    Follows eol tokens i (pure a) (.ok (a, ts)) := .ok (outcome_pure a i) (Nat.le_refl _) h

theorem follows_throw {e : CompileError} (h : Before tokens i ts) (placed : IsPlace eol tokens e.pos) :
    Follows eol tokens i (throw e : Reader α) (.error e) :=
  .error (outcome_throw e i) (Nat.le_refl _) h.inside placed

/-- A reader that goes on with what another one has read. -/
theorem follows_bind {x : Except CompileError ρ} {k' : ρ → Except CompileError σ}
    {p : ρ → α × List Token} {q : σ → β × List Token} (hr : Follows eol tokens i r (x.map p))
    (hk : ∀ t j, Before tokens j (p t).2 → Follows eol tokens j (k (p t).1) ((k' t).map q)) :
    Follows eol tokens i (r >>= k) ((x >>= k').map q) := by
  cases x with
  | ok t =>
      have hr' : Follows eol tokens i r (.ok ((p t).1, (p t).2)) := hr
      cases hr' with
      | ok ends onward before => exact (hk t _ before).after ends onward
  | error e =>
      cases hr with
      | error ends onward inside placed =>
          refine .error ?_ onward inside placed
          rw [outcome_bind, ends]
          rfl

/-- A reader that hands on what another one has read and left. -/
theorem follows_last {x : Except CompileError ρ} {k' : ρ → Except CompileError σ}
    {p : ρ → α × List Token} {q : σ → α × List Token} (hr : Follows eol tokens i r (x.map p))
    (hk : ∀ t, (k' t).map q = .ok (p t)) : Follows eol tokens i r ((x >>= k').map q) := by
  have hsame : (x >>= k').map q = x.map p := by
    cases x with
    | ok t => exact hk t
    | error e => rfl
  rw [hsame]
  exact hr

/-- A check that moves nothing. -/
theorem follows_check {x : Except CompileError α} {k' : α → Except CompileError σ}
    {q : σ → β × List Token} (h : Before tokens i ts)
    (placed : ∀ e, x = .error e → IsPlace eol tokens e.pos)
    (hk : ∀ a, x = .ok a → Follows eol tokens i (k a) ((k' a).map q)) :
    Follows eol tokens i (liftM x >>= k) ((x >>= k').map q) := by
  have ends := outcome_lift x i
  cases x with
  | ok a => exact (hk a rfl).after ends (Nat.le_refl _)
  | error e =>
      refine .error ?_ (Nat.le_refl _) h.inside (placed e rfl)
      rw [outcome_bind, ends]
      rfl

/-- A choice that both readers make. -/
theorem follows_ite {c : Prop} [Decidable c] {a b : Reader β} {x x' : Except CompileError σ}
    {q : σ → β × List Token} (ha : c → Follows eol tokens i a (x.map q))
    (hb : ¬ c → Follows eol tokens i b (x'.map q)) :
    Follows eol tokens i (if c then a else b) ((if c then x else x').map q) := by
  split
  · next h => exact ha h
  · next h => exact hb h

variable {kind : TokenKind} {s : Sign} {what : String} {t : Token} {later : List Token}
  {a b : Reader β}

theorem follows_peek {k : Option Token → Reader β} (h : Before tokens i ts)
    (hk : Follows eol tokens i (k ts.head?) y) : Follows eol tokens i (peek tokens >>= k) y :=
  hk.after (outcome_peek h) (Nat.le_refl _)

theorem follows_place {k : Nat → Reader β} (h : Before tokens i ts)
    (hk : Follows eol tokens i (k (posOf eol ts)) y) :
    Follows eol tokens i (place eol tokens >>= k) y :=
  hk.after (outcome_place h) (Nat.le_refl _)

theorem follows_advance {k : Option Token → Reader β} (h : Before tokens i (t :: later))
    (hk : Before tokens (i + 1) later → Follows eol tokens (i + 1) (k (some t)) y) :
    Follows eol tokens i (advance tokens >>= k) y :=
  (hk h.next).after (outcome_advance h) (Nat.le_succ i)

theorem follows_stands {taken : Taken Unit ts} (h : Before tokens i ts)
    (hEat : eat? kind ts = some taken) (ha : Follows eol tokens i a y) :
    Follows eol tokens i (stands tokens kind >>= fun found => if found = true then a else b) y :=
  Follows.after ha (outcome_stands h hEat) (Nat.le_refl _)

theorem follows_stands_other (h : Before tokens i ts) (other : eat? kind ts = none)
    (hb : Follows eol tokens i b y) :
    Follows eol tokens i (stands tokens kind >>= fun found => if found = true then a else b) y :=
  Follows.after hb (outcome_stands_other h other) (Nat.le_refl _)

theorem follows_eat {taken : Taken Unit ts} (h : Before tokens i ts)
    (hEat : eat? kind ts = some taken)
    (ha : Before tokens (i + 1) taken.rest → Follows eol tokens (i + 1) a y) :
    Follows eol tokens i (eat tokens kind >>= fun found => if found = true then a else b) y :=
  Follows.after (ha (h.taken hEat)) (outcome_eat h hEat) (Nat.le_succ i)

theorem follows_eat_other (h : Before tokens i ts) (other : eat? kind ts = none)
    (hb : Follows eol tokens i b y) :
    Follows eol tokens i (eat tokens kind >>= fun found => if found = true then a else b) y :=
  Follows.after hb (outcome_eat_other h other) (Nat.le_refl _)

theorem outcome_expect {taken : Taken Unit ts} (h : Before tokens i ts)
    (hEat : eat? (.sign s) ts = some taken) :
    outcome (expect eol tokens s what) i = some (.ok (), i + 1) := by
  unfold expect
  rw [outcome_bind, outcome_eat h hEat]
  rfl

theorem follows_expect {k' : Taken Unit ts → Except CompileError σ} {q : σ → β × List Token}
    {k : Unit → Reader β} (h : Before tokens i ts)
    (hk : ∀ taken, Before tokens (i + 1) taken.rest →
      Follows eol tokens (i + 1) (k ()) ((k' taken).map q)) :
    Follows eol tokens i (expect eol tokens s what >>= k)
      ((expectSign eol s what ts >>= k').map q) := by
  unfold expectSign
  split
  · next taken hEat =>
      exact (hk taken (h.taken hEat)).after (outcome_expect h hEat) (Nat.le_succ i)
  · next hother =>
      have hends : outcome (expect eol tokens s what) i =
          some (.error (expectedError eol what ts), i) := by
        unfold expect
        rw [outcome_bind, outcome_eat_other h hother]
        change outcome (peek tokens >>= _) i = _
        rw [outcome_bind, outcome_peek h]
        change outcome (place eol tokens >>= _) i = _
        rw [outcome_bind, outcome_place h]
        rfl
      refine .error ?_ (Nat.le_refl _) h.inside h.isPlace
      rw [outcome_bind, hends]
      rfl

end Combinators

/-- A reader follows wherever certain tokens are left, if its calls may go deeper than `limit`. -/
def Tracks {α : Type} (eol : Nat) (tokens : List Token) (limit : Nat) (r : Nat → Reader α)
    (ts : List Token) (x : Except CompileError (α × List Token)) : Prop :=
  ∀ i depth, Before tokens i ts → limit < depth → Follows eol tokens i (r depth) x

theorem tracks_of_succ {α : Type} {eol limit : Nat} {tokens ts : List Token} {r : Nat → Reader α}
    {x : Except CompileError (α × List Token)}
    (h : ∀ i depth, Before tokens i ts → limit ≤ depth → Follows eol tokens i (r (depth + 1)) x) :
    Tracks eol tokens limit r ts x := by
  intro i depth hbefore hlimit
  cases depth with
  | zero => exact absurd hlimit (Nat.not_lt_zero limit)
  | succ depth => exact h i depth hbefore (Nat.le_of_lt_succ hlimit)

/-! ## Readers whose calls may go deeper -/

/-- Every outcome of the first reader is one of the second reader. -/
def Extends {α : Type} (r r' : Reader α) : Prop :=
  ∀ i result, outcome r i = some result → outcome r' i = some result

section Extensions

variable {α β : Type} {r r' : Reader α}

theorem extends_refl (r : Reader α) : Extends r r := fun _ _ h => h

theorem extends_tooDeep (r : Reader α) : Extends tooDeep r := nofun

theorem extends_bind {k k' : α → Reader β} (hr : Extends r r') (hk : ∀ a, Extends (k a) (k' a)) :
    Extends (r >>= k) (r' >>= k') := by
  intro i result h
  rw [outcome_bind] at h ⊢
  cases hread : outcome r i with
  | none =>
      rw [hread] at h
      cases h
  | some read =>
      rw [hread] at h
      rw [hr i read hread]
      obtain ⟨x, j⟩ := read
      cases x with
      | ok a => exact hk a j result h
      | error e => exact h

theorem extends_ite {c : Prop} [Decidable c] {a a' b b' : Reader β} (ha : Extends a a')
    (hb : Extends b b') : Extends (if c then a else b) (if c then a' else b') := by
  split
  · exact ha
  · exact hb

/-- A reader that goes on with what a move of the cursor has found. -/
theorem extends_behind {k k' : α → Reader β} (hk : ∀ a, Extends (k a) (k' a)) :
    Extends (r >>= k) (r >>= k') := extends_bind (extends_refl r) hk

end Extensions

/-! ## Expressions -/

section Exprs

open LineBasic.Expr

theorem placed_requireNumber {i eol : Nat} {tokens ts : List Token} (h : Before tokens i ts)
    (arg : Expr) :
    ∀ e, requireNumber arg (posOf eol ts) = .error e → IsPlace eol tokens e.pos := by
  intro e he
  unfold requireNumber at he
  split at he <;> cases he
  exact h.isPlace

theorem placed_combine {i eol : Nat} {tokens ts : List Token} (h : Before tokens i ts)
    (op : BinaryOp) (lhs rhs : Expr) :
    ∀ e, combine op lhs rhs (posOf eol ts) = .error e → IsPlace eol tokens e.pos := by
  intro e he
  unfold combine at he
  split at he <;> cases he
  exact h.isPlace

/-- An operand behind a sign or a `NOT` has to be a number. -/
theorem follows_numeric {i j eol : Nat} {tokens ts later : List Token} {r : Reader Expr}
    {x : Except CompileError (Taken Expr later)} {make : Expr → Expr}
    {build : Taken Expr later → Taken Expr ts} (h : Before tokens i ts)
    (hr : Follows eol tokens j r (x.map Taken.toPair))
    (hbuild : ∀ arg, (build arg).toPair = (make arg.value, arg.rest)) :
    Follows eol tokens j
      (r >>= fun arg => liftM (requireNumber arg (posOf eol ts)) >>= fun _ => pure (make arg))
      ((x >>= fun arg => requireNumber arg.value (posOf eol ts) >>= fun _ =>
        pure (build arg)).map Taken.toPair) := by
  refine follows_bind hr fun arg k hk => ?_
  refine follows_check hk (placed_requireNumber h _) fun _ _ => ?_
  change Follows eol tokens k _ (.ok (build arg).toPair)
  rw [hbuild]
  exact follows_pure hk

theorem follows_operand {i eol depth : Nat} {t : Token} {tokens later : List Token}
    {y : Except CompileError (Expr × List Token)} (h : Before tokens i (t :: later))
    (hk : Before tokens (i + 1) later → Follows eol tokens (i + 1)
      (operandFrom eol tokens (level eol tokens depth BinaryOp.topLevel)
        (arguments eol tokens depth) t.kind t.pos) y) :
    Follows eol tokens i (operand eol tokens (depth + 1)) y := by
  rw [operand]
  exact follows_place h (follows_advance h hk)

/-- The readers of expressions end as those that hand on tokens, off fewer than `bound` tokens, if calls
may go sixteen deep for every token, and some more that depend on where the reading begins. -/
structure ExprsTrack (eol : Nat) (tokens : List Token) (bound : Nat) : Prop where
  level (n : Nat) (ts : List Token) (fewer : ts.length < bound) :
    Tracks eol tokens (ts.length * 16 + (n + 4)) (level eol tokens · n) ts
      ((parseLevel eol n ts).map Taken.toPair)
  chain (below : Nat) (lhs : Expr) (ts : List Token) (fewer : ts.length < bound) :
    Tracks eol tokens (ts.length * 16 + (below + 4)) (chain eol tokens · below lhs) ts
      ((parseChain eol below lhs ts).map TakenUpTo.toPair)
  signed (ts : List Token) (fewer : ts.length < bound) :
    Tracks eol tokens (ts.length * 16 + 3) (signed eol tokens) ts
      ((parseSigned eol ts).map Taken.toPair)
  powers (lhs : Expr) (ts : List Token) (fewer : ts.length < bound) :
    Tracks eol tokens (ts.length * 16 + 3) (powers eol tokens · lhs) ts
      ((parsePowers eol lhs ts).map TakenUpTo.toPair)
  exponent (ts : List Token) (fewer : ts.length < bound) :
    Tracks eol tokens (ts.length * 16 + 2) (exponent eol tokens) ts
      ((parseExponent eol ts).map Taken.toPair)
  arguments (f : Builtin) (ts : List Token) (fewer : ts.length < bound) :
    Tracks eol tokens (ts.length * 16 + 14) (arguments eol tokens · f) ts
      ((parseArguments eol f ts).map TakenUpTo.toPair)
  argumentsFrom (f : Builtin) (index : Nat) (ts : List Token) (fewer : ts.length < bound) :
    Tracks eol tokens (ts.length * 16 + 13) (argumentsFrom eol tokens · f index) ts
      ((parseArgumentsFrom eol f index ts).map Taken.toPair)

section Readers

variable {eol : Nat} {t : Token} {tokens ts later : List Token}

/-- A name is a variable, or a call if a parenthesis follows. -/
theorem tracks_name {name : String} (behind : ExprsTrack eol tokens (t :: later).length)
    (hkind : t.kind = .name name) :
    Tracks eol tokens ((t :: later).length * 16 + 1) (operand eol tokens) (t :: later)
      ((parseOperand eol (t :: later)).map Taken.toPair) := by
  refine tracks_of_succ fun i depth h hdepth => ?_
  rw [List.length_cons] at hdepth
  refine follows_operand h fun hnext => ?_
  rw [parseOperand, hkind]
  dsimp only
  cases hEat : eat? (.sign .leftParen) later with
  | none => exact follows_stands_other hnext hEat (follows_pure hnext)
  | some paren =>
      refine follows_stands hnext hEat ?_
      rw [call]
      cases hknown : Builtin.ofName? (Text.asciiLower name) with
      | none => exact follows_throw hnext h.isPlace
      | some f =>
          have hshorter := paren.shorter
          refine Follows.after ?_ (outcome_expect hnext hEat) (Nat.le_succ _)
          refine follows_bind (behind.arguments f paren.rest (Nat.lt_succ_of_lt hshorter) _ depth
            (hnext.taken hEat) (by omega)) fun args j hj => ?_
          refine follows_expect hj fun close hclose => ?_
          exact follows_ite (fun _ => follows_pure hclose) fun _ => follows_throw hclose h.isPlace

theorem tracks_operand (behind : ExprsTrack eol tokens ts.length) :
    Tracks eol tokens (ts.length * 16 + 1) (operand eol tokens) ts
      ((parseOperand eol ts).map Taken.toPair) := by
  cases ts with
  | nil =>
      refine tracks_of_succ fun i depth h _ => ?_
      rw [parseOperand, operand]
      refine follows_place h ?_
      refine Follows.after ?_ (outcome_advance_end h) (Nat.le_refl i)
      exact follows_throw h h.isPlace
  | cons t later =>
      cases hkind : t.kind with
      | name name => exact tracks_name behind hkind
      | number | text =>
          refine tracks_of_succ fun i depth h _ => follows_operand h fun hnext => ?_
          rw [parseOperand, hkind]
          exact follows_pure hnext
      | keyword k =>
          refine tracks_of_succ fun i depth h _ => follows_operand h fun hnext => ?_
          rw [parseOperand, hkind]
          exact follows_throw hnext h.isPlace
      | sign s =>
          refine tracks_of_succ fun i depth h hdepth => follows_operand h fun hnext => ?_
          rw [List.length_cons] at hdepth
          rw [parseOperand, hkind]
          cases s with
          | leftParen =>
              refine follows_bind (behind.level BinaryOp.topLevel later (Nat.lt_succ_self _) _ depth
                hnext (by simp only [BinaryOp.topLevel]; omega)) fun e j hj => ?_
              exact follows_expect hj fun close hclose => follows_pure hclose
          | _ => exact follows_throw hnext h.isPlace

theorem tracks_exponent (behind : ExprsTrack eol tokens ts.length) :
    Tracks eol tokens (ts.length * 16 + 2) (exponent eol tokens) ts
      ((parseExponent eol ts).map Taken.toPair) := by
  refine tracks_of_succ fun i depth h hdepth => ?_
  rw [parseExponent, exponent]
  refine follows_place h ?_
  cases hEat : eat? (.sign .minus) ts with
  | some minus =>
      have hshorter := minus.shorter
      refine follows_eat h hEat fun hnext => ?_
      exact follows_numeric h (behind.exponent _ hshorter _ depth hnext (by omega)) fun _ => rfl
  | none => exact follows_eat_other h hEat (tracks_operand behind i depth h (by omega))

theorem tracks_powers (lhs : Expr) (behind : ExprsTrack eol tokens ts.length) :
    Tracks eol tokens (ts.length * 16 + 3) (powers eol tokens · lhs) ts
      ((parsePowers eol lhs ts).map TakenUpTo.toPair) := by
  refine tracks_of_succ fun i depth h hdepth => ?_
  rw [parsePowers, powers]
  refine follows_place h ?_
  cases hEat : eat? (.sign .caret) ts with
  | some caret =>
      have hshorter := caret.shorter
      refine follows_eat h hEat fun hnext => ?_
      refine follows_bind (behind.exponent _ hshorter _ depth hnext (by omega)) fun rhs j hj => ?_
      have hrhs := rhs.shorter
      refine follows_check hj (placed_combine h .pow lhs _) fun e _ => ?_
      exact follows_last (behind.powers e _ (Nat.lt_trans hrhs hshorter) j depth hj (by omega))
        fun _ => rfl
  | none => exact follows_eat_other h hEat (follows_pure h)

theorem tracks_signed (behind : ExprsTrack eol tokens ts.length) :
    Tracks eol tokens (ts.length * 16 + 3) (signed eol tokens) ts
      ((parseSigned eol ts).map Taken.toPair) := by
  refine tracks_of_succ fun i depth h hdepth => ?_
  rw [parseSigned, signed]
  refine follows_place h ?_
  cases hEat : eat? (.sign .minus) ts with
  | some minus =>
      have hshorter := minus.shorter
      refine follows_eat h hEat fun hnext => ?_
      exact follows_numeric h (behind.signed _ hshorter _ depth hnext (by omega)) fun _ => rfl
  | none =>
      refine follows_eat_other h hEat ?_
      dsimp only
      cases hEat' : eat? (.sign .plus) ts with
      | some plus =>
          have hshorter := plus.shorter
          refine follows_eat h hEat' fun hnext => ?_
          exact follows_numeric h (behind.signed _ hshorter _ depth hnext (by omega)) fun _ => rfl
      | none =>
          refine follows_eat_other h hEat' ?_
          refine follows_bind (tracks_operand behind i depth h (by omega)) fun lhs j hj => ?_
          have hshorter := lhs.shorter
          exact follows_last (behind.powers _ _ hshorter j depth hj (by omega)) fun _ => rfl

theorem tracks_chain (below : Nat) (lhs : Expr) (behind : ExprsTrack eol tokens ts.length) :
    Tracks eol tokens (ts.length * 16 + (below + 4)) (chain eol tokens · below lhs) ts
      ((parseChain eol below lhs ts).map TakenUpTo.toPair) := by
  refine tracks_of_succ fun i depth h hdepth => ?_
  cases ts with
  | nil =>
      rw [parseChain, chain]
      exact follows_peek h (follows_pure h)
  | cons t later =>
      rw [List.length_cons] at hdepth
      rw [parseChain, chain]
      refine follows_peek h ?_
      dsimp only [List.head?_cons]
      cases BinaryOp.ofToken (below + 1) t.kind with
      | none => exact follows_pure h
      | some op =>
          refine follows_place h (follows_advance h fun hnext => ?_)
          refine follows_bind (behind.level below later (Nat.lt_succ_self _) _ depth hnext (by omega))
            fun rhs j hj => ?_
          have hshorter := rhs.shorter
          refine follows_check hj (placed_combine h op lhs _) fun e _ => ?_
          exact follows_last (behind.chain below e _ (Nat.lt_succ_of_lt hshorter) j depth hj (by omega))
            fun _ => rfl

/-- A level is read off the same tokens as the level below it, one call deeper. -/
theorem tracks_level (n : Nat) (behind : ExprsTrack eol tokens ts.length) :
    Tracks eol tokens (ts.length * 16 + (n + 4)) (level eol tokens · n) ts
      ((parseLevel eol n ts).map Taken.toPair) := by
  induction n with
  | zero =>
      refine tracks_of_succ fun i depth h hdepth => ?_
      rw [parseLevel, level]
      exact tracks_signed behind i depth h (by omega)
  | succ below ih =>
      refine tracks_of_succ fun i depth h hdepth => ?_
      rw [parseLevel, level]
      refine follows_ite (fun _ => follows_place h ?_) fun _ => ?_
      · cases hEat : eat? (.keyword .not) ts with
        | some word =>
            have hshorter := word.shorter
            refine follows_eat h hEat fun hnext => ?_
            exact follows_numeric h (behind.level _ _ hshorter _ depth hnext (by omega)) fun _ => rfl
        | none => exact follows_eat_other h hEat (ih i depth h (by omega))
      · refine follows_bind (ih i depth h (by omega)) fun lhs j hj => ?_
        have hshorter := lhs.shorter
        exact follows_last (behind.chain below _ _ hshorter j depth hj (by omega)) fun e => rfl

theorem tracks_argumentsFrom (f : Builtin) (index : Nat)
    (behind : ExprsTrack eol tokens ts.length) :
    Tracks eol tokens (ts.length * 16 + 13) (argumentsFrom eol tokens · f index) ts
      ((parseArgumentsFrom eol f index ts).map Taken.toPair) := by
  refine tracks_of_succ fun i depth h hdepth => ?_
  rw [parseArgumentsFrom, argumentsFrom]
  refine follows_place h ?_
  refine follows_bind (tracks_level BinaryOp.topLevel behind i depth h
    (by simp only [BinaryOp.topLevel]; omega)) fun arg j hj => ?_
  have hshorter := arg.shorter
  refine follows_ite (fun _ => follows_throw hj h.isPlace) fun _ => ?_
  cases hEat : eat? (.sign .comma) arg.rest with
  | some comma =>
      have hcomma := comma.shorter
      refine follows_eat hj hEat fun hnext => ?_
      exact follows_bind (behind.argumentsFrom f _ _ (Nat.lt_trans hcomma hshorter) _ depth hnext
        (by omega)) fun args k hk => follows_pure hk
  | none => exact follows_eat_other hj hEat (follows_pure hj)

theorem tracks_arguments (f : Builtin) (behind : ExprsTrack eol tokens ts.length) :
    Tracks eol tokens (ts.length * 16 + 14) (arguments eol tokens · f) ts
      ((parseArguments eol f ts).map TakenUpTo.toPair) := by
  refine tracks_of_succ fun i depth h hdepth => ?_
  rw [parseArguments, arguments]
  cases hEat : eat? (.sign .rightParen) ts with
  | some paren => exact follows_stands h hEat (follows_pure h)
  | none =>
      refine follows_stands_other h hEat ?_
      exact follows_last (tracks_argumentsFrom f 0 behind i depth h (by omega)) fun _ => rfl

end Readers

/-- All readers of expressions end as the first ones, by induction on the number of tokens. -/
theorem exprsTrack (eol : Nat) (tokens : List Token) (bound : Nat) : ExprsTrack eol tokens bound := by
  induction bound using Nat.strongRecOn with
  | ind bound ih => exact {
      level := fun n ts fewer => tracks_level n (ih _ fewer)
      chain := fun below lhs ts fewer => tracks_chain below lhs (ih _ fewer)
      signed := fun ts fewer => tracks_signed (ih _ fewer)
      powers := fun lhs ts fewer => tracks_powers lhs (ih _ fewer)
      exponent := fun ts fewer => tracks_exponent (ih _ fewer)
      arguments := fun f ts fewer => tracks_arguments f (ih _ fewer)
      argumentsFrom := fun f index ts fewer => tracks_argumentsFrom f index (ih _ fewer) }

theorem follows_expression {eol depth i : Nat} {tokens ts : List Token} (h : Before tokens i ts)
    (hdepth : ts.length * 16 + 12 < depth) :
    Follows eol tokens i (expression eol tokens depth) ((parse eol ts).map Taken.toPair) :=
  tracks_level BinaryOp.topLevel (exprsTrack eol tokens ts.length) i depth h hdepth

end Exprs

section Depths

variable {eol depth deeper start : Nat} {tokens : List Token} {inner inner' : Reader Expr}
  {args args' : Builtin → Reader (List Expr)}

theorem extends_call (hargs : ∀ f, Extends (args f) (args' f)) (name : String) :
    Extends (call eol tokens args name start) (call eol tokens args' name start) := by
  unfold call
  cases Builtin.ofName? (Text.asciiLower name) with
  | none => exact extends_refl _
  | some f => exact extends_behind fun _ => extends_bind (hargs f) fun _ => extends_refl _

theorem extends_operandFrom (hinner : Extends inner inner')
    (hargs : ∀ f, Extends (args f) (args' f)) (kind : TokenKind) :
    Extends (operandFrom eol tokens inner args kind start)
      (operandFrom eol tokens inner' args' kind start) := by
  unfold operandFrom
  split
  · exact extends_refl _
  · exact extends_refl _
  · exact extends_behind fun _ => extends_ite (extends_call hargs _) (extends_refl _)
  · exact extends_bind hinner fun _ => extends_refl _
  · exact extends_refl _

/-- The readers of expressions keep their outcomes if calls may go deeper. -/
structure ExprsExtend (eol : Nat) (tokens : List Token) (depth deeper : Nat) : Prop where
  level (n : Nat) : Extends (level eol tokens depth n) (level eol tokens deeper n)
  chain (below : Nat) (lhs : Expr) :
    Extends (chain eol tokens depth below lhs) (chain eol tokens deeper below lhs)
  signed : Extends (signed eol tokens depth) (signed eol tokens deeper)
  powers (lhs : Expr) : Extends (powers eol tokens depth lhs) (powers eol tokens deeper lhs)
  exponent : Extends (exponent eol tokens depth) (exponent eol tokens deeper)
  operand : Extends (operand eol tokens depth) (operand eol tokens deeper)
  arguments (f : Builtin) :
    Extends (arguments eol tokens depth f) (arguments eol tokens deeper f)
  argumentsFrom (f : Builtin) (index : Nat) :
    Extends (argumentsFrom eol tokens depth f index) (argumentsFrom eol tokens deeper f index)

theorem extends_exprs (hle : depth ≤ deeper) : ExprsExtend eol tokens depth deeper := by
  induction depth generalizing deeper with
  | zero =>
      exact {
        level := fun _ => extends_tooDeep _
        chain := fun _ _ => extends_tooDeep _
        signed := extends_tooDeep _
        powers := fun _ => extends_tooDeep _
        exponent := extends_tooDeep _
        operand := extends_tooDeep _
        arguments := fun _ => extends_tooDeep _
        argumentsFrom := fun _ _ => extends_tooDeep _ }
  | succ depth ih =>
      obtain ⟨deeper, rfl⟩ := Nat.exists_eq_add_one.2 (Nat.zero_lt_of_lt hle)
      have inner : ExprsExtend eol tokens depth deeper := ih (Nat.le_of_succ_le_succ hle)
      refine {
        level := fun n => ?level
        chain := fun below lhs => ?chain
        signed := ?signed
        powers := fun lhs => ?powers
        exponent := ?exponent
        operand := ?operand
        arguments := fun f => ?arguments
        argumentsFrom := fun f index => ?further }
      case level =>
        cases n with
        | zero =>
            rw [level, level]
            exact inner.signed
        | succ below =>
            rw [level, level]
            refine extends_ite ?_ ?_
            · refine extends_behind fun _ => extends_behind fun _ => extends_ite ?_ (inner.level below)
              exact extends_bind (inner.level _) fun _ => extends_refl _
            · exact extends_bind (inner.level below) fun lhs => inner.chain below lhs
      case chain =>
        rw [chain, chain]
        refine extends_behind fun head => ?_
        cases head with
        | none => exact extends_refl _
        | some t =>
            dsimp only
            cases BinaryOp.ofToken (below + 1) t.kind with
            | none => exact extends_refl _
            | some op =>
                refine extends_behind fun _ => extends_behind fun _ => ?_
                refine extends_bind (inner.level below) fun _ => extends_behind fun e => ?_
                exact inner.chain below e
      case signed =>
        rw [signed, signed]
        refine extends_behind fun _ => extends_behind fun _ => extends_ite ?_ ?_
        · exact extends_bind inner.signed fun _ => extends_refl _
        · refine extends_behind fun _ => extends_ite ?_ ?_
          · exact extends_bind inner.signed fun _ => extends_refl _
          · exact extends_bind inner.operand fun lhs => inner.powers lhs
      case powers =>
        rw [powers, powers]
        refine extends_behind fun _ => extends_behind fun _ => extends_ite ?_ ?_
        · exact extends_bind inner.exponent fun _ => extends_behind fun e => inner.powers e
        · exact extends_refl _
      case exponent =>
        rw [exponent, exponent]
        refine extends_behind fun _ => extends_behind fun _ => extends_ite ?_ inner.operand
        exact extends_bind inner.exponent fun _ => extends_refl _
      case operand =>
        rw [operand, operand]
        refine extends_behind fun _ => extends_behind fun head => ?_
        cases head with
        | none => exact extends_refl _
        | some t => exact extends_operandFrom (inner.level _) inner.arguments t.kind
      case arguments =>
        rw [arguments, arguments]
        exact extends_behind fun _ => extends_ite (extends_refl _) (inner.argumentsFrom f 0)
      case further =>
        rw [argumentsFrom, argumentsFrom]
        refine extends_behind fun _ => extends_bind (inner.level _) fun _ => ?_
        refine extends_ite (extends_refl _) (extends_behind fun _ => extends_ite ?_ (extends_refl _))
        exact extends_bind (inner.argumentsFrom f _) fun _ => extends_refl _

theorem extends_expression (hle : depth ≤ deeper) :
    Extends (expression eol tokens depth) (expression eol tokens deeper) :=
  (extends_exprs hle).level BinaryOp.topLevel

end Depths

end Cursor

end LineBasic
