import LineBasic.Proofs.CursorLines

/-!
# All readers of a line come to an end

What was shown of the readers with a cursor, put together: none of them goes on for ever, wherever it
starts, and what an expression, a statement or a branch is read from is never empty.  Deeper calls change
no outcome, so the outcome at a depth that is enough is the one that a reader without any bound has.

## Main definitions

* `Cursor.Returns`, `Cursor.Progresses`: a reader comes to an end, and takes a token if it reads something.
* `Cursor.ReadersReturn`: all readers of a line do so.

## Main results

* `Cursor.readersReturn`: all readers of a line come to an end.
* `compile_returns`: what is read takes tokens, and every source is compiled or refused at a place in it.
-/

namespace LineBasic

namespace Cursor

/-! ## Progress and ends -/

/-- A reader comes to an end wherever it starts, if its calls may go deep enough.  The cursor has not gone
back then, and stands at a token or behind the last. -/
def Returns {α : Type} (tokens : List Token) (r : Nat → Reader α) : Prop :=
  ∀ i, i ≤ tokens.length → ∃ x j, i ≤ j ∧ j ≤ tokens.length ∧
    ∀ depth, enough tokens.length ≤ depth → outcome (r depth) i = some (x, j)

/-- What a reader reads takes a token. -/
def Progresses {α : Type} (tokens : List Token) (r : Nat → Reader α) : Prop :=
  ∀ depth i a j, i ≤ tokens.length → outcome (r depth) i = some (.ok a, j) → i < j

/-- What is left is less than the tokens by some at their head. -/
def Uses (ts rest : List Token) : Prop := ∃ used, used ≠ [] ∧ ts = used ++ rest

section Ends

variable {α : Type} {eol more : Nat} {tokens : List Token} {r : Nat → Reader α}
  {ρ : List Token → Type} {x : ∀ ts, Except CompileError (ρ ts)} {p : ∀ {ts}, ρ ts → α × List Token}

/-- A depth that is enough for all tokens is enough wherever a reader starts. -/
theorem Follows.of_tracks {i depth : Nat}
    (tracks : ∀ ts, Tracks eol tokens (ts.length * 16 + more) r ts ((x ts).map p))
    (hmore : more < 16) (hi : i ≤ tokens.length) (hdepth : enough tokens.length ≤ depth) :
    Follows eol tokens i (r depth) ((x (tokens.drop i)).map p) := by
  refine tracks _ i depth (before_drop hi) ?_
  unfold enough at hdepth
  rw [List.length_drop]
  omega

theorem returns_of_tracks
    (tracks : ∀ ts, Tracks eol tokens (ts.length * 16 + more) r ts ((x ts).map p))
    (hmore : more < 16) (grows : ∀ {depth deeper}, depth ≤ deeper → Extends (r depth) (r deeper)) :
    Returns tokens r := by
  intro i hi
  obtain ⟨j, hends, hle, hinside⟩ :=
    (Follows.of_tracks tracks hmore hi (Nat.le_refl (enough tokens.length))).returns
  exact ⟨_, j, hle, hinside, fun depth hdepth => grows hdepth i _ hends⟩

theorem progresses_of_tracks
    (tracks : ∀ ts, Tracks eol tokens (ts.length * 16 + more) r ts ((x ts).map p))
    (hmore : more < 16) (grows : ∀ {depth deeper}, depth ≤ deeper → Extends (r depth) (r deeper))
    (shorter : ∀ ts, Yields (fun t => (p t).2.length < ts.length) (x ts)) :
    Progresses tokens r := by
  intro depth i a j hi hread
  have hfollows := Follows.of_tracks tracks hmore hi (Nat.le_max_right depth (enough tokens.length))
  have hends := grows (Nat.le_max_left depth (enough tokens.length)) i _ hread
  cases hx : x (tokens.drop i) with
  | error e =>
      rw [hx] at hfollows
      obtain ⟨j', hends', -⟩ := hfollows.returns
      cases hends.symm.trans hends'
  | ok t =>
      rw [hx] at hfollows
      obtain ⟨j', hends', hlt, -⟩ :=
        Follows.progresses hfollows (before_drop hi) (shorter _ t hx)
      cases hends.symm.trans hends'
      exact hlt

theorem yields_uses
    (tracks : ∀ ts, Tracks eol tokens (ts.length * 16 + more) r ts ((x ts).map p))
    (shorter : ∀ ts, Yields (fun t => (p t).2.length < ts.length) (x ts)) :
    Yields (fun t => Uses tokens (p t).2) (x tokens) := by
  intro t ht
  have hfollows := tracks tokens 0 _ (before_zero tokens) (Nat.lt_succ_self _)
  rw [ht] at hfollows
  obtain ⟨j, -, hlt, hbefore⟩ :=
    Follows.progresses hfollows (before_zero tokens) (shorter tokens t ht)
  refine ⟨tokens.take j, ?_, ?_⟩
  · rw [← List.length_pos_iff, List.length_take]
    have hinside := hbefore.inside
    omega
  · rw [← hbefore.left, List.take_append_drop]

end Ends

/-- A list of statements that is not empty takes a token. -/
theorem yields_parseList_shorter (eol : Nat) (ts : List Token) :
    Yields (fun r => r.value ≠ [] → r.rest.length < ts.length) (Stmt.parseList eol ts) := by
  rw [Stmt.parseList]
  split
  · exact yields_ok fun hsome => absurd rfl hsome
  · next t later hskip =>
      have hle : (t :: later).length ≤ ts.length := hskip ▸ Stmt.length_skipColons_le ts
      split
      · exact yields_ok fun hsome => absurd rfl hsome
      · refine yields_bind (yields_any _) fun first _ => ?_
        have hshorter := Nat.lt_of_lt_of_le first.shorter hle
        dsimp only
        split
        · exact yields_ok fun _ => hshorter
        · split
          · exact yields_ok fun _ => Nat.lt_of_le_of_lt (Nat.zero_le _) hshorter
          · next u more hRest _ _ =>
              split
              · refine yields_bind (yields_any _) fun behind _ => ?_
                exact yields_pure fun _ => Nat.lt_of_le_of_lt behind.noLonger hRest
              · split
                · exact yields_ok fun _ => hRest
                · split
                  · exact yields_ok fun _ => Nat.lt_of_succ_lt hRest
                  · exact yields_error _

/-- A branch takes a token, as it is no empty list of statements. -/
theorem yields_parseBranch_shorter (eol : Nat) (ts : List Token) :
    Yields (fun r => r.rest.length < ts.length) (Stmt.parseBranch eol ts) := by
  rw [Stmt.parseBranch]
  split
  · exact yields_bind (yields_any _) fun n _ => yields_pure n.shorter
  · refine yields_bind (yields_parseList_shorter eol ts) fun body hbody => ?_
    dsimp only
    split
    · exact yields_error _
    · next hsome =>
        refine yields_pure (hbody fun hnil => hsome ?_)
        rw [hnil]
        rfl

/-- All readers of a line come to an end, and an expression, a statement or a branch takes a token. -/
structure ReadersReturn (eol : Nat) (tokens : List Token) : Prop where
  expression : Returns tokens (expression eol tokens) ∧ Progresses tokens (expression eol tokens)
  statement : Returns tokens (statement eol tokens) ∧ Progresses tokens (statement eol tokens)
  branch : Returns tokens (branch eol tokens) ∧ Progresses tokens (branch eol tokens)
  levels (n : Nat) (h : n ≤ BinaryOp.topLevel) : Returns tokens (level eol tokens · n)
  operators (below : Nat) (h : below < BinaryOp.topLevel) (lhs : Expr) :
    Returns tokens (chain eol tokens · below lhs)
  signs : Returns tokens (signed eol tokens)
  powers (lhs : Expr) : Returns tokens (powers eol tokens · lhs)
  exponents : Returns tokens (exponent eol tokens)
  operands : Returns tokens (operand eol tokens)
  arguments (f : Builtin) : Returns tokens (arguments eol tokens · f)
  further (f : Builtin) (index : Nat) : Returns tokens (argumentsFrom eol tokens · f index)
  assignment : Returns tokens (assignment eol tokens)
  items : Returns tokens (items eol tokens)
  colons : Returns tokens (skipColons tokens)
  statements : Returns tokens (statements eol tokens)
  conditional : Returns tokens (conditional eol tokens)
  thenBranch : Returns tokens (thenBranch eol tokens)
  numbers : Returns tokens fun _ => lineNumber eol tokens

theorem readersReturn (eol : Nat) (tokens : List Token) : ReadersReturn eol tokens := by
  have hexprs (bound : Nat) : ExprsTrack eol tokens bound := exprsTrack eol tokens bound
  have hstmts (bound : Nat) : StmtsTrack eol tokens bound := stmtsTrack eol tokens bound
  have hlevel (n : Nat) (ts : List Token) := tracks_level n (hexprs ts.length)
  have hexpression := hlevel BinaryOp.topLevel
  have hstatement (ts : List Token) := tracks_statement (hstmts ts.length) (Nat.le_refl _)
  have hbranch (ts : List Token) := tracks_branch (hstmts ts.length)
  have htop : BinaryOp.topLevel = 8 := rfl
  have hcolons (ts : List Token) : Tracks eol tokens (ts.length * 16 + 1) (skipColons tokens) ts
      ((.ok (Stmt.skipColons ts) : Except CompileError (List Token)).map fun rest => ((), rest)) :=
    tracks_skipColons eol tokens ts
  have hnumber (ts : List Token) : Tracks eol tokens (ts.length * 16 + 0)
      (fun _ => lineNumber eol tokens) ts ((parseLineNumber eol ts).map Taken.toPair) :=
    fun _ _ h _ => follows_lineNumber h
  have hassignment (ts : List Token) : Tracks eol tokens (ts.length * 16 + 0)
      (assignment eol tokens) ts ((Stmt.parseAssignment eol ts).map Taken.toPair) :=
    fun _ _ h hdepth => follows_assignment h (Nat.le_of_lt hdepth)
  exact {
    expression := ⟨returns_of_tracks hexpression (by decide) extends_expression,
      progresses_of_tracks hexpression (by decide) extends_expression fun _ t _ => t.shorter⟩
    statement := ⟨returns_of_tracks hstatement (by decide) fun h => (extends_stmts h).statement,
      progresses_of_tracks hstatement (by decide) (fun h => (extends_stmts h).statement)
        fun _ t _ => t.shorter⟩
    branch := ⟨returns_of_tracks hbranch (by decide) fun h => (extends_stmts h).branch,
      progresses_of_tracks hbranch (by decide) (fun h => (extends_stmts h).branch)
        (yields_parseBranch_shorter eol)⟩
    levels := fun n h => returns_of_tracks (hlevel n) (by omega) fun h => (extends_exprs h).level n
    operators := fun below h lhs =>
      returns_of_tracks (fun ts => tracks_chain below lhs (hexprs ts.length)) (by omega)
        fun h => (extends_exprs h).chain below lhs
    signs := returns_of_tracks (fun ts => tracks_signed (hexprs ts.length)) (by decide)
      fun h => (extends_exprs h).signed
    powers := fun lhs =>
      returns_of_tracks (fun ts => tracks_powers lhs (hexprs ts.length)) (by decide)
        fun h => (extends_exprs h).powers lhs
    exponents := returns_of_tracks (fun ts => tracks_exponent (hexprs ts.length)) (by decide)
      fun h => (extends_exprs h).exponent
    operands := returns_of_tracks (fun ts => tracks_operand (hexprs ts.length)) (by decide)
      fun h => (extends_exprs h).operand
    arguments := fun f =>
      returns_of_tracks (fun ts => tracks_arguments f (hexprs ts.length)) (by decide)
        fun h => (extends_exprs h).arguments f
    further := fun f index =>
      returns_of_tracks (fun ts => tracks_argumentsFrom f index (hexprs ts.length)) (by decide)
        fun h => (extends_exprs h).argumentsFrom f index
    assignment := returns_of_tracks hassignment (by decide) extends_assignment
    items := returns_of_tracks (tracks_items eol tokens) (by decide) extends_items
    colons := returns_of_tracks hcolons (by decide) extends_skipColons
    statements := returns_of_tracks (fun ts => tracks_statements (hstmts ts.length)) (by decide)
      fun h => (extends_stmts h).statements
    conditional := returns_of_tracks (fun ts => tracks_conditional (hstmts ts.length)) (by decide)
      fun h => (extends_stmts h).conditional
    thenBranch := returns_of_tracks (fun ts => tracks_thenBranch (hstmts ts.length)) (by decide)
      fun h => (extends_stmts h).thenBranch
    numbers := returns_of_tracks hnumber (by decide) fun _ => extends_refl _ }

end Cursor

/--
An expression, a statement or a branch is never read from nothing: it takes tokens at the head of those
it is read from.  Written as loops that move a cursor, all readers of a line come to an end wherever they
start, at a depth that grows with the number of tokens, and keep the cursor among them.  So the compiler
returns for every source, and the place of a mistake is in the source or at its end.
-/
theorem compile_returns :
    (∀ eol ts,
      Yields (fun e => Cursor.Uses ts e.rest) (Expr.parse eol ts) ∧
      Yields (fun s => Cursor.Uses ts s.rest) (Stmt.parseOne eol ts) ∧
      Yields (fun b => Cursor.Uses ts b.rest) (Stmt.parseBranch eol ts)) ∧
    (∀ eol tokens, Cursor.ReadersReturn eol tokens) ∧
    ∀ source,
      (∀ depth, Cursor.enough source.length ≤ depth →
        Cursor.compile depth source = some (Line.compile source)) ∧
      ∀ e, Line.compile source = .error e → e.pos ≤ source.length := by
  refine ⟨fun eol ts => ?_, Cursor.readersReturn, fun source => ?_⟩
  · have hexpression (ts' : List Token) :=
      Cursor.tracks_level BinaryOp.topLevel (Cursor.exprsTrack eol ts ts'.length)
    have hstatement (ts' : List Token) :=
      Cursor.tracks_statement (Cursor.stmtsTrack eol ts ts'.length) (Nat.le_refl _)
    have hbranch (ts' : List Token) := Cursor.tracks_branch (Cursor.stmtsTrack eol ts ts'.length)
    exact ⟨Cursor.yields_uses hexpression fun _ t _ => t.shorter,
      Cursor.yields_uses hstatement fun _ t _ => t.shorter,
      Cursor.yields_uses hbranch (Cursor.yields_parseBranch_shorter eol)⟩
  · exact ⟨fun _ => Cursor.compile_eq, fun e => Cursor.pos_of_compile⟩

/-- A sum takes its three tokens.  Items and signs of many kinds stand before a jump that lacks its number
at the end of the line. -/
theorem compile_returns_unfinished :
    let sum : List Token := [⟨.name "a", 0⟩, ⟨.sign .plus, 1⟩, ⟨.name "b", 2⟩]
    let source := "print 1;-+2,not 3: :goto"
    (∃ e, Expr.parse 3 sum = .ok e ∧ e.rest = [] ∧ Cursor.Uses sum e.rest) ∧
      Line.compile source = .error (.malformed .missingLineNumber 24) ∧
      Cursor.compile 400 source = some (.error (.malformed .missingLineNumber 24)) ∧
      24 ≤ source.length := by
  intro sum source
  obtain ⟨e, parsed, nothing⟩ : ∃ e, Expr.parse 3 sum = .ok e ∧ e.rest = [] := by
    refine ⟨⟨.binary .add (.var ⟨"aR", .number⟩) (.var ⟨"bR", .number⟩), [], by decide⟩, ?_, rfl⟩
    with_unfolding_all rfl
  have compiled : Line.compile source = .error (.malformed .missingLineNumber 24) := by
    unfold source
    with_unfolding_all rfl
  obtain ⟨takes, -, ends⟩ := compile_returns
  obtain ⟨hsame, hplace⟩ := ends source
  exact ⟨⟨e, parsed, nothing, (takes 3 sum).1 e parsed⟩, compiled,
    (hsame 400 (by decide)).trans (congrArg some compiled), hplace _ compiled⟩

end LineBasic
