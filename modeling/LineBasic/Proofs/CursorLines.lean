import LineBasic.Proofs.CursorExprs
import LineBasic.Proofs.TokenSlices

/-!
# Reading lines with a cursor

The readers of statements and lines, and the search for tokens, as loops and calls of which nothing is
promised.  The loops over statements and over the items of a `PRINT` count nothing.  They end because
every round takes a token, as no statement and no expression is empty.

So the depth that is enough grows with the length of the line.  A call from one reader to another either
comes after a token was taken, or goes down in an order of the readers that has sixteen places.

## Main definitions

* `Cursor.statements` and what it calls: the reader of statements.
* `Cursor.line`, `Cursor.scan`, `Cursor.compile`: the readers of a line, from its tokens and its text.
* `Cursor.enough`: a depth that is enough for a line of some length.

## Main results

* `Cursor.stmtsTrack`: the readers of statements end as the first ones.
* `Cursor.extends_stmts`: deeper calls keep what was read to its end.
* `Cursor.compile_eq`: the compiler comes to an end.
* `Cursor.pos_of_compile`: a mistake has its place in the line or at its end.
-/

namespace LineBasic

namespace Cursor

section Readers

variable (eol : Nat) (tokens : List Token)

open LineBasic.Expr (requireNumber)

/-- A line number. -/
def lineNumber : Reader Nat := do
  let start ← place eol tokens
  match ← advance tokens with
  | none => throw (.malformed .missingLineNumber start)
  | some t =>
      match t.kind with
      | .number n =>
          match lineNumberOf? n with
          | some line => return line
          | none => throw (.malformed .missingLineNumber start)
      | _ => throw (.malformed .missingLineNumber start)

/-- Whether a number stands at the cursor. -/
def standsNumber : Reader Bool := do return startsWithNumber (← peek tokens).toList

/-- An assignment from its variable on. -/
def assignment (depth : Nat) : Reader Stmt := do
  let start ← place eol tokens
  match ← advance tokens with
  | none => throw (.malformed .missingName start)
  | some t =>
      match t.kind with
      | .name name =>
          expect eol tokens .eq "'='"
          let valueStart ← place eol tokens
          let value ← expression eol tokens depth
          if value.type = (Variable.ofName name).type then
            return .assign (Variable.ofName name) value
          else throw (.typeMismatch valueStart)
      | _ => throw (.malformed .missingName start)

/-- The number of a line, if it begins with a number. -/
def leadingNumber : Reader (Option Nat) := do
  if ← standsNumber tokens then
    let n ← lineNumber eol tokens
    return some n
  else return none

/-! ## Loops -/

/-- The items of a `PRINT`. -/
def items : Nat → Reader (List PrintItem)
  | 0 => tooDeep
  | depth + 1 => do
      match ← peek tokens with
      | none => return []
      | some t =>
          if Stmt.endsPrint t.kind then return []
          else if t.kind = .sign .semicolon then
            let _ ← advance tokens
            let more ← items depth
            return .joined :: more
          else if t.kind = .sign .comma then
            let _ ← advance tokens
            let more ← items depth
            return .nextZone :: more
          else
            let e ← expression eol tokens depth
            let more ← items depth
            return .expr e :: more

/-- Takes colons as long as there are any. -/
def skipColons : Nat → Reader Unit
  | 0 => tooDeep
  | depth + 1 => do
      if ← eat tokens (.sign .colon) then skipColons depth else return ()

/-- A statement from behind its keyword on. -/
def command (depth : Nat) (conditional : Reader Stmt) (k : Keyword) (start : Nat) : Reader Stmt :=
  match k with
  | .let => assignment eol tokens depth
  | .print => do
      let printed ← items eol tokens depth
      return .print printed
  | .if => conditional
  | .goto => do
      let n ← lineNumber eol tokens
      return .goto n
  | .gosub => do
      let n ← lineNumber eol tokens
      return .gosub n
  | .return => return .return
  | .end => return .end
  | .stop => return .stop
  | .clear => return .clear
  | .rem => return .remark
  | .error => do
      let codeStart ← place eol tokens
      let code ← expression eol tokens depth
      requireNumber code codeStart
      return .raise code
  | k => throw (.malformed (.unsupportedCommand k) start)

mutual

/-- A list of statements. -/
def statements : Nat → Reader (List Stmt)
  | 0 => tooDeep
  | depth + 1 => do
      skipColons tokens depth
      match ← peek tokens with
      | none => return []
      | some t =>
          if t.kind = .keyword .else then return []
          else
            let s ← statement depth
            if s.isRemark then return [s]
            else
              match ← peek tokens with
              | none => return [s]
              | some u =>
                  if u.kind = .sign .colon then
                    let more ← statements depth
                    return s :: more
                  else if u.kind = .keyword .else then return [s]
                  else if u.kind = .keyword .rem then
                    let _ ← advance tokens
                    return [s, .remark]
                  else throw (.malformed (.expected "':'" (some u.kind)) (← place eol tokens))

/-- One statement. -/
def statement : Nat → Reader Stmt
  | 0 => tooDeep
  | depth + 1 => do
      let start ← place eol tokens
      match ← peek tokens with
      | none => throw (.malformed .missingStatement start)
      | some t =>
          match t.kind with
          | .name _ => assignment eol tokens depth
          | .keyword k =>
              let _ ← advance tokens
              command eol tokens depth (conditional depth) k start
          | kind => throw (.malformed (.unexpected kind) start)

/-- An `IF` from its test on. -/
def conditional : Nat → Reader Stmt
  | 0 => tooDeep
  | depth + 1 => do
      let start ← place eol tokens
      let test ← expression eol tokens depth
      requireNumber test start
      let yes ← thenBranch depth
      if ← eat tokens (.keyword .else) then
        let no ← branch depth
        return .ifThenElse test yes no
      else return .ifThen test yes

/-- The first branch of an `IF` from its `THEN` or `GOTO` on. -/
def thenBranch : Nat → Reader Branch
  | 0 => tooDeep
  | depth + 1 => do
      if ← eat tokens (.keyword .then) then branch depth
      else if ← eat tokens (.keyword .goto) then
        let n ← lineNumber eol tokens
        return .line n
      else throw (.malformed .missingThen (← place eol tokens))

/-- A branch: a line number, or statements of which there must be one. -/
def branch : Nat → Reader Branch
  | 0 => tooDeep
  | depth + 1 => do
      if ← standsNumber tokens then
        let n ← lineNumber eol tokens
        return .line n
      else
        let body ← statements depth
        if body.isEmpty then throw (.malformed .emptyBranch (← place eol tokens))
        else return .statements body

end

/-- A line, behind which nothing is left. -/
def line (depth : Nat) : Reader Line := do
  let number ← leadingNumber eol tokens
  let body ← statements eol tokens depth
  match ← peek tokens with
  | none => return ⟨number, body⟩
  | some t => throw (.malformed (.unexpected t.kind) (← place eol tokens))

end Readers

/-- One round of the search for tokens, at the character at `i` and with those before it. -/
def scanAt (chars : List Char) (more : Nat → List Token → Option (Except CompileError (List Token)))
    (i : Nat) (before : List Token) : Option (Except CompileError (List Token)) :=
  match chars.drop i with
  | [] => some (.ok before)
  | c :: rest =>
      match Lexeme.ofText c rest with
      | .blank => more (i + 1) before
      | .comment => some (.ok (before ++ [⟨.keyword .rem, i⟩]))
      | .invalid problem => some (.error (.malformed problem i))
      | .token kind width => more (i + 1 + width) (before ++ [⟨kind, i⟩])

/-- Goes through a text from some character on, and puts the tokens there behind those before. -/
def scan (chars : List Char) : Nat → Nat → List Token → Option (Except CompileError (List Token))
  | 0 => fun _ _ => none
  | depth + 1 => scanAt chars (scan chars depth)

/-- Compiles a source line, if no call goes deeper than it may. -/
def compile (depth : Nat) (source : String) : Option (Except CompileError Line) := do
  match ← scan source.toList depth 0 [] with
  | .error e => return .error e
  | .ok tokens =>
      let (compiled, _) ← outcome (line source.length tokens depth) 0
      return compiled

/-! ## Statements -/

section Statements

variable {β : Type} {eol depth i : Nat} {tokens ts : List Token}

theorem follows_lineNumber (h : Before tokens i ts) :
    Follows eol tokens i (lineNumber eol tokens) ((parseLineNumber eol ts).map Taken.toPair) := by
  unfold lineNumber parseLineNumber
  cases ts with
  | nil =>
      refine follows_place h ?_
      refine Follows.after ?_ (outcome_advance_end h) (Nat.le_refl i)
      exact follows_throw h h.isPlace
  | cons t later =>
      refine follows_place h (follows_advance h fun hnext => ?_)
      dsimp only
      cases hkind : t.kind with
      | number n =>
          dsimp only
          cases lineNumberOf? n with
          | some line => exact follows_pure hnext
          | none => exact follows_throw hnext h.isPlace
      | _ => exact follows_throw hnext h.isPlace

theorem follows_standsNumber {a b : Reader β} {y : Except CompileError (β × List Token)}
    (h : Before tokens i ts) (ha : startsWithNumber ts = true → Follows eol tokens i a y)
    (hb : ¬ startsWithNumber ts = true → Follows eol tokens i b y) :
    Follows eol tokens i (standsNumber tokens >>= fun found => if found = true then a else b) y := by
  have hends : outcome (standsNumber tokens) i = some (.ok (startsWithNumber ts), i) := by
    have hhead : startsWithNumber ts.head?.toList = startsWithNumber ts := by
      cases ts with
      | nil => rfl
      | cons t later => cases t with | mk kind pos => cases kind <;> rfl
    unfold standsNumber
    rw [outcome_bind, outcome_peek h, ← hhead]
    rfl
  refine Follows.after ?_ hends (Nat.le_refl i)
  split
  · next hnumber => exact ha hnumber
  · next hother => exact hb hother

theorem follows_leadingNumber (h : Before tokens i ts) :
    Follows eol tokens i (leadingNumber eol tokens)
      ((Line.parseNumber eol ts).map TakenUpTo.toPair) := by
  unfold leadingNumber Line.parseNumber
  split
  · next hnumber =>
      refine follows_standsNumber h (fun _ => ?_) fun hother => absurd hnumber hother
      exact follows_bind (follows_lineNumber h) fun _ j hj => follows_pure hj
  · next hother =>
      exact follows_standsNumber h (fun hnumber => absurd hnumber hother) fun _ => follows_pure h

theorem follows_assignment (h : Before tokens i ts) (hdepth : ts.length * 16 ≤ depth) :
    Follows eol tokens i (assignment eol tokens depth)
      ((Stmt.parseAssignment eol ts).map Taken.toPair) := by
  unfold assignment Stmt.parseAssignment
  cases ts with
  | nil =>
      refine follows_place h ?_
      refine Follows.after ?_ (outcome_advance_end h) (Nat.le_refl i)
      exact follows_throw h h.isPlace
  | cons t later =>
      rw [List.length_cons] at hdepth
      refine follows_place h (follows_advance h fun hnext => ?_)
      dsimp only
      cases hkind : t.kind with
      | name name =>
          refine follows_expect hnext fun equals hequals => ?_
          have hshorter := equals.shorter
          refine follows_place hequals ?_
          refine follows_bind (follows_expression hequals (by omega)) fun value j hj => ?_
          exact follows_ite (fun _ => follows_pure hj) fun _ => follows_throw hj hequals.isPlace
      | _ => exact follows_throw hnext h.isPlace

theorem tracks_items (eol : Nat) (tokens ts : List Token) :
    Tracks eol tokens (ts.length * 16 + 13) (items eol tokens) ts
      ((Stmt.parseItems eol ts).map TakenUpTo.toPair) := by
  induction ts using Stmt.parseItems_induction with
  | nil =>
      refine tracks_of_succ fun i depth h _ => ?_
      rw [Stmt.parseItems, items]
      exact follows_peek h (follows_pure h)
  | ends t later hends =>
      refine tracks_of_succ fun i depth h _ => ?_
      rw [Stmt.parseItems, if_pos hends, items]
      refine follows_peek h ?_
      dsimp only [List.head?_cons]
      rw [if_pos hends]
      exact follows_pure h
  | joined t later hgoes hjoined ih =>
      refine tracks_of_succ fun i depth h hdepth => ?_
      rw [List.length_cons] at hdepth
      rw [Stmt.parseItems, if_neg hgoes, if_pos hjoined, items]
      refine follows_peek h ?_
      dsimp only [List.head?_cons]
      rw [if_neg hgoes, if_pos hjoined]
      refine follows_advance h fun hnext => ?_
      exact follows_bind (ih _ depth hnext (by omega)) fun more j hj => follows_pure hj
  | nextZone t later hgoes hother hzone ih =>
      refine tracks_of_succ fun i depth h hdepth => ?_
      rw [List.length_cons] at hdepth
      rw [Stmt.parseItems, if_neg hgoes, if_neg hother, if_pos hzone, items]
      refine follows_peek h ?_
      dsimp only [List.head?_cons]
      rw [if_neg hgoes, if_neg hother, if_pos hzone]
      refine follows_advance h fun hnext => ?_
      exact follows_bind (ih _ depth hnext (by omega)) fun more j hj => follows_pure hj
  | expr t later hgoes hother hother' ih =>
      refine tracks_of_succ fun i depth h hdepth => ?_
      rw [Stmt.parseItems, if_neg hgoes, if_neg hother, if_neg hother', items]
      refine follows_peek h ?_
      dsimp only [List.head?_cons]
      rw [if_neg hgoes, if_neg hother, if_neg hother']
      refine follows_bind (follows_expression h (by omega)) fun e j hj => ?_
      have hshorter := e.shorter
      exact follows_bind (ih _ hshorter j depth hj (by omega)) fun more k hk => follows_pure hk

/-- The cursor passes the colons that are dropped. -/
theorem tracks_skipColons (eol : Nat) (tokens ts : List Token) :
    Tracks eol tokens (ts.length * 16 + 1) (skipColons tokens) ts
      (.ok ((), Stmt.skipColons ts)) := by
  induction ts with
  | nil =>
      refine tracks_of_succ fun i depth h _ => ?_
      rw [skipColons]
      exact follows_eat_other h rfl (follows_pure h)
  | cons t later ih =>
      refine tracks_of_succ fun i depth h hdepth => ?_
      rw [List.length_cons] at hdepth
      rw [skipColons]
      unfold Stmt.skipColons
      by_cases hcolon : t.kind = .sign .colon
      · rw [List.dropWhile_cons_of_pos (by simpa using hcolon)]
        refine follows_eat h (eat?_of_kind hcolon later) fun hnext => ?_
        exact ih _ depth hnext (by omega)
      · rw [List.dropWhile_cons_of_neg (by simpa using hcolon)]
        exact follows_eat_other h (eat?_cons_of_ne hcolon later) (follows_pure h)

theorem follows_skipColons {k : Unit → Reader β} {y : Except CompileError (β × List Token)}
    (h : Before tokens i ts) (hdepth : ts.length * 16 + 1 < depth)
    (hk : ∀ j, Before tokens j (Stmt.skipColons ts) → Follows eol tokens j (k ()) y) :
    Follows eol tokens i (skipColons tokens depth >>= k) y := by
  cases tracks_skipColons eol tokens ts i depth h hdepth with
  | ok ends onward before => exact (hk _ before).after ends onward

theorem follows_command {t : Token} {later : List Token} {k : Keyword}
    {y : Except CompileError (Stmt × List Token)} (h : Before tokens i (t :: later))
    (hkind : t.kind = .keyword k)
    (hk : Before tokens (i + 1) later → Follows eol tokens (i + 1)
      (command eol tokens depth (conditional eol tokens depth) k t.pos) y) :
    Follows eol tokens i (statement eol tokens (depth + 1)) y := by
  rw [statement]
  refine follows_place h (follows_peek h ?_)
  dsimp only [List.head?_cons]
  rw [hkind]
  exact follows_advance h hk

/-- The readers of statements end as those that hand on tokens, off fewer than `bound` tokens, if calls
may go sixteen deep for every token, and some more. -/
structure StmtsTrack (eol : Nat) (tokens : List Token) (bound : Nat) : Prop where
  statements (ts : List Token) (fewer : ts.length < bound) :
    Tracks eol tokens (ts.length * 16 + 14) (statements eol tokens) ts
      ((Stmt.parseList eol ts).map TakenUpTo.toPair)
  conditional (ts : List Token) (fewer : ts.length < bound) :
    Tracks eol tokens (ts.length * 16 + 13) (conditional eol tokens) ts
      ((Stmt.parseIf eol ts).map Taken.toPair)
  thenBranch (ts : List Token) (fewer : ts.length < bound) :
    Tracks eol tokens (ts.length * 16 + 1) (thenBranch eol tokens) ts
      ((Stmt.parseThen eol ts).map Taken.toPair)
  branch (ts : List Token) (fewer : ts.length < bound) :
    Tracks eol tokens (ts.length * 16 + 15) (branch eol tokens) ts
      ((Stmt.parseBranch eol ts).map TakenUpTo.toPair)

open LineBasic.Stmt

/-- A statement that opens with a keyword. -/
theorem tracks_command {bound : Nat} {t : Token} {later : List Token} {k : Keyword}
    (behind : StmtsTrack eol tokens bound) (within : later.length < bound)
    (hkind : t.kind = .keyword k) :
    Tracks eol tokens ((t :: later).length * 16 + 13) (statement eol tokens) (t :: later)
      ((parseOne eol (t :: later)).map Taken.toPair) := by
  refine tracks_of_succ fun i depth h hdepth => ?_
  rw [List.length_cons] at hdepth
  refine follows_command h hkind fun hnext => ?_
  rw [parseOne, hkind]
  cases k with
  | «let» => exact follows_last (follows_assignment hnext (by omega)) fun _ => rfl
  | print =>
      refine follows_bind (tracks_items eol tokens later _ depth hnext (by omega)) ?_
      exact fun _ j hj => follows_pure hj
  | «if» =>
      exact follows_last (behind.conditional later within _ depth hnext (by omega)) fun _ => rfl
  | goto | gosub => exact follows_bind (follows_lineNumber hnext) fun _ j hj => follows_pure hj
  | «return» | «end» | stop | clear | rem => exact follows_pure hnext
  | error =>
      refine follows_place hnext ?_
      refine follows_bind (follows_expression hnext (by omega)) fun code j hj => ?_
      exact follows_check hj (placed_requireNumber hnext _) fun _ _ => follows_pure hj
  | _ => exact follows_throw hnext h.isPlace

theorem tracks_statement {bound : Nat} (behind : StmtsTrack eol tokens bound)
    (within : ts.length ≤ bound) :
    Tracks eol tokens (ts.length * 16 + 13) (statement eol tokens) ts
      ((parseOne eol ts).map Taken.toPair) := by
  cases ts with
  | nil =>
      refine tracks_of_succ fun i depth h _ => ?_
      rw [parseOne, statement]
      exact follows_place h (follows_peek h (follows_throw h h.isPlace))
  | cons t later =>
      cases hkind : t.kind with
      | keyword k => exact tracks_command behind within hkind
      | name name =>
          refine tracks_of_succ fun i depth h hdepth => ?_
          rw [parseOne, hkind, statement]
          refine follows_place h (follows_peek h ?_)
          dsimp only [List.head?_cons]
          rw [hkind]
          exact follows_assignment h (by omega)
      | number | text | sign =>
          refine tracks_of_succ fun i depth h _ => ?_
          rw [parseOne, hkind, statement]
          refine follows_place h (follows_peek h ?_)
          dsimp only [List.head?_cons]
          rw [hkind]
          exact follows_throw h h.isPlace

/-- A list goes on with the colon behind its first statement, so what is left is compared with the
tokens before their colons were dropped. -/
theorem tracks_statements (behind : StmtsTrack eol tokens ts.length) :
    Tracks eol tokens (ts.length * 16 + 14) (statements eol tokens) ts
      ((parseList eol ts).map TakenUpTo.toPair) := by
  refine tracks_of_succ fun i depth h hdepth => ?_
  rw [parseList, statements]
  refine follows_skipColons h (by omega) fun j hj => ?_
  split
  · next hskip =>
      rw [hskip] at hj
      exact follows_peek hj (follows_pure hj)
  · next t later hskip =>
      have hle : (t :: later).length ≤ ts.length := hskip ▸ Stmt.length_skipColons_le ts
      rw [hskip] at hj
      refine follows_peek hj (follows_ite (fun _ => follows_pure hj) fun _ => ?_)
      refine follows_bind (tracks_statement behind hle j depth hj (by omega)) fun first k hk => ?_
      obtain ⟨s, rest, shorter⟩ := first
      refine follows_ite (fun _ => follows_pure hk) fun _ => ?_
      refine follows_peek hk ?_
      dsimp only [Taken.toPair] at hk ⊢
      cases rest with
      | nil => exact follows_pure hk
      | cons u more =>
          refine follows_ite (fun _ => ?colon) fun _ => ?_
          case colon =>
            have hlength : (u :: more).length < ts.length := Nat.lt_of_lt_of_le shorter hle
            refine follows_bind (behind.statements _ hlength k depth hk (by omega)) ?_
            exact fun _ l hl => follows_pure hl
          refine follows_ite (fun _ => follows_pure hk) fun _ => ?_
          refine follows_ite (fun _ => ?_) fun _ => ?_
          · exact follows_advance hk fun hnext => follows_pure hnext
          · exact follows_place hk (follows_throw hk hk.isPlace)

theorem tracks_conditional (behind : StmtsTrack eol tokens ts.length) :
    Tracks eol tokens (ts.length * 16 + 13) (conditional eol tokens) ts
      ((parseIf eol ts).map Taken.toPair) := by
  refine tracks_of_succ fun i depth h hdepth => ?_
  rw [parseIf, conditional]
  refine follows_place h ?_
  refine follows_bind (follows_expression h (by omega)) fun test j hj => ?_
  have hshorter := test.shorter
  refine follows_check hj (placed_requireNumber h _) fun _ _ => ?_
  refine follows_bind (behind.thenBranch _ hshorter j depth hj (by omega)) fun yes k hk => ?_
  have hshorter' : yes.rest.length < ts.length := Nat.lt_trans yes.shorter hshorter
  dsimp only
  cases hEat : eat? (.keyword .else) yes.rest with
  | none => exact follows_eat_other hk hEat (follows_pure hk)
  | some word =>
      have hword := word.shorter
      refine follows_eat hk hEat fun hnext => ?_
      refine follows_bind (behind.branch _ (Nat.lt_trans hword hshorter') _ depth hnext ?_) ?_
      · omega
      · exact fun no l hl => follows_pure hl

theorem tracks_branch (behind : StmtsTrack eol tokens ts.length) :
    Tracks eol tokens (ts.length * 16 + 15) (branch eol tokens) ts
      ((parseBranch eol ts).map TakenUpTo.toPair) := by
  refine tracks_of_succ fun i depth h hdepth => ?_
  rw [parseBranch, branch]
  split
  · next hnumber =>
      refine follows_standsNumber h (fun _ => ?_) fun hother => absurd hnumber hother
      exact follows_bind (follows_lineNumber h) fun _ j hj => follows_pure hj
  · next hother =>
      refine follows_standsNumber h (fun hnumber => absurd hnumber hother) fun _ => ?_
      refine follows_bind (tracks_statements behind i depth h (by omega)) fun body j hj => ?_
      refine follows_ite (fun _ => ?_) fun _ => follows_pure hj
      exact follows_place hj (follows_throw hj hj.isPlace)

theorem tracks_thenBranch (behind : StmtsTrack eol tokens ts.length) :
    Tracks eol tokens (ts.length * 16 + 1) (thenBranch eol tokens) ts
      ((parseThen eol ts).map Taken.toPair) := by
  refine tracks_of_succ fun i depth h hdepth => ?_
  rw [parseThen, thenBranch]
  cases hEat : eat? (.keyword .then) ts with
  | some word =>
      have hshorter := word.shorter
      refine follows_eat h hEat fun hnext => ?_
      exact follows_last (behind.branch _ hshorter _ depth hnext (by omega)) fun _ => rfl
  | none =>
      refine follows_eat_other h hEat ?_
      dsimp only
      cases hEat' : eat? (.keyword .goto) ts with
      | some word =>
          refine follows_eat h hEat' fun hnext => ?_
          exact follows_bind (follows_lineNumber hnext) fun _ j hj => follows_pure hj
      | none => exact follows_eat_other h hEat' (follows_place h (follows_throw h h.isPlace))

/-- All readers of statements end as the first ones, by induction on the number of tokens. -/
theorem stmtsTrack (eol : Nat) (tokens : List Token) (bound : Nat) : StmtsTrack eol tokens bound := by
  induction bound using Nat.strongRecOn with
  | ind bound ih => exact {
      statements := fun ts fewer => tracks_statements (ih _ fewer)
      conditional := fun ts fewer => tracks_conditional (ih _ fewer)
      thenBranch := fun ts fewer => tracks_thenBranch (ih _ fewer)
      branch := fun ts fewer => tracks_branch (ih _ fewer) }

end Statements

/-! ## Deeper calls -/

section Depths

variable {eol depth deeper start : Nat} {tokens : List Token} {cond cond' : Reader Stmt}

theorem extends_assignment (hle : depth ≤ deeper) :
    Extends (assignment eol tokens depth) (assignment eol tokens deeper) := by
  unfold assignment
  refine extends_behind fun _ => extends_behind fun head => ?_
  cases head with
  | none => exact extends_refl _
  | some t =>
      dsimp only
      split
      · refine extends_behind fun _ => extends_behind fun _ => ?_
        exact extends_bind (extends_expression hle) fun _ => extends_refl _
      · exact extends_refl _

theorem extends_items (hle : depth ≤ deeper) :
    Extends (items eol tokens depth) (items eol tokens deeper) := by
  induction depth generalizing deeper with
  | zero => exact extends_tooDeep _
  | succ depth ih =>
      obtain ⟨deeper, rfl⟩ := Nat.exists_eq_add_one.2 (Nat.zero_lt_of_lt hle)
      have hle := Nat.le_of_succ_le_succ hle
      have hmore (item : PrintItem) : Extends
          (items eol tokens depth >>= fun more => pure (item :: more))
          (items eol tokens deeper >>= fun more => pure (item :: more)) :=
        extends_bind (ih hle) fun _ => extends_refl _
      rw [items, items]
      refine extends_behind fun head => ?_
      cases head with
      | none => exact extends_refl _
      | some t =>
          refine extends_ite (extends_refl _) (extends_ite ?_ (extends_ite ?_ ?_))
          · exact extends_behind fun _ => hmore .joined
          · exact extends_behind fun _ => hmore .nextZone
          · exact extends_bind (extends_expression hle) fun e => hmore (.expr e)

theorem extends_skipColons (hle : depth ≤ deeper) :
    Extends (skipColons tokens depth) (skipColons tokens deeper) := by
  induction depth generalizing deeper with
  | zero => exact extends_tooDeep _
  | succ depth ih =>
      obtain ⟨deeper, rfl⟩ := Nat.exists_eq_add_one.2 (Nat.zero_lt_of_lt hle)
      rw [skipColons, skipColons]
      exact extends_behind fun _ => extends_ite (ih (Nat.le_of_succ_le_succ hle)) (extends_refl _)

theorem extends_command (hle : depth ≤ deeper) (hcond : Extends cond cond') (k : Keyword) :
    Extends (command eol tokens depth cond k start) (command eol tokens deeper cond' k start) := by
  cases k with
  | «let» => exact extends_assignment hle
  | print => exact extends_bind (extends_items hle) fun _ => extends_refl _
  | «if» => exact hcond
  | error => exact extends_behind fun _ => extends_bind (extends_expression hle) fun _ => extends_refl _
  | _ => exact extends_refl _

/-- The readers of statements keep their outcomes if calls may go deeper. -/
structure StmtsExtend (eol : Nat) (tokens : List Token) (depth deeper : Nat) : Prop where
  statements : Extends (statements eol tokens depth) (statements eol tokens deeper)
  statement : Extends (statement eol tokens depth) (statement eol tokens deeper)
  conditional : Extends (conditional eol tokens depth) (conditional eol tokens deeper)
  thenBranch : Extends (thenBranch eol tokens depth) (thenBranch eol tokens deeper)
  branch : Extends (branch eol tokens depth) (branch eol tokens deeper)

theorem extends_stmts (hle : depth ≤ deeper) : StmtsExtend eol tokens depth deeper := by
  induction depth generalizing deeper with
  | zero =>
      exact {
        statements := extends_tooDeep _
        statement := extends_tooDeep _
        conditional := extends_tooDeep _
        thenBranch := extends_tooDeep _
        branch := extends_tooDeep _ }
  | succ depth ih =>
      obtain ⟨deeper, rfl⟩ := Nat.exists_eq_add_one.2 (Nat.zero_lt_of_lt hle)
      have hle := Nat.le_of_succ_le_succ hle
      have inner : StmtsExtend eol tokens depth deeper := ih hle
      refine { statements := ?statements, statement := ?statement, conditional := ?conditional,
               thenBranch := ?thenBranch, branch := ?branch }
      case statements =>
        rw [statements, statements]
        refine extends_bind (extends_skipColons hle) fun _ => extends_behind fun head => ?_
        cases head with
        | none => exact extends_refl _
        | some t =>
            refine extends_ite (extends_refl _) (extends_bind inner.statement fun s => ?_)
            refine extends_ite (extends_refl _) (extends_behind fun behind => ?_)
            cases behind with
            | none => exact extends_refl _
            | some u =>
                refine extends_ite ?_ (extends_refl _)
                exact extends_bind inner.statements fun _ => extends_refl _
      case statement =>
        rw [statement, statement]
        refine extends_behind fun _ => extends_behind fun head => ?_
        cases head with
        | none => exact extends_refl _
        | some t =>
            dsimp only
            split
            · exact extends_assignment hle
            · exact extends_behind fun _ => extends_command hle inner.conditional _
            · exact extends_refl _
      case conditional =>
        rw [conditional, conditional]
        refine extends_behind fun _ => extends_bind (extends_expression hle) fun _ => ?_
        refine extends_behind fun _ => extends_bind inner.thenBranch fun _ => ?_
        refine extends_behind fun _ => extends_ite ?_ (extends_refl _)
        exact extends_bind inner.branch fun _ => extends_refl _
      case thenBranch =>
        rw [thenBranch, thenBranch]
        exact extends_behind fun _ => extends_ite inner.branch (extends_refl _)
      case branch =>
        rw [branch, branch]
        refine extends_behind fun _ => extends_ite (extends_refl _) ?_
        exact extends_bind inner.statements fun _ => extends_refl _

end Depths

/-! ## Lines -/

/-- How deep calls may go so that a line of `n` tokens, or of `n` characters, is read to its end. -/
def enough (n : Nat) : Nat := (n + 1) * 16

section Lines

variable {depth eol i : Nat} {tokens ts : List Token}

/-- The reader of lines ends as that one which hands on tokens.  With a line, nothing is left. -/
theorem follows_line (eol : Nat) (hdepth : enough tokens.length ≤ depth) :
    Follows eol tokens 0 (line eol tokens depth)
      ((Line.ofTokens eol tokens).map fun l => (l, [])) := by
  unfold enough at hdepth
  unfold line Line.ofTokens
  refine follows_bind (follows_leadingNumber (before_zero tokens)) fun number j hj => ?_
  have hle := number.noLonger
  have hbehind := stmtsTrack eol tokens number.rest.length
  refine follows_bind (tracks_statements hbehind j depth hj (by omega)) fun body k hk => ?_
  obtain ⟨body, rest, noLonger⟩ := body
  refine follows_peek hk ?_
  dsimp only [TakenUpTo.toPair] at hk ⊢
  cases rest with
  | nil => exact follows_pure hk
  | cons t later => exact follows_place hk (follows_throw hk hk.isPlace)

theorem outcome_line (eol : Nat) (hdepth : enough tokens.length ≤ depth) :
    ∃ j, outcome (line eol tokens depth) 0 = some (Line.ofTokens eol tokens, j) := by
  obtain ⟨j, hends, -⟩ := (follows_line eol hdepth).returns
  refine ⟨j, hends.trans ?_⟩
  cases Line.ofTokens eol tokens <;> rfl

variable {c : Char} {chars cs rest : List Char}

theorem drop_behind (left : chars.drop i = c :: rest) (more : Nat) :
    chars.drop (i + 1 + more) = rest.drop more := by
  rw [← List.drop_drop, ← List.drop_drop, left, List.drop_one, List.tail_cons]

theorem scan_cons (left : chars.drop i = c :: rest) (before : List Token) :
    scan chars (depth + 1) i before =
      match Lexeme.ofText c rest with
      | .blank => scan chars depth (i + 1) before
      | .comment => some (.ok (before ++ [⟨.keyword .rem, i⟩]))
      | .invalid problem => some (.error (.malformed problem i))
      | .token kind more => scan chars depth (i + 1 + more) (before ++ [⟨kind, i⟩]) := by
  rw [scan, scanAt, left]

/-- The search for tokens comes to an end, and finds those of the text behind the ones before. -/
theorem scan_eq (left : chars.drop i = cs) (before : List Token) (hdepth : cs.length < depth) :
    scan chars depth i before = some ((tokensFrom i cs).map (before ++ ·)) := by
  obtain ⟨depth, rfl⟩ := Nat.exists_eq_add_one.2 (Nat.zero_lt_of_lt hdepth)
  induction i, cs using tokensFrom_induction generalizing before depth with
  | nil i =>
      rw [scan, scanAt, left, tokensFrom_nil]
      simp [Except.map]
  | blank i c rest hlex ih =>
      rw [List.length_cons] at hdepth
      rw [scan_cons left, hlex, tokensFrom_blank hlex]
      obtain ⟨depth, rfl⟩ := Nat.exists_eq_add_one.2 (by omega : 0 < depth)
      exact ih (drop_behind left 0) before depth (Nat.lt_of_succ_lt_succ hdepth)
  | comment i c rest hlex =>
      rw [scan_cons left, hlex, tokensFrom_comment hlex]
      rfl
  | invalid i c rest problem hlex =>
      rw [scan_cons left, hlex, tokensFrom_invalid hlex]
      rfl
  | token i c rest kind more hlex ih =>
      rw [List.length_cons] at hdepth
      rw [scan_cons left, hlex, tokensFrom_token hlex]
      dsimp only
      obtain ⟨depth, rfl⟩ := Nat.exists_eq_add_one.2 (by omega : 0 < depth)
      rw [ih (drop_behind left more) _ depth (by rw [List.length_drop]; omega)]
      cases tokensFrom (i + 1 + more) (rest.drop more) with
      | error e => rfl
      | ok later => simp [Except.map]

/-- A mistake in the tokens of a text has its place in the text. -/
theorem pos_of_tokensFrom {pos : Nat} {e : CompileError} (h : tokensFrom pos cs = .error e) :
    e.pos < pos + cs.length := by
  induction pos, cs using tokensFrom_induction with
  | nil pos =>
      rw [tokensFrom_nil] at h
      cases h
  | blank pos c rest hlex ih =>
      rw [tokensFrom_blank hlex] at h
      have hpos := ih h
      rw [List.length_cons]
      omega
  | comment pos c rest hlex =>
      rw [tokensFrom_comment hlex] at h
      cases h
  | invalid pos c rest problem hlex =>
      rw [tokensFrom_invalid hlex] at h
      cases h
      exact Nat.lt_add_of_pos_right (Nat.succ_pos _)
  | token pos c rest kind more hlex ih =>
      rw [tokensFrom_token hlex] at h
      cases hlater : tokensFrom (pos + 1 + more) (rest.drop more) with
      | ok later =>
          rw [hlater] at h
          cases h
      | error e' =>
          rw [hlater] at h
          cases h
          have hpos := ih hlater
          have hwidth := Lexeme.ofText_width hlex
          rw [List.length_drop] at hpos
          rw [List.length_cons]
          omega

/-- The compiler comes to an end. -/
theorem compile_eq {source : String} (hdepth : enough source.length ≤ depth) :
    compile depth source = some (Line.compile source) := by
  have hscan : source.toList.length < depth := by
    unfold enough at hdepth
    rw [String.length_toList]
    omega
  unfold compile Line.compile
  rw [scan_eq List.drop_zero [] hscan]
  unfold tokenize
  cases htokens : tokensFrom 0 source.toList with
  | error e => rfl
  | ok tokens =>
      have hline : enough tokens.length ≤ depth := by
        have hle := (cut_iff.2 htokens).length_le
        rw [String.length_toList] at hle
        unfold enough at hdepth ⊢
        omega
      obtain ⟨j, hends⟩ := outcome_line source.length hline
      change (outcome (line source.length tokens depth) 0).bind (fun r => some r.1) = _
      rw [hends]
      rfl

/-- A mistake in a line has its place in the line or at its end. -/
theorem pos_of_compile {source : String} {e : CompileError} (h : Line.compile source = .error e) :
    e.pos ≤ source.length := by
  unfold Line.compile at h
  cases htokens : tokenize source with
  | error e' =>
      rw [htokens] at h
      cases h
      have hpos := pos_of_tokensFrom htokens
      rw [String.length_toList] at hpos
      omega
  | ok tokens =>
      rw [htokens] at h
      have hcut : Cut 0 source.toList tokens := cut_iff.2 htokens
      have hfollows := follows_line source.length (Nat.le_refl (enough tokens.length))
      rw [show Line.ofTokens source.length tokens = .error e from h] at hfollows
      refine hfollows.placed.le fun t ht => ?_
      have hplace := hcut.pos_of_mem t ht
      rw [String.length_toList] at hplace
      omega

end Lines

end Cursor

end LineBasic
