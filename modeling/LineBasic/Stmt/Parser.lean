import LineBasic.Expr.Parser
import LineBasic.Stmt

/-!
# Reading statements

A list of statements divided by colons goes on to the end of the line, or to the `ELSE` of an `IF`
around it: an `ELSE` belongs to the innermost `IF` that is still open. Empty statements between
colons are dropped.

## Main definitions

* `Stmt.parseList`: reads a list of statements off the head of a list of tokens.
* `parseLineNumber`: reads a line number.
-/

namespace LineBasic

variable (eol : Nat)

/-- Reads a line number. -/
def parseLineNumber (ts : List Token) : Except CompileError (Taken Nat ts) :=
  match ts with
  | [] => .error (.malformed .missingLineNumber eol)
  | t :: tail =>
      match t.kind with
      | .number n =>
          match lineNumberOf? n with
          | some line => .ok (.ofHead line t tail)
          | none => .error (.malformed .missingLineNumber t.pos)
      | _ => .error (.malformed .missingLineNumber t.pos)

/-- Whether a number stands at the head of the tokens. -/
def startsWithNumber : List Token → Bool
  | ⟨.number _, _⟩ :: _ => true
  | _ => false

namespace Stmt

/-- Reads an assignment from its variable on. -/
def parseAssignment (ts : List Token) : Except CompileError (Taken Stmt ts) :=
  match ts with
  | [] => .error (.malformed .missingName eol)
  | t :: tail =>
      match t.kind with
      | .name name => do
          let target := Variable.ofName name
          let equals ← expectSign eol .eq "'='" tail
          let value ← Expr.parse eol equals.rest
          if value.value.type = target.type then
            return ((equals.andThen value).map (.assign target)).behind t
          else .error (.typeMismatch (posOf eol equals.rest))
      | _ => .error (.malformed .missingName t.pos)

/-- The tokens before which the items of a `PRINT` end. -/
def endsPrint : TokenKind → Bool
  | .sign .colon | .keyword .else | .keyword .rem => true
  | _ => false

/-- Reads the items of a `PRINT`. -/
def parseItems (ts : List Token) : Except CompileError (TakenUpTo (List PrintItem) ts) :=
  match ts with
  | [] => .ok (.nothing [] [])
  | t :: tail =>
      if endsPrint t.kind then .ok (.nothing [] (t :: tail))
      else if t.kind = .sign .semicolon then do
        let ⟨items, rest, h⟩ ← parseItems tail
        return ⟨.joined :: items, rest, Nat.le_succ_of_le h⟩
      else if t.kind = .sign .comma then do
        let ⟨items, rest, h⟩ ← parseItems tail
        return ⟨.nextZone :: items, rest, Nat.le_succ_of_le h⟩
      else do
        let ⟨e, rest, h⟩ ← Expr.parse eol (t :: tail)
        let ⟨items, rest', h'⟩ ← parseItems rest
        return ⟨.expr e :: items, rest', Nat.le_trans h' (Nat.le_of_lt h)⟩
termination_by ts.length
decreasing_by
  · exact Nat.lt_succ_self _
  · exact Nat.lt_succ_self _
  · exact h

/-- A property of lists of tokens, by what the items of a `PRINT` begin with. -/
@[elab_as_elim]
theorem parseItems_induction {motive : List Token → Prop}
    (nil : motive [])
    (ends : ∀ t tail, endsPrint t.kind = true → motive (t :: tail))
    (joined : ∀ t tail, ¬ endsPrint t.kind = true → t.kind = .sign .semicolon → motive tail →
      motive (t :: tail))
    (nextZone : ∀ t tail, ¬ endsPrint t.kind = true → ¬ t.kind = .sign .semicolon →
      t.kind = .sign .comma → motive tail → motive (t :: tail))
    (expr : ∀ t tail, ¬ endsPrint t.kind = true → ¬ t.kind = .sign .semicolon →
      ¬ t.kind = .sign .comma → (∀ rest, rest.length < (t :: tail).length → motive rest) →
      motive (t :: tail))
    (ts : List Token) : motive ts :=
  parseItems.induct motive nil ends joined nextZone expr ts

/-- Drops the colons at the head of the tokens. -/
def skipColons (ts : List Token) : List Token := ts.dropWhile fun t => t.kind = .sign .colon

theorem length_skipColons_le (ts : List Token) : (skipColons ts).length ≤ ts.length :=
  (List.dropWhile_sublist _).length_le

mutual

/-- Reads a list of statements. -/
def parseList (ts : List Token) : Except CompileError (TakenUpTo (List Stmt) ts) :=
  match hSkip : skipColons ts with
  | [] => .ok ⟨[], [], Nat.zero_le _⟩
  | t :: tail =>
      have hLength : tail.length + 1 ≤ ts.length := by
        simpa [hSkip] using length_skipColons_le ts
      if t.kind = .keyword .else then .ok ⟨[], t :: tail, hLength⟩
      else do
        let ⟨s, rest, h⟩ ← parseOne (t :: tail)
        have hRest : rest.length < ts.length := Nat.lt_of_lt_of_le h hLength
        if s.isRemark then .ok ⟨[s], rest, Nat.le_of_lt hRest⟩
        else match rest, hRest with
          | [], _ => .ok ⟨[s], [], Nat.zero_le _⟩
          | u :: tail', hRest =>
              if u.kind = .sign .colon then do
                let ⟨more, rest', h'⟩ ← parseList (u :: tail')
                return ⟨s :: more, rest', Nat.le_trans h' (Nat.le_of_lt hRest)⟩
              else if u.kind = .keyword .else then .ok ⟨[s], u :: tail', Nat.le_of_lt hRest⟩
              else if u.kind = .keyword .rem then
                .ok ⟨[s, .remark], tail', Nat.le_of_lt (Nat.lt_of_succ_lt hRest)⟩
              else .error (expectedError eol "':'" (u :: tail'))
termination_by ts.length * 4 + 1

/-- Reads one statement. -/
def parseOne (ts : List Token) : Except CompileError (Taken Stmt ts) :=
  match ts with
  | [] => .error (.malformed .missingStatement eol)
  | t :: tail =>
      match t.kind with
      | .name _ => parseAssignment eol (t :: tail)
      | .keyword .let => return (← parseAssignment eol tail).behind t
      | .keyword .print => return ((← parseItems eol tail).map .print).behind t
      | .keyword .if => return (← parseIf tail).behind t
      | .keyword .goto => return ((← parseLineNumber eol tail).map .goto).behind t
      | .keyword .gosub => return ((← parseLineNumber eol tail).map .gosub).behind t
      | .keyword .return => .ok (.ofHead .return t tail)
      | .keyword .end => .ok (.ofHead .end t tail)
      | .keyword .stop => .ok (.ofHead .stop t tail)
      | .keyword .clear => .ok (.ofHead .clear t tail)
      | .keyword .rem => .ok (.ofHead .remark t tail)
      | .keyword .error => do
          let code ← Expr.parse eol tail
          Expr.requireNumber code.value (posOf eol tail)
          return (code.map .raise).behind t
      | .keyword k => .error (.malformed (.unsupportedCommand k) t.pos)
      | kind => .error (.malformed (.unexpected kind) t.pos)
termination_by ts.length * 4

/-- Reads an `IF` from its test on. -/
def parseIf (ts : List Token) : Except CompileError (Taken Stmt ts) := do
  let ⟨test, rest, h⟩ ← Expr.parse eol ts
  Expr.requireNumber test (posOf eol ts)
  let ⟨yes, rest', h'⟩ ← parseThen rest
  match eat? (.keyword .else) rest' with
  | none => return ⟨.ifThen test yes, rest', Nat.lt_trans h' h⟩
  | some ⟨_, tail, hTail⟩ => do
      let ⟨no, rest'', h''⟩ ← parseBranch tail
      return ⟨.ifThenElse test yes no, rest'',
        Nat.lt_of_le_of_lt h'' (Nat.lt_trans hTail (Nat.lt_trans h' h))⟩
termination_by ts.length * 4 + 3

/-- Reads the first branch of an `IF` from its `THEN` or `GOTO` on. -/
def parseThen (ts : List Token) : Except CompileError (Taken Branch ts) :=
  match eat? (.keyword .then) ts with
  | some ⟨_, tail, hTail⟩ => do
      let ⟨yes, rest, h⟩ ← parseBranch tail
      return ⟨yes, rest, Nat.lt_of_le_of_lt h hTail⟩
  | none =>
      match eat? (.keyword .goto) ts with
      | some ⟨_, tail, hTail⟩ => do
          let ⟨n, rest, h⟩ ← parseLineNumber eol tail
          return ⟨.line n, rest, Nat.lt_trans h hTail⟩
      | none => .error (.malformed .missingThen (posOf eol ts))
termination_by ts.length * 4 + 3

/-- Reads a branch: a line number, or statements of which there must be one. -/
def parseBranch (ts : List Token) : Except CompileError (TakenUpTo Branch ts) :=
  if startsWithNumber ts then do
    return ((← parseLineNumber eol ts).map .line).upTo
  else do
    let ⟨body, rest, h⟩ ← parseList ts
    if body.isEmpty then .error (.malformed .emptyBranch (posOf eol rest))
    else return ⟨.statements body, rest, h⟩
termination_by ts.length * 4 + 2

end

end Stmt

end LineBasic
