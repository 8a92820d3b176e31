import LineBasic.Expr.Eval
import LineBasic.Stmt

/-!
# Running statements

A statement changes variables, prints, and says where control goes. What it has changed before a
fault stays changed.

## Main definitions

* `Flow`: where control goes after a statement.
* `Outcome`: all that running a statement leads to.
* `Stmt.run`, `Stmt.runList`: running a statement, and statements until one moves control away.
-/

namespace LineBasic

/-- Where control goes after a statement. -/
inductive Flow where
  | next
  | goto (line : Nat)
  | gosub (line : Nat)
  | «return»
  | «end»
deriving DecidableEq, Repr

/-- What running statements leads to: the variables, what was printed, and the flow or the fault. -/
structure Outcome where
  vars : Variables
  printed : String
  flow : Evaluated Flow

namespace Outcome

/-- Nothing but a flow. -/
def quiet (vars : Variables) (flow : Flow) : Outcome := ⟨vars, "", .ok flow⟩

/-- Nothing but a fault. -/
def faulty (vars : Variables) (f : Fault) : Outcome := ⟨vars, "", .error f⟩

/-- Goes on with `k` if control goes to the next statement. -/
def andThen (o : Outcome) (k : Variables → Outcome) : Outcome :=
  match o.flow with
  | .ok .next =>
      let o' := k o.vars
      ⟨o'.vars, o.printed ++ o'.printed, o'.flow⟩
  | _ => o

end Outcome

/-! ## Printing -/

/-- The width of a print zone. -/
def zoneWidth : Nat := 13

/-- A value as `PRINT` writes it: a number with a space behind it, and one before it in the place of
a minus sign. -/
def printedValue : Value → String
  | .number n => spacedNumber n ++ " "
  | .text s => s

/-- Blanks from a column to the start of the next zone. -/
def zonePadding (column : Nat) : String :=
  String.ofList (List.replicate (zoneWidth - column % zoneWidth) ' ')

/--
The text of items behind the text `before` of the same statement. A line end follows unless the last
item is a semicolon or a comma; `open` says that none follows if there are no more items.
-/
def printText (vars : Variables) (before : String) (isOpen : Bool) :
    List PrintItem → Evaluated String
  | [] => .ok (if isOpen then before else before ++ "\n")
  | .expr e :: rest => do
      let v ← e.eval vars
      printText vars (before ++ printedValue v) false rest
  | .joined :: rest => printText vars before true rest
  | .nextZone :: rest => printText vars (before ++ zonePadding before.length) true rest

/-! ## Statements -/

/-- The fault that `ERROR` raises for the value of its expression. -/
def raisedFault (v : Value) : Fault :=
  match count v with
  | .ok code => .ofCode code
  | .error f => f

/-- Whether the test of an `IF` holds: it is a number other than zero. -/
def testHolds (vars : Variables) (test : Expr) : Evaluated Bool := do
  let n ← (← test.eval vars).asNumber
  return n != 0.0

mutual

/-- Runs a statement. -/
def Stmt.run (vars : Variables) : Stmt → Outcome
  | .assign target value =>
      match (do vars.assign target.key (← value.eval vars)) with
      | .ok vars' => .quiet vars' .next
      | .error f => .faulty vars f
  | .print items =>
      match printText vars "" false items with
      | .ok text => ⟨vars, text, .ok .next⟩
      | .error f => .faulty vars f
  | .ifThen test yes =>
      match testHolds vars test with
      | .ok true => Branch.run vars yes
      | .ok false => .quiet vars .next
      | .error f => .faulty vars f
  | .ifThenElse test yes no =>
      match testHolds vars test with
      | .ok true => Branch.run vars yes
      | .ok false => Branch.run vars no
      | .error f => .faulty vars f
  | .goto line => .quiet vars (.goto line)
  | .gosub line => .quiet vars (.gosub line)
  | .return => .quiet vars .return
  | .end => .quiet vars .end
  | .stop => .quiet vars .end
  | .raise code =>
      match code.eval vars with
      | .ok v => .faulty vars (raisedFault v)
      | .error f => .faulty vars f
  | .clear => .quiet ∅ .next
  | .remark => .quiet vars .next

/-- Runs a branch. -/
def Branch.run (vars : Variables) : Branch → Outcome
  | .line n => .quiet vars (.goto n)
  | .statements body => Stmt.runList vars body

/-- Runs statements in order until one moves control away. -/
def Stmt.runList (vars : Variables) : List Stmt → Outcome
  | [] => .quiet vars .next
  | s :: rest => (s.run vars).andThen fun vars' => Stmt.runList vars' rest

end

end LineBasic
