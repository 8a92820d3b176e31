import LineBasic.Program
import LineBasic.Stmt.Run

/-!
# A running program

A program runs statement by statement. Its state is the statement to run next, the pending
subroutine calls, the variables and what it has printed. One step runs one statement, or passes the
end of a line.

## Main definitions

* `Process`: the state of a running program.
* `Process.step`: one step on the line that the program has reached.
* `Process.advance`: one step of a program on its own, without a debugger.
-/

namespace LineBasic

/-- A statement of a program: the number of lines before its line, and of statements before it. -/
structure Position where
  line : Nat
  statement : Nat
deriving DecidableEq, Repr

/-- The first statement of a program. -/
def Position.first : Position := ⟨0, 0⟩

/-- A pending subroutine call: the number of its line, and the statement to return to. -/
structure Call where
  line : Nat
  resume : Position
deriving DecidableEq, Repr

/-- The state of a running program. Pending calls come innermost first. -/
structure Process where
  pc : Position
  calls : List Call
  vars : Variables
  output : String

/-- What a step leads to. -/
inductive StepEnd where
  | goesOn
  /-- The program has ended. -/
  | ends
  /-- The statement has failed; the program stands on it. -/
  | fails (f : Fault)

namespace Process

/-- A program before its first statement. -/
def initial : Process := ⟨.first, [], ∅, ""⟩

/-- The first statement of the line of a number. -/
def target (program : Program) (line : Nat) : Evaluated Position :=
  match program.indexOf? line with
  | some index => .ok ⟨index, 0⟩
  | none => .error ((Fault.ofKind .lineDoesNotExist).withInfo (Nat.repr line))

/-- Follows the flow of the current statement, which stands on the line of a number. -/
def follow (program : Program) (number : Nat) (p : Process) : Flow → Process × StepEnd
  | .next => ({ p with pc := ⟨p.pc.line, p.pc.statement + 1⟩ }, .goesOn)
  | .goto line =>
      match target program line with
      | .ok pc => ({ p with pc := pc }, .goesOn)
      | .error f => (p, .fails f)
  | .gosub line =>
      match target program line with
      | .ok pc =>
          let call : Call := ⟨number, ⟨p.pc.line, p.pc.statement + 1⟩⟩
          ({ p with pc := pc, calls := call :: p.calls }, .goesOn)
      | .error f => (p, .fails f)
  | .return =>
      match p.calls with
      | call :: calls => ({ p with pc := call.resume, calls := calls }, .goesOn)
      | [] => (p, .fails (.ofKind .unexpectedReturn))
  | .end => (p, .ends)

/-- One step on a line: runs its statement, or goes to the next line behind the last one. -/
def step (program : Program) (line : SourceLine) (p : Process) : Process × StepEnd :=
  match line.compiled.statements[p.pc.statement]? with
  | none => ({ p with pc := ⟨p.pc.line + 1, 0⟩ }, .goesOn)
  | some s =>
      let o := s.run p.vars
      let p := { p with vars := o.vars, output := p.output ++ o.printed }
      match o.flow with
      | .ok flow => p.follow program line.number flow
      | .error f => (p, .fails f)

/-- One step of a program on its own. Behind its last line it has ended. -/
def advance (program : Program) (p : Process) : Process × StepEnd :=
  match program.get? p.pc.line with
  | none => (p, .ends)
  | some line => p.step program line

end Process

end LineBasic
