import LineBasic.Proofs.LineHook
import LineBasic.Proofs.StoreLaws

/-!
# Debuggers with different pasts

A debugger that has followed a run keeps some of it for good.  Its breakpoints have other numbers and
other counts than those of a debugger that is new, other listeners may be there, and the texts of the
lines may be elsewhere.  None of that decides about a line: two debuggers that differ in nothing else
do the same.

Three fields more are kept until the next line is hooked: the last line, its wait, and the mark of a
line to pass over.  The hook overwrites the first two before it looks at anything, and it spends the
mark.  So two debuggers that differ in these as well do the same on the next line if the mark says
the same about it, and they are alike from then on.

## Main definitions

* `SameEntries`: two stores differ in the numbers and the counts of their breakpoints only.
* `Near`, `Alike`: two debuggers with different pasts, before the next line and behind it.
* `Unheld`: nothing but a step can hold a program up on a line.

## Main results

* `alike_stopBefore`, `alike_weigh` and others: what debuggers do that are alike, they do alike.
* `alike_onLine`: the line hook.
* `alike_onLine_of_marked`, `alike_onLine_of_unheld`: the next line behind different pasts.
-/

namespace LineBasic

variable {ρ : Type}

/-! ## Stores -/

namespace BreakpointStore

/-- Two stores have the same breakpoints on all lines, but for their numbers and counts. -/
def SameEntries (s t : BreakpointStore) : Prop :=
  ∀ line, (t.find? line).map Breakpoint.entry = (s.find? line).map Breakpoint.entry

theorem SameEntries.put {s t : BreakpointStore} (h : s.SameEntries t) {bp bp' : Breakpoint}
    (same : bp'.entry = bp.entry) : (s.put bp).SameEntries (t.put bp') := by
  intro line
  have hline : bp'.line = bp.line := congrArg BreakpointEntry.line same
  rw [find?_put, find?_put, hline]
  split
  · exact congrArg some same
  · exact h line

end BreakpointStore

namespace Debugger

open BreakpointStore

/-! ## Two pasts -/

/-- Two debuggers differ in nothing but their pasts, and have yet to hook the next line. -/
def Near (d d' : Debugger ρ) : Prop :=
  ∃ line delay mark store map bus, d.breakpoints.SameEntries store ∧
    d' = { d with
      currentLine := line, nextDelay := delay, skipBreakpoint := mark, breakpoints := store,
      sourceMap := map, events := bus }

/-- Two debuggers differ in nothing that decides about lines. -/
def Alike (d d' : Debugger ρ) : Prop :=
  ∃ store map bus, d.breakpoints.SameEntries store ∧
    d' = { d with breakpoints := store, sourceMap := map, events := bus }

variable {d d' : Debugger ρ} {line : LineId}

theorem Alike.near (h : Alike d d') : Near d d' := by
  obtain ⟨store, map, bus, same, rfl⟩ := h
  exact ⟨_, _, _, store, map, bus, same, rfl⟩

theorem Near.alike (h : Near d d') (line : d'.currentLine = d.currentLine)
    (delay : d'.nextDelay = d.nextDelay) (mark : d'.skipBreakpoint = d.skipBreakpoint) :
    Alike d d' := by
  obtain ⟨_, _, _, store, map, bus, same, rfl⟩ := h
  cases line
  cases delay
  cases mark
  exact ⟨store, map, bus, same, rfl⟩

theorem Near.runtime (h : Near d d') : d'.runtime = d.runtime := by
  obtain ⟨_, _, _, _, _, _, -, rfl⟩ := h
  rfl

theorem Near.state (h : Near d d') : d'.state = d.state := by
  obtain ⟨_, _, _, _, _, _, -, rfl⟩ := h
  rfl

theorem Near.entries (h : Near d d') : d.breakpoints.SameEntries d'.breakpoints := by
  obtain ⟨_, _, _, store, map, bus, same, rfl⟩ := h
  exact same

/-- Debuggers with different pasts find the same breakpoint on a line. -/
theorem Near.breakpointOn (h : Near d d') (line : LineId) :
    (d'.breakpointOn line).map Breakpoint.entry = (d.breakpointOn line).map Breakpoint.entry := by
  unfold Debugger.breakpointOn
  cases line with
  | number n => exact h.entries n
  | label name => rfl

/-- They answer the questions about it in the same way. -/
theorem Near.check (h : Near d d') (line : LineId) :
    d'.hits line = d.hits line ∧ d'.tested line = d.tested line := by
  have hfound := h.breakpointOn line
  obtain ⟨_, _, _, store, map, bus, same, rfl⟩ := h
  rw [hits_eq, hits_eq, tested_eq, tested_eq]
  generalize Debugger.breakpointOn _ line = found' at hfound ⊢
  generalize d.breakpointOn line = found at hfound ⊢
  cases found with
  | none =>
      cases found' with
      | none => exact ⟨rfl, rfl⟩
      | some bp' => cases hfound
  | some bp =>
      cases found' with
      | none => cases hfound
      | some bp' =>
          have hentry : bp'.entry = bp.entry := Option.some.inj hfound
          have hon : bp'.enabled = bp.enabled := congrArg BreakpointEntry.enabled hentry
          have hcondition : bp'.condition = bp.condition :=
            congrArg BreakpointEntry.condition hentry
          dsimp only
          rw [hon, hcondition]
          exact ⟨rfl, rfl⟩

/-- Taking note of a numbered line, and spending the mark on it, makes debuggers alike. -/
theorem Near.weighed (h : Near d d') (n : Nat) (runtime : ρ) :
    Alike (d.weighed (.number n) runtime) (d'.weighed (.number n) runtime) := by
  obtain ⟨_, _, _, store, map, bus, same, rfl⟩ := h
  exact ⟨store, map, bus, same, rfl⟩

/-- The speed does not hold the program up, and no breakpoint on a line is switched on. -/
structure Unheld (d : Debugger ρ) (line : LineId) : Prop where
  free : d.pace.chunk = none
  off : ∀ bp, d.breakpointOn line = some bp → bp.enabled = false

theorem Unheld.near (h : d.Unheld line) (near : Near d d') : d'.Unheld line := by
  refine ⟨?_, fun bp' hbp' => ?_⟩
  · obtain ⟨_, _, _, store, map, bus, same, rfl⟩ := near
    exact h.free
  · have hfound := near.breakpointOn line
    rw [hbp'] at hfound
    cases hbp : d.breakpointOn line with
    | none =>
        rw [hbp] at hfound
        cases hfound
    | some bp =>
        rw [hbp] at hfound
        have hentry : bp'.entry = bp.entry := Option.some.inj hfound
        exact (congrArg BreakpointEntry.enabled hentry).trans (h.off bp hbp)

variable [Debuggee ρ]

/-! ## What is done alike -/

theorem alike_pauseWith (h : Alike d d') (kind : EventKind) (bp bp' : Option Breakpoint) :
    Alike (d.pauseWith kind bp) (d'.pauseWith kind bp') := by
  obtain ⟨store, map, bus, same, rfl⟩ := h
  rw [pauseWith_eq, pauseWith_eq]
  exact ⟨store, map, _, same, rfl⟩

theorem alike_stopBefore (h : Alike d d') (kind : EventKind) (bp bp' : Option Breakpoint) :
    Alike (d.stopBefore kind bp) (d'.stopBefore kind bp') := by
  obtain ⟨store, map, bus, same, rfl⟩ := h
  have hcleared : Alike { d with stepMode := none, lineCounter := 0 }
      { d with
        stepMode := none, lineCounter := 0, breakpoints := store, sourceMap := map,
        events := bus } := ⟨store, map, bus, same, rfl⟩
  exact alike_pauseWith hcleared kind bp bp'

theorem alike_throttle (h : Alike d d') : Alike d.throttle d'.throttle := by
  have hsame := h
  obtain ⟨store, map, bus, same, rfl⟩ := h
  cases pace : d.pace.chunk with
  | none =>
      rw [throttle_of_free pace, throttle_of_free (by exact pace)]
      exact hsame
  | some chunk =>
      rcases Decidable.em (d.speed = 0) with halt | moves
      · rw [throttle_of_halt pace halt, throttle_of_halt (by exact pace) (by exact halt)]
        exact alike_pauseWith hsame .step none none
      rcases Decidable.em (chunk ≤ d.lineCounter + 1) with full | within
      · rw [throttle_of_full pace moves full,
          throttle_of_full (by exact pace) (by exact moves) (by exact full), emit_eq, emit_eq]
        exact ⟨store, map, _, same, rfl⟩
      · rw [throttle_of_counted pace moves within,
          throttle_of_counted (by exact pace) (by exact moves) (by exact within)]
        exact ⟨store, map, bus, same, rfl⟩

theorem alike_weigh (h : Alike d d') (resumed : Bool) :
    Alike (d.weigh resumed) (d'.weigh resumed) := by
  obtain ⟨store, map, bus, same, rfl⟩ := h
  have hspent : Alike { d with skipStepCheck := d.skipStepCheck && d.stepMode.isNone }
      { d with
        skipStepCheck := d.skipStepCheck && d.stepMode.isNone, breakpoints := store,
        sourceMap := map, events := bus } := ⟨store, map, bus, same, rfl⟩
  have hstep : stepIsOver { d with breakpoints := store, sourceMap := map, events := bus } d.runtime
      = d.stepIsOver d.runtime := rfl
  rw [weigh_eq, weigh_eq, hstep]
  cases d.stepIsOver d.runtime with
  | true => exact alike_stopBefore hspent .step none none
  | false =>
      cases resumed with
      | true => exact hspent
      | false => exact alike_throttle hspent

/-- A fault is taken by both, or by neither. -/
theorem alike_handleError (h : Alike d d') (f : Fault) :
    (d'.handleError f).1 = (d.handleError f).1 ∧
      Alike (d.handleError f).2 (d'.handleError f).2 := by
  have hsame := h
  obtain ⟨store, map, bus, same, rfl⟩ := h
  rcases Bool.eq_false_or_eq_true d.breakOnError with on | off
  · rcases Decidable.em (d.skipErrorLine = some (f.line.getD d.currentLine)) with mark | unmarked
    · rw [handleError_of_mark on mark, handleError_of_mark (by exact on) (by exact mark)]
      exact ⟨rfl, store, map, bus, same, rfl⟩
    · rw [handleError_of_unmarked on unmarked,
        handleError_of_unmarked (by exact on) (by exact unmarked)]
      have hfaulted : Alike (d.faulted f)
          (faulted { d with breakpoints := store, sourceMap := map, events := bus } f) :=
        ⟨store, map, bus, same, rfl⟩
      exact ⟨rfl, alike_pauseWith hfaulted .error none none⟩
  · rw [handleError_of_off off, handleError_of_off (by exact off)]
    exact ⟨rfl, hsame⟩

/-- A snippet has the same result behind different pasts. -/
theorem near_atPause {α : Type} (h : Near d d') (purpose : String)
    (snippet : Variables → Answer α) :
    (d'.atPause purpose snippet).1 = (d.atPause purpose snippet).1 ∧
      Near (d.atPause purpose snippet).2 (d'.atPause purpose snippet).2 := by
  obtain ⟨line, delay, mark, store, map, bus, same, rfl⟩ := h
  refine ⟨?_, ?_⟩
  · unfold atPause
    dsimp only
    split
    · rfl
    · split <;> rfl
  · rw [atPause_eq, atPause_eq]
    exact ⟨line, delay, mark, store, map, bus, same, rfl⟩

/-- The end of a run takes the mark away. -/
theorem near_reset (h : Near d d') : Near d.reset d'.reset := by
  obtain ⟨line, delay, mark, store, map, bus, same, rfl⟩ := h
  rw [reset_eq, reset_eq]
  exact ⟨line, 0, none, store, map, _, same, rfl⟩

theorem alike_reset (h : Alike d d') : Alike d.reset d'.reset := by
  obtain ⟨store, map, bus, same, rfl⟩ := h
  rw [reset_eq, reset_eq]
  exact ⟨store, map, _, same, rfl⟩

/-! ## The line hook -/

/-- Behind different pasts the next line is taken alike if the mark says the same about it. -/
theorem alike_onLine_of_marked {n : Nat} (h : Near d d') (active : d.state ≠ .idle)
    (arrived : d.throttledLine ≠ some (.number n))
    (marks : d'.isMarked (.number n) = d.isMarked (.number n)) :
    Alike (d.onLine (.number n)) (d'.onLine (.number n)) := by
  obtain ⟨hhits, htested⟩ := h.check (.number n)
  have hfound := h.breakpointOn (.number n)
  have hactive' : d'.state ≠ .idle ∧ d'.throttledLine ≠ some (.number n) ∧
      d'.runtime = d.runtime := by
    obtain ⟨_, _, _, store, map, bus, same, rfl⟩ := h
    exact ⟨active, arrived, rfl⟩
  obtain ⟨active', arrived', hruntime⟩ := hactive'
  have hunbroken : ∀ runtime, d.Unbroken (.number n) runtime → d'.Unbroken (.number n) runtime →
      Alike (d.onLine (.number n)) (d'.onLine (.number n)) := by
    intro runtime unbroken unbroken'
    rw [onLine_of_unbroken active arrived unbroken, onLine_of_unbroken active' arrived' unbroken',
      marks]
    exact alike_weigh (h.weighed n runtime) _
  cases mark : d.isMarked (.number n) with
  | true =>
      exact hunbroken d.runtime (.marked mark) (hruntime ▸ .marked (marks.trans mark))
  | false =>
      cases hit : d.hits (.number n) with
      | false =>
          refine hunbroken (d.tested (.number n)) (.missed mark hit) ?_
          rw [← htested]
          exact .missed (marks.trans mark) (hhits.trans hit)
      | true =>
          obtain ⟨bp, hbp, hline⟩ := onLine_of_hit active arrived mark hit
          obtain ⟨bp', hbp', hline'⟩ := onLine_of_hit active' arrived' (marks.trans mark)
            (hhits.trans hit)
          have hentry : bp'.entry = bp.entry := by
            rw [hbp, hbp'] at hfound
            exact Option.some.inj hfound
          have hcounted : Breakpoint.entry { bp' with hits := bp'.hits + 1 } =
              Breakpoint.entry { bp with hits := bp.hits + 1 } := hentry
          rw [hline, hline', htested]
          obtain ⟨_, _, _, store, map, bus, same, rfl⟩ := h
          exact alike_stopBefore ⟨_, map, bus, same.put hcounted, rfl⟩ .breakpoint _ _

/-- Debuggers that are alike take a line alike. -/
theorem alike_onLine (h : Alike d d') (n : Nat) :
    Alike (d.onLine (.number n)) (d'.onLine (.number n)) := by
  rcases Decidable.em (d.state = .idle) with asleep | active
  · obtain ⟨store, map, bus, same, rfl⟩ := h
    rw [onLine_of_idle asleep, onLine_of_idle (by exact asleep)]
    exact ⟨store, map, bus, same, rfl⟩
  rcases Decidable.em (d.throttledLine = some (.number n)) with waited | arrived
  · obtain ⟨store, map, bus, same, rfl⟩ := h
    rw [onLine_of_waited active waited, onLine_of_waited (by exact active) (by exact waited)]
    exact ⟨store, map, bus, same, rfl⟩
  · refine alike_onLine_of_marked h.near active arrived ?_
    obtain ⟨store, map, bus, same, rfl⟩ := h
    rfl

/-! ## Lines on which nothing holds the program up -/

/-- On such a line it makes no difference whether the line is marked. -/
theorem onLine_of_unheld (h : d.Unheld line) (active : d.state ≠ .idle)
    (arrived : d.throttledLine ≠ some line) :
    d.onLine line = (d.weighed line d.runtime).weigh true := by
  have hoff : d.hits line = false ∧ d.tested line = d.runtime := by
    rw [hits_eq, tested_eq]
    cases hbp : d.breakpointOn line with
    | none => exact ⟨rfl, rfl⟩
    | some bp =>
        dsimp only
        rw [h.off bp hbp]
        exact ⟨rfl, rfl⟩
  obtain ⟨hmiss, htested⟩ := hoff
  have hunbroken : d.Unbroken line d.runtime := by
    cases mark : d.isMarked line with
    | true => exact .marked mark
    | false => exact htested ▸ .missed mark hmiss
  have hfree : (d.checked line d.runtime).throttle = d.checked line d.runtime :=
    throttle_of_free (by exact h.free)
  rw [onLine_of_unbroken active arrived hunbroken, weigh_weighed, weigh_weighed, hfree]
  cases d.isMarked line <;> rfl

/-- Behind different pasts the next line is taken alike if nothing holds the program up there. -/
theorem alike_onLine_of_unheld {n : Nat} (h : Near d d') (active : d.state ≠ .idle)
    (arrived : d.throttledLine ≠ some (.number n)) (unheld : d.Unheld (.number n)) :
    Alike (d.onLine (.number n)) (d'.onLine (.number n)) := by
  have hunheld := unheld.near h
  have hweighed := alike_weigh (h.weighed n d.runtime) true
  obtain ⟨_, _, _, store, map, bus, same, rfl⟩ := h
  rw [onLine_of_unheld unheld active arrived,
    onLine_of_unheld hunheld (by exact active) (by exact arrived)]
  exact hweighed

end Debugger

end LineBasic
