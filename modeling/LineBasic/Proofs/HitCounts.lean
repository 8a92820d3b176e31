import LineBasic.Proofs.BreakpointNumbers
import LineBasic.Proofs.EventStream
import LineBasic.Proofs.MutedBreakpoints

/-!
# Hit counts

A breakpoint counts its hits, and each hit is announced.  Count and announcements are kept apart: the
count lives in the store, which is edited while the program runs, and the announcements are on their
way to the listeners.  Whoever has listened from the beginning can still tell the count of every
breakpoint from what was heard, and finds the hits numbered without a gap.

An operation either edits the store and announces no hit, or it comes to a line, counts one hit there
and announces that.  Edits keep the numbers of breakpoints apart, so that the hits of one breakpoint
are never taken for those of another, also if it has taken the place of that one.

## Main definitions

* `Event.isHitOf`, `Event.ReportsHit`: the hits of a breakpoint, and what they say.
* `Silent`: no hit is announced on the way from one debugger to another.
* `Tallies`: what an operation does to the breakpoints, with the hit that it announces.
* `Tallied`: the counts of a store agree with what was heard.

## Main results

* `tallies`: every operation edits, or counts a hit.
* `Tallied.edited`, `Tallied.hit`: both keep the counts.
* `hit_counts_exact`: the counts agree behind every history.
-/

namespace LineBasic

/-! ## Hits among events -/

namespace Event

/-- Whether an event announces a hit of the breakpoint with a number. -/
def isHitOf (id : Nat) (e : Event) : Bool :=
  decide (e.kind = .breakpoint) && e.breakpoint.any (·.id == id)

/-- An event announces that the program is paused by a breakpoint, on the line of the breakpoint. -/
structure ReportsHit (e : Event) (bp : Breakpoint) : Prop where
  kind : e.kind = .breakpoint
  carried : e.breakpoint = some bp
  paused : e.snapshot.state = .paused
  line : e.snapshot.line = .number bp.line

variable {e : Event} {bp : Breakpoint} {id : Nat}

theorem ReportsHit.isHitOf_eq (h : e.ReportsHit bp) (id : Nat) : e.isHitOf id = (bp.id == id) := by
  unfold isHitOf
  rw [h.kind, h.carried]
  rfl

/-- Events none of which announces a hit. -/
def Quiet (es : List Event) : Prop := ∀ e ∈ es, e.kind ≠ .breakpoint

theorem quiet_nil : Quiet [] := fun _ hmem => absurd hmem List.not_mem_nil

theorem quiet_singleton (h : e.kind ≠ .breakpoint) : Quiet [e] :=
  fun _ hmem => List.mem_singleton.1 hmem ▸ h

theorem Quiet.append {es es' : List Event} (h : Quiet es) (h' : Quiet es') : Quiet (es ++ es') :=
  fun e hmem => (List.mem_append.1 hmem).elim (h e) (h' e)

theorem Quiet.filter_isHitOf {es : List Event} (h : Quiet es) (id : Nat) :
    es.filter (isHitOf id) = [] := by
  refine List.filter_eq_nil_iff.2 fun e hmem hhit => ?_
  unfold isHitOf at hhit
  exact h e hmem (of_decide_eq_true (Bool.and_eq_true_iff.1 hhit).1)

end Event

/-! ## What is announced besides hits -/

namespace Debugger

open Event

variable {ρ : Type} {d : Debugger ρ} {kind : EventKind} {line : LineId}

/-- No hit is announced on the way from a debugger to another. -/
def Silent (d d' : Debugger ρ) : Prop :=
  ∃ es, d'.events = d.events.tell es ∧ Quiet es

theorem silent_of_events {d' : Debugger ρ} (h : d'.events = d.events) : Silent d d' :=
  ⟨[], h, quiet_nil⟩

/-- A breakpoint that hits is switched on. -/
theorem enabled_of_hits {bp : Breakpoint} (found : d.breakpointOn line = some bp)
    (hit : d.hits line = true) : bp.enabled = true := by
  unfold hits at hit
  rw [found] at hit
  exact (Bool.and_eq_true_iff.1 hit).1

theorem exists_of_breakpointOn {bp : Breakpoint} (found : d.breakpointOn line = some bp) :
    ∃ n, line = .number n ∧ d.breakpoints.find? n = some bp := by
  unfold breakpointOn at found
  cases line with
  | number n => exact ⟨n, rfl, found⟩
  | label name => cases found

variable [Debuggee ρ]

theorem quiet_change (d : Debugger ρ) (state : DebugState) : Quiet (d.change state) := by
  unfold change
  split
  · exact quiet_nil
  · exact quiet_singleton nofun

theorem silent_emit (d : Debugger ρ) (bp : Option Breakpoint) (other : kind ≠ .breakpoint) :
    Silent d (d.emit kind bp) := by
  rw [emit_eq]
  exact ⟨[_], rfl, quiet_singleton other⟩

theorem silent_pauseWith (d : Debugger ρ) (bp : Option Breakpoint) (other : kind ≠ .breakpoint) :
    Silent d (d.pauseWith kind bp) := by
  rw [pauseWith_eq]
  exact ⟨_, rfl, (d.quiet_change .paused).append (quiet_singleton other)⟩

theorem silent_start (d : Debugger ρ) : Silent d d.start := by
  rw [start_eq]
  exact ⟨_, rfl, quiet_change _ .running⟩

theorem silent_reset (d : Debugger ρ) : Silent d d.reset := by
  rw [reset_eq]
  exact ⟨_, rfl, quiet_change _ .idle⟩

theorem silent_resume (d : Debugger ρ) : Silent d d.resume := by
  rw [resume_eq]
  exact ⟨_, rfl, (quiet_change _ .running).append (quiet_singleton nofun)⟩

theorem silent_beginStep (d : Debugger ρ) (mode : StepMode) : Silent d (d.beginStep mode) := by
  rcases Decidable.em (d.state = .idle) with asleep | active
  · rw [beginStep_of_idle asleep]
    exact silent_of_events rfl
  · rw [beginStep_eq active]
    exact ⟨_, rfl, quiet_change _ .stepping⟩

theorem silent_receives {r : Bool × Debugger ρ} {f : Fault} (h : d.Receives f r) :
    Silent d r.2 := by
  cases h with
  | ignored off | passed on mark => exact silent_of_events rfl
  | taken on unmarked => exact (d.faulted f).silent_pauseWith none nofun

theorem silent_atPause {α : Type} (d : Debugger ρ) (purpose : String)
    (snippet : Variables → Answer α) : Silent d (d.atPause purpose snippet).2 := by
  rw [atPause_eq]
  exact silent_of_events rfl

theorem silent_throttle (d : Debugger ρ) : Silent d d.throttle := by
  cases pace : d.pace.chunk with
  | none =>
      rw [throttle_of_free pace]
      exact silent_of_events rfl
  | some chunk =>
      rcases Decidable.em (d.speed = 0) with halt | moves
      · rw [throttle_of_halt pace halt]
        exact d.silent_pauseWith none nofun
      rcases Decidable.em (chunk ≤ d.lineCounter + 1) with full | within
      · rw [throttle_of_full pace moves full]
        exact silent_emit
          { d with
            runtime := Debuggee.requestStop d.runtime .throttle, lineCounter := 0,
            nextDelay := d.pace.delay, throttledLine := some d.currentLine } none nofun
      · rw [throttle_of_counted pace moves within]
        exact silent_of_events rfl

theorem silent_weigh (d : Debugger ρ) (resumed : Bool) : Silent d (d.weigh resumed) := by
  rw [weigh_eq]
  split
  · exact silent_pauseWith
      { d with
        skipStepCheck := d.skipStepCheck && d.stepMode.isNone, stepMode := none,
        lineCounter := 0 } none nofun
  · split
    · exact silent_of_events rfl
    · exact silent_throttle { d with skipStepCheck := d.skipStepCheck && d.stepMode.isNone }

/-! ## What an operation does to the breakpoints -/

/-- What an operation does to the breakpoints, and which hit it announces. -/
inductive Tallies (d : Debugger ρ) (op : Operation ρ) : Prop where
  /-- The breakpoints are edited, or stay as they are, and no hit is announced. -/
  | edits (es : List Event) (told : (op.apply d).events = op.register (d.events.tell es))
      (quiet : Quiet es) (stored : (op.apply d).breakpoints = op.edit d.breakpoints)
  /-- A breakpoint counts a hit, and announces it last. -/
  | counts (line : Nat) (bp : Breakpoint) (found : d.breakpoints.find? line = some bp)
      (es : List Event) (e : Event)
      (told : (op.apply d).events = op.register (d.events.tell (es ++ [e]))) (quiet : Quiet es)
      (on : bp.enabled = true) (reported : e.ReportsHit { bp with hits := bp.hits + 1 })
      (stored : (op.apply d).breakpoints = d.breakpoints.put { bp with hits := bp.hits + 1 })

variable {op : Operation ρ}

theorem Silent.tallies (h : Silent d (op.apply d)) (aside : ∀ b, op.register b = b)
    (stored : (op.apply d).breakpoints = op.edit d.breakpoints) : Tallies d op := by
  obtain ⟨es, htold, hquiet⟩ := h
  exact .edits es ((aside _).symm ▸ htold) hquiet stored

theorem tallies_onLine (hs : d.breakpoints.Registered) (line : LineId) :
    Tallies d (.onLine line) := by
  have hsilent : Silent d (d.onLine line) → (d.onLine line).breakpoints = d.breakpoints →
      Tallies d (.onLine line) := fun h stored => h.tallies (fun _ => rfl) stored
  rcases Decidable.em (d.state = .idle) with asleep | active
  · have hline := onLine_of_idle asleep line
    exact hsilent (hline ▸ silent_of_events rfl) (hline ▸ rfl)
  rcases Decidable.em (d.throttledLine = some line) with waited | arrived
  · have hline := onLine_of_waited active waited
    exact hsilent (hline ▸ silent_of_events rfl) (hline ▸ rfl)
  have hunbroken : ∀ runtime, d.Unbroken line runtime → Tallies d (.onLine line) := by
    intro runtime unbroken
    have hline := onLine_of_unbroken active arrived unbroken
    refine hsilent ?_ ?_
    · rw [hline]
      exact (d.weighed line runtime).silent_weigh (d.isMarked line)
    · rw [hline]
      exact (announces_weigh (d.weighed line runtime) (d.isMarked line)).breakpoints
  cases mark : d.isMarked line with
  | true => exact hunbroken d.runtime (.marked mark)
  | false =>
      cases hit : d.hits line with
      | false => exact hunbroken (d.tested line) (.missed mark hit)
      | true =>
          obtain ⟨bp, hfound, hline⟩ := onLine_of_hit active arrived mark hit
          obtain ⟨n, rfl, hstored⟩ := exists_of_breakpointOn hfound
          have happly := hline.trans (stopBefore_eq _ _ _)
          refine .counts n bp hstored _ _ (congrArg Debugger.events happly) (quiet_change _ _)
            (enabled_of_hits hfound hit) ⟨rfl, rfl, rfl, ?_⟩ (congrArg Debugger.breakpoints happly)
          exact congrArg LineId.number (hs.keyed hstored).symm

/-- Every operation edits the breakpoints, or counts a hit. -/
theorem tallies (hs : d.breakpoints.Registered) (op : Operation ρ) : Tallies d op := by
  cases op with
  | onLine line => exact tallies_onLine hs line
  | start => exact d.silent_start.tallies (fun _ => rfl) (announces_start d).breakpoints
  | reset => exact d.silent_reset.tallies (fun _ => rfl) (announces_reset d).breakpoints
  | pause =>
      have hsilent : Silent d d.pause := d.silent_pauseWith none nofun
      exact hsilent.tallies (fun _ => rfl) (announces_pause d).breakpoints
  | resume => exact d.silent_resume.tallies (fun _ => rfl) (announces_resume d).breakpoints
  | step mode =>
      exact (d.silent_beginStep mode).tallies (fun _ => rfl) (announces_beginStep d mode).breakpoints
  | handleError f =>
      exact (silent_receives (receives_handleError d f)).tallies (fun _ => rfl)
        (announces_handleError d f).breakpoints
  | eval | exec =>
      exact (d.silent_atPause _ _).tallies (fun _ => rfl) (announces_atPause d _ _).breakpoints
  | addBreakpoint | removeBreakpoint | toggleBreakpoint | clearBreakpoints | importBreakpoints
  | detach | setBreakOnError | setSpeed | setConditionTest | setEvaluator
  | useEvaluatorConditions | setSourceMap | subscribe | unsubscribe | act =>
      exact .edits [] rfl quiet_nil rfl

end Debugger

/-- The edits of an operation come down to changes of the store. -/
theorem Operation.edited {ρ : Type} (s : BreakpointStore) (op : Operation ρ) :
    BreakpointStore.Edited s (op.edit s) := by
  cases op with
  | addBreakpoint line condition => exact BreakpointStore.edited_add s line condition
  | removeBreakpoint line => exact BreakpointStore.edited_remove s line
  | toggleBreakpoint line => exact BreakpointStore.edited_toggle s line
  | clearBreakpoints => exact BreakpointStore.edited_clear s
  | importBreakpoints entries => exact BreakpointStore.edited_replaceAll s entries
  | _ => exact .refl

/-! ## The counts of a store -/

/-- The events of a breakpoint announce its hits one by one, and there are as many as it counts. -/
structure Breakpoint.Counted (bp : Breakpoint) (hits : List Event) : Prop where
  count : bp.hits = hits.length
  numbered : ∀ k (e : Event), hits[k]? = some e → e.ReportsHit { bp with enabled := true, hits := k + 1 }

/-- One more hit, and one more event that announces it. -/
theorem Breakpoint.Counted.hit {bp : Breakpoint} {hits : List Event} {e : Event}
    (h : bp.Counted hits) (on : bp.enabled = true)
    (reported : e.ReportsHit { bp with hits := bp.hits + 1 }) :
    Counted { bp with hits := bp.hits + 1 } (hits ++ [e]) := by
  obtain ⟨hcount, hnumbered⟩ := h
  refine ⟨?_, fun k e' hk => ?_⟩
  · rw [List.length_append, ← hcount]
    rfl
  · rw [List.getElem?_append] at hk
    split at hk
    · exact hnumbered k e' hk
    · next hlast =>
        -- The event behind the earlier hits is this one, and carries the new count.
        rw [List.getElem?_singleton] at hk
        split at hk
        · next hfirst =>
            obtain rfl : e = e' := Option.some.inj hk
            have hnew : k = bp.hits := by omega
            rw [hnew, ← on]
            exact reported
        · cases hk

namespace BreakpointStore

open Event

variable {s t : BreakpointStore} {heard es : List Event} {e : Event} {line : Nat} {bp : Breakpoint}

/-- The counts of a store agree with the events that were heard. -/
structure Tallied (s : BreakpointStore) (heard : List Event) : Prop where
  registered : s.Registered
  issued : ∀ e ∈ heard, ∀ id, e.isHitOf id = true → id ≤ s.lastId
  counted : ∀ line bp, s.find? line = some bp → bp.Counted (heard.filter (isHitOf bp.id))

theorem tallied_empty : Tallied ∅ [] where
  registered := registered_empty
  issued := fun _ hmem => absurd hmem List.not_mem_nil
  counted := fun _ _ found => nomatch found

/-- Edits keep the counts: no number is given twice, so a new breakpoint has nothing to count. -/
theorem Tallied.edited (h : s.Tallied heard) (hedit : Edited s t) (quiet : Quiet es) :
    t.Tallied (heard ++ es) := by
  have hrevises := hedit.revises h.registered
  have hfilter : ∀ id, (heard ++ es).filter (isHitOf id) = heard.filter (isHitOf id) := by
    intro id
    rw [List.filter_append, quiet.filter_isHitOf, List.append_nil]
  refine ⟨hedit.registered h.registered, fun e hmem id hhit => ?_, fun line bp found => ?_⟩
  · rcases List.mem_append.1 hmem with old | new
    · exact Nat.le_trans (h.issued e old id hhit) hrevises.last
    · have hnone : e ∈ es.filter (isHitOf id) := List.mem_filter.2 ⟨new, hhit⟩
      rw [quiet.filter_isHitOf] at hnone
      exact absurd hnone List.not_mem_nil
  · rw [hfilter]
    rcases hrevises.origin line bp found with ⟨old, hold, hbp⟩ | ⟨new, unhit⟩
    · obtain ⟨hcount, hnumbered⟩ := h.counted line old hold
      rw [hbp]
      exact ⟨hcount, hnumbered⟩
    · have hnone : heard.filter (isHitOf bp.id) = [] :=
        List.filter_eq_nil_iff.2 fun e hmem hhit =>
          absurd (h.issued e hmem bp.id hhit) (Nat.not_le_of_lt new)
      rw [hnone]
      refine ⟨unhit, fun k e hk => ?_⟩
      rw [List.getElem?_nil] at hk
      cases hk

/-- A hit adds one to the count of its breakpoint, and leaves the others alone. -/
theorem Tallied.hit (h : s.Tallied heard) (found : s.find? line = some bp) (quiet : Quiet es)
    (on : bp.enabled = true) (reported : e.ReportsHit { bp with hits := bp.hits + 1 }) :
    (s.put { bp with hits := bp.hits + 1 }).Tallied (heard ++ (es ++ [e])) := by
  have hfilter : ∀ id, (heard ++ (es ++ [e])).filter (isHitOf id) =
      heard.filter (isHitOf id) ++ if bp.id == id then [e] else [] := by
    intro id
    rw [List.filter_append, List.filter_append, quiet.filter_isHitOf, List.nil_append]
    rw [List.filter_cons, List.filter_nil, reported.isHitOf_eq]
  refine ⟨registered_put_of_find? h.registered found rfl rfl, fun e' hmem id hhit => ?_,
    fun line' bp' found' => ?_⟩
  · have hmem' := List.mem_filter.2 ⟨hmem, hhit⟩
    rw [hfilter] at hmem'
    rcases List.mem_append.1 hmem' with old | new
    · exact h.issued e' (List.mem_filter.1 old).1 id hhit
    · split at new
      · next hid =>
          have hissued := h.registered.issued found
          rw [beq_iff_eq.1 hid] at hissued
          exact hissued
      · exact absurd new List.not_mem_nil
  · rw [hfilter]
    rw [find?_put] at found'
    split at found'
    · cases found'
      dsimp only
      rw [if_pos (beq_self_eq_true bp.id)]
      exact (h.counted line bp found).hit on reported
    · next hother =>
        have hid : ¬ (bp.id == bp'.id) = true := by
          intro hsame
          have hline := h.registered.distinct found' found (beq_iff_eq.1 hsame).symm
          exact hother (hline.trans (h.registered.keyed found).symm)
        rw [if_neg hid, List.append_nil]
        exact h.counted line' bp' found'

end BreakpointStore

/-! ## Histories -/

namespace Debugger

variable {ρ : Type} [Debuggee ρ] {d : Debugger ρ} {id : ListenerId}

/-- A listener who knows the counts before an operation, and stays, knows them behind it. -/
theorem tallied_apply (hd : d.events.Numbered) (live : id ∈ d.events.listeners)
    (h : d.breakpoints.Tallied (d.events.heardBy id)) (op : Operation ρ) :
    (op.apply d).breakpoints.Tallied ((op.apply d).events.heardBy id) := by
  have hheard : ∀ es, (op.apply d).events = op.register (d.events.tell es) →
      (op.apply d).events.heardBy id = d.events.heardBy id ++ es := by
    intro es htold
    rw [htold, ← EventBus.heardBy_tell hd live, Operation.heardBy_register]
  cases tallies h.registered op with
  | edits es told quiet stored =>
      rw [hheard es told, stored]
      exact h.edited (op.edited d.breakpoints) quiet
  | counts line bp found es e told quiet on reported stored =>
      rw [hheard _ told, stored]
      exact h.hit found quiet on reported

theorem tallied_perform (hd : d.events.Numbered) (live : id ∈ d.events.listeners)
    (h : d.breakpoints.Tallied (d.events.heardBy id)) {ops : List (Operation ρ)}
    (listens : ∀ op ∈ ops, op.ends id = false) :
    (d.perform ops).breakpoints.Tallied ((d.perform ops).events.heardBy id) := by
  induction ops generalizing d with
  | nil => exact h
  | cons op ops ih =>
      have hlive : id ∈ (op.apply d).events.listeners :=
        (mem_listeners_apply d op id).2 (.inl ⟨live, listens op List.mem_cons_self⟩)
      exact ih (numbered_apply d op hd) hlive (tallied_apply hd live h op)
        fun op' hmem => listens op' (List.mem_cons_of_mem op hmem)

end Debugger

/--
Somebody listens from before the first operation of a history, and does not stop.  Every breakpoint
that the store lists behind the history stands on its own line, and counts as many hits as there
are events among those heard that carry its number.  The hits are numbered in the order in which
they were heard, from one on.  Each of them shows the breakpoint as it is now, but for the count
and for being switched on, and the program paused on the line of the breakpoint.
-/
theorem hit_counts_exact {ρ : Type} [Debuggee ρ] (runtime : ρ) (ops : List (Operation ρ))
    (listens : ∀ op ∈ ops, op.ends (Debugger.attach runtime).subscribe.1 = false) :
    let d := (Debugger.attach runtime).subscribe.2.perform ops
    let heard := d.events.heardBy (Debugger.attach runtime).subscribe.1
    ∀ bp ∈ d.breakpoints.toList, d.breakpoints.find? bp.line = some bp ∧
      bp.hits = (heard.filter (Event.isHitOf bp.id)).length ∧
      ∀ k e, (heard.filter (Event.isHitOf bp.id))[k]? = some e →
        e.kind = .breakpoint ∧ e.breakpoint = some { bp with enabled := true, hits := k + 1 } ∧
        e.snapshot.state = .paused ∧ e.snapshot.line = .number bp.line := by
  intro d heard bp hmem
  have htallied : d.breakpoints.Tallied heard :=
    Debugger.tallied_perform (EventBus.numbered_subscribe EventBus.numbered_empty)
      (List.mem_singleton_self _) BreakpointStore.tallied_empty listens
  obtain ⟨line, hfound⟩ := BreakpointStore.mem_toList_iff.1 hmem
  obtain ⟨hcount, hnumbered⟩ := htallied.counted line bp hfound
  have hline := htallied.registered.keyed hfound
  refine ⟨hline.symm ▸ hfound, hcount, fun k e hk => ?_⟩
  obtain ⟨hkind, hcarried, hpaused, hshown⟩ := hnumbered k e hk
  exact ⟨hkind, hcarried, hpaused, hshown⟩

/-- The program comes to a breakpoint, goes on, passes it while it is switched off, and comes to it
once more. -/
def visitingTwice : List (Operation Machine) :=
  [.addBreakpoint 10 none, .start, .onLine (.number 10), .resume, .onLine (.number 20),
    .toggleBreakpoint 10, .onLine (.number 10), .toggleBreakpoint 10, .onLine (.number 10)]

/-- Two of the three visits are hits, and both are heard. -/
theorem hit_counts_exact_visitingTwice :
    let d := (Debugger.attach Machine.initial).subscribe.2.perform visitingTwice
    (∀ op ∈ visitingTwice, op.ends (Debugger.attach Machine.initial).subscribe.1 = false) ∧
      (⟨1, 10, true, none, 2⟩ : Breakpoint) ∈ d.breakpoints.toList ∧
      ((d.events.heardBy 1).filter (Event.isHitOf 1)).length = 2 := by
  have hlistens : ∀ op ∈ visitingTwice,
      op.ends (Debugger.attach Machine.initial).subscribe.1 = false := by
    unfold visitingTwice
    simp [Operation.ends]
  have hmem : (⟨1, 10, true, none, 2⟩ : Breakpoint) ∈
      ((Debugger.attach Machine.initial).subscribe.2.perform visitingTwice).breakpoints.toList :=
    List.mem_singleton_self _
  obtain ⟨-, hcount, -⟩ := hit_counts_exact Machine.initial visitingTwice hlistens _ hmem
  exact ⟨hlistens, hmem, hcount.symm⟩

end LineBasic
