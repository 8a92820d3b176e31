import Mathlib.Data.List.Induction
import Mathlib.Data.List.Nodup
import Mathlib.Data.List.TakeWhile
import LineBasic.Proofs.Announcements

/-!
# What listeners hear

A listener hears the events between its subscription and its end, and those only.  The debugger
does not know the listeners apart, so what an operation announces can be read off a single one, and
every other listener hears the same.  Two facts are left to prove.  The bus keeps its listeners in
the order of their numbers, with none twice, so that an event reaches each of them once and in the
order of their subscriptions.  And the changes of state that are announced form a chain: each
starts from the state that the one before reported.

## Main definitions

* `Operation.announced`: the events of an operation, as a single listener hears them.
* `IsLive`: a subscription has not been ended.
* `Delivers`: what an operation does for those who listen.
* `Hears`: what the listener of a subscription hears.

## Main results

* `exists_told`: every operation announces the same to any listeners.
* `mem_listeners_iff`: the listeners are those whose subscriptions are live.
* `heardBy_perform`: a listener hears what is announced until its end.
* `event_stream_faithful`: all of this for every history.
-/

namespace LineBasic

/-! ## The bus -/

namespace EventBus

variable {ε : Type} {b : EventBus ε} {id : ListenerId}

/-- What a listener has heard. -/
def heardBy (b : EventBus ε) (id : ListenerId) : List ε :=
  (b.delivered.filter fun delivery => delivery.1 == id).map Prod.snd

/-- Listeners are numbered in the order of their subscriptions, and only they hear anything. -/
structure Numbered (b : EventBus ε) : Prop where
  ascending : b.listeners.Pairwise (· < ·)
  known : ∀ id ∈ b.listeners, id ≤ b.lastId
  heard : ∀ delivery ∈ b.delivered, delivery.1 ≤ b.lastId

theorem numbered_empty : (empty : EventBus ε).Numbered := ⟨.nil, nofun, nofun⟩

theorem numbered_tell (hb : b.Numbered) (es : List ε) : (b.tell es).Numbered := by
  rw [tell_eq]
  refine ⟨hb.ascending, hb.known, fun delivery hmem => ?_⟩
  rcases List.mem_append.1 hmem with old | new
  · exact hb.heard delivery old
  · obtain ⟨e, -, hdelivery⟩ := List.mem_flatMap.1 new
    obtain ⟨id, hid, rfl⟩ := List.mem_map.1 hdelivery
    exact hb.known id hid

theorem numbered_subscribe (hb : b.Numbered) : b.subscribe.2.Numbered where
  ascending := by
    refine List.pairwise_append.2 ⟨hb.ascending, List.pairwise_singleton _ _, ?_⟩
    intro id hid new hnew
    rw [List.mem_singleton.1 hnew]
    exact Nat.lt_succ_of_le (hb.known id hid)
  known := by
    intro id hid
    rcases List.mem_append.1 hid with old | new
    · exact Nat.le_succ_of_le (hb.known id old)
    · exact Nat.le_of_eq (List.mem_singleton.1 new)
  heard := fun delivery hmem => Nat.le_succ_of_le (hb.heard delivery hmem)

theorem numbered_unsubscribe (hb : b.Numbered) (id : ListenerId) :
    (b.unsubscribe id).2.Numbered where
  ascending := hb.ascending.filter _
  known := fun other hmem => hb.known other (List.mem_filter.1 hmem).1
  heard := hb.heard

@[simp] theorem heardBy_emit (e : ε) :
    (b.emit e).heardBy id =
      b.heardBy id ++ (b.listeners.filter (· == id)).map fun _ => e := by
  unfold heardBy emit
  rw [List.filter_append, List.map_append, List.filter_map, List.map_map]
  rfl

/-- A listener hears every event once. -/
theorem heardBy_tell (hb : b.Numbered) (live : id ∈ b.listeners) (es : List ε) :
    (b.tell es).heardBy id = b.heardBy id ++ es := by
  induction es generalizing b with
  | nil => exact (List.append_nil _).symm
  | cons e es ih =>
      have honce : b.listeners.filter (· == id) = [id] := by
        rw [List.filter_beq, List.count_eq_one_of_mem hb.ascending.nodup live]
        rfl
      rw [tell_cons, ih (b := b.emit e) (numbered_tell hb [e]) live, heardBy_emit, honce, List.append_assoc]
      rfl

/-- Who does not listen hears nothing. -/
theorem heardBy_tell_of_notMem (gone : id ∉ b.listeners) (es : List ε) :
    (b.tell es).heardBy id = b.heardBy id := by
  induction es generalizing b with
  | nil => rfl
  | cons e es ih =>
      have hnone : b.listeners.filter (· == id) = [] := by
        refine List.filter_eq_nil_iff.2 fun other hmem hsame => gone ?_
        rw [← beq_iff_eq.1 hsame]
        exact hmem
      rw [tell_cons, ih (b := b.emit e) gone, heardBy_emit, hnone, List.map_nil, List.append_nil]

/-- Nobody has heard anything before the subscription. -/
theorem heardBy_of_lt (hb : b.Numbered) (new : b.lastId < id) : b.heardBy id = [] := by
  have hnone : (b.delivered.filter fun delivery => delivery.1 == id) = [] := by
    refine List.filter_eq_nil_iff.2 fun delivery hmem hsame => ?_
    rw [← beq_iff_eq.1 hsame] at new
    exact absurd (hb.heard delivery hmem) (Nat.not_le_of_lt new)
  unfold heardBy
  rw [hnone]
  rfl

end EventBus

/-! ## Operations and the bus -/

variable {ρ : Type}

namespace Operation

/-- Whether an operation is a subscription. -/
def isSubscription : Operation ρ → Bool
  | subscribe => true
  | _ => false

/-- Whether an operation ends a subscription. -/
def ends (id : ListenerId) : Operation ρ → Bool
  | unsubscribe other => id == other
  | _ => false

/-- What an operation does to the listeners. -/
def register (b : EventBus Event) : Operation ρ → EventBus Event
  | subscribe => b.subscribe.2
  | unsubscribe id => (b.unsubscribe id).2
  | _ => b

@[simp] theorem delivered_register (b : EventBus Event) (op : Operation ρ) :
    (op.register b).delivered = b.delivered := by
  cases op <;> rfl

/-- What was heard stays heard, whoever comes or goes. -/
@[simp] theorem heardBy_register (b : EventBus Event) (op : Operation ρ) (id : ListenerId) :
    (op.register b).heardBy id = b.heardBy id := by
  simp [EventBus.heardBy]

variable [Debuggee ρ]

/-- The events of an operation: what a listener hears that is alone with the debugger. -/
def announced (d : Debugger ρ) (op : Operation ρ) : List Event :=
  (op.apply { d with events := ⟨[0], 0, []⟩ }).events.delivered.map Prod.snd

end Operation

namespace Debugger

variable {d : Debugger ρ} {op : Operation ρ} {ops : List (Operation ρ)} {id : ListenerId}

/-! ## The same events for any listeners -/

theorem hits_events (d : Debugger ρ) (bus : EventBus Event) (line : LineId) :
    hits { d with events := bus } line = d.hits line := by
  rw [hits_eq, hits_eq]
  rfl

theorem tested_events (d : Debugger ρ) (bus : EventBus Event) (line : LineId) :
    tested { d with events := bus } line = d.tested line := by
  rw [tested_eq, tested_eq]
  rfl

theorem Unbroken.events {line : LineId} {runtime : ρ} (h : d.Unbroken line runtime)
    (bus : EventBus Event) : Unbroken { d with events := bus } line runtime := by
  cases h with
  | marked mark => exact .marked mark
  | missed mark miss =>
      rw [← tested_events d bus]
      exact .missed mark ((hits_events d bus line).trans miss)

variable [Debuggee ρ]

/-- The events of a history. -/
def announcedAlong (d : Debugger ρ) : List (Operation ρ) → List Event
  | [] => []
  | op :: ops => op.announced d ++ (op.apply d).announcedAlong ops

theorem told_onLine (d : Debugger ρ) (line : LineId) : Told (fun d => d.onLine line) d := by
  rcases Decidable.em (d.state = .idle) with asleep | active
  · exact (announces_id { d with currentLine := line, nextDelay := 0 }).told.congr
      (fun _ => onLine_of_idle (by exact asleep) line) rfl
  rcases Decidable.em (d.throttledLine = some line) with waited | arrived
  · exact (announces_id (d.noted line)).told.congr
      (fun _ => onLine_of_waited (by exact active) (by exact waited)) rfl
  have hunbroken : ∀ runtime, d.Unbroken line runtime → Told (fun d => d.onLine line) d :=
    fun runtime unbroken =>
      (announces_weigh (d.weighed line runtime) (d.isMarked line)).told.congr
        (fun bus => onLine_of_unbroken (by exact active) (by exact arrived)
          (unbroken.events bus)) rfl
  cases mark : d.isMarked line with
  | true => exact hunbroken d.runtime (.marked mark)
  | false =>
      cases hit : d.hits line with
      | false => exact hunbroken (d.tested line) (.missed mark hit)
      | true =>
          obtain ⟨bp, hfound, -⟩ := onLine_of_hit active arrived mark hit
          refine (announces_stopBefore
            { d.weighed line (d.tested line) with
              breakpoints := d.breakpoints.put { bp with hits := bp.hits + 1 } }
            .breakpoint (some { bp with hits := bp.hits + 1 }) (by decide)).told.congr
            (fun bus => ?_) rfl
          -- For any listeners the breakpoint that hits is the same, and so is its test.
          obtain ⟨bp', hfound', hline⟩ := onLine_of_hit (d := { d with events := bus })
            active arrived mark ((hits_events d bus line).trans hit)
          obtain rfl : bp = bp' := Option.some.inj (hfound.symm.trans hfound')
          dsimp only
          rw [hline, tested_events]
          rfl

/-- Every operation announces the same to any listeners. -/
theorem exists_told (d : Debugger ρ) (op : Operation ρ) :
    ∃ es, (∀ bus, op.apply { d with events := bus } =
        { op.apply d with events := op.register (bus.tell es) }) ∧
      Reports d.state (op.apply d).state es := by
  cases op with
  | start => exact (announces_start d).told
  | reset => exact (announces_reset d).told
  | pause => exact (announces_pause d).told
  | resume => exact (announces_resume d).told
  | step mode => exact (announces_beginStep d mode).told
  | onLine line => exact told_onLine d line
  | handleError f => exact (announces_handleError d f).told
  | eval | exec => exact (announces_atPause d _ _).told
  | detach | setBreakOnError | setSpeed | addBreakpoint | removeBreakpoint | toggleBreakpoint
  | clearBreakpoints | importBreakpoints | setConditionTest | setEvaluator
  | useEvaluatorConditions | setSourceMap | subscribe | unsubscribe | act =>
      exact ⟨[], fun _ => rfl, reports_nothing _⟩

/-- The events of an operation, and what they report. -/
theorem told_announced (d : Debugger ρ) (op : Operation ρ) :
    (∀ bus, op.apply { d with events := bus } =
        { op.apply d with events := op.register (bus.tell (op.announced d)) }) ∧
      Reports d.state (op.apply d).state (op.announced d) := by
  obtain ⟨es, htells, hreports⟩ := exists_told d op
  have hannounced : op.announced d = es := by
    unfold Operation.announced
    rw [htells]
    show (op.register _).delivered.map Prod.snd = es
    rw [Operation.delivered_register, EventBus.tell_eq]
    show ([] ++ es.flatMap fun e => [((0 : ListenerId), e)]).map Prod.snd = es
    rw [List.nil_append, ← List.map_eq_flatMap, List.map_map]
    exact List.map_id es
  rw [hannounced]
  exact ⟨htells, hreports⟩

theorem events_apply (d : Debugger ρ) (op : Operation ρ) :
    (op.apply d).events = op.register (d.events.tell (op.announced d)) :=
  congrArg Debugger.events ((d.told_announced op).1 d.events)

/-! ## Who listens -/

theorem lastId_apply (d : Debugger ρ) (op : Operation ρ) :
    (op.apply d).events.lastId = d.events.lastId + [op].countP Operation.isSubscription := by
  rw [events_apply, EventBus.tell_eq]
  cases op <;> rfl

theorem mem_listeners_apply (d : Debugger ρ) (op : Operation ρ) (id : ListenerId) :
    id ∈ (op.apply d).events.listeners ↔
      id ∈ d.events.listeners ∧ op.ends id = false ∨
        op.isSubscription = true ∧ id = d.events.lastId + 1 := by
  rw [events_apply, EventBus.tell_eq]
  cases op with
  | subscribe =>
      show id ∈ d.events.listeners ++ [d.events.lastId + 1] ↔ _
      simp [Operation.ends, Operation.isSubscription]
  | unsubscribe other =>
      show id ∈ d.events.listeners.filter (· != other) ↔ _
      simp [Operation.ends, Operation.isSubscription]
  | _ => simp [Operation.register, Operation.ends, Operation.isSubscription]

theorem numbered_apply (d : Debugger ρ) (op : Operation ρ) (hd : d.events.Numbered) :
    (op.apply d).events.Numbered := by
  rw [events_apply]
  have htold := EventBus.numbered_tell hd (op.announced d)
  cases op with
  | subscribe => exact EventBus.numbered_subscribe htold
  | unsubscribe id => exact EventBus.numbered_unsubscribe htold id
  | _ => exact htold

end Debugger

/-- The subscription with a number has been made, and has not been ended since. -/
def IsLive (ops : List (Operation ρ)) (id : ListenerId) : Prop :=
  ∃ before rest, ops = before ++ .subscribe :: rest ∧
    id = before.countP Operation.isSubscription + 1 ∧ ∀ op ∈ rest, op.ends id = false

theorem isLive_concat (ops : List (Operation ρ)) (op : Operation ρ) (id : ListenerId) :
    IsLive (ops ++ [op]) id ↔
      IsLive ops id ∧ op.ends id = false ∨
        op.isSubscription = true ∧ id = ops.countP Operation.isSubscription + 1 := by
  constructor
  · rintro ⟨before, rest, hops, hid, hends⟩
    rcases List.eq_nil_or_concat rest with rfl | ⟨rest, last, rfl⟩
    · obtain ⟨rfl, hop⟩ := List.append_inj' hops rfl
      cases hop
      exact .inr ⟨rfl, hid⟩
    · rw [List.concat_eq_append, ← List.cons_append, ← List.append_assoc] at hops
      obtain ⟨rfl, hop⟩ := List.append_inj' hops rfl
      cases hop
      rw [List.concat_eq_append] at hends
      refine .inl ⟨⟨before, rest, rfl, hid, fun op hmem => ?_⟩, ?_⟩
      · exact hends op (List.mem_append_left _ hmem)
      · exact hends _ (List.mem_append_right _ (List.mem_singleton_self _))
  · rintro (⟨⟨before, rest, rfl, hid, hends⟩, hend⟩ | ⟨hop, hid⟩)
    · refine ⟨before, rest ++ [op], List.append_assoc _ _ _, hid, fun op' hmem => ?_⟩
      rcases List.mem_append.1 hmem with old | new
      · exact hends op' old
      · rw [List.mem_singleton.1 new]
        exact hend
    · cases op <;> cases hop
      exact ⟨ops, [], rfl, hid, nofun⟩

namespace Debugger

variable [Debuggee ρ] {d : Debugger ρ} {id : ListenerId}

theorem numbered_perform (runtime : ρ) (ops : List (Operation ρ)) :
    ((attach runtime).perform ops).events.Numbered :=
  perform_induction numbered_apply EventBus.numbered_empty ops

/-- Listeners are numbered by their subscriptions, and are those whose subscriptions are live. -/
theorem mem_listeners_iff (runtime : ρ) (ops : List (Operation ρ)) :
    ((attach runtime).perform ops).events.lastId = ops.countP Operation.isSubscription ∧
      ∀ id, id ∈ ((attach runtime).perform ops).events.listeners ↔ IsLive ops id := by
  induction ops using List.reverseRecOn with
  | nil =>
      refine ⟨rfl, fun id => iff_of_false nofun ?_⟩
      rintro ⟨before, rest, hops, -, -⟩
      cases before <;> cases hops
  | append_singleton ops op ih =>
      obtain ⟨hlast, hlive⟩ := ih
      rw [perform_append, perform_cons, perform_nil, lastId_apply, hlast, List.countP_append]
      refine ⟨rfl, fun id => ?_⟩
      rw [mem_listeners_apply, isLive_concat, hlive, hlast]

/-! ## What one listener hears -/

theorem heardBy_apply (hd : d.events.Numbered) (live : id ∈ d.events.listeners)
    (op : Operation ρ) :
    (op.apply d).events.heardBy id = d.events.heardBy id ++ op.announced d := by
  rw [events_apply, ← EventBus.heardBy_tell hd live, Operation.heardBy_register]

/-- A subscription that has been ended is over for good. -/
theorem heardBy_perform_of_notMem (gone : id ∉ d.events.listeners) (old : id ≤ d.events.lastId)
    (ops : List (Operation ρ)) : (d.perform ops).events.heardBy id = d.events.heardBy id := by
  induction ops generalizing d with
  | nil => rfl
  | cons op ops ih =>
      have hgone : id ∉ (op.apply d).events.listeners := by
        rw [mem_listeners_apply]
        rintro (⟨live, -⟩ | ⟨-, new⟩)
        · exact gone live
        · exact absurd (new ▸ old) (Nat.not_succ_le_self _)
      have hold : id ≤ (op.apply d).events.lastId := by
        rw [lastId_apply]
        exact Nat.le_add_right_of_le old
      rw [perform_cons, ih hgone hold, events_apply, Operation.heardBy_register,
        EventBus.heardBy_tell_of_notMem gone]

/-- A listener hears what is announced until its end. -/
theorem heardBy_perform (hd : d.events.Numbered) (live : id ∈ d.events.listeners)
    (ops : List (Operation ρ)) :
    (d.perform ops).events.heardBy id =
      d.events.heardBy id ++ d.announcedAlong (ops.takeWhile fun op => !op.ends id) := by
  induction ops generalizing d with
  | nil => exact (List.append_nil _).symm
  | cons op ops ih =>
      rw [perform_cons, List.takeWhile_cons]
      cases hend : op.ends id with
      | false =>
          have hlive : id ∈ (op.apply d).events.listeners :=
            (mem_listeners_apply d op id).2 (.inl ⟨live, hend⟩)
          rw [ih (numbered_apply d op hd) hlive, heardBy_apply hd live, List.append_assoc]
          rfl
      | true =>
          have hgone : id ∉ (op.apply d).events.listeners := by
            rw [mem_listeners_apply]
            rintro (⟨-, going⟩ | ⟨hsubscribes, -⟩)
            · cases hend.symm.trans going
            · cases op <;> cases hsubscribes
              cases hend
          -- The end of a subscription is announced to nobody, so nothing is lost by leaving it out.
          have hquiet : op.announced d = [] := by
            cases op with
            | unsubscribe => rfl
            | _ => cases hend
          have hold : id ≤ (op.apply d).events.lastId := by
            rw [lastId_apply]
            exact Nat.le_add_right_of_le (hd.known id live)
          rw [heardBy_perform_of_notMem hgone hold, heardBy_apply hd live, hquiet]
          rfl

/-- The changes of state that a history announces start from the state before it, differ each from
the one before, and end with the state behind it. -/
theorem newStates_announcedAlong (d : Debugger ρ) (ops : List (Operation ρ)) :
    (d.state :: Event.newStates (d.announcedAlong ops)).IsChain (· ≠ ·) ∧
      (Event.newStates (d.announcedAlong ops)).getLast?.getD d.state = (d.perform ops).state := by
  induction ops generalizing d with
  | nil => exact ⟨.singleton _, rfl⟩
  | cons op ops ih =>
      obtain ⟨hchain, hlast⟩ := ih (op.apply d)
      have hsplit : Event.newStates (d.announcedAlong (op :: ops)) =
          Event.newStates (op.announced d) ++
            Event.newStates ((op.apply d).announcedAlong ops) := List.filterMap_append
      -- One operation adds a link to the front of the chain, or none if the state stays.
      rw [hsplit, (d.told_announced op).2.states, perform_cons, ← hlast]
      split
      · next hsame =>
          rw [← hsame] at hchain ⊢
          exact ⟨hchain, rfl⟩
      · next hother =>
          refine ⟨List.isChain_cons_cons.2 ⟨hother, hchain⟩, ?_⟩
          rw [List.singleton_append, List.getLast?_cons]
          rfl

/-! ## Pauses -/

/-- An operation asks the runtime for one stop, a pause.  Nothing else happens to the runtime, apart
from a test of the condition on a line. -/
def StopsOnce (d : Debugger ρ) (op : Operation ρ) : Prop :=
  ∃ runtime, (runtime = d.runtime ∨ ∃ line, op = .onLine line ∧ runtime = d.tested line) ∧
    (op.apply d).runtime = Debuggee.requestStop runtime .pause

theorem looks_stopsOnce {d' : Debugger ρ} {line : LineId} (h : Looks d line d')
    (moves : d.state ≠ .paused) (paused : d'.state = .paused) :
    ∃ runtime, (runtime = d.runtime ∨ runtime = d.tested line) ∧
      d'.runtime = Debuggee.requestStop runtime .pause := by
  cases h with
  | idle | reentry | resumed | waits | runs => exact absurd paused moves
  | broken | halted => exact ⟨d.tested line, .inr rfl, rfl⟩
  | stepped _ _ runtime unbroken =>
      cases unbroken with
      | marked => exact ⟨d.runtime, .inl rfl, rfl⟩
      | missed => exact ⟨d.tested line, .inr rfl, rfl⟩

theorem receives_stopsOnce {r : Bool × Debugger ρ} {f : Fault} (h : d.Receives f r)
    (moves : d.state ≠ .paused) (paused : r.2.state = .paused) :
    r.2.runtime = Debuggee.requestStop d.runtime .pause := by
  cases h with
  | ignored | passed => exact absurd paused moves
  | taken => exact congrArg Debugger.runtime (pauseWith_eq _ _ _)

/-- An operation that pauses the program asks for one stop. -/
theorem stopsOnce_of_paused {op : Operation ρ} (moves : d.state ≠ .paused)
    (paused : (op.apply d).state = .paused) : StopsOnce d op := by
  cases op with
  | start | reset | resume => simp [Operation.apply] at paused
  | step mode =>
      rcases Decidable.em (d.state = .idle) with asleep | active
      · simp [Operation.apply, asleep] at paused
      · simp [Operation.apply, active] at paused
  | pause => exact ⟨d.runtime, .inl rfl, congrArg Debugger.runtime (pauseWith_eq _ _ _)⟩
  | handleError f =>
      exact ⟨d.runtime, .inl rfl, receives_stopsOnce (receives_handleError d f) moves paused⟩
  | onLine line =>
      obtain ⟨runtime, hruntime, hstop⟩ := looks_stopsOnce (looks_onLine d line) moves paused
      exact ⟨runtime, hruntime.imp_right fun h => ⟨line, rfl, h⟩, hstop⟩
  | eval expression => exact absurd (by simpa [Operation.apply, eval] using paused) moves
  | exec statement => exact absurd (by simpa [Operation.apply, exec] using paused) moves
  | detach | setBreakOnError | setSpeed | addBreakpoint | removeBreakpoint | toggleBreakpoint
  | clearBreakpoints | importBreakpoints | setConditionTest | setEvaluator
  | useEvaluatorConditions | setSourceMap | subscribe | unsubscribe | act =>
      exact absurd paused moves

/-! ## The stream as a whole -/

/-- What an operation does for those who listen. -/
structure Delivers (d : Debugger ρ) (op : Operation ρ) : Prop where
  /-- Each event reaches each listener once, and those who subscribed first come first. -/
  delivered : (op.apply d).events.delivered =
    d.events.delivered ++ (op.announced d).flatMap fun e => d.events.listeners.map fun id => (id, e)
  /-- A change of the state is reported once, with the new state. -/
  states : Event.newStates (op.announced d) =
    if d.state = (op.apply d).state then [] else [(op.apply d).state]
  /-- A pause takes one stop, and is reported with its reason behind the change of the state. -/
  pause : d.state ≠ .paused → (op.apply d).state = .paused →
    StopsOnce d op ∧
      ∃ kind ∈ EventKind.pausing, (op.announced d).map Event.kind = [.stateChange, kind]

/-- What the listener hears that subscribes now, while the operations `rest` follow. -/
structure Hears (d : Debugger ρ) (rest : List (Operation ρ)) : Prop where
  events : (d.subscribe.2.perform rest).events.heardBy d.subscribe.1 =
    d.subscribe.2.announcedAlong (rest.takeWhile fun op => !op.ends d.subscribe.1)
  /-- No change of the state is reported twice in a row. -/
  changes : (d.state :: Event.newStates
    ((d.subscribe.2.perform rest).events.heardBy d.subscribe.1)).IsChain (· ≠ ·)
  /-- Who still listens knows the state. -/
  last : (∀ op ∈ rest, op.ends d.subscribe.1 = false) →
    (Event.newStates
      ((d.subscribe.2.perform rest).events.heardBy d.subscribe.1)).getLast?.getD d.state =
        (d.subscribe.2.perform rest).state

theorem delivers (d : Debugger ρ) (op : Operation ρ) : Delivers d op where
  delivered := by
    rw [events_apply, Operation.delivered_register, EventBus.tell_eq]
  states := (d.told_announced op).2.states
  pause := fun moves paused =>
    ⟨stopsOnce_of_paused moves paused, (d.told_announced op).2.pause moves paused⟩

theorem hears (hd : d.events.Numbered) (rest : List (Operation ρ)) : Hears d rest := by
  have hlive : d.subscribe.1 ∈ d.subscribe.2.events.listeners :=
    List.mem_append_right _ (List.mem_singleton_self _)
  have hnew : d.subscribe.2.events.heardBy d.subscribe.1 = [] :=
    EventBus.heardBy_of_lt (b := d.events) hd (Nat.lt_succ_self _)
  have hevents := heardBy_perform (EventBus.numbered_subscribe hd) hlive rest
  rw [hnew, List.nil_append] at hevents
  obtain ⟨hchain, hlast⟩ := d.subscribe.2.newStates_announcedAlong
    (rest.takeWhile fun op => !op.ends d.subscribe.1)
  refine ⟨hevents, hevents ▸ hchain, fun hends => ?_⟩
  have hall : (rest.takeWhile fun op => !op.ends d.subscribe.1) = rest :=
    List.takeWhile_eq_self_iff.2 fun op hmem => by rw [hends op hmem]; rfl
  rw [hevents]
  exact hlast.trans (by rw [hall])

end Debugger

/--
Anything happens to a debugger and its runtime, and listeners come and go.  Every operation delivers
its events to whoever listens, in the order of the subscriptions, and reports the state it leads
to; one that pauses the program asks for one stop.  The listeners are numbered by their
subscriptions and listen until they are taken away, which succeeds for those who do and for no
others.  Each hears just what is announced in between, so that it knows the state at all times.
-/
theorem event_stream_faithful [Debuggee ρ] (runtime : ρ) (ops : List (Operation ρ)) :
    let d := (Debugger.attach runtime).perform ops
    (∀ op, Debugger.Delivers d op) ∧
    d.events.listeners.Pairwise (· < ·) ∧
    (∀ id, id ∈ d.events.listeners ↔ IsLive ops id) ∧
    (∀ id, (d.unsubscribe id).1 = true ↔ IsLive ops id) ∧
    ∀ before rest, ops = before ++ .subscribe :: rest →
      ((Debugger.attach runtime).perform before).subscribe.1 =
          before.countP Operation.isSubscription + 1 ∧
        Debugger.Hears ((Debugger.attach runtime).perform before) rest := by
  intro d
  have hlive := (Debugger.mem_listeners_iff runtime ops).2
  refine ⟨d.delivers, (Debugger.numbered_perform runtime ops).ascending, hlive, fun id => ?_, ?_⟩
  · rw [← hlive id]
    exact List.contains_iff_mem
  · rintro before rest -
    refine ⟨?_, Debugger.hears (Debugger.numbered_perform runtime before) rest⟩
    exact congrArg (· + 1) (Debugger.mem_listeners_iff runtime before).1

end LineBasic
