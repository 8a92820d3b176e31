import LineBasic.Breakpoint
import LineBasic.Snapshot

/-!
# Events and their listeners

The debugger announces what it does to whoever listens. Listeners are served in the order in which
they subscribed, and each by the events between its subscription and its end.

## Main definitions

* `Event`: an announcement, with the program at that moment.
* `EventBus`: the listeners, and the deliveries that nobody has collected yet.
* `emit`, `tell`: the delivery of one event, and of several.
-/

namespace LineBasic

/-- What an event announces. -/
inductive EventKind where
  | paused
  | resumed
  | step
  | error
  | breakpoint
  | stateChange
deriving DecidableEq, Repr

/-- The name of a kind of event. -/
def EventKind.name : EventKind → String
  | paused => "paused"
  | resumed => "resumed"
  | step => "step"
  | error => "error"
  | breakpoint => "breakpoint"
  | stateChange => "stateChange"

/-- An announcement. One of a breakpoint carries it. -/
structure Event where
  kind : EventKind
  snapshot : Snapshot
  breakpoint : Option Breakpoint

/-- An event as JSON; the breakpoint only if there is one. -/
def Event.toJson (e : Event) : Json :=
  Json.ofFields <|
    [("type", Json.ofString e.kind.name), ("snapshot", e.snapshot.toJson)] ++
    Json.optionalField "breakpoint" (e.breakpoint.map Breakpoint.toJson)

/-- What identifies a listener: subscriptions are numbered from one. -/
abbrev ListenerId := Nat

/-- The listeners in the order of their subscriptions, and what was delivered, the oldest first. -/
structure EventBus (ε : Type) where
  listeners : List ListenerId
  lastId : ListenerId
  delivered : List (ListenerId × ε)

namespace EventBus

variable {ε : Type}

/-- The bus without listeners. -/
def empty : EventBus ε := ⟨[], 0, []⟩

/-- Whether nobody listens. -/
def isEmpty (b : EventBus ε) : Bool := b.listeners.isEmpty

/-- Adds a listener. -/
def subscribe (b : EventBus ε) : ListenerId × EventBus ε :=
  (b.lastId + 1, { b with listeners := b.listeners ++ [b.lastId + 1], lastId := b.lastId + 1 })

/-- Takes a listener away, and tells whether it was there. -/
def unsubscribe (b : EventBus ε) (id : ListenerId) : Bool × EventBus ε :=
  (b.listeners.contains id, { b with listeners := b.listeners.filter (· != id) })

/-- Delivers an event to every listener. -/
def emit (b : EventBus ε) (event : ε) : EventBus ε :=
  { b with delivered := b.delivered ++ b.listeners.map fun id => (id, event) }

/-- The deliveries so far, and the bus after they are collected. -/
def collect (b : EventBus ε) : List (ListenerId × ε) × EventBus ε :=
  (b.delivered, { b with delivered := [] })

/-! ## Several events -/

/-- The bus once a list of events is delivered. -/
def tell (b : EventBus ε) (es : List ε) : EventBus ε := es.foldl emit b

@[simp] theorem tell_nil (b : EventBus ε) : b.tell [] = b := rfl

@[simp] theorem tell_cons (b : EventBus ε) (e : ε) (es : List ε) :
    b.tell (e :: es) = (b.emit e).tell es := rfl

@[simp] theorem tell_append (b : EventBus ε) (es es' : List ε) :
    b.tell (es ++ es') = (b.tell es).tell es' :=
  List.foldl_append

/-- Listeners hear events one by one, and each event in the order of the listeners. -/
theorem tell_eq (b : EventBus ε) (es : List ε) :
    b.tell es =
      { b with delivered := b.delivered ++ es.flatMap fun e => b.listeners.map fun id => (id, e) } := by
  induction es generalizing b with
  | nil => simp
  | cons e es ih =>
      rw [tell_cons, ih, List.flatMap_cons, ← List.append_assoc]
      rfl

/-- Without listeners nothing is delivered. -/
theorem emit_of_isEmpty {b : EventBus ε} (h : b.isEmpty = true) (e : ε) : b.emit e = b := by
  have hnone : b.listeners = [] := List.isEmpty_iff.1 h
  unfold emit
  rw [hnone, List.map_nil, List.append_nil, ← hnone]

end EventBus

end LineBasic
