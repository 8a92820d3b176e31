import LineBasic.Breakpoint.Store

/-!
# What a store holds after a change

A store changes one breakpoint at a time, and every breakpoint that it holds was put there.  A
property that all new breakpoints have is therefore kept by every operation that puts no others.

## Main definitions

* `BreakpointStore.All`: every breakpoint of a store has a property.

## Main results

* `all_put`, `all_add`, `all_toggle`, `all_replaceAll` and others: what keeps a property.
-/

namespace LineBasic

namespace BreakpointStore

/-- Every breakpoint of a store has a property. -/
def All (P : Breakpoint → Prop) (s : BreakpointStore) : Prop :=
  ∀ line bp, s.find? line = some bp → P bp

variable {P : Breakpoint → Prop} {s : BreakpointStore}

theorem all_put (h : s.All P) {bp : Breakpoint} (hbp : P bp) : (s.put bp).All P := by
  intro line found hfound
  rw [find?_put] at hfound
  split at hfound
  · cases hfound
    exact hbp
  · exact h line found hfound

theorem all_add (h : s.All P) {line : Nat} {condition : Option String}
    (hbp : P (s.fresh line condition)) : (s.add line condition).2.All P :=
  all_put h hbp

theorem all_remove (h : s.All P) (line : Nat) : (s.remove line).2.All P := by
  intro line' found hfound
  rw [find?_remove] at hfound
  split at hfound
  · cases hfound
  · exact h line' found hfound

theorem all_clear (s : BreakpointStore) : s.clear.All P := by
  intro line found hfound
  simp at hfound

theorem all_toggle (h : s.All P) (line : Nat)
    (hswitch : ∀ bp, P bp → P { bp with enabled := !bp.enabled })
    (hnew : P (s.fresh line none)) : (s.toggle line).2.All P := by
  unfold toggle
  split
  · next bp hbp => exact all_put h (hswitch bp (h line bp hbp))
  · exact all_add h hnew

theorem all_replaceAll (s : BreakpointStore) {entries : List BreakpointEntry}
    (hentry : ∀ e ∈ entries, ∀ id,
      P ⟨id, e.line, true, e.condition, 0⟩ ∧ P ⟨id, e.line, e.enabled, e.condition, 0⟩) :
    (s.replaceAll entries).All P := by
  have hfold : ∀ t : BreakpointStore, t.All P → (entries.foldl addEntry t).All P := by
    induction entries with
    | nil => exact fun t ht => ht
    | cons e rest ih =>
        intro t ht
        obtain ⟨hnew, hset⟩ := hentry e List.mem_cons_self (t.lastId + 1)
        rw [List.foldl_cons]
        refine ih (fun e' he' => hentry e' (List.mem_cons_of_mem e he')) _ ?_
        exact all_put (all_add ht hnew) hset
  exact hfold _ (all_clear s)

end BreakpointStore

end LineBasic
