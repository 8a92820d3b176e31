import LineBasic.Proofs.BreakpointNumbers

/-!
# The breakpoints that were ever created

A store shows the breakpoints that stand now.  Which numbers it has given cannot be told from them: a
breakpoint is taken off, or another takes its place, and a document that lists a line twice gives that
line a breakpoint which nobody ever sees, because the later entry replaces it while the document is
still being read.

So breakpoints are written down here as they are created, along any sequence of edits.  Their numbers
are 1, 2, 3 and so on, whatever becomes of the breakpoints.  And a store shows no others: each of its
breakpoints is one of those, on the line and with the condition that it was created with.

## Main definitions

* `BreakpointStore.Edit`: what a store is asked to do.
* `edit`, `editAll`: the store behind one edit, and behind a sequence of them.
* `created`, `createdAlong`: the breakpoints that are created on the way.
* `Creates`: the two belong together.

## Main results

* `creates_edit`, `creates_editAll`: edits create the breakpoints that are written down.
* `registered_editAll`: edits keep numbers apart.
* `find?_of_created`: what an edit creates is found in the store behind it.
* `numbers_given_once`: numbers and creations together, for every sequence of edits of a new store.
-/

namespace LineBasic

/-- One breakpoint at two times: its switch and its hits may have changed. -/
def Breakpoint.IsVersionOf (bp old : Breakpoint) : Prop :=
  bp = { old with enabled := bp.enabled, hits := bp.hits }

theorem Breakpoint.IsVersionOf.trans {bp old oldest : Breakpoint} (h : bp.IsVersionOf old)
    (h' : old.IsVersionOf oldest) : bp.IsVersionOf oldest := by
  unfold IsVersionOf at h h'
  rw [h, h']
  rfl

namespace BreakpointStore

variable {s t u : BreakpointStore} {bp bp' : Breakpoint} {new new' : List Breakpoint}

/-! ## Edits -/

/-- What a store is asked to do. -/
inductive Edit where
  | add (line : Nat) (condition : Option String)
  | remove (line : Nat)
  | toggle (line : Nat)
  | clear
  /-- A document is read in the place of all breakpoints. -/
  | replaceAll (entries : List BreakpointEntry)
  /-- The program comes to a breakpoint. -/
  | hit (line : Nat)

/-- The store behind an edit. -/
def edit (s : BreakpointStore) : Edit → BreakpointStore
  | .add line condition => (s.add line condition).2
  | .remove line => (s.remove line).2
  | .toggle line => (s.toggle line).2
  | .clear => s.clear
  | .replaceAll entries => s.replaceAll entries
  | .hit line => ((s.hit line).map Prod.snd).getD s

/-- The store behind a sequence of edits. -/
def editAll (s : BreakpointStore) (edits : List Edit) : BreakpointStore := edits.foldl edit s

/-- The breakpoints that the entries of a document create, those that later entries replace included. -/
def createdBy (s : BreakpointStore) : List BreakpointEntry → List Breakpoint
  | [] => []
  | e :: rest => (s.add e.line e.condition).1 :: (s.addEntry e).createdBy rest

/-- The breakpoints that an edit creates, in the order of their creation. -/
def created (s : BreakpointStore) : Edit → List Breakpoint
  | .add line condition => [(s.add line condition).1]
  | .toggle line => if s.contains line then [] else [(s.toggle line).1]
  | .replaceAll entries => s.clear.createdBy entries
  | .remove _ | .clear | .hit _ => []

/-- The breakpoints that a sequence of edits creates, in the order of their creation. -/
def createdAlong (s : BreakpointStore) : List Edit → List Breakpoint
  | [] => []
  | e :: edits => s.created e ++ (s.edit e).createdAlong edits

/-! ## What edits create -/

/-- On the way from one store to another breakpoints are created, and given the next numbers in turn.
The later store shows none but these and those that were there. -/
structure Creates (s : BreakpointStore) (new : List Breakpoint) (t : BreakpointStore) : Prop where
  numbered : new.map Breakpoint.id = List.range' (s.lastId + 1) new.length
  last : t.lastId = s.lastId + new.length
  origin : ∀ bp ∈ t.toList, ∃ old ∈ s.toList ++ new, bp.IsVersionOf old

theorem creates_nothing (last : t.lastId = s.lastId)
    (origin : ∀ bp ∈ t.toList, ∃ old ∈ s.toList, bp.IsVersionOf old) : Creates s [] t :=
  ⟨rfl, last, fun bp hmem => (s.toList.append_nil).symm ▸ origin bp hmem⟩

theorem Creates.trans (h : Creates s new t) (h' : Creates t new' u) :
    Creates s (new ++ new') u where
  numbered := by
    rw [List.map_append, h.numbered, h'.numbered, h.last, List.length_append,
      ← List.range'_append_1, Nat.add_right_comm]
  last := by rw [h'.last, h.last, List.length_append, Nat.add_assoc]
  origin := by
    intro bp hmem
    obtain ⟨old, hold, hversion⟩ := h'.origin bp hmem
    rcases List.mem_append.1 hold with hold | hold
    · obtain ⟨oldest, holdest, hversion'⟩ := h.origin old hold
      refine ⟨oldest, ?_, hversion.trans hversion'⟩
      rw [← List.append_assoc]
      exact List.mem_append_left new' holdest
    · refine ⟨old, ?_, hversion⟩
      rw [← List.append_assoc]
      exact List.mem_append_right _ hold

/-- What a store shows behind a change was put there, or was there before. -/
theorem mem_toList_put (h : bp' ∈ (s.put bp).toList) : bp' = bp ∨ bp' ∈ s.toList := by
  obtain ⟨line, hfound⟩ := mem_toList_iff.1 h
  rw [find?_put] at hfound
  split at hfound
  · exact .inl (Option.some.inj hfound).symm
  · exact .inr (mem_toList_iff.2 ⟨line, hfound⟩)

theorem creates_add (s : BreakpointStore) (line : Nat) (condition : Option String) :
    Creates s [(s.add line condition).1] (s.add line condition).2 := by
  refine ⟨rfl, rfl, fun bp hmem => ?_⟩
  have hput : bp ∈ (s.put (s.fresh line condition)).toList := hmem
  rcases mem_toList_put hput with rfl | hold
  · exact ⟨_, List.mem_append_right _ (.head _), rfl⟩
  · exact ⟨bp, List.mem_append_left _ hold, rfl⟩

/-- A breakpoint is put in the place of an older version of it. -/
theorem creates_put {line : Nat} (found : s.find? line = some bp) (version : bp'.IsVersionOf bp) :
    Creates s [] (s.put bp') := by
  refine creates_nothing rfl fun bp'' hmem => ?_
  rcases mem_toList_put hmem with rfl | hold
  · exact ⟨bp, mem_toList_iff.2 ⟨line, found⟩, version⟩
  · exact ⟨bp'', hold, rfl⟩

/-- Breakpoints are taken off. -/
theorem creates_removed (last : t.lastId = s.lastId)
    (kept : ∀ line bp, t.find? line = some bp → s.find? line = some bp) : Creates s [] t := by
  refine creates_nothing last fun bp hmem => ?_
  obtain ⟨line, hfound⟩ := mem_toList_iff.1 hmem
  exact ⟨bp, mem_toList_iff.2 ⟨line, kept line bp hfound⟩, rfl⟩

theorem creates_clear (s : BreakpointStore) : Creates s [] s.clear :=
  creates_removed rfl fun _ _ found => nomatch found

theorem creates_remove (s : BreakpointStore) (line : Nat) : Creates s [] (s.remove line).2 := by
  refine creates_removed rfl fun line' bp found => ?_
  rw [find?_remove] at found
  split at found
  · cases found
  · exact found

@[simp] theorem created_toggle_of_some {line : Nat} (found : s.find? line = some bp) :
    s.created (.toggle line) = [] := by
  simp [created, found]

@[simp] theorem created_toggle_of_none {line : Nat} (missing : s.find? line = none) :
    s.created (.toggle line) = [(s.add line none).1] := by
  simp [created, missing]

theorem creates_toggle (s : BreakpointStore) (line : Nat) :
    Creates s (s.created (.toggle line)) (s.toggle line).2 := by
  cases hfound : s.find? line with
  | some bp =>
      rw [created_toggle_of_some hfound, toggle_of_some hfound]
      exact creates_put hfound rfl
  | none =>
      rw [created_toggle_of_none hfound, toggle_of_none hfound]
      exact creates_add s line none

theorem creates_addEntry (s : BreakpointStore) (e : BreakpointEntry) :
    Creates s [(s.add e.line e.condition).1] (s.addEntry e) := by
  have hfound : (s.add e.line e.condition).2.find? e.line = some (s.fresh e.line e.condition) := by
    simp
  have hswitched : Creates (s.add e.line e.condition).2 [] (s.addEntry e) := creates_put hfound rfl
  exact (creates_add s e.line e.condition).trans hswitched

theorem creates_foldl (entries : List BreakpointEntry) (s : BreakpointStore) :
    Creates s (s.createdBy entries) (entries.foldl addEntry s) := by
  induction entries generalizing s with
  | nil => exact creates_nothing rfl fun bp hmem => ⟨bp, hmem, rfl⟩
  | cons e rest ih => exact (creates_addEntry s e).trans (ih (s.addEntry e))

@[simp] theorem edit_hit_of_some {line : Nat} (found : s.find? line = some bp) :
    s.edit (.hit line) = s.put { bp with hits := bp.hits + 1 } := by
  change ((s.hit line).map Prod.snd).getD s = _
  unfold hit
  rw [found]
  rfl

@[simp] theorem edit_hit_of_none {line : Nat} (missing : s.find? line = none) : s.edit (.hit line) = s := by
  change ((s.hit line).map Prod.snd).getD s = _
  unfold hit
  rw [missing]
  rfl

theorem creates_hit (s : BreakpointStore) (line : Nat) : Creates s [] (s.edit (.hit line)) := by
  cases hfound : s.find? line with
  | some bp =>
      rw [edit_hit_of_some hfound]
      exact creates_put hfound rfl
  | none =>
      rw [edit_hit_of_none hfound]
      exact creates_nothing rfl fun bp hmem => ⟨bp, hmem, rfl⟩

/-- An edit creates the breakpoints that are written down for it. -/
theorem creates_edit (s : BreakpointStore) (e : Edit) : Creates s (s.created e) (s.edit e) := by
  cases e with
  | add line condition => exact creates_add s line condition
  | remove line => exact creates_remove s line
  | toggle line => exact creates_toggle s line
  | clear => exact creates_clear s
  | replaceAll entries => exact (creates_clear s).trans (creates_foldl entries s.clear)
  | hit line => exact creates_hit s line

theorem creates_editAll (edits : List Edit) (s : BreakpointStore) :
    Creates s (s.createdAlong edits) (s.editAll edits) := by
  induction edits generalizing s with
  | nil => exact creates_nothing rfl fun bp hmem => ⟨bp, hmem, rfl⟩
  | cons e edits ih => exact (creates_edit s e).trans (ih (s.edit e))

/-! ## Numbers apart -/

theorem registered_edit (h : s.Registered) (e : Edit) : (s.edit e).Registered := by
  cases e with
  | add line condition => exact registered_add h line condition
  | remove line => exact (edited_remove s line).registered h
  | toggle line => exact (edited_toggle s line).registered h
  | clear => exact (edited_clear s).registered h
  | replaceAll entries => exact (edited_replaceAll s entries).registered h
  | hit line =>
      cases hfound : s.find? line with
      | some bp =>
          rw [edit_hit_of_some hfound]
          exact registered_put_of_find? h hfound rfl rfl
      | none =>
          rw [edit_hit_of_none hfound]
          exact h

theorem registered_editAll (h : s.Registered) (edits : List Edit) : (s.editAll edits).Registered := by
  induction edits generalizing s with
  | nil => exact h
  | cons e edits ih => exact ih (registered_edit h e)

/-- The breakpoints that are created have ascending numbers. -/
theorem Creates.ascending (h : Creates s new t) : new.Pairwise fun bp bp' => bp.id < bp'.id := by
  have hnumbers : (new.map Breakpoint.id).Pairwise (· < ·) := by
    rw [h.numbered]
    exact List.pairwise_lt_range' _ Nat.one_pos
  exact List.pairwise_map.1 hnumbers

theorem Creates.id_bounds (h : Creates s new t) (hmem : bp ∈ new) :
    s.lastId < bp.id ∧ bp.id ≤ s.lastId + new.length := by
  have hnumber : bp.id ∈ new.map Breakpoint.id := List.mem_map_of_mem hmem
  rw [h.numbered, List.mem_range'_1] at hnumber
  omega

/-! ## Where new breakpoints stand -/

/-- The breakpoint that is created for a line is found there. -/
theorem find?_add_self (s : BreakpointStore) (line : Nat) (condition : Option String) :
    (s.add line condition).2.find? line = some (s.add line condition).1 := by
  rw [find?_add, if_pos rfl]
  rfl

/-- The breakpoint that a switch gives back, new or old, is found on the line. -/
theorem find?_toggle_self (h : s.Registered) (line : Nat) :
    (s.toggle line).2.find? line = some (s.toggle line).1 := by
  cases hfound : s.find? line with
  | some bp => simp [toggle_of_some hfound, h.keyed hfound]
  | none =>
      rw [toggle_of_none hfound]
      exact find?_add_self s line none

/-- What an edit creates is found in the store behind it.  Reading a document is left out: a later
entry of the same line takes the place of what an earlier one creates. -/
theorem find?_of_created {e : Edit} (single : ∀ entries, e ≠ .replaceAll entries)
    (new : bp ∈ s.created e) : (s.edit e).find? bp.line = some bp := by
  cases e with
  | add line condition =>
      obtain rfl := List.mem_singleton.1 new
      exact find?_add_self s line condition
  | toggle line =>
      cases hfound : s.find? line with
      | some old =>
          rw [created_toggle_of_some hfound] at new
          cases new
      | none =>
          rw [created_toggle_of_none hfound] at new
          obtain rfl := List.mem_singleton.1 new
          show (s.toggle line).2.find? line = _
          rw [toggle_of_none hfound]
          exact find?_add_self s line none
  | replaceAll entries => exact absurd rfl (single entries)
  | remove | clear | hit => cases new

end BreakpointStore

/--
A new store is edited in any way.  Then every breakpoint stands under its own line, the breakpoints are
listed in strictly ascending order of their lines, and no two have the same number.  Of all breakpoints
that were ever created, each has a greater number than those that were created before it, and none a
greater one than there were creations.  What the store shows is one of them, and its line, number and
condition have never changed.
-/
theorem numbers_given_once (edits : List BreakpointStore.Edit) :
    let s := BreakpointStore.empty.editAll edits
    let created := BreakpointStore.empty.createdAlong edits
    (∀ line bp, s.find? line = some bp → bp.line = line) ∧
      (s.toList.Pairwise fun bp bp' => bp.line < bp'.line) ∧
      (s.toList.map Breakpoint.id).Nodup ∧
      (created.Pairwise fun bp bp' => bp.id < bp'.id) ∧
      (∀ bp ∈ created, bp.id ≤ created.length) ∧
      ∀ bp ∈ s.toList, ∃ old ∈ created,
        bp.line = old.line ∧ bp.id = old.id ∧ bp.condition = old.condition := by
  intro s created
  have hregistered : s.Registered :=
    BreakpointStore.registered_editAll BreakpointStore.registered_empty edits
  have hcreates : BreakpointStore.Creates BreakpointStore.empty created s :=
    BreakpointStore.creates_editAll edits BreakpointStore.empty
  refine ⟨fun line bp => hregistered.keyed, hregistered.ascending, hregistered.nodup,
    hcreates.ascending, fun bp hmem => ?_, fun bp hmem => ?_⟩
  · have hbound := (hcreates.id_bounds hmem).2
    rwa [show BreakpointStore.empty.lastId = 0 from rfl, Nat.zero_add] at hbound
  · obtain ⟨old, hold, hversion⟩ := hcreates.origin bp hmem
    refine ⟨old, hold, ?_⟩
    rw [hversion]
    exact ⟨rfl, rfl, rfl⟩

end LineBasic
