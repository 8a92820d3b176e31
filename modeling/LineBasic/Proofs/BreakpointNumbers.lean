import Mathlib.Logic.Relation
import LineBasic.Proofs.StoreLaws

/-!
# The numbers of breakpoints

Whoever talks about a breakpoint names its number, and the line under which the store keeps it may
have another breakpoint by then.  So a number has to stand for one breakpoint only, for as long as
the store lives: also when a breakpoint is replaced or taken off, and when a document is read in the
place of all that were there.

Edits are compound.  A document is read by taking every breakpoint off, creating new ones and
switching some of them.  All edits come down to three changes, though, and what is proved here of
numbers is proved by those three.

## Main definitions

* `Registered`: every breakpoint stands on its own line, under a number of its own.
* `Change`, `Edited`: one change of a store, and a chain of them.
* `Revises`: what edits leave of the breakpoints that were there.

## Main results

* `registered_put_of_find?`: a breakpoint may be replaced by another version of it.
* `Edited.registered`, `Edited.revises`: edits keep numbers apart, and hits as they were.
* `edited_toggle`, `edited_replaceAll` and others: what the edits of a store come down to.
-/

namespace LineBasic

namespace BreakpointStore

variable {s t u : BreakpointStore} {line : Nat} {bp : Breakpoint}

/-- A store lists what its lookups find. -/
theorem mem_toList_iff : bp ∈ s.toList ↔ ∃ line, s.find? line = some bp := by
  unfold toList Table.values find?
  rw [List.mem_map]
  constructor
  · rintro ⟨⟨line, found⟩, hmem, rfl⟩
    exact ⟨line, Table.find?_eq_some_iff.2 hmem⟩
  · rintro ⟨line, hfound⟩
    exact ⟨(line, bp), Table.find?_eq_some_iff.1 hfound, rfl⟩

/-! ## Registered breakpoints -/

/-- Every breakpoint stands on its own line.  Its number has been given, and to no other. -/
structure Registered (s : BreakpointStore) : Prop where
  keyed : ∀ {line bp}, s.find? line = some bp → bp.line = line
  issued : ∀ {line bp}, s.find? line = some bp → bp.id ≤ s.lastId
  distinct : ∀ {line line' bp bp'}, s.find? line = some bp → s.find? line' = some bp' →
    bp.id = bp'.id → line = line'

theorem registered_empty : Registered ∅ := ⟨nofun, nofun, nofun⟩

/-- Breakpoints may be taken off, and numbers left out. -/
theorem Registered.mono (h : s.Registered) (last : s.lastId ≤ t.lastId)
    (kept : ∀ line bp, t.find? line = some bp → s.find? line = some bp) : t.Registered where
  keyed hfound := h.keyed (kept _ _ hfound)
  issued hfound := Nat.le_trans (h.issued (kept _ _ hfound)) last
  distinct hfound hfound' := h.distinct (kept _ _ hfound) (kept _ _ hfound')

/-- The breakpoints are listed by their lines. -/
theorem Registered.ascending (h : s.Registered) :
    s.toList.Pairwise fun bp bp' => bp.line < bp'.line := by
  unfold toList Table.values
  refine List.pairwise_map.2 (s.table.ascending.imp_of_mem fun {e e'} hmem hmem' hlt => ?_)
  have hkey : e.2.line = e.1 := h.keyed (Table.find?_eq_some_iff.2 hmem)
  have hkey' : e'.2.line = e'.1 := h.keyed (Table.find?_eq_some_iff.2 hmem')
  rw [hkey, hkey']
  exact Nat.compare_eq_lt.1 hlt

/-- No number is listed twice. -/
theorem Registered.nodup (h : s.Registered) : (s.toList.map Breakpoint.id).Nodup := by
  refine List.pairwise_map.2 (h.ascending.imp_of_mem fun {bp bp'} hmem hmem' hlt hid => ?_)
  obtain ⟨line, hfound⟩ := mem_toList_iff.1 hmem
  obtain ⟨line', hfound'⟩ := mem_toList_iff.1 hmem'
  have hline : line = line' := h.distinct hfound hfound' hid
  have hkey : bp.line = line := h.keyed hfound
  have hkey' : bp'.line = line' := h.keyed hfound'
  omega

/-- A breakpoint may be put on its line if none on another line has its number. -/
theorem registered_put (h : s.Registered) (given : bp.id ≤ s.lastId)
    (own : ∀ line other, s.find? line = some other → other.id = bp.id → line = bp.line) :
    (s.put bp).Registered := by
  refine ⟨fun hfound => ?_, fun hfound => ?_, fun hfound hfound' hid => ?_⟩
  · rw [find?_put] at hfound
    split at hfound
    · next hline =>
        cases hfound
        exact hline.symm
    · exact h.keyed hfound
  · rw [find?_put] at hfound
    split at hfound
    · cases hfound
      exact given
    · exact h.issued hfound
  · rw [find?_put] at hfound hfound'
    split at hfound <;> split at hfound'
    · next hline hline' => exact hline.trans hline'.symm
    · next hline hline' =>
        cases hfound
        exact absurd (own _ _ hfound' hid.symm) hline'
    · next hline hline' =>
        cases hfound'
        exact absurd (own _ _ hfound hid) hline
    · exact h.distinct hfound hfound' hid

/-- A breakpoint may be replaced by another version of it. -/
theorem registered_put_of_find? (h : s.Registered) (found : s.find? line = some bp)
    {bp' : Breakpoint} (hid : bp'.id = bp.id) (hline : bp'.line = bp.line) :
    (s.put bp').Registered := by
  refine registered_put h (hid ▸ h.issued found) fun line' other found' hsame => ?_
  rw [hline, h.keyed found]
  exact h.distinct found' found (hsame.trans hid)

theorem registered_add (h : s.Registered) (line : Nat) (condition : Option String) :
    (s.add line condition).2.Registered := by
  have hlonger : Registered { s with lastId := s.lastId + 1 } :=
    h.mono (Nat.le_succ _) fun _ _ found => found
  refine registered_put hlonger (Nat.le_refl _) fun line' other found hid => ?_
  have hgiven : other.id ≤ s.lastId := h.issued found
  exact absurd (hid ▸ hgiven) (Nat.not_succ_le_self _)

/-! ## Edits -/

/-- One change of a store. -/
inductive Change (s : BreakpointStore) : BreakpointStore → Prop where
  /-- Breakpoints are taken off. -/
  | removed {t : BreakpointStore} (last : t.lastId = s.lastId)
      (kept : ∀ line bp, t.find? line = some bp → s.find? line = some bp) : Change s t
  | added (line : Nat) (condition : Option String) : Change s (s.add line condition).2
  | switched {line : Nat} {bp : Breakpoint} (found : s.find? line = some bp) (on : Bool) :
      Change s (s.put { bp with enabled := on })

/-- What a chain of changes makes of a store. -/
abbrev Edited : BreakpointStore → BreakpointStore → Prop := Relation.ReflTransGen Change

/-- What edits leave: a breakpoint of a later store was there before, on the same line and at most
switched, or it is new and has no hits. -/
structure Revises (s t : BreakpointStore) : Prop where
  last : s.lastId ≤ t.lastId
  origin : ∀ line bp, t.find? line = some bp →
    (∃ old, s.find? line = some old ∧ bp = { old with enabled := bp.enabled }) ∨
      s.lastId < bp.id ∧ bp.hits = 0

theorem revises_refl (s : BreakpointStore) : Revises s s :=
  ⟨Nat.le_refl _, fun _ bp found => .inl ⟨bp, found, rfl⟩⟩

theorem Revises.trans (h : Revises s t) (h' : Revises t u) : Revises s u where
  last := Nat.le_trans h.last h'.last
  origin := by
    intro line bp found
    rcases h'.origin line bp found with ⟨old, found', hbp⟩ | ⟨new, unhit⟩
    · rcases h.origin line old found' with ⟨oldest, found'', hold⟩ | ⟨new, unhit⟩
      · refine .inl ⟨oldest, found'', ?_⟩
        rw [hbp, hold]
      · rw [hbp]
        exact .inr ⟨new, unhit⟩
    · exact .inr ⟨Nat.lt_of_le_of_lt h.last new, unhit⟩

theorem Change.registered (h : Change s t) (hs : s.Registered) : t.Registered := by
  cases h with
  | removed last kept => exact hs.mono (Nat.le_of_eq last.symm) kept
  | added line condition => exact registered_add hs line condition
  | switched found on => exact registered_put_of_find? hs found rfl rfl

theorem Change.revises (h : Change s t) (hs : s.Registered) : Revises s t := by
  cases h with
  | removed last kept =>
      exact ⟨Nat.le_of_eq last.symm, fun line bp found => .inl ⟨bp, kept line bp found, rfl⟩⟩
  | added line condition =>
      refine ⟨Nat.le_succ _, fun line' bp found => ?_⟩
      rw [find?_add] at found
      split at found
      · cases found
        exact .inr ⟨Nat.lt_succ_self _, rfl⟩
      · exact .inl ⟨bp, found, rfl⟩
  | @switched line bp found on =>
      refine ⟨Nat.le_refl _, fun line' bp' found' => ?_⟩
      rw [find?_put] at found'
      split at found'
      · next hline =>
          cases found'
          have hkeyed := hs.keyed found
          have hsame : line' = line := hline.trans hkeyed
          exact .inl ⟨bp, hsame ▸ found, rfl⟩
      · exact .inl ⟨bp', found', rfl⟩

theorem Edited.registered (h : Edited s t) (hs : s.Registered) : t.Registered := by
  induction h with
  | refl => exact hs
  | tail _ hlast ih => exact hlast.registered ih

theorem Edited.revises (h : Edited s t) (hs : s.Registered) : Revises s t := by
  induction h with
  | refl => exact revises_refl s
  | tail hfirst hlast ih => exact ih.trans (hlast.revises (Edited.registered hfirst hs))

/-! ## What edits come down to -/

theorem edited_add (s : BreakpointStore) (line : Nat) (condition : Option String) :
    Edited s (s.add line condition).2 :=
  .single (.added line condition)

theorem edited_remove (s : BreakpointStore) (line : Nat) : Edited s (s.remove line).2 := by
  refine .single (.removed rfl fun line' bp found => ?_)
  rw [find?_remove] at found
  split at found
  · cases found
  · exact found

theorem edited_clear (s : BreakpointStore) : Edited s s.clear :=
  .single (.removed rfl fun _ _ found => nomatch found)

theorem edited_toggle (s : BreakpointStore) (line : Nat) : Edited s (s.toggle line).2 := by
  unfold toggle
  split
  · next bp found => exact .single (.switched found _)
  · exact edited_add s line none

theorem edited_addEntry (s : BreakpointStore) (e : BreakpointEntry) : Edited s (s.addEntry e) := by
  have hfound : (s.add e.line e.condition).2.find? e.line = some (s.fresh e.line e.condition) := by
    simp
  exact (edited_add s e.line e.condition).tail (.switched hfound e.enabled)

theorem edited_foldl (entries : List BreakpointEntry) (s : BreakpointStore) :
    Edited s (entries.foldl addEntry s) := by
  induction entries generalizing s with
  | nil => exact .refl
  | cons e rest ih => exact (edited_addEntry s e).trans (ih (s.addEntry e))

theorem edited_replaceAll (s : BreakpointStore) (entries : List BreakpointEntry) :
    Edited s (s.replaceAll entries) :=
  (edited_clear s).trans (edited_foldl entries s.clear)

/-- A document keeps numbers apart whatever it replaces. -/
theorem registered_replaceAll (s : BreakpointStore) (entries : List BreakpointEntry) :
    (s.replaceAll entries).Registered :=
  (edited_foldl entries s.clear).registered ⟨nofun, nofun, nofun⟩

end BreakpointStore

end LineBasic
