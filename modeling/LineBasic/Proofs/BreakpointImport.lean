import Mathlib.Data.List.Induction
import Mathlib.Data.List.Sort
import LineBasic.Proofs.BreakpointHistory

/-!
# Breakpoints from a document

A document lists breakpoints in any order, and may list a line more than once.  It is read entry by
entry, and each entry takes two steps: its breakpoint is created switched on, in the place of the one
on its line, and then switched as the entry says.

What a store exports behind that is a function of the document alone, and so it is described here
without the two steps: for each line that the document lists there is one entry, the last one of that
line.  Everything else follows.  An export lists no line twice, so it is its own list of last entries,
and comes back unchanged from any store that imports it.

## Main definitions

* `BreakpointDocument.lastOn?`: the last entry of a line in a document.

## Main results

* `find?_replaceAll`: the breakpoint on a line is that of the last entry of the line.
* `entries_replaceAll`: a document that lists its lines in ascending order is exported as it is.
* `export_of_import`: what a store exports behind an import, for every store and every document.
-/

namespace LineBasic

/-! ## Documents -/

namespace BreakpointDocument

variable {d : List BreakpointEntry} {e e' : BreakpointEntry} {line : Nat}

/-- The last entry of a line. -/
def lastOn? (d : List BreakpointEntry) (line : Nat) : Option BreakpointEntry :=
  (d.filter (·.line = line)).getLast?

theorem lastOn?_concat (d : List BreakpointEntry) (e : BreakpointEntry) (line : Nat) :
    lastOn? (d ++ [e]) line = if e.line = line then some e else lastOn? d line := by
  unfold lastOn?
  rw [List.filter_append]
  by_cases hline : e.line = line
  · have hown : [e].filter (fun e' => decide (e'.line = line)) = [e] :=
      List.filter_cons_of_pos (decide_eq_true hline)
    rw [hown, if_pos hline, List.getLast?_concat]
  · have hother : [e].filter (fun e' => decide (e'.line = line)) = [] :=
      List.filter_cons_of_neg (by simpa using hline)
    rw [hother, if_neg hline, List.append_nil]

theorem mem_of_lastOn? (h : lastOn? d line = some e) : e ∈ d ∧ e.line = line := by
  have hmem := List.mem_filter.1 (List.mem_of_getLast? h)
  exact ⟨hmem.1, of_decide_eq_true hmem.2⟩

/-- Every line that is listed has a last entry. -/
theorem exists_lastOn? (h : e ∈ d) : ∃ last, lastOn? d e.line = some last := by
  have hmem : e ∈ d.filter (·.line = e.line) := List.mem_filter.2 ⟨h, decide_eq_true rfl⟩
  exact ⟨_, List.getLast?_eq_some_getLast (List.ne_nil_of_mem hmem)⟩

/-- The entries list their lines in strictly ascending order, and so none twice. -/
def Ascending (d : List BreakpointEntry) : Prop := d.Pairwise fun e e' => e.line < e'.line

theorem Ascending.eq_of_line (h : Ascending d) (hmem : e ∈ d) (hmem' : e' ∈ d)
    (hline : e.line = e'.line) : e = e' := by
  have hlines : (d.map BreakpointEntry.line).Nodup :=
    List.pairwise_map.2 (h.imp Nat.ne_of_lt)
  exact List.inj_on_of_nodup_map hlines hmem hmem' hline

/-- Each entry is the last of its line. -/
theorem Ascending.lastOn?_eq_some_iff (h : Ascending d) : lastOn? d e.line = some e ↔ e ∈ d := by
  refine ⟨fun hlast => (mem_of_lastOn? hlast).1, fun hmem => ?_⟩
  obtain ⟨last, hlast⟩ := exists_lastOn? hmem
  obtain ⟨hmem', hline⟩ := mem_of_lastOn? hlast
  rw [hlast, h.eq_of_line hmem' hmem hline]

/-- The order of the lines leaves one way to list the same entries. -/
theorem Ascending.eq_of_mem_iff {d' : List BreakpointEntry} (h : Ascending d) (h' : Ascending d')
    (hmem : ∀ e, e ∈ d ↔ e ∈ d') : d = d' := by
  let before (e e' : BreakpointEntry) : Prop := e.line < e'.line
  have : Std.Antisymm before := ⟨fun _ _ hlt hlt' => absurd hlt' (Nat.lt_asymm hlt)⟩
  have : Std.Irrefl before := ⟨fun _ => Nat.lt_irrefl _⟩
  exact List.Pairwise.eq_of_mem_iff (r := before) h h' hmem

end BreakpointDocument

/-! ## The store behind an import -/

namespace BreakpointStore

open BreakpointDocument

variable {s : BreakpointStore} {d : List BreakpointEntry} {e : BreakpointEntry} {bp : Breakpoint}

theorem replaceAll_concat (s : BreakpointStore) (d : List BreakpointEntry) (e : BreakpointEntry) :
    s.replaceAll (d ++ [e]) = (s.replaceAll d).addEntry e := by
  unfold replaceAll
  rw [List.foldl_append]
  rfl

/-- The breakpoint on a line is that of the last entry of the line. -/
theorem find?_replaceAll (s : BreakpointStore) (d : List BreakpointEntry) (line : Nat) :
    ((s.replaceAll d).find? line).map Breakpoint.entry = lastOn? d line := by
  -- From the end of the document: its last entry decides its own line, and no other.
  induction d using List.reverseRecOn with
  | nil => rfl
  | append_singleton d e ih =>
      rw [replaceAll_concat, find?_addEntry, lastOn?_concat]
      by_cases hline : e.line = line
      · rw [if_pos hline, if_pos hline.symm]
        rfl
      · rw [if_neg hline, if_neg (Ne.symm hline), ih]

theorem mem_entries_iff (h : s.Registered) :
    e ∈ s.entries ↔ (s.find? e.line).map Breakpoint.entry = some e := by
  unfold entries
  rw [List.mem_map, Option.map_eq_some_iff]
  constructor
  · rintro ⟨bp, hmem, rfl⟩
    obtain ⟨line, hfound⟩ := mem_toList_iff.1 hmem
    have hline : bp.entry.line = line := h.keyed hfound
    exact ⟨bp, hline.symm ▸ hfound, rfl⟩
  · rintro ⟨bp, hfound, hentry⟩
    exact ⟨bp, mem_toList_iff.2 ⟨e.line, hfound⟩, hentry⟩

theorem ascending_entries (h : s.Registered) : Ascending s.entries :=
  List.pairwise_map.2 h.ascending

/-- What is exported behind an import is the last entry of each line. -/
theorem mem_entries_replaceAll : e ∈ (s.replaceAll d).entries ↔ lastOn? d e.line = some e := by
  rw [mem_entries_iff (registered_replaceAll s d), find?_replaceAll]

/-- A document that lists its lines in ascending order is exported as it is. -/
theorem entries_replaceAll (s : BreakpointStore) (h : Ascending d) : (s.replaceAll d).entries = d :=
  (ascending_entries (registered_replaceAll s d)).eq_of_mem_iff h fun _ =>
    mem_entries_replaceAll.trans h.lastOn?_eq_some_iff

/-- A document brings breakpoints that are new and have no hits. -/
theorem new_of_mem_replaceAll (h : bp ∈ (s.replaceAll d).toList) : bp.hits = 0 ∧ s.lastId < bp.id := by
  have hunhit : (s.replaceAll d).All fun bp => bp.hits = 0 :=
    all_replaceAll s fun _ _ _ => ⟨rfl, rfl⟩
  obtain ⟨line, hfound⟩ := mem_toList_iff.1 h
  obtain ⟨old, hold, hversion⟩ := (creates_foldl d s.clear).origin bp h
  have hnew : old ∈ s.clear.createdBy d := hold
  have hbound : s.lastId < old.id := ((creates_foldl d s.clear).id_bounds hnew).1
  have hid : bp.id = old.id := by rw [hversion]
  exact ⟨hunhit line bp hfound, hid ▸ hbound⟩

end BreakpointStore

/--
A store, edited in any way before, imports a document.  It then exports the lines of the document, each
once and in ascending order, with the last entry that the document has for the line.  No breakpoint has
hits, and none is one of those that were there.  So whatever a store exports, and in particular what
this one exports before and behind the import, is exported unchanged by every store that imports it.
-/
theorem export_of_import (edits : List BreakpointStore.Edit) (d : List BreakpointEntry) :
    let s := BreakpointStore.empty.editAll edits
    let t := s.replaceAll d
    (t.entries.Pairwise fun e e' => e.line < e'.line) ∧
      (∀ line, (∃ e ∈ t.entries, e.line = line) ↔ ∃ e ∈ d, e.line = line) ∧
      (∀ e ∈ t.entries, (d.filter (·.line = e.line)).getLast? = some e) ∧
      (∀ bp ∈ t.toList, bp.hits = 0 ∧ ∀ old ∈ s.toList, old.id < bp.id) ∧
      ∀ other : BreakpointStore, (other.replaceAll s.entries).entries = s.entries ∧
        (other.replaceAll t.entries).entries = t.entries := by
  intro s t
  have hs : s.Registered :=
    BreakpointStore.registered_editAll BreakpointStore.registered_empty edits
  have hascending : BreakpointDocument.Ascending t.entries :=
    BreakpointStore.ascending_entries (BreakpointStore.registered_replaceAll s d)
  refine ⟨hascending, fun line => ⟨?_, ?_⟩, fun e hmem => ?_, fun bp hmem => ?_, fun other =>
    ⟨BreakpointStore.entries_replaceAll other (BreakpointStore.ascending_entries hs),
      BreakpointStore.entries_replaceAll other hascending⟩⟩
  · rintro ⟨e, hmem, rfl⟩
    have hlast := BreakpointStore.mem_entries_replaceAll.1 hmem
    exact ⟨e, (BreakpointDocument.mem_of_lastOn? hlast).1, rfl⟩
  · rintro ⟨e, hmem, rfl⟩
    obtain ⟨last, hlast⟩ := BreakpointDocument.exists_lastOn? hmem
    obtain ⟨-, hline⟩ := BreakpointDocument.mem_of_lastOn? hlast
    exact ⟨last, BreakpointStore.mem_entries_replaceAll.2 (hline ▸ hlast), hline⟩
  · exact BreakpointStore.mem_entries_replaceAll.1 hmem
  · obtain ⟨hunhit, hnew⟩ := BreakpointStore.new_of_mem_replaceAll hmem
    refine ⟨hunhit, fun old hold => ?_⟩
    obtain ⟨line, hfound⟩ := BreakpointStore.mem_toList_iff.1 hold
    exact Nat.lt_of_le_of_lt (hs.issued hfound) hnew

example : (BreakpointStore.empty.replaceAll
    [⟨30, true, none⟩, ⟨10, false, some "a > 3"⟩, ⟨30, false, none⟩]).entries =
      [⟨10, false, some "a > 3"⟩, ⟨30, false, none⟩] := rfl

end LineBasic
