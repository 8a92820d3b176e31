import LineBasic.Proofs.BreakpointNumbers
import LineBasic.Proofs.JsonPrinting
import LineBasic.Settings

/-!
# Breakpoints outlive a session

A session leaves its breakpoints behind as a text, and the next session reads them from there.  The
text is a written JSON document, and all its texts have content and all its numbers are line
numbers, so the document is read back.  What remains is that a record is found in its fields: each
field is looked up by its name, the condition is left out where there is none, and a line number has
to fit thirty-two bits, which is the one condition on what can be kept.

## Main results

* `Json.record?_ofFields`: a record finds its fields by their names.
* `BreakpointDocument.entryOfJson?_entryToJson`: an entry is read back exactly if its line fits.
* `breakpoints_survive`: what is read is what was written, and importing the one is importing the
  other.
-/

namespace LineBasic

namespace Number

@[simp] theorem ofDecimalDigits_toDigits (n : Nat) : ofDecimalDigits (Nat.toDigits 10 n) = n := by
  have hfold : ofDecimalDigits (Nat.toDigits 10 n) = Nat.ofDigitChars 10 (Nat.toDigits 10 n) 0 := by
    rw [Nat.ofDigitChars_eq_foldl]
    unfold ofDecimalDigits ofDigits digitValue
    simp only [Nat.mul_comm]
  rw [hfold, Nat.ofDigitChars_toDigits (by decide) (by decide)]

end Number

namespace Json

/-! ## Records -/

theorem natural?_ofNat (bound n : Nat) :
    natural? bound (ofNat n) = if n < bound then some n else none := by
  have hdigits : Nat.toDigits 10 n ≠ [] ∧ (Nat.toDigits 10 n).all Number.isDigit = true :=
    ⟨Nat.toDigits_ne_nil, List.all_eq_true.2 fun c hc => isDigit_of_mem_toDigits hc⟩
  unfold natural? ofNat
  simp only [Nat.toList_repr, if_pos hdigits, Number.ofDecimalDigits_toDigits]

variable {fields : List (String × Json)}

/-- Under a name stands what is found there first, where no name is given twice. -/
theorem under_map (distinct : (fields.map Prod.fst).Nodup) (name : String) :
    under name (fields.map fun (key, value) => (some key, value)) =
      (fields.lookup name).toList := by
  induction fields with
  | nil => rfl
  | cons field others ih =>
      obtain ⟨key, value⟩ := field
      obtain ⟨hkey, distinct⟩ := List.nodup_cons.1 distinct
      have hothers := ih distinct
      unfold under at hothers ⊢
      rw [List.map_cons, List.filterMap_cons, hothers]
      by_cases hname : name = key
      · have hnone : others.lookup name = none := by
          refine List.lookup_eq_none_iff.2 fun field hfield => ?_
          have hmem : field.1 ∈ others.map Prod.fst := List.mem_map_of_mem hfield
          refine bne_iff_ne.2 fun heq => hkey ?_
          rw [← heq, hname] at hmem
          exact hmem
        rw [hname] at hnone ⊢
        rw [hnone, List.lookup_cons_self]
        simp only [reduceIte]
        rfl
      · have hother : (name == key) = false := beq_eq_false_iff_ne.2 hname
        have hsome : ¬ some key = some name := fun h => hname (Option.some.inj h).symm
        simp only [if_neg hsome, List.lookup_cons, hother]

theorem field?_map (distinct : (fields.map Prod.fst).Nodup) (name : String) :
    field? name (fields.map fun (key, value) => (some key, value)) =
      some (fields.lookup name) := by
  unfold field?
  rw [under_map distinct]
  cases fields.lookup name with
  | none => rfl
  | some value => rfl

/-- A record finds its fields by their names. -/
theorem record?_ofFields (distinct : (fields.map Prod.fst).Nodup) (names : List String) :
    record? names (ofFields fields) = some (names.map fun name => fields.lookup name) := by
  have hnames : (fields.map fun (key, value) => (some key, value)).all (·.1.isSome) = true := by
    rw [List.all_map]
    exact List.all_eq_true.2 fun field _ => rfl
  unfold record? ofFields
  simp only [if_pos hnames, field?_map distinct]
  exact List.mapM_pure

end Json

namespace BreakpointDocument

open Json

theorem wellFormed_entryToJson (e : BreakpointEntry) : (entryToJson e).WellFormed := by
  refine wellFormed_ofFields fun field hfield => ?_
  obtain ⟨line, enabled, condition⟩ := e
  rcases List.mem_append.1 hfield with hfield | hfield
  · rcases List.mem_cons.1 hfield with rfl | hfield
    · exact wellFormed_ofNat line
    · cases List.mem_singleton.1 hfield
      exact .bool enabled
  · cases condition with
    | none => cases hfield
    | some s =>
        cases List.mem_singleton.1 hfield
        exact wellFormed_ofString s

theorem wellFormed_toJson (entries : List BreakpointEntry) : (toJson entries).WellFormed := by
  refine wellFormed_ofFields fun field hfield => ?_
  cases List.mem_singleton.1 hfield
  refine .array fun item hitem => ?_
  obtain ⟨e, -, rfl⟩ := List.mem_map.1 hitem
  exact wellFormed_entryToJson e

/-- A record of an entry has a condition if the entry has one. -/
theorem record?_entryToJson (e : BreakpointEntry) :
    record? ["line", "enabled", "condition"] (entryToJson e) =
      some [some (ofNat e.line), some (.bool e.enabled), e.condition.map ofString] := by
  obtain ⟨line, enabled, condition⟩ := e
  cases condition with
  | none =>
      have distinct : ["line", "enabled"].Nodup := by decide
      refine record?_ofFields ?_ _
      exact distinct
  | some s =>
      have distinct : ["line", "enabled", "condition"].Nodup := by decide
      refine record?_ofFields ?_ _
      exact distinct

/-- An entry is read back exactly if its line number fits. -/
theorem entryOfJson?_entryToJson (e : BreakpointEntry) :
    entryOfJson? (entryToJson e) = if e.line < lineBound then some e else none := by
  have hcondition : optional? string? (e.condition.map ofString) = some e.condition := by
    cases e.condition with
    | none => rfl
    | some s => rfl
  unfold entryOfJson?
  rw [record?_entryToJson]
  simp only [Option.bind_eq_bind, Option.bind_some, natural?_ofNat, bool?, hcondition]
  split
  · rfl
  · rfl

theorem ofJson?_toJson {entries : List BreakpointEntry}
    (hlines : ∀ e ∈ entries, e.line < lineBound) : ofJson? (toJson entries) = some entries := by
  have hentries : (entries.map entryToJson).mapM entryOfJson? = some entries := by
    induction entries with
    | nil => rfl
    | cons e others ih =>
        have hothers := ih fun e' he' => hlines e' (List.mem_cons_of_mem e he')
        rw [List.map_cons, List.mapM_cons, entryOfJson?_entryToJson,
          if_pos (hlines e List.mem_cons_self), hothers]
        rfl
  have distinct : ["breakpoints"].Nodup := by decide
  have hrecord : record? ["breakpoints"] (toJson entries) =
      some [some (.array (entries.map entryToJson))] := by
    refine record?_ofFields ?_ _
    exact distinct
  unfold ofJson?
  rw [hrecord]
  exact hentries

/-- What a session writes, the next one reads. -/
theorem read?_write {entries : List BreakpointEntry}
    (hlines : ∀ e ∈ entries, e.line < lineBound) : read? (write entries) = some entries := by
  unfold read? write
  rw [read_pretty (wellFormed_toJson entries)]
  exact ofJson?_toJson hlines

/-- A saved file is loaded with the entries that were saved. -/
theorem ofFile_write {entries : List BreakpointEntry}
    (hlines : ∀ e ∈ entries, e.line < lineBound) :
    ofFile (.ok (write entries)) = .ok entries := by
  unfold ofFile DocumentError.read
  simp only [read?_write hlines]

/-- What a store exports after an import can be kept as well. -/
theorem lines_replaceAll (store : BreakpointStore) {entries : List BreakpointEntry}
    (hlines : ∀ e ∈ entries, e.line < lineBound) :
    ∀ e ∈ (store.replaceAll entries).entries, e.line < lineBound := by
  have hall : (store.replaceAll entries).All fun bp => bp.line < lineBound :=
    BreakpointStore.all_replaceAll store fun e he _ => ⟨hlines e he, hlines e he⟩
  intro e he
  obtain ⟨bp, hbp, rfl⟩ := List.mem_map.1 he
  obtain ⟨line, hfound⟩ := BreakpointStore.mem_toList_iff.1 hbp
  exact hall line bp hfound

end BreakpointDocument

open BreakpointDocument

/--
Breakpoints survive as a document: what was written is read, it is what it was, and a store that
imports what was read exports the same document as one that imports the breakpoints directly, which
can be read in its turn.
-/
theorem breakpoints_survive (entries : List BreakpointEntry)
    (hlines : ∀ e ∈ entries, e.line < lineBound) :
    ∃ result, read? (write entries) = some result ∧ result = entries ∧
      ∀ store : BreakpointStore,
        write (store.replaceAll result).entries = write (store.replaceAll entries).entries ∧
        read? (write (store.replaceAll result).entries) =
          some (store.replaceAll entries).entries :=
  ⟨entries, read?_write hlines, rfl,
    fun store => ⟨rfl, read?_write (lines_replaceAll store hlines)⟩⟩

/-- Breakpoints of one line and of the last one, with a condition of all kinds of characters. -/
def awkwardEntries : List BreakpointEntry :=
  [⟨10, true, none⟩, ⟨10, false, some ""⟩,
    ⟨4294967295, false, some "A$ = \"\\\n\r\t\x00\x08\x0c\x1f\x7f/é😀\""⟩]

theorem breakpoints_survive_awkward :
    (∀ e ∈ awkwardEntries, e.line < lineBound) ∧
      read? (write awkwardEntries) = some awkwardEntries := by
  have hlines : ∀ e ∈ awkwardEntries, e.line < lineBound := by decide
  obtain ⟨result, hread, rfl, -⟩ := breakpoints_survive awkwardEntries hlines
  exact ⟨hlines, hread⟩

end LineBasic
