import LineBasic.Program
import Mathlib.Data.List.DropRight

/-!
# Where the lines of a program stand in its text

A text is read physical line by physical line, and each line that has a number goes into the program
under it, in the place of an earlier line of that number.  Its place is counted on from line to line:
all characters of the lines before it, the line ends included, and the blanks at its own start.

The proof follows the reading.  What one physical line contributes is `StandsIn`, and by induction a
line that is stored at the end comes from the last physical line of its number.  All else is read off
there: physical lines do not overlap, so neither do the lines of the program.

## Main definitions

* `Program.numberOf?`: the number that the digits at the start of a physical line denote.
* `Program.StandsIn`: what a physical line contributes to the program.
* `Program.ComesFrom`: a line comes from the last physical line of its number.
* `SourceLine.Apart`: two lines have no character of the text in common.

## Main results

* `readLine_standsIn`: what is read off a physical line.
* `comesFrom_of_readLines`: what is stored under a number comes from the last line that has it.
* `parse_locates`: the lines of a program are in the order of their numbers, are found by them, and
  stand where they say in the text.
-/

namespace LineBasic

namespace Text

variable {c : Char} {cs line raw blanks : List Char}

/-! ## Blanks and line ends -/

theorem isBlank_of_lineEnd (h : c = '\r' ∨ c = '\n') : isBlank c = true := by
  rcases h with rfl | rfl <;> decide

theorem isDigit_of_isBlank (h : isBlank c = true) : Number.isDigit c = false := by
  rw [← Bool.not_eq_true]
  intro hdigit
  simp only [Number.isDigit, decide_eq_true_eq, Char.le_def, UInt32.le_iff_toNat_le] at hdigit
  simp only [isBlank, Bool.or_eq_true, Bool.and_eq_true, decide_eq_true_eq, beq_iff_eq] at h
  have hrange : 48 ≤ c.toNat ∧ c.toNat ≤ 57 := hdigit
  omega

/-- What is taken off the end of a line is blank. -/
theorem exists_chomp (line : List Char) :
    ∃ ends, line = chomp line ++ ends ∧ ∀ c ∈ ends, isBlank c = true := by
  refine ⟨line.rtakeWhile fun c => c = '\r' || c = '\n', ?_, ?_⟩
  · exact (List.rdropWhile_append_rtakeWhile ..).symm
  · intro c hc
    exact isBlank_of_lineEnd (by simpa using List.mem_rtakeWhile_imp hc)

/-- What is taken off the end of a text is blank. -/
theorem exists_trimEnd (cs : List Char) :
    ∃ behind, cs = trimEnd cs ++ behind ∧ ∀ c ∈ behind, isBlank c = true :=
  ⟨cs.rtakeWhile isBlank, (List.rdropWhile_append_rtakeWhile ..).symm,
    fun _ hc => List.mem_rtakeWhile_imp hc⟩

/-- Blanks at the end of a text do not count. -/
theorem trim_append (h : ∀ c ∈ blanks, isBlank c = true) (cs : List Char) :
    trim (cs ++ blanks) = trim cs := by
  have hreverse : ∀ c ∈ blanks.reverse, isBlank c = true := fun c hc => h c (List.mem_reverse.1 hc)
  unfold trim trimStart
  rw [List.dropWhile_append]
  split
  · next hempty =>
      rw [List.isEmpty_iff.1 hempty, List.dropWhile_eq_nil_iff.2 h]
  · unfold trimEnd
    rw [List.reverse_append, List.dropWhile_append_of_pos hreverse]

@[simp] theorem trim_chomp (raw : List Char) : trim (chomp raw) = trim raw := by
  obtain ⟨ends, hraw, hends⟩ := exists_chomp raw
  calc trim (chomp raw) = trim (chomp raw ++ ends) := (trim_append hends _).symm
    _ = trim raw := by rw [← hraw]

/-- A physical line is a text between blanks. -/
theorem exists_behind (raw : List Char) :
    ∃ behind, raw = (chomp raw).takeWhile isBlank ++ (trim raw ++ behind) ∧
      ∀ c ∈ behind, isBlank c = true := by
  obtain ⟨ends, hraw, hends⟩ := exists_chomp raw
  obtain ⟨behind, htrim, hbehind⟩ := exists_trimEnd (trimStart (chomp raw))
  refine ⟨behind ++ ends, ?_, ?_⟩
  · calc raw = (chomp raw).takeWhile isBlank ++ trimStart (chomp raw) ++ ends := by
          rw [trimStart, List.takeWhile_append_dropWhile, ← hraw]
      _ = (chomp raw).takeWhile isBlank ++ (trim (chomp raw) ++ behind) ++ ends := by
          rw [trim, ← htrim]
      _ = _ := by
          rw [trim_chomp]
          simp only [List.append_assoc]
  · intro c hc
    exact (List.mem_append.1 hc).elim (hbehind c) (hends c)

theorem trim_eq_nil_iff : trim raw = [] ↔ ∀ c ∈ raw, isBlank c = true := by
  constructor
  · intro hempty
    obtain ⟨behind, hraw, hbehind⟩ := exists_behind raw
    rw [hempty, List.nil_append] at hraw
    intro c hc
    rw [hraw] at hc
    exact (List.mem_append.1 hc).elim (fun hc => List.mem_takeWhile_imp hc) (hbehind c)
  · intro hblank
    show trimEnd (trimStart raw) = []
    rw [trimStart, List.dropWhile_eq_nil_iff.2 hblank]
    rfl

theorem takeWhile_append_of_neg {p : Char → Bool} (h : ∀ c ∈ blanks, p c = false)
    (cs : List Char) : (cs ++ blanks).takeWhile p = cs.takeWhile p := by
  induction cs with
  | nil =>
      cases blanks with
      | nil => rfl
      | cons c blanks => simp [h c List.mem_cons_self]
  | cons c cs ih => simp [List.takeWhile_cons, ih]

/-- The digits at the start of a text are there whether or not its end is trimmed. -/
theorem takeWhile_isDigit_trim (cs : List Char) :
    (trim cs).takeWhile Number.isDigit = (trimStart cs).takeWhile Number.isDigit := by
  obtain ⟨behind, htrim, hbehind⟩ := exists_trimEnd (trimStart cs)
  have hdigits := takeWhile_append_of_neg (p := Number.isDigit)
    (fun c hc => isDigit_of_isBlank (hbehind c hc)) (trim cs)
  rw [htrim]
  exact hdigits.symm

/-! ## Physical lines -/

/-- A line feed stands at the end of a physical line only. -/
theorem exists_content (h : line ∈ lines cs) :
    ∃ content, '\n' ∉ content ∧ (line = content ∨ line = content ++ ['\n']) := by
  induction cs generalizing line with
  | nil => simp [lines] at h
  | cons c rest ih =>
      unfold lines at h
      split at h
      · next hfeed =>
          rcases List.mem_cons.1 h with rfl | h
          · exact ⟨[], by simp, .inr (by simp [hfeed])⟩
          · exact ih h
      · next hother =>
          split at h
          · obtain rfl : line = [c] := by simpa using h
            exact ⟨[c], by simpa using fun same => hother same.symm, .inl rfl⟩
          · next first others hrest =>
              rcases List.mem_cons.1 h with rfl | h
              · obtain ⟨content, hcontent, hline⟩ := ih (hrest ▸ List.mem_cons_self)
                refine ⟨c :: content, ?_, ?_⟩
                · simpa [hcontent] using fun same => hother same.symm
                · rcases hline with rfl | rfl
                  · exact .inl rfl
                  · exact .inr rfl
              · exact ih (hrest ▸ List.mem_cons_of_mem _ h)

/-- Between its blanks a physical line has no line feed. -/
theorem lineFeed_notMem_trim (h : raw ∈ lines cs) : '\n' ∉ trim raw := by
  obtain ⟨content, hcontent, hraw⟩ := exists_content h
  have htrim : trim raw = trim content := by
    rcases hraw with rfl | rfl
    · rfl
    · exact trim_append (by simp; decide) content
  have hinit : trim content <+: trimStart content := List.rdropWhile_prefix ..
  rw [htrim]
  intro hmem
  exact hcontent ((List.dropWhile_sublist _).subset (hinit.subset hmem))

end Text

/-- Two lines have no character of the text in common. -/
def SourceLine.Apart (a b : SourceLine) : Prop :=
  a.start + a.len ≤ b.start ∨ b.start + b.len ≤ a.start

namespace Program

open Number (isDigit)

variable {physical offset n : Nat} {raw : List Char} {raws : List (List Char)}
  {line line' : SourceLine} {table t : Table Nat SourceLine}

/-! ## One physical line -/

/-- The number that the decimal digits at the start of a physical line denote, behind its blanks. -/
def numberOf? (raw : List Char) : Option Nat :=
  let digits := (Text.trimStart raw).takeWhile isDigit
  if digits = [] then none else some (Number.ofDecimalDigits digits)

/-- A line is stored under the number at its start, if that is not too large. -/
theorem leadingNumber?_trim (raw : List Char) :
    leadingNumber? (Text.trim raw) = (numberOf? raw).filter (· < numberBound) := by
  unfold leadingNumber? numberOf?
  rw [Text.takeWhile_isDigit_trim]
  by_cases hdigits : (Text.trimStart raw).takeWhile isDigit = []
  · simp [hdigits]
  · simp [hdigits, Option.filter_some]

/-- A line of a program stands in a physical line that begins `offset` characters into the text. -/
structure StandsIn (offset : Nat) (raw : List Char) (line : SourceLine) : Prop where
  number : leadingNumber? (Text.trim raw) = some line.number
  text : line.text.toList = Text.trim raw
  start : line.start = offset + ((Text.chomp raw).takeWhile Text.isBlank).length
  len : line.len = (Text.trim raw).length
  compiled : Line.compile line.text = .ok line.compiled

/-- A physical line contributes itself under its number, or nothing if it has none. -/
theorem readLine_standsIn {r : Option SourceLine} (read : readLine physical offset raw = .ok r) :
    (r = none ∧ leadingNumber? (Text.trim raw) = none) ∨
      ∃ line, r = some line ∧ StandsIn offset raw line := by
  unfold readLine at read
  dsimp only at read
  rw [Text.trim_chomp] at read
  split at read
  · next hempty =>
      cases read
      exact .inl ⟨rfl, by rw [hempty]; rfl⟩
  · split at read
    · next hnumber =>
        split at read
        · cases read
          exact .inl ⟨rfl, hnumber⟩
        · cases read
    · next number hnumber =>
        split at read
        · cases read
        · next compiled hcompiled =>
            cases read
            exact .inr ⟨_, rfl, hnumber, String.toList_ofList, rfl, rfl, hcompiled⟩

theorem StandsIn.numberOf (h : StandsIn offset raw line) : numberOf? raw = some line.number := by
  have hnumber := h.number
  rw [leadingNumber?_trim, Option.filter_eq_some_iff] at hnumber
  exact hnumber.1

/-- The place of a line is inside its physical line. -/
theorem StandsIn.bounds (h : StandsIn offset raw line) :
    offset ≤ line.start ∧ line.start + line.len ≤ offset + raw.length := by
  obtain ⟨behind, hraw, -⟩ := Text.exists_behind raw
  have hlength := congrArg List.length hraw
  simp only [List.length_append] at hlength
  rw [h.start, h.len]
  omega

/-- The text of a line is what stands in its place. -/
theorem StandsIn.slice {before : List Char} (h : StandsIn before.length raw line)
    (after : List Char) :
    ((before ++ (raw ++ after)).drop line.start).take line.len = line.text.toList := by
  obtain ⟨behind, hraw, -⟩ := Text.exists_behind raw
  have hsource : before ++ (raw ++ after) =
      (before ++ (Text.chomp raw).takeWhile Text.isBlank) ++ (Text.trim raw ++ (behind ++ after)) := by
    conv_lhs => rw [hraw]
    simp only [List.append_assoc]
  have hstart : line.start = (before ++ (Text.chomp raw).takeWhile Text.isBlank).length := by
    rw [h.start, List.length_append]
  rw [hsource, hstart, h.len, h.text, List.drop_left, List.take_left]

/-! ## All physical lines -/

/-- No physical line is stored under a number. -/
def Unnumbered (n : Nat) (raws : List (List Char)) : Prop :=
  ∀ raw ∈ raws, leadingNumber? (Text.trim raw) ≠ some n

/-- A line comes from the last of the physical lines that are stored under its number. -/
inductive ComesFrom (line : SourceLine) : Nat → List (List Char) → Prop where
  | here {offset : Nat} {raw : List Char} {raws : List (List Char)}
      (stands : StandsIn offset raw line) (last : Unnumbered line.number raws) :
      ComesFrom line offset (raw :: raws)
  | later {offset : Nat} {raw : List Char} {raws : List (List Char)}
      (comes : ComesFrom line (offset + raw.length) raws) : ComesFrom line offset (raw :: raws)

/-- The physical line that a line comes from, and those before and behind it. -/
theorem ComesFrom.split (h : ComesFrom line offset raws) :
    ∃ before raw after, raws = before ++ raw :: after ∧
      StandsIn (offset + before.flatten.length) raw line ∧ Unnumbered line.number after := by
  induction h with
  | here stands last => exact ⟨[], _, _, rfl, stands, last⟩
  | @later offset raw raws _ ih =>
      obtain ⟨before, raw', after, rfl, stands, last⟩ := ih
      refine ⟨raw :: before, raw', after, rfl, ?_, last⟩
      rw [List.flatten_cons, List.length_append, ← Nat.add_assoc]
      exact stands

/-- The reading of physical lines is that of the first of them, and then of the others. -/
theorem readLines_cons {raw : List Char}
    (read : readLines physical offset table (raw :: raws) = .ok t) :
    ∃ r, readLine physical offset raw = .ok r ∧
      readLines (physical + 1) (offset + raw.length)
        (r.elim table fun line => table.insert line.number line) raws = .ok t := by
  unfold readLines at read
  cases hline : readLine physical offset raw with
  | error e =>
      rw [hline] at read
      cases read
  | ok r =>
      rw [hline] at read
      cases r with
      | none => exact ⟨none, rfl, read⟩
      | some line => exact ⟨some line, rfl, read⟩

/--
What is stored under a number comes from the last physical line that has it, or was stored before if
none has.  By induction on the physical lines: each of them replaces what is stored under its number,
and leaves the rest.
-/
theorem comesFrom_of_readLines (read : readLines physical offset table raws = .ok t)
    (found : t.find? n = some line) :
    (line.number = n ∧ ComesFrom line offset raws) ∨
      (table.find? n = some line ∧ Unnumbered n raws) := by
  induction raws generalizing physical offset table with
  | nil =>
      cases read
      exact .inr ⟨found, by simp [Unnumbered]⟩
  | cons raw raws ih =>
      obtain ⟨r, hline, hrest⟩ := readLines_cons read
      rcases readLine_standsIn hline with ⟨rfl, hnone⟩ | ⟨first, rfl, hstands⟩
      · rcases ih hrest with ⟨hnumber, hcomes⟩ | ⟨hfind, hothers⟩
        · exact .inl ⟨hnumber, .later hcomes⟩
        · exact .inr ⟨hfind, List.forall_mem_cons.2 ⟨by simp [hnone], hothers⟩⟩
      · rw [Option.elim_some] at hrest
        rcases ih hrest with ⟨hnumber, hcomes⟩ | ⟨hfind, hothers⟩
        · exact .inl ⟨hnumber, .later hcomes⟩
        · by_cases hsame : n = first.number
          · rw [hsame, Table.find?_insert_self] at hfind
            cases hfind
            exact .inl ⟨hsame.symm, .here hstands (hsame ▸ hothers)⟩
          · rw [Table.find?_insert, if_neg hsame] at hfind
            refine .inr ⟨hfind, List.forall_mem_cons.2 ⟨?_, hothers⟩⟩
            rw [hstands.number]
            exact fun heq => hsame (Option.some.inj heq).symm

theorem ComesFrom.start_le (h : ComesFrom line offset raws) : offset ≤ line.start := by
  induction h with
  | here stands => exact stands.bounds.1
  | later _ ih => omega

/-- Lines with different numbers come from different physical lines, which do not overlap. -/
theorem ComesFrom.apart (h : ComesFrom line offset raws) (h' : ComesFrom line' offset raws)
    (ne : line.number ≠ line'.number) : line.Apart line' := by
  induction h with
  | @here offset raw raws stands last =>
      cases h' with
      | here stands' =>
          exact absurd (Option.some.inj (stands.number.symm.trans stands'.number)) ne
      | later comes' =>
          have hend := stands.bounds
          have hbegin := comes'.start_le
          exact .inl (by omega)
  | @later offset raw raws comes ih =>
      cases h' with
      | here stands' =>
          have hend := stands'.bounds
          have hbegin := comes.start_le
          exact .inr (by omega)
      | later comes' => exact ih comes'

/-! ## The program -/

/-- Every line is stored under its number. -/
def Keyed (p : Program) : Prop := ∀ entry ∈ p.table.toList, entry.2.number = entry.1

theorem Keyed.ascending {p : Program} (h : p.Keyed) :
    p.lines.Pairwise fun a b => a.number < b.number := by
  unfold lines Table.values
  rw [List.pairwise_map]
  refine p.table.ascending.imp_of_mem ?_
  intro a b ha hb hlt
  rw [h a ha, h b hb]
  exact Nat.compare_eq_lt.1 hlt

/-- The index of a number is that of its line. -/
theorem Keyed.indexOf?_eq_some_iff {p : Program} (h : p.Keyed) {n i : Nat} :
    p.indexOf? n = some i ↔ ∃ line, p.lines[i]? = some line ∧ line.number = n := by
  unfold indexOf? lines Table.values
  rw [List.findIdx?_eq_some_iff_getElem]
  constructor
  · rintro ⟨hi, hkey, -⟩
    refine ⟨p.table.toList[i].2, by simp [hi], ?_⟩
    rw [h _ (List.getElem_mem hi)]
    exact beq_iff_eq.1 hkey
  · rintro ⟨line, hline, rfl⟩
    obtain ⟨hi, rfl⟩ : ∃ hi : i < p.table.toList.length, p.table.toList[i].2 = line := by
      simpa [List.getElem?_eq_some_iff] using hline
    refine ⟨hi, beq_iff_eq.2 (h _ (List.getElem_mem hi)).symm, ?_⟩
    intro j hj
    have hlt : p.table.toList[j].1 < p.table.toList[i].1 :=
      Nat.compare_eq_lt.1 (List.pairwise_iff_getElem.1 p.table.ascending j i _ hi hj)
    have hkey := h _ (List.getElem_mem hi)
    simp only [beq_iff_eq]
    omega

/-- The table of a program is what its physical lines are read to. -/
theorem readLines_of_parse {source : String} {p : Program} (parsed : parse source = .ok p) :
    readLines 1 0 ∅ (Text.lines source.toList) = .ok p.table := by
  unfold parse at parsed
  cases hread : readLines 1 0 ∅ (Text.lines source.toList) with
  | error e =>
      rw [hread] at parsed
      cases parsed
  | ok t =>
      rw [hread] at parsed
      change (if t.isEmpty then .error .empty else .ok ⟨t⟩ : Except LoadError Program) = _ at parsed
      split at parsed <;> cases parsed
      rfl

/-- What a text is read to. -/
theorem comesFrom_of_parse {source : String} {p : Program} (parsed : parse source = .ok p)
    (found : p.table.find? n = some line) :
    line.number = n ∧ ComesFrom line 0 (Text.lines source.toList) := by
  rcases comesFrom_of_readLines (readLines_of_parse parsed) found with hcomes | ⟨hempty, -⟩
  · exact hcomes
  · cases hempty

theorem keyed_of_parse {source : String} {p : Program} (parsed : parse source = .ok p) : p.Keyed :=
  fun _ hentry => (comesFrom_of_parse parsed (Table.find?_eq_some_iff.2 hentry)).1

theorem comesFrom_of_mem {source : String} {p : Program} (parsed : parse source = .ok p)
    (h : line ∈ p.lines) : ComesFrom line 0 (Text.lines source.toList) := by
  obtain ⟨entry, hentry, rfl⟩ := List.mem_map.1 h
  exact (comesFrom_of_parse parsed (Table.find?_eq_some_iff.2 hentry)).2

/--
The lines of a program are in the order of their numbers, and the index of a number is that of its
line.  A line is the last physical line whose leading digits denote its number, without the blanks
around it.  It stands where it says, inside that physical line: this part of the text is the line,
has no line feed in it, and no character in common with another line of the program.
-/
theorem parse_locates {source : String} {p : Program} (parsed : parse source = .ok p) :
    p.lines.Pairwise (fun a b => a.number < b.number ∧ a.Apart b) ∧
    (∀ n i, p.indexOf? n = some i ↔ ∃ line, p.lines[i]? = some line ∧ line.number = n) ∧
    ∀ line ∈ p.lines,
      (∃ before raw after, Text.lines source.toList = before ++ raw :: after ∧
        numberOf? raw = some line.number ∧
        (∀ other ∈ after, numberOf? other ≠ some line.number) ∧
        line.text.toList = Text.trim raw ∧ Line.compile line.text = .ok line.compiled ∧
        before.flatten.length ≤ line.start ∧
        line.start + line.len ≤ before.flatten.length + raw.length) ∧
      (source.toList.drop line.start).take line.len = line.text.toList ∧
      '\n' ∉ line.text.toList := by
  have hkeyed := keyed_of_parse parsed
  refine ⟨?_, fun n i => hkeyed.indexOf?_eq_some_iff, ?_⟩
  · refine hkeyed.ascending.imp_of_mem ?_
    intro a b ha hb hlt
    have hcomes := comesFrom_of_mem parsed ha
    exact ⟨hlt, hcomes.apart (comesFrom_of_mem parsed hb) (Nat.ne_of_lt hlt)⟩
  · intro line hline
    obtain ⟨before, raw, after, hsource, hstands, hlast⟩ := (comesFrom_of_mem parsed hline).split
    rw [Nat.zero_add] at hstands
    have hraw : raw ∈ Text.lines source.toList := by simp [hsource]
    refine ⟨⟨before, raw, after, hsource, hstands.numberOf, ?_, hstands.text, hstands.compiled,
      hstands.bounds⟩, ?_, ?_⟩
    · -- A number that a line is stored under is not too large, so it is denoted by no later line.
      intro other hother hsame
      have hbound := hstands.number
      rw [leadingNumber?_trim, hstands.numberOf] at hbound
      refine hlast other hother ?_
      rw [leadingNumber?_trim, hsame]
      exact hbound
    · have hflatten : source.toList = before.flatten ++ (raw ++ after.flatten) := by
        rw [← Text.flatten_lines source.toList, hsource, List.flatten_append, List.flatten_cons]
      rw [hflatten]
      exact hstands.slice after.flatten
    · rw [hstands.text]
      exact Text.lineFeed_notMem_trim hraw

/-- A text with blanks, a remark and both kinds of line ends, in which line 20 stands twice. -/
def scattered : String := "20 end\r\n\n  10 stop \n\x27 é\r\n20 return"

/-- The program of this text: the second line 20 has taken the place of the first. -/
def ofScattered : Program :=
  ⟨⟨[(10, ⟨10, "10 stop", 11, 7, ⟨some 10, [.stop]⟩⟩),
    (20, ⟨20, "20 return", 25, 9, ⟨some 20, [.return]⟩⟩)], by decide⟩⟩

/-- Both lines stand where they say. -/
theorem parse_locates_scattered :
    parse scattered = .ok ofScattered ∧
      ofScattered.indexOf? 20 = some 1 ∧
      (scattered.toList.drop 11).take 7 = "10 stop".toList ∧
      (scattered.toList.drop 25).take 9 = "20 return".toList := by
  have parsed : parse scattered = .ok ofScattered := by with_unfolding_all rfl
  obtain ⟨-, hindex, hlines⟩ := parse_locates parsed
  obtain ⟨-, hstop, -⟩ := hlines ⟨10, "10 stop", 11, 7, ⟨some 10, [.stop]⟩⟩ (.head _)
  obtain ⟨-, hreturn, -⟩ := hlines ⟨20, "20 return", 25, 9, ⟨some 20, [.return]⟩⟩ (.tail _ (.head _))
  exact ⟨parsed, (hindex 20 1).2 ⟨_, rfl, rfl⟩, hstop, hreturn⟩

end Program

end LineBasic
