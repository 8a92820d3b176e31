import LineBasic.Proofs.FirstWords

/-!
# What becomes of the lines of a text

A program is read from a text, physical line by physical line.  A line without a number is passed over
if it is blank or a remark, and refused otherwise.  Whether it is a remark is decided by the scan for
the first word, which takes the letters that come first and compares them with `rem`.  The tokens of
the line are not asked.

So there are lines that hold more than a remark and are passed over.  A name that begins with these
letters goes on behind them, and the scan stops before the digit, the dot or the type mark.  And a
number that is too large for a line is no number of that line, but the scan passes it as if it were
one, so a remark behind it takes it along.  Every other line is accounted for: it is blank or a remark,
or it is in the program, or a later line has taken its place there.

## Main definitions

* `LooksLikeRemark`, `GoesOn`: where the scan ends the first word, and where that is too early.
* `Program.Lost`: a line that is passed over and holds more than a remark.
* `Program.Accounted`: a line that is blank, a remark, in the program, or superseded.

## Main results

* `word_remark`, `word_goesOn`: what the compiler reads where the scan finds `rem`.
* `remark_or_lost`: a line that is passed over is blank, a remark, or lost.
* `readLine_of_readLines`: every line of a program was read, and is found there if it is the last.
* `accounted_iff`: a line of a program is accounted for unless it is lost.
-/

namespace LineBasic

open Number (isDigit)

/-! ## Words that look like remarks -/

/-- The letters at the start of a text are those of `REM`. -/
def LooksLikeRemark (cs : List Char) : Prop :=
  Text.asciiLower (String.ofList (cs.takeWhile Text.isLetter)) = "rem"

/-- The word at the start of a text goes on behind its letters: with a digit, a dot or a type mark. -/
def GoesOn (cs : List Char) : Prop :=
  ∃ mark ∈ (cs.dropWhile Text.isLetter).head?,
    Lexeme.isNameChar mark = true ∨ Lexeme.isTypeMark mark = true

section Words

variable {c : Char} {cs blanks : List Char}

theorem LooksLikeRemark.exists_letter (looks : LooksLikeRemark cs) :
    ∃ w tail, cs = w :: tail ∧ Text.isLetter w = true := by
  have hsome : cs.takeWhile Text.isLetter ≠ [] := by
    intro hnone
    rw [LooksLikeRemark, hnone] at looks
    exact absurd looks (by decide)
  cases cs with
  | nil => exact absurd rfl hsome
  | cons w tail =>
      refine ⟨w, tail, rfl, ?_⟩
      by_contra hw
      exact hsome (List.takeWhile_cons_of_neg hw)

theorem isLetter_of_isBlank (h : Text.isBlank c = true) : Text.isLetter c = false := by
  rw [← Bool.not_eq_true]
  intro hletter
  cases h.symm.trans (Text.isBlank_of_isLetter hletter)

/-- Blanks behind a text do not change whether it looks like a remark. -/
theorem looksLikeRemark_append (h : ∀ c ∈ blanks, Text.isBlank c = true) (cs : List Char) :
    LooksLikeRemark (cs ++ blanks) ↔ LooksLikeRemark cs := by
  unfold LooksLikeRemark
  rw [Text.takeWhile_append_of_neg fun c hc => isLetter_of_isBlank (h c hc)]

/-- A blank ends a word. -/
theorem isBlank_ends (h : Text.isBlank c = true) :
    Lexeme.isNameChar c = false ∧ Lexeme.isTypeMark c = false := by
  have hpoint : c ≠ '.' := by rintro rfl; cases h
  have hmarks : c ≠ '%' ∧ c ≠ '!' ∧ c ≠ '$' := by
    refine ⟨?_, ?_, ?_⟩ <;> rintro rfl <;> cases h
  simp [Lexeme.isNameChar, Lexeme.isTypeMark, isLetter_of_isBlank h, Text.isDigit_of_isBlank h,
    hpoint, hmarks]

/-- Blanks behind a text do not make its first word go on. -/
theorem goesOn_append (h : ∀ c ∈ blanks, Text.isBlank c = true) (cs : List Char) :
    GoesOn (cs ++ blanks) ↔ GoesOn cs := by
  unfold GoesOn
  cases hrest : cs.dropWhile Text.isLetter with
  | cons mark rest => simp [List.dropWhile_append, hrest]
  | nil =>
      have hblanks : ∀ mark ∈ (blanks.dropWhile Text.isLetter).head?, Text.isBlank mark = true :=
        fun mark hmark => h mark ((List.dropWhile_sublist _).subset (List.mem_of_mem_head? hmark))
      rw [List.dropWhile_append, hrest]
      refine iff_of_false ?_ (by simp)
      rintro ⟨mark, hmark, hgoes⟩
      simp [isBlank_ends (hblanks mark hmark)] at hgoes

theorem isNameChar_of_letters (cs : List Char) :
    ∀ c ∈ cs.takeWhile Text.isLetter, Lexeme.isNameChar c = true :=
  fun _ hc => Lexeme.isNameChar_of_isLetter (List.mem_takeWhile_imp hc)

/-- A word that does not go on behind its letters ends with them. -/
theorem word_ends (ends : ¬ GoesOn cs) :
    cs.takeWhile Lexeme.isNameChar = cs.takeWhile Text.isLetter ∧
      (cs.dropWhile Lexeme.isNameChar).head?.filter Lexeme.isTypeMark = none := by
  have hletters := isNameChar_of_letters cs
  cases hrest : cs.dropWhile Text.isLetter with
  | nil =>
      have hcs : cs.takeWhile Text.isLetter = cs := by
        have happend := List.takeWhile_append_dropWhile (p := Text.isLetter) (l := cs)
        rwa [hrest, List.append_nil] at happend
      rw [hcs] at hletters ⊢
      rw [List.takeWhile_eq_self_iff.2 hletters, List.dropWhile_eq_nil_iff.2 hletters]
      exact ⟨rfl, rfl⟩
  | cons mark rest =>
      have hmark : Lexeme.isNameChar mark = false ∧ Lexeme.isTypeMark mark = false := by
        have hnot : ¬ (Lexeme.isNameChar mark = true ∨ Lexeme.isTypeMark mark = true) :=
          fun hgoes => ends ⟨mark, by simp [hrest], hgoes⟩
        simpa using hnot
      have hcs := eq_takeWhile_append hrest
      generalize cs.takeWhile Text.isLetter = letters at hletters hcs ⊢
      subst hcs
      rw [Lexeme.takeWhile_stops hletters hmark.1, Lexeme.dropWhile_stops hletters hmark.1]
      exact ⟨rfl, by simp [Option.filter, hmark.2]⟩

/-- A keyword consists of letters. -/
theorem ofWord?_eq_none {word : String} (hc : c ∈ word.toList) (other : Text.isLetter c = false) :
    Keyword.ofWord? word = none := by
  have hletters : ∀ k : Keyword, k.word.toList.all Text.isLetter = true := by
    intro k
    cases k <;> decide
  cases hword : Keyword.ofWord? word with
  | none => rfl
  | some k =>
      have hletter := List.all_eq_true.1 (hletters k) c (Keyword.eq_word_of_ofWord? hword ▸ hc)
      cases other.symm.trans hletter

/-- A word that goes on behind its letters is no keyword. -/
theorem word_goesOn (goesOn : GoesOn cs) : ∃ name more, Lexeme.word cs = .token (.name name) more := by
  obtain ⟨mark, hmark, hgoes⟩ := goesOn
  obtain ⟨rest, hrest⟩ := List.head?_eq_some_iff.1 (Option.mem_def.1 hmark)
  have hother : Text.isLetter mark = false := by
    have hhead := List.head?_dropWhile_not Text.isLetter cs
    rw [hrest] at hhead
    simpa using hhead
  have hletters := isNameChar_of_letters cs
  have hcs := eq_takeWhile_append hrest
  generalize cs.takeWhile Text.isLetter = letters at hletters hcs
  subst hcs
  unfold Lexeme.word
  dsimp only
  split
  · exact ⟨_, _, rfl⟩
  · next hnone =>
      -- Without a type mark the word goes on with a digit or a dot, which no keyword has.
      have hname : Lexeme.isNameChar mark = true := by
        by_contra hend
        rw [Lexeme.dropWhile_stops hletters (by simpa using hend)] at hnone
        simp [Option.filter, hgoes.resolve_left hend] at hnone
      have hkeyword : Keyword.ofWord? (Text.asciiLower
          (String.ofList ((letters ++ mark :: rest).takeWhile Lexeme.isNameChar))) = none := by
        refine ofWord?_eq_none (c := Text.asciiLowerChar mark) ?_ ?_
        · rw [List.takeWhile_append_of_pos hletters, List.takeWhile_cons_of_pos hname]
          simp [Text.asciiLower]
        · rw [← Bool.not_eq_true]
          intro hletter
          cases hother.symm.trans (isLetter_of_asciiLowerChar hletter)
      rw [hkeyword]
      exact ⟨_, _, rfl⟩

/-- A word that looks like a remark and does not go on is one. -/
theorem word_remark (looks : LooksLikeRemark cs) (ends : ¬ GoesOn cs) :
    Lexeme.word cs = .comment := by
  obtain ⟨hname, hmark⟩ := word_ends ends
  unfold Lexeme.word
  dsimp only
  rw [hmark, hname, looks]
  rfl

end Words

/-! ## Lines that are passed over -/

namespace Text

variable {c : Char} {raw blanks rest : List Char}

/-- A trimmed text does not begin with a blank. -/
theorem isBlank_of_head_trim (h : c ∈ (trim raw).head?) : isBlank c = false := by
  obtain ⟨more, hmore⟩ := List.head?_eq_some_iff.1 (Option.mem_def.1 h)
  obtain ⟨behind, htrim, -⟩ := exists_trimEnd (trimStart raw)
  have hstart : (raw.dropWhile isBlank).head? = some c := by
    show (trimStart raw).head? = some c
    rw [htrim]
    show (trim raw ++ behind).head? = some c
    rw [hmore]
    rfl
  have hhead := List.head?_dropWhile_not isBlank raw
  rw [hstart] at hhead
  simpa using hhead

theorem eq_nil_of_trim (h : trim raw = blanks ++ rest) (hblanks : ∀ c ∈ blanks, isBlank c = true) :
    blanks = [] := by
  cases blanks with
  | nil => rfl
  | cons c blanks =>
      have hhead : c ∈ (trim raw).head? := by simp [h]
      have hother := isBlank_of_head_trim hhead
      cases (hblanks c (.head _)).symm.trans hother

@[simp] theorem trimStart_trim (raw : List Char) : trimStart (trim raw) = trim raw := by
  cases h : trim raw with
  | nil => rfl
  | cons c rest =>
      have hhead : c ∈ (trim raw).head? := by simp [h]
      have hother := isBlank_of_head_trim hhead
      exact List.dropWhile_cons_of_neg (by simp [hother])

@[simp] theorem trim_trim (raw : List Char) : trim (trim raw) = trim raw := by
  show trimEnd (trimStart (trim raw)) = trim raw
  rw [trimStart_trim]
  exact List.rdropWhile_idempotent ..

end Text

namespace Program

variable {physical offset pos : Nat} {raw : List Char} {before after raws : List (List Char)}
  {line : SourceLine} {table t : Table Nat SourceLine} {p : Program}

/-- A line without the blanks around it that is passed over and holds more than a remark. -/
inductive Lost : List Char → Prop
  /-- A name that begins with the letters of `REM`. -/
  | name {cs : List Char} (looks : LooksLikeRemark cs) (goesOn : GoesOn cs) : Lost cs
  /-- A number that is too large, with what looks like a remark behind it. -/
  | number {digits gap rest : List Char} (hdigits : ∀ c ∈ digits, isDigit c = true)
      (large : numberBound ≤ Number.ofDecimalDigits digits)
      (hgap : ∀ c ∈ gap, Text.isBlank c = true) (some_gap : gap ≠ [])
      (looks : LooksLikeRemark rest) : Lost (digits ++ (gap ++ rest))

theorem firstWord?_eq_rem_iff {cs : List Char} :
    firstWord? (String.ofList cs) = some "rem" ↔
      LooksLikeRemark (skipLineNumber (Text.trimStart cs)) := by
  unfold firstWord? LooksLikeRemark
  rw [String.toList_ofList]
  dsimp only
  generalize (skipLineNumber (Text.trimStart cs)).takeWhile Text.isLetter = word
  by_cases hword : word = []
  · subst hword
    exact iff_of_false (by simp) (by decide)
  · simp [hword, Text.asciiLower]

/-- Where the scan finds `rem` in a line without a number. -/
theorem looks_or_lost (number : leadingNumber? (Text.trim raw) = none)
    (looks : LooksLikeRemark (skipLineNumber (Text.trim raw))) :
    LooksLikeRemark (Text.trim raw) ∨ Lost (Text.trim raw) := by
  obtain ⟨w, tail, hscan, hw⟩ := looks.exists_letter
  have hscan' := hscan
  rw [← Text.trimStart_trim raw] at hscan'
  obtain ⟨before, htrim, hbehind⟩ := exists_behindNumber hscan'
  rw [hscan] at looks
  cases hbehind with
  | start hblanks =>
      obtain rfl := Text.eq_nil_of_trim htrim hblanks
      exact .inl (htrim ▸ looks)
  | @number blanks digits gap hblanks hdigits hgap some_digit some_gap =>
      rw [List.append_assoc, List.append_assoc] at htrim
      obtain rfl := Text.eq_nil_of_trim htrim hblanks
      rw [List.nil_append] at htrim
      refine .inr (htrim ▸ .number hdigits ?_ hgap some_gap looks)
      by_contra hsmall
      obtain ⟨g, gap, rfl⟩ := List.exists_cons_of_ne_nil some_gap
      have hleading : (Text.trim raw).takeWhile isDigit = digits := by
        rw [htrim]
        exact Lexeme.takeWhile_stops hdigits (Text.isDigit_of_isBlank (hgap g (.head _))) _
      unfold leadingNumber? at number
      rw [hleading] at number
      simp [some_digit, Nat.not_le.1 hsmall] at number

/-- The tokens of a physical line are those between its blanks. -/
theorem tokenize_raw (raw : List Char) :
    ∃ pos behind, (∀ c ∈ behind, Text.isBlank c = true) ∧
      tokenize (String.ofList raw) = tokensFrom pos (Text.trim raw ++ behind) := by
  obtain ⟨behind, hraw, hbehind⟩ := Text.exists_behind raw
  refine ⟨((Text.chomp raw).takeWhile Text.isBlank).length, behind, hbehind, ?_⟩
  unfold tokenize
  rw [String.toList_ofList]
  conv_lhs => rw [hraw]
  rw [tokensFrom_blanks fun _ hc => List.mem_takeWhile_imp hc, Nat.zero_add]

/-- A line counts as a remark for an apostrophe at its start, or for its first word. -/
theorem head_or_looks (some_text : Text.trim raw ≠ [])
    (comment : isComment (String.ofList (Text.trim raw)) = true) :
    (Text.trim raw).head? = some '\x27' ∨ LooksLikeRemark (skipLineNumber (Text.trim raw)) := by
  unfold isComment at comment
  rw [String.toList_ofList, Text.trim_trim] at comment
  simp only [Bool.or_eq_true, List.isEmpty_iff, beq_iff_eq] at comment
  rcases comment with (hempty | hhead) | hword
  · exact absurd hempty some_text
  · exact .inl hhead
  · rw [firstWord?_eq_rem_iff, Text.trimStart_trim] at hword
    exact .inr hword

/-- A line that is passed over is blank, a remark, or lost. -/
theorem remark_or_lost (read : readLine physical offset raw = .ok none) :
    Text.trim raw = [] ∨ (∃ pos, tokenize (String.ofList raw) = .ok [⟨.keyword .rem, pos⟩]) ∨
      Lost (Text.trim raw) := by
  obtain ⟨pos, behind, hbehind, htokens⟩ := tokenize_raw raw
  unfold readLine at read
  dsimp only at read
  rw [Text.trim_chomp] at read
  split at read
  · next hempty => exact .inl hempty
  next hsome =>
  refine .inr ?_
  split at read
  · next hnumber =>
      split at read
      · next hcomment =>
          rcases head_or_looks hsome hcomment with hhead | hscan
          · obtain ⟨rest, hrest⟩ := List.head?_eq_some_iff.1 hhead
            rw [hrest] at htokens
            exact .inl ⟨pos, htokens.trans (tokensFrom_comment rfl pos)⟩
          · rcases looks_or_lost hnumber hscan with hlooks | hlost
            · by_cases hgoes : GoesOn (Text.trim raw)
              · exact .inr (.name hlooks hgoes)
              · obtain ⟨w, tail, htrim, hw⟩ := hlooks.exists_letter
                rw [← looksLikeRemark_append hbehind] at hlooks
                rw [← goesOn_append hbehind] at hgoes
                have hword := word_remark hlooks hgoes
                rw [htrim] at htokens hword
                rw [List.cons_append, ← ofText_letter hw] at hword
                exact .inl ⟨pos, htokens.trans (tokensFrom_comment hword pos)⟩
            · exact .inr hlost
      · cases read
  · split at read <;> cases read

/-! ## Lines that are lost -/

theorem Lost.leadingNumber? {cs : List Char} (lost : Lost cs) : leadingNumber? cs = none := by
  unfold Program.leadingNumber?
  cases lost with
  | name looks =>
      obtain ⟨w, tail, rfl, hw⟩ := looks.exists_letter
      rw [List.takeWhile_cons_of_neg (by simp [Text.isDigit_of_isLetter hw])]
      exact if_neg fun hdigits => hdigits.1 rfl
  | @number digits gap rest hdigits large hgap some_gap looks =>
      obtain ⟨g, gap, rfl⟩ := List.exists_cons_of_ne_nil some_gap
      rw [List.cons_append,
        Lexeme.takeWhile_stops hdigits (Text.isDigit_of_isBlank (hgap g (.head _)))]
      exact if_neg fun hsmall => absurd hsmall.2 (Nat.not_lt.2 large)

theorem Lost.ne_nil {cs : List Char} (lost : Lost cs) : cs ≠ [] := by
  cases lost with
  | name looks =>
      obtain ⟨w, tail, rfl, -⟩ := looks.exists_letter
      exact List.cons_ne_nil _ _
  | number _ _ _ _ looks =>
      obtain ⟨w, tail, rfl, -⟩ := looks.exists_letter
      simp

/-- The first token of a lost line is a name or a number. -/
theorem Lost.tokenize_ne (lost : Lost (Text.trim raw)) :
    tokenize (String.ofList raw) ≠ .ok [⟨.keyword .rem, pos⟩] := by
  obtain ⟨start, behind, hbehind, htokens⟩ := tokenize_raw raw
  rw [htokens]
  intro htokens
  generalize Text.trim raw = cs at lost htokens
  cases lost with
  | name looks goesOn =>
      obtain ⟨w, tail, rfl, hw⟩ := looks.exists_letter
      rw [← goesOn_append hbehind] at goesOn
      obtain ⟨name, more, hname⟩ := word_goesOn goesOn
      rw [List.cons_append, ← ofText_letter hw] at hname
      rw [List.cons_append, tokensFrom_token hname] at htokens
      obtain ⟨later, -, hfirst⟩ := exists_later htokens
      cases hfirst
  | @number digits gap rest hdigits large hgap some_gap looks =>
      have some_digit : digits ≠ [] := by
        rintro rfl
        exact absurd large (by decide)
      obtain ⟨g, gap, rfl⟩ := List.exists_cons_of_ne_nil some_gap
      obtain ⟨value, hnumber⟩ := tokensFrom_number hdigits some_digit (hgap g (.head _)) start
        (gap ++ rest ++ behind)
      rw [List.append_assoc, List.cons_append, List.cons_append, hnumber] at htokens
      obtain ⟨later, -, hfirst⟩ := exists_later htokens
      cases hfirst

/-! ## All lines of a program -/

/-- What no physical line is stored under stays as it was. -/
theorem find?_of_unnumbered {n : Nat} (read : readLines physical offset table raws = .ok t)
    (unnumbered : Unnumbered n raws) : t.find? n = table.find? n := by
  induction raws generalizing physical offset table with
  | nil =>
      cases read
      rfl
  | cons raw raws ih =>
      obtain ⟨hfirst, hothers⟩ := List.forall_mem_cons.1 unnumbered
      obtain ⟨r, hline, hrest⟩ := readLines_cons read
      rcases readLine_standsIn hline with ⟨rfl, -⟩ | ⟨line, rfl, hstands⟩
      · exact ih hrest hothers
      · have hother : n ≠ line.number := fun heq => hfirst (heq ▸ hstands.number)
        simpa [hother] using ih hrest hothers

/-- Every physical line was read, and is found under its number if it is the last that has it. -/
theorem readLine_of_readLines
    (read : readLines physical offset table (before ++ raw :: after) = .ok t) :
    ∃ r, readLine (physical + before.length) (offset + before.flatten.length) raw = .ok r ∧
      ∀ line, r = some line → Unnumbered line.number after →
        t.find? line.number = some line := by
  induction before generalizing physical offset table with
  | nil =>
      obtain ⟨r, hline, hrest⟩ := readLines_cons read
      refine ⟨r, hline, ?_⟩
      rintro line rfl unnumbered
      exact (find?_of_unnumbered hrest unnumbered).trans (Table.find?_insert_self ..)
  | cons first before ih =>
      have hphysical : physical + (first :: before).length = physical + 1 + before.length := by
        rw [List.length_cons]
        omega
      have hoffset : offset + (first :: before).flatten.length =
          offset + first.length + before.flatten.length := by
        rw [List.flatten_cons, List.length_append, Nat.add_assoc]
      rw [hphysical, hoffset]
      obtain ⟨r, -, hrest⟩ := readLines_cons read
      exact ih hrest

/-- What became of a physical line that begins `offset` characters into a text, with the lines
`after` behind it, in the program of that text. -/
inductive Accounted (p : Program) (offset : Nat) (raw : List Char) (after : List (List Char)) : Prop
  | blank (blank : ∀ c ∈ raw, Text.isBlank c = true)
  | stored {line : SourceLine} (mem : line ∈ p.lines) (stands : StandsIn offset raw line)
  | superseded {n : Nat} {other : List Char} (number : leadingNumber? (Text.trim raw) = some n)
      (mem : other ∈ after) (same : leadingNumber? (Text.trim other) = some n)
  | remark {pos : Nat} (tokens : tokenize (String.ofList raw) = .ok [⟨.keyword .rem, pos⟩])

/-- A line that goes into the program is found there, or a later line of its number is. -/
theorem accounted_of_stands (stands : StandsIn offset raw line)
    (found : Unnumbered line.number after → p.table.find? line.number = some line) :
    Accounted p offset raw after := by
  by_cases hlast : Unnumbered line.number after
  · have hentry := Table.find?_eq_some_iff.1 (found hlast)
    exact .stored (List.mem_map.2 ⟨_, hentry, rfl⟩) stands
  · unfold Unnumbered at hlast
    push Not at hlast
    obtain ⟨other, hother, hsame⟩ := hlast
    exact .superseded stands.number hother hsame

/--
Every physical line of a program is blank, or is in the program, or a later line has taken its number,
or its only token is a remark, except for the lines that are lost.  These are the lines that begin with
the letters of `REM`, in any case, and a digit, a dot or a type mark right behind them, and those that
begin with a number too large for a line, a blank, and the letters of `REM`.
-/
theorem accounted_iff {source : String} (parsed : parse source = .ok p)
    (split : Text.lines source.toList = before ++ raw :: after) :
    Accounted p before.flatten.length raw after ↔ ¬ Lost (Text.trim raw) := by
  constructor
  · intro haccounted lost
    cases haccounted with
    | blank blank => exact lost.ne_nil (Text.trim_eq_nil_iff.2 blank)
    | stored mem stands => cases lost.leadingNumber?.symm.trans stands.number
    | superseded number => cases lost.leadingNumber?.symm.trans number
    | remark tokens => exact lost.tokenize_ne tokens
  · intro kept
    have hread := readLines_of_parse parsed
    rw [split] at hread
    obtain ⟨r, hline, hfound⟩ := readLine_of_readLines hread
    rw [Nat.zero_add] at hline
    rcases readLine_standsIn hline with ⟨rfl, -⟩ | ⟨line, rfl, hstands⟩
    · rcases remark_or_lost hline with hempty | ⟨pos, htokens⟩ | hlost
      · exact .blank (Text.trim_eq_nil_iff.1 hempty)
      · exact .remark htokens
      · exact absurd hlost kept
    · exact accounted_of_stands hstands (hfound line rfl)

/-- A text with an assignment that is lost, between a line that is superseded and the one that is
stored. -/
def losing : String := "10 stop\nrem5=1\n10 end"

/-- The program of this text. -/
def ofLosing : Program := ⟨⟨[(10, ⟨10, "10 end", 15, 6, ⟨some 10, [.end]⟩⟩)], by decide⟩⟩

/-- The assignment is neither in the program nor a remark, and the two other lines are accounted
for. -/
theorem accounted_iff_losing :
    parse losing = .ok ofLosing ∧
      Line.compile "rem5=1" = .ok ⟨none, [.assign ⟨"rem5R", .number⟩ (.number (Float.ofNat 1))]⟩ ∧
      ¬ Accounted ofLosing 8 "rem5=1\n".toList ["10 end".toList] ∧
      Accounted ofLosing 0 "10 stop\n".toList ["rem5=1\n".toList, "10 end".toList] := by
  have parsed : parse losing = .ok ofLosing := by with_unfolding_all rfl
  have compiled : Line.compile "rem5=1" =
      .ok ⟨none, [.assign ⟨"rem5R", .number⟩ (.number (Float.ofNat 1))]⟩ := by
    with_unfolding_all rfl
  have hlost : Lost (Text.trim "rem5=1\n".toList) := .name rfl ⟨'5', by decide, by decide⟩
  have hkept : ¬ Lost (Text.trim "10 stop\n".toList) := by
    intro hlost
    cases hlost.leadingNumber?.symm.trans (show leadingNumber? _ = some 10 from rfl)
  have hfirst : Text.lines losing.toList =
      [] ++ "10 stop\n".toList :: ["rem5=1\n".toList, "10 end".toList] := by
    decide
  have hsecond : Text.lines losing.toList =
      ["10 stop\n".toList] ++ "rem5=1\n".toList :: ["10 end".toList] := by
    decide
  refine ⟨parsed, compiled, ?_, ?_⟩
  · exact fun haccounted => (accounted_iff parsed hsecond).1 haccounted hlost
  · exact (accounted_iff parsed hfirst).2 hkept

end Program

end LineBasic
