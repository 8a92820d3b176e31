import LineBasic.FirstWord
import LineBasic.Proofs.LineNumbers

/-!
# The first word of an assignment

The console looks at the first word of a text before the text is compiled.  It finds that word in a
scan of its own, which passes blanks and a line number and takes the letters that follow.  The
compiler cuts the same text into tokens.

The two agree on where the first word begins.  They do not agree on where it ends: a name goes on with
digits, dots and a type mark, and the scan stops before these.  So the letters at the start of a name
are taken for a command where the whole name is none, and the assignment to it is refused.

## Main definitions

* `Line.firstToken?`: the token that begins the first statement of a line.
* `BehindNumber`: what can stand before a word that counts as the first one.
* `BeginsWithCommand`: a name is a command that the console refuses, and goes on behind that.

## Main results

* `skipLineNumber_behind`, `exists_behindNumber`: the scan comes to a word that stands behind this.
* `firstToken?_behind`: the compiler comes to the same word.
* `blocked_assignment_iff`: which assignments the console takes for commands.
-/

namespace LineBasic

open Number (isDigit)

/-! ## Letters and runs of characters -/

namespace Text

variable {c : Char}

theorem isLetter_range (h : isLetter c = true) :
    (97 ≤ c.toNat ∧ c.toNat ≤ 122) ∨ (65 ≤ c.toNat ∧ c.toNat ≤ 90) := by
  simp only [isLetter, Bool.or_eq_true, Bool.and_eq_true, decide_eq_true_eq, Char.le_def,
    UInt32.le_iff_toNat_le] at h
  exact h

theorem isBlank_of_isLetter (h : isLetter c = true) : isBlank c = false := by
  have hrange := isLetter_range h
  rw [← Bool.not_eq_true]
  intro hblank
  simp only [isBlank, Bool.or_eq_true, Bool.and_eq_true, decide_eq_true_eq, beq_iff_eq] at hblank
  omega

theorem isDigit_of_isLetter (h : isLetter c = true) : isDigit c = false := by
  have hrange := isLetter_range h
  rw [← Bool.not_eq_true]
  intro hdigit
  simp only [isDigit, decide_eq_true_eq, Char.le_def, UInt32.le_iff_toNat_le] at hdigit
  have hbounds : 48 ≤ c.toNat ∧ c.toNat ≤ 57 := hdigit
  omega

end Text

theorem eq_takeWhile_append {p : Char → Bool} {cs rest : List Char} (h : cs.dropWhile p = rest) :
    cs = cs.takeWhile p ++ rest := by
  rw [← h, List.takeWhile_append_dropWhile]

/-! ## Behind a line number -/

/-- What can stand before a word that counts as the first one: blanks only, or the digits of a line
number with blanks around them, at least one of these behind the digits. -/
inductive BehindNumber : List Char → Prop
  | start {blanks : List Char} (hblanks : ∀ c ∈ blanks, Text.isBlank c = true) :
      BehindNumber blanks
  | number {blanks digits gap : List Char} (hblanks : ∀ c ∈ blanks, Text.isBlank c = true)
      (hdigits : ∀ c ∈ digits, isDigit c = true) (hgap : ∀ c ∈ gap, Text.isBlank c = true)
      (some_digit : digits ≠ []) (some_gap : gap ≠ []) : BehindNumber (blanks ++ digits ++ gap)

section Scan

variable {w : Char} {before tail : List Char}

/-- A word is no line number. -/
theorem skipLineNumber_letter (hw : Text.isLetter w = true) (tail : List Char) :
    skipLineNumber (w :: tail) = w :: tail := by
  have hdigit := Text.isDigit_of_isLetter hw
  simp [skipLineNumber, hdigit]

/-- The scan passes a line number. -/
theorem skipLineNumber_behind (h : BehindNumber before) (hw : Text.isLetter w = true)
    (tail : List Char) : skipLineNumber (Text.trimStart (before ++ w :: tail)) = w :: tail := by
  have hblank := Text.isBlank_of_isLetter hw
  cases h with
  | start hblanks =>
      rw [Text.trimStart, Lexeme.dropWhile_stops hblanks hblank, skipLineNumber_letter hw]
  | @number blanks digits gap hblanks hdigits hgap some_digit some_gap =>
      obtain ⟨d, digits, rfl⟩ := List.exists_cons_of_ne_nil some_digit
      obtain ⟨g, gap, rfl⟩ := List.exists_cons_of_ne_nil some_gap
      obtain ⟨hg, hgap⟩ := List.forall_mem_cons.1 hgap
      have hd := hdigits d (.head _)
      have hdblank : Text.isBlank d = false := by
        by_contra hdblank
        simp [Text.isDigit_of_isBlank (by simpa using hdblank)] at hd
      have htext : blanks ++ (d :: digits) ++ (g :: gap) ++ w :: tail =
          blanks ++ d :: (digits ++ g :: (gap ++ w :: tail)) := by simp
      have hnumber : (d :: (digits ++ g :: (gap ++ w :: tail))).dropWhile isDigit =
          g :: (gap ++ w :: tail) :=
        Lexeme.dropWhile_stops hdigits (Text.isDigit_of_isBlank hg) (gap ++ w :: tail)
      rw [htext, Text.trimStart, Lexeme.dropWhile_stops hblanks hdblank]
      simp only [skipLineNumber, hnumber, List.head?_cons, Option.any_some, hd, hg, and_self, if_true]
      exact Lexeme.dropWhile_stops hgap hblank tail

/-- A word that the scan comes to stands behind a line number. -/
theorem exists_behindNumber {cs : List Char} (h : skipLineNumber (Text.trimStart cs) = w :: tail) :
    ∃ before, cs = before ++ w :: tail ∧ BehindNumber before := by
  have hstart : cs = cs.takeWhile Text.isBlank ++ Text.trimStart cs := eq_takeWhile_append rfl
  have hblanks : ∀ c ∈ cs.takeWhile Text.isBlank, Text.isBlank c = true :=
    fun _ hc => List.mem_takeWhile_imp hc
  unfold skipLineNumber at h
  split at h
  · next c rest hrest =>
      split at h
      · next hnumber =>
          have hdigits := eq_takeWhile_append hrest
          have hgap : rest = rest.takeWhile Text.isBlank ++ w :: tail := eq_takeWhile_append h
          refine ⟨cs.takeWhile Text.isBlank ++ (Text.trimStart cs).takeWhile isDigit ++
            c :: rest.takeWhile Text.isBlank, ?_, .number hblanks
              (fun _ hd => List.mem_takeWhile_imp hd)
              (List.forall_mem_cons.2 ⟨hnumber.2, fun _ hg => List.mem_takeWhile_imp hg⟩)
              ?_ (List.cons_ne_nil _ _)⟩
          · rw [List.append_assoc, List.append_assoc, List.cons_append, ← hgap, ← hdigits, ← hstart]
          · cases htext : Text.trimStart cs with
            | nil => simp [htext] at hnumber
            | cons d more =>
                have hd : isDigit d = true := by simpa [htext] using hnumber.1
                rw [List.takeWhile_cons_of_pos hd]
                exact List.cons_ne_nil _ _
      · rw [h] at hstart
        exact ⟨_, hstart, .start hblanks⟩
  · rw [h] at hstart
    exact ⟨_, hstart, .start hblanks⟩

end Scan

/-! ## The word that the compiler comes to -/

/-- The token that begins the first statement of a line. -/
def Line.firstToken? (ts : List Token) : Option Token :=
  (Stmt.skipColons (if startsWithNumber ts then ts.tail else ts)).head?

theorem mem_of_firstToken? {ts : List Token} {t : Token} (h : Line.firstToken? ts = some t) :
    t ∈ ts := by
  have hmem := (List.dropWhile_sublist _).subset (List.mem_of_head? h)
  split at hmem
  · exact List.mem_of_mem_tail hmem
  · exact hmem

section Tokens

variable {c w : Char} {blanks digits before rest tail : List Char} {ts : List Token} {pos : Nat}

theorem ofText_blank (hc : Text.isBlank c = true) (rest : List Char) :
    Lexeme.ofText c rest = .blank := if_pos hc

theorem tokensFrom_blanks (h : ∀ c ∈ blanks, Text.isBlank c = true) (pos : Nat)
    (rest : List Char) :
    tokensFrom pos (blanks ++ rest) = tokensFrom (pos + blanks.length) rest := by
  induction blanks generalizing pos with
  | nil => rfl
  | cons c blanks ih =>
      obtain ⟨hc, hblanks⟩ := List.forall_mem_cons.1 h
      rw [List.cons_append, tokensFrom_blank (ofText_blank hc _), List.length_cons, ih hblanks]
      congr 1
      omega

/-- Digits with a blank behind them are a whole numeral. -/
theorem decimal_width_blank (hdigits : ∀ d ∈ digits, isDigit d = true)
    (hc : Text.isBlank c = true) (rest : List Char) :
    (Lexeme.decimal (digits ++ c :: rest)).2 = digits.length := by
  have hdigit := Text.isDigit_of_isBlank hc
  have hpoint : c ≠ '.' := by rintro rfl; cases hc
  have hplaces : Lexeme.places (c :: rest) = ([], 0, c :: rest) := by simp [Lexeme.places, hpoint]
  have hmark : ¬ (c = 'e' ∨ c = 'E') := by rintro (rfl | rfl) <;> cases hc
  rw [Lexeme.decimal_eq, Lexeme.takeWhile_stops hdigits hdigit,
    Lexeme.dropWhile_stops hdigits hdigit, hplaces]
  dsimp only
  rw [Lexeme.powerOf_cons, if_neg hmark]
  rfl

theorem tokensFrom_number (hdigits : ∀ d ∈ digits, isDigit d = true) (some_digit : digits ≠ [])
    (hc : Text.isBlank c = true) (pos : Nat) (rest : List Char) :
    ∃ value, tokensFrom pos (digits ++ c :: rest) =
      (tokensFrom (pos + digits.length) (c :: rest)).map (⟨.number value, pos⟩ :: ·) := by
  have hwidth := decimal_width_blank hdigits hc rest
  obtain ⟨d, digits, rfl⟩ := List.exists_cons_of_ne_nil some_digit
  have hlex := ofText_digit (hdigits d (.head _)) (digits ++ c :: rest)
  rw [List.cons_append] at hwidth ⊢
  rw [hwidth, List.length_cons, Nat.add_sub_cancel] at hlex
  have hplace : pos + 1 + digits.length = pos + (d :: digits).length := by
    rw [List.length_cons]
    omega
  rw [tokensFrom_token hlex, List.drop_left, hplace]
  exact ⟨_, rfl⟩

theorem ofText_letter (hw : Text.isLetter w = true) (tail : List Char) :
    Lexeme.ofText w tail = Lexeme.word (w :: tail) := by
  have hblank := Text.isBlank_of_isLetter hw
  have hdigit := Text.isDigit_of_isLetter hw
  have hpoint : w ≠ '.' := by rintro rfl; cases hw
  have hampersand : w ≠ '&' := by rintro rfl; cases hw
  have hquote : w ≠ '"' := by rintro rfl; cases hw
  simp [Lexeme.ofText, hblank, hdigit, hpoint, hampersand, hquote, hw]

/-- A word at the head of a text is its first token. -/
theorem tokensFrom_letter (hw : Text.isLetter w = true)
    (tokens : tokensFrom pos (w :: tail) = .ok ts) :
    ∃ kind more, ts = ⟨kind, pos⟩ :: more ∧
      ((∃ name, kind = .name name) ∨ ∃ k, kind = .keyword k) := by
  rw [tokensFrom, ofText_letter hw] at tokens
  split at tokens
  · next hlex =>
      unfold Lexeme.word at hlex
      dsimp only at hlex
      split at hlex
      · cases hlex
      · split at hlex <;> cases hlex
  · cases tokens
    exact ⟨_, _, rfl, .inr ⟨_, rfl⟩⟩
  · cases tokens
  · next kind more hlex =>
      obtain ⟨later, -, rfl⟩ := exists_later tokens
      exact ⟨kind, later, rfl, Lexeme.word_kind hlex⟩

/-- A word behind a line number begins the first statement. -/
theorem firstToken?_behind (h : BehindNumber before) (hw : Text.isLetter w = true)
    (tokens : tokensFrom 0 (before ++ w :: tail) = .ok ts) :
    ∃ kind, Line.firstToken? ts = some ⟨kind, before.length⟩ := by
  cases h with
  | start hblanks =>
      rw [tokensFrom_blanks hblanks, Nat.zero_add] at tokens
      obtain ⟨kind, more, rfl, ⟨name, rfl⟩ | ⟨k, rfl⟩⟩ := tokensFrom_letter hw tokens
      · exact ⟨_, rfl⟩
      · exact ⟨_, rfl⟩
  | @number blanks digits gap hblanks hdigits hgap some_digit some_gap =>
      obtain ⟨g, gap, rfl⟩ := List.exists_cons_of_ne_nil some_gap
      obtain ⟨value, hnumber⟩ := tokensFrom_number hdigits some_digit (hgap g (.head _))
        blanks.length (gap ++ w :: tail)
      rw [← List.cons_append, tokensFrom_blanks hgap] at hnumber
      rw [List.append_assoc, List.append_assoc, tokensFrom_blanks hblanks, Nat.zero_add,
        hnumber] at tokens
      rw [List.length_append, List.length_append]
      obtain ⟨later, hlater, rfl⟩ := exists_later tokens
      obtain ⟨kind, more, rfl, ⟨name, rfl⟩ | ⟨k, rfl⟩⟩ := tokensFrom_letter hw hlater
      · exact ⟨_, rfl⟩
      · exact ⟨_, rfl⟩

/-- A name begins with a letter. -/
theorem word_of_name {name : String} {more : Nat}
    (h : Lexeme.ofText c rest = .token (.name name) more) :
    Text.isLetter c = true ∧ Lexeme.word (c :: rest) = .token (.name name) more := by
  have hhead := Lexeme.headed c rest
  rw [h] at hhead
  cases hhead with
  | word hc h => exact ⟨hc, h⟩
  | blank hc h => cases h
  | number hc h => cases h
  | ampersand hc h =>
      obtain ⟨n, hkind⟩ := Lexeme.ampersand_kind h
      cases hkind
  | quotation hc h => cases h
  | apostrophe hc h => cases h
  | sign hblank hnumber hletter hc h =>
      obtain ⟨s, hkind⟩ | ⟨k, hkind⟩ := Lexeme.sign_kind h <;> cases hkind

/-- A name stands in its text where its token says. -/
theorem name_stands {cs : List Char} {name : String} {start : Nat}
    (tokens : tokensFrom start cs = .ok ts) (h : ⟨.name name, pos⟩ ∈ ts) :
    ∃ before w tail more, cs = before ++ w :: tail ∧ pos = start + before.length ∧
      Text.isLetter w = true ∧ Lexeme.word (w :: tail) = .token (.name name) more := by
  induction start, cs using tokensFrom_induction generalizing ts with
  | nil start =>
      rw [tokensFrom_nil] at tokens
      cases tokens
      cases h
  | blank start c rest hlex ih =>
      rw [tokensFrom_blank hlex] at tokens
      obtain ⟨before, w, tail, more, rfl, rfl, hword⟩ := ih tokens h
      exact ⟨c :: before, w, tail, more, rfl, by simp; omega, hword⟩
  | comment start c rest hlex =>
      rw [tokensFrom_comment hlex] at tokens
      cases tokens
      simp at h
  | invalid start c rest problem hlex =>
      rw [tokensFrom_invalid hlex] at tokens
      cases tokens
  | token start c rest kind more hlex ih =>
      rw [tokensFrom_token hlex] at tokens
      obtain ⟨later, hmore, rfl⟩ := exists_later tokens
      rcases List.mem_cons.1 h with hhead | hlater
      · cases hhead
        exact ⟨[], c, rest, more, rfl, rfl, word_of_name hlex⟩
      · have hwidth := Lexeme.ofText_width hlex
        obtain ⟨before, w, tail, more', hrest, rfl, hword⟩ := ih hmore hlater
        refine ⟨c :: (rest.take more ++ before), w, tail, more', ?_, ?_, hword⟩
        · rw [List.cons_append, List.append_assoc, ← hrest, List.take_append_drop]
        · simp
          omega

end Tokens

/-! ## Where the two readings end a name -/

/-- A name is a command that the console refuses, and goes on behind that with another character than a
letter: a digit, a dot or a type mark. -/
def BeginsWithCommand (name : String) : Prop :=
  ∃ command mark behind, name.toList = command ++ mark :: behind ∧
    Text.asciiLower (String.ofList command) ∈ blockedCommands ∧ Text.isLetter mark = false

section Names

variable {c w : Char} {tail : List Char} {name : String} {more : Nat}

theorem isLetter_of_asciiLowerChar (h : Text.isLetter (Text.asciiLowerChar c) = true) :
    Text.isLetter c = true := by
  unfold Text.asciiLowerChar at h
  split at h
  · next hupper => simp [Text.isLetter, hupper]
  · exact h

/-- A command that the console refuses consists of letters. -/
theorem isLetter_of_blocked {command : List Char}
    (h : Text.asciiLower (String.ofList command) ∈ blockedCommands) :
    ∀ c ∈ command, Text.isLetter c = true := by
  have hcommands : ∀ w ∈ blockedCommands, w.toList.all Text.isLetter = true := by decide
  have hletters := hcommands _ h
  simp only [Text.asciiLower, String.toList_ofList, List.all_map, List.all_eq_true] at hletters
  exact fun c hc => isLetter_of_asciiLowerChar (hletters c hc)

/-- The scan takes the letters at the start of a name.  A name of letters only is no keyword. -/
theorem letters_of_word (h : Lexeme.word (w :: tail) = .token (.name name) more) :
    (w :: tail).takeWhile Text.isLetter = name.toList.takeWhile Text.isLetter ∧
      (name.toList.dropWhile Text.isLetter = [] →
        Keyword.ofWord? (Text.asciiLower name) = none) := by
  have hword : (w :: tail).takeWhile Text.isLetter =
      ((w :: tail).takeWhile Lexeme.isNameChar).takeWhile Text.isLetter := by
    rw [List.takeWhile_takeWhile]
    congr 1
    funext c
    cases hc : Text.isLetter c <;> simp [Lexeme.isNameChar, hc]
  unfold Lexeme.word at h
  dsimp only at h
  split at h
  · next mark hmark =>
      cases h
      have htype : Text.isLetter mark = false := by
        obtain ⟨-, htype⟩ := Option.filter_eq_some_iff.1 hmark
        simp only [Lexeme.isTypeMark, Bool.or_eq_true, decide_eq_true_eq] at htype
        rcases htype with (rfl | rfl) | rfl <;> decide
      rw [String.toList_ofList]
      refine ⟨?_, fun hletters => ?_⟩
      · rw [hword, Text.takeWhile_append_of_neg (by simp [htype])]
      · have hmem := List.dropWhile_eq_nil_iff.1 hletters mark (by simp)
        cases htype.symm.trans hmem
  · split at h
    · cases h
    · cases h
    · next hnone =>
        cases h
        rw [String.toList_ofList]
        exact ⟨hword, fun _ => hnone⟩

/-- The scan takes a name for a command if the name begins with one. -/
theorem blocked_word_iff (h : Lexeme.word (w :: tail) = .token (.name name) more) :
    Text.asciiLower (String.ofList ((w :: tail).takeWhile Text.isLetter)) ∈ blockedCommands ↔
      BeginsWithCommand name := by
  obtain ⟨hletters, hkeyword⟩ := letters_of_word h
  rw [hletters]
  constructor
  · intro hblocked
    cases hbehind : name.toList.dropWhile Text.isLetter with
    | nil =>
        -- The name would be the command, which is a keyword.
        have hcommands : ∀ w ∈ blockedCommands, Keyword.ofWord? w ≠ none := by decide
        have hname := eq_takeWhile_append hbehind
        rw [List.append_nil] at hname
        rw [← hname, String.ofList_toList] at hblocked
        exact absurd (hkeyword hbehind) (hcommands _ hblocked)
    | cons mark behind =>
        have hsome : name.toList.dropWhile Text.isLetter ≠ [] := by simp [hbehind]
        have hmark := List.head_dropWhile_not Text.isLetter hsome
        simp only [hbehind, List.head_cons] at hmark
        exact ⟨_, mark, behind, eq_takeWhile_append hbehind, hblocked, hmark⟩
  · rintro ⟨command, mark, behind, hname, hblocked, hmark⟩
    rw [hname, Lexeme.takeWhile_stops (isLetter_of_blocked hblocked) hmark]
    exact hblocked

end Names

/-! ## Assignments -/

section Assignments

variable {source name : String} {ts : List Token} {line : Line} {pos : Nat}

/-- The console refuses a text exactly if its scan comes to a word that is one of the commands. -/
theorem isBlockedInConsole_iff :
    isBlockedInConsole source = true ↔
      ∃ w tail, skipLineNumber (Text.trimStart source.toList) = w :: tail ∧
        Text.isLetter w = true ∧
        Text.asciiLower (String.ofList ((w :: tail).takeWhile Text.isLetter)) ∈ blockedCommands := by
  unfold isBlockedInConsole firstWord?
  dsimp only
  cases hscan : skipLineNumber (Text.trimStart source.toList) with
  | nil => simp
  | cons w tail =>
      by_cases hw : Text.isLetter w = true
      · have hsome : (w :: tail).takeWhile Text.isLetter ≠ [] := by simp [hw]
        rw [if_neg hsome]
        simp [hw, Text.asciiLower]
      · simp [hw]

/-- The statements of a line are what stands behind its number. -/
theorem yields_parseNumber_rest {eol : Nat} (ts : List Token) :
    Yields (fun number => number.rest = if startsWithNumber ts then ts.tail else ts)
      (Line.parseNumber eol ts) := by
  unfold Line.parseNumber
  by_cases hstarts : startsWithNumber ts = true
  · rw [if_pos hstarts, if_pos hstarts]
    have hread : Yields (fun number => number.rest = ts.tail) (parseLineNumber eol ts) := by
      unfold parseLineNumber
      split
      · exact yields_error _
      · split
        · split
          · exact yields_ok rfl
          · exact yields_error _
        · exact yields_error _
    exact yields_bind hread fun number hnumber => yields_pure hnumber
  · rw [if_neg hstarts, if_neg hstarts]
    exact yields_ok rfl

/-- A statement that begins with a name is an assignment. -/
theorem yields_parseOne_name {eol : Nat} {tail : List Token} :
    Yields (fun s => ∃ value, s.value = .assign (Variable.ofName name) value)
      (Stmt.parseOne eol (⟨.name name, pos⟩ :: tail)) := by
  rw [Stmt.parseOne]
  dsimp only
  unfold Stmt.parseAssignment
  dsimp only
  refine yields_bind (yields_any _) fun equals _ => ?_
  refine yields_bind (yields_any _) fun value _ => ?_
  split
  · exact yields_pure ⟨value.value, rfl⟩
  · exact yields_error _

/-- A line whose first statement begins with a name assigns to the variable of that name. -/
theorem yields_ofTokens_name {eol : Nat} (first : Line.firstToken? ts = some ⟨.name name, pos⟩) :
    Yields (fun line : Line => ∃ value more,
      line.statements = .assign (Variable.ofName name) value :: more) (Line.ofTokens eol ts) := by
  obtain ⟨tail, hskip⟩ := List.head?_eq_some_iff.1 first
  unfold Line.ofTokens
  refine yields_bind (yields_parseNumber_rest ts) fun number hrest => ?_
  rw [← hrest] at hskip
  have hlist : Yields (fun r => ∃ s more,
      (∃ value, s = .assign (Variable.ofName name) value) ∧ r.value = s :: more)
      (Stmt.parseList eol number.rest) :=
    Snippet.yields_parseList hskip nofun yields_parseOne_name
  refine yields_bind hlist fun statements hstatements => ?_
  obtain ⟨s, more, ⟨value, rfl⟩, hvalue⟩ := hstatements
  split
  · exact yields_pure ⟨value, more, hvalue⟩
  · exact yields_error _

/--
A line whose first statement begins with a name assigns to the variable of that name.  The console
takes it for a command exactly if nothing but blanks or a line number with a blank behind it stands
before the name, and the name is one of the commands with a digit, a dot or a type mark behind that.
-/
theorem blocked_assignment_iff (tokens : tokenize source = .ok ts)
    (first : Line.firstToken? ts = some ⟨.name name, pos⟩)
    (compiled : Line.compile source = .ok line) :
    (∃ value more, line.statements = .assign (Variable.ofName name) value :: more) ∧
    (isBlockedInConsole source = true ↔
      BehindNumber (source.toList.take pos) ∧ BeginsWithCommand name) := by
  have hmem := mem_of_firstToken? first
  obtain ⟨before, w, tail, more, hsource, hpos, hw, hword⟩ := name_stands tokens hmem
  rw [Nat.zero_add] at hpos
  have hbefore : source.toList.take pos = before := by
    rw [hsource, hpos, List.take_left]
  refine ⟨?_, ?_⟩
  · unfold Line.compile at compiled
    rw [tokens] at compiled
    exact yields_ofTokens_name first line compiled
  · rw [isBlockedInConsole_iff, hbefore, ← blocked_word_iff hword]
    constructor
    · rintro ⟨w', tail', hscan, hw', hblocked⟩
      obtain ⟨before', hsource', hbehind⟩ := exists_behindNumber hscan
      have tokens' := tokens
      unfold tokenize at tokens'
      rw [hsource'] at tokens'
      obtain ⟨kind, hfirst⟩ := firstToken?_behind hbehind hw' tokens'
      rw [first] at hfirst
      cases hfirst
      obtain ⟨rfl, hrest⟩ := List.append_inj (hsource.symm.trans hsource') hpos.symm
      cases hrest
      exact ⟨hbehind, hblocked⟩
    · rintro ⟨hbehind, hblocked⟩
      rw [hsource]
      exact ⟨w, tail, skipLineNumber_behind hbehind hw tail, hw, hblocked⟩

/-- An assignment to a variable whose name begins with a command. -/
def listed : String := "20 list$=\"a\""

/-- The console takes it for the command. -/
theorem blocked_assignment_iff_listed :
    Line.firstToken? [⟨.number 20, 0⟩, ⟨.name "list$", 3⟩, ⟨.sign .eq, 8⟩, ⟨.text "a", 9⟩] =
        some ⟨.name "list$", 3⟩ ∧
      Line.compile listed = .ok ⟨some 20, [.assign ⟨"list$", .text⟩ (.text "a")]⟩ ∧
      isBlockedInConsole listed = true := by
  have tokens : tokenize listed =
      .ok [⟨.number 20, 0⟩, ⟨.name "list$", 3⟩, ⟨.sign .eq, 8⟩, ⟨.text "a", 9⟩] := by
    with_unfolding_all rfl
  have compiled : Line.compile listed =
      .ok ⟨some 20, [.assign ⟨"list$", .text⟩ (.text "a")]⟩ := by
    with_unfolding_all rfl
  have hbehind : BehindNumber (listed.toList.take 3) :=
    @BehindNumber.number [] ['2', '0'] [' '] nofun (List.all_eq_true.1 rfl) (List.all_eq_true.1 rfl)
      nofun nofun
  have hcommand : BeginsWithCommand "list$" :=
    ⟨['l', 'i', 's', 't'], '$', [], rfl, by decide, rfl⟩
  exact ⟨rfl, compiled, (blocked_assignment_iff tokens rfl compiled).2.2 ⟨hbehind, hcommand⟩⟩

end Assignments

end LineBasic
