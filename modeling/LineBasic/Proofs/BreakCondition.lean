import LineBasic.Console.Command
import LineBasic.Proofs.FirstWords

/-!
# The condition of a breakpoint at the prompt

A breakpoint is set with its line and, behind the word `if`, its condition.  The parts of such a command
stand apart, and three readers look for the gaps between them.  The command word ends at the first
blank of any kind, the line at the first blank that a shell knows, and the condition begins behind `if`
with a space on either side.

The readers do not mean the same by a gap.  A tab ends the command word and the line, but next to `if` it
hides the word.  Then the line is read all the same, because it ends before anything else is looked at,
and the breakpoint is set without its condition, or with what follows a later `if` in it.

## Main definitions

* `ConditionalBreak`: a command that sets a breakpoint with a condition, cut into its parts.
* `ConditionalBreak.Spaced`: a space stands on either side of `if`.

## Main results

* `isIfMark_iff`, `splitAtIf_run`: where a condition begins, and what is passed on the way to it.
* `splitAtIf_spaced`, `splitAtIf_tabbed`: the two ways to read what stands around `if`.
* `lineArgument_digits`: digits are a line number whatever follows them in the arguments.
* `condition_kept_iff`: the condition is read exactly if the word is spaced.
-/

namespace LineBasic

open Number (isDigit)

/-! ## Blanks around a text -/

namespace Text

variable {c : Char} {cs blanks : List Char}

theorem trim_prepend (h : ∀ c ∈ blanks, isBlank c = true) (cs : List Char) :
    trim (blanks ++ cs) = trim cs := by
  unfold trim trimStart
  rw [List.dropWhile_append_of_pos h]

/-- A trimmed text does not end in a blank. -/
theorem isBlank_of_getLast_trim (h : c ∈ (trim cs).getLast?) : isBlank c = false := by
  obtain ⟨hne, rfl⟩ := List.mem_getLast?_eq_getLast h
  exact Bool.eq_false_iff.2 (List.rdropWhile_last_not isBlank (trimStart cs) hne)

/-- A text with no blank at either end is its own trimmed form. -/
theorem trim_eq_self (head : ∀ c ∈ cs.head?, isBlank c = false)
    (last : ∀ c ∈ cs.getLast?, isBlank c = false) : trim cs = cs := by
  have hstart : trimStart cs = cs := by
    cases cs with
    | nil => rfl
    | cons c cs => exact List.dropWhile_cons_of_neg (by simp [head c rfl])
  unfold trim
  rw [hstart]
  refine List.rdropWhile_eq_self_iff.2 fun hne => ?_
  simp [last _ (List.getLast?_eq_some_getLast hne)]

theorem asciiLowerChar_of_not_letter (h : isLetter c = false) : asciiLowerChar c = c := by
  unfold asciiLowerChar
  split
  · next hupper => simp [isLetter, hupper] at h
  · rfl

theorem eq_space_of_asciiLowerChar (h : asciiLowerChar c = ' ') : c = ' ' := by
  by_cases hletter : isLetter c = true
  · have hrange := isLetter_range hletter
    unfold asciiLowerChar at h
    split at h
    · next hupper =>
        have hcode := congrArg Char.toNat h
        rw [Char.toNat_ofNat, if_pos (by left; omega)] at hcode
        change c.toNat + 32 = 32 at hcode
        omega
    · exact h
  · rwa [asciiLowerChar_of_not_letter (by simpa using hletter)] at h

end Text

/-! ## The mark of a condition -/

namespace Command

variable {c i f y : Char} {cs rest tail before after digits : List Char}

theorem isIfMark_iff : isIfMark cs = true ↔
    ∃ i f rest, cs = ' ' :: i :: f :: ' ' :: rest ∧
      Text.asciiLowerChar i = 'i' ∧ Text.asciiLowerChar f = 'f' := by
  unfold isIfMark
  rw [beq_iff_eq]
  constructor
  · intro h
    match cs with
    | [] | [_] | [_, _] | [_, _, _] => simp at h
    | a :: i :: f :: b :: rest =>
        simp only [List.take_succ_cons, List.take_zero, List.map_cons, List.map_nil,
          List.cons.injEq, and_true] at h
        obtain ⟨ha, hi, hf, hb⟩ := h
        rw [Text.eq_space_of_asciiLowerChar ha, Text.eq_space_of_asciiLowerChar hb]
        exact ⟨i, f, rest, rfl, hi, hf⟩
  · rintro ⟨i, f, rest, rfl, hi, hf⟩
    simp only [List.take_succ_cons, List.take_zero, List.map_cons, List.map_nil, hi, hf]
    rfl

theorem splitAtIf_mark (hi : Text.asciiLowerChar i = 'i') (hf : Text.asciiLowerChar f = 'f')
    (rest : List Char) : splitAtIf (' ' :: i :: f :: ' ' :: rest) = some ([], rest) :=
  if_pos (isIfMark_iff.2 ⟨i, f, rest, rfl, hi, hf⟩)

theorem splitAtIf_pass (h : isIfMark (c :: rest) = false) :
    splitAtIf (c :: rest) = (splitAtIf rest).map fun parts => (c :: parts.1, parts.2) := by
  rw [splitAtIf, if_neg (by simp [h])]

/-- No mark begins with another character than a space. -/
theorem splitAtIf_other (h : c ≠ ' ') (rest : List Char) :
    splitAtIf (c :: rest) = (splitAtIf rest).map fun parts => (c :: parts.1, parts.2) := by
  refine splitAtIf_pass (Bool.eq_false_iff.2 fun hmark => ?_)
  obtain ⟨_, _, _, hcs, -⟩ := isIfMark_iff.1 hmark
  exact h (List.cons.inj hcs).1

/-- No mark begins where no letter follows. -/
theorem splitAtIf_run (hcs : ∀ c ∈ cs, Text.isLetter c = false) (hy : Text.isLetter y = false)
    (rest : List Char) :
    splitAtIf (cs ++ y :: rest) =
      (splitAtIf (y :: rest)).map fun parts => (cs ++ parts.1, parts.2) := by
  induction cs with
  | nil => simp
  | cons c cs ih =>
      obtain ⟨-, hcs⟩ := List.forall_mem_cons.1 hcs
      have hpass : isIfMark (c :: (cs ++ y :: rest)) = false := by
        refine Bool.eq_false_iff.2 fun hmark => ?_
        obtain ⟨i, _, _, htext, hi, -⟩ := isIfMark_iff.1 hmark
        have hletter : Text.isLetter i = true := isLetter_of_asciiLowerChar (hi ▸ rfl)
        have hother : Text.isLetter i = false := by
          cases cs with
          | nil =>
              obtain rfl : y = i := (List.cons.inj (List.cons.inj htext).2).1
              exact hy
          | cons d cs =>
              obtain rfl : d = i := (List.cons.inj (List.cons.inj htext).2).1
              exact hcs d (.head _)
        cases hletter.symm.trans hother
      rw [List.cons_append, splitAtIf_pass hpass, ih hcs, Option.map_map]
      rfl

/-- A text is cut at its mark. -/
theorem eq_of_splitAtIf (h : splitAtIf cs = some (before, after)) :
    ∃ i f, cs = before ++ ' ' :: i :: f :: ' ' :: after ∧ Text.isLetter i = true := by
  induction cs generalizing before with
  | nil => cases h
  | cons c rest ih =>
      cases hmark : isIfMark (c :: rest) with
      | true =>
          obtain ⟨i, f, behind, htext, hi, hf⟩ := isIfMark_iff.1 hmark
          rw [htext, splitAtIf_mark hi hf] at h
          cases h
          exact ⟨i, f, htext, isLetter_of_asciiLowerChar (hi ▸ rfl)⟩
      | false =>
          rw [splitAtIf_pass hmark, Option.map_eq_some_iff] at h
          obtain ⟨⟨before', after'⟩, hrest, hparts⟩ := h
          cases hparts
          obtain ⟨i, f, rfl, hi⟩ := ih hrest
          exact ⟨i, f, rfl, hi⟩

/-! ## The line -/

theorem restOfWord_digits (hdigits : ∀ d ∈ digits, isDigit d = true)
    (htail : ∀ c ∈ tail.head?, Text.isShellBlank c = true) (taken : List Char) :
    Text.restOfWord .bare taken (digits ++ tail) = .word (taken.reverse ++ digits) := by
  induction digits generalizing taken with
  | nil =>
      cases tail with
      | nil => simp [Text.restOfWord]
      | cons c tail =>
          have hc := htail c rfl
          have hplain : c ≠ '"' ∧ c ≠ '\x27' ∧ c ≠ '\\' := by
            refine ⟨?_, ?_, ?_⟩ <;> rintro rfl <;> cases hc
          simp [Text.restOfWord, hplain, hc]
  | cons d digits ih =>
      obtain ⟨hd, hdigits⟩ := List.forall_mem_cons.1 hdigits
      have hplain : d ≠ '"' ∧ d ≠ '\x27' ∧ d ≠ '\\' ∧ d ≠ ' ' ∧ d ≠ '\t' ∧ d ≠ '\n' := by
        refine ⟨?_, ?_, ?_, ?_, ?_, ?_⟩ <;> rintro rfl <;> cases hd
      rw [List.cons_append]
      simp [Text.restOfWord, hplain, Text.isShellBlank, ih hdigits]

/-- Digits are a line number whatever follows them in the arguments. -/
theorem lineArgument_digits (command : String) (hdigits : ∀ d ∈ digits, isDigit d = true)
    (some_digit : digits ≠ []) (fits : Number.ofDecimalDigits digits < lineBound)
    (htail : ∀ c ∈ tail.head?, Text.isShellBlank c = true) :
    lineArgument command (digits ++ tail) = .ok (Number.ofDecimalDigits digits) := by
  have hword := restOfWord_digits hdigits htail []
  obtain ⟨d, digits, rfl⟩ := List.exists_cons_of_ne_nil some_digit
  have hd := hdigits d (.head _)
  have hplain : d ≠ ' ' ∧ d ≠ '\t' ∧ d ≠ '\n' ∧ d ≠ '#' ∧ d ≠ '+' := by
    refine ⟨?_, ?_, ?_, ?_, ?_⟩ <;> rintro rfl <;> cases hd
  have hfirst : Text.firstShellWord (d :: digits ++ tail) = .word (d :: digits) := by
    rw [List.cons_append] at hword ⊢
    simp [Text.firstShellWord, Text.firstShellWordFrom, Text.isShellBlank, hplain, hword]
  have hnumber : Number.natural? (d :: digits) = some (Number.ofDecimalDigits (d :: digits)) := by
    have hall : (d :: digits).all isDigit = true := List.all_eq_true.2 hdigits
    simp [Number.natural?, hplain, hall]
  unfold lineArgument argument
  rw [hfirst]
  simp [bind, Except.bind, hnumber, fits]

/-! ### What the command is read as -/

theorem breakCommand_none {rest : List Char} {n : Nat} (split : splitAtIf rest = none)
    (line : lineArgument "b" rest = .ok n) : breakCommand rest = .ok (.break n none) := by
  unfold breakCommand
  rw [split]
  dsimp only
  rw [line]
  rfl

theorem breakCommand_some {n : Nat} (split : splitAtIf rest = some (before, after))
    (line : lineArgument "b" before = .ok n) (some_condition : Text.trim after ≠ []) :
    breakCommand rest = .ok (.break n (some (String.ofList (Text.trim after)))) := by
  unfold breakCommand
  rw [split]
  dsimp only
  rw [line, if_neg some_condition]
  rfl

end Command

/-! ## A command in its parts -/

/-- Spaces and tabs, at least one of them. -/
def IsGap (cs : List Char) : Prop := cs ≠ [] ∧ ∀ c ∈ cs, c = ' ' ∨ c = '\t'

section Gaps

variable {c : Char} {cs : List Char}

theorem isBlank_of_gap (h : c = ' ' ∨ c = '\t') : Text.isBlank c = true := by
  rcases h with rfl | rfl <;> rfl

theorem isShellBlank_of_gap (h : c = ' ' ∨ c = '\t') : Text.isShellBlank c = true := by
  rcases h with rfl | rfl <;> rfl

theorem isLetter_of_isDigit (h : isDigit c = true) : Text.isLetter c = false := by
  refine Bool.eq_false_iff.2 fun hletter => ?_
  cases h.symm.trans (Text.isDigit_of_isLetter hletter)

theorem isLetter_of_gap (h : c = ' ' ∨ c = '\t') : Text.isLetter c = false := by
  rcases h with rfl | rfl <;> rfl

end Gaps

/-- A command that sets a breakpoint with a condition, cut into its parts. -/
structure ConditionalBreak where
  /-- `b` or `break`, in any case of letters. -/
  word : List Char
  gap : List Char
  digits : List Char
  before : List Char
  /-- `if`, in any case of letters. -/
  mark : List Char
  behind : List Char
  condition : List Char
  word_lower : Text.asciiLower (String.ofList word) ∈ ["b", "break"]
  isGap : IsGap gap
  some_digit : digits ≠ []
  isDigit_of_mem : ∀ d ∈ digits, isDigit d = true
  fits : Number.ofDecimalDigits digits < Command.lineBound
  isGap_before : IsGap before
  mark_lower : Text.asciiLower (String.ofList mark) = "if"
  isGap_behind : IsGap behind
  some_condition : condition ≠ []
  trimmed : Text.trim condition = condition

namespace ConditionalBreak

/-- What the command does not take for its word. -/
def arguments (b : ConditionalBreak) : List Char :=
  b.digits ++ (b.before ++ (b.mark ++ (b.behind ++ b.condition)))

/-- The command in writing. -/
def text (b : ConditionalBreak) : String := String.ofList (b.word ++ (b.gap ++ b.arguments))

/-- The line of the breakpoint. -/
def line (b : ConditionalBreak) : Nat := Number.ofDecimalDigits b.digits

/-- A space stands on either side of `if`. -/
def Spaced (b : ConditionalBreak) : Prop := b.before.getLast? = some ' ' ∧ b.behind.head? = some ' '

variable (b : ConditionalBreak)

theorem exists_mark : ∃ i f, b.mark = [i, f] ∧ Text.asciiLowerChar i = 'i' ∧
    Text.asciiLowerChar f = 'f' := by
  have hlower : b.mark.map Text.asciiLowerChar = ['i', 'f'] := by
    have hmark := congrArg String.toList b.mark_lower
    rwa [Text.asciiLower, String.toList_ofList, String.toList_ofList] at hmark
  obtain ⟨i, more, hmark, hi, hmore⟩ := List.map_eq_cons_iff.1 hlower
  obtain ⟨f, more, rfl, hf, hnone⟩ := List.map_eq_cons_iff.1 hmore
  obtain rfl := List.map_eq_nil_iff.1 hnone
  exact ⟨i, f, hmark, hi, hf⟩

theorem isLetter_of_mem_word {c : Char} (h : c ∈ b.word) : Text.isLetter c = true := by
  have hcommands : ∀ w ∈ ["b", "break"], w.toList.all Text.isLetter = true := by decide
  refine isLetter_of_asciiLowerChar (List.all_eq_true.1 (hcommands _ b.word_lower) _ ?_)
  rw [Text.asciiLower, String.toList_ofList, String.toList_ofList]
  exact List.mem_map_of_mem h

/-- The end of the command is the end of its condition. -/
theorem isBlank_of_getLast {cs : List Char} {c : Char} (h : c ∈ (cs ++ b.condition).getLast?) :
    Text.isBlank c = false := by
  rw [List.getLast?_append_of_ne_nil _ b.some_condition, ← b.trimmed] at h
  exact Text.isBlank_of_getLast_trim h

theorem trim_arguments : Text.trim b.arguments = b.arguments := by
  refine Text.trim_eq_self (fun c hc => ?_) (fun c hc => ?_)
  · obtain ⟨d, digits, hdigits⟩ := List.exists_cons_of_ne_nil b.some_digit
    have hd := b.isDigit_of_mem d (hdigits ▸ .head _)
    rw [arguments, hdigits] at hc
    obtain rfl : d = c := Option.some.inj hc
    refine Bool.eq_false_iff.2 fun hblank => ?_
    cases hd.symm.trans (Text.isDigit_of_isBlank hblank)
  · have hend : b.arguments =
        b.digits ++ (b.before ++ (b.mark ++ b.behind)) ++ b.condition := by
      simp [arguments]
    rw [hend] at hc
    exact b.isBlank_of_getLast hc

/-- The command word ends at the first gap, whatever blanks this consists of. -/
theorem parse_text : Command.parse b.text = Command.breakCommand b.arguments := by
  obtain ⟨g, gap, hgap⟩ := List.exists_cons_of_ne_nil b.isGap.1
  have hblank : ∀ c ∈ b.gap, Text.isBlank c = true := fun c hc => isBlank_of_gap (b.isGap.2 c hc)
  have hword : ∀ c ∈ b.word, (!Text.isBlank c) = true := fun c hc => by
    rw [Text.isBlank_of_isLetter (b.isLetter_of_mem_word hc)]
    rfl
  have hg : (!Text.isBlank g) = false := by
    rw [hblank g (hgap ▸ .head _)]
    rfl
  have htrim : Text.trim b.text.toList = b.word ++ (b.gap ++ b.arguments) := by
    rw [text, String.toList_ofList]
    refine Text.trim_eq_self (fun c hc => ?_) (fun c hc => ?_)
    · have hsome : b.word ≠ [] := by
        intro hnone
        have hlower := b.word_lower
        rw [hnone] at hlower
        exact absurd hlower (by decide)
      rw [List.head?_append_of_ne_nil _ hsome] at hc
      exact Text.isBlank_of_isLetter (b.isLetter_of_mem_word (List.mem_of_mem_head? hc))
    · have hend : b.word ++ (b.gap ++ b.arguments) =
          b.word ++ (b.gap ++ (b.digits ++ (b.before ++ (b.mark ++ b.behind)))) ++ b.condition := by
        simp [arguments]
      rw [hend] at hc
      exact b.isBlank_of_getLast hc
  have hsplit : Command.splitWord (b.word ++ (b.gap ++ b.arguments)) = (b.word, b.arguments) := by
    unfold Command.splitWord
    rw [hgap, List.cons_append, Lexeme.takeWhile_stops hword hg, Lexeme.dropWhile_stops hword hg,
      ← List.cons_append, ← hgap, Text.trim_prepend hblank, b.trim_arguments]
  have hlower : String.ofList (b.word.map Text.asciiLowerChar) ∈ ["b", "break"] := by
    have hlower := b.word_lower
    rwa [Text.asciiLower, String.toList_ofList] at hlower
  unfold Command.parse
  rw [htrim]
  simp only [hsplit]
  rcases List.mem_cons.1 hlower with hb | hbreak
  · rw [hb]
    rfl
  · rw [List.mem_singleton.1 hbreak]
    rfl

variable {b}

/-- Between two spaces `if` is the mark of the condition. -/
theorem splitAtIf_spaced (spaced : b.Spaced) :
    ∃ gap behind, (∀ c ∈ gap ++ behind, c = ' ' ∨ c = '\t') ∧
      Command.splitAtIf b.arguments = some (b.digits ++ gap, behind ++ b.condition) := by
  obtain ⟨i, f, hmark, hi, hf⟩ := b.exists_mark
  obtain ⟨gap, hgap⟩ := List.getLast?_eq_some_iff.1 spaced.1
  obtain ⟨behind, hbehind⟩ := List.head?_eq_some_iff.1 spaced.2
  have hbefore := b.isGap_before.2
  rw [hgap] at hbefore
  obtain ⟨hbefore, -⟩ := List.forall_mem_append.1 hbefore
  have hbehind' := b.isGap_behind.2
  rw [hbehind] at hbehind'
  obtain ⟨-, hbehind'⟩ := List.forall_mem_cons.1 hbehind'
  have hnone : ∀ c ∈ b.digits ++ gap, Text.isLetter c = false :=
    List.forall_mem_append.2 ⟨fun d hd => isLetter_of_isDigit (b.isDigit_of_mem d hd),
      fun c hc => isLetter_of_gap (hbefore c hc)⟩
  refine ⟨gap, behind, List.forall_mem_append.2 ⟨hbefore, hbehind'⟩, ?_⟩
  have hrun := Command.splitAtIf_run hnone (y := ' ') rfl (i :: f :: ' ' :: (behind ++ b.condition))
  rw [Command.splitAtIf_mark hi hf, Option.map_some, List.append_nil, List.append_assoc] at hrun
  rw [arguments, hgap, hmark, hbehind, List.append_assoc]
  exact hrun

/-- A tab next to `if` hides it, and the next mark is looked for behind it. -/
theorem splitAtIf_tabbed (tabbed : ¬ b.Spaced) :
    Command.splitAtIf b.arguments = (Command.splitAtIf (b.behind ++ b.condition)).map fun parts =>
      (b.digits ++ (b.before ++ (b.mark ++ parts.1)), parts.2) := by
  obtain ⟨i, f, hmark, hi, hf⟩ := b.exists_mark
  obtain ⟨gap, y, hgap⟩ := (List.eq_nil_or_concat' b.before).resolve_left b.isGap_before.1
  obtain ⟨d, behind, hbehind⟩ := List.exists_cons_of_ne_nil b.isGap_behind.1
  have hbefore := b.isGap_before.2
  rw [hgap] at hbefore
  obtain ⟨hbefore, hy⟩ := List.forall_mem_append.1 hbefore
  have hnone : ∀ c ∈ b.digits ++ gap, Text.isLetter c = false :=
    List.forall_mem_append.2 ⟨fun d hd => isLetter_of_isDigit (b.isDigit_of_mem d hd),
      fun c hc => isLetter_of_gap (hbefore c hc)⟩
  have hrun := Command.splitAtIf_run hnone (isLetter_of_gap (hy y (.head _)))
    (i :: f :: (b.behind ++ b.condition))
  have hpass : Command.isIfMark (y :: i :: f :: (b.behind ++ b.condition)) = false := by
    refine Bool.eq_false_iff.2 fun hmark => tabbed ?_
    obtain ⟨_, _, _, htext, -⟩ := Command.isIfMark_iff.1 hmark
    rw [hbehind] at htext
    obtain ⟨hspace, hmore⟩ := List.cons.inj htext
    have hspace' : d = ' ' := (List.cons.inj (List.cons.inj (List.cons.inj hmore).2).2).1
    exact ⟨by rw [hgap, hspace, List.getLast?_concat], by rw [hbehind, hspace']; rfl⟩
  have hi' : i ≠ ' ' := by
    rintro rfl
    exact absurd hi (by decide)
  have hf' : f ≠ ' ' := by
    rintro rfl
    exact absurd hf (by decide)
  have harguments : b.arguments = (b.digits ++ gap) ++ y :: i :: f :: (b.behind ++ b.condition) := by
    simp [arguments, hgap, hmark]
  rw [harguments, hrun, Command.splitAtIf_pass hpass, Command.splitAtIf_other hi',
    Command.splitAtIf_other hf', Option.map_map, Option.map_map, Option.map_map]
  congr 1
  funext parts
  simp [hgap, hmark]

/-- A condition that is read off behind a later mark is shorter. -/
theorem later_condition {before after : List Char}
    (h : Command.splitAtIf (b.behind ++ b.condition) = some (before, after)) :
    Text.trim after ≠ [] ∧ (Text.trim after).length < b.condition.length := by
  obtain ⟨i, f, htext, hi⟩ := Command.eq_of_splitAtIf h
  constructor
  · intro hempty
    have hblank : ∀ c ∈ ' ' :: after, Text.isBlank c = true :=
      List.forall_mem_cons.2 ⟨rfl, Text.trim_eq_nil_iff.1 hempty⟩
    have hend : b.behind ++ b.condition = (before ++ [' ', i, f]) ++ ' ' :: after := by
      simpa using htext
    have hlast : (b.behind ++ b.condition).getLast? = (' ' :: after).getLast? := by
      rw [hend, List.getLast?_append_of_ne_nil _ (List.cons_ne_nil _ _)]
    have hmem := List.getLast?_eq_some_getLast (List.cons_ne_nil ' ' after)
    have hother := b.isBlank_of_getLast (hlast.trans hmem)
    cases hother.symm.trans (hblank _ (List.getLast_mem _))
  · have hlength := congrArg List.length htext
    simp only [List.length_append, List.length_cons] at hlength
    -- The mark begins behind all blanks but the last, because no letter is among them.
    have hplace : b.behind.length ≤ before.length + 1 := by
      by_contra hinside
      have hget : b.behind[before.length + 1]? = some i := by
        have hleft : (b.behind ++ b.condition)[before.length + 1]? = b.behind[before.length + 1]? :=
          List.getElem?_append_left (by omega)
        rw [← hleft, htext, List.getElem?_append_right (by omega)]
        simp
      have hgap := isLetter_of_gap (b.isGap_behind.2 i (List.mem_of_getElem? hget))
      cases hi.symm.trans hgap
    have htrim : (Text.trim after).length ≤ after.length := by
      obtain ⟨behind, hafter, -⟩ := Text.exists_trimEnd (Text.trimStart after)
      have hstart := (List.dropWhile_sublist (l := after) Text.isBlank).length_le
      have hend := congrArg List.length hafter
      simp only [List.length_append] at hend
      show (Text.trimEnd (Text.trimStart after)).length ≤ after.length
      have hstart' : (Text.trimStart after).length ≤ after.length := hstart
      omega
    omega

/-- The digits are the line of the breakpoint, with any gap behind them. -/
theorem lineArgument_eq {tail : List Char} (htail : ∀ c ∈ tail.head?, c = ' ' ∨ c = '\t') :
    Command.lineArgument "b" (b.digits ++ tail) = .ok b.line :=
  Command.lineArgument_digits "b" b.isDigit_of_mem b.some_digit b.fits
    fun c hc => isShellBlank_of_gap (htail c hc)

theorem breakCommand_spaced (spaced : b.Spaced) : Command.breakCommand b.arguments =
    .ok (.break b.line (some (String.ofList b.condition))) := by
  obtain ⟨gap, behind, hgaps, hsplit⟩ := splitAtIf_spaced spaced
  obtain ⟨hgap, hbehind⟩ := List.forall_mem_append.1 hgaps
  have htrim : Text.trim (behind ++ b.condition) = b.condition := by
    rw [Text.trim_prepend fun c hc => isBlank_of_gap (hbehind c hc), b.trimmed]
  have hline := b.lineArgument_eq fun c hc => hgap c (List.mem_of_mem_head? hc)
  have hsome : Text.trim (behind ++ b.condition) ≠ [] := by
    rw [htrim]
    exact b.some_condition
  rw [Command.breakCommand_some hsplit hline hsome, htrim]

theorem breakCommand_tabbed (tabbed : ¬ b.Spaced) : Command.breakCommand b.arguments =
    .ok (.break b.line ((Command.splitAtIf (b.behind ++ b.condition)).map fun parts =>
      String.ofList (Text.trim parts.2))) := by
  have hline : ∀ more, Command.lineArgument "b" (b.digits ++ (b.before ++ more)) = .ok b.line := by
    intro more
    refine b.lineArgument_eq fun c hc => b.isGap_before.2 c ?_
    rw [List.head?_append_of_ne_nil _ b.isGap_before.1] at hc
    exact List.mem_of_mem_head? hc
  have hsplit := splitAtIf_tabbed tabbed
  cases hlater : Command.splitAtIf (b.behind ++ b.condition) with
  | none =>
      rw [hlater] at hsplit
      exact Command.breakCommand_none hsplit (hline _)
  | some parts =>
      rw [hlater] at hsplit
      exact Command.breakCommand_some hsplit (hline _) (later_condition hlater).1

end ConditionalBreak

/--
A command sets a breakpoint with a condition, in any spelling: with `b` or `break` and `if` in any case
of letters, and with any spaces and tabs between its parts.  The condition is read if a space stands on
either side of `if`, and only then.  With a tab in one of these places the breakpoint is set all the
same, and gets what follows a later mark in its condition, or no condition if there is none.
-/
theorem condition_kept_iff (b : ConditionalBreak) :
    (Command.parse b.text = .ok (.break b.line (some (String.ofList b.condition))) ↔ b.Spaced) ∧
      (¬ b.Spaced → Command.parse b.text =
        .ok (.break b.line ((Command.splitAtIf (b.behind ++ b.condition)).map fun parts =>
          String.ofList (Text.trim parts.2)))) := by
  rw [b.parse_text]
  by_cases spaced : b.Spaced
  · exact ⟨iff_of_true (b.breakCommand_spaced spaced) spaced, fun tabbed => absurd spaced tabbed⟩
  · have htabbed := b.breakCommand_tabbed spaced
    refine ⟨iff_of_false (fun hkept => ?_) spaced, fun _ => htabbed⟩
    rw [htabbed] at hkept
    obtain ⟨parts, hlater, hsame⟩ := Option.map_eq_some_iff.1 (Command.break.inj (Except.ok.inj hkept)).2
    have hshorter := (b.later_condition hlater).2
    rw [String.ofList_injective hsame] at hshorter
    exact Nat.lt_irrefl _ hshorter

/-- A tab stands in front of `if`, and nothing in the condition looks like a mark. -/
def tabbedBreak : ConditionalBreak where
  word := ['b']
  gap := [' ']
  digits := ['2', '0']
  before := ['\t']
  mark := ['i', 'f']
  behind := [' ']
  condition := ['a', '>', '3']
  word_lower := by decide
  isGap := by simp [IsGap]
  some_digit := nofun
  isDigit_of_mem := List.all_eq_true.1 rfl
  fits := by decide
  isGap_before := by simp [IsGap]
  mark_lower := by decide
  isGap_behind := by simp [IsGap]
  some_condition := nofun
  trimmed := by decide

/-- Every part is spelled in an uncommon way, and the condition holds a mark of its own. -/
def spacedBreak : ConditionalBreak where
  word := ['B', 'r', 'E', 'A', 'K']
  gap := ['\t', ' ']
  digits := ['0', '2', '0']
  before := ['\t', ' ']
  mark := ['I', 'f']
  behind := [' ', '\t']
  condition := ['"', 'é', ' ', 'i', 'f', ' ', '"']
  word_lower := by decide
  isGap := by simp [IsGap]
  some_digit := nofun
  isDigit_of_mem := List.all_eq_true.1 rfl
  fits := by decide
  isGap_before := by simp [IsGap]
  mark_lower := by decide
  isGap_behind := by simp [IsGap]
  some_condition := nofun
  trimmed := by decide

/-- With the tab the breakpoint has no condition. -/
theorem condition_kept_iff_tabbed :
    Command.parse "b 20\tif a>3" = .ok (.break 20 none) ∧
      Command.parse "BrEAK\t 020\t If \t\"é if \"" = .ok (.break 20 (some "\"é if \"")) := by
  have htabbed : ¬ tabbedBreak.Spaced := by simp [ConditionalBreak.Spaced, tabbedBreak]
  have hspaced : spacedBreak.Spaced := by simp [ConditionalBreak.Spaced, spacedBreak]
  exact ⟨(condition_kept_iff tabbedBreak).2 htabbed, (condition_kept_iff spacedBreak).1.2 hspaced⟩

end LineBasic
