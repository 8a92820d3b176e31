import LineBasic.CompileError
import LineBasic.Number.Reading
import LineBasic.Text.Blank
import LineBasic.Text.Casing

/-!
# From a source line to its tokens

A line is cut into tokens from left to right. What stands at the head of the remaining text is
decided from that text alone: a blank, a comment that takes the rest of the line, a token with the
number of its characters, or a mistake.

## Main definitions

* `Lexeme`: what stands at the head of a text.
* `lexeme`: decides it.
* `tokenize`: the tokens of a line.
-/

namespace LineBasic

/-- What stands at the head of a text. -/
inductive Lexeme where
  | blank
  /-- A remark: it ends the line. -/
  | comment
  /-- A token, with the number of its characters behind the first. -/
  | token (kind : TokenKind) (more : Nat)
  | invalid (problem : Problem)

namespace Lexeme

open Number (isDigit)

/-! ## Numbers -/

/--
The power of ten behind a numeral and the number of its characters. A letter `e` without digits
behind it is no power: it belongs to the next token.
-/
def powerOf (cs : List Char) : Int × Nat :=
  match cs with
  | mark :: rest =>
      if mark = 'e' ∨ mark = 'E' then
        let (negative, tail, width) : Bool × List Char × Nat := match rest with
          | '+' :: tail => (false, tail, 2)
          | '-' :: tail => (true, tail, 2)
          | _ => (false, rest, 1)
        let digits := tail.takeWhile isDigit
        if digits = [] then (0, 0)
        else
          let n : Int := Number.ofDecimalDigits digits
          (if negative then -n else n, width + digits.length)
      else (0, 0)
  | [] => (0, 0)

/-- The decimal numeral at the head of a text, and the number of its characters. -/
def decimal (cs : List Char) : Number.Numeral × Nat :=
  let whole := cs.takeWhile isDigit
  let rest := cs.dropWhile isDigit
  let (fraction, point, rest) : List Char × Nat × List Char := match rest with
    | '.' :: tail => (tail.takeWhile isDigit, 1, tail.dropWhile isDigit)
    | _ => ([], 0, rest)
  let (power, powerWidth) := powerOf rest
  (⟨whole, fraction, power⟩, whole.length + point + fraction.length + powerWidth)

/-- Whether a character is a digit of a hexadecimal number. -/
def isHexDigit (c : Char) : Bool := isDigit c || ('a' ≤ c && c ≤ 'f') || ('A' ≤ c && c ≤ 'F')

/-- Whether a character is a digit of a binary number. -/
def isBinaryDigit (c : Char) : Bool := c = '0' || c = '1'

/-- The value of a hexadecimal digit. -/
def hexValue (c : Char) : Nat :=
  if isDigit c then Number.digitValue c
  else if 'a' ≤ c then c.toNat - 'a'.toNat + 10
  else c.toNat - 'A'.toNat + 10

/-- A number of at most sixteen bits behind `&`: `letters` counts the characters before its
digits. -/
def radix (base : Nat) (isDigitOf : Char → Bool) (letters : Nat) (cs : List Char) : Lexeme :=
  let digits := cs.takeWhile isDigitOf
  if digits = [] then invalid .missingDigits
  else
    let n := Number.ofDigits base hexValue digits
    if n ≤ 0xffff then token (.number (Float.ofNat n)) (letters + digits.length)
    else invalid (.numberOutOfRange (String.ofList digits))

/-- The number behind the character `&`: binary after `X`, else hexadecimal, perhaps after `H`. -/
def ampersand (cs : List Char) : Lexeme :=
  match cs with
  | mark :: rest =>
      if mark = 'h' ∨ mark = 'H' then radix 16 isHexDigit 1 rest
      else if mark = 'x' ∨ mark = 'X' then radix 2 isBinaryDigit 1 rest
      else radix 16 isHexDigit 0 cs
  | [] => invalid .missingDigits

/-! ## Texts and words -/

/-- The text behind an opening quote, up to the closing quote or the end of the line. -/
def quotation (cs : List Char) : Lexeme :=
  let text := cs.takeWhile (· ≠ '"')
  let closing := if cs.dropWhile (· ≠ '"') = [] then 0 else 1
  token (.text (String.ofList text)) (text.length + closing)

/-- The characters of a name behind its first letter. -/
def isNameChar (c : Char) : Bool := Text.isLetter c || isDigit c || c = '.'

/-- The characters that mark the type of a variable. -/
def isTypeMark (c : Char) : Bool := c = '%' || c = '!' || c = '$'

/-- The word at the head of a text: a name, or a keyword if it has no type mark. -/
def word (cs : List Char) : Lexeme :=
  let letters := cs.takeWhile isNameChar
  match (cs.dropWhile isNameChar).head?.filter isTypeMark with
  | some mark => token (.name (String.ofList (letters ++ [mark]))) letters.length
  | none =>
      let text := String.ofList letters
      match Keyword.ofWord? (Text.asciiLower text) with
      | some .rem => comment
      | some k => token (.keyword k) (letters.length - 1)
      | none => token (.name text) (letters.length - 1)

/-! ## Signs -/

/-- The sign of two characters, in either order for the inclusive comparisons. -/
def pair? (first second : Char) : Option Sign :=
  match first, second with
  | '<', '>' => some .ne
  | '<', '=' => some .le
  | '=', '<' => some .le
  | '>', '=' => some .ge
  | '=', '>' => some .ge
  | _, _ => none

/-- The sign of one character. -/
def single? : Char → Option Sign
  | '<' => some .lt
  | '>' => some .gt
  | '=' => some .eq
  | '+' => some .plus
  | '-' => some .minus
  | '*' => some .star
  | '/' => some .slash
  | '\\' => some .backslash
  | '^' => some .caret
  | '(' => some .leftParen
  | ')' => some .rightParen
  | ',' => some .comma
  | ';' => some .semicolon
  | ':' => some .colon
  | _ => none

/-- The sign at the head of a text; a question mark is short for `PRINT`. -/
def sign (c : Char) (rest : List Char) : Lexeme :=
  match rest.head?.bind (pair? c) with
  | some s => token (.sign s) 1
  | none =>
      match single? c with
      | some s => token (.sign s) 0
      | none =>
          if c = '?' then token (.keyword .print) 0 else invalid (.unexpectedCharacter c)

/-- What stands at the head of a text that begins with `c`. -/
def ofText (c : Char) (rest : List Char) : Lexeme :=
  if Text.isBlank c then blank
  else if isDigit c ∨ (c = '.' ∧ rest.head?.any isDigit) then
    let (numeral, width) := decimal (c :: rest)
    token (.number numeral.value) (width - 1)
  else if c = '&' then ampersand rest
  else if c = '"' then quotation rest
  else if Text.isLetter c then word (c :: rest)
  else if c = '\x27' then comment
  else sign c rest

end Lexeme

/-- The tokens of a text that starts `pos` characters into its line. -/
def tokensFrom (pos : Nat) : List Char → Except CompileError (List Token)
  | [] => .ok []
  | c :: rest =>
      match Lexeme.ofText c rest with
      | .blank => tokensFrom (pos + 1) rest
      | .comment => .ok [⟨.keyword .rem, pos⟩]
      | .invalid problem => .error (.malformed problem pos)
      | .token kind more =>
          (tokensFrom (pos + 1 + more) (rest.drop more)).map (⟨kind, pos⟩ :: ·)
termination_by cs => cs.length

section Tokens

variable {c : Char} {rest : List Char}

@[simp] theorem tokensFrom_nil (pos : Nat) : tokensFrom pos [] = .ok [] := by
  rw [tokensFrom.eq_def]

@[simp] theorem tokensFrom_blank (h : Lexeme.ofText c rest = .blank) (pos : Nat) :
    tokensFrom pos (c :: rest) = tokensFrom (pos + 1) rest := by
  rw [tokensFrom, h]

@[simp] theorem tokensFrom_comment (h : Lexeme.ofText c rest = .comment) (pos : Nat) :
    tokensFrom pos (c :: rest) = .ok [⟨.keyword .rem, pos⟩] := by
  rw [tokensFrom, h]

@[simp] theorem tokensFrom_invalid {problem : Problem}
    (h : Lexeme.ofText c rest = .invalid problem) (pos : Nat) :
    tokensFrom pos (c :: rest) = .error (.malformed problem pos) := by
  rw [tokensFrom, h]

theorem tokensFrom_token {kind : TokenKind} {more : Nat}
    (h : Lexeme.ofText c rest = .token kind more) (pos : Nat) :
    tokensFrom pos (c :: rest) =
      (tokensFrom (pos + 1 + more) (rest.drop more)).map (⟨kind, pos⟩ :: ·) := by
  rw [tokensFrom, h]

/-- A property of texts and their places, by what stands at the head of the text. -/
@[elab_as_elim]
theorem tokensFrom_induction {motive : Nat → List Char → Prop}
    (nil : ∀ pos, motive pos [])
    (blank : ∀ pos c rest, Lexeme.ofText c rest = .blank → motive (pos + 1) rest →
      motive pos (c :: rest))
    (comment : ∀ pos c rest, Lexeme.ofText c rest = .comment → motive pos (c :: rest))
    (invalid : ∀ pos c rest problem, Lexeme.ofText c rest = .invalid problem →
      motive pos (c :: rest))
    (token : ∀ pos c rest kind more, Lexeme.ofText c rest = .token kind more →
      motive (pos + 1 + more) (rest.drop more) → motive pos (c :: rest))
    (pos : Nat) (cs : List Char) : motive pos cs :=
  tokensFrom.induct motive nil blank comment invalid token pos cs

end Tokens

/-- The tokens of a source line, without what follows a remark. -/
def tokenize (source : String) : Except CompileError (List Token) := tokensFrom 0 source.toList

end LineBasic
