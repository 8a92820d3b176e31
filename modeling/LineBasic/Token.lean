import LineBasic.Number.Notation

/-!
# Tokens

The words and signs that a source line consists of.

## Main definitions

* `Keyword`: the reserved words, those that only other dialects use included.
* `Sign`: operators and punctuation.
* `TokenKind`, `Token`: what a token is, and where it starts.
-/

namespace LineBasic

/-- The reserved words. -/
inductive Keyword where
  | let | print | if | then | else | goto | gosub | return | end | stop | error | clear | rem
  | and | or | xor | not | mod
  | run | chain | list | new | load | merge | save | edit | renum
deriving DecidableEq, Repr

namespace Keyword

/-- A keyword in lower case. -/
def word : Keyword → String
  | .let => "let" | .print => "print" | .if => "if" | .then => "then" | .else => "else"
  | .goto => "goto" | .gosub => "gosub" | .return => "return" | .end => "end" | .stop => "stop"
  | .error => "error" | .clear => "clear" | .rem => "rem" | .and => "and" | .or => "or"
  | .xor => "xor" | .not => "not" | .mod => "mod" | .run => "run" | .chain => "chain"
  | .list => "list" | .new => "new" | .load => "load" | .merge => "merge" | .save => "save"
  | .edit => "edit" | .renum => "renum"

/-- All keywords. -/
def all : List Keyword := [
  .let, .print, .if, .then, .else, .goto, .gosub, .return, .end, .stop, .error, .clear, .rem,
  .and, .or, .xor, .not, .mod,
  .run, .chain, .list, .new, .load, .merge, .save, .edit, .renum]

/-- The keyword that a word in lower case is. -/
def ofWord? (w : String) : Option Keyword := all.find? (·.word == w)

/-- A keyword in upper case. -/
def upper (k : Keyword) : String := String.ofList (k.word.toList.map Char.toUpper)

@[simp] theorem ofWord?_word (k : Keyword) : ofWord? k.word = some k := by cases k <;> decide

theorem eq_word_of_ofWord? {w : String} {k : Keyword} (h : ofWord? w = some k) : w = k.word := by
  have hk : (k.word == w) = true := List.find?_some (p := fun k : Keyword => k.word == w) h
  exact (beq_iff_eq.1 hk).symm

theorem ne_word_of_ofWord? {w : String} (h : ofWord? w = none) (k : Keyword) : w ≠ k.word := by
  rintro rfl
  cases (ofWord?_word k).symm.trans h

end Keyword

/-- Operators and punctuation. -/
inductive Sign where
  | plus | minus | star | slash | backslash | caret
  | eq | ne | lt | gt | le | ge
  | leftParen | rightParen | comma | semicolon | colon
deriving DecidableEq, Repr

/-- A sign in writing. -/
def Sign.toText : Sign → String
  | .plus => "+" | .minus => "-" | .star => "*" | .slash => "/" | .backslash => "\\"
  | .caret => "^" | .eq => "=" | .ne => "<>" | .lt => "<" | .gt => ">" | .le => "<=" | .ge => ">="
  | .leftParen => "(" | .rightParen => ")" | .comma => "," | .semicolon => ";" | .colon => ":"

/-- What a token is. -/
inductive TokenKind where
  | number (n : Float)
  /-- A text between quotes. -/
  | text (s : String)
  /-- A name as written, type mark included. -/
  | name (s : String)
  | keyword (k : Keyword)
  | sign (s : Sign)
deriving DecidableEq, Repr

/-- A token as error messages call it. -/
def TokenKind.describe : TokenKind → String
  | .number n => "number " ++ Number.Notation.plain.write n
  | .text s => "string \"" ++ s ++ "\""
  | .name s => "identifier " ++ s
  | .keyword k => "keyword " ++ k.upper
  | .sign s => "'" ++ s.toText ++ "'"

/-- A token and the number of characters before it in its line. -/
structure Token where
  kind : TokenKind
  pos : Nat
deriving DecidableEq, Repr

end LineBasic
