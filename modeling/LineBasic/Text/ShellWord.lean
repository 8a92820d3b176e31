/-!
# The first word of a command's arguments

The arguments of a console command are split as a shell would: blanks end a word, quotes and
backslashes take characters literally, and a word that starts with `#` begins a comment. Commands
take one argument, so only the first word matters; what follows it is not looked at.

## Main definitions

* `ShellWord`: the outcome, a word, none, or a quotation left open.
* `firstShellWord`: the first word of a text.
-/

namespace LineBasic.Text

/-- What stands at the start of a text of arguments. -/
inductive ShellWord where
  /-- Nothing but blanks and comments. -/
  | missing
  /-- A quotation or a backslash with nothing behind it. -/
  | unbalanced
  | word (text : List Char)
deriving DecidableEq, Repr

/-- How the characters of a word are being read. -/
inductive Quotation where
  | bare
  /-- After a backslash outside quotes: the next character is taken, a line end dropped. -/
  | bareEscape
  | single
  | double
  /-- After a backslash inside double quotes: only a few characters lose it. -/
  | doubleEscape
deriving DecidableEq, Repr

/-- The characters that a backslash makes literal inside double quotes. -/
def isDoubleEscaped (c : Char) : Bool := c = '$' || c = '\x60' || c = '"' || c = '\\'

/-- The blanks of a shell. -/
def isShellBlank (c : Char) : Bool := c = ' ' || c = '\t' || c = '\n'

/-- Reads the rest of a word; `taken` holds its characters so far, the last one first. -/
def restOfWord (quotation : Quotation) (taken : List Char) : List Char → ShellWord
  | [] =>
      match quotation with
      | .bare => .word taken.reverse
      | _ => .unbalanced
  | c :: rest =>
      match quotation with
      | .bare =>
          if c = '"' then restOfWord .double taken rest
          else if c = '\x27' then restOfWord .single taken rest
          else if c = '\\' then restOfWord .bareEscape taken rest
          else if isShellBlank c then .word taken.reverse
          else restOfWord .bare (c :: taken) rest
      | .bareEscape => restOfWord .bare (if c = '\n' then taken else c :: taken) rest
      | .single =>
          if c = '\x27' then restOfWord .bare taken rest else restOfWord .single (c :: taken) rest
      | .double =>
          if c = '"' then restOfWord .bare taken rest
          else if c = '\\' then restOfWord .doubleEscape taken rest
          else restOfWord .double (c :: taken) rest
      | .doubleEscape =>
          if isDoubleEscaped c then restOfWord .double (c :: taken) rest
          else if c = '\n' then restOfWord .double taken rest
          else restOfWord .double (c :: '\\' :: taken) rest

/-- Skips blanks and comments in front of the first word. -/
def firstShellWordFrom (inComment : Bool) : List Char → ShellWord
  | [] => .missing
  | c :: rest =>
      if inComment then firstShellWordFrom (c ≠ '\n') rest
      else if isShellBlank c then firstShellWordFrom false rest
      else if c = '#' then firstShellWordFrom true rest
      else restOfWord .bare [] (c :: rest)

/-- The first word of a text. -/
def firstShellWord (cs : List Char) : ShellWord := firstShellWordFrom false cs

end LineBasic.Text
