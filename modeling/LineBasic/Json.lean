import LineBasic.Number.Notation

/-!
# JSON documents

Breakpoints, settings and events leave and enter the debugger as JSON. A document keeps its numbers
as they are written, the fields of an object in their order, and repeated fields, so that a reader
can decide about each of them.

## Main definitions

* `Json`: documents.
* `Json.compact`, `Json.pretty`: the two ways of writing one.
-/

namespace LineBasic

/--
A JSON document. A text whose escapes name half a character has no content; a document can hold one
where nobody looks at it.
-/
inductive Json where
  | null
  | bool (b : Bool)
  | number (digits : String)
  | text (content : Option String)
  | array (items : List Json)
  | object (fields : List (Option String × Json))
deriving Inhabited, Repr

namespace Json

/-- A text with content. -/
def ofString (s : String) : Json := text (some s)

/-- A natural number. -/
def ofNat (n : Nat) : Json := number (Nat.repr n)

/-- An integer. -/
def ofInt (k : Int) : Json := number (if k < 0 then "-" ++ Nat.repr k.natAbs else Nat.repr k.natAbs)

/-- A double; what is no finite number is null. -/
def ofFloat (x : Float) : Json := number (Number.Notation.json.write x)

/-- An object with the given fields. -/
def ofFields (fields : List (String × Json)) : Json :=
  object (fields.map fun (name, value) => (some name, value))

/-- A field that is present only with a value. -/
def optionalField (name : String) (value : Option Json) : List (String × Json) :=
  match value with
  | some v => [(name, v)]
  | none => []

/-! ## Writing -/

/-- A control character as `\u` and four digits. -/
def controlEscape (c : Char) : List Char :=
  let digits := Nat.toDigits 16 c.toNat
  ['\\', 'u'] ++ List.replicate (4 - digits.length) '0' ++ digits

/-- A character as it stands in a text. -/
def escape (c : Char) : List Char :=
  if c = '"' then ['\\', '"']
  else if c = '\\' then ['\\', '\\']
  else if c = '\n' then ['\\', 'n']
  else if c = '\r' then ['\\', 'r']
  else if c = '\t' then ['\\', 't']
  else if c.toNat = 8 then ['\\', 'b']
  else if c.toNat = 12 then ['\\', 'f']
  else if c.toNat < 32 then controlEscape c
  else [c]

/-- A text between quotes. -/
def quote (s : String) : String := "\"" ++ String.ofList (s.toList.flatMap escape) ++ "\""

/-- A text, or an empty one where it has no content. -/
def quoteContent (content : Option String) : String := quote (content.getD "")

mutual

/-- A document on one line, without blanks. -/
def compact : Json → String
  | null => "null"
  | bool b => if b then "true" else "false"
  | number digits => digits
  | text content => quoteContent content
  | array items => "[" ++ compactItems items ++ "]"
  | object fields => "\x7b" ++ compactFields fields ++ "\x7d"

/-- The items of an array, divided by commas. -/
def compactItems : List Json → String
  | [] => ""
  | [item] => item.compact
  | item :: rest => item.compact ++ "," ++ compactItems rest

/-- The fields of an object, divided by commas. -/
def compactFields : List (Option String × Json) → String
  | [] => ""
  | [(name, value)] => quoteContent name ++ ":" ++ value.compact
  | (name, value) :: rest =>
      quoteContent name ++ ":" ++ value.compact ++ "," ++ compactFields rest

end

/-- A line end and the blanks before the content of a nesting depth. -/
def newline (depth : Nat) : String := String.ofList ('\n' :: List.replicate (2 * depth) ' ')

mutual

/-- A document with a line for each item and field, at a nesting depth. -/
def prettyAt (depth : Nat) : Json → String
  | null => "null"
  | bool b => if b then "true" else "false"
  | number digits => digits
  | text content => quoteContent content
  | array [] => "[]"
  | array items => "[" ++ prettyItems (depth + 1) items ++ newline depth ++ "]"
  | object [] => "\x7b\x7d"
  | object fields => "\x7b" ++ prettyFields (depth + 1) fields ++ newline depth ++ "\x7d"

/-- The items of an array, each on lines of its own. -/
def prettyItems (depth : Nat) : List Json → String
  | [] => ""
  | [item] => newline depth ++ item.prettyAt depth
  | item :: rest => newline depth ++ item.prettyAt depth ++ "," ++ prettyItems depth rest

/-- The fields of an object, each on lines of its own. -/
def prettyFields (depth : Nat) : List (Option String × Json) → String
  | [] => ""
  | [(name, value)] => newline depth ++ quoteContent name ++ ": " ++ value.prettyAt depth
  | (name, value) :: rest =>
      newline depth ++ quoteContent name ++ ": " ++ value.prettyAt depth ++ "," ++
        prettyFields depth rest

end

/-- A document with two blanks of indentation for each level. -/
def pretty (j : Json) : String := j.prettyAt 0

end Json

end LineBasic
