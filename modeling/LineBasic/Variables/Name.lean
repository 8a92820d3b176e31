import LineBasic.Text.Casing
import LineBasic.Value

/-!
# Variable names and storage keys

A variable is written with a type mark behind its name: `%` for an integer, `$` for a text, `!` or
nothing for a number. Letter case does not distinguish names. Variables are stored under a key in
which the mark has become a suffix that no name can contain: `I`, `$` or `R`.

## Main definitions

* `storageKey`: the key of a name.
* `typeOfName`: the type that the mark of a name stands for.
* `isIntegerKey`: whether a key belongs to an integer variable.
-/

namespace LineBasic

/-- The type mark of a name as the suffix of its key, and the name without the mark. -/
def splitMark (name : List Char) : List Char × Char :=
  match name.getLast? with
  | some '%' => (name.dropLast, 'I')
  | some '!' => (name.dropLast, 'R')
  | some '$' => (name.dropLast, '$')
  | _ => (name, 'R')

/-- A character of a name as it stands in the key: in lower case, a dot as an underscore. -/
def keyChar (c : Char) : Char := if c = '.' then '_' else Text.asciiLowerChar c

/-- The key under which the variable of a name is stored. -/
def storageKey (name : String) : String :=
  let (base, suffix) := splitMark name.toList
  String.ofList (base.map keyChar ++ [suffix])

/-- The type of the values that the variable of a name holds. -/
def typeOfName (name : String) : ValueType :=
  if name.toList.getLast? = some '$' then .text else .number

/-- Whether a key is that of an integer variable. -/
def isIntegerKey (key : String) : Bool := key.toList.getLast? = some 'I'

end LineBasic
