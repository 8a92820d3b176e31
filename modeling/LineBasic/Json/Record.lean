import LineBasic.Json
import LineBasic.Number.Reading

/-!
# Records in JSON documents

A record with fixed fields is read from an object, in which unknown fields are passed over and a
known one may stand only once, or from an array of its first fields in order.

## Main definitions

* `Json.record?`: the documents of the fields of a record, in order.
* `Json.natural?`, `Json.bool?`, `Json.string?`, `Json.optional?`: the values of fields.
-/

namespace LineBasic.Json

/-- The documents under a name among the fields of an object. -/
def under (name : String) (fields : List (Option String × Json)) : List Json :=
  fields.filterMap fun (key, value) => if key = some name then some value else none

/-- The document under a name, if any; refused if there are several. -/
def field? (name : String) (fields : List (Option String × Json)) : Option (Option Json) :=
  match under name fields with
  | [] => some none
  | [value] => some (some value)
  | _ => none

/--
The documents of a record's fields, in the order of `names`, each if it is there. Refused are other
documents than objects and arrays, a name without content, a known field given twice, and more items
than fields.
-/
def record? (names : List String) : Json → Option (List (Option Json))
  | object fields =>
      if fields.all (·.1.isSome) then names.mapM fun name => field? name fields else none
  | array items =>
      if items.length ≤ names.length then
        some (items.map some ++ List.replicate (names.length - items.length) none)
      else none
  | _ => none

/-- A natural number below a bound, written in plain digits. -/
def natural? (bound : Nat) : Json → Option Nat
  | number digits =>
      let cs := digits.toList
      if cs ≠ [] ∧ cs.all Number.isDigit then
        let n := Number.ofDecimalDigits cs
        if n < bound then some n else none
      else none
  | _ => none

/-- A truth value. -/
def bool? : Json → Option Bool
  | bool b => some b
  | _ => none

/-- The content of a text. -/
def string? : Json → Option String
  | text content => content
  | _ => none

/-- The items of an array. -/
def items? : Json → Option (List Json)
  | array items => some items
  | _ => none

/-- A value that may be null or missing. -/
def optional? {α : Type} (read : Json → Option α) : Option Json → Option (Option α)
  | none => some none
  | some null => some none
  | some j => (read j).map some

/-- A value with a default where it is missing. -/
def defaulted? {α : Type} (read : Json → Option α) (default : α) : Option Json → Option α
  | none => some default
  | some j => read j

end LineBasic.Json
