import LineBasic.Text.CaseTable

/-!
# Upper and lower case of a text

A text changes case character by character, and one character may become several. One rule looks
around: a capital sigma becomes the final small sigma where it ends a word, which is where the
nearest letter before it exists and none follows.

## Main definitions

* `upper`, `lower`: the case of a text.
* `asciiLower`: lower case of the letters `A` to `Z` only, for the words of the language.
-/

namespace LineBasic.Text

/-- A character's case by the tables: a text of its own, a shift of its code, or itself. -/
def caseOf (texts : List (Nat × List Nat)) (runs : List CaseRun) (c : Char) : List Char :=
  match texts.find? (·.1 == c.toNat) with
  | some (_, codes) => codes.map Char.ofNat
  | none =>
      match runs.find? (·.contains c.toNat) with
      | some run => [Char.ofNat ((c.toNat : Int) + run.shift).toNat]
      | none => [c]

/-- The upper case of a text. -/
def upper (cs : List Char) : List Char := cs.flatMap (caseOf upperTexts upperRuns)

/-- Whether the nearest character that counts is a letter with a case. -/
def meetsLetter (cs : List Char) : Bool :=
  match cs.dropWhile caseIgnorable.contains with
  | c :: _ => cased.contains c
  | [] => false

/-- Whether a letter between two texts, the one before it read backwards, ends a word. -/
def endsWord (before after : List Char) : Bool := meetsLetter before && !meetsLetter after

/-- The lower case of a text that follows the text `before`, which is read backwards. -/
def lowerAfter (before : List Char) : List Char → List Char
  | [] => []
  | c :: after =>
      let small :=
        if c = 'Σ' then [if endsWord before after then 'ς' else 'σ']
        else caseOf lowerTexts lowerRuns c
      small ++ lowerAfter (c :: before) after

/-- The lower case of a text. -/
def lower (cs : List Char) : List Char := lowerAfter [] cs

/-- The lower case of a letter from `A` to `Z`; every other character is kept. -/
def asciiLowerChar (c : Char) : Char :=
  if 'A' ≤ c ∧ c ≤ 'Z' then Char.ofNat (c.toNat + 32) else c

/-- A text with the letters from `A` to `Z` in lower case. -/
def asciiLower (s : String) : String := String.ofList (s.toList.map asciiLowerChar)

/-- The letters `A` to `Z` in either case. -/
def isLetter (c : Char) : Bool := ('a' ≤ c && c ≤ 'z') || ('A' ≤ c && c ≤ 'Z')

end LineBasic.Text
