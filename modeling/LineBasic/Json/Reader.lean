import LineBasic.Json
import LineBasic.Number.Reading
import LineBasic.Taken

/-!
# Reading JSON documents

The reader accepts the grammar of JSON and nothing else: four blanks, no leading zeros, no control
characters in texts, no comma before a closing bracket. It keeps numbers as written and decides
nothing about their range.

## Main definitions

* `Json.read`: the document that a whole text is.
-/

namespace LineBasic.Json

open Number (isDigit)

/-- The blanks of a JSON text. -/
def isBlank (c : Char) : Bool := c = ' ' || c = '\n' || c = '\t' || c = '\r'

/-- A text without the blanks at its start. -/
def skipBlanks (cs : List Char) : List Char := cs.dropWhile isBlank

theorem length_skipBlanks_le (cs : List Char) : (skipBlanks cs).length ≤ cs.length :=
  (List.dropWhile_sublist _).length_le

/-- Takes a character off the head of a text, behind blanks. -/
def eatChar? (c : Char) (cs : List Char) : Option (Taken Unit cs) :=
  match h : skipBlanks cs with
  | [] => none
  | d :: rest =>
      if d = c then
        some ⟨(), rest, by have := length_skipBlanks_le cs; rw [h, List.length_cons] at this; omega⟩
      else none

/-! ## Texts -/

/-- A part of a text: a character, or the code unit of a `\u` escape. -/
inductive Piece where
  | char (c : Char)
  | unit (code : Nat)

/-- Whether a code unit is the first, or the second, half of a character beyond sixteen bits. -/
def isHighHalf (code : Nat) : Bool := 0xd800 ≤ code && code ≤ 0xdbff

/-- Whether a code unit is the second half of a character beyond sixteen bits. -/
def isLowHalf (code : Nat) : Bool := 0xdc00 ≤ code && code ≤ 0xdfff

/-- The characters of a text, if every half of a character stands before or behind its partner. -/
def ofPieces? : List Piece → Option (List Char)
  | [] => some []
  | .char c :: rest => (ofPieces? rest).map (c :: ·)
  | .unit high :: .unit low :: rest =>
      if isHighHalf high ∧ isLowHalf low then
        (ofPieces? rest).map
          (Char.ofNat (0x10000 + (high - 0xd800) * 0x400 + (low - 0xdc00)) :: ·)
      else if isHighHalf high ∨ isLowHalf high then none
      else (ofPieces? (.unit low :: rest)).map (Char.ofNat high :: ·)
  | .unit code :: rest =>
      if isHighHalf code ∨ isLowHalf code then none
      else (ofPieces? rest).map (Char.ofNat code :: ·)

/-- The value of a hexadecimal digit. -/
def hexDigit? (c : Char) : Option Nat :=
  if isDigit c then some (Number.digitValue c)
  else if 'a' ≤ c ∧ c ≤ 'f' then some (c.toNat - 'a'.toNat + 10)
  else if 'A' ≤ c ∧ c ≤ 'F' then some (c.toNat - 'A'.toNat + 10)
  else none

/-- The code unit of four hexadecimal digits. -/
def codeUnit? (a b c d : Char) : Option Nat := do
  let a ← hexDigit? a
  let b ← hexDigit? b
  let c ← hexDigit? c
  let d ← hexDigit? d
  return ((a * 16 + b) * 16 + c) * 16 + d

/-- The character that a backslash and a letter stand for. -/
def shortEscape? : Char → Option Char
  | '"' => some '"'
  | '\\' => some '\\'
  | '/' => some '/'
  | 'b' => some '\x08'
  | 'f' => some '\x0c'
  | 'n' => some '\n'
  | 'r' => some '\r'
  | 't' => some '\t'
  | _ => none

/-- Reads a text behind its opening quote, up to and with the closing one. -/
def pieces : (cs : List Char) → Option (Taken (List Piece) cs)
  | [] => none
  | c :: rest =>
      if c = '"' then some ⟨[], rest, Nat.lt_succ_self _⟩
      else if c = '\\' then
        match rest with
        | [] => none
        | e :: rest' =>
            if e = 'u' then
              match rest' with
              | h₁ :: h₂ :: h₃ :: h₄ :: rest'' => do
                  let code ← codeUnit? h₁ h₂ h₃ h₄
                  let ⟨ps, last, h⟩ ← pieces rest''
                  return ⟨.unit code :: ps, last, by simp only [List.length_cons]; omega⟩
              | _ => none
            else do
              let d ← shortEscape? e
              let ⟨ps, last, h⟩ ← pieces rest'
              return ⟨.char d :: ps, last, by simp only [List.length_cons]; omega⟩
      else if c.toNat < 32 then none
      else do
        let ⟨ps, last, h⟩ ← pieces rest
        return ⟨.char c :: ps, last, Nat.lt_succ_of_lt h⟩

/-- Reads the content of a text behind its opening quote. -/
def readContent (cs : List Char) : Option (Taken (Option String) cs) :=
  (pieces cs).map fun ⟨ps, rest, h⟩ => ⟨(ofPieces? ps).map String.ofList, rest, h⟩

/-! ## Numbers and words -/

/-- The digits of a whole part: a zero, or digits that do not begin with one. -/
def wholeDigits (cs : List Char) : List Char :=
  match cs with
  | '0' :: _ => ['0']
  | _ => cs.takeWhile isDigit

/-- A point and digits, if a point follows; nothing if none does. -/
def fractionPart? (cs : List Char) : Option (List Char) :=
  match cs with
  | '.' :: rest =>
      let digits := rest.takeWhile isDigit
      if digits = [] then none else some ('.' :: digits)
  | _ => some []

/-- A power of ten, if its mark follows; nothing if it does not. -/
def powerPart? (cs : List Char) : Option (List Char) :=
  match cs with
  | mark :: rest =>
      if mark = 'e' ∨ mark = 'E' then
        let (sign, digits) : List Char × List Char := match rest with
          | '+' :: tail => (['+'], tail.takeWhile isDigit)
          | '-' :: tail => (['-'], tail.takeWhile isDigit)
          | _ => ([], rest.takeWhile isDigit)
        if digits = [] then none else some (mark :: sign ++ digits)
      else some []
  | [] => some []

/-- The characters of the number at the head of a text. -/
def numberText? (cs : List Char) : Option (List Char) := do
  let sign := cs.takeWhile (· = '-') |>.take 1
  let rest := cs.drop sign.length
  let whole := wholeDigits rest
  if whole = [] then none
  let rest := rest.drop whole.length
  let fraction ← fractionPart? rest
  let power ← powerPart? (rest.drop fraction.length)
  return sign ++ whole ++ fraction ++ power

/-- Reads a word or a number at the head of a text. -/
def readScalar (cs : List Char) : Option (Taken Json cs) :=
  if hNull : "null".toList.isPrefixOf cs then
    some ⟨null, cs.drop 4, by
      have := (List.isPrefixOf_iff_prefix.1 hNull).length_le
      simp at this ⊢; omega⟩
  else if hTrue : "true".toList.isPrefixOf cs then
    some ⟨bool true, cs.drop 4, by
      have := (List.isPrefixOf_iff_prefix.1 hTrue).length_le
      simp at this ⊢; omega⟩
  else if hFalse : "false".toList.isPrefixOf cs then
    some ⟨bool false, cs.drop 5, by
      have := (List.isPrefixOf_iff_prefix.1 hFalse).length_le
      simp at this ⊢; omega⟩
  else do
    let digits ← numberText? cs
    if h : digits ≠ [] ∧ cs ≠ [] then
      return ⟨number (String.ofList digits), cs.drop digits.length, by
        have h₁ := List.length_pos_iff.2 h.1
        have h₂ := List.length_pos_iff.2 h.2
        rw [List.length_drop]; omega⟩
    else none

/-! ## Documents -/

mutual

/-- Reads a document off the head of a text. -/
def readValue (cs : List Char) : Option (Taken Json cs) :=
  match eatChar? '[' cs with
  | some ⟨_, rest, h⟩ =>
      match eatChar? ']' rest with
      | some ⟨_, rest', h'⟩ => some ⟨array [], rest', Nat.lt_trans h' h⟩
      | none => do
          let ⟨items, rest', h'⟩ ← readItems rest
          return ⟨array items, rest', Nat.lt_trans h' h⟩
  | none =>
      match eatChar? '\x7b' cs with
      | some ⟨_, rest, h⟩ =>
          match eatChar? '\x7d' rest with
          | some ⟨_, rest', h'⟩ => some ⟨object [], rest', Nat.lt_trans h' h⟩
          | none => do
              let ⟨fields, rest', h'⟩ ← readFields rest
              return ⟨object fields, rest', Nat.lt_trans h' h⟩
      | none =>
          match eatChar? '"' cs with
          | some ⟨_, rest, h⟩ => do
              let ⟨content, rest', h'⟩ ← readContent rest
              return ⟨text content, rest', Nat.lt_trans h' h⟩
          | none => do
              let ⟨value, rest, h⟩ ← readScalar (skipBlanks cs)
              return ⟨value, rest, Nat.lt_of_lt_of_le h (length_skipBlanks_le cs)⟩
termination_by cs.length * 2

/-- Reads the items of an array up to its closing bracket. -/
def readItems (cs : List Char) : Option (Taken (List Json) cs) := do
  let ⟨item, rest, h⟩ ← readValue cs
  match eatChar? ',' rest with
  | some ⟨_, tail, hTail⟩ => do
      let ⟨items, rest', h'⟩ ← readItems tail
      return ⟨item :: items, rest', Nat.lt_trans h' (Nat.lt_trans hTail h)⟩
  | none => do
      let ⟨_, rest', h'⟩ ← eatChar? ']' rest
      return ⟨[item], rest', Nat.lt_trans h' h⟩
termination_by cs.length * 2 + 1

/-- Reads the fields of an object up to its closing brace. -/
def readFields (cs : List Char) : Option (Taken (List (Option String × Json)) cs) := do
  let ⟨_, afterQuote, h₁⟩ ← eatChar? '"' cs
  let ⟨name, afterName, h₂⟩ ← readContent afterQuote
  let ⟨_, afterColon, h₃⟩ ← eatChar? ':' afterName
  let ⟨value, rest, h₄⟩ ← readValue afterColon
  have h : rest.length < cs.length :=
    Nat.lt_trans h₄ (Nat.lt_trans h₃ (Nat.lt_trans h₂ h₁))
  match eatChar? ',' rest with
  | some ⟨_, tail, hTail⟩ => do
      let ⟨fields, rest', h'⟩ ← readFields tail
      return ⟨(name, value) :: fields, rest', Nat.lt_trans h' (Nat.lt_trans hTail h)⟩
  | none => do
      let ⟨_, rest', h'⟩ ← eatChar? '\x7d' rest
      return ⟨[(name, value)], rest', Nat.lt_trans h' h⟩
termination_by cs.length * 2 + 1

end

/-- The document that a text is, with nothing but blanks around it. -/
def read (s : String) : Option Json := do
  let ⟨j, rest, _⟩ ← readValue s.toList
  if skipBlanks rest = [] then some j else none

end LineBasic.Json
