/-!
# Reading off the head of a list

A reader takes a value off the head of a list of tokens or characters and gives back the rest. That
the rest is shorter is part of its result, and is what every recursive reader terminates by.

## Main definitions

* `Taken`: a value and a rest that is shorter than the input.
* `TakenUpTo`: a value and a rest that is no longer than the input.
* `Taken.ofHead`, `TakenUpTo.nothing`: a value for one element, and a value for none.
* `Taken.andThen`, `Taken.behind`: reading on, and reading behind an element.
-/

namespace LineBasic

variable {τ α β : Type}

/-- A value read off the head of `input`: at least one element was used for it. -/
structure Taken (α : Type) (input : List τ) where
  value : α
  rest : List τ
  shorter : rest.length < input.length

/-- A value read off the head of `input`, perhaps from nothing. -/
structure TakenUpTo (α : Type) (input : List τ) where
  value : α
  rest : List τ
  noLonger : rest.length ≤ input.length

namespace TakenUpTo

/-- A value read from nothing. -/
def nothing (value : α) (input : List τ) : TakenUpTo α input := ⟨value, input, Nat.le_refl _⟩

/-- What was read behind an element that was used up as well. -/
def behind {tail : List τ} (t : TakenUpTo α tail) (head : τ) : Taken α (head :: tail) :=
  ⟨t.value, t.rest, Nat.lt_succ_of_le t.noLonger⟩

/-- The same rest with another value. -/
def map {input : List τ} (f : α → β) (t : TakenUpTo α input) : TakenUpTo β input :=
  ⟨f t.value, t.rest, t.noLonger⟩

end TakenUpTo

namespace Taken

/-- A value read from the first element alone. -/
def ofHead (value : α) (head : τ) (tail : List τ) : Taken α (head :: tail) :=
  (TakenUpTo.nothing value tail).behind head

/-- What was read behind an element that was used up as well. -/
def behind {tail : List τ} (t : Taken α tail) (head : τ) : Taken α (head :: tail) :=
  ⟨t.value, t.rest, Nat.lt_succ_of_lt t.shorter⟩

/-- What was read off the rest that a first value left. -/
def andThen {input : List τ} (first : Taken α input) (second : Taken β first.rest) :
    Taken β input :=
  ⟨second.value, second.rest, Nat.lt_trans second.shorter first.shorter⟩

/-- The same rest with another value. -/
def map {input : List τ} (f : α → β) (t : Taken α input) : Taken β input :=
  ⟨f t.value, t.rest, t.shorter⟩

/-- A shorter rest is no longer. -/
def upTo {input : List τ} (t : Taken α input) : TakenUpTo α input :=
  ⟨t.value, t.rest, Nat.le_of_lt t.shorter⟩

end Taken

end LineBasic
