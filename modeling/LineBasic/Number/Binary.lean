/-!
# Doubles as exact binary fractions

A BASIC number is a double. Adding, comparing and dividing doubles is the machine's business, but
rounding one to an integer and writing one down in decimal are rules of this library, and they are
rules about the exact value that the double stands for. This module gives that value.

## Main definitions

* `Exact`: a double as a signed fraction `m * 2 ^ e`, an infinity, or no number at all.
* `exact`: the value of a double.
* `Split`: a finite double cut at the binary point, into a whole part and a fraction below one.
-/

namespace LineBasic.Number

/-- The exact value of a double. -/
inductive Exact where
  /-- No number: the outcome of an operation that has none. -/
  | undefined
  | infinite (negative : Bool)
  /-- The value `± mantissa * 2 ^ exponent`. Zero has mantissa zero and keeps its sign. -/
  | finite (negative : Bool) (mantissa : Nat) (exponent : Int)
deriving DecidableEq, Repr

/-- The exact value that a double stands for. -/
def exact (x : Float) : Exact :=
  match x.toModel.unpack with
  | .notANumber => .undefined
  | .infinity sign => .infinite (sign == .negative)
  | .zero sign => .finite (sign == .negative) 0 0
  | .finite sign mantissa exponent _ => .finite (sign == .negative) mantissa exponent

/--
A finite value cut at the binary point: `± (whole + part / scale)` with `part < scale`.
-/
structure Split where
  negative : Bool
  whole : Nat
  part : Nat
  scale : Nat
  part_lt_scale : part < scale

/-- Cuts a double at the binary point. An infinity has no whole part, and neither has no number. -/
def split? (x : Float) : Option Split :=
  match exact x with
  | .undefined | .infinite _ => none
  | .finite negative mantissa exponent =>
      match exponent with
      | .ofNat up => some ⟨negative, mantissa * Nat.pow 2 up, 0, 1, Nat.one_pos⟩
      | .negSucc below =>
          let scale := Nat.pow 2 (below + 1)
          some ⟨negative, mantissa / scale, mantissa % scale, scale,
            Nat.mod_lt _ (Nat.two_pow_pos _)⟩

end LineBasic.Number
