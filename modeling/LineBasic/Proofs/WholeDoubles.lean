import LineBasic.Number.Rounding
import Mathlib

/-!
# Integers as doubles

A double has 53 binary digits, and a natural number that needs no more of them is a double exactly.
Turning it into one shifts its digits up until the first of them is the implicit one.  The product
with the double one has twice as many digits, of which the lower half are zeros and are shifted out
again.

## Main results

* `exact_ofNat`: the exact value of the double of such a number.
* `whole?_ofNat`: the double of such a number is a whole number, and that number.
* `whole?_round`: a double is rounded to the integer that is nearest to it.
-/

namespace LineBasic.Number

open Float.Model (Format totalExponent UnpackedFloat)
open Float.Model.UnpackedFloat

/-! ## Digits -/

/-- A number below the 53rd power of two has at most 53 binary digits. -/
theorem log2_le_of_lt {n : Nat} (h : n < 9007199254740992) : n.log2 ≤ 52 := by
  by_cases hzero : n = 0
  · rw [hzero]
    decide
  · exact Nat.le_of_lt_succ ((Nat.log2_lt hzero).2 h)

/-- A shift to the left adds as many binary digits. -/
theorem log2_shiftLeft {n : Nat} (hn : n ≠ 0) (shift : Nat) :
    (n <<< shift).log2 = n.log2 + shift := by
  induction shift with
  | zero => rfl
  | succ shift ih =>
      have hne : n <<< shift ≠ 0 := by
        rw [Nat.shiftLeft_eq]
        exact Nat.mul_ne_zero hn (Nat.ne_of_gt (Nat.two_pow_pos shift))
      rw [Nat.shiftLeft_succ, Nat.log2_two_mul hne, ih]
      rfl

/-! ## Rounding -/

/-- Zeros that are shifted out on the right leave no trace. -/
theorem shiftRight_shiftLeft (mantissa shift : Nat) :
    (⟨mantissa <<< shift, false, false⟩ : ExtendedMantissa) >>> shift =
      ⟨mantissa, false, false⟩ := by
  induction shift generalizing mantissa with
  | zero => rfl
  | succ shift ih =>
      show ExtendedMantissa.shiftRightOne
        ((⟨mantissa <<< (shift + 1), false, false⟩ : ExtendedMantissa) >>> shift) = _
      rw [Nat.shiftLeft_succ_inside, ih]
      simp [ExtendedMantissa.shiftRightOne]

/-- A number of 53 digits, with zeros behind them, is shifted to those digits. -/
theorem shiftToTargetExponent_shiftLeft {mantissa : Nat} {exponent : Int}
    (digits : mantissa.log2 = 52) (above : -1074 ≤ exponent) (shift : Nat) :
    shiftToTargetExponent Format.binary64 (mantissa <<< shift) (exponent - shift) .exact =
      (⟨mantissa, false, false⟩, exponent) := by
  have hne : mantissa ≠ 0 := by
    rintro rfl
    cases digits
  have htarget : Format.binary64.targetExponent
      (totalExponent (mantissa <<< shift) (exponent - shift)) = exponent := by
    simp only [Format.targetExponent, totalExponent, log2_shiftLeft hne, digits,
      Format.mantissaBits, Format.minExponent]
    omega
  have hshift : (exponent - (exponent - shift)).toNat = shift := by omega
  simp only [shiftToTargetExponent, htarget, shiftToExponent, hshift,
    ExtendedMantissa.ofMantissaAndAccuracy, shiftRight_shiftLeft]
  congr 1
  omega

/-- A number of 53 digits, with zeros behind them, is rounded to those digits. -/
theorem roundWithAccuracy_shiftLeft (sign : Sign) {mantissa : Nat} {exponent : Int}
    (digits : mantissa.log2 = 52) (above : -1074 ≤ exponent) (positive : 0 < mantissa)
    (shift : Nat) :
    roundWithAccuracy Format.binary64 sign (mantissa <<< shift) (exponent - shift) .exact =
      .finite sign mantissa exponent positive := by
  have hfirst := shiftToTargetExponent_shiftLeft digits above shift
  have hsecond := shiftToTargetExponent_shiftLeft digits above 0
  rw [Nat.shiftLeft_zero, Int.natCast_zero, Int.sub_zero] at hsecond
  simp [roundWithAccuracy, hfirst, hsecond, ExtendedMantissa.roundedMantissa,
    ExtendedMantissa.accuracy, Accuracy.roundToNearestEven, Nat.ne_of_gt positive]

/-- A natural number of at most 53 digits is rounded to itself. -/
theorem round_natural {n : Nat} (hn : 0 < n) (digits : n.log2 ≤ 52) :
    UnpackedFloat.round Format.binary64 .positive n 0 =
      .finite .positive (n <<< (52 - n.log2)) ((n.log2 : Int) - 52)
        (Nat.shiftLeft_pos_iff.2 hn) := by
  have htarget : Format.binary64.targetExponent (totalExponent n 0) = (n.log2 : Int) - 52 := by
    simp only [Format.targetExponent, totalExponent, Format.mantissaBits, Format.minExponent]
    omega
  have hshift : (0 - ((n.log2 : Int) - 52)).toNat = 52 - n.log2 := by omega
  have hexponent : (0 : Int) - ((52 - n.log2 : Nat) : Int) = (n.log2 : Int) - 52 := by omega
  have hdigits : (n <<< (52 - n.log2)).log2 = 52 := by
    rw [log2_shiftLeft (Nat.ne_of_gt hn)]
    omega
  have habove : -1074 ≤ (n.log2 : Int) - 52 := by omega
  have hround := roundWithAccuracy_shiftLeft .positive hdigits habove (Nat.shiftLeft_pos_iff.2 hn) 0
  rw [Nat.shiftLeft_zero, Int.natCast_zero, Int.sub_zero] at hround
  simp only [UnpackedFloat.round, htarget, decreaseExponent, hshift, hexponent]
  exact hround

/-! ## Packing -/

/-- The implicit digit and those behind it are the digits of a number of 53 digits. -/
theorem toNat_implicit {mantissa : Nat} (digits : mantissa.log2 = 52) :
    (1#1 ++ BitVec.ofNat 52 mantissa).toNat = mantissa := by
  have hne : mantissa ≠ 0 := by
    rintro rfl
    cases digits
  obtain ⟨lower, upper⟩ := (Nat.log2_eq_iff hne).1 digits
  have hlower : 4503599627370496 ≤ mantissa := lower
  have hupper : mantissa < 9007199254740992 := upper
  rw [BitVec.toNat_append, ← Nat.shiftLeft_add_eq_or_of_lt (BitVec.isLt _)]
  show 4503599627370496 + mantissa % 4503599627370496 = mantissa
  omega

/-- A number of 53 digits is unpacked as it was packed. -/
theorem unpack_pack {sign : Sign} {mantissa : Nat} {exponent : Int} (digits : mantissa.log2 = 52)
    (above : -1074 ≤ exponent) (below : exponent ≤ 971) (positive : 0 < mantissa) :
    unpack Format.binary64 (pack Format.binary64 (.finite sign mantissa exponent positive)) =
      .finite sign mantissa exponent positive := by
  have hbias : (exponent + Format.binary64.exponentBias +
      Format.binary64.mantissaBitsWithoutImplicit).toNat = (exponent + 1075).toNat := by
    show (exponent + 1023 + 52).toNat = _
    omega
  have hpack : pack Format.binary64 (.finite sign mantissa exponent positive) =
      packComponents Format.binary64 sign (BitVec.ofNat 11 (exponent + 1075).toNat)
        (BitVec.ofNat 52 mantissa) := by
    simp only [pack, hbias, digits]
    split
    · next hlarge =>
        have hlarge' : 2048 ≤ (exponent + 1075).toNat + 1 := hlarge
        omega
    · exact if_pos rfl
  have hexponent : (BitVec.ofNat 11 (exponent + 1075).toNat).toNat = (exponent + 1075).toNat := by
    rw [BitVec.toNat_ofNat]
    show (exponent + 1075).toNat % 2048 = _
    omega
  have hsome : BitVec.ofNat 11 (exponent + 1075).toNat ≠ 0#11 := by
    intro hzero
    rw [hzero] at hexponent
    have hnat : 0 = (exponent + 1075).toNat := hexponent
    omega
  have hfinite : BitVec.ofNat 11 (exponent + 1075).toNat ≠ -1#11 := by
    intro hones
    rw [hones] at hexponent
    have hnat : 2047 = (exponent + 1075).toNat := hexponent
    omega
  have hunbiased : ((exponent + 1075).toNat : Int) -
      (Format.binary64.exponentBias + Format.binary64.mantissaBitsWithoutImplicit) = exponent := by
    show ((exponent + 1075).toNat : Int) - (1023 + 52) = exponent
    omega
  rw [hpack]
  simp only [unpack, unpackMantissa_packComponents, unpackExponent_packComponents,
    unpackSign_packComponents, hfinite, hsome, if_false, hexponent, hunbiased,
    Sign.ofBitVec_toBitVec, toNat_implicit digits]

/-! ## Conversion -/

/-- The double one. -/
theorem unpack_one : (Float.Model.ofBits 0x3FF0000000000000).unpack =
    .finite .positive 4503599627370496 (-52) (by decide) := by
  rfl

/-- A product with the double one. -/
theorem unpack_mul_one {m : Float.Model} {mantissa : Nat} {exponent : Int}
    {positive : 0 < mantissa} (hm : m.unpack = .finite .positive mantissa exponent positive)
    (digits : mantissa.log2 = 52) (above : -1074 ≤ exponent) (below : exponent ≤ 971) :
    (m.mul (Float.Model.ofBits 0x3FF0000000000000)).unpack =
      .finite .positive mantissa exponent positive := by
  have hproduct : UnpackedFloat.mul Format.binary64 m.unpack
      (Float.Model.ofBits 0x3FF0000000000000).unpack =
        .finite .positive mantissa exponent positive := by
    have hround := roundWithAccuracy_shiftLeft .positive digits above positive 52
    rw [Nat.shiftLeft_eq] at hround
    rw [hm, unpack_one]
    exact hround
  show unpack Format.binary64 (pack Format.binary64 _) = _
  rw [hproduct]
  exact unpack_pack digits above below positive

/-- The double of a natural number of at most 53 digits. -/
theorem unpack_ofNat {n : Nat} (hn : 0 < n) (digits : n.log2 ≤ 52) :
    (Float.ofNat n).toModel.unpack =
      .finite .positive (n <<< (52 - n.log2)) ((n.log2 : Int) - 52)
        (Nat.shiftLeft_pos_iff.2 hn) := by
  have hdigits : (n <<< (52 - n.log2)).log2 = 52 := by
    rw [log2_shiftLeft (Nat.ne_of_gt hn)]
    omega
  have hsmall : n < 9007199254740992 := by
    have hlt := (Nat.log2_lt (Nat.ne_of_gt hn)).1 (Nat.lt_succ_of_le digits)
    exact hlt
  have hword : n.toUInt64.toNat = n := by
    show n % 18446744073709551616 = n
    omega
  have hcompare : compare (n : Int) 0 = .gt := Int.compare_eq_gt.2 (by omega)
  have hconverted : (Float.Model.ofUInt64 n.toUInt64).unpack =
      .finite .positive (n <<< (52 - n.log2)) ((n.log2 : Int) - 52)
        (Nat.shiftLeft_pos_iff.2 hn) := by
    show unpack Format.binary64 (pack Format.binary64 (UnpackedFloat.normalize _ _ _ _)) = _
    rw [hword]
    simp only [UnpackedFloat.normalize, hcompare, Int.toNat_natCast]
    rw [round_natural hn digits]
    exact unpack_pack hdigits (by omega) (by omega) _
  have hof : Float.ofNat n =
      .ofModel ((Float.Model.ofUInt64 n.toUInt64).mul (Float.Model.ofBits 0x3FF0000000000000)) := by
    show Float.ofScientific n false 0 = _
    rw [Float.ofScientific, dif_pos ⟨hsmall, Nat.zero_le _⟩]
    rfl
  rw [hof]
  exact unpack_mul_one hconverted hdigits (by omega) (by omega)

/-- The exact value of the double of a natural number of at most 53 digits. -/
theorem exact_ofNat {n : Nat} (hn : 0 < n) (digits : n.log2 ≤ 52) :
    exact (Float.ofNat n) = .finite false (n <<< (52 - n.log2)) ((n.log2 : Int) - 52) := by
  unfold exact
  rw [unpack_ofNat hn digits]
  rfl

/-- A double whose digits are those of a natural number of at most 53 digits is whole. -/
theorem whole?_of_exact {x : Float} {negative : Bool} {n : Nat} (digits : n.log2 ≤ 52)
    (h : exact x = .finite negative (n <<< (52 - n.log2)) ((n.log2 : Int) - 52)) :
    whole? x = some (signed negative n) := by
  unfold whole? split?
  rw [h]
  by_cases hfull : n.log2 = 52
  · have hexponent : (n.log2 : Int) - 52 = .ofNat 0 := by
      rw [hfull]
      rfl
    rw [hexponent, hfull]
    simp
  · have hexponent : (n.log2 : Int) - 52 = .negSucc (51 - n.log2) := by
      rw [Int.negSucc_eq]
      omega
    have hshift : 52 - n.log2 = 51 - n.log2 + 1 := by omega
    have hscale : 0 < Nat.pow 2 (51 - n.log2 + 1) := Nat.two_pow_pos _
    rw [hexponent, hshift, Nat.shiftLeft_eq]
    show (if n * Nat.pow 2 (51 - n.log2 + 1) % Nat.pow 2 (51 - n.log2 + 1) = 0 then
      some (signed negative (n * Nat.pow 2 (51 - n.log2 + 1) / Nat.pow 2 (51 - n.log2 + 1)))
      else none) = _
    rw [if_pos (Nat.mul_mod_left _ _), Nat.mul_div_cancel _ hscale]

/-- The double of a natural number of at most 53 digits is whole, and that number. -/
theorem whole?_ofNat {n : Nat} (hn : 0 < n) (digits : n.log2 ≤ 52) :
    whole? (Float.ofNat n) = some n :=
  whole?_of_exact digits (exact_ofNat hn digits)

/-! ## Integers -/

/-- The double of an integer, with the sign of its own that zero has, is that integer. -/
theorem whole?_ofMagnitude (negative : Bool) {n : Nat} (digits : n.log2 ≤ 52) :
    whole? (ofMagnitude negative n) = some (signed negative n) := by
  by_cases hzero : n = 0
  · subst hzero
    cases negative <;> with_unfolding_all rfl
  have hn : 0 < n := Nat.pos_of_ne_zero hzero
  cases negative with
  | false => exact whole?_ofNat hn digits
  | true =>
      refine whole?_of_exact digits ?_
      have hdigits : (n <<< (52 - n.log2)).log2 = 52 := by
        rw [log2_shiftLeft hzero]
        omega
      have hunpack : (-(Float.ofNat n)).toModel.unpack =
          .finite .negative (n <<< (52 - n.log2)) ((n.log2 : Int) - 52)
            (Nat.shiftLeft_pos_iff.2 hn) := by
        show unpack Format.binary64
          (pack Format.binary64 (Float.ofNat n).toModel.unpack.neg) = _
        rw [unpack_ofNat hn digits]
        exact unpack_pack hdigits (by omega) (by omega) _
      show exact (-(Float.ofNat n)) = _
      unfold exact
      rw [hunpack]
      rfl

/-- A double is rounded to the integer that is nearest to it. -/
theorem whole?_round {x : Float} {k : Int} (nearest : nearest? x = some k)
    (digits : k.natAbs.log2 ≤ 52) : whole? (round x) = some k := by
  cases hsplit : split? x with
  | none => cases (nearest?_eq_none_iff.2 hsplit).symm.trans nearest
  | some s =>
      have hround : round x = if s.part = 0 then x else ofMagnitude s.negative s.nearest := by
        unfold round
        rw [hsplit]
      rw [hround]
      split
      · next hpart =>
          -- What has no fraction is its own nearest integer.
          have hwhole : whole? x = some (signed s.negative s.whole) := by
            unfold whole?
            rw [hsplit]
            exact if_pos hpart
          rw [hwhole, ← nearest?_of_whole? hwhole, nearest]
      · have hk : signed s.negative s.nearest = k := by
          unfold nearest? at nearest
          rw [hsplit] at nearest
          exact Option.some.inj nearest
        have hmagnitude : k.natAbs = s.nearest := by
          rw [← hk]
          unfold signed
          split
          · rw [Int.natAbs_neg, Int.natAbs_natCast]
          · rw [Int.natAbs_natCast]
        rw [hmagnitude] at digits
        rw [whole?_ofMagnitude s.negative digits, hk]

end LineBasic.Number
