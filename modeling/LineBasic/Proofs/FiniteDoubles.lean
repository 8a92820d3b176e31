import LineBasic.Proofs.WholeDoubles

/-!
# Which doubles are finite

An exponent of all ones marks a double as an infinity or as no number, and every other double is
finite.  A number is packed with this mark only if its exponent is above 971.  So the sign does not
matter, and rounding does not either: it gives at most one more binary digit than the number has.

## Main results

* `isFinite_neg`: a change of sign keeps a double finite.
* `exponent_roundWithAccuracy`: the exponent of a rounded number.
* `isFinite_ofNat`, `isFinite_ofInt`: integers of at most 1023 binary digits are finite doubles.
-/

namespace LineBasic.Number

open Float.Model (Format totalExponent UnpackedFloat)
open Float.Model.UnpackedFloat

variable {sign : Sign} {mantissa n : Nat} {exponent : Int}

/-! ## Packed numbers -/

/-- A double whose exponent is not all ones is finite. -/
theorem isFinite_unpack {bits : BitVec 64} (h : @unpackExponent Format.binary64 bits ≠ -1#11) :
    (unpack Format.binary64 bits).isFinite = true := by
  unfold unpack
  dsimp only
  rw [if_neg h]
  split
  · split <;> rfl
  · rfl

/-- A number with an exponent of at most 971 is packed as a finite double. -/
theorem isFinite_pack {positive : 0 < mantissa} (below : exponent ≤ 971) :
    (unpack Format.binary64 (pack Format.binary64 (.finite sign mantissa exponent positive))).isFinite =
      true := by
  have hbias : (exponent + Format.binary64.exponentBias +
      Format.binary64.mantissaBitsWithoutImplicit).toNat = (exponent + 1075).toNat := by
    show (exponent + 1023 + 52).toNat = _
    omega
  have hsome : BitVec.ofNat 11 (exponent + 1075).toNat ≠ -1#11 := by
    intro hones
    have hnat := congrArg BitVec.toNat hones
    rw [BitVec.toNat_ofNat] at hnat
    have hmod : (exponent + 1075).toNat % 2048 = 2047 := hnat
    omega
  simp only [pack, hbias]
  split
  · next hlarge =>
      have hlarge' : 2048 ≤ (exponent + 1075).toNat + 1 := hlarge
      omega
  · split
    · exact isFinite_unpack (by rw [unpackExponent_packComponents]; exact hsome)
    · exact isFinite_unpack (by rw [unpackExponent_packComponents]; decide)

/-- The exponent of an unpacked number is at most 971. -/
theorem exponent_unpack {bits : BitVec 64} {positive : 0 < mantissa}
    (h : unpack Format.binary64 bits = .finite sign mantissa exponent positive) : exponent ≤ 971 := by
  have hbias : ((Format.binary64.exponentBias : Int) +
      Format.binary64.mantissaBitsWithoutImplicit) = 1075 := rfl
  unfold unpack at h
  dsimp only at h
  rw [hbias] at h
  have hlt : (@unpackExponent Format.binary64 bits).toNat < 2048 := BitVec.isLt _
  split at h
  · split at h <;> cases h
  · next hsome =>
      have hne : (@unpackExponent Format.binary64 bits).toNat ≠ 2047 :=
        fun hones => hsome (BitVec.eq_of_toNat_eq hones)
      split at h
      · next hzero =>
          rw [hzero] at h
          split at h <;> cases h
          decide
      · cases h
        omega

/-- A change of sign keeps a double finite. -/
theorem isFinite_neg {x : Float} (h : x.isFinite = true) : (-x).isFinite = true := by
  change x.toModel.unpack.isFinite = true at h
  show (unpack Format.binary64 (pack Format.binary64 x.toModel.unpack.neg)).isFinite = true
  cases hx : x.toModel.unpack with
  | notANumber => simp [hx, UnpackedFloat.isFinite] at h
  | infinity sign => simp [hx, UnpackedFloat.isFinite] at h
  | zero sign => cases sign <;> rfl
  | finite sign mantissa exponent positive => exact isFinite_pack (exponent_unpack hx)

/-! ## Rounded numbers -/

@[simp] theorem mantissa_shiftRight (em : ExtendedMantissa) (shift : Nat) :
    (em >>> shift).mantissa = em.mantissa >>> shift := by
  induction shift with
  | zero => rfl
  | succ shift ih =>
      show (em >>> shift).mantissa / 2 = _
      rw [ih]
      rfl

/-- Rounding adds at most one. -/
theorem roundedMantissa_le (em : ExtendedMantissa) : em.roundedMantissa ≤ em.mantissa + 1 := by
  unfold ExtendedMantissa.roundedMantissa Accuracy.roundToNearestEven
  split <;> omega

/-- The digits that are left of a number, and the exponent of the last of them. -/
theorem shiftToTargetExponent_bounds (mantissa : Nat) (exponent : Int) :
    (shiftToTargetExponent Format.binary64 mantissa exponent .exact).1.mantissa < 9007199254740992 ∧
      (shiftToTargetExponent Format.binary64 mantissa exponent .exact).2 =
        max exponent (max (mantissa.log2 + exponent - 52) (-1074)) := by
  have htarget : Format.binary64.targetExponent (totalExponent mantissa exponent) =
      max (mantissa.log2 + exponent - 52) (-1074) := by
    simp only [Format.targetExponent, totalExponent, Format.mantissaBits, Format.minExponent]
    omega
  simp only [shiftToTargetExponent, htarget, shiftToExponent]
  generalize hshift : (max (mantissa.log2 + exponent - 52) (-1074) - exponent).toNat = shift
  refine ⟨?_, by omega⟩
  rw [mantissa_shiftRight]
  show mantissa >>> shift < 9007199254740992
  by_cases hzero : mantissa = 0
  · rw [hzero, Nat.zero_shiftRight]
    decide
  · -- The shift leaves at most 53 digits.
    rw [Nat.shiftRight_eq_div_pow, Nat.div_lt_iff_lt_mul (Nat.two_pow_pos shift)]
    have hpower : 9007199254740992 * 2 ^ shift = 2 ^ (53 + shift) := by
      rw [Nat.pow_add]
    rw [hpower, ← Nat.log2_lt hzero]
    omega

/-- A rounded number is zero, or its exponent is at most one more than that of its last digit. -/
theorem exponent_roundWithAccuracy (sign : Sign) (mantissa : Nat) (exponent : Int) :
    roundWithAccuracy Format.binary64 sign mantissa exponent .exact = .zero sign ∨
      ∃ mantissa' exponent' positive,
        roundWithAccuracy Format.binary64 sign mantissa exponent .exact =
          .finite sign mantissa' exponent' positive ∧
        exponent' ≤ max exponent (max (mantissa.log2 + exponent - 52) (-1074)) + 1 := by
  obtain ⟨hdigits, hexponent⟩ := shiftToTargetExponent_bounds mantissa exponent
  unfold roundWithAccuracy
  generalize shiftToTargetExponent Format.binary64 mantissa exponent .exact = first at *
  obtain ⟨em, exponent₁⟩ := first
  dsimp only at hdigits hexponent ⊢
  obtain ⟨-, hexponent₂⟩ := shiftToTargetExponent_bounds em.roundedMantissa exponent₁
  have hrounded : em.roundedMantissa.log2 ≤ 53 := by
    have hle := roundedMantissa_le em
    by_cases hzero : em.roundedMantissa = 0
    · rw [hzero]
      decide
    · have hlog := (Nat.log2_lt hzero (k := 54)).2 (by omega)
      omega
  split
  · exact .inl rfl
  · next hdigit =>
      refine .inr ⟨_, _, Nat.pos_of_ne_zero hdigit, rfl, ?_⟩
      omega

/-! ## Integers -/

/-- A natural number of at most 1023 binary digits is a finite double. -/
theorem isFinite_ofNat {n : Nat} (digits : n.log2 ≤ 1022) : (Float.ofNat n).isFinite = true := by
  by_cases hzero : n = 0
  · subst hzero
    with_unfolding_all rfl
  have hn : 0 < n := Nat.pos_of_ne_zero hzero
  by_cases hsmall : n < 9007199254740992
  · have hlog := log2_le_of_lt hsmall
    show (Float.ofNat n).toModel.unpack.isFinite = true
    rw [unpack_ofNat hn hlog]
    rfl
  · have hof : Float.ofNat n = .ofModel (Float.Model.ofScientific n 0) := by
      show Float.ofScientific n false 0 = _
      rw [Float.ofScientific, dif_neg fun hexact => hsmall hexact.1]
      rfl
    have hproduct : UnpackedFloat.ofScientific Format.binary64 n 0 =
        roundWithAccuracy Format.binary64 .positive (n <<< 53) (-53) .exact := by
      unfold UnpackedFloat.ofScientific
      rw [dif_neg hzero, if_neg (by decide), if_neg, if_pos (Int.le_refl 0)]
      · simp only [UnpackedFloat.mul, Format.mantissaBits, Int.toNat_zero, Nat.pow_zero, Nat.mul_one]
        rfl
      · simp
    rw [hof]
    show (unpack Format.binary64 (pack Format.binary64 _)).isFinite = true
    rw [hproduct]
    rcases exponent_roundWithAccuracy .positive (n <<< 53) (-53) with
      hround | ⟨mantissa, exponent, positive, hround, hexponent⟩
    · rw [hround]
      rfl
    · rw [hround]
      rw [log2_shiftLeft hzero] at hexponent
      exact isFinite_pack (by omega)

/-- An integer of at most 1023 binary digits is a finite double. -/
theorem isFinite_ofInt {k : Int} (digits : k.natAbs.log2 ≤ 1022) :
    (Float.ofInt k).isFinite = true := by
  cases k with
  | ofNat n => exact isFinite_ofNat digits
  | negSucc n => exact isFinite_neg (isFinite_ofNat digits)

end LineBasic.Number
