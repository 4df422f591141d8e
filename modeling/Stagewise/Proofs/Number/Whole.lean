import Mathlib
import Stagewise.Number.Double

/-! Whole numbers as doubles. Below `2^53` each of them is a double and, but for the sign of zero,
the value of no other; those that fit a word of 64 bits are never rounded to infinity. -/

namespace Stagewise

open Float.Model UnpackedFloat

theorem log2_mul_two_pow {n : Nat} (hn : n ≠ 0) (k : Nat) : (n * 2 ^ k).log2 = n.log2 + k := by
  induction k with
  | zero => rw [Nat.pow_zero, Nat.mul_one, Nat.add_zero]
  | succ k ih =>
    have hne : n * 2 ^ k ≠ 0 := Nat.mul_ne_zero hn (Nat.two_pow_pos k).ne'
    rw [Nat.pow_succ, ← Nat.mul_assoc, Nat.mul_comm _ 2, Nat.log2_two_mul hne, ih, Nat.add_assoc]

namespace Double

/-! The bits of a double. A significand with all its bits in use comes back from them, and no finite
number is taken for an infinity. -/

theorem pack_finite (sign : Sign) {m : Nat} {e : Int} (hpos : 0 < m) (he : e ≤ 971) :
    UnpackedFloat.pack .binary64 (.finite sign m e hpos) =
      packComponents .binary64 sign
        (if m.log2 = 52 then BitVec.ofNat 11 (e + 1075).toNat else 0#11) (BitVec.ofNat 52 m) := by
  have hbiased : (e + Format.binary64.exponentBias +
      Format.binary64.mantissaBitsWithoutImplicit).toNat = (e + 1075).toNat := by
    change (e + (1023 : Nat) + (52 : Nat)).toNat = _
    omega
  have hin : ¬2 ^ Format.binary64.exponentBits ≤ (e + 1075).toNat + 1 := by
    change ¬2048 ≤ _
    omega
  have hfull : m.log2 + 1 = Format.binary64.mantissaBits ↔ m.log2 = 52 := by
    change m.log2 + 1 = 53 ↔ _
    omega
  rw [UnpackedFloat.pack]
  simp only [hbiased, if_neg hin, hfull]
  split <;> rfl

/-- The exponent of a finite number is not the one that the infinities have. -/
theorem biased_ne {k : Nat} (hk : k < 2047) : BitVec.ofNat 11 k ≠ -1#11 := fun h => by
  have hall := congrArg BitVec.toNat h
  rw [BitVec.toNat_ofNat, Nat.mod_eq_of_lt (by omega)] at hall
  change k = 2047 at hall
  omega

/-- A normal number is unpacked to its significand, the first bit of which is not held among the
others. -/
theorem unpack_normal (sign : Sign) {m k : Nat} (hpos : 0 < m) (hlog : m.log2 = 52) (hk : 0 < k)
    (hk' : k < 2047) :
    UnpackedFloat.unpack .binary64
        (packComponents .binary64 sign (BitVec.ofNat 11 k) (BitVec.ofNat 52 m)) =
      .finite sign m (k - 1075) hpos := by
  have hmantissa : (1#1 ++ BitVec.ofNat 52 m).toNat = m := by
    obtain ⟨hge, hlt⟩ := (Nat.log2_eq_iff hpos.ne').mp hlog
    rw [BitVec.toNat_append, ← Nat.shiftLeft_add_eq_or_of_lt (BitVec.isLt _)]
    change 2 ^ 52 + m % 2 ^ 52 = m
    omega
  have hexponent : (BitVec.ofNat 11 k).toNat = k := Nat.mod_eq_of_lt (by omega)
  have hne : BitVec.ofNat 11 k ≠ 0#11 := fun h =>
    hk.ne' (hexponent.symm.trans (congrArg BitVec.toNat h))
  simp only [UnpackedFloat.unpack, unpackExponent_packComponents, unpackMantissa_packComponents,
    unpackSign_packComponents, Sign.ofBitVec_toBitVec, if_neg (biased_ne hk'), if_neg hne,
    hmantissa, hexponent]
  rfl

theorem unpack_pack (sign : Sign) {m : Nat} {e : Int} (hpos : 0 < m) (hlog : m.log2 = 52)
    (hlow : -1074 ≤ e) (hhigh : e ≤ 971) :
    (Float.Model.pack (.finite sign m e hpos)).unpack = .finite sign m e hpos := by
  obtain ⟨k, rfl⟩ : ∃ k : Nat, e = k - 1075 := ⟨(e + 1075).toNat, by omega⟩
  have hpack := pack_finite sign hpos hhigh
  have hk : ((k : Int) - 1075 + 1075).toNat = k := by omega
  rw [if_pos hlog, hk] at hpack
  exact (congrArg (UnpackedFloat.unpack .binary64) hpack).trans
    (unpack_normal sign hpos hlog (by omega) (by omega))

theorem isFinite_unpack (sign : Sign) {exponent : BitVec 11} (mantissa : BitVec 52)
    (h : exponent ≠ -1#11) :
    (UnpackedFloat.unpack .binary64 (packComponents .binary64 sign exponent mantissa)).isFinite =
      true := by
  simp only [UnpackedFloat.unpack, unpackExponent_packComponents, if_neg h]
  split
  · split <;> rfl
  · rfl

theorem isFinite_pack (sign : Sign) {m : Nat} {e : Int} (hpos : 0 < m) (he : e ≤ 971) :
    (Float.Model.pack (.finite sign m e hpos)).unpack.isFinite = true := by
  change (UnpackedFloat.unpack .binary64 (UnpackedFloat.pack .binary64 _)).isFinite = true
  rw [pack_finite sign hpos he]
  split
  · exact isFinite_unpack sign _ (biased_ne (by omega))
  · exact isFinite_unpack sign _ (by decide)

/-- A significand has 53 bits, and only for the least exponent are the first not in use. -/
theorem shape_of_unpack {v : Float.Model} {sign : Sign} {m : Nat} {e : Int} {hpos : 0 < m}
    (h : v.unpack = .finite sign m e hpos) : m < 2 ^ 53 ∧ (2 ^ 52 ≤ m ∨ e = -1074) := by
  have hbits := (@unpackMantissa .binary64 v.toBits.toBitVec).isLt
  unfold Float.Model.unpack UnpackedFloat.unpack at h
  dsimp only at h
  split at h
  · split at h <;> cases h
  split at h
  · rename_i hzero
    split at h
    · cases h
    · cases h
      refine ⟨Nat.lt_trans hbits (by decide), .inr ?_⟩
      rw [hzero]
      rfl
  · cases h
    rw [BitVec.toNat_append, ← Nat.shiftLeft_add_eq_or_of_lt hbits]
    change 2 ^ 52 + _ < 2 ^ 53 ∧ (2 ^ 52 ≤ 2 ^ 52 + _ ∨ _)
    change _ < 2 ^ 52 at hbits
    exact ⟨by omega, .inl (Nat.le_add_right _ _)⟩

/-! Rounding. What fits is moved to where all the bits of the significand are in use, and otherwise
the exponent is raised by no more than the number of bits that are too many. -/

theorem targetExponent_eq (m : Nat) (e : Int) :
    Format.binary64.targetExponent (totalExponent m e) = max (m.log2 + e - 52) (-1074) := by
  change max ((m.log2 : Int) + 1 + e - (53 : Nat)) (3 - 1024 - (53 : Nat)) = _
  omega

theorem shiftToTargetExponent_of_log2 {m : Nat} {e : Int} (hlog : m.log2 = 52) (he : -1074 ≤ e) :
    shiftToTargetExponent .binary64 m e .exact = (⟨m, false, false⟩, e) := by
  have hshift : (max ((m.log2 : Int) + e - 52) (-1074) - e).toNat = 0 := by omega
  simp only [shiftToTargetExponent, shiftToExponent, targetExponent_eq, hshift]
  exact Prod.ext rfl (Int.add_zero e)

theorem roundWithAccuracy_of_log2 (sign : Sign) {m : Nat} {e : Int} (hpos : 0 < m)
    (hlog : m.log2 = 52) (he : -1074 ≤ e) :
    roundWithAccuracy .binary64 sign m e .exact = .finite sign m e hpos := by
  have hexact : (ExtendedMantissa.mk m false false).roundedMantissa = m := rfl
  simp only [roundWithAccuracy, shiftToTargetExponent_of_log2 hlog he, hexact]
  rw [dif_neg hpos.ne']

/-- The whole number as a significand with all its bits in use. -/
def filled (n : Nat) : Nat :=
  n * 2 ^ (52 - n.log2)

theorem filled_pos {n : Nat} (hpos : 0 < n) : 0 < filled n :=
  Nat.mul_pos hpos (Nat.two_pow_pos _)

theorem log2_filled {n : Nat} (hpos : 0 < n) (h : n < 2 ^ 53) : (filled n).log2 = 52 := by
  have hlog : n.log2 < 53 := (Nat.log2_lt hpos.ne').mpr h
  rw [filled, log2_mul_two_pow hpos.ne']
  omega

theorem round_of_lt (sign : Sign) {n : Nat} (hpos : 0 < n) (h : n < 2 ^ 53) :
    UnpackedFloat.round .binary64 sign n 0 =
      .finite sign (filled n) (-(52 - n.log2 : Nat)) (filled_pos hpos) := by
  have hlog : n.log2 < 53 := (Nat.log2_lt hpos.ne').mpr h
  have hamount : (0 - max ((n.log2 : Int) + 0 - 52) (-1074)).toNat = 52 - n.log2 := by omega
  simp only [UnpackedFloat.round, decreaseExponent, targetExponent_eq, hamount, Nat.shiftLeft_eq]
  rw [Int.zero_sub]
  exact roundWithAccuracy_of_log2 sign (filled_pos hpos) (log2_filled hpos h) (by omega)

theorem shift_mantissa_le (em : ExtendedMantissa) (k : Nat) :
    (em >>> k).mantissa ≤ em.mantissa := by
  change (k.repeat ExtendedMantissa.shiftRightOne em).mantissa ≤ _
  induction k with
  | zero => exact Nat.le_refl _
  | succ k ih => exact Nat.le_trans (Nat.div_le_self _ 2) ih

theorem roundedMantissa_le (em : ExtendedMantissa) : em.roundedMantissa ≤ em.mantissa + 1 := by
  obtain ⟨m, _ | _, _ | _⟩ := em
  all_goals
    simp only [ExtendedMantissa.roundedMantissa, ExtendedMantissa.accuracy,
      Accuracy.roundToNearestEven]
    omega

theorem shiftToTargetExponent_exponent (m : Nat) (e : Int) :
    (shiftToTargetExponent .binary64 m e .exact).2 = max e (max (m.log2 + e - 52) (-1074)) := by
  simp only [shiftToTargetExponent, shiftToExponent, targetExponent_eq]
  omega

theorem isFinite_roundWithAccuracy (sign : Sign) {m : Nat} (h : m ≤ 2 ^ 64) :
    (Float.Model.pack (roundWithAccuracy .binary64 sign m 0 .exact)).unpack.isFinite = true := by
  have hlog {n : Nat} (hn : n < 2 ^ 65) : n.log2 ≤ 64 := by
    by_cases hzero : n = 0
    · simp [hzero]
    · exact Nat.le_of_lt_succ ((Nat.log2_lt hzero).mpr hn)
  have hm : m.log2 ≤ 64 := hlog (Nat.lt_of_le_of_lt h (by decide))
  have hrounded : (shiftToTargetExponent .binary64 m 0 .exact).1.roundedMantissa.log2 ≤ 64 := by
    refine hlog (Nat.lt_of_le_of_lt (roundedMantissa_le _) ?_)
    have hshifted : (shiftToTargetExponent .binary64 m 0 .exact).1.mantissa ≤ m :=
      shift_mantissa_le ⟨m, false, false⟩ _
    omega
  unfold roundWithAccuracy
  dsimp only
  split
  · cases sign <;> rfl
  · refine isFinite_pack sign _ ?_
    rw [shiftToTargetExponent_exponent, shiftToTargetExponent_exponent]
    omega

/-! The values of doubles. -/

theorem unpack_of_ofFloat? {x : Float} {d : Dyad} (h : Dyad.ofFloat? x = some d) :
    (∃ hpos, x.toModel.unpack =
      .finite (if d.negative then .negative else .positive) d.significand d.exponent hpos) ∨
    d.significand = 0 ∧ ∃ sign, x.toModel.unpack = .zero sign := by
  unfold Dyad.ofFloat? at h
  split at h
  · rename_i sign m e hpos hunpack
    cases h
    refine .inl ⟨hpos, hunpack.trans ?_⟩
    cases sign <;> rfl
  · rename_i sign hunpack
    cases h
    exact .inr ⟨rfl, sign, hunpack⟩
  · cases h
  · cases h

theorem shape_of_ofFloat? {x : Float} {d : Dyad} (h : Dyad.ofFloat? x = some d)
    (hne : d.significand ≠ 0) :
    d.significand < 2 ^ 53 ∧ (2 ^ 52 ≤ d.significand ∨ d.exponent = -1074) := by
  obtain ⟨_, hunpack⟩ | ⟨hzero, -⟩ := unpack_of_ofFloat? h
  · exact shape_of_unpack hunpack
  · exact absurd hzero hne

/-- A double that is not zero is told by its value. -/
theorem eq_of_ofFloat? {x y : Float} {d : Dyad} (hx : Dyad.ofFloat? x = some d)
    (hy : Dyad.ofFloat? y = some d) (hne : d.significand ≠ 0) : x = y := by
  obtain ⟨_, hunpack⟩ | ⟨hzero, -⟩ := unpack_of_ofFloat? hx
  · obtain ⟨_, hunpack'⟩ | ⟨hzero, -⟩ := unpack_of_ofFloat? hy
    · have hbits := (unpack_inj_of_valid x.toModel.valid y.toModel.valid).mp
        (hunpack.trans hunpack'.symm)
      exact Float.toBits_inj.mp (UInt64.toBitVec_inj.mp hbits)
    · exact absurd hzero hne
  · exact absurd hzero hne

theorem beq_zero_of_ofFloat? {x : Float} {d : Dyad} (hx : Dyad.ofFloat? x = some d)
    (hzero : d.significand = 0) : (x == 0.0) = true := by
  obtain ⟨hpos, -⟩ | ⟨-, sign, hunpack⟩ := unpack_of_ofFloat? hx
  · exact absurd hzero hpos.ne'
  · change x.toModel.unpack.beq (0.0 : Float).toModel.unpack = true
    rw [hunpack]
    rfl

theorem isFinite_eq_isSome (x : Float) : x.isFinite = (Dyad.ofFloat? x).isSome := by
  unfold Dyad.ofFloat? Float.isFinite Float.Model.isFinite
  cases x.toModel.unpack <;> rfl

theorem isFinite_of_integer? {x : Float} {i : Int} (h : integer? x = some i) :
    x.isFinite = true := by
  obtain ⟨d, hd, -⟩ := Option.bind_eq_some_iff.mp h
  rw [isFinite_eq_isSome, hd, Option.isSome_some]

theorem beq_self_of_isFinite {x : Float} (h : x.isFinite = true) : (x == x) = true := by
  rw [Float.beq_self_iff]
  rintro rfl
  cases h

end Double

namespace Dyad

variable {d : Dyad} {i : Int}

theorem integer?_of_scaled {n k : Nat} (hexponent : d.exponent = -k)
    (hsignificand : d.significand = n * 2 ^ k) : d.integer? = some (d.signed n) := by
  unfold Dyad.integer?
  rw [hexponent, hsignificand]
  by_cases hk : k = 0
  · simp [hk, twoTo]
  · have hneg : ¬(0 : Int) ≤ -k := by omega
    have htwo : twoTo (-(-(k : Int))).toNat = 2 ^ k := by
      rw [Int.neg_neg]
      rfl
    rw [if_neg hneg, htwo, Nat.mul_mod_left, if_pos rfl,
      Nat.mul_div_cancel _ (Nat.two_pow_pos k)]

/-- How a whole value is written: with a power of two to multiply by, or one to divide by. -/
theorem scale_of_integer? (h : d.integer? = some i) :
    ∃ n k : Nat, d.signed n = i ∧
      ((d.exponent = k ∧ n = d.significand * 2 ^ k) ∨
        (d.exponent = -k ∧ d.significand = n * 2 ^ k)) := by
  unfold Dyad.integer? at h
  split at h
  · exact ⟨_, d.exponent.toNat, Option.some.inj h, .inl ⟨by omega, rfl⟩⟩
  split at h
  · rename_i hmod
    refine ⟨_, (-d.exponent).toNat, Option.some.inj h, .inr ⟨by omega, ?_⟩⟩
    exact (Nat.div_mul_cancel (Nat.dvd_of_mod_eq_zero hmod)).symm
  · cases h

theorem signed_eq_iff {n : Nat} (hne : i ≠ 0) :
    d.signed n = i ↔ d.negative = decide (i < 0) ∧ n = i.natAbs := by
  unfold signed
  split
  · rename_i hnegative
    rw [hnegative, Bool.true_eq, decide_eq_true_iff]
    omega
  · rename_i hnegative
    rw [Bool.eq_false_iff.mpr hnegative, Bool.false_eq, decide_eq_false_iff_not]
    omega

theorem significand_eq_zero_iff (h : d.integer? = some i) : d.significand = 0 ↔ i = 0 := by
  obtain ⟨n, k, hsigned, hscale⟩ := scale_of_integer? h
  have hn : n = 0 ↔ i = 0 := by
    unfold signed at hsigned
    split at hsigned <;> omega
  rw [← hn]
  obtain ⟨-, hvalue⟩ | ⟨-, hvalue⟩ := hscale
  · simp [hvalue]
  · simp [hvalue]

/-- The value of a whole number below `2^53`. -/
def ofWhole (i : Int) : Dyad :=
  ⟨i < 0, Double.filled i.natAbs, -(52 - i.natAbs.log2 : Nat)⟩

theorem integer?_ofWhole (hne : i ≠ 0) : (ofWhole i).integer? = some i := by
  have hsigned : (ofWhole i).signed i.natAbs = i := (signed_eq_iff hne).mpr ⟨rfl, rfl⟩
  rw [integer?_of_scaled (d := ofWhole i) rfl rfl, hsigned]

theorem eq_ofWhole {x : Float} (hx : ofFloat? x = some d) (hi : d.integer? = some i) (hne : i ≠ 0)
    (h : i.natAbs < 2 ^ 53) : d = ofWhole i := by
  obtain ⟨n, k, hsigned, hscale⟩ := scale_of_integer? hi
  obtain ⟨hnegative, rfl⟩ := (signed_eq_iff hne).mp hsigned
  have hn : i.natAbs ≠ 0 := Int.natAbs_ne_zero.mpr hne
  have hm : d.significand ≠ 0 := mt (significand_eq_zero_iff hi).mp hne
  obtain ⟨hlt, hfull⟩ := Double.shape_of_ofFloat? hx hm
  have hdivided : d.exponent = -k ∧ d.significand = i.natAbs * 2 ^ k := by
    obtain ⟨hk, hvalue⟩ | hdivided := hscale
    · have hge : 2 ^ 52 ≤ d.significand := by omega
      have hzero : k = 0 := by
        refine Nat.eq_zero_of_not_pos fun hpos => ?_
        have hmul := Nat.mul_le_mul hge (Nat.le_self_pow hpos.ne' 2)
        omega
      subst hzero
      exact ⟨by omega, by omega⟩
    · exact hdivided
  obtain ⟨hk, hvalue⟩ := hdivided
  have hlog : d.significand.log2 = 52 := by
    have hle : 2 ^ k ≤ i.natAbs * 2 ^ k := Nat.le_mul_of_pos_left _ (Nat.pos_of_ne_zero hn)
    have hpow : 2 ^ k < 2 ^ 53 := Nat.lt_of_le_of_lt hle (hvalue ▸ hlt)
    have hsmall : k < 53 := (Nat.pow_lt_pow_iff_right (by decide)).mp hpow
    exact (Nat.log2_eq_iff hm).mpr ⟨by omega, hlt⟩
  have hamount : k = 52 - i.natAbs.log2 := by
    rw [hvalue, log2_mul_two_pow hn] at hlog
    omega
  subst hamount
  obtain ⟨negative, significand, exponent⟩ := d
  exact Dyad.mk.injEq .. ▸ ⟨hnegative, hvalue, hk⟩

end Dyad

namespace Double

variable {x : Float} {i : Int}

theorem ofFloat?_ofInt (hne : i ≠ 0) (h : i.natAbs < 2 ^ 53) :
    Dyad.ofFloat? (ofInt i) = some (.ofWhole i) := by
  have hpos : 0 < i.natAbs := Int.natAbs_pos.mpr hne
  have hlog : i.natAbs.log2 < 53 := (Nat.log2_lt hpos.ne').mpr h
  have hunpack : (ofInt i).toModel.unpack =
      .finite (if decide (i < 0) then .negative else .positive) (filled i.natAbs)
        (-(52 - i.natAbs.log2 : Nat)) (filled_pos hpos) := by
    rw [ofInt, Dyad.toFloat]
    dsimp only
    rw [round_of_lt _ hpos h, unpack_pack _ (filled_pos hpos) (log2_filled hpos h) (by omega)
      (by omega)]
  rw [Dyad.ofFloat?, hunpack]
  by_cases hneg : i < 0 <;> simp [hneg, Dyad.ofWhole]

/-- Whole numbers below `2^53` are read back from the doubles that are nearest to them. -/
theorem integer?_ofInt (h : i.natAbs < 2 ^ 53) : integer? (ofInt i) = some i := by
  by_cases hne : i = 0
  · subst hne
    rfl
  · rw [integer?, ofFloat?_ofInt hne h, Option.bind_some, Dyad.integer?_ofWhole hne]

/-- And no other doubles are equal to them, but for the sign of zero. -/
theorem ofInt_beq (hx : integer? x = some i) (h : i.natAbs < 2 ^ 53) : (ofInt i == x) = true := by
  obtain ⟨d, hd, hi⟩ := Option.bind_eq_some_iff.mp hx
  by_cases hne : i = 0
  · subst hne
    have hzero : (ofInt 0 == 0.0) = true := rfl
    have hx : (x == 0.0) = true :=
      beq_zero_of_ofFloat? hd ((Dyad.significand_eq_zero_iff hi).mpr rfl)
    exact PartialEquivBEq.trans hzero (PartialEquivBEq.symm hx)
  · obtain rfl := Dyad.eq_ofWhole hd hi hne h
    have hpos : 0 < i.natAbs := Int.natAbs_pos.mpr hne
    obtain rfl := eq_of_ofFloat? hd (ofFloat?_ofInt hne h) (filled_pos hpos).ne'
    exact beq_self_of_isFinite (isFinite_of_integer? hx)

theorem isFinite_ofInt (h : i.natAbs ≤ 2 ^ 64) : (ofInt i).isFinite = true := by
  by_cases hsmall : i.natAbs < 2 ^ 53
  · exact isFinite_of_integer? (integer?_ofInt hsmall)
  · have hlog : 53 ≤ i.natAbs.log2 := (Nat.le_log2 (by omega)).mpr (by omega)
    have hround (sign : Sign) : UnpackedFloat.round .binary64 sign i.natAbs 0 =
        roundWithAccuracy .binary64 sign i.natAbs 0 .exact := by
      have hamount : (0 - max ((i.natAbs.log2 : Int) + 0 - 52) (-1074)).toNat = 0 := by omega
      simp only [UnpackedFloat.round, decreaseExponent, targetExponent_eq, hamount]
      rfl
    change (Float.Model.pack (UnpackedFloat.round .binary64 _ i.natAbs 0)).unpack.isFinite = true
    rw [hround]
    exact isFinite_roundWithAccuracy _ h

end Double

end Stagewise
