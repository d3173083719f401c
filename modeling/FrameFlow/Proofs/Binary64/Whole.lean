import FrameFlow.Proofs.Binary64.Order

/-! Whole numbers as binary64 numbers. One of up to 53 bits is held as it is and a longer one is rounded.
Rounding moves none past a whole number of 53 bits, so that a comparison with such a number has the same
answer before and after. -/
namespace FrameFlow.Binary64

open Float.Model Float.Model.UnpackedFloat

section Rounding

variable {m : Nat} {e : Int}

theorem mantissa_shiftRight (em : ExtendedMantissa) (k : Nat) :
    (em >>> k).mantissa = em.mantissa / 2 ^ k := by
  induction k with
  | zero => exact (Nat.div_one _).symm
  | succ k ih =>
    show (em >>> k).mantissa / 2 = _
    rw [ih, Nat.div_div_eq_div_mul, Nat.pow_succ]

theorem shiftRight_exact (m k : Nat) :
    (⟨m * 2 ^ k, false, false⟩ : ExtendedMantissa) >>> k = ⟨m, false, false⟩ := by
  induction k generalizing m with
  | zero => exact congrArg (ExtendedMantissa.mk · false false) (Nat.mul_one m)
  | succ k ih =>
    show ((⟨m * 2 ^ (k + 1), false, false⟩ : ExtendedMantissa) >>> k).shiftRightOne = _
    rw [Nat.pow_succ', ← Nat.mul_assoc, ih]
    simp [ExtendedMantissa.shiftRightOne]

theorem roundedMantissa_cases (em : ExtendedMantissa) :
    em.roundedMantissa = em.mantissa ∨ em.roundedMantissa = em.mantissa + 1 := by
  obtain ⟨m, round, sticky⟩ := em
  cases round <;> cases sticky <;>
    simp [ExtendedMantissa.roundedMantissa, ExtendedMantissa.accuracy, Accuracy.roundToNearestEven]
  omega

theorem targetExponent_eq (t : Int) :
    Float.Model.Format.binary64.targetExponent t = max (t - 53) (-1074) := rfl

theorem log2_mul_two_pow {n : Nat} (positive : 0 < n) (k : Nat) : (n * 2 ^ k).log2 = n.log2 + k := by
  refine (Nat.log2_eq_iff (Nat.mul_pos positive (Nat.two_pow_pos k)).ne').2 ⟨?_, ?_⟩
  · rw [Nat.pow_add]
    exact Nat.mul_le_mul_right _ (Nat.log2_self_le positive.ne')
  · rw [Nat.add_right_comm, Nat.pow_add]
    exact Nat.mul_lt_mul_of_pos_right Nat.lt_log2_self (Nat.two_pow_pos k)

/-- A number of 53 bits is found again whatever the zeros behind it. -/
theorem shiftToTargetExponent_exact (low : 2 ^ 52 ≤ m) (high : m < 2 ^ 53) (k : Nat)
    (least : -1074 ≤ e + k) :
    shiftToTargetExponent .binary64 (m * 2 ^ k) e .exact = (⟨m, false, false⟩, e + k) := by
  have amount :
      (Float.Model.Format.binary64.targetExponent (totalExponent (m * 2 ^ k) e) - e).toNat = k := by
    rw [targetExponent_eq, totalExponent, log2_mul_two_pow (by omega), log2_eq low high]
    omega
  simp only [shiftToTargetExponent, shiftToExponent, amount, ExtendedMantissa.ofMantissaAndAccuracy,
    shiftRight_exact]

/-- What comes of the two shifts of a rounding. -/
theorem roundWithAccuracy_eq (s : Sign) {m' : Nat} {e' first : Int} {em : ExtendedMantissa}
    (positive : 0 < m') (shifted : shiftToTargetExponent .binary64 m e .exact = (em, first))
    (again : shiftToTargetExponent .binary64 em.roundedMantissa first .exact = (⟨m', false, false⟩, e')) :
    roundWithAccuracy .binary64 s m e .exact = .finite s m' e' positive := by
  simp only [roundWithAccuracy, shifted, again]
  exact dif_neg positive.ne'

theorem shiftToTargetExponent_self (low : 2 ^ 52 ≤ m) (high : m < 2 ^ 53) (least : -1074 ≤ e) :
    shiftToTargetExponent .binary64 m e .exact = (⟨m, false, false⟩, e) := by
  simpa using shiftToTargetExponent_exact low high 0 (e := e) (by omega)

theorem roundWithAccuracy_exact (s : Sign) (positive : 0 < m) (low : 2 ^ 52 ≤ m) (high : m < 2 ^ 53)
    (k : Nat) (least : -1074 ≤ e + k) :
    roundWithAccuracy .binary64 s (m * 2 ^ k) e .exact = .finite s m (e + k) positive :=
  roundWithAccuracy_eq s positive (shiftToTargetExponent_exact low high k least)
    (shiftToTargetExponent_self low high least)

/-- Where a number is rounded to 53 bits, they stand for no less than its first 53 bits. -/
theorem roundWithAccuracy_long (s : Sign) {k : Nat} (bits : m.log2 = 52 + k) (least : -1074 ≤ e + k) :
    ∃ (m' : Nat) (e' : Int) (positive : 0 < m'),
      roundWithAccuracy .binary64 s m e .exact = .finite s m' e' positive ∧
      2 ^ 52 ≤ m' ∧ m' < 2 ^ 53 ∧ e + k ≤ e' ∧ e' ≤ e + k + 1 := by
  have nonzero : m ≠ 0 := by
    rintro rfl
    simp at bits
    omega
  obtain ⟨low, high⟩ := (Nat.log2_eq_iff nonzero).1 bits
  have low' : 2 ^ 52 ≤ m / 2 ^ k := by
    rwa [Nat.le_div_iff_mul_le (Nat.two_pow_pos k), ← Nat.pow_add]
  have high' : m / 2 ^ k < 2 ^ 53 := by
    rwa [Nat.div_lt_iff_lt_mul (Nat.two_pow_pos k), ← Nat.pow_add, Nat.add_right_comm 52 1 k]
  obtain ⟨em, is_em⟩ : ∃ em, (⟨m, false, false⟩ : ExtendedMantissa) >>> k = em := ⟨_, rfl⟩
  have shifted : shiftToTargetExponent .binary64 m e .exact = (em, e + k) := by
    have amount : (Float.Model.Format.binary64.targetExponent (totalExponent m e) - e).toNat = k := by
      rw [targetExponent_eq, totalExponent, bits]
      omega
    simp only [shiftToTargetExponent, shiftToExponent, amount, ExtendedMantissa.ofMantissaAndAccuracy,
      is_em]
  have quotient : em.mantissa = m / 2 ^ k := is_em ▸ mantissa_shiftRight ⟨m, false, false⟩ k
  have rounded := quotient ▸ roundedMantissa_cases em
  rcases Nat.lt_or_ge em.roundedMantissa (2 ^ 53) with short | long
  · have low'' : 2 ^ 52 ≤ em.roundedMantissa := by omega
    have positive : 0 < em.roundedMantissa := by omega
    exact ⟨em.roundedMantissa, e + k, positive,
      roundWithAccuracy_eq s positive shifted (shiftToTargetExponent_self low'' short least),
      low'', short, by omega, by omega⟩
  · have carry : em.roundedMantissa = 2 ^ 52 * 2 ^ 1 := by omega
    have again : shiftToTargetExponent .binary64 em.roundedMantissa (e + k) .exact =
        (⟨2 ^ 52, false, false⟩, e + k + 1) :=
      carry ▸ shiftToTargetExponent_exact (by omega) (by omega) 1 (by omega)
    exact ⟨2 ^ 52, e + k + 1, by decide, roundWithAccuracy_eq s (by decide) shifted again, by omega,
      by omega, by omega, by omega⟩

end Rounding

section Whole

variable {n : Nat}

theorem exists_ofNat_eq (positive : 0 < n) (short : n < 2 ^ 53) :
    ∃ (k : Nat) (held : 0 < n * 2 ^ k), k ≤ 52 ∧ 2 ^ 52 ≤ n * 2 ^ k ∧ n * 2 ^ k < 2 ^ 53 ∧
      UnpackedFloat.ofNat .binary64 n = .finite .positive (n * 2 ^ k) (-k) held := by
  have bits := (Nat.log2_lt positive.ne').2 short
  have low := Nat.log2_self_le positive.ne'
  have high := Nat.lt_log2_self (n := n)
  obtain ⟨k, is_k⟩ : ∃ k, k = 52 - n.log2 := ⟨_, rfl⟩
  have low' : 2 ^ 52 ≤ n * 2 ^ k := by
    rw [show 52 = n.log2 + k by omega, Nat.pow_add]
    exact Nat.mul_le_mul_right _ low
  have high' : n * 2 ^ k < 2 ^ 53 := by
    rw [show 53 = n.log2 + 1 + k by omega, Nat.pow_add]
    exact Nat.mul_lt_mul_of_pos_right high (Nat.two_pow_pos k)
  have held : 0 < n * 2 ^ k := by omega
  refine ⟨k, held, by omega, low', high', ?_⟩
  have amount : ((0 : Int) - Float.Model.Format.binary64.targetExponent (totalExponent n 0)).toNat = k := by
    rw [targetExponent_eq, totalExponent]
    omega
  have above : compare (n : Int) 0 = .gt := compare_gt_iff_gt.2 (by omega)
  have rounded := roundWithAccuracy_exact .positive (e := -(k : Int)) held low' high' 0 (by omega)
  simp only [UnpackedFloat.ofNat, UnpackedFloat.ofInt, UnpackedFloat.normalize, above, UnpackedFloat.round,
    Int.toNat_natCast, decreaseExponent, amount, Nat.shiftLeft_eq]
  simpa using rounded

/-- A whole number of up to 53 bits is held as it is. -/
theorem exists_unpack_ofNat (positive : 0 < n) (short : n < 2 ^ 53) :
    ∃ (k : Nat) (held : 0 < n * 2 ^ k), k ≤ 52 ∧ 2 ^ 52 ≤ n * 2 ^ k ∧ n * 2 ^ k < 2 ^ 53 ∧
      (Float.ofNat n).toModel.unpack = .finite .positive (n * 2 ^ k) (-k) held := by
  obtain ⟨k, held, small, low, high, made⟩ := exists_ofNat_eq positive short
  refine ⟨k, held, small, low, high, ?_⟩
  have word : n.toUInt64.toNat = n := by
    rw [Nat.toUInt64_eq, UInt64.toNat_ofNat']
    omega
  have one : (Float.ofBits 4607182418800017408).toModel.unpack =
      .finite .positive (2 ^ 52) (-52) (by decide) := rfl
  have fast : Float.ofNat n = n.toUInt64.toFloat * Float.ofBits 4607182418800017408 := by
    show Float.ofScientific n false 0 = _
    rw [Float.ofScientific, dif_pos ⟨short, by decide⟩]
    rfl
  have factor : n.toUInt64.toFloat.toModel.unpack = .finite .positive (n * 2 ^ k) (-k) held := by
    show (Float.Model.pack (UnpackedFloat.ofNat .binary64 n.toUInt64.toNat)).unpack = _
    rw [word, made, unpack_pack (.finite _ held low high (by omega) (by omega))]
  have product := roundWithAccuracy_exact .positive (e := -(k : Int) + -52) held low high 52 (by omega)
  rw [fast]
  show (Float.Model.pack (UnpackedFloat.mul _ _ _)).unpack = _
  rw [factor, one]
  show (Float.Model.pack (roundWithAccuracy _ _ _ _ _)).unpack = _
  have exponent : -(k : Int) + -52 + (52 : Nat) = -k := by omega
  rw [exponent] at product
  rw [show Sign.positive * Sign.positive = Sign.positive from rfl, product,
    unpack_pack (.finite _ held low high (by omega) (by omega))]

/-- A longer one is rounded. -/
theorem exists_unpack_ofNat_long (long : 2 ^ 53 ≤ n) (bound : n < 2 ^ 64) :
    ∃ (m : Nat) (e : Int) (positive : 0 < m), 2 ^ 52 ≤ m ∧ m < 2 ^ 53 ∧ 1 ≤ e ∧ e ≤ 971 ∧
      (Float.ofNat n).toModel.unpack = .finite .positive m e positive := by
  have positive : 0 < n := by omega
  have slow : (Float.ofNat n).toModel = Float.Model.pack (UnpackedFloat.ofScientific .binary64 n 0) := by
    show (Float.ofScientific n false 0).toModel = _
    rw [Float.ofScientific, dif_neg (by omega)]
    rfl
  have product : UnpackedFloat.ofScientific .binary64 n 0 =
      roundWithAccuracy .binary64 .positive (n * 2 ^ 53) (-53) .exact := by
    have powers : (0 : Int) < 2 ^ Float.Model.Format.binary64.exponentBits := by decide
    have slots : Float.Model.Format.binary64.mantissaBits = 53 := rfl
    have signs : Sign.positive * Sign.positive = Sign.positive := rfl
    rw [UnpackedFloat.ofScientific, dif_neg positive.ne', if_neg (by decide), if_neg (by omega),
      if_pos (by decide)]
    simp only [UnpackedFloat.mul, slots, signs, Nat.shiftLeft_eq, Int.toNat_zero, Nat.pow_zero, Nat.mul_one]
    rfl
  obtain ⟨k, is_k⟩ : ∃ k, n.log2 = 53 + k :=
    ⟨n.log2 - 53, by have := (Nat.le_log2 positive.ne').2 long; omega⟩
  have small : k ≤ 10 := by
    have := (Nat.log2_lt positive.ne').2 bound
    omega
  have bits : (n * 2 ^ 53).log2 = 52 + (54 + k) := by
    rw [log2_mul_two_pow positive, is_k]
    omega
  obtain ⟨m, e, held, rounded, low', high', least, most⟩ :=
    roundWithAccuracy_long .positive (e := -53) bits (by omega)
  refine ⟨m, e, held, low', high', by omega, by omega, ?_⟩
  rw [slow, product, rounded, unpack_pack (.finite _ held low' high' (by omega) (by omega))]

/-- What a binary64 amounts to that is made of a whole number. -/
structure MadeOf (n : Int) (x : UnpackedFloat) : Prop where
  normal : Normal x
  short : n.natAbs < 2 ^ 53 → units x = n * 2 ^ lowest
  long : 2 ^ 53 ≤ n → ((2 ^ 53 * 2 ^ lowest : Nat) : Int) ≤ units x
  negative : n ≤ -2 ^ 53 → units x ≤ -((2 ^ 53 * 2 ^ lowest : Nat) : Int)

theorem MadeOf.neg {n : Int} {x : UnpackedFloat} (made : MadeOf n x) : MadeOf (-n) x.neg where
  normal := made.normal.neg
  short few := by rw [units_neg, made.short (by omega), Int.neg_mul]
  long large := by
    have := made.negative (by omega)
    rw [units_neg]
    omega
  negative large := by
    have := made.long (by omega)
    rw [units_neg]
    omega

theorem madeOf_ofNat (bound : n < 2 ^ 64) : MadeOf n (Float.ofNat n).toModel.unpack := by
  rcases Nat.eq_zero_or_pos n with rfl | positive
  · exact ⟨.zero .positive, fun _ => (Int.zero_mul _).symm, by omega, by omega⟩
  rcases Nat.lt_or_ge n (2 ^ 53) with short | long
  · obtain ⟨k, held, small, low, high, made⟩ := exists_unpack_ofNat positive short
    rw [made]
    refine ⟨.finite _ held low high (by omega) (by omega), fun _ => ?_, by omega, by omega⟩
    have scale : n * 2 ^ k * 2 ^ (-(k : Int) + lowest).toNat = n * 2 ^ lowest := by
      have bias := lowest_eq
      rw [Nat.mul_assoc, ← Nat.pow_add, show k + (-(k : Int) + lowest).toNat = lowest by omega]
    simp only [units, Sign.apply, scale, Int.natCast_mul, Int.natCast_pow, Nat.cast_ofNat]
  · obtain ⟨m, e, held, low, high, least, most, made⟩ := exists_unpack_ofNat_long long bound
    rw [made]
    refine ⟨.finite _ held low high (by omega) most, by omega, fun _ => Int.ofNat_le.2 ?_, by omega⟩
    rw [show (e + lowest).toNat = (e - 1).toNat + 1 + lowest by omega, Nat.pow_add, ← Nat.mul_assoc,
      Nat.pow_succ 2 52]
    exact Nat.mul_le_mul_right _
      (Nat.mul_le_mul low (Nat.pow_succ' ▸ Nat.le_mul_of_pos_right 2 (Nat.two_pow_pos _)))

theorem madeOf_ofInt {n : Int} (bound : n.natAbs < 2 ^ 64) : MadeOf n (Float.ofInt n).toModel.unpack := by
  cases n with
  | ofNat n => exact madeOf_ofNat bound
  | negSucc n =>
    have made := (madeOf_ofNat (n := n + 1) bound).neg
    show MadeOf (-((n + 1 : Nat) : Int)) (Float.Model.pack (Float.ofNat (n + 1)).toModel.unpack.neg).unpack
    rwa [unpack_pack made.normal]

/-- Rounding moves no whole number past one of 53 bits. -/
theorem units_lt_iff {a b : Int} {x y : UnpackedFloat} (of_a : MadeOf a x) (of_b : MadeOf b y)
    (few : b.natAbs < 2 ^ 53) :
    (units x < units y ↔ a < b) ∧ (units y < units x ↔ b < a) := by
  have positive : (0 : Int) < 2 ^ lowest := Int.pow_pos (by omega)
  rw [of_b.short few]
  rcases Nat.lt_or_ge a.natAbs (2 ^ 53) with short | long
  · rw [of_a.short short]
    exact ⟨Int.mul_lt_mul_right positive, Int.mul_lt_mul_right positive⟩
  have below : b * 2 ^ lowest < ((2 ^ 53 * 2 ^ lowest : Nat) : Int) :=
    Int.natCast_mul .. ▸ Int.mul_lt_mul_of_pos_right (by omega) positive
  have above : -((2 ^ 53 * 2 ^ lowest : Nat) : Int) < b * 2 ^ lowest :=
    Int.natCast_mul .. ▸ Int.neg_mul .. ▸ Int.mul_lt_mul_of_pos_right (by omega) positive
  rcases Int.le_total 0 a with large | small
  · have := of_a.long (by omega)
    omega
  · have := of_a.negative (by omega)
    omega

end Whole

section Bounds

variable {a b : Int} (bound : a.natAbs < 2 ^ 64) (few : b.natAbs < 2 ^ 53)
include bound few

theorem ofInt_lt_ofInt_iff : Float.ofInt a < Float.ofInt b ↔ a < b := by
  have of_a := madeOf_ofInt bound
  have of_b := madeOf_ofInt (n := b) (by omega)
  exact (lt_iff of_a.normal of_b.normal).trans (units_lt_iff of_a of_b few).1

theorem lt_ofInt_iff : Float.ofInt b < Float.ofInt a ↔ b < a := by
  have of_a := madeOf_ofInt bound
  have of_b := madeOf_ofInt (n := b) (by omega)
  exact (lt_iff of_b.normal of_a.normal).trans (units_lt_iff of_a of_b few).2

theorem ofInt_le_ofInt_iff : Float.ofInt a ≤ Float.ofInt b ↔ a ≤ b := by
  have of_a := madeOf_ofInt bound
  have of_b := madeOf_ofInt (n := b) (by omega)
  rw [le_iff of_a.normal of_b.normal, ← Int.not_lt, (units_lt_iff of_a of_b few).2, Int.not_lt]

end Bounds

end FrameFlow.Binary64
