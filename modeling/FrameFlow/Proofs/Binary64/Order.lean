import Mathlib

/-! Binary64 numbers as multiples of the least of them. Numbers that have all their 53 bits are ordered
as these multiples are, and packing and unpacking leaves them as they are. -/
namespace FrameFlow.Binary64

open Float.Model Float.Model.UnpackedFloat

/-- The least positive number has this exponent, as a negative one. -/
@[irreducible]
def lowest : Nat := 1074

theorem lowest_eq : lowest = 1074 := by
  unfold lowest
  rfl

/-- How many times the least number goes into what a binary64 stands for. -/
def units : UnpackedFloat → Int
  | .finite s m e _ => s.apply (m * 2 ^ (e + lowest).toNat : Nat)
  | _ => 0

/-- Zeros, and finite numbers with all 53 bits. -/
inductive Normal : UnpackedFloat → Prop where
  | zero (s : Sign) : Normal (.zero s)
  | finite (s : Sign) {m : Nat} {e : Int} (positive : 0 < m) (low : 2 ^ 52 ≤ m) (high : m < 2 ^ 53)
      (least : -1074 ≤ e) (most : e ≤ 971) : Normal (.finite s m e positive)

theorem Normal.neg {x : UnpackedFloat} (normal : Normal x) : Normal x.neg := by
  cases normal with
  | zero s => exact .zero _
  | finite s positive low high least most => exact .finite _ positive low high least most

theorem apply_neg (s : Sign) (n : Int) : (-s).apply n = -s.apply n := by
  cases s with
  | negative => exact (Int.neg_neg n).symm
  | positive => rfl

theorem units_neg (x : UnpackedFloat) : units x.neg = -units x := by
  cases x with
  | finite s m e positive => exact apply_neg s _
  | _ => rfl

section Order

variable {m m' : Nat} {e e' : Int}

theorem lt_of_exponent_lt (low : 2 ^ 52 ≤ m') (high : m < 2 ^ 53) (least : -1074 ≤ e) (less : e < e') :
    m * 2 ^ (e + lowest).toNat < m' * 2 ^ (e' + lowest).toNat := by
  have bias := lowest_eq
  obtain ⟨k, step⟩ : ∃ k, (e' + lowest).toNat = (e + lowest).toNat + (k + 1) :=
    ⟨(e' - e).toNat - 1, by omega⟩
  have shorter : m < m' * 2 ^ (k + 1) := by
    have double : 2 ^ 52 * 2 ≤ m' * 2 ^ (k + 1) :=
      Nat.mul_le_mul low (Nat.pow_succ' ▸ Nat.le_mul_of_pos_right 2 (Nat.two_pow_pos k))
    omega
  rw [step, Nat.pow_add, Nat.mul_left_comm, Nat.mul_comm (2 ^ _)]
  exact Nat.mul_lt_mul_of_pos_right shorter (Nat.two_pow_pos _)

/-- Numbers with all their bits are compared by their exponents, and then by their bits. -/
theorem compare_scaled (low : 2 ^ 52 ≤ m) (high : m < 2 ^ 53) (least : -1074 ≤ e)
    (low' : 2 ^ 52 ≤ m') (high' : m' < 2 ^ 53) (least' : -1074 ≤ e') :
    (compare e e').then (compare m m') =
      compare ((m * 2 ^ (e + lowest).toNat : Nat) : Int) ((m' * 2 ^ (e' + lowest).toNat : Nat) : Int) := by
  rcases lt_trichotomy e e' with less | rfl | more
  · rw [compare_lt_iff_lt.2 less,
      compare_lt_iff_lt.2 (Int.ofNat_lt.2 (lt_of_exponent_lt low' high least less))]
    rfl
  · have positive := Nat.two_pow_pos (e + lowest).toNat
    rw [compare_eq_iff_eq.2 rfl]
    show compare m m' = _
    rcases lt_trichotomy m m' with less | rfl | more
    · have scaled := Int.ofNat_lt.2 (Nat.mul_lt_mul_of_pos_right less positive)
      rw [compare_lt_iff_lt.2 less, compare_lt_iff_lt.2 scaled]
    · rw [compare_eq_iff_eq.2 rfl, compare_eq_iff_eq.2 rfl]
    · have scaled := Int.ofNat_lt.2 (Nat.mul_lt_mul_of_pos_right more positive)
      rw [compare_gt_iff_gt.2 more, compare_gt_iff_gt.2 scaled]
  · rw [compare_gt_iff_gt.2 more,
      compare_gt_iff_gt.2 (Int.ofNat_lt.2 (lt_of_exponent_lt low high' least' more))]
    rfl

end Order

theorem compare_neg_swap (a b : Int) : (compare a b).swap = compare (-a) (-b) := by
  rcases lt_trichotomy a b with less | rfl | more
  · rw [compare_lt_iff_lt.2 less, compare_gt_iff_gt.2 (Int.neg_lt_neg less)]
    rfl
  · rw [compare_eq_iff_eq.2 rfl, compare_eq_iff_eq.2 rfl]
    rfl
  · rw [compare_gt_iff_gt.2 more, compare_lt_iff_lt.2 (Int.neg_lt_neg more)]
    rfl

theorem compare_eq {x y : UnpackedFloat} (normal : Normal x) (normal' : Normal y) :
    x.compare y = some (compare (units x) (units y)) := by
  have scaled {m : Nat} (e : Int) (positive : 0 < m) : 0 < ((m * 2 ^ (e + lowest).toNat : Nat) : Int) :=
    Int.natCast_pos.2 (Nat.mul_pos positive (Nat.two_pow_pos _))
  cases normal with
  | zero s =>
    cases normal' with
    | zero s' => rfl
    | @finite s' m' e' positive' low' high' least' most' =>
      cases s' with
      | positive => exact congrArg some (compare_lt_iff_lt.2 (scaled e' positive')).symm
      | negative =>
        have below := Int.neg_neg_of_pos (scaled e' positive')
        exact congrArg some (compare_gt_iff_gt.2 below).symm
  | @finite s m e positive low high least most =>
    cases normal' with
    | zero s' =>
      cases s with
      | positive => exact congrArg some (compare_gt_iff_gt.2 (scaled e positive)).symm
      | negative =>
        have below := Int.neg_neg_of_pos (scaled e positive)
        exact congrArg some (compare_lt_iff_lt.2 below).symm
    | @finite s' m' e' positive' low' high' least' most' =>
      have same := compare_scaled low high least low' high' least'
      cases s with
      | positive =>
        cases s' with
        | positive => exact congrArg some same
        | negative =>
          have below := Int.neg_neg_of_pos (scaled e' positive')
          exact congrArg some (compare_gt_iff_gt.2 (below.trans (scaled e positive))).symm
      | negative =>
        cases s' with
        | positive =>
          have below := Int.neg_neg_of_pos (scaled e positive)
          exact congrArg some (compare_lt_iff_lt.2 (below.trans (scaled e' positive'))).symm
        | negative =>
          show some ((compare e e').then (compare m m')).swap = some (compare (-_) (-_))
          rw [same, compare_neg_swap]

theorem lt_iff {x y : Float} (normal : Normal x.toModel.unpack) (normal' : Normal y.toModel.unpack) :
    x < y ↔ units x.toModel.unpack < units y.toModel.unpack := by
  show Float.lt x y = true ↔ _
  rw [Float.lt, decide_eq_true_iff]
  show UnpackedFloat.lt _ _ = true ↔ _
  simp [UnpackedFloat.lt, compare_eq normal normal', compare_lt_iff_lt]

theorem le_iff {x y : Float} (normal : Normal x.toModel.unpack) (normal' : Normal y.toModel.unpack) :
    x ≤ y ↔ units x.toModel.unpack ≤ units y.toModel.unpack := by
  show Float.le x y = true ↔ _
  rw [Float.le, decide_eq_true_iff]
  show UnpackedFloat.le _ _ = true ↔ _
  simp [UnpackedFloat.le, compare_eq normal normal', Std.isLE_compare]

section Packing

variable {m : Nat} {e : Int}

theorem log2_eq (low : 2 ^ 52 ≤ m) (high : m < 2 ^ 53) : m.log2 = 52 :=
  (Nat.log2_eq_iff (by omega)).2 ⟨low, high⟩

theorem pack_finite (s : Sign) (positive : 0 < m) (low : 2 ^ 52 ≤ m) (high : m < 2 ^ 53)
    (most : e ≤ 971) :
    UnpackedFloat.pack .binary64 (.finite s m e positive) =
      packComponents .binary64 s (BitVec.ofNat 11 (e + 1075).toNat) (BitVec.ofNat 52 m) := by
  have biased : (e + Float.Model.Format.binary64.exponentBias +
      Float.Model.Format.binary64.mantissaBitsWithoutImplicit).toNat = (e + 1075).toNat := by
    show (e + (2 ^ (11 - 1) - 1 : Nat) + (52 : Nat)).toNat = (e + 1075).toNat
    omega
  rw [UnpackedFloat.pack]
  simp only [log2_eq low high, biased]
  rw [if_neg (by omega), if_pos (by simp [Float.Model.Format.mantissaBits])]

theorem unpack_packComponents (s : Sign) (positive : 0 < m) (low : 2 ^ 52 ≤ m) (high : m < 2 ^ 53)
    (least : -1074 ≤ e) (most : e ≤ 971) :
    UnpackedFloat.unpack .binary64
      (packComponents .binary64 s (BitVec.ofNat 11 (e + 1075).toNat) (BitVec.ofNat 52 m)) =
      .finite s m e positive := by
  have word : (BitVec.ofNat 11 (e + 1075).toNat).toNat = (e + 1075).toNat := by
    rw [BitVec.toNat_ofNat]
    omega
  have finite : BitVec.ofNat 11 (e + 1075).toNat ≠ -1#11 := fun same => by
    have value := word ▸ congrArg BitVec.toNat same
    simp at value
    omega
  have long : BitVec.ofNat 11 (e + 1075).toNat ≠ 0#11 := fun same => by
    have value := word ▸ congrArg BitVec.toNat same
    simp at value
    omega
  have leading : (1#1 ++ BitVec.ofNat 52 m).toNat = m := by
    rw [BitVec.toNat_append, ← Nat.shiftLeft_add_eq_or_of_lt (BitVec.isLt _), BitVec.toNat_ofNat]
    simp [Nat.shiftLeft_eq]
    omega
  have bias : ((Float.Model.Format.binary64.exponentBias : Nat) : Int) = 1023 := rfl
  rw [UnpackedFloat.unpack]
  simp only [unpackMantissa_packComponents, unpackExponent_packComponents, unpackSign_packComponents,
    Sign.ofBitVec_toBitVec]
  rw [if_neg finite, if_neg long]
  simp [leading, word, bias]
  omega

end Packing

/-- What is packed and has all its bits is found again. -/
theorem unpack_pack {x : UnpackedFloat} (normal : Normal x) : (Float.Model.pack x).unpack = x := by
  cases normal with
  | zero s => exact unpack_packedZero
  | finite s positive low high least most =>
    show UnpackedFloat.unpack _ (UnpackedFloat.pack _ _) = _
    rw [pack_finite s positive low high most, unpack_packComponents s positive low high least most]

end FrameFlow.Binary64
