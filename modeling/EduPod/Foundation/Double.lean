import Mathlib

/-! # Double precision on the rationals

Arithmetic in `binary64` as rational arithmetic that rounds every result to 53 significant bits,
ties to even. Amounts of money stay far from the ends of the exponent range.
-/
namespace EduPod

def roundToEven (x : ℚ) : ℤ :=
  let low := ⌊x⌋
  if x - low < 1 / 2 then low
  else if 1 / 2 < x - low then low + 1
  else if low % 2 = 0 then low else low + 1

/-- The `e` with `2 ^ e ≤ |x| < 2 ^ (e + 1)`. -/
def binaryExponent (x : ℚ) : ℤ :=
  let e : ℤ := (Nat.log2 x.num.natAbs : ℤ) - Nat.log2 x.den
  if |x| < 2 ^ e then e - 1 else e

def toDouble (x : ℚ) : ℚ :=
  if x = 0 then 0
  else
    let unit : ℚ := 2 ^ (binaryExponent x - 52)
    roundToEven (x / unit) * unit

namespace Double
variable {x y exact other : ℚ} {j k : ℕ}

/-! ## Rounding to an integer -/

theorem roundToEven_cases (x : ℚ) : roundToEven x = ⌊x⌋ ∧ x - ⌊x⌋ ≤ 1/2 ∨ roundToEven x = ⌊x⌋ + 1 ∧ 1/2 ≤ x - ⌊x⌋ := by
  unfold roundToEven
  dsimp only
  split_ifs with hlow hhigh heven
  · exact Or.inl ⟨rfl,hlow.le⟩
  · exact Or.inr ⟨rfl,hhigh.le⟩
  · exact Or.inl ⟨rfl,not_lt.mp hhigh⟩
  · exact Or.inr ⟨rfl,not_lt.mp hlow⟩

theorem abs_roundToEven_sub_le (x : ℚ) : |(roundToEven x : ℚ) - x| ≤ 1/2 := by
  have hfloor := Int.floor_le x
  have hfloor' := Int.lt_floor_add_one x
  rw [abs_le]
  rcases roundToEven_cases x with ⟨h,hhalf⟩ | ⟨h,hhalf⟩
  · rw [h]
    constructor <;> linarith
  · rw [h]
    push_cast
    constructor <;> linarith

@[simp] theorem roundToEven_intCast (z : ℤ) : roundToEven z = z := by simp [roundToEven]

theorem roundToEven_mono : Monotone roundToEven := by
  intro x y h
  rcases (Int.floor_le_floor h).lt_or_eq with hlt | heq
  · -- the floors differ, and rounding stays next to the floor
    have hx : roundToEven x ≤ ⌊x⌋ + 1 := by rcases roundToEven_cases x with hx | hx <;> omega
    have hy : ⌊y⌋ ≤ roundToEven y := by rcases roundToEven_cases y with hy | hy <;> omega
    omega
  · have hfrac : x - ⌊x⌋ ≤ y - ⌊x⌋ := by linarith
    unfold roundToEven
    rw [← heq]
    dsimp only
    split_ifs <;> first | omega | linarith

/-! ## The exponent -/

theorem abs_eq_natAbs_div (x : ℚ) : |x| = x.num.natAbs / x.den := by
  nth_rewrite 1 [← Rat.num_div_den x]
  rw [abs_div,Nat.abs_cast,Nat.cast_natAbs,Int.cast_abs]

theorem binaryExponent_spec (hx : x ≠ 0) :
    (2 : ℚ) ^ binaryExponent x ≤ |x| ∧ |x| < 2 ^ (binaryExponent x + 1) := by
  have hnum : x.num.natAbs ≠ 0 := by simpa using hx
  have hnl : (2 : ℚ) ^ x.num.natAbs.log2 ≤ x.num.natAbs := by exact_mod_cast Nat.log2_self_le hnum
  have hnu : (x.num.natAbs : ℚ) < 2 ^ (x.num.natAbs.log2 + 1) := by exact_mod_cast Nat.lt_log2_self
  have hdl : (2 : ℚ) ^ x.den.log2 ≤ x.den := by exact_mod_cast Nat.log2_self_le x.den_nz
  have hdu : (x.den : ℚ) < 2 ^ (x.den.log2 + 1) := by exact_mod_cast Nat.lt_log2_self
  have hpos : (0 : ℚ) < x.den := Nat.cast_pos.mpr x.den_pos
  set e : ℤ := (x.num.natAbs.log2 : ℤ) - x.den.log2 with he
  have hupper : |x| < 2 ^ (e + 1) := by
    rw [abs_eq_natAbs_div,div_lt_iff₀ hpos]
    calc (x.num.natAbs : ℚ) < 2 ^ (x.num.natAbs.log2 + 1) := hnu
      _ = 2 ^ (e + 1) * 2 ^ x.den.log2 := by
        rw [← zpow_natCast,← zpow_natCast,← zpow_add₀ two_ne_zero]
        congr 1
        omega
      _ ≤ 2 ^ (e + 1) * x.den := by gcongr
  have hlower : 2 ^ (e - 1) ≤ |x| := by
    rw [abs_eq_natAbs_div,le_div_iff₀ hpos]
    calc (2 : ℚ) ^ (e - 1) * x.den ≤ 2 ^ (e - 1) * 2 ^ (x.den.log2 + 1) := by gcongr
      _ = 2 ^ x.num.natAbs.log2 := by
        rw [← zpow_natCast,← zpow_natCast,← zpow_add₀ two_ne_zero]
        congr 1
        omega
      _ ≤ x.num.natAbs := hnl
  unfold binaryExponent
  rw [← he]
  dsimp only
  split_ifs with h
  · exact ⟨hlower,by rwa [sub_add_cancel]⟩
  · exact ⟨not_lt.mp h,hupper⟩

theorem binaryExponent_le (hx : 0 < x) (h : x ≤ y) : binaryExponent x ≤ binaryExponent y := by
  have hy : 0 < y := hx.trans_le h
  have hlow := (binaryExponent_spec hx.ne').1
  have hhigh := (binaryExponent_spec hy.ne').2
  rw [abs_of_pos hx] at hlow
  rw [abs_of_pos hy] at hhigh
  have hlt := (zpow_lt_zpow_iff_right₀ (one_lt_two (α := ℚ))).mp ((hlow.trans h).trans_lt hhigh)
  omega

/-! ## Rounding to a double -/

/-- Half the distance from one to the next double. -/
def unitRoundoff : ℚ := 1 / 2 ^ 53

@[simp] theorem toDouble_zero : toDouble 0 = 0 := by simp [toDouble]

theorem toDouble_of_ne_zero (hx : x ≠ 0) :
    toDouble x = roundToEven (x / 2 ^ (binaryExponent x - 52)) * 2 ^ (binaryExponent x - 52) := by
  simp [toDouble,hx]

theorem abs_toDouble_sub_le (x : ℚ) : |toDouble x - x| ≤ unitRoundoff * |x| := by
  rcases eq_or_ne x 0 with rfl | hx
  · simp
  have hspec := (binaryExponent_spec hx).1
  rw [toDouble_of_ne_zero hx]
  set e := binaryExponent x
  have hunit : (0 : ℚ) < 2 ^ (e - 52) := by positivity
  have hsplit : (2 : ℚ) ^ e = 2 ^ (e - 52) * 2 ^ 52 := by
    rw [← zpow_natCast,← zpow_add₀ two_ne_zero]
    congr 1
    omega
  have herror : (roundToEven (x / 2 ^ (e - 52)) : ℚ) * 2 ^ (e - 52) - x =
      (roundToEven (x / 2 ^ (e - 52)) - x / 2 ^ (e - 52)) * 2 ^ (e - 52) := by
    field_simp
  rw [herror,abs_mul,abs_of_pos hunit]
  calc |(roundToEven (x / 2 ^ (e - 52)) : ℚ) - x / 2 ^ (e - 52)| * 2 ^ (e - 52) ≤ 1/2 * 2 ^ (e - 52) := by
        gcongr
        exact abs_roundToEven_sub_le _
    _ = unitRoundoff * 2 ^ e := by
        rw [hsplit,unitRoundoff]
        ring
    _ ≤ unitRoundoff * |x| := by
        gcongr
        unfold unitRoundoff
        positivity

/-- Rounding does not leave the binade. -/
theorem toDouble_bounds (hx : 0 < x) :
    (2 : ℚ) ^ binaryExponent x ≤ toDouble x ∧ toDouble x ≤ 2 ^ (binaryExponent x + 1) := by
  obtain ⟨hlow,hhigh⟩ := binaryExponent_spec hx.ne'
  rw [abs_of_pos hx] at hlow hhigh
  rw [toDouble_of_ne_zero hx.ne']
  set e := binaryExponent x
  have hunit : (0 : ℚ) < 2 ^ (e - 52) := by positivity
  have hsplit : (2 : ℚ) ^ e = ((2 ^ 52 : ℤ) : ℚ) * 2 ^ (e - 52) := by
    rw [Int.cast_pow,Int.cast_ofNat,← zpow_natCast,← zpow_add₀ two_ne_zero]
    congr 1
    omega
  have hsplit' : (2 : ℚ) ^ (e + 1) = ((2 ^ 53 : ℤ) : ℚ) * 2 ^ (e - 52) := by
    rw [zpow_add_one₀ two_ne_zero,hsplit]
    push_cast
    ring
  rw [hsplit] at hlow ⊢
  rw [hsplit'] at hhigh ⊢
  have hl : 2 ^ 52 ≤ roundToEven (x / 2 ^ (e - 52)) := by
    rw [← roundToEven_intCast (2 ^ 52)]
    exact roundToEven_mono ((le_div_iff₀ hunit).mpr hlow)
  have hu : roundToEven (x / 2 ^ (e - 52)) ≤ 2 ^ 53 := by
    rw [← roundToEven_intCast (2 ^ 53)]
    exact roundToEven_mono ((div_le_iff₀ hunit).mpr hhigh.le)
  constructor
  · gcongr
  · gcongr

theorem toDouble_nonneg (hx : 0 ≤ x) : 0 ≤ toDouble x := by
  rcases hx.eq_or_lt with rfl | hpos
  · simp
  · have hpow : (0 : ℚ) < 2 ^ binaryExponent x := by positivity
    exact hpow.le.trans (toDouble_bounds hpos).1

theorem toDouble_mono (hx : 0 ≤ x) (h : x ≤ y) : toDouble x ≤ toDouble y := by
  rcases hx.eq_or_lt with rfl | hpos
  · simpa using toDouble_nonneg h
  have hpos' : 0 < y := hpos.trans_le h
  rcases (binaryExponent_le hpos h).lt_or_eq with hlt | heq
  · calc toDouble x ≤ 2 ^ (binaryExponent x + 1) := (toDouble_bounds hpos).2
      _ ≤ 2 ^ binaryExponent y := zpow_le_zpow_right₀ one_le_two (by omega)
      _ ≤ toDouble y := (toDouble_bounds hpos').1
  · rw [toDouble_of_ne_zero hpos.ne',toDouble_of_ne_zero hpos'.ne',← heq]
    have hround : roundToEven (x / 2 ^ (binaryExponent x - 52)) ≤ roundToEven (y / 2 ^ (binaryExponent x - 52)) :=
      roundToEven_mono (by gcongr)
    gcongr

/-! ## What several roundings add up to -/

/-- `x` is `exact` after at most `k` roundings. -/
def Within (k : ℕ) (exact x : ℚ) : Prop := |x - exact| ≤ ((1 + unitRoundoff) ^ k - 1) * |exact|

theorem within_self (exact : ℚ) : Within 0 exact exact := by simp [Within]

theorem Within.abs_le (h : Within k exact x) : |x| ≤ (1 + unitRoundoff) ^ k * |exact| := by
  have htriangle := abs_sub_abs_le_abs_sub x exact
  unfold Within at h
  linarith

theorem Within.mono (h : Within j exact x) (hle : j ≤ k) : Within k exact x := by
  have hunit : 1 ≤ 1 + unitRoundoff := by norm_num [unitRoundoff]
  have hpow : (1 + unitRoundoff) ^ j ≤ (1 + unitRoundoff) ^ k := by gcongr
  unfold Within at h ⊢
  exact h.trans (by gcongr)

theorem Within.toDouble (h : Within k exact x) : Within (k + 1) exact (toDouble x) := by
  have hround := abs_toDouble_sub_le x
  have hsize : unitRoundoff * |x| ≤ unitRoundoff * ((1 + unitRoundoff) ^ k * |exact|) := by
    gcongr
    · unfold unitRoundoff
      positivity
    · exact h.abs_le
  have htriangle := abs_sub_le (EduPod.toDouble x) x exact
  unfold Within at h ⊢
  calc |EduPod.toDouble x - exact| ≤ unitRoundoff * ((1 + unitRoundoff) ^ k * |exact|) +
        ((1 + unitRoundoff) ^ k - 1) * |exact| := by linarith
    _ = ((1 + unitRoundoff) ^ (k + 1) - 1) * |exact| := by ring

theorem Within.mul (hx : Within j exact x) (hy : Within k other y) : Within (j + k) (exact * other) (x * y) := by
  have hsplit : x * y - exact * other = x * (y - other) + (x - exact) * other := by ring
  have hfirst : |x| * |y - other| ≤ ((1 + unitRoundoff) ^ j * |exact|) * (((1 + unitRoundoff) ^ k - 1) * |other|) :=
    mul_le_mul hx.abs_le hy (abs_nonneg _) ((abs_nonneg _).trans hx.abs_le)
  have hsecond : |x - exact| * |other| ≤ ((1 + unitRoundoff) ^ j - 1) * |exact| * |other| := by
    gcongr
    exact hx
  unfold Within
  rw [hsplit]
  calc |x * (y - other) + (x - exact) * other| ≤ |x| * |y - other| + |x - exact| * |other| := by
        rw [← abs_mul,← abs_mul]
        exact abs_add_le _ _
    _ ≤ (1 + unitRoundoff) ^ j * |exact| * (((1 + unitRoundoff) ^ k - 1) * |other|) +
        ((1 + unitRoundoff) ^ j - 1) * |exact| * |other| := add_le_add hfirst hsecond
    _ = ((1 + unitRoundoff) ^ (j + k) - 1) * |exact * other| := by
        rw [abs_mul]
        ring

end Double

end EduPod
