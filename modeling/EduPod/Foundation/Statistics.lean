import Mathlib

/-! # Means, deviations and scores between zero and one

A score is one minus a ratio, cut off at zero. It is at most one exactly when the ratio is not
negative. Scores that are weighted and rounded stay within their weight.
-/
namespace EduPod.Statistics
variable {F : Type*} [Field F]

def mean (xs : List F) : F := xs.sum / xs.length

/-- The mean squared distance from `m`. -/
def varianceAbout (m : F) (xs : List F) : F := (xs.map fun x => (x - m) ^ 2).sum / xs.length

variable [LinearOrder F] [IsStrictOrderedRing F]

theorem mean_nonneg {xs : List F} (h : ∀ x ∈ xs, 0 ≤ x) : 0 ≤ mean xs :=
  div_nonneg (List.sum_nonneg h) (Nat.cast_nonneg _)

theorem varianceAbout_nonneg (m : F) (xs : List F) : 0 ≤ varianceAbout m xs := by
  refine div_nonneg (List.sum_nonneg fun y hy => ?_) (Nat.cast_nonneg _)
  obtain ⟨x,-,rfl⟩ := List.mem_map.mp hy
  exact sq_nonneg _

/-- The mean of scores is a score. -/
theorem mean_mem_unit {xs : List F} (h : ∀ x ∈ xs, x ∈ Set.Icc (0 : F) 1) : mean xs ∈ Set.Icc (0 : F) 1 := by
  refine ⟨mean_nonneg fun x hx => (h x hx).1,div_le_one_of_le₀ ?_ (Nat.cast_nonneg _)⟩
  have hsum := List.sum_le_card_nsmul xs 1 fun x hx => (h x hx).2
  rwa [nsmul_eq_mul,mul_one] at hsum

/-- The share of the elements that pass is a score. -/
theorem share_mem_unit {α : Type*} (p : α → Bool) (xs : List α) :
    ((xs.countP p : F) / xs.length) ∈ Set.Icc (0 : F) 1 := by
  refine ⟨div_nonneg (Nat.cast_nonneg _) (Nat.cast_nonneg _),div_le_one_of_le₀ ?_ (Nat.cast_nonneg _)⟩
  exact_mod_cast List.countP_le_length

theorem cutOff_mem_unit_iff {x : F} : max 0 (1 - x) ∈ Set.Icc (0 : F) 1 ↔ 0 ≤ x := by
  rw [Set.mem_Icc,max_le_iff]
  constructor
  · rintro ⟨-,-,hle⟩
    linarith
  · intro hx
    exact ⟨le_max_left _ _,zero_le_one,by linarith⟩

theorem one_mem_unit : (1 : F) ∈ Set.Icc (0 : F) 1 := ⟨zero_le_one,le_rfl⟩

/-! ## Rounding with halves to even -/

variable [FloorRing F]

/-- To the nearest integer, a half to the even one. -/
def roundHalfEven (x : F) : ℤ :=
  let low := ⌊x⌋
  if x - low < low + 1 - x then low
  else if low + 1 - x < x - low then low + 1
  else if low % 2 = 0 then low else low + 1

theorem roundHalfEven_cases (x : F) : roundHalfEven x = ⌊x⌋ ∨ roundHalfEven x = ⌊x⌋ + 1 ∧ 1 / 2 ≤ x - ⌊x⌋ := by
  unfold roundHalfEven
  dsimp only
  split_ifs with hlow hhigh heven
  · exact Or.inl rfl
  · exact Or.inr ⟨rfl,by linarith⟩
  · exact Or.inl rfl
  · exact Or.inr ⟨rfl,by linarith⟩

@[simp] theorem roundHalfEven_intCast (n : ℤ) : roundHalfEven (n : F) = n := by
  rcases roundHalfEven_cases (n : F) with h | ⟨-,hhalf⟩
  · rw [h,Int.floor_intCast]
  · rw [Int.floor_intCast,sub_self] at hhalf
    exact absurd hhalf (by norm_num)

/-- Rounding does not leave an interval with integer ends. -/
theorem roundHalfEven_mem {x : F} {a b : ℤ} (ha : (a : F) ≤ x) (hb : x ≤ b) :
    a ≤ roundHalfEven x ∧ roundHalfEven x ≤ b := by
  have hlow : a ≤ ⌊x⌋ := Int.le_floor.mpr ha
  have hle : ⌊x⌋ ≤ b := by
    have hfloor := (Int.floor_le x).trans hb
    exact_mod_cast hfloor
  rcases roundHalfEven_cases x with h | ⟨h,hhalf⟩
  · rw [h]
    exact ⟨hlow,hle⟩
  · have hlt : ⌊x⌋ < b := by
      have hstrict : (⌊x⌋ : F) < b := by linarith
      exact_mod_cast hstrict
    rw [h]
    omega

/-- A weighted score, rounded, is between zero and the weight. -/
theorem round_weighted_mem {x : F} (hx : x ∈ Set.Icc (0 : F) 1) {w : ℤ} (hw : 0 ≤ w) :
    0 ≤ roundHalfEven (x * w) ∧ roundHalfEven (x * w) ≤ w := by
  have hwF : (0 : F) ≤ w := by exact_mod_cast hw
  refine roundHalfEven_mem ?_ (mul_le_of_le_one_left hwF hx.2)
  rw [Int.cast_zero]
  exact mul_nonneg hx.1 hwF

end EduPod.Statistics
