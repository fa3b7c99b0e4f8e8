import Mathlib

/-! # Rounding to the nearest integer

Halves go up. What is said of sharing a total out in equal rounded parts holds for any unit.
-/
namespace EduPod.Rounding
variable {x : ℚ} {z : ℤ}

def nearest (x : ℚ) : ℤ := ⌊x + 1/2⌋

theorem nearest_eq_iff : nearest x = z ↔ (z : ℚ) - 1/2 ≤ x ∧ x < z + 1/2 := by
  unfold nearest
  rw [Int.floor_eq_iff]
  constructor
  · rintro ⟨hl,hu⟩
    constructor <;> linarith
  · rintro ⟨hl,hu⟩
    constructor <;> linarith

theorem nearest_bounds (x : ℚ) : (nearest x : ℚ) - 1/2 ≤ x ∧ x < nearest x + 1/2 := nearest_eq_iff.mp rfl

@[simp] theorem nearest_intCast (z : ℤ) : nearest z = z := by
  rw [nearest_eq_iff]
  constructor <;> linarith

theorem nearest_mono : Monotone nearest := fun _ _ h => Int.floor_le_floor (by linarith)

/-- No half comes between the two. -/
def SameCell (x y : ℚ) : Prop := ∀ z : ℤ, z + 1/2 ≤ x ↔ z + 1/2 ≤ y

theorem half_le_iff : z + 1/2 ≤ x ↔ z + 1 ≤ nearest x := by
  unfold nearest
  rw [Int.le_floor]
  push_cast
  constructor
  · intro h
    linarith
  · intro h
    linarith

theorem nearest_eq_nearest_iff {y : ℚ} : nearest x = nearest y ↔ SameCell x y := by
  unfold SameCell
  simp only [half_le_iff]
  constructor
  · intro h z
    rw [h]
  · intro h
    have hx := (h (nearest x - 1)).mp (by omega)
    have hy := (h (nearest y - 1)).mpr (by omega)
    omega

/-! ## Rounding a quotient -/

theorem nearest_div (a : ℤ) {m : ℕ} (hm : 0 < m) : nearest (a / m) = a.bdiv m := by
  have hpos : (0 : ℚ) < m := by exact_mod_cast hm
  have hlow : 2 * (m * a.bdiv m) - m ≤ 2 * a := by
    have hle := Int.le_bmod (x := a) hm
    have hsplit := Int.bmod_add_bdiv a m
    omega
  have hhigh : 2 * a < 2 * (m * a.bdiv m) + m := by
    have hlt := Int.bmod_lt (x := a) hm
    have hsplit := Int.bmod_add_bdiv a m
    omega
  have hlow' : (2 * (m * a.bdiv m) - m : ℚ) ≤ 2 * a := by exact_mod_cast hlow
  have hhigh' : (2 * a : ℚ) < 2 * (m * a.bdiv m) + m := by exact_mod_cast hhigh
  rw [nearest_eq_iff,le_div_iff₀ hpos,div_lt_iff₀ hpos]
  constructor
  · linarith
  · linarith

/-- A quotient that is no half can be off by less than half a part of its denominator. -/
theorem nearest_eq_bdiv_of_abs_sub_lt {a : ℤ} {m : ℕ} (hm : 0 < m) (htie : 2 * a.bmod m ≠ -m)
    (h : |x - a / m| < 1 / (2 * m)) : nearest x = a.bdiv m := by
  have hpos : (0 : ℚ) < m := by exact_mod_cast hm
  have hlow : 2 * (m * a.bdiv m) - m + 1 ≤ 2 * a := by
    have hle := Int.le_bmod (x := a) hm
    have hsplit := Int.bmod_add_bdiv a m
    omega
  have hhigh : 2 * a + 1 ≤ 2 * (m * a.bdiv m) + m := by
    have hlt := Int.bmod_lt (x := a) hm
    have hsplit := Int.bmod_add_bdiv a m
    omega
  have hlow' : (2 * (m * a.bdiv m) - m + 1 : ℚ) ≤ 2 * a := by exact_mod_cast hlow
  have hhigh' : (2 * a + 1 : ℚ) ≤ 2 * (m * a.bdiv m) + m := by exact_mod_cast hhigh
  have hscaled : |x * m - a| < 1/2 := by
    have hfactor : x * m - a = (x - a / m) * m := by field_simp
    rw [hfactor,abs_mul,abs_of_pos hpos]
    calc |x - a / m| * m < 1 / (2 * m) * m := by gcongr
      _ = 1/2 := by field_simp
  obtain ⟨hl,hu⟩ := abs_lt.mp hscaled
  rw [nearest_eq_iff]
  constructor
  · refine le_of_mul_le_mul_right ?_ hpos
    linarith
  · refine lt_of_mul_lt_mul_right ?_ hpos.le
    linarith

/-! ## Rounding the parts of a total -/

/-- What rounding takes off, at most half a unit. -/
def remainder (x : ℚ) : ℚ := x - nearest x

theorem sum_remainder (xs : List ℚ) : (xs.map remainder).sum = xs.sum - (xs.map nearest).sum := by
  induction xs with
  | nil => simp
  | cons x xs ih =>
    simp only [List.map_cons,List.sum_cons,ih,remainder,Int.cast_add]
    ring

/-- Rounded parts make up the rounded total precisely when their remainders add up to a remainder. -/
theorem sum_nearest_eq_iff (xs : List ℚ) :
    (xs.map nearest).sum = nearest xs.sum ↔ -1/2 ≤ (xs.map remainder).sum ∧ (xs.map remainder).sum < 1/2 := by
  rw [eq_comm,nearest_eq_iff,sum_remainder]
  constructor
  · rintro ⟨hl,hu⟩
    constructor <;> linarith
  · rintro ⟨hl,hu⟩
    constructor <;> linarith

/-- Equal rounded parts make up the rounded total precisely when the total divides evenly. -/
theorem mul_nearest_div_eq_iff {n : ℕ} (hn : 0 < n) (x : ℚ) :
    (n : ℤ) * nearest (x / n) = nearest x ↔ (n : ℤ) ∣ nearest x := by
  constructor
  · intro h
    exact ⟨_,h.symm⟩
  · rintro ⟨q,hq⟩
    have hpos : (0 : ℚ) < n := by exact_mod_cast hn
    have hone : (1 : ℚ) ≤ n := by exact_mod_cast hn
    have hbounds := nearest_bounds x
    rw [hq,Int.cast_mul,Int.cast_natCast] at hbounds
    have hpart : nearest (x / n) = q := by
      rw [nearest_eq_iff,le_div_iff₀ hpos,div_lt_iff₀ hpos]
      constructor
      · nlinarith
      · nlinarith
    rw [hpart,hq]

/-- Equal rounded parts miss the rounded total by less than one unit each. -/
theorem abs_mul_nearest_div_sub_lt {n : ℕ} (hn : 0 < n) (x : ℚ) :
    |(n : ℤ) * nearest (x / n) - nearest x| < n := by
  rcases Nat.eq_or_lt_of_le (Nat.one_le_iff_ne_zero.mpr hn.ne') with rfl | hone
  · simp
  have hpos : (0 : ℚ) < n := by exact_mod_cast hn
  have htwo : (2 : ℚ) ≤ n := by exact_mod_cast hone
  obtain ⟨hl,hu⟩ := nearest_bounds x
  obtain ⟨hl',hu'⟩ := nearest_bounds (x / n)
  rw [le_div_iff₀ hpos] at hl'
  rw [div_lt_iff₀ hpos] at hu'
  have hcast : |(n : ℚ) * nearest (x / n) - nearest x| < n := by
    rw [abs_lt]
    constructor <;> linarith
  exact_mod_cast hcast

end EduPod.Rounding
