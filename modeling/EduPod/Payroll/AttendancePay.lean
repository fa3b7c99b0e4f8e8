import EduPod.Foundation.Rounding
import EduPod.Payroll.Calculation

/-! # Base pay by attendance

`compute` rounds the share of the working days and multiplies the salary by it, the legacy adapter
rounds a daily rate and multiplies it by the days. What each rounding loses is a signed remainder.
-/
namespace EduPod.Payroll
open Double Rounding
variable {input : CalcInput} {legacy : LegacyCalcInput} {salary : ℤ} {totalWorkingDays daysWorked : ℕ} {x : ℚ}

/-- Both engines read the same salaried contract and period. -/
structure SameContract (input : CalcInput) (legacy : LegacyCalcInput) (salary : ℤ) : Prop where
  salaried : input.compensationType = .salaried
  salariedLegacy : legacy.compensationType = .salaried
  baseSalary : input.baseSalary = some salary
  snapshotBaseSalary : legacy.snapshotBaseSalary = some salary
  totalWorkingDays : legacy.totalWorkingDays = input.totalWorkingDays
  someWorkingDay : 0 < input.totalWorkingDays
  daysColumn : input.totalWorkingDays < 2 ^ 31
  nonneg : 0 ≤ salary
  salaryColumn : salary < 10 ^ 12

def basePay (input : CalcInput) (daysWorked : ℕ) : ℤ := (compute { input with daysWorked := daysWorked }).basePay

def basicPay (legacy : LegacyCalcInput) (daysWorked : ℕ) : Except PayrollError ℤ :=
  (calculate { legacy with daysWorked := some daysWorked }).map (·.basicPay)

structure PaysAlike (input : CalcInput) (legacy : LegacyCalcInput) (salary : ℤ) : Prop where
  same : ∀ daysWorked ≤ input.totalWorkingDays, basicPay legacy daysWorked = .ok (basePay input daysWorked)
  full : basePay input input.totalWorkingDays = salary
  fullLegacy : basicPay legacy input.totalWorkingDays = .ok salary
  mono : ∀ fewer more, fewer ≤ more → more ≤ input.totalWorkingDays → basePay input fewer ≤ basePay input more
  monoLegacy : ∀ fewer more, fewer ≤ more → more ≤ input.totalWorkingDays → ∀ less greater,
    basicPay legacy fewer = .ok less → basicPay legacy more = .ok greater → less ≤ greater

/-- The exact pay less what rounding the share of the days loses. -/
def sharePay (salary : ℤ) (totalWorkingDays daysWorked : ℕ) : ℚ :=
  (salary * daysWorked - salary * (10000 * daysWorked : ℤ).bmod totalWorkingDays / 10000) / totalWorkingDays

/-- The exact pay less what rounding the daily rate loses. -/
def ratePay (salary : ℤ) (totalWorkingDays daysWorked : ℕ) : ℚ :=
  (salary * daysWorked - daysWorked * (100 * salary).bmod totalWorkingDays / 100) / totalWorkingDays

def dailyRate (salary : ℤ) (totalWorkingDays : ℕ) : ℚ :=
  toDouble (toFixed 4 (toDouble (number salary / totalWorkingDays)))

/-- The daily rate for the days in doubles, in cents. -/
def doublePay (salary : ℤ) (totalWorkingDays daysWorked : ℕ) : ℚ :=
  toDouble (dailyRate salary totalWorkingDays * daysWorked) * 100

/-- A rounding of the legacy adapter meets a half, which its doubles may put on either side. -/
def MeetsHalf (salary : ℤ) (totalWorkingDays daysWorked : ℕ) : Prop :=
  2 * (100 * salary).bmod totalWorkingDays = -totalWorkingDays ∨
    2 * ((100 * salary).bdiv totalWorkingDays * daysWorked).bmod 100 = -100

/-- What the two roundings lose does not carry the exact pay over a half cent. -/
structure PayFits (salary : ℤ) (totalWorkingDays daysWorked : ℕ) : Prop where
  offHalf : ¬ MeetsHalf salary totalWorkingDays daysWorked →
    SameCell (sharePay salary totalWorkingDays daysWorked) (ratePay salary totalWorkingDays daysWorked)
  onHalf : MeetsHalf salary totalWorkingDays daysWorked →
    SameCell (sharePay salary totalWorkingDays daysWorked) (doublePay salary totalWorkingDays daysWorked)

/-! ## The two formulas -/

theorem toColumn_eq_nearest (hx : 0 ≤ x) : Finance.toColumn x = nearest x := if_pos hx

theorem toFixed_nonneg {digits : ℕ} (hx : 0 ≤ x) : 0 ≤ toFixed digits x := by
  unfold toFixed
  rw [toColumn_eq_nearest (by positivity)]
  have hnearest : 0 ≤ nearest (x * 10 ^ digits) := by
    rw [← nearest_intCast 0]
    exact nearest_mono (by push_cast; positivity)
  positivity

theorem number_nonneg (hsalary : 0 ≤ salary) : 0 ≤ number salary := toDouble_nonneg (by positivity)

theorem dailyRate_nonneg (hsalary : 0 ≤ salary) (totalWorkingDays : ℕ) : 0 ≤ dailyRate salary totalWorkingDays := by
  have hnumber := number_nonneg hsalary
  exact toDouble_nonneg (toFixed_nonneg (toDouble_nonneg (by positivity)))

theorem sharePay_eq (hdays : 0 < totalWorkingDays) : sharePay salary totalWorkingDays daysWorked =
    salary * ((10000 * daysWorked : ℤ).bdiv totalWorkingDays / 10000) := by
  have hpos : (totalWorkingDays : ℚ) ≠ 0 := by exact_mod_cast hdays.ne'
  have hsplit := Int.bmod_add_bdiv (10000 * daysWorked) totalWorkingDays
  have hsplit' : ((10000 * daysWorked : ℤ).bmod totalWorkingDays : ℚ) =
      10000 * daysWorked - totalWorkingDays * (10000 * daysWorked : ℤ).bdiv totalWorkingDays := by
    rw [eq_sub_iff_add_eq]
    exact_mod_cast hsplit
  unfold sharePay
  rw [hsplit']
  field_simp
  ring

theorem ratePay_eq (hdays : 0 < totalWorkingDays) : ratePay salary totalWorkingDays daysWorked =
    ((100 * salary).bdiv totalWorkingDays * daysWorked : ℤ) / 100 := by
  have hpos : (totalWorkingDays : ℚ) ≠ 0 := by exact_mod_cast hdays.ne'
  have hsplit := Int.bmod_add_bdiv (100 * salary) totalWorkingDays
  have hsplit' : ((100 * salary).bmod totalWorkingDays : ℚ) =
      100 * salary - totalWorkingDays * (100 * salary).bdiv totalWorkingDays := by
    rw [eq_sub_iff_add_eq]
    exact_mod_cast hsplit
  unfold ratePay
  rw [hsplit']
  push_cast
  field_simp
  ring

theorem basePay_eq (h : SameContract input legacy salary) :
    basePay input daysWorked = nearest (sharePay salary input.totalWorkingDays daysWorked) := by
  have hdays := h.someWorkingDay
  have hshare : toFixed 4 (daysWorked / input.totalWorkingDays) =
      (10000 * daysWorked : ℤ).bdiv input.totalWorkingDays / 10000 := by
    have hexact : (daysWorked / input.totalWorkingDays * 10 ^ 4 : ℚ) =
        ((10000 * daysWorked : ℤ) : ℚ) / input.totalWorkingDays := by
      push_cast
      ring
    unfold toFixed
    rw [toColumn_eq_nearest (by positivity),hexact,nearest_div _ hdays]
    norm_num
  have hpositive : (0 : ℚ) ≤ salary * toFixed 4 (daysWorked / input.totalWorkingDays) := by
    have hsalary : (0 : ℚ) ≤ salary := by exact_mod_cast h.nonneg
    have hfixed : (0 : ℚ) ≤ toFixed 4 (daysWorked / input.totalWorkingDays) := toFixed_nonneg (by positivity)
    positivity
  unfold basePay compute computeBasePay
  simp only [h.salaried,h.baseSalary,hdays.ne',reduceCtorEq,if_false]
  unfold toCents
  rw [toColumn_eq_nearest hpositive,hshare,sharePay_eq hdays]

theorem basicPay_eq (h : SameContract input legacy salary) (hdays : daysWorked ≤ input.totalWorkingDays) :
    basicPay legacy daysWorked = .ok (nearest (doublePay salary input.totalWorkingDays daysWorked)) := by
  have hrate := dailyRate_nonneg h.nonneg input.totalWorkingDays
  have hpay : 0 ≤ doublePay salary input.totalWorkingDays daysWorked :=
    mul_nonneg (toDouble_nonneg (by positivity)) (by norm_num)
  unfold basicPay calculate calculateSalariedLegacy
  simp only [h.salariedLegacy,h.snapshotBaseSalary,h.totalWorkingDays,h.someWorkingDay.ne',hdays,if_true,if_false,
    Option.getD_some]
  rw [← toColumn_eq_nearest hpay]
  rfl

/-! ## Where the doubles do not matter -/

/-- Two roundings cost less than one part in `4 * 10 ^ 15`. -/
theorem abs_sub_le_of_within {exact : ℚ} (hexact : 0 ≤ exact) (h : Within 2 exact x) :
    |x - exact| ≤ exact / (4 * 10 ^ 15) := by
  have hfactor : (1 + unitRoundoff) ^ 2 - 1 ≤ 1 / (4 * 10 ^ 15) := by norm_num [unitRoundoff]
  calc |x - exact| ≤ ((1 + unitRoundoff) ^ 2 - 1) * |exact| := h
    _ ≤ 1 / (4 * 10 ^ 15) * |exact| := by gcongr
    _ = exact / (4 * 10 ^ 15) := by
      rw [abs_of_nonneg hexact]
      ring

/-- The daily rate in ten thousandths, before it is rounded to whole ones. -/
theorem abs_quotient_sub_le (h : SameContract input legacy salary) :
    |toDouble (number salary / input.totalWorkingDays) * 10 ^ 4 - ((100 * salary : ℤ) : ℚ) / input.totalWorkingDays| ≤
      (100 * salary / (4 * 10 ^ 15) / input.totalWorkingDays : ℚ) := by
  have hsalary : (0 : ℚ) ≤ salary := by exact_mod_cast h.nonneg
  have hwithin : Within 2 (salary / 100 * (input.totalWorkingDays : ℚ)⁻¹)
      (toDouble (number salary / input.totalWorkingDays)) :=
    ((within_self (salary / 100)).toDouble.mul (within_self (input.totalWorkingDays : ℚ)⁻¹)).toDouble
  have herror := abs_sub_le_of_within (by positivity) hwithin
  have hscaled : toDouble (number salary / input.totalWorkingDays) * 10 ^ 4 -
      ((100 * salary : ℤ) : ℚ) / input.totalWorkingDays =
      (toDouble (number salary / input.totalWorkingDays) - salary / 100 * (input.totalWorkingDays : ℚ)⁻¹) * 10 ^ 4 := by
    push_cast
    ring
  rw [hscaled,abs_mul,abs_of_pos (by norm_num : (0 : ℚ) < 10 ^ 4)]
  calc |toDouble (number salary / input.totalWorkingDays) - salary / 100 * (input.totalWorkingDays : ℚ)⁻¹| * 10 ^ 4
      ≤ salary / 100 * (input.totalWorkingDays : ℚ)⁻¹ / (4 * 10 ^ 15) * 10 ^ 4 := by gcongr
    _ = (100 * salary / (4 * 10 ^ 15) / input.totalWorkingDays : ℚ) := by ring

/-- What the days come to at a rate of whole ten thousandths, in cents. -/
theorem abs_product_sub_le {rate : ℤ} (hrate : 0 ≤ rate) (daysWorked : ℕ) :
    |toDouble (toDouble (rate / 10000) * daysWorked) * 100 - rate * daysWorked / 100| ≤
      rate * daysWorked / (4 * 10 ^ 17) := by
  have hpart : (0 : ℚ) ≤ rate := by exact_mod_cast hrate
  have hwithin : Within 2 (rate / 10000 * daysWorked : ℚ) (toDouble (toDouble (rate / 10000) * daysWorked)) :=
    ((within_self (rate / 10000 : ℚ)).toDouble.mul (within_self (daysWorked : ℚ))).toDouble
  have herror := abs_sub_le_of_within (by positivity) hwithin
  have hscaled : toDouble (toDouble (rate / 10000) * daysWorked) * 100 - rate * daysWorked / 100 =
      (toDouble (toDouble (rate / 10000) * daysWorked) - rate / 10000 * daysWorked) * 100 := by ring
  rw [hscaled,abs_mul,abs_of_pos (by norm_num : (0 : ℚ) < 100)]
  calc |toDouble (toDouble (rate / 10000) * daysWorked) - rate / 10000 * daysWorked| * 100
      ≤ rate / 10000 * daysWorked / (4 * 10 ^ 15) * 100 := by gcongr
    _ = rate * daysWorked / (4 * 10 ^ 17) := by ring

theorem toFixed_rate (h : SameContract input legacy salary)
    (hhalf : 2 * (100 * salary).bmod input.totalWorkingDays ≠ -input.totalWorkingDays) :
    toFixed 4 (toDouble (number salary / input.totalWorkingDays)) =
      (100 * salary).bdiv input.totalWorkingDays / 10000 := by
  have hdays : (0 : ℚ) < input.totalWorkingDays := by exact_mod_cast h.someWorkingDay
  have hcolumn : (salary : ℚ) < 10 ^ 12 := by exact_mod_cast h.salaryColumn
  have hnumber := number_nonneg h.nonneg
  have hquotient : 0 ≤ toDouble (number salary / input.totalWorkingDays) := toDouble_nonneg (by positivity)
  have hsmall : (100 * salary / (4 * 10 ^ 15) : ℚ) < 1/2 := by linarith
  have hclose : (100 * salary / (4 * 10 ^ 15) / input.totalWorkingDays : ℚ) < 1 / (2 * input.totalWorkingDays) := by
    calc (100 * salary / (4 * 10 ^ 15) / input.totalWorkingDays : ℚ) < 1/2 / input.totalWorkingDays := by gcongr
      _ = 1 / (2 * input.totalWorkingDays) := by ring
  unfold toFixed
  rw [toColumn_eq_nearest (by positivity),
    nearest_eq_bdiv_of_abs_sub_lt h.someWorkingDay hhalf ((abs_quotient_sub_le h).trans_lt hclose)]
  norm_num

/-- The rounded rate for the days stays near the salary. -/
theorem rate_bounds (h : SameContract input legacy salary) (hdays : daysWorked ≤ input.totalWorkingDays) :
    0 ≤ (100 * salary).bdiv input.totalWorkingDays ∧
      (100 * salary).bdiv input.totalWorkingDays * daysWorked < 2 * 10 ^ 14 := by
  have hpos := h.someWorkingDay
  have hsalary := h.nonneg
  have hcolumn := h.salaryColumn
  have hint := h.daysColumn
  have hsplit := Int.bmod_add_bdiv (100 * salary) input.totalWorkingDays
  have hlow := Int.le_bmod (x := 100 * salary) hpos
  have hhigh := Int.bmod_lt (x := 100 * salary) hpos
  have hnonneg : 0 ≤ (100 * salary).bdiv input.totalWorkingDays := by
    by_contra hneg
    have hpart : (input.totalWorkingDays : ℤ) * (100 * salary).bdiv input.totalWorkingDays ≤ -input.totalWorkingDays := by
      nlinarith
    omega
  have hmul : (100 * salary).bdiv input.totalWorkingDays * daysWorked ≤
      input.totalWorkingDays * (100 * salary).bdiv input.totalWorkingDays := by
    rw [mul_comm]
    gcongr
  exact ⟨hnonneg,by omega⟩

theorem nearest_doublePay (h : SameContract input legacy salary) (hdays : daysWorked ≤ input.totalWorkingDays)
    (hhalf : ¬ MeetsHalf salary input.totalWorkingDays daysWorked) :
    nearest (doublePay salary input.totalWorkingDays daysWorked) =
      nearest (ratePay salary input.totalWorkingDays daysWorked) := by
  obtain ⟨hrate,hcents⟩ := not_or.mp hhalf
  obtain ⟨hnonneg,hsmall⟩ := rate_bounds h hdays
  set rate := (100 * salary).bdiv input.totalWorkingDays
  have hless : (rate * daysWorked : ℚ) < 2 * 10 ^ 14 := by exact_mod_cast hsmall
  have hcell : nearest (((rate * daysWorked : ℤ) : ℚ) / 100) = (rate * daysWorked).bdiv 100 :=
    nearest_div (rate * daysWorked) (by norm_num : 0 < 100)
  have hclose : |toDouble (toDouble (rate / 10000) * daysWorked) * 100 - ((rate * daysWorked : ℤ) : ℚ) / (100 : ℕ)| <
      (1 / (2 * (100 : ℕ)) : ℚ) := by
    push_cast
    exact (abs_product_sub_le hnonneg daysWorked).trans_lt (by linarith)
  unfold doublePay dailyRate
  rw [toFixed_rate h hrate,ratePay_eq h.someWorkingDay,hcell]
  exact nearest_eq_bdiv_of_abs_sub_lt (by norm_num) hcents hclose

/-! ## Every number of days -/

theorem sharePay_mono (h : SameContract input legacy salary) : Monotone (sharePay salary input.totalWorkingDays) := by
  intro fewer more hle
  have hdays := h.someWorkingDay
  have hsalary : (0 : ℚ) ≤ salary := by exact_mod_cast h.nonneg
  have hshare : (10000 * fewer : ℤ).bdiv input.totalWorkingDays ≤ (10000 * more : ℤ).bdiv input.totalWorkingDays := by
    rw [← nearest_div _ hdays,← nearest_div _ hdays]
    refine nearest_mono ?_
    push_cast
    gcongr
  rw [sharePay_eq hdays,sharePay_eq hdays]
  gcongr

theorem doublePay_mono (h : SameContract input legacy salary) : Monotone (doublePay salary input.totalWorkingDays) := by
  intro fewer more hle
  have hrate := dailyRate_nonneg h.nonneg input.totalWorkingDays
  have hproduct : dailyRate salary input.totalWorkingDays * fewer ≤ dailyRate salary input.totalWorkingDays * more := by
    gcongr
  have hround := toDouble_mono (by positivity) hproduct
  unfold doublePay
  gcongr

theorem sharePay_full (hdays : 0 < totalWorkingDays) : sharePay salary totalWorkingDays totalWorkingDays = salary := by
  have hpos : (totalWorkingDays : ℚ) ≠ 0 := by exact_mod_cast hdays.ne'
  have hloss : (10000 * totalWorkingDays : ℤ).bmod totalWorkingDays = 0 :=
    Int.bmod_eq_zero_of_dvd (dvd_mul_left _ _)
  unfold sharePay
  rw [hloss]
  field_simp
  push_cast
  ring

/-- In a period of fewer than a hundred working days the legacy adapter pays full attendance in full, halves or not. -/
theorem basicPay_full (h : SameContract input legacy salary) (hfew : input.totalWorkingDays < 100) :
    basicPay legacy input.totalWorkingDays = .ok salary := by
  have hdays : (0 : ℚ) < input.totalWorkingDays := by exact_mod_cast h.someWorkingDay
  have hfew' : (input.totalWorkingDays : ℚ) ≤ 99 := by exact_mod_cast Nat.le_of_lt_succ hfew
  have hsalary : (0 : ℚ) ≤ salary := by exact_mod_cast h.nonneg
  have hcolumn : (salary : ℚ) < 10 ^ 12 := by exact_mod_cast h.salaryColumn
  have hnumber := number_nonneg h.nonneg
  set quotient := toDouble (number salary / input.totalWorkingDays) with hquotient
  have hpos : 0 ≤ quotient := toDouble_nonneg (by positivity)
  set rate := nearest (quotient * 10 ^ 4) with hrate
  have hfixed : toFixed 4 quotient = rate / 10000 := by
    unfold toFixed
    rw [toColumn_eq_nearest (by positivity),← hrate]
    norm_num
  have hnonneg : 0 ≤ rate := by
    rw [hrate,← nearest_intCast 0]
    exact nearest_mono (by push_cast; positivity)
  have herror := abs_quotient_sub_le h
  rw [← hquotient,abs_le] at herror
  obtain ⟨hround,hround'⟩ := nearest_bounds (quotient * 10 ^ 4)
  rw [← hrate] at hround hround'
  have hnoise : (100 * salary / (4 * 10 ^ 15) : ℚ) < 1/40 := by linarith
  have hexact : ((100 * salary : ℤ) : ℚ) / input.totalWorkingDays * input.totalWorkingDays = 100 * salary := by
    push_cast
    field_simp
  have hnoise' : (100 * salary / (4 * 10 ^ 15) / input.totalWorkingDays * input.totalWorkingDays : ℚ) < 1/40 := by
    rwa [div_mul_cancel₀ _ hdays.ne']
  -- the rate for all days is off the salary by what rounding it loses, less than half a cent
  have hlow : (100 * salary - 99/2 - 1/40 : ℚ) ≤ rate * input.totalWorkingDays := by nlinarith
  have hhigh : (rate * input.totalWorkingDays : ℚ) ≤ 100 * salary + 99/2 + 1/40 := by nlinarith
  have hproduct := abs_le.mp (abs_product_sub_le hnonneg input.totalWorkingDays)
  rw [basicPay_eq h le_rfl]
  unfold doublePay dailyRate
  rw [← hquotient,hfixed,Except.ok.injEq,nearest_eq_iff]
  constructor
  · linarith [hproduct.1]
  · linarith [hproduct.2]

theorem payFits_iff (h : SameContract input legacy salary) (hdays : daysWorked ≤ input.totalWorkingDays) :
    PayFits salary input.totalWorkingDays daysWorked ↔ basicPay legacy daysWorked = .ok (basePay input daysWorked) := by
  rw [basicPay_eq h hdays,basePay_eq h,Except.ok.injEq,eq_comm]
  constructor
  · intro hfits
    by_cases hhalf : MeetsHalf salary input.totalWorkingDays daysWorked
    · exact nearest_eq_nearest_iff.mpr (hfits.onHalf hhalf)
    · rw [nearest_doublePay h hdays hhalf]
      exact nearest_eq_nearest_iff.mpr (hfits.offHalf hhalf)
  · intro hsame
    constructor
    · intro hhalf
      rw [nearest_doublePay h hdays hhalf] at hsame
      exact nearest_eq_nearest_iff.mp hsame
    · intro _
      exact nearest_eq_nearest_iff.mp hsame

/-- The two engines pay alike, full attendance in full and more days no less, precisely if for no number of days
what the two roundings lose carries the exact pay over a half cent. -/
theorem paysAlike_iff (h : SameContract input legacy salary) :
    PaysAlike input legacy salary ↔
      ∀ daysWorked ≤ input.totalWorkingDays, PayFits salary input.totalWorkingDays daysWorked := by
  have hfull : basePay input input.totalWorkingDays = salary := by
    rw [basePay_eq h,sharePay_full h.someWorkingDay,nearest_intCast]
  constructor
  · intro halike daysWorked hdays
    exact (payFits_iff h hdays).mpr (halike.same daysWorked hdays)
  · intro hfits
    have hsame : ∀ daysWorked ≤ input.totalWorkingDays, basicPay legacy daysWorked = .ok (basePay input daysWorked) :=
      fun daysWorked hdays => (payFits_iff h hdays).mp (hfits daysWorked hdays)
    refine ⟨hsame,hfull,?_,?_,?_⟩
    · rw [hsame _ le_rfl,hfull]
    · intro fewer more hle _
      rw [basePay_eq h,basePay_eq h]
      exact nearest_mono (sharePay_mono h hle)
    · intro fewer more hle hdays less greater hless hgreater
      rw [basicPay_eq h (hle.trans hdays),Except.ok.injEq] at hless
      rw [basicPay_eq h hdays,Except.ok.injEq] at hgreater
      rw [← hless,← hgreater]
      exact nearest_mono (doublePay_mono h hle)

/-- A month of 22 working days at 3000.00. -/
def monthly : CalcInput where
  compensationType := .salaried
  baseSalary := some 300000
  daysWorked := 22
  totalWorkingDays := 22
  perClassRate := none
  classesDelivered := 0
  bonusClasses := 0
  bonusClassMultiplier := none
  allowancesTotal := 0
  oneOffPositiveTotal := 0
  oneOffNegativeTotal := 0
  adjustmentPositiveTotal := 0
  adjustmentNegativeTotal := 0
  scheduledDeductionsTotal := 0

def monthlyLegacy : LegacyCalcInput := ⟨.salaried,some 300000,none,none,none,none,22,some 22,none⟩

theorem sameContract_monthly : SameContract monthly monthlyLegacy 300000 :=
  ⟨rfl,rfl,rfl,rfl,rfl,by decide,by decide,by decide,by decide⟩

theorem paysAlike_monthly_iff : PaysAlike monthly monthlyLegacy 300000 ↔
    ∀ daysWorked ≤ monthly.totalWorkingDays, PayFits 300000 monthly.totalWorkingDays daysWorked :=
  paysAlike_iff sameContract_monthly

/-- Seven of the days are worth 954.60 by their share and 954.55 by the daily rate. -/
theorem not_paysAlike_monthly : ¬ ∀ (input : CalcInput) (legacy : LegacyCalcInput) (salary : ℤ),
    SameContract input legacy salary → PaysAlike input legacy salary := by
  intro h
  have hsame := (h monthly monthlyLegacy 300000 sameContract_monthly).same 7 (by decide)
  have hlegacy : basicPay monthlyLegacy 7 = .ok 95455 := by decide +kernel
  have hpay : basePay monthly 7 = 95460 := by decide +kernel
  rw [hlegacy,hpay] at hsame
  exact absurd (Except.ok.inj hsame) (by decide)

end EduPod.Payroll
