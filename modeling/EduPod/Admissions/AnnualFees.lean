import Mathlib
import EduPod.Foundation.Table
import EduPod.Finance.DiscountedFees

/-! # The annual fee at approval and at conversion

Approving an application fixes the upfront payment from the annual fee of its year group; converting
it issues the invoice of the same fee structures. Both amounts are in cents; products of a fee are
binary64 numbers, sums of whole cents are exact.
-/
namespace EduPod.Admissions.AnnualFees
open Finance Double

variable {amount : ℤ} {m n multiplier : ℕ} {x : ℚ}

inductive BillingFrequency
  | oneOff | term | monthly | custom
  deriving DecidableEq, Repr

/-- `amount` is what a `Decimal(12,2)` column holds of a positive number. -/
structure FeeStructure where
  yearGroupId : Option ℕ
  amount : ℤ
  billingFrequency : BillingFrequency
  active : Bool
  amount_nonneg : 0 ≤ amount
  amount_lt : amount < 10 ^ 12

structure AcademicYear where
  periods : List ℕ

/-- The tables of one tenant. -/
structure School where
  currencyCode : Option String
  feeStructures : Table FeeStructure
  academicYears : Table AcademicYear

inductive FeeError
  | noFeeStructureConfigured | tenantCurrencyNotConfigured
  deriving DecidableEq, Repr

structure ResolvedAnnualFee where
  amountCents : ℤ
  currencyCode : String
  deriving DecidableEq, Repr

def School.activeFeeStructures (school : School) (yearGroupId : ℕ) : List FeeStructure :=
  (school.feeStructures.select fun fs => fs.active && fs.yearGroupId = some yearGroupId).map Prod.snd

/-- An empty code counts as none. -/
def School.tenantCurrency (school : School) : Option String := school.currencyCode.filter (· ≠ "")

/-- A whole multiple of a fee, in cents. -/
def multipleCents (amount : ℤ) (multiplier : ℕ) : ℤ :=
  roundMoney (toDouble (toDouble (toNumber amount * multiplier) * 100))

/-! ## What approval asks for -/

def annualMultiplier : BillingFrequency → ℕ
  | .oneOff => 1
  | .term => 3
  | .monthly => 12
  | .custom => 1

def FeeStructure.annualCents (feeStructure : FeeStructure) : ℤ :=
  multipleCents feeStructure.amount (annualMultiplier feeStructure.billingFrequency)

def resolveAnnualNetFeeCents (school : School) (yearGroupId : ℕ) : Except FeeError ResolvedAnnualFee :=
  let feeStructures := school.activeFeeStructures yearGroupId
  if feeStructures = [] then .error .noFeeStructureConfigured
  else
    match school.tenantCurrency with
    | none => .error .tenantCurrencyNotConfigured
    | some currencyCode => .ok ⟨(feeStructures.map FeeStructure.annualCents).sum,currencyCode⟩

def paymentAmountCents (fee : ResolvedAnnualFee) (upfrontPercentage : ℤ) : ℤ :=
  roundMoney (toDouble (toDouble (fee.amountCents * upfrontPercentage) / 100))

/-! ## What conversion bills -/

structure AdmissionsFinanceResult where
  invoiced : Bool
  invoiceTotalCents : ℤ
  paymentCents : ℤ
  balanceCents : ℤ
  deriving DecidableEq, Repr

/-- A year that is not found counts as three terms. -/
def School.termCount (school : School) (academicYearId : ℕ) : ℕ :=
  ((school.academicYears.get? academicYearId).map fun year => year.periods.length).getD 3

def FeeStructure.annualAmount (feeStructure : FeeStructure) (termCount : ℕ) : ℤ :=
  match feeStructure.billingFrequency with
  | .term => multipleCents feeStructure.amount termCount
  | .monthly => multipleCents feeStructure.amount 12
  | _ => feeStructure.amount

/-- The payment is allocated to the invoice as far as it reaches; without a payment nothing is. -/
def createFinancialRecords (school : School) (academicYearId yearGroupId : ℕ) (paymentCents : ℤ) :
    AdmissionsFinanceResult :=
  let feeStructures := school.activeFeeStructures yearGroupId
  if feeStructures = [] then ⟨false,0,0,0⟩
  else
    let subtotal := (feeStructures.map (·.annualAmount (school.termCount academicYearId))).sum
    let totalAmount := roundMoney (subtotal : ℤ)
    let allocAmount := if 0 < paymentCents then min paymentCents totalAmount else 0
    ⟨true,totalAmount,paymentCents,totalAmount - allocAmount⟩

/-! ## Whole multiples of a fee -/

theorem within_multiple (amount : ℤ) (multiplier : ℕ) :
    Within 3 (amount * multiplier : ℤ) (toDouble (toDouble (toNumber amount * multiplier) * 100)) := by
  have hproduct := ((FeeGeneration.within_toNumber amount).mul (within_self (multiplier : ℚ))).toDouble
  have hcents := (hproduct.mul (within_self 100)).toDouble
  have hexact : (amount / 100 * multiplier * 100 : ℚ) = (amount * multiplier : ℤ) := by
    push_cast
    ring
  rwa [hexact] at hcents

/-- A few roundings lose nothing of whole cents below a trillion euros. -/
theorem roundMoney_of_within {cents : ℤ} (h : Within 3 cents x) (hnonneg : 0 ≤ cents) (hsize : cents < 10 ^ 14) :
    roundMoney x = cents := by
  have hfactor : (1 + unitRoundoff) ^ 3 - 1 ≤ 1 / 10 ^ 15 := by norm_num [unitRoundoff]
  have hcents : (0 : ℚ) ≤ cents := by exact_mod_cast hnonneg
  have hsmall : (cents : ℚ) < 10 ^ 14 := by exact_mod_cast hsize
  unfold Within at h
  rw [abs_of_nonneg hcents] at h
  have hbound : ((1 + unitRoundoff) ^ 3 - 1) * (cents : ℚ) ≤ 1 / 10 ^ 15 * cents := by gcongr
  obtain ⟨hlow,hhigh⟩ := abs_le.mp (h.trans hbound)
  unfold roundMoney
  rw [Int.floor_eq_iff]
  constructor <;> linarith

theorem multipleCents_eq (hnonneg : 0 ≤ amount) (hsize : amount * multiplier < 10 ^ 14) :
    multipleCents amount multiplier = amount * multiplier :=
  roundMoney_of_within (within_multiple amount multiplier) (mul_nonneg hnonneg (Int.natCast_nonneg multiplier)) hsize

theorem multipleCents_mono (hnonneg : 0 ≤ amount) (h : m ≤ n) : multipleCents amount m ≤ multipleCents amount n := by
  have hnumber : 0 ≤ toNumber amount := toDouble_nonneg (by positivity)
  have hproduct : toNumber amount * m ≤ toNumber amount * n := by gcongr
  have hdouble := toDouble_mono (by positivity) hproduct
  have hfirst : 0 ≤ toDouble (toNumber amount * m) := toDouble_nonneg (by positivity)
  unfold multipleCents roundMoney
  have hcents := toDouble_mono (by positivity) (mul_le_mul_of_nonneg_right hdouble (by norm_num : (0 : ℚ) ≤ 100))
  exact Int.floor_le_floor (by linarith)

theorem multipleCents_nonneg (hnonneg : 0 ≤ amount) (multiplier : ℕ) : 0 ≤ multipleCents amount multiplier := by
  have hzero : multipleCents amount 0 = 0 := by simpa using multipleCents_eq hnonneg (show amount * (0 : ℕ) < 10 ^ 14 by simp)
  exact hzero.ge.trans (multipleCents_mono hnonneg (Nat.zero_le multiplier))

@[simp] theorem multipleCents_zero (multiplier : ℕ) : multipleCents 0 multiplier = 0 := by
  norm_num [multipleCents,toNumber,roundMoney]

/-! ## A structure, and all of them -/

theorem annualCents_eq (fs : FeeStructure) : fs.annualCents = fs.amount * annualMultiplier fs.billingFrequency := by
  have hcolumn := fs.amount_lt
  refine multipleCents_eq fs.amount_nonneg ?_
  cases fs.billingFrequency <;> simp only [annualMultiplier] <;> push_cast <;> omega

theorem annualAmount_three (fs : FeeStructure) : fs.annualAmount 3 = fs.annualCents := by
  have hexact := annualCents_eq fs
  unfold FeeStructure.annualCents at hexact ⊢
  unfold FeeStructure.annualAmount
  cases hbilling : fs.billingFrequency with
  | term | monthly => rfl
  | oneOff | custom =>
    rw [hbilling] at hexact
    simpa [annualMultiplier] using hexact.symm

theorem annualAmount_mono (fs : FeeStructure) : Monotone fs.annualAmount := by
  intro m n h
  unfold FeeStructure.annualAmount
  cases fs.billingFrequency with
  | term => exact multipleCents_mono fs.amount_nonneg h
  | _ => exact le_rfl

/-- Four terms already bill more than three, if a term bills anything. -/
theorem annualAmount_eq_iff (fs : FeeStructure) :
    fs.annualAmount n = fs.annualCents ↔ n = 3 ∨ (fs.billingFrequency = .term → fs.amount = 0) := by
  have hcolumn := fs.amount_lt
  have hnonneg := fs.amount_nonneg
  by_cases hterm : fs.billingFrequency = .term
  · have hamount (k : ℕ) : fs.annualAmount k = multipleCents fs.amount k := by simp [FeeStructure.annualAmount,hterm]
    have hexact (k : ℕ) (hk : k ≤ 4) : fs.annualAmount k = fs.amount * k := by
      rw [hamount]
      exact multipleCents_eq hnonneg (by nlinarith)
    have hthree : fs.annualCents = fs.amount * 3 := by
      rw [← annualAmount_three]
      exact hexact 3 (by omega)
    rw [hthree]
    constructor
    · intro h
      rcases Nat.lt_trichotomy n 3 with hless | rfl | hmore
      · rw [hexact n (by omega)] at h
        exact .inr fun _ => by interval_cases n <;> omega
      · exact .inl rfl
      · have hfour := annualAmount_mono fs (show 4 ≤ n from hmore)
        rw [hexact 4 le_rfl,h] at hfour
        exact .inr fun _ => by omega
    · rintro (rfl | hzero)
      · exact hexact 3 (by omega)
      · rw [hamount,hzero hterm,multipleCents_zero,zero_mul]
  · have hsame : fs.annualAmount n = fs.annualAmount 3 := by
      unfold FeeStructure.annualAmount
      split
      · contradiction
      all_goals rfl
    simp [hsame,annualAmount_three,hterm]

theorem sum_map_eq_iff_of_le {α : Type*} {f g : α → ℤ} {xs : List α} (h : ∀ x ∈ xs, f x ≤ g x) :
    (xs.map f).sum = (xs.map g).sum ↔ ∀ x ∈ xs, f x = g x := by
  constructor
  · intro hsum x hx
    by_contra hne
    exact (List.sum_lt_sum f g h ⟨x,hx,lt_of_le_of_ne (h x hx) hne⟩).ne hsum
  · intro hpointwise
    rw [List.map_congr_left hpointwise]

/-- All structures lie on the same side of three terms, so nothing makes up for a difference. -/
theorem sum_annualAmount_eq_iff (xs : List FeeStructure) (n : ℕ) :
    (xs.map FeeStructure.annualCents).sum = (xs.map (·.annualAmount n)).sum ↔
      n = 3 ∨ ∀ fs ∈ xs, fs.billingFrequency = .term → fs.amount = 0 := by
  have hpointwise : (∀ fs ∈ xs, fs.annualAmount n = fs.annualCents) ↔
      n = 3 ∨ ∀ fs ∈ xs, fs.billingFrequency = .term → fs.amount = 0 := by
    simp only [annualAmount_eq_iff]
    by_cases hn : n = 3 <;> simp [hn]
  rw [← hpointwise]
  rcases le_total n 3 with hle | hle
  · rw [eq_comm,sum_map_eq_iff_of_le fun fs _ => (annualAmount_mono fs hle).trans (annualAmount_three fs).le]
  · rw [sum_map_eq_iff_of_le fun fs _ => (annualAmount_three fs).ge.trans (annualAmount_mono fs hle)]
    simp only [eq_comm]

theorem sum_annualAmount_le_iff (xs : List FeeStructure) (n : ℕ) :
    (xs.map (·.annualAmount n)).sum ≤ (xs.map FeeStructure.annualCents).sum ↔
      n ≤ 3 ∨ ∀ fs ∈ xs, fs.billingFrequency = .term → fs.amount = 0 := by
  have hthree (h : n ≤ 3) : (xs.map (·.annualAmount n)).sum ≤ (xs.map FeeStructure.annualCents).sum :=
    List.sum_le_sum fun fs _ => (annualAmount_mono fs h).trans (annualAmount_three fs).le
  have hmore (h : 3 ≤ n) : (xs.map FeeStructure.annualCents).sum ≤ (xs.map (·.annualAmount n)).sum :=
    List.sum_le_sum fun fs _ => (annualAmount_three fs).ge.trans (annualAmount_mono fs h)
  constructor
  · intro h
    rcases le_total n 3 with hle | hle
    · exact .inl hle
    · rcases (sum_annualAmount_eq_iff xs n).mp ((hmore hle).antisymm h) with hn | hzero
      · exact .inl hn.le
      · exact .inr hzero
  · rintro (hle | hzero)
    · exact hthree hle
    · exact ((sum_annualAmount_eq_iff xs n).mpr (.inr hzero)).ge

theorem annualCents_nonneg (fs : FeeStructure) : 0 ≤ fs.annualCents := by
  rw [annualCents_eq]
  exact mul_nonneg fs.amount_nonneg (Int.natCast_nonneg _)

theorem annualAmount_nonneg (fs : FeeStructure) (n : ℕ) : 0 ≤ fs.annualAmount n := by
  unfold FeeStructure.annualAmount
  cases fs.billingFrequency with
  | term | monthly => exact multipleCents_nonneg fs.amount_nonneg _
  | oneOff | custom => exact fs.amount_nonneg

variable {school : School} {yearGroupId : ℕ} {fee : ResolvedAnnualFee}

theorem amountCents_of_ok (h : resolveAnnualNetFeeCents school yearGroupId = .ok fee) :
    school.activeFeeStructures yearGroupId ≠ [] ∧
      fee.amountCents = ((school.activeFeeStructures yearGroupId).map FeeStructure.annualCents).sum := by
  by_cases hsome : school.activeFeeStructures yearGroupId = []
  · simp [resolveAnnualNetFeeCents,hsome] at h
  · cases hcurrency : school.tenantCurrency with
    | none => simp [resolveAnnualNetFeeCents,hsome,hcurrency] at h
    | some currencyCode =>
      simp only [resolveAnnualNetFeeCents,if_neg hsome,hcurrency,Except.ok.injEq] at h
      subst h
      exact ⟨hsome,rfl⟩

theorem invoiceTotalCents_eq (hsome : school.activeFeeStructures yearGroupId ≠ []) (academicYearId : ℕ)
    (paymentCents : ℤ) :
    (createFinancialRecords school academicYearId yearGroupId paymentCents).invoiceTotalCents =
      ((school.activeFeeStructures yearGroupId).map (·.annualAmount (school.termCount academicYearId))).sum := by
  simp only [createFinancialRecords,if_neg hsome,roundMoney_intCast]

/-- Approval counts three terms whatever the year, conversion the periods the year has. -/
theorem annualFee_eq_invoiceTotal_iff (h : resolveAnnualNetFeeCents school yearGroupId = .ok fee)
    (academicYearId : ℕ) (paymentCents : ℤ) :
    fee.amountCents = (createFinancialRecords school academicYearId yearGroupId paymentCents).invoiceTotalCents ↔
      school.termCount academicYearId = 3 ∨
        ∀ fs ∈ school.activeFeeStructures yearGroupId, fs.billingFrequency = .term → fs.amount = 0 := by
  obtain ⟨hsome,hamount⟩ := amountCents_of_ok h
  rw [hamount,invoiceTotalCents_eq hsome]
  exact sum_annualAmount_eq_iff _ _

/-! ## A fee asked for in full -/

theorem paymentAmountCents_full (hnonneg : 0 ≤ fee.amountCents) (hsize : fee.amountCents < 10 ^ 14) :
    paymentAmountCents fee 100 = fee.amountCents := by
  have hproduct := ((within_self (fee.amountCents : ℚ)).mul (within_self 100)).toDouble
  have hquotient := (hproduct.mul (within_self (1/100))).toDouble
  have hexact : (fee.amountCents * 100 * (1/100) : ℚ) = fee.amountCents := by ring
  rw [hexact,mul_one_div] at hquotient
  exact roundMoney_of_within (hquotient.mono (by omega)) hnonneg hsize

/-- A family that pays the whole annual fee up front still owes something once the year has more than three terms. -/
theorem balanceCents_full_eq_zero_iff (h : resolveAnnualNetFeeCents school yearGroupId = .ok fee)
    (hsize : fee.amountCents < 10 ^ 14) (academicYearId : ℕ) :
    (createFinancialRecords school academicYearId yearGroupId (paymentAmountCents fee 100)).balanceCents = 0 ↔
      school.termCount academicYearId ≤ 3 ∨
        ∀ fs ∈ school.activeFeeStructures yearGroupId, fs.billingFrequency = .term → fs.amount = 0 := by
  obtain ⟨hsome,hamount⟩ := amountCents_of_ok h
  have hnonneg : 0 ≤ fee.amountCents := by
    rw [hamount]
    exact List.sum_nonneg (by simpa using fun fs _ => annualCents_nonneg fs)
  have hbilled : 0 ≤ ((school.activeFeeStructures yearGroupId).map
      (·.annualAmount (school.termCount academicYearId))).sum :=
    List.sum_nonneg (by simpa using fun fs _ => annualAmount_nonneg fs _)
  rw [paymentAmountCents_full hnonneg hsize,← sum_annualAmount_le_iff,← hamount]
  simp only [createFinancialRecords,if_neg hsome,roundMoney_intCast]
  split <;> omega

/-! ## A school of semesters -/

def tuition (billingFrequency : BillingFrequency) : FeeStructure :=
  ⟨some 0,100000,billingFrequency,true,by decide,by decide⟩

/-- One fee of 1000.00 for the year group, and a year of the given periods. -/
def schoolWith (billingFrequency : BillingFrequency) (periods : List ℕ) : School :=
  ⟨some "EUR",Table.empty.insert (tuition billingFrequency),Table.empty.insert ⟨periods⟩⟩

theorem resolve_schoolWith (periods : List ℕ) :
    resolveAnnualNetFeeCents (schoolWith .term periods) 0 = .ok ⟨300000,"EUR"⟩ := by
  have hamount : (tuition .term).annualCents = 300000 := annualCents_eq _
  have hactive : (schoolWith .term periods).activeFeeStructures 0 = [tuition .term] := rfl
  have hcurrency : (schoolWith .term periods).tenantCurrency = some "EUR" := rfl
  simp [resolveAnnualNetFeeCents,hactive,hamount,hcurrency]

theorem annualFee_eq_invoiceTotal_threeTerms :
    (300000 : ℤ) = (createFinancialRecords (schoolWith .term [0,1,2]) 0 0 0).invoiceTotalCents ↔
      (schoolWith .term [0,1,2]).termCount 0 = 3 ∨
        ∀ fs ∈ (schoolWith .term [0,1,2]).activeFeeStructures 0, fs.billingFrequency = .term → fs.amount = 0 :=
  annualFee_eq_invoiceTotal_iff (resolve_schoolWith [0,1,2]) 0 0

theorem not_annualFee_eq_invoiceTotal : ¬ ∀ (school : School) (academicYearId yearGroupId : ℕ)
    (fee : ResolvedAnnualFee) (paymentCents : ℤ), resolveAnnualNetFeeCents school yearGroupId = .ok fee →
    fee.amountCents = (createFinancialRecords school academicYearId yearGroupId paymentCents).invoiceTotalCents := by
  intro h
  have hequal := h (schoolWith .term [0,1]) 0 0 ⟨300000,"EUR"⟩ 0 (resolve_schoolWith [0,1])
  rw [invoiceTotalCents_eq (by decide)] at hequal
  have hbilled : (tuition .term).annualAmount 2 = 200000 := multipleCents_eq (by decide) (by decide)
  have htotal : ((schoolWith .term [0,1]).activeFeeStructures 0).map
      (·.annualAmount ((schoolWith .term [0,1]).termCount 0)) = [200000] := by
    rw [← hbilled]
    rfl
  rw [htotal] at hequal
  exact absurd hequal (by decide)

end EduPod.Admissions.AnnualFees
