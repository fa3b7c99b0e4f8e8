import EduPod.Foundation.Rounding
import EduPod.Finance.FeeGeneration

/-! # What a discount is worth in the two billing paths

An assignment can be billed by a fee generation run and by the recurring invoice job. The two work
out its discount by formulas of their own, and cap it differently.
-/
namespace EduPod.Finance.FeeGeneration
open Double Rounding
variable {school : School} {dto : FeeGenerationDto} {run : JobRun} {assignment : HouseholdFeeAssignment}
  {line : PreviewLine} {feeStructure : FeeStructure} {amount percentage : ℤ} {discount : Option Discount} {x y : ℚ}

/-- What the checks on fees and discounts and the `Decimal(12,2)` columns let in. -/
structure AcceptedCharge (amount : ℤ) (discount : Option Discount) : Prop where
  nonneg : 0 ≤ amount
  column : amount < 10 ^ 12
  value_nonneg : ∀ d ∈ discount, 0 ≤ d.value
  percent_le : ∀ d ∈ discount, d.discountType = .percent → d.value ≤ 10000

def FeeStructure.toRecurring (feeStructure : FeeStructure) (assignments : Table Finance.HouseholdFeeAssignment) :
    Finance.FeeStructure :=
  ⟨feeStructure.name,feeStructure.amount,assignments⟩

/-- The assignment as the job reads it. -/
def HouseholdFeeAssignment.toRecurring (assignment : HouseholdFeeAssignment) : Finance.HouseholdFeeAssignment :=
  ⟨assignment.householdId,assignment.effectiveTo,assignment.discount.map Prod.snd⟩

structure SameCharge (generated : Invoice) (recurring : Finance.Invoice) : Prop where
  lineTotal : generated.lines.map (·.lineTotal) = recurring.lines.map (·.lineTotal)
  discountAmount : generated.discountAmount = recurring.discountAmount
  totalAmount : generated.totalAmount = recurring.totalAmount
  line_nonneg : ∀ line ∈ generated.lines, 0 ≤ line.lineTotal
  discount_nonneg : 0 ≤ generated.discountAmount
  total_nonneg : 0 ≤ generated.totalAmount

/-! ## Percentages -/

/-- The exact amount is off the half cents and small enough for a double to tell on which side of one it is. -/
def OffHalfCents (amount percentage : ℤ) : Prop :=
  amount * percentage % 10000 ≠ 5000 ∧ amount * percentage < 10 ^ 15

theorem within_toNumber (column : ℤ) : Within 1 (column / 100) (toNumber column) := (within_self _).toDouble

theorem within_productByHundred (amount percentage : ℤ) :
    Within 5 (amount * percentage / 10000) (productByHundred amount percentage) := by
  have hproduct := ((within_toNumber amount).mul (within_toNumber percentage)).toDouble
  have hquotient := (hproduct.mul (within_self 100⁻¹)).toDouble
  have hcents := (hquotient.mul (within_self 100)).toDouble
  have hexact : (amount / 100 * (percentage / 100) * 100⁻¹ * 100 : ℚ) = amount * percentage / 10000 := by ring
  rwa [hexact] at hcents

theorem within_feeTimesFraction (amount percentage : ℤ) :
    Within 5 (amount * percentage / 10000) (feeTimesFraction amount percentage) := by
  have hfraction := ((within_toNumber percentage).mul (within_self 100⁻¹)).toDouble
  have hproduct := ((within_toNumber amount).mul hfraction).toDouble
  have hcents := (hproduct.mul (within_self 100)).toDouble
  have hexact : (amount / 100 * (percentage / 100 * 100⁻¹) * 100 : ℚ) = amount * percentage / 10000 := by ring
  rwa [hexact] at hcents

/-- Five roundings cost less than one part in `10 ^ 15`. -/
theorem abs_sub_le_of_within {exact : ℚ} (h : Within 5 exact x) : |x - exact| ≤ |exact| / 10 ^ 15 := by
  have hfactor : (1 + unitRoundoff) ^ 5 - 1 ≤ 1 / 10 ^ 15 := by norm_num [unitRoundoff]
  calc |x - exact| ≤ ((1 + unitRoundoff) ^ 5 - 1) * |exact| := h
    _ ≤ 1 / 10 ^ 15 * |exact| := by gcongr
    _ = |exact| / 10 ^ 15 := by ring

theorem roundMoney_of_within (hamount : 0 ≤ amount * percentage) (hoff : OffHalfCents amount percentage)
    (h : Within 5 (amount * percentage / 10000) x) : roundMoney x = (amount * percentage + 5000) / 10000 := by
  obtain ⟨htie,hsize⟩ := hoff
  set q := (amount * percentage + 5000) / 10000
  have hproduct : (0 : ℚ) ≤ amount * percentage := by exact_mod_cast hamount
  have hlow : (10000 * q - 4999 : ℚ) ≤ amount * percentage := by
    have hq : 10000 * q - 4999 ≤ amount * percentage := by omega
    exact_mod_cast hq
  have hhigh : (amount * percentage : ℚ) ≤ 10000 * q + 4999 := by
    have hq : amount * percentage ≤ 10000 * q + 4999 := by omega
    exact_mod_cast hq
  have hsmall : (amount * percentage : ℚ) < 10 ^ 15 := by exact_mod_cast hsize
  have herror := abs_sub_le_of_within h
  rw [abs_of_nonneg (by positivity : (0 : ℚ) ≤ amount * percentage / 10000),abs_le] at herror
  unfold roundMoney
  rw [Int.floor_eq_iff]
  constructor <;> linarith

/-- A percentage of at most a hundred stays between nothing and the fee. -/
theorem roundMoney_bounds_of_within (hamount : 0 ≤ amount) (hcolumn : amount < 10 ^ 12) (hvalue : 0 ≤ percentage)
    (hpercent : percentage ≤ 10000) (h : Within 5 (amount * percentage / 10000) x) :
    0 ≤ roundMoney x ∧ roundMoney x ≤ amount := by
  have hnonneg : (0 : ℚ) ≤ amount * percentage := by exact_mod_cast mul_nonneg hamount hvalue
  have hle : (amount * percentage : ℚ) ≤ 10000 * amount := by
    have hle : amount * percentage ≤ 10000 * amount := by nlinarith
    exact_mod_cast hle
  have hsmall : (amount : ℚ) < 10 ^ 12 := by exact_mod_cast hcolumn
  have herror := abs_sub_le_of_within h
  rw [abs_of_nonneg (by positivity : (0 : ℚ) ≤ amount * percentage / 10000),abs_le] at herror
  unfold roundMoney
  constructor
  · rw [Int.floor_nonneg]
    linarith
  · rw [← Int.lt_add_one_iff,Int.floor_lt]
    push_cast
    linarith

/-! ## Both paths -/

/-- When the two paths work out the same discount, and one that leaves no negative total. -/
def DiscountFits (amount : ℤ) : Option Discount → Prop
  | none => True
  | some discount =>
    match discount.discountType with
    | .fixed => discount.value ≤ amount
    | .percent => OffHalfCents amount discount.value ∨
      SameCell (productByHundred amount discount.value) (feeTimesFraction amount discount.value)

theorem lineTotalOf_eq (amount : ℤ) (discount : Option Discount) :
    lineTotalOf amount discount = amount - discountAmountOf amount discount := by
  cases discount with
  | none => simp [lineTotalOf,discountAmountOf]
  | some discount => exact roundMoney_intCast _

/-- Both paths charge the fee less their discount, so the discounts decide. -/
theorem sameCharge_iff_discounts (assignments : Table Finance.HouseholdFeeAssignment)
    (hline : previewLine school dto assignment = some line)
    (hfee : school.feeStructures.get? assignment.feeStructureId = some feeStructure) :
    SameCharge (invoiceFor dto (assignment.householdId,[line]))
        (recurringInvoice run (feeStructure.toRecurring assignments) assignment.toRecurring) ↔
      discountAmount feeStructure.amount assignment.discount =
          discountAmountOf feeStructure.amount (assignment.discount.map Prod.snd) ∧
        0 ≤ discountAmount feeStructure.amount assignment.discount ∧
        discountAmount feeStructure.amount assignment.discount ≤ feeStructure.amount := by
  have htotal := lineTotal_of_previewLine hline hfee
  have hdiscount : line.discountAmount = discountAmount feeStructure.amount assignment.discount := by
    simp only [previewLine,hfee,Option.bind_eq_bind,Option.bind_some,Option.bind_eq_some_iff] at hline
    obtain ⟨household,-,hline⟩ := hline
    split at hline
    · cases hline
      rfl
    · cases hline
  constructor
  · intro h
    have hsame := h.discountAmount
    have hnonneg := h.discount_nonneg
    have hpositive := h.total_nonneg
    simp only [invoiceFor,recurringInvoice,FeeStructure.toRecurring,HouseholdFeeAssignment.toRecurring,List.map_cons,
      List.map_nil,List.sum_singleton,roundMoney_intCast] at hsame hnonneg hpositive
    exact ⟨by omega,by omega,by omega⟩
  · rintro ⟨hsame,hnonneg,hle⟩
    constructor <;> simp only [invoiceFor,recurringInvoice,FeeStructure.toRecurring,HouseholdFeeAssignment.toRecurring,
      lineTotalOf_eq,List.map_cons,List.map_nil,List.sum_singleton,roundMoney_intCast,List.forall_mem_singleton]
    · rw [htotal,hsame]
    · rw [hdiscount,hsame]
    · rw [htotal,hsame]
    · omega
    · omega
    · omega

theorem percent_fits (h : AcceptedCharge amount (some ⟨.percent,percentage⟩)) :
    (roundMoney (productByHundred amount percentage) = roundMoney (feeTimesFraction amount percentage) ∧
        0 ≤ roundMoney (productByHundred amount percentage) ∧
        roundMoney (productByHundred amount percentage) ≤ amount) ↔
      DiscountFits amount (some ⟨.percent,percentage⟩) := by
  have hvalue : 0 ≤ percentage := h.value_nonneg _ rfl
  have hbounds := roundMoney_bounds_of_within h.nonneg h.column hvalue (h.percent_le _ rfl rfl)
    (within_productByHundred amount percentage)
  constructor
  · rintro ⟨hsame,-⟩
    exact Or.inr (nearest_eq_nearest_iff.mp hsame)
  · rintro (hoff | hsame)
    · have hamount := mul_nonneg h.nonneg hvalue
      refine ⟨?_,hbounds⟩
      rw [roundMoney_of_within hamount hoff (within_productByHundred amount percentage),
        roundMoney_of_within hamount hoff (within_feeTimesFraction amount percentage)]
    · exact ⟨nearest_eq_nearest_iff.mpr hsame,hbounds⟩

def tuitionFee : FeeStructure := ⟨"Tuition",10000,none⟩

def staffChild (discount : Discount) : HouseholdFeeAssignment := ⟨0,none,0,some ("Staff",discount),none⟩

theorem referenced_staffChild (discount : Discount) :
    (Table.empty.insert (staffChild discount)).All fun a =>
      ((Table.empty.insert tuitionFee).get? a.feeStructureId).isSome :=
  (Table.all_empty _).insert rfl

/-- A household with one assignment of a fee of 100.00, less a discount. -/
def staffSchool (discount : Discount) : School where
  tenantExists := true
  students := Table.empty
  households := Table.empty.insert ⟨some 0⟩
  feeStructures := Table.empty.insert tuitionFee
  assignments := Table.empty.insert (staffChild discount)
  invoices := Table.empty
  referenced := referenced_staffChild discount

def springTerm : FeeGenerationDto :=
  ⟨[],[0],CivilDate.ofEpochDay 0,CivilDate.ofEpochDay 90,CivilDate.ofEpochDay 30,[]⟩

def staffLine (discount : Discount) : PreviewLine :=
  let discountAmount := discountAmount 10000 (some ("Staff",discount))
  ⟨0,none,0,10000,some "Staff",discountAmount,roundMoney (10000 - discountAmount : ℤ),false,false⟩

theorem previewLine_staffChild (discount : Discount) :
    previewLine (staffSchool discount) springTerm (staffChild discount) = some (staffLine discount) := rfl

def nightlyRun : JobRun := ⟨0,true,fun _ => false,fun _ _ => false,fun _ => false⟩

theorem acceptedCharge_tenPercent : AcceptedCharge 10000 (some ⟨.percent,1000⟩) :=
  ⟨by decide,by decide,by decide,by decide⟩

theorem acceptedCharge_aboveFee : AcceptedCharge 10000 (some ⟨.fixed,12000⟩) :=
  ⟨by decide,by decide,by decide,by decide⟩

/-- Five per cent of 0.70 are three and a half cents, which only one of the formulas rounds up. -/
example : discountAmount 70 (some ("Staff",⟨.percent,500⟩)) = 4 ∧ discountAmountOf 70 (some ⟨.percent,500⟩) = 3 := by
  decide +kernel

end EduPod.Finance.FeeGeneration
