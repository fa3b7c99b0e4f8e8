import EduPod.Foundation.Grouping
import EduPod.Budgeting.EventEngine

/-! # Drivers of a financial model and the frozen source data

A record keyed by year group or department is a list of pairs with distinct keys. Amounts and
percentages are exact rationals, and the values of custom drivers, which nothing looks into, are
texts.
-/
namespace EduPod.Budgeting
open Grouping

structure CapexItem where
  id : String
  name : String
  amount : ℚ≥0
  fiscalYear : ℕ
  deriving DecidableEq

/-- The fields of the partial drivers, all of them optional. -/
structure DriverOverrides where
  enrollmentGrowthPctByYearGroup : Option (List (String × ℚ))
  feeUpliftPctByYearGroup : Option (List (String × ℚ))
  staffHeadcountDeltaByDepartment : Option (List (String × ℤ))
  salaryUpliftPct : Option ℚ
  discountCapturePct : Option ℚ
  scholarshipCapturePct : Option ℚ
  utilitiesInflationPct : Option ℚ
  materialsInflationPct : Option ℚ
  capexItems : Option (List CapexItem)
  donationsForecast : Option ℚ
  grantsForecast : Option ℚ
  custom : Option (List (String × String))
  deriving DecidableEq

structure PartialDrivers extends DriverOverrides where
  perYear : Option (List (String × PartialDrivers))

mutual

def PartialDrivers.decEq : (o o' : PartialDrivers) → Decidable (o = o')
  | ⟨fields,none⟩, ⟨fields',none⟩ => decidable_of_iff (fields = fields') (by simp)
  | ⟨_,none⟩, ⟨_,some _⟩ => isFalse (by simp)
  | ⟨_,some _⟩, ⟨_,none⟩ => isFalse (by simp)
  | ⟨fields,some years⟩, ⟨fields',some years'⟩ =>
    have := PartialDrivers.decEqYears years years'
    decidable_of_iff (fields = fields' ∧ years = years') (by simp)

def PartialDrivers.decEqYears : (years years' : List (String × PartialDrivers)) → Decidable (years = years')
  | [], [] => isTrue rfl
  | [], _ :: _ => isFalse (by simp)
  | _ :: _, [] => isFalse (by simp)
  | (year,o) :: years, (year',o') :: years' =>
    have := PartialDrivers.decEq o o'
    have := PartialDrivers.decEqYears years years'
    decidable_of_iff (year = year' ∧ o = o' ∧ years = years') (by simp [and_assoc])

end

instance : DecidableEq PartialDrivers := PartialDrivers.decEq

structure Drivers where
  enrollmentGrowthPctByYearGroup : List (String × ℚ)
  feeUpliftPctByYearGroup : List (String × ℚ)
  staffHeadcountDeltaByDepartment : List (String × ℤ)
  salaryUpliftPct : ℚ
  discountCapturePct : ℚ
  scholarshipCapturePct : ℚ
  utilitiesInflationPct : ℚ
  materialsInflationPct : ℚ
  capexItems : List CapexItem
  donationsForecast : ℚ
  grantsForecast : ℚ
  custom : List (String × String)
  perYear : List (String × PartialDrivers)
  deriving DecidableEq

/-- The keys that appear replace those of the base. -/
def shallowMerge {β : Type} (base : List (String × β)) (override : Option (List (String × β))) : List (String × β) :=
  (override.getD []).foldl (fun d e => setKey d e.1 e.2) base

def mergeDriverOverrides (base : Drivers) (overrides : PartialDrivers) : Drivers where
  enrollmentGrowthPctByYearGroup :=
    shallowMerge base.enrollmentGrowthPctByYearGroup overrides.enrollmentGrowthPctByYearGroup
  feeUpliftPctByYearGroup := shallowMerge base.feeUpliftPctByYearGroup overrides.feeUpliftPctByYearGroup
  staffHeadcountDeltaByDepartment :=
    shallowMerge base.staffHeadcountDeltaByDepartment overrides.staffHeadcountDeltaByDepartment
  salaryUpliftPct := overrides.salaryUpliftPct.getD base.salaryUpliftPct
  discountCapturePct := overrides.discountCapturePct.getD base.discountCapturePct
  scholarshipCapturePct := overrides.scholarshipCapturePct.getD base.scholarshipCapturePct
  utilitiesInflationPct := overrides.utilitiesInflationPct.getD base.utilitiesInflationPct
  materialsInflationPct := overrides.materialsInflationPct.getD base.materialsInflationPct
  capexItems := overrides.capexItems.getD base.capexItems
  donationsForecast := overrides.donationsForecast.getD base.donationsForecast
  grantsForecast := overrides.grantsForecast.getD base.grantsForecast
  custom := shallowMerge base.custom overrides.custom
  perYear := shallowMerge base.perYear overrides.perYear

def resolveDriversForYear (drivers : Drivers) (fiscalYear : ℕ) : Drivers :=
  match drivers.perYear.lookup (toString fiscalYear) with
  | none => drivers
  | some yearOverride => mergeDriverOverrides drivers yearOverride

/-! ## Source data -/

structure SourceStudentByYearGroup where
  yearGroupId : String
  yearGroupName : String
  activeCount : ℕ
  deriving DecidableEq

inductive SourceBillingFrequency
  | monthly | term | oneOff
  deriving DecidableEq, Repr

structure SourceFeeStructureForYearGroup where
  yearGroupId : String
  amount : ℚ≥0
  billingFrequency : SourceBillingFrequency
  deriving DecidableEq

structure SourceStaffByDepartment where
  departmentId : String
  departmentName : String
  headcount : ℕ
  totalAnnualPayroll : ℚ≥0
  deriving DecidableEq

structure SourcePriorYearActuals where
  utilities : ℚ
  materials : ℚ
  donations : ℚ
  grants : ℚ
  deriving DecidableEq

/-- What the engine reads of the tenant as it was when the model was created. -/
structure SourceDataSnapshot where
  totalActiveStudents : ℕ
  totalActiveHouseholds : ℕ
  studentsByYearGroup : List SourceStudentByYearGroup
  feesByYearGroup : List SourceFeeStructureForYearGroup
  staffByDepartment : List SourceStaffByDepartment
  priorYearActuals : Option SourcePriorYearActuals
  deriving DecidableEq

structure BuildDefaultDriversInput where
  yearGroupIds : List String
  departmentIds : List String
  priorYearDonationsActual : Option ℚ
  priorYearGrantsActual : Option ℚ
  priorYearDiscountCapturePct : Option ℚ
  priorYearScholarshipCapturePct : Option ℚ

def buildDefaultDrivers (input : BuildDefaultDriversInput) : Drivers where
  enrollmentGrowthPctByYearGroup := ofPairs (input.yearGroupIds.map fun id => (id,3))
  feeUpliftPctByYearGroup := ofPairs (input.yearGroupIds.map fun id => (id,0))
  staffHeadcountDeltaByDepartment := ofPairs (input.departmentIds.map fun id => (id,0))
  salaryUpliftPct := 3
  discountCapturePct := input.priorYearDiscountCapturePct.getD 4
  scholarshipCapturePct := input.priorYearScholarshipCapturePct.getD 2
  utilitiesInflationPct := 4
  materialsInflationPct := 3
  capexItems := []
  donationsForecast := input.priorYearDonationsActual.getD 0
  grantsForecast := input.priorYearGrantsActual.getD 0
  custom := []
  perYear := []

end EduPod.Budgeting
