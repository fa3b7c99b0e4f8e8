import EduPod.Foundation.Overwriting
import EduPod.Budgeting.Drivers

/-! # The drivers of a year under a scenario

A driver is addressed by its field, and inside a record by its key. The scenario's overrides are merged
into the base first and the overrides of the year on top of that, where an override of the year that the
scenario has replaces the one of the base.
-/
namespace EduPod.Budgeting
open Grouping

/-- One driver: a field, or an entry of a record. -/
inductive DriverKey
  | enrollmentGrowthPct (yearGroupId : String)
  | feeUpliftPct (yearGroupId : String)
  | staffHeadcountDelta (departmentId : String)
  | salaryUpliftPct | discountCapturePct | scholarshipCapturePct | utilitiesInflationPct | materialsInflationPct
  | capexItems
  | donationsForecast | grantsForecast
  | custom (name : String)
  deriving DecidableEq

inductive DriverValue
  | number (x : ℚ)
  | headcount (n : ℤ)
  | capex (items : List CapexItem)
  | text (json : String)
  deriving DecidableEq

def Drivers.get? (d : Drivers) : DriverKey → Option DriverValue
  | .enrollmentGrowthPct id => (d.enrollmentGrowthPctByYearGroup.lookup id).map .number
  | .feeUpliftPct id => (d.feeUpliftPctByYearGroup.lookup id).map .number
  | .staffHeadcountDelta id => (d.staffHeadcountDeltaByDepartment.lookup id).map .headcount
  | .salaryUpliftPct => some (.number d.salaryUpliftPct)
  | .discountCapturePct => some (.number d.discountCapturePct)
  | .scholarshipCapturePct => some (.number d.scholarshipCapturePct)
  | .utilitiesInflationPct => some (.number d.utilitiesInflationPct)
  | .materialsInflationPct => some (.number d.materialsInflationPct)
  | .capexItems => some (.capex d.capexItems)
  | .donationsForecast => some (.number d.donationsForecast)
  | .grantsForecast => some (.number d.grantsForecast)
  | .custom name => (d.custom.lookup name).map .text

/-- What a record of overrides says of a key. -/
def entry {β : Type} (record : Option (List (String × β))) (key : String) : Option β :=
  (ofPairs (record.getD [])).lookup key

def PartialDrivers.get? (o : PartialDrivers) : DriverKey → Option DriverValue
  | .enrollmentGrowthPct id => (entry o.enrollmentGrowthPctByYearGroup id).map .number
  | .feeUpliftPct id => (entry o.feeUpliftPctByYearGroup id).map .number
  | .staffHeadcountDelta id => (entry o.staffHeadcountDeltaByDepartment id).map .headcount
  | .salaryUpliftPct => o.salaryUpliftPct.map .number
  | .discountCapturePct => o.discountCapturePct.map .number
  | .scholarshipCapturePct => o.scholarshipCapturePct.map .number
  | .utilitiesInflationPct => o.utilitiesInflationPct.map .number
  | .materialsInflationPct => o.materialsInflationPct.map .number
  | .capexItems => o.capexItems.map .capex
  | .donationsForecast => o.donationsForecast.map .number
  | .grantsForecast => o.grantsForecast.map .number
  | .custom name => (entry o.custom name).map .text

def Drivers.ofYear (d : Drivers) (fiscalYear : ℕ) : Option PartialDrivers := d.perYear.lookup (toString fiscalYear)

def PartialDrivers.ofYear (o : PartialDrivers) (fiscalYear : ℕ) : Option PartialDrivers :=
  entry o.perYear (toString fiscalYear)

/-- The scenario's own value of a driver: that of the year before that of all years. -/
def PartialDrivers.mentioned (o : PartialDrivers) (fiscalYear : ℕ) (key : DriverKey) : Option DriverValue :=
  ((o.ofYear fiscalYear).bind fun year => year.get? key).or (o.get? key)

/-- The drivers of a year under a scenario. -/
def effectiveDrivers (base : Drivers) (overrides : PartialDrivers) (fiscalYear : ℕ) : Drivers :=
  resolveDriversForYear (mergeDriverOverrides base overrides) fiscalYear

/-- Whatever the scenario overrides has the scenario's value. -/
def TakesOverrides (base : Drivers) (overrides : PartialDrivers) (fiscalYear : ℕ) : Prop :=
  ∀ key value, overrides.mentioned fiscalYear key = some value →
    (effectiveDrivers base overrides fiscalYear).get? key = some value

/-- Whatever the scenario does not mention is as in the base. -/
def KeepsTheRest (base : Drivers) (overrides : PartialDrivers) (fiscalYear : ℕ) : Prop :=
  ∀ key, overrides.mentioned fiscalYear key = none →
    (effectiveDrivers base overrides fiscalYear).get? key = (resolveDriversForYear base fiscalYear).get? key

/-- The base's value of the year stays on top of the scenario's, which has no overrides of the year. -/
def StaysOnTop (base : Drivers) (overrides : PartialDrivers) (fiscalYear : ℕ) (key : DriverKey) : Prop :=
  overrides.ofYear fiscalYear = none ∧ ((base.ofYear fiscalYear).bind fun year => year.get? key).isSome

/-- The base's value of the year goes with all others of the year, which the scenario replaces. -/
def GoesWithTheYear (base : Drivers) (overrides : PartialDrivers) (fiscalYear : ℕ) (key : DriverKey) : Prop :=
  (overrides.ofYear fiscalYear).isSome ∧ ((base.ofYear fiscalYear).bind fun year => year.get? key).isSome

def MergesOnce (base : Drivers) (overrides : PartialDrivers) : Prop :=
  mergeDriverOverrides (mergeDriverOverrides base overrides) overrides = mergeDriverOverrides base overrides

variable {base : Drivers} {overrides : PartialDrivers} {fiscalYear : ℕ} {key : DriverKey}

/-! ## Merging -/

theorem lookup_shallowMerge {β : Type} (d : List (String × β)) (record : Option (List (String × β))) (k : String) :
    (shallowMerge d record).lookup k = (entry record k).or (d.lookup k) := lookup_overwrite d _ k

theorem shallowMerge_idem {β : Type} (d : List (String × β)) (record : Option (List (String × β))) :
    shallowMerge (shallowMerge d record) record = shallowMerge d record := overwrite_idem d _

theorem some_getD_eq_or {β : Type} (o : Option β) (b : β) (f : β → DriverValue) :
    some (f (o.getD b)) = (o.map f).or (some (f b)) := by
  cases o <;> rfl

theorem getD_idem {β : Type} (o : Option β) (b : β) : o.getD (o.getD b) = o.getD b := by
  cases o <;> rfl

theorem map_or {β : Type} (o o' : Option β) (f : β → DriverValue) : (o.or o').map f = (o.map f).or (o'.map f) := by
  cases o <;> rfl

/-- What the overrides say, and below it what the base says. -/
theorem get?_mergeDriverOverrides (base : Drivers) (overrides : PartialDrivers) (key : DriverKey) :
    (mergeDriverOverrides base overrides).get? key = (overrides.get? key).or (base.get? key) := by
  cases key with
  | enrollmentGrowthPct id => exact (congrArg _ (lookup_shallowMerge _ _ id)).trans (map_or _ _ _)
  | feeUpliftPct id => exact (congrArg _ (lookup_shallowMerge _ _ id)).trans (map_or _ _ _)
  | staffHeadcountDelta id => exact (congrArg _ (lookup_shallowMerge _ _ id)).trans (map_or _ _ _)
  | custom name => exact (congrArg _ (lookup_shallowMerge _ _ name)).trans (map_or _ _ _)
  | _ => exact some_getD_eq_or _ _ _

theorem ofYear_mergeDriverOverrides (base : Drivers) (overrides : PartialDrivers) (fiscalYear : ℕ) :
    (mergeDriverOverrides base overrides).ofYear fiscalYear =
      (overrides.ofYear fiscalYear).or (base.ofYear fiscalYear) := lookup_shallowMerge _ _ _

theorem mergesOnce (base : Drivers) (overrides : PartialDrivers) : MergesOnce base overrides := by
  unfold MergesOnce mergeDriverOverrides
  simp only [shallowMerge_idem,getD_idem]

theorem get?_resolveDriversForYear (d : Drivers) (fiscalYear : ℕ) (key : DriverKey) :
    (resolveDriversForYear d fiscalYear).get? key =
      ((d.ofYear fiscalYear).bind fun year => year.get? key).or (d.get? key) := by
  unfold resolveDriversForYear Drivers.ofYear
  cases d.perYear.lookup (toString fiscalYear) with
  | none => rfl
  | some year => exact get?_mergeDriverOverrides d year key

/-- Layer by layer: the year, of the scenario if it has one, then the scenario, then the base. -/
theorem get?_effectiveDrivers (base : Drivers) (overrides : PartialDrivers) (fiscalYear : ℕ) (key : DriverKey) :
    (effectiveDrivers base overrides fiscalYear).get? key =
      ((((overrides.ofYear fiscalYear).or (base.ofYear fiscalYear)).bind fun year => year.get? key).or
        ((overrides.get? key).or (base.get? key))) := by
  rw [effectiveDrivers,get?_resolveDriversForYear,get?_mergeDriverOverrides,ofYear_mergeDriverOverrides]

theorem or_eq_right {β : Type} {o o' : Option β} (h : o.isSome = false) : o.or o' = o' := by
  rw [Option.isSome_eq_false_iff,Option.isNone_iff_eq_none] at h
  rw [h,Option.none_or]

/-- The scenario's overrides count except below a value that only the base has for the year; what the
scenario does not mention is the base's, its values of the year only while the scenario has none for
that year; and merging twice is merging once. -/
theorem effectiveDrivers_spec (base : Drivers) (overrides : PartialDrivers) (fiscalYear : ℕ) :
    (∀ key value, overrides.mentioned fiscalYear key = some value → ¬StaysOnTop base overrides fiscalYear key →
      (effectiveDrivers base overrides fiscalYear).get? key = some value) ∧
    (∀ key, StaysOnTop base overrides fiscalYear key → (effectiveDrivers base overrides fiscalYear).get? key =
      (base.ofYear fiscalYear).bind fun year => year.get? key) ∧
    (∀ key, overrides.mentioned fiscalYear key = none → ¬GoesWithTheYear base overrides fiscalYear key →
      (effectiveDrivers base overrides fiscalYear).get? key = (resolveDriversForYear base fiscalYear).get? key) ∧
    (∀ key, overrides.mentioned fiscalYear key = none → GoesWithTheYear base overrides fiscalYear key →
      (effectiveDrivers base overrides fiscalYear).get? key = base.get? key) ∧
    MergesOnce base overrides := by
  simp only [get?_effectiveDrivers,get?_resolveDriversForYear,PartialDrivers.mentioned,StaysOnTop,GoesWithTheYear]
  refine ⟨fun key value hvalue htop => ?_,fun key htop => ?_,fun key hnone hyear => ?_,fun key hnone hyear => ?_,
    mergesOnce base overrides⟩
  · cases hown : overrides.ofYear fiscalYear with
    | none =>
      rw [hown] at hvalue htop
      have hbelow : ((base.ofYear fiscalYear).bind fun year => year.get? key).isSome = false := by simpa using htop
      rw [Option.none_or,or_eq_right hbelow,(Option.none_or).symm.trans hvalue]
      rfl
    | some year =>
      rw [hown] at hvalue
      rw [Option.some_or,← Option.or_assoc,hvalue]
      rfl
  · obtain ⟨hown,hsome⟩ := htop
    obtain ⟨value,hvalue⟩ := Option.isSome_iff_exists.mp hsome
    rw [hown,Option.none_or,hvalue,Option.some_or]
  · obtain ⟨hyearly,hdirect⟩ := Option.or_eq_none_iff.mp hnone
    rw [hdirect,Option.none_or]
    cases hown : overrides.ofYear fiscalYear with
    | none => rw [Option.none_or]
    | some year =>
      rw [hown] at hyear hyearly
      have hbelow : ((base.ofYear fiscalYear).bind fun year => year.get? key).isSome = false := by simpa using hyear
      rw [Option.some_or,hyearly,Option.none_or,or_eq_right hbelow]
  · obtain ⟨hyearly,hdirect⟩ := Option.or_eq_none_iff.mp hnone
    obtain ⟨year,hown⟩ := Option.isSome_iff_exists.mp hyear.1
    rw [hown] at hyearly
    rw [hown,hdirect,Option.some_or,hyearly,Option.none_or,Option.none_or]

/-! The base has salaries up by 5 % in its second year, the scenario by 1 % in every year. -/

def salaryBase : Drivers where
  enrollmentGrowthPctByYearGroup := []
  feeUpliftPctByYearGroup := []
  staffHeadcountDeltaByDepartment := []
  salaryUpliftPct := 3
  discountCapturePct := 4
  scholarshipCapturePct := 2
  utilitiesInflationPct := 4
  materialsInflationPct := 3
  capexItems := []
  donationsForecast := 0
  grantsForecast := 0
  custom := []
  perYear := [("2",⟨⟨none,none,none,some 5,none,none,none,none,none,none,none,none⟩,none⟩)]

def lowSalaries : PartialDrivers := ⟨⟨none,none,none,some 1,none,none,none,none,none,none,none,none⟩,none⟩

theorem not_takesOverrides : ¬∀ base overrides fiscalYear, TakesOverrides base overrides fiscalYear ∧
    KeepsTheRest base overrides fiscalYear ∧ MergesOnce base overrides := by
  intro h
  have hsalary := (h salaryBase lowSalaries 2).1 .salaryUpliftPct (.number 1) rfl
  revert hsalary
  decide +kernel

end EduPod.Budgeting
