import EduPod.Foundation.Double
import EduPod.Finance.InvoiceStatus
import EduPod.Payroll.Records

/-! # The calculation engine

`compute` works on exact decimals, the legacy adapter on doubles. Both give their amounts in cents.
-/
namespace EduPod.Payroll
open Finance

/-- `amount.toDecimalPlaces(2, ROUND_HALF_UP)` of an amount in cents. -/
def toCents (amount : ℚ) : ℤ := toColumn amount

/-- The nearest multiple of `10 ^ -digits`, halves away from zero. -/
def toFixed (digits : ℕ) (x : ℚ) : ℚ := toColumn (x * 10 ^ digits) / 10 ^ digits

structure CalcInput where
  compensationType : CompensationType
  baseSalary : Option ℤ
  daysWorked : ℚ
  totalWorkingDays : ℕ
  perClassRate : Option ℤ
  classesDelivered : ℕ
  bonusClasses : ℕ
  bonusClassMultiplier : Option ℚ
  allowancesTotal : ℤ
  oneOffPositiveTotal : ℤ
  oneOffNegativeTotal : ℤ
  adjustmentPositiveTotal : ℤ
  adjustmentNegativeTotal : ℤ
  scheduledDeductionsTotal : ℤ

structure CalcResult where
  basePay : ℤ
  bonusPay : ℤ
  totals : PayTotals
  deriving DecidableEq

def computeBasePay (input : CalcInput) : ℤ :=
  if input.compensationType = .perClass then 0
  else
    match input.baseSalary with
    | none => 0
    | some baseSalary =>
      if input.totalWorkingDays = 0 then 0
      else toCents (baseSalary * toFixed 4 (input.daysWorked / input.totalWorkingDays))

def computeClassBonus (input : CalcInput) : ℤ :=
  if input.compensationType = .salaried then 0
  else
    match input.perClassRate with
    | none => 0
    | some perClassRate =>
      let regular : ℚ := perClassRate * input.classesDelivered
      if input.bonusClasses = 0 then toCents regular
      else
        match input.bonusClassMultiplier with
        | none => toCents regular
        | some multiplier => toCents (regular + perClassRate * input.bonusClasses * multiplier)

def compute (input : CalcInput) : CalcResult :=
  let basePay := computeBasePay input
  let classBonus := computeClassBonus input
  let grossPay := toCents (basePay + classBonus + input.allowancesTotal + input.oneOffPositiveTotal +
    input.adjustmentPositiveTotal : ℤ)
  let totalDeductions := toCents (input.scheduledDeductionsTotal + input.oneOffNegativeTotal +
    input.adjustmentNegativeTotal : ℤ)
  { basePay := basePay
    bonusPay := toCents (classBonus + input.oneOffPositiveTotal + input.adjustmentPositiveTotal : ℤ)
    totals :=
      { grossPay := grossPay
        totalDeductions := totalDeductions
        netPay := toCents (grossPay - totalDeductions : ℤ)
        allowancesTotal := input.allowancesTotal
        deductionsTotal := input.scheduledDeductionsTotal
        adjustmentsTotal := toCents (input.adjustmentPositiveTotal - input.adjustmentNegativeTotal : ℤ)
        oneOffTotal := toCents (input.oneOffPositiveTotal - input.oneOffNegativeTotal : ℤ) } }

/-! ## The legacy adapter -/

/-- `Number(column)` of a column in hundredths. -/
def number (hundredths : ℤ) : ℚ := toDouble (hundredths / 100)

/-- `Number(x.toFixed(2))` in cents. -/
def toFixedCents (x : ℚ) : ℤ := toColumn (x * 100)

structure LegacyCalcInput where
  compensationType : CompensationType
  snapshotBaseSalary : Option ℤ
  snapshotPerClassRate : Option ℤ
  snapshotAssignedClassCount : Option ℤ
  snapshotBonusClassRate : Option ℤ
  snapshotBonusDayMultiplier : Option ℤ
  totalWorkingDays : ℕ
  daysWorked : Option ℕ
  classesTaught : Option ℕ

structure LegacyCalcResult where
  basicPay : ℤ
  bonusPay : ℤ
  totalPay : ℤ
  deriving DecidableEq

def legacyTotal (basicPay bonusPay : ℤ) : LegacyCalcResult :=
  ⟨basicPay,bonusPay,toFixedCents (toDouble (number basicPay + number bonusPay))⟩

def calculateSalariedLegacy (input : LegacyCalcInput) : Except PayrollError LegacyCalcResult :=
  match input.snapshotBaseSalary with
  | none => .error .calculationError
  | some salary =>
    let baseSalary := number salary
    let totalWorkingDays := input.totalWorkingDays
    let daysWorked := input.daysWorked.getD 0
    let bonusMultiplier := (input.snapshotBonusDayMultiplier.map number).getD 1
    if totalWorkingDays = 0 then .ok ⟨0,0,0⟩
    else
      let dailyRate := toDouble (toFixed 4 (toDouble (baseSalary / totalWorkingDays)))
      if daysWorked ≤ totalWorkingDays then
        .ok (legacyTotal (toFixedCents (toDouble (dailyRate * daysWorked))) 0)
      else
        let extraDays := daysWorked - totalWorkingDays
        .ok (legacyTotal (toFixedCents baseSalary)
          (toFixedCents (toDouble (toDouble (dailyRate * bonusMultiplier) * extraDays))))

def calculatePerClassLegacy (input : LegacyCalcInput) : Except PayrollError LegacyCalcResult :=
  match input.snapshotPerClassRate with
  | none => .error .calculationError
  | some rate =>
    let perClassRate := number rate
    let assignedCount := input.snapshotAssignedClassCount.getD 0
    let bonusClassRate := (input.snapshotBonusClassRate.map number).getD 0
    let classesTaught : ℤ := input.classesTaught.getD 0
    if classesTaught ≤ assignedCount then
      .ok (legacyTotal (toFixedCents (toDouble (classesTaught * perClassRate))) 0)
    else
      .ok (legacyTotal (toFixedCents (toDouble (assignedCount * perClassRate)))
        (toFixedCents (toDouble ((classesTaught - assignedCount : ℤ) * bonusClassRate))))

def calculate (input : LegacyCalcInput) : Except PayrollError LegacyCalcResult :=
  if input.compensationType = .salaried then calculateSalariedLegacy input
  else calculatePerClassLegacy input

end EduPod.Payroll
