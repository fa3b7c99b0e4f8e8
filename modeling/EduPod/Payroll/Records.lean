import EduPod.Foundation.Table
import EduPod.Foundation.CivilDate
import EduPod.Foundation.Fallible

/-! # The payroll tables of one tenant

Amount columns are whole cents. What other services own (contracts, attendance, deliveries,
allowances, timetables) is read by payroll as it stands at the time.
-/
namespace EduPod.Payroll

inductive CompensationType
  | salaried | perClass
  deriving DecidableEq, Repr

/-- `bonusDayMultiplier` is in hundredths. -/
structure StaffCompensation where
  staffProfileId : ℕ
  compensationType : CompensationType
  baseSalary : Option ℤ
  perClassRate : Option ℤ
  assignedClassCount : Option ℤ
  bonusClassRate : Option ℤ
  bonusDayMultiplier : ℤ
  effectiveFrom : CivilDate
  effectiveTo : Option CivilDate
  deriving DecidableEq

inductive StaffAttendanceStatus
  | present | absent | halfDay | unpaidLeave | paidLeave | sickLeave
  deriving DecidableEq, Repr

structure StaffAttendanceRecord where
  staffProfileId : ℕ
  date : CivilDate
  status : StaffAttendanceStatus
  deriving DecidableEq

inductive ClassDeliveryStatus
  | delivered | absentCovered | absentUncovered | cancelled
  deriving DecidableEq, Repr

structure ClassDeliveryRecord where
  staffProfileId : ℕ
  deliveryDate : CivilDate
  status : ClassDeliveryStatus
  deriving DecidableEq

structure StaffAllowance where
  staffProfileId : ℕ
  amount : ℤ
  effectiveFrom : CivilDate
  effectiveTo : Option CivilDate
  deriving DecidableEq

structure Schedule where
  teacherStaffId : ℕ
  effectiveStartDate : CivilDate
  effectiveEndDate : Option CivilDate
  deriving DecidableEq

/-- What payroll reads and never writes. -/
structure StaffRecords where
  compensations : List StaffCompensation
  activeStaff : List ℕ
  attendance : List StaffAttendanceRecord
  deliveries : List ClassDeliveryRecord
  allowances : List StaffAllowance
  schedules : List Schedule
  autoPopulateClassCounts : Bool
  deriving DecidableEq

inductive PayrollRunStatus
  | draft | pendingApproval | finalised | cancelled
  deriving DecidableEq, Repr

structure PayrollRun where
  periodMonth : ℕ
  periodYear : ℕ
  totalWorkingDays : ℕ
  status : PayrollRunStatus
  totalBasicPay : ℤ
  totalBonusPay : ℤ
  totalPay : ℤ
  headcount : ℕ
  finalisedByUserId : Option ℕ
  deriving DecidableEq, Repr

/-- The aggregate columns that finalisation fills. -/
structure PayTotals where
  grossPay : ℤ
  totalDeductions : ℤ
  netPay : ℤ
  allowancesTotal : ℤ
  deductionsTotal : ℤ
  adjustmentsTotal : ℤ
  oneOffTotal : ℤ
  deriving DecidableEq, Repr

/-- The defaults of the aggregate columns. -/
def PayTotals.zero : PayTotals := ⟨0,0,0,0,0,0,0⟩

structure PayrollEntry where
  payrollRunId : ℕ
  staffProfileId : ℕ
  compensationType : CompensationType
  snapshotBaseSalary : Option ℤ
  snapshotPerClassRate : Option ℤ
  snapshotAssignedClassCount : Option ℤ
  snapshotBonusClassRate : Option ℤ
  snapshotBonusDayMultiplier : Option ℤ
  daysWorked : Option ℕ
  classesTaught : Option ℕ
  autoPopulatedClassCount : Option ℕ
  basicPay : ℤ
  bonusPay : ℤ
  totalPay : ℤ
  overrideTotalPay : Option ℤ
  overrideNote : Option String
  notes : Option String
  totals : PayTotals
  deriving DecidableEq, Repr

inductive PayrollAdjustmentType
  | underpayment | overpayment | bonus | reimbursement | other
  deriving DecidableEq, Repr

structure PayrollAdjustment where
  payrollRunId : ℕ
  payrollEntryId : ℕ
  adjustmentType : PayrollAdjustmentType
  amount : ℤ
  deriving DecidableEq, Repr

inductive PayrollOneOffType
  | bonus | reimbursement | other
  deriving DecidableEq, Repr

structure PayrollOneOffItem where
  payrollEntryId : ℕ
  itemType : PayrollOneOffType
  amount : ℤ
  deriving DecidableEq, Repr

structure StaffRecurringDeduction where
  staffProfileId : ℕ
  totalAmount : ℤ
  monthlyAmount : ℤ
  remainingAmount : ℤ
  startDate : CivilDate
  monthsRemaining : ℕ
  active : Bool
  deriving DecidableEq

/-- `committed` says that the row has a `committed_at`. -/
structure PayrollDeductionApplication where
  payrollRunId : ℕ
  payrollEntryId : ℕ
  staffRecurringDeductionId : ℕ
  appliedAmount : ℤ
  committed : Bool
  deriving DecidableEq, Repr

/-- What a payslip says of the pay; `sequence` is the running part of its number. -/
structure Payslip where
  payrollEntryId : ℕ
  sequence : ℕ
  issuedByUserId : ℕ
  compensationType : CompensationType
  baseSalary : Option ℤ
  perClassRate : Option ℤ
  bonusClassMultiplier : Option ℤ
  daysWorked : ℕ
  totalWorkingDays : ℕ
  classesDelivered : ℕ
  classesScheduled : ℤ
  basePay : ℤ
  bonusPay : ℤ
  totals : PayTotals
  deriving DecidableEq, Repr

structure Register where
  records : StaffRecords
  runs : Table PayrollRun
  entries : Table PayrollEntry
  adjustments : Table PayrollAdjustment
  oneOffItems : Table PayrollOneOffItem
  deductions : Table StaffRecurringDeduction
  applications : Table PayrollDeductionApplication
  payslips : Table Payslip
  payslipSequence : ℕ

/-- The codes of the exceptions the payroll services raise, the one of the request schema, and the
constraint violations of the database. -/
inductive PayrollError
  | validationError
  | payrollRunNotFound | payrollEntryNotFound | adjustmentNotFound | oneOffItemNotFound | deductionNotFound
  | duplicatePayrollRun | runNotDraft | concurrentModification | invalidFieldForType
  | overrideNoteRequired | invalidStatusTransition | incompleteEntries | payrollRunInvalidState
  | calculationError | uniqueViolation | foreignKeyViolation
  deriving DecidableEq, Repr

namespace Register

/-- A tenant before its first payroll run. -/
def initial (records : StaffRecords) : Register where
  records := records
  runs := .empty
  entries := .empty
  adjustments := .empty
  oneOffItems := .empty
  deductions := .empty
  applications := .empty
  payslips := .empty
  payslipSequence := 0

def entriesOf (s : Register) (runId : ℕ) : List (ℕ × PayrollEntry) :=
  s.entries.select fun e => e.payrollRunId = runId

end Register

/-- `new Date(period_year, period_month - 1, 1)` -/
def PayrollRun.periodStart (run : PayrollRun) : CivilDate :=
  .firstOfMonth (12 * run.periodYear + (run.periodMonth - 1))

/-- `new Date(period_year, period_month, 0)` -/
def PayrollRun.periodEnd (run : PayrollRun) : CivilDate :=
  .lastOfMonth (12 * run.periodYear + (run.periodMonth - 1))

def validPayrollRunTransitions : PayrollRunStatus → List PayrollRunStatus
  | .draft => [.pendingApproval,.finalised,.cancelled]
  | .pendingApproval => [.draft,.finalised,.cancelled]
  | .finalised => []
  | .cancelled => []

def isValidPayrollRunTransition (source target : PayrollRunStatus) : Bool :=
  target ∈ validPayrollRunTransitions source

end EduPod.Payroll
