import EduPod.Payroll.Runs

/-! # Recurring deductions

A deduction is scheduled for a run by an application row and taken off when the row is committed.
-/
namespace EduPod.Payroll
open Fallible

/-- `Math.ceil(total_amount / monthly_amount)`, the quotient being one of doubles. -/
def monthsRequired (totalAmount monthlyAmount : ℤ) : ℕ :=
  ⌈toDouble (number totalAmount / number monthlyAmount)⌉.toNat

def createDeduction (s : Register) (staffProfileId : ℕ) (totalAmount monthlyAmount : ℤ)
    (startDate : CivilDate) : Except PayrollError Register :=
  return { s with deductions := s.deductions.insert {
    staffProfileId, totalAmount, monthlyAmount, remainingAmount := totalAmount, startDate,
    monthsRemaining := monthsRequired totalAmount monthlyAmount, active := true } }

def updateDeduction (s : Register) (deductionId : ℕ) (monthlyAmount : Option ℤ) (active : Option Bool) :
    Except PayrollError Register := do
  let _ ← require (s.deductions.get? deductionId) .deductionNotFound
  return { s with deductions := s.deductions.modify deductionId fun d => { d with
    monthlyAmount := monthlyAmount.getD d.monthlyAmount
    active := active.getD d.active } }

/-- The applications keep their deduction from being deleted. -/
def deleteDeduction (s : Register) (deductionId : ℕ) : Except PayrollError Register := do
  let _ ← require (s.deductions.get? deductionId) .deductionNotFound
  ensure (∀ a ∈ s.applications.rows, a.2.staffRecurringDeductionId ≠ deductionId) .foreignKeyViolation
  return { s with deductions := s.deductions.erase deductionId }

def isDue (run : PayrollRun) (staffProfileId : ℕ) (d : StaffRecurringDeduction) : Bool :=
  d.staffProfileId = staffProfileId && d.active && d.startDate ≤ run.periodStart

def appliedAmountOf (d : StaffRecurringDeduction) : ℤ := min d.monthlyAmount d.remainingAmount

def hasApplication (s : Register) (runId deductionId : ℕ) : Bool :=
  s.applications.rows.any fun a =>
    a.2.payrollRunId = runId && a.2.staffRecurringDeductionId = deductionId

/-- One round of the loop: an application that exists stands, and its amount is counted anew. -/
def scheduleApplication (runId entryId : ℕ) (acc : Register × ℤ) (row : ℕ × StaffRecurringDeduction) :
    Register × ℤ :=
  let applied := appliedAmountOf row.2
  if applied ≤ 0 then acc
  else
    let s := acc.1
    (if hasApplication s runId row.1 then s
      else { s with applications := s.applications.insert ⟨runId,entryId,row.1,applied,false⟩ },
      acc.2 + applied)

def scheduleApplicationForRun (s : Register) (runId : ℕ) (run : PayrollRun) (entryId staffProfileId : ℕ) :
    Register × ℤ :=
  (s.deductions.select (isDue run staffProfileId)).foldl (scheduleApplication runId entryId) (s,0)

/-- The deduction after an application of it is committed. -/
def decremented (appliedAmount : ℤ) (d : StaffRecurringDeduction) : StaffRecurringDeduction :=
  let newRemaining := max (d.remainingAmount - appliedAmount) 0
  let newMonthsRemaining := d.monthsRemaining - 1
  { d with
    remainingAmount := newRemaining
    monthsRemaining := newMonthsRemaining
    active := decide (0 < newRemaining ∧ 0 < newMonthsRemaining) }

/-- One round of the loop. The deduction is written from the row that was read with the application. -/
def commitApplication (read : Table StaffRecurringDeduction) (s : Register)
    (row : ℕ × PayrollDeductionApplication) : Register :=
  match read.get? row.2.staffRecurringDeductionId with
  | none => s
  | some d =>
    { s with
      deductions := s.deductions.modify row.2.staffRecurringDeductionId fun c => { c with
        remainingAmount := (decremented row.2.appliedAmount d).remainingAmount
        monthsRemaining := (decremented row.2.appliedAmount d).monthsRemaining
        active := (decremented row.2.appliedAmount d).active }
      applications := s.applications.modify row.1 fun a => { a with committed := true } }

def commitApplications (s : Register) (runId : ℕ) : Register :=
  (s.applications.select fun a => a.payrollRunId = runId && !a.committed).foldl
    (commitApplication s.deductions) s

/-! ## The two finalisation paths

`finaliseAtomic` resolves and computes every entry anew; the job behind an approval adds up what the
entries already hold.
-/

/-! ## The input resolver -/

def laterStart (best : Option StaffCompensation) (c : StaffCompensation) : Option StaffCompensation :=
  match best with
  | none => some c
  | some b => if c.effectiveFrom ≤ b.effectiveFrom then some b else some c

/-- The contract that overlaps the period; of several the one that starts last. -/
def findActiveForPeriod (records : StaffRecords) (staffProfileId : ℕ) (periodStart periodEnd : CivilDate) :
    Option StaffCompensation :=
  (records.compensations.filter fun c => c.staffProfileId = staffProfileId && c.effectiveFrom ≤ periodEnd &&
    c.effectiveTo.all (periodStart ≤ ·)).foldl laterStart none

def attendedDays : StaffAttendanceStatus → ℚ
  | .present | .paidLeave | .sickLeave => 1
  | .halfDay => 1 / 2
  | .absent | .unpaidLeave => 0

def calculateDaysWorkedForPeriod (records : StaffRecords) (staffProfileId : ℕ)
    (periodStart periodEnd : CivilDate) (fallbackTotalWorkingDays : ℕ) : ℚ :=
  let rows := records.attendance.filter fun r =>
    r.staffProfileId = staffProfileId && periodStart ≤ r.date && r.date ≤ periodEnd
  if rows.isEmpty then fallbackTotalWorkingDays else (rows.map fun r => attendedDays r.status).sum

def calculateAllowancesTotalForPeriod (records : StaffRecords) (staffProfileId : ℕ)
    (periodStart periodEnd : CivilDate) : ℤ :=
  ((records.allowances.filter fun a => a.staffProfileId = staffProfileId && a.effectiveFrom ≤ periodEnd &&
    a.effectiveTo.all (periodStart ≤ ·)).map (·.amount)).sum

/-- The names the services compare with; none of the types in use has one of them. -/
def negativeTypes : List String := ["deduction","correction-negative"]

def PayrollAdjustmentType.name : PayrollAdjustmentType → String
  | .underpayment => "underpayment"
  | .overpayment => "overpayment"
  | .bonus => "bonus"
  | .reimbursement => "reimbursement"
  | .other => "other"

def PayrollOneOffType.name : PayrollOneOffType → String
  | .bonus => "bonus"
  | .reimbursement => "reimbursement"
  | .other => "other"

def addBySign (sums : ℤ × ℤ) (row : String × ℤ) : ℤ × ℤ :=
  if row.1 ∈ negativeTypes ∨ row.2 < 0 then (sums.1,sums.2 + |row.2|) else (sums.1 + row.2,sums.2)

/-- The magnitudes of the positive and of the negative rows. -/
def sumBySign (rows : List (String × ℤ)) : ℤ × ℤ := rows.foldl addBySign (0,0)

def sumOneOffsByEntry (s : Register) (entryId : ℕ) : ℤ × ℤ :=
  sumBySign ((s.oneOffItems.select fun i => i.payrollEntryId = entryId).map fun i => (i.2.itemType.name,i.2.amount))

def sumAdjustmentsByEntry (s : Register) (entryId : ℕ) : ℤ × ℤ :=
  sumBySign ((s.adjustments.select fun a => a.payrollEntryId = entryId).map fun a =>
    (a.2.adjustmentType.name,a.2.amount))

/-- Days count for a salary and classes for a rate per class. -/
def calcInputFor (s : Register) (run : PayrollRun) (entryId : ℕ) (comp : StaffCompensation)
    (scheduledDeductionsTotal : ℤ) : CalcInput where
  compensationType := comp.compensationType
  baseSalary := comp.baseSalary
  daysWorked :=
    if comp.compensationType = .salaried then
      calculateDaysWorkedForPeriod s.records comp.staffProfileId run.periodStart run.periodEnd run.totalWorkingDays
    else run.totalWorkingDays
  totalWorkingDays := run.totalWorkingDays
  perClassRate := comp.perClassRate
  classesDelivered := if comp.compensationType = .perClass then deliveredCount s.records run comp.staffProfileId else 0
  bonusClasses := 0
  bonusClassMultiplier := some (comp.bonusDayMultiplier / 100)
  allowancesTotal :=
    calculateAllowancesTotalForPeriod s.records comp.staffProfileId run.periodStart run.periodEnd
  oneOffPositiveTotal := (sumOneOffsByEntry s entryId).1
  oneOffNegativeTotal := (sumOneOffsByEntry s entryId).2
  adjustmentPositiveTotal := (sumAdjustmentsByEntry s entryId).1
  adjustmentNegativeTotal := (sumAdjustmentsByEntry s entryId).2
  scheduledDeductionsTotal := scheduledDeductionsTotal

/-- One round of the loop: an entry whose staff member has no contract in the period is skipped. -/
def resolveEntry (runId : ℕ) (run : PayrollRun) (acc : Register × List (ℕ × CalcInput))
    (row : ℕ × PayrollEntry) : Register × List (ℕ × CalcInput) :=
  match findActiveForPeriod acc.1.records row.2.staffProfileId run.periodStart run.periodEnd with
  | none => acc
  | some comp =>
    let scheduled := scheduleApplicationForRun acc.1 runId run row.1 row.2.staffProfileId
    (scheduled.1,acc.2 ++ [(row.1,calcInputFor acc.1 run row.1 comp scheduled.2)])

def resolveForRun (s : Register) (runId : ℕ) (run : PayrollRun) : Register × List (ℕ × CalcInput) :=
  (s.entriesOf runId).foldl (resolveEntry runId run) (s,[])

/-! ## Finalisation -/

structure RunTotals where
  basic : ℤ
  bonus : ℤ
  net : ℤ
  headcount : ℕ
  deriving DecidableEq, Repr

def computed (result : CalcResult) (entry : PayrollEntry) : PayrollEntry :=
  { entry with
    totals := result.totals
    basicPay := result.basePay
    bonusPay := result.bonusPay
    totalPay := result.totals.netPay }

/-- One round of the loop over the resolved inputs. -/
def computeEntry (acc : Register × RunTotals) (input : ℕ × CalcInput) : Register × RunTotals :=
  let result := compute input.2
  ({ acc.1 with entries := acc.1.entries.modify input.1 (computed result) },
    { basic := acc.2.basic + result.basePay
      bonus := acc.2.bonus + result.bonusPay
      net := acc.2.net + result.totals.netPay
      headcount := acc.2.headcount + 1 })

def payslipOf (run : PayrollRun) (actorUserId sequence entryId : ℕ) (entry : PayrollEntry) : Payslip where
  payrollEntryId := entryId
  sequence := sequence
  issuedByUserId := actorUserId
  compensationType := entry.compensationType
  baseSalary := entry.snapshotBaseSalary
  perClassRate := entry.snapshotPerClassRate
  bonusClassMultiplier := entry.snapshotBonusDayMultiplier
  daysWorked := entry.daysWorked.getD run.totalWorkingDays
  totalWorkingDays := run.totalWorkingDays
  classesDelivered := entry.classesTaught.getD 0
  classesScheduled := entry.snapshotAssignedClassCount.getD 0
  basePay := entry.basicPay
  bonusPay := entry.bonusPay
  totals := entry.totals

def hasPayslip (s : Register) (entryId : ℕ) : Bool := s.payslips.rows.any fun p => p.2.payrollEntryId = entryId

/-- One round of the loop: an entry that has a payslip is left alone. -/
def issuePayslip (run : PayrollRun) (actorUserId : ℕ) (s : Register) (row : ℕ × PayrollEntry) : Register :=
  if hasPayslip s row.1 then s
  else
    let sequence := s.payslipSequence + 1
    { s with
      payslipSequence := sequence
      payslips := s.payslips.insert (payslipOf run actorUserId sequence row.1 row.2) }

def generatePayslipsForRun (s : Register) (runId : ℕ) (run : PayrollRun) (actorUserId : ℕ) : Register :=
  (s.entriesOf runId).foldl (issuePayslip run actorUserId) s

def closed (totals : RunTotals) (actorUserId : ℕ) (run : PayrollRun) : PayrollRun :=
  { run with
    status := .finalised
    totalBasicPay := totals.basic
    totalBonusPay := totals.bonus
    totalPay := totals.net
    headcount := totals.headcount
    finalisedByUserId := some actorUserId }

def closeRun (s : Register) (runId : ℕ) (totals : RunTotals) (actorUserId : ℕ) : Register :=
  { s with runs := s.runs.modify runId (closed totals actorUserId) }

def finaliseAtomic (s : Register) (runId actorUserId : ℕ) (expectedFromState : PayrollRunStatus) :
    Except PayrollError Register := do
  let run ← require (s.runs.get? runId) .payrollRunNotFound
  if run.status = .finalised then return s
  else
    ensure (run.status = expectedFromState) .payrollRunInvalidState
    let resolved := resolveForRun s runId run
    let computed := resolved.2.foldl computeEntry (resolved.1,⟨0,0,0,0⟩)
    let committed := commitApplications computed.1 runId
    return closeRun (generatePayslipsForRun committed runId run actorUserId) runId computed.2 actorUserId

/-- What the job adds up. -/
def addPersisted (totals : RunTotals) (row : ℕ × PayrollEntry) : RunTotals where
  basic := totals.basic + row.2.basicPay
  bonus := totals.bonus + row.2.bonusPay
  net := totals.net + row.2.totals.netPay
  headcount := totals.headcount + 1

/-- The job behind an approval; in any other state than `pending_approval` it only marks the approval. -/
def processJob (s : Register) (runId approverUserId : ℕ) : Except PayrollError Register := do
  let run ← require (s.runs.get? runId) .payrollRunNotFound
  if run.status = .pendingApproval then
    let committed := commitApplications s runId
    let entries := committed.entriesOf runId
    let totals := entries.foldl addPersisted ⟨0,0,0,0⟩
    return closeRun (entries.foldl (issuePayslip run approverUserId) committed) runId totals approverUserId
  else return s

/-- The direct path may start from either of the open states. -/
def executeFinalisation (s : Register) (runId userId : ℕ) : Except PayrollError Register := do
  let run ← require (s.runs.get? runId) .payrollRunNotFound
  ensure (run.status ≠ .cancelled) .invalidStatusTransition
  finaliseAtomic s runId userId (if run.status = .pendingApproval then .pendingApproval else .draft)

/-- `approved` is the answer of the approval service where it is asked. -/
def finalise (s : Register) (runId userId : ℕ) (stale requireApproval isSchoolOwner approved : Bool) :
    Except PayrollError Register := do
  let run ← require (s.runs.get? runId) .payrollRunNotFound
  ensure (isValidPayrollRunTransition run.status .pendingApproval ∨
    isValidPayrollRunTransition run.status .finalised) .invalidStatusTransition
  ensure (stale = false) .concurrentModification
  ensure (∀ e ∈ s.entriesOf runId, (e.2.compensationType = .salaried → e.2.daysWorked.isSome) ∧
    (e.2.compensationType = .perClass → e.2.classesTaught.isSome)) .incompleteEntries
  if run.status = .draft ∧ requireApproval ∧ ¬isSchoolOwner ∧ ¬approved then
    return { s with runs := s.runs.modify runId fun r => { r with status := .pendingApproval } }
  else executeFinalisation s runId userId

/-! ## Requests -/

inductive Command
  | editStaffRecords (records : StaffRecords)
  | createRun (periodYear periodMonth totalWorkingDays : ℕ)
  | updateRun (runId : ℕ) (totalWorkingDays : Option ℕ) (stale : Bool)
  | refreshEntries (runId : ℕ)
  | updateEntry (entryId : ℕ) (dto : UpdatePayrollEntryDto) (stale : Bool)
  | createAdjustment (runId entryId : ℕ) (adjustmentType : PayrollAdjustmentType) (amount : ℤ)
  | updateAdjustment (adjustmentId : ℕ) (adjustmentType : Option PayrollAdjustmentType) (amount : Option ℤ)
  | deleteAdjustment (adjustmentId : ℕ)
  | createOneOffItem (entryId : ℕ) (itemType : PayrollOneOffType) (amount : ℤ)
  | updateOneOffItem (itemId : ℕ) (itemType : Option PayrollOneOffType) (amount : Option ℤ)
  | deleteOneOffItem (itemId : ℕ)
  | generateSessions (runId : ℕ)
  | createDeduction (staffProfileId : ℕ) (totalAmount monthlyAmount : ℤ) (startDate : CivilDate)
  | updateDeduction (deductionId : ℕ) (monthlyAmount : Option ℤ) (active : Option Bool)
  | deleteDeduction (deductionId : ℕ)
  | finalise (runId userId : ℕ) (stale requireApproval isSchoolOwner approved : Bool)
  | approvalCallback (runId approverUserId : ℕ)
  | cancelRun (runId : ℕ)

/-- What the request schemas check. -/
def Command.valid : Command → Bool
  | .createRun periodYear periodMonth totalWorkingDays =>
    2020 ≤ periodYear && periodYear ≤ 2100 && 1 ≤ periodMonth && periodMonth ≤ 12 &&
      1 ≤ totalWorkingDays && totalWorkingDays ≤ 31
  | .updateRun _ totalWorkingDays _ => totalWorkingDays.all fun days => 1 ≤ days && days ≤ 31
  | .updateEntry _ dto _ =>
    (dto.daysWorked.getD none).all (· ≤ 60) && (dto.classesTaught.getD none).all (· ≤ 500) &&
      (dto.notes.getD none).all (·.length ≤ 1000) && (dto.overrideTotalPay.getD none).all (0 ≤ ·) &&
      (dto.overrideNote.getD none).all fun note => 1 ≤ note.length && note.length ≤ 1000
  | .createOneOffItem _ _ amount => 0 < amount
  | .updateOneOffItem _ _ amount => amount.all (0 < ·)
  | .createDeduction _ totalAmount monthlyAmount _ =>
    0 < totalAmount && 0 < monthlyAmount && monthlyAmount ≤ totalAmount
  | .updateDeduction _ monthlyAmount _ => monthlyAmount.all (0 < ·)
  | _ => true

def serve (s : Register) : Command → Except PayrollError Register
  | .editStaffRecords records => .ok { s with records := records }
  | .createRun periodYear periodMonth totalWorkingDays => createRun s periodYear periodMonth totalWorkingDays
  | .updateRun runId totalWorkingDays stale => updateRun s runId totalWorkingDays stale
  | .refreshEntries runId => refreshEntries s runId
  | .updateEntry entryId dto stale => updateEntry s entryId dto stale
  | .createAdjustment runId entryId adjustmentType amount => createAdjustment s runId entryId adjustmentType amount
  | .updateAdjustment adjustmentId adjustmentType amount => updateAdjustment s adjustmentId adjustmentType amount
  | .deleteAdjustment adjustmentId => deleteAdjustment s adjustmentId
  | .createOneOffItem entryId itemType amount => createOneOffItem s entryId itemType amount
  | .updateOneOffItem itemId itemType amount => updateOneOffItem s itemId itemType amount
  | .deleteOneOffItem itemId => deleteOneOffItem s itemId
  | .generateSessions runId => generateSessions s runId
  | .createDeduction staffProfileId totalAmount monthlyAmount startDate =>
    createDeduction s staffProfileId totalAmount monthlyAmount startDate
  | .updateDeduction deductionId monthlyAmount active => updateDeduction s deductionId monthlyAmount active
  | .deleteDeduction deductionId => deleteDeduction s deductionId
  | .finalise runId userId stale requireApproval isSchoolOwner approved =>
    finalise s runId userId stale requireApproval isSchoolOwner approved
  | .approvalCallback runId approverUserId => processJob s runId approverUserId
  | .cancelRun runId => cancelRun s runId

/-- A refused request leaves the tables as they are. -/
def step (s : Register) (command : Command) : Register :=
  if command.valid then
    match serve s command with
    | .ok s' => s'
    | .error _ => s
  else s

end EduPod.Payroll
