import EduPod.Foundation.TransactionLog
import EduPod.Foundation.UniqueIndex
import EduPod.Payroll.Finalisation

/-! # Finalising and cancelling a run, statement by statement

The two finalisation paths are transactions; `cancelRun` reads and updates without one. Related rows
that a query includes are fetched by a query of their own.
-/
namespace EduPod.Payroll.Statements
open ReadCommitted Script

/-- An application of a deduction to a run, under the key of both. -/
structure ScheduledApplication where
  payrollEntryId : ℕ
  appliedAmount : ℤ
  committed : Bool
  deriving DecidableEq, Repr

/-- The tables the three services read and write. `decrements` is no table: it notes the deductions
that have been decremented for the run. -/
structure Books where
  records : StaffRecords
  runs : Table PayrollRun
  entries : Table PayrollEntry
  adjustments : Table PayrollAdjustment
  oneOffItems : Table PayrollOneOffItem
  deductions : Table StaffRecurringDeduction
  applications : UniqueIndex (ℕ × ℕ) ScheduledApplication
  payslips : List Payslip
  payslipSequence : ℕ
  decrements : List ℕ

/-- What is locked: rows, the payslip sequence, and the entries of the two unique indexes. -/
inductive Row
  | run (id : ℕ) | entry (id : ℕ) | deduction (id : ℕ) | application (runId deductionId : ℕ)
  | sequence | payslip (entryId : ℕ)
  deriving DecidableEq, Repr

/-- An exception of the services, or of a write that finds no row. -/
inductive ServiceError
  | payroll (e : PayrollError)
  | recordNotFound
  deriving DecidableEq, Repr

abbrev Tx := Script Books Row ServiceError

namespace Books
variable (d : Books) (runId : ℕ)

def entriesOf : List (ℕ × PayrollEntry) := d.entries.select fun e => e.payrollRunId = runId

/-- The applications of the run that wait to be committed, by deduction. -/
def uncommitted : List (ℕ × ScheduledApplication) :=
  (d.applications.rows.filter fun a => a.1.1 = runId && !a.2.committed).map fun a => (a.1.2,a.2)

def committed (deductionId : ℕ) : Bool := (d.applications.get? (runId,deductionId)).any (·.committed)

def runStatus : Option PayrollRunStatus := (d.runs.get? runId).map (·.status)

/-- The entries that have a payslip. -/
def issued : List ℕ := d.payslips.map (·.payrollEntryId)

/-- What the input resolver reads besides runs, entries and deductions. -/
def inputs : Register := { Register.initial d.records with
  adjustments := d.adjustments
  oneOffItems := d.oneOffItems }

end Books

/-! ## The input resolver -/

/-- The upsert on `uniq_deduction_per_run`: an application that exists stands, and is not locked. -/
def upsertApplication (runId entryId deductionId : ℕ) (applied : ℤ) : Tx Unit :=
  statement (fun view => if (view.applications.get? (runId,deductionId)).isSome then []
      else [.application runId deductionId])
    (fun _ d => { d with applications := d.applications.insert (runId,deductionId) ⟨entryId,applied,false⟩ })
    fun _ => done ()

@[grind] def scheduleLoop (runId entryId : ℕ) : ℤ → List (ℕ × StaffRecurringDeduction) → Tx ℤ
  | total, [] => pure total
  | total, row :: rows =>
    let applied := appliedAmountOf row.2
    if applied ≤ 0 then scheduleLoop runId entryId total rows
    else do
      upsertApplication runId entryId row.1 applied
      scheduleLoop runId entryId (total + applied) rows

def scheduleApplicationForRun (runId entryId staffProfileId : ℕ) : Tx ℤ := do
  let found ← read fun d => d.runs.get? runId
  let run ← require found .recordNotFound
  let deductions ← read fun d => d.deductions.select (isDue run staffProfileId)
  scheduleLoop runId entryId 0 deductions

/-- The queries on staff records, one-off items and adjustments are one here: none of the services
writes these tables. -/
@[grind] def resolveEntries (runId : ℕ) (run : PayrollRun) : List (ℕ × PayrollEntry) → Tx (List (ℕ × CalcInput))
  | [] => pure []
  | row :: rows => do
    let found ← read fun d => findActiveForPeriod d.records row.2.staffProfileId run.periodStart run.periodEnd
    match found with
    | none => resolveEntries runId run rows
    | some comp => do
      let scheduled ← scheduleApplicationForRun runId row.1 row.2.staffProfileId
      let input ← read fun d => calcInputFor d.inputs run row.1 comp scheduled
      let rest ← resolveEntries runId run rows
      pure ((row.1,input) :: rest)

def resolveForRun (runId : ℕ) : Tx (List (ℕ × CalcInput)) := do
  let found ← read fun d => d.runs.get? runId
  let run ← require found .recordNotFound
  let entries ← read fun d => d.entriesOf runId
  resolveEntries runId run entries

/-! ## Finalisation -/

def updateEntry (entryId : ℕ) (change : PayrollEntry → PayrollEntry) : Tx Unit :=
  updateRow (.entry entryId) (fun d => (d.entries.get? entryId).isSome)
    (fun d => { d with entries := d.entries.modify entryId change }) .recordNotFound

@[grind] def computeLoop : RunTotals → List (ℕ × CalcInput) → Tx RunTotals
  | totals, [] => pure totals
  | totals, input :: inputs => do
    let result := compute input.2
    updateEntry input.1 (computed result)
    computeLoop
      { basic := totals.basic + result.basePay
        bonus := totals.bonus + result.bonusPay
        net := totals.net + result.totals.netPay
        headcount := totals.headcount + 1 } inputs

/-- The three columns are set to values computed from the row that was read. -/
def updateDeduction (deductionId : ℕ) (row : StaffRecurringDeduction) : Tx Unit :=
  updateRow (.deduction deductionId) (fun d => (d.deductions.get? deductionId).isSome)
    (fun d => { d with deductions := d.deductions.modify deductionId fun c => { c with
      remainingAmount := row.remainingAmount
      monthsRemaining := row.monthsRemaining
      active := row.active } }) .recordNotFound

/-- Sets `committed_at`; with it the decrement is noted. -/
def markCommitted (runId deductionId : ℕ) : Tx Unit :=
  updateRow (.application runId deductionId) (fun d => (d.applications.get? (runId,deductionId)).isSome)
    (fun d => { d with
      applications := d.applications.modify (runId,deductionId) fun a => { a with committed := true }
      decrements := d.decrements ++ [deductionId] }) .recordNotFound

@[grind] def commitLoop (runId : ℕ) (deductions : Table StaffRecurringDeduction) : List (ℕ × ScheduledApplication) → Tx Unit
  | [] => pure ()
  | app :: apps => do
    let deduction ← require (deductions.get? app.1) .recordNotFound
    updateDeduction app.1 (decremented app.2.appliedAmount deduction)
    markCommitted runId app.1
    commitLoop runId deductions apps

/-- The applications first, then the deductions they belong to. -/
def commitApplications (runId : ℕ) : Tx Unit := do
  let apps ← read fun d => d.uncommitted runId
  let deductions ← read fun d => d.deductions
  commitLoop runId deductions apps

def nextPayslipSequence : Tx ℕ :=
  statement (fun _ => [.sequence]) (fun _ d => { d with payslipSequence := d.payslipSequence + 1 })
    fun view => done (view.payslipSequence + 1)

/-- `payroll_entry_id` is unique among payslips. -/
def createPayslip (payslip : Payslip) : Tx Unit :=
  statement (fun _ => [.payslip payslip.payrollEntryId])
    (fun view d => if view.issued.contains payslip.payrollEntryId then d
      else { d with payslips := d.payslips ++ [payslip] })
    fun view => ensure (view.issued.contains payslip.payrollEntryId = false) (.payroll .uniqueViolation)

/-- `issued` is what the query found before the loop. -/
@[grind] def payslipLoop (run : PayrollRun) (actorUserId : ℕ) (issued : List ℕ) : List (ℕ × PayrollEntry) → Tx Unit
  | [] => pure ()
  | row :: rows =>
    if issued.contains row.1 then payslipLoop run actorUserId issued rows
    else do
      let sequence ← nextPayslipSequence
      createPayslip (payslipOf run actorUserId sequence row.1 row.2)
      payslipLoop run actorUserId issued rows

def generatePayslipsForRun (runId actorUserId : ℕ) : Tx Unit := do
  let found ← read fun d => d.runs.get? runId
  let run ← require found .recordNotFound
  let entries ← read fun d => d.entriesOf runId
  let issued ← read Books.issued
  payslipLoop run actorUserId issued entries

/-- An unconditional update of the run. -/
def updateRun (runId : ℕ) (change : PayrollRun → PayrollRun) : Tx Unit :=
  updateRow (.run runId) (fun d => (d.runs.get? runId).isSome)
    (fun d => { d with runs := d.runs.modify runId change }) .recordNotFound

def finaliseAtomic (runId actorUserId : ℕ) (expectedFromState : PayrollRunStatus) : Tx Unit := do
  let found ← read fun d => d.runs.get? runId
  let run ← require found (.payroll .payrollRunNotFound)
  if run.status = .finalised then pure ()
  else do
    ensure (run.status = expectedFromState) (.payroll .payrollRunInvalidState)
    let inputs ← resolveForRun runId
    let totals ← computeLoop ⟨0,0,0,0⟩ inputs
    commitApplications runId
    generatePayslipsForRun runId actorUserId
    updateRun runId (closed totals actorUserId)

/-- The job behind an approval; in any other state than `pending_approval` it only marks the approval. -/
def processJob (runId approverUserId : ℕ) : Tx Unit := do
  let found ← read fun d => d.runs.get? runId
  let run ← require found (.payroll .payrollRunNotFound)
  if run.status = .pendingApproval then do
    commitApplications runId
    let entries ← read fun d => d.entriesOf runId
    let issued ← read Books.issued
    payslipLoop run approverUserId issued entries
    updateRun runId (closed (entries.foldl addPersisted ⟨0,0,0,0⟩) approverUserId)
  else pure ()

/-- Outside a transaction: what is read may have changed when the update arrives. -/
def cancelRun (runId : ℕ) : Tx Unit := do
  let found ← read fun d => d.runs.get? runId
  endTransaction
  let run ← require found (.payroll .payrollRunNotFound)
  ensure (isValidPayrollRunTransition run.status .cancelled = true) (.payroll .invalidStatusTransition)
  updateRun runId fun r => { r with status := .cancelled }

inductive PayrollRequest
  | finaliseAtomic (actorUserId : ℕ) (expectedFromState : PayrollRunStatus)
  | processJob (approverUserId : ℕ)
  | cancelRun
  deriving DecidableEq

def serve (runId : ℕ) : PayrollRequest → Tx Unit
  | .finaliseAtomic actorUserId expectedFromState => finaliseAtomic runId actorUserId expectedFromState
  | .processJob approverUserId => processJob runId approverUserId
  | .cancelRun => cancelRun runId

end EduPod.Payroll.Statements
