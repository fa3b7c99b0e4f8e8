import EduPod.Payroll.Calculation

/-! # Draft runs

Creating and refreshing the entries of a run, and the edits of a draft. Entries are filled by the
legacy adapter; the aggregate columns keep their defaults.
-/
namespace EduPod.Payroll
open Fallible

/-- Contracts that are still open, of staff who are active. -/
def activeCompensations (records : StaffRecords) : List StaffCompensation :=
  records.compensations.filter fun c => c.effectiveTo.isNone && records.activeStaff.contains c.staffProfileId

def scheduleCount (records : StaffRecords) (run : PayrollRun) (staffProfileId : ℕ) : ℕ :=
  records.schedules.countP fun s => s.teacherStaffId = staffProfileId &&
    s.effectiveStartDate ≤ run.periodEnd && s.effectiveEndDate.all (run.periodStart ≤ ·)

def autoPopulatedClassCount (records : StaffRecords) (run : PayrollRun) (comp : StaffCompensation) :
    Option ℕ :=
  if records.autoPopulateClassCounts ∧ comp.compensationType = .perClass then
    some (scheduleCount records run comp.staffProfileId)
  else none

def calcInputOf (comp : StaffCompensation) (totalWorkingDays : ℕ) (daysWorked classesTaught : Option ℕ) :
    LegacyCalcInput where
  compensationType := comp.compensationType
  snapshotBaseSalary := comp.baseSalary
  snapshotPerClassRate := comp.perClassRate
  snapshotAssignedClassCount := comp.assignedClassCount
  snapshotBonusClassRate := comp.bonusClassRate
  snapshotBonusDayMultiplier := some comp.bonusDayMultiplier
  totalWorkingDays := totalWorkingDays
  daysWorked := daysWorked
  classesTaught := classesTaught

def buildPayrollEntryData (payrollRunId : ℕ) (comp : StaffCompensation) (daysWorked classCount : Option ℕ)
    (result : LegacyCalcResult) : PayrollEntry where
  payrollRunId := payrollRunId
  staffProfileId := comp.staffProfileId
  compensationType := comp.compensationType
  snapshotBaseSalary := comp.baseSalary
  snapshotPerClassRate := comp.perClassRate
  snapshotAssignedClassCount := comp.assignedClassCount
  snapshotBonusClassRate := comp.bonusClassRate
  snapshotBonusDayMultiplier := some comp.bonusDayMultiplier
  daysWorked := daysWorked
  classesTaught := classCount
  autoPopulatedClassCount := classCount
  basicPay := result.basicPay
  bonusPay := result.bonusPay
  totalPay := result.totalPay
  overrideTotalPay := none
  overrideNote := none
  notes := none
  totals := .zero

/-- Entries are unique per run and staff member. -/
def addEntry (runId : ℕ) (run : PayrollRun) (s : Register) (comp : StaffCompensation) :
    Except PayrollError Register := do
  let classCount := autoPopulatedClassCount s.records run comp
  let daysWorked := if comp.compensationType = .salaried then some run.totalWorkingDays else none
  let result ← calculate (calcInputOf comp run.totalWorkingDays daysWorked classCount)
  ensure (∀ e ∈ s.entriesOf runId, e.2.staffProfileId ≠ comp.staffProfileId) .uniqueViolation
  return { s with entries := s.entries.insert (buildPayrollEntryData runId comp daysWorked classCount result) }

def newRun (periodYear periodMonth totalWorkingDays : ℕ) : PayrollRun where
  periodMonth := periodMonth
  periodYear := periodYear
  totalWorkingDays := totalWorkingDays
  status := .draft
  totalBasicPay := 0
  totalBonusPay := 0
  totalPay := 0
  headcount := 0
  finalisedByUserId := none

def createRun (s : Register) (periodYear periodMonth totalWorkingDays : ℕ) : Except PayrollError Register := do
  ensure (∀ r ∈ s.runs.rows, r.2.periodMonth = periodMonth → r.2.periodYear = periodYear →
    r.2.status = .cancelled) .duplicatePayrollRun
  let run := newRun periodYear periodMonth totalWorkingDays
  (activeCompensations s.records).foldlM (addEntry s.runs.next run) { s with runs := s.runs.insert run }

def refreshed (comp : StaffCompensation) (classesTaught classCount : Option ℕ) (result : LegacyCalcResult)
    (entry : PayrollEntry) : PayrollEntry :=
  { entry with
    compensationType := comp.compensationType
    snapshotBaseSalary := comp.baseSalary
    snapshotPerClassRate := comp.perClassRate
    snapshotAssignedClassCount := comp.assignedClassCount
    snapshotBonusClassRate := comp.bonusClassRate
    snapshotBonusDayMultiplier := some comp.bonusDayMultiplier
    classesTaught := classesTaught
    autoPopulatedClassCount := classCount
    basicPay := result.basicPay
    bonusPay := result.bonusPay
    totalPay := result.totalPay }

/-- The first open contract of the staff member decides, and only an active one is taken over. -/
def refreshEntry (run : PayrollRun) (s : Register) (row : ℕ × PayrollEntry) : Except PayrollError Register :=
  match s.records.compensations.find? fun c => c.effectiveTo.isNone && c.staffProfileId = row.2.staffProfileId with
  | none => return s
  | some comp => do
    if comp.staffProfileId ∈ s.records.activeStaff then
      let classCount := autoPopulatedClassCount s.records run comp
      let classesTaught := row.2.classesTaught.orElse fun _ => classCount
      let result ← calculate (calcInputOf comp run.totalWorkingDays row.2.daysWorked classesTaught)
      return { s with entries := s.entries.modify row.1 (refreshed comp classesTaught classCount result) }
    else return s

def refreshEntries (s : Register) (runId : ℕ) : Except PayrollError Register := do
  let run ← require (s.runs.get? runId) .payrollRunNotFound
  ensure (run.status = .draft) .runNotDraft
  let existing := s.entriesOf runId
  let s' ← existing.foldlM (refreshEntry run) s
  let newcomers := (activeCompensations s.records).filter fun c =>
    existing.all fun e => e.2.staffProfileId ≠ c.staffProfileId
  newcomers.foldlM (addEntry runId run) s'

def entryCalcInput (entry : PayrollEntry) (totalWorkingDays : ℕ) (daysWorked classesTaught : Option ℕ) :
    LegacyCalcInput where
  compensationType := entry.compensationType
  snapshotBaseSalary := entry.snapshotBaseSalary
  snapshotPerClassRate := entry.snapshotPerClassRate
  snapshotAssignedClassCount := entry.snapshotAssignedClassCount
  snapshotBonusClassRate := entry.snapshotBonusClassRate
  snapshotBonusDayMultiplier := entry.snapshotBonusDayMultiplier
  totalWorkingDays := totalWorkingDays
  daysWorked := daysWorked
  classesTaught := classesTaught

def withPay (result : LegacyCalcResult) (entry : PayrollEntry) : PayrollEntry :=
  { entry with basicPay := result.basicPay, bonusPay := result.bonusPay, totalPay := result.totalPay }

/-- What `updateRun` passes to the adapter for an entry: everything of a per-class contract is left out. -/
def salariedCalcInput (entry : PayrollEntry) (totalWorkingDays : ℕ) : LegacyCalcInput where
  compensationType := .salaried
  snapshotBaseSalary := entry.snapshotBaseSalary
  snapshotPerClassRate := none
  snapshotAssignedClassCount := none
  snapshotBonusClassRate := none
  snapshotBonusDayMultiplier := entry.snapshotBonusDayMultiplier
  totalWorkingDays := totalWorkingDays
  daysWorked := entry.daysWorked
  classesTaught := none

/-- The salaried entries one by one, without a transaction: the first error ends the loop and what
was written stays. -/
@[grind] def recalculateSalaried (totalWorkingDays : ℕ) : Register → List (ℕ × PayrollEntry) → Register
  | s, [] => s
  | s, row :: rows =>
    match calculate (salariedCalcInput row.2 totalWorkingDays) with
    | .error _ => s
    | .ok result =>
      recalculateSalaried totalWorkingDays { s with entries := s.entries.modify row.1 (withPay result) } rows

/-- `stale` says that `expected_updated_at` is not the time of the last change. -/
def updateRun (s : Register) (runId : ℕ) (totalWorkingDays : Option ℕ) (stale : Bool) :
    Except PayrollError Register := do
  let run ← require (s.runs.get? runId) .payrollRunNotFound
  ensure (run.status = .draft) .runNotDraft
  ensure (stale = false) .concurrentModification
  match totalWorkingDays with
  | none => return s
  | some days =>
    let s' := { s with runs := s.runs.modify runId fun r => { r with totalWorkingDays := days } }
    if days = run.totalWorkingDays then return s'
    else return recalculateSalaried days s' ((s.entriesOf runId).filter fun e => e.2.compensationType = .salaried)

/-- `none` where a field is left out, `some none` where it is cleared. -/
structure UpdatePayrollEntryDto where
  daysWorked : Option (Option ℕ)
  classesTaught : Option (Option ℕ)
  notes : Option (Option String)
  overrideTotalPay : Option (Option ℤ)
  overrideNote : Option (Option String)
  deriving DecidableEq

/-- What `String.prototype.trim` takes off. -/
def isWhiteSpace (c : Char) : Bool :=
  let n := c.toNat
  (9 ≤ n && n ≤ 13) || n == 0x20 || n == 0xA0 || n == 0x1680 || (0x2000 ≤ n && n ≤ 0x200A) ||
    n == 0x2028 || n == 0x2029 || n == 0x202F || n == 0x205F || n == 0x3000 || n == 0xFEFF

/-- `!override_note || override_note.trim().length === 0` -/
def isBlank (note : Option (Option String)) : Bool :=
  match note with
  | some (some text) => text.toList.all isWhiteSpace
  | _ => true

/-- The override columns after an update. -/
def overridden (dto : UpdatePayrollEntryDto) (entry : PayrollEntry) : PayrollEntry :=
  match dto.overrideTotalPay with
  | none => entry
  | some amount => { entry with overrideTotalPay := amount, overrideNote := dto.overrideNote.getD none }

def updateEntry (s : Register) (entryId : ℕ) (dto : UpdatePayrollEntryDto) (stale : Bool) :
    Except PayrollError Register := do
  let entry ← require (s.entries.get? entryId) .payrollEntryNotFound
  let run ← require (s.runs.get? entry.payrollRunId) .payrollRunNotFound
  ensure (run.status = .draft) .runNotDraft
  ensure (stale = false) .concurrentModification
  ensure ((dto.daysWorked.getD none).isSome → entry.compensationType = .salaried) .invalidFieldForType
  ensure ((dto.classesTaught.getD none).isSome → entry.compensationType = .perClass) .invalidFieldForType
  let daysWorked := dto.daysWorked.getD entry.daysWorked
  let classesTaught := dto.classesTaught.getD entry.classesTaught
  let result ← calculate (entryCalcInput entry run.totalWorkingDays daysWorked classesTaught)
  ensure ((dto.overrideTotalPay.getD none).isSome → isBlank dto.overrideNote = false) .overrideNoteRequired
  return { s with entries := s.entries.modify entryId fun e => overridden dto (withPay result { e with
    daysWorked := daysWorked
    classesTaught := classesTaught
    notes := dto.notes.getD e.notes }) }

def cancelRun (s : Register) (runId : ℕ) : Except PayrollError Register := do
  let run ← require (s.runs.get? runId) .payrollRunNotFound
  ensure (isValidPayrollRunTransition run.status .cancelled) .invalidStatusTransition
  return { s with runs := s.runs.modify runId fun r => { r with status := .cancelled } }

/-! ## Adjustments and one-off items -/

def entryRunIsDraft (s : Register) (entry : PayrollEntry) : Prop :=
  (s.runs.get? entry.payrollRunId).map (·.status) = some .draft

instance (s : Register) (entry : PayrollEntry) : Decidable (entryRunIsDraft s entry) :=
  inferInstanceAs (Decidable ((s.runs.get? entry.payrollRunId).map (·.status) = some .draft))

def createAdjustment (s : Register) (runId entryId : ℕ) (adjustmentType : PayrollAdjustmentType) (amount : ℤ) :
    Except PayrollError Register := do
  let entry ← require (s.entries.get? entryId) .payrollEntryNotFound
  ensure (entry.payrollRunId = runId) .payrollEntryNotFound
  ensure (entryRunIsDraft s entry) .runNotDraft
  return { s with adjustments := s.adjustments.insert ⟨runId,entryId,adjustmentType,amount⟩ }

def adjustmentRunIsDraft (s : Register) (adjustment : PayrollAdjustment) : Prop :=
  (s.runs.get? adjustment.payrollRunId).map (·.status) = some .draft

instance (s : Register) (adjustment : PayrollAdjustment) : Decidable (adjustmentRunIsDraft s adjustment) :=
  inferInstanceAs (Decidable ((s.runs.get? adjustment.payrollRunId).map (·.status) = some .draft))

def updateAdjustment (s : Register) (adjustmentId : ℕ) (adjustmentType : Option PayrollAdjustmentType)
    (amount : Option ℤ) : Except PayrollError Register := do
  let adjustment ← require (s.adjustments.get? adjustmentId) .adjustmentNotFound
  ensure (adjustmentRunIsDraft s adjustment) .runNotDraft
  return { s with adjustments := s.adjustments.modify adjustmentId fun a => { a with
    adjustmentType := adjustmentType.getD a.adjustmentType
    amount := amount.getD a.amount } }

def deleteAdjustment (s : Register) (adjustmentId : ℕ) : Except PayrollError Register := do
  let adjustment ← require (s.adjustments.get? adjustmentId) .adjustmentNotFound
  ensure (adjustmentRunIsDraft s adjustment) .runNotDraft
  return { s with adjustments := s.adjustments.erase adjustmentId }

def createOneOffItem (s : Register) (entryId : ℕ) (itemType : PayrollOneOffType) (amount : ℤ) :
    Except PayrollError Register := do
  let entry ← require (s.entries.get? entryId) .payrollEntryNotFound
  ensure (entryRunIsDraft s entry) .runNotDraft
  return { s with oneOffItems := s.oneOffItems.insert ⟨entryId,itemType,amount⟩ }

def updateOneOffItem (s : Register) (itemId : ℕ) (itemType : Option PayrollOneOffType) (amount : Option ℤ) :
    Except PayrollError Register := do
  let item ← require (s.oneOffItems.get? itemId) .oneOffItemNotFound
  let entry ← require (s.entries.get? item.payrollEntryId) .payrollEntryNotFound
  ensure (entryRunIsDraft s entry) .runNotDraft
  return { s with oneOffItems := s.oneOffItems.modify itemId fun i => { i with
    itemType := itemType.getD i.itemType
    amount := amount.getD i.amount } }

def deleteOneOffItem (s : Register) (itemId : ℕ) : Except PayrollError Register := do
  let item ← require (s.oneOffItems.get? itemId) .oneOffItemNotFound
  let entry ← require (s.entries.get? item.payrollEntryId) .payrollEntryNotFound
  ensure (entryRunIsDraft s entry) .runNotDraft
  return { s with oneOffItems := s.oneOffItems.erase itemId }

/-! ## The session generation job -/

def deliveredCount (records : StaffRecords) (run : PayrollRun) (staffProfileId : ℕ) : ℕ :=
  records.deliveries.countP fun d => d.staffProfileId = staffProfileId && run.periodStart ≤ d.deliveryDate &&
    d.deliveryDate ≤ run.periodEnd && d.status = .delivered

/-- The job asks for the run but not for its status. -/
def generateSessions (s : Register) (runId : ℕ) : Except PayrollError Register := do
  let run ← require (s.runs.get? runId) .payrollRunNotFound
  return ((s.entriesOf runId).filter fun e => e.2.compensationType = .perClass).foldl (fun s row => { s with
    entries := s.entries.modify row.1 fun e => { e with
      classesTaught := some (deliveredCount s.records run row.2.staffProfileId)
      autoPopulatedClassCount := some (deliveredCount s.records run row.2.staffProfileId) } }) s

end EduPod.Payroll
