import EduPod.Foundation.CivilDate
import EduPod.Foundation.Double
import EduPod.Finance.Invoices

/-! # The recurring invoice job

The job runs once a day over all configs that are due. Each household of a config is billed in a
transaction of its own, and a transaction that fails is logged and nothing more.
-/
namespace EduPod.Finance

inductive RecurringFrequency
  | monthly | term
  deriving DecidableEq, Repr

inductive DiscountType
  | fixed | percent
  deriving DecidableEq, Repr

/-- `value` is in cents for a fixed discount and in hundredths of a percent otherwise. -/
structure Discount where
  discountType : DiscountType
  value : ℤ
  deriving DecidableEq, Repr

structure HouseholdFeeAssignment where
  householdId : ℕ
  effectiveTo : Option CivilDate
  discount : Option Discount
  deriving DecidableEq

structure FeeStructure where
  name : String
  amount : ℤ
  householdFeeAssignments : Table HouseholdFeeAssignment

structure RecurringInvoiceConfig where
  frequency : RecurringFrequency
  nextGenerationDate : CivilDate
  lastGeneratedAt : Option ℤ
  active : Bool
  feeStructure : FeeStructure

/-- One transaction that was to bill an assignment for the period of a generation date. -/
structure Attempt where
  configId : ℕ
  assignmentId : ℕ
  period : CivilDate
  created : Bool

/-- The tables of one tenant that the job works on. `attempts` and `generations` only record what
it did, oldest first: the transactions, and the dates it moved a config on from. -/
structure Billing where
  tenantExists : Bool
  ledger : Ledger
  configs : Table RecurringInvoiceConfig
  attempts : List Attempt
  generations : List (ℕ × CivilDate)

/-- One run of the job: its time, the tenant's setting, and which of its database calls fail. -/
structure JobRun where
  now : ℤ
  autoIssue : Bool
  lookupFails : ℕ → Bool
  transactionFails : ℕ → ℕ → Bool
  updateFails : ℕ → Bool

/-- A date column keeps the day of an instant only. -/
def toDateColumn (instant : ℤ) : ℤ := instant - instant % msPerDay

def JobRun.today (run : JobRun) : CivilDate := CivilDate.ofEpochDay (run.now / msPerDay).toNat

/-- A column of two decimals as a number. -/
def toNumber (column : ℤ) : ℚ := toDouble (column / 100)

/-- What a percentage comes to when it is made a fraction first, in cents and not yet rounded to whole ones. -/
def feeTimesFraction (feeAmount percentage : ℤ) : ℚ :=
  toDouble (toDouble (toNumber feeAmount * toDouble (toNumber percentage / 100)) * 100)

def discountAmountOf (feeAmount : ℤ) : Option Discount → ℤ
  | none => 0
  | some discount =>
    match discount.discountType with
    | .percent => roundMoney (feeTimesFraction feeAmount discount.value)
    | .fixed => roundMoney discount.value

def lineTotalOf (feeAmount : ℤ) (discount : Option Discount) : ℤ :=
  match discount with
  | none => feeAmount
  | some _ => roundMoney (feeAmount - discountAmountOf feeAmount discount : ℤ)

def recurringInvoice (run : JobRun) (feeStructure : FeeStructure) (assignment : HouseholdFeeAssignment) :
    Invoice :=
  let feeAmount := feeStructure.amount
  let lineTotal := lineTotalOf feeAmount assignment.discount
  { householdId := assignment.householdId
    status := if run.autoIssue then .issued else .draft
    issueDate := if run.autoIssue then some (toDateColumn run.now) else none
    dueDate := toDateColumn (run.now + 30 * msPerDay)
    subtotalAmount := feeAmount
    discountAmount := discountAmountOf feeAmount assignment.discount
    totalAmount := lineTotal
    balanceAmount := lineTotal
    writeOffAmount := none
    writeOffReason := none
    lastOverdueNotifiedAt := none
    approvalRequestId := none
    lines := [⟨feeStructure.name ++ " (auto-generated)",100,feeAmount,lineTotal⟩] }

/-- `next.setMonth(next.getMonth() + 1)` carries a day the month does not have into the month after
it; a term is ninety days. -/
def computeNextDate (current : CivilDate) : RecurringFrequency → CivilDate
  | .monthly => current.addMonth
  | .term => current.addDays 90

def openAssignments (config : RecurringInvoiceConfig) : List (ℕ × HouseholdFeeAssignment) :=
  config.feeStructure.householdFeeAssignments.select fun a => a.effectiveTo.isNone

def attemptOf (run : JobRun) (configId : ℕ) (config : RecurringInvoiceConfig) (assignmentId : ℕ) : Attempt where
  configId := configId
  assignmentId := assignmentId
  period := config.nextGenerationDate
  created := !run.transactionFails configId assignmentId

/-- One round of the loop over the assignments; the error of a failed transaction is swallowed. -/
def billAssignment (run : JobRun) (configId : ℕ) (config : RecurringInvoiceConfig) (acc : Billing × ℕ)
    (assignment : ℕ × HouseholdFeeAssignment) : Billing × ℕ :=
  let b := { acc.1 with attempts := acc.1.attempts ++ [attemptOf run configId config assignment.1] }
  if run.transactionFails configId assignment.1 then (b,acc.2)
  else
    let invoice := recurringInvoice run config.feeStructure assignment.2
    ({ b with ledger := { b.ledger with invoices := b.ledger.invoices.insert invoice } },acc.2 + 1)

/-- `none` is the error of the tenant lookup, which the loop over the configs catches. -/
def generateForConfig (run : JobRun) (b : Billing) (configId : ℕ) (config : RecurringInvoiceConfig) :
    Option (Billing × ℕ) :=
  let assignments := openAssignments config
  if assignments.isEmpty then some (b,0)
  else if run.lookupFails configId then none
  else if b.tenantExists then some (assignments.foldl (billAssignment run configId config) (b,0))
  else some (b,0)

def moveOn (run : JobRun) (b : Billing) (configId : ℕ) (config : RecurringInvoiceConfig) : Billing :=
  { b with
    configs := b.configs.modify configId fun c => { c with
      nextGenerationDate := computeNextDate config.nextGenerationDate config.frequency
      lastGeneratedAt := some run.now }
    generations := b.generations ++ [(configId,config.nextGenerationDate)] }

/-- One round of the loop over the due configs. -/
def generateDue (run : JobRun) (acc : Billing × ℕ) (row : ℕ × RecurringInvoiceConfig) : Billing × ℕ :=
  match generateForConfig run acc.1 row.1 row.2 with
  | none => acc
  | some (b,count) =>
    (if run.updateFails row.1 then b else moveOn run b row.1 row.2,acc.2 + count)

def isDue (run : JobRun) (config : RecurringInvoiceConfig) : Bool :=
  config.active && config.nextGenerationDate ≤ run.today

def generateDueInvoices (run : JobRun) (b : Billing) : Billing × ℕ :=
  (b.configs.select (isDue run)).foldl (generateDue run) (b,0)

def dailyJob (b : Billing) (run : JobRun) : Billing := (generateDueInvoices run b).1

end EduPod.Finance
