import EduPod.Finance.Ledger

/-! # The finance services

Every service is a function of the ledger; a refused request leaves it as it was.
-/
namespace EduPod.Finance
open Fallible

/-! ## The invoice service -/

structure InvoiceLineDto where
  description : String
  quantity : ℚ
  unitAmount : ℚ

/-- Outcome of the approval check that `issue` makes when the tenant asks for one. -/
inductive IssueApproval
  | notRequired | approved | requested (requestId : ℕ)
  deriving DecidableEq, Repr

def invoiceLineOf (line : InvoiceLineDto) : InvoiceLine where
  description := line.description
  quantity := toColumn (line.quantity * 100)
  unitAmount := toColumn line.unitAmount
  lineTotal := roundMoney (line.quantity * line.unitAmount)

def createInvoice (l : Ledger) (householdId : ℕ) (dueDate : ℤ) (lines : List InvoiceLineDto) :
    Except FinanceError Ledger := do
  ensure (householdId ∈ l.households) .householdNotFound
  let lineData := lines.map invoiceLineOf
  let subtotal := roundMoney ((lineData.map (·.lineTotal)).sum : ℤ)
  return { l with invoices := l.invoices.insert {
    householdId, status := .draft, issueDate := none, dueDate, subtotalAmount := subtotal,
    discountAmount := 0, totalAmount := subtotal, balanceAmount := subtotal,
    writeOffAmount := none, writeOffReason := none, lastOverdueNotifiedAt := none,
    approvalRequestId := none, lines := lineData } }

def issue (now : ℤ) (l : Ledger) (id : ℕ) (approval : IssueApproval) : Except FinanceError Ledger := do
  let invoice ← require (l.invoices.get? id) .invoiceNotFound
  ensure (invoice.status = .draft) .invalidStatusTransition
  match approval with
  | .requested requestId =>
    return { l with invoices := l.invoices.modify id fun i =>
      { i with status := .pendingApproval, approvalRequestId := some requestId } }
  | _ =>
    return { l with invoices := l.invoices.modify id fun i =>
      { i with status := .issued, issueDate := some now } }

/-- The approval callback of the worker, the only way out of `pending_approval`
towards `issued`. -/
def approvalCallback (now : ℤ) (l : Ledger) (id : ℕ) : Except FinanceError Ledger := do
  let invoice ← require (l.invoices.get? id) .invoiceNotFound
  ensure (invoice.status = .pendingApproval) .invalidStatus
  return { l with invoices := l.invoices.modify id fun i =>
    { i with status := .issued, issueDate := some now } }

/-- What the overdue detection job does to one of the invoices it finds. -/
def markOverdue (cutoffDate now : ℤ) (l : Ledger) (id : ℕ) : Except FinanceError Ledger := do
  let invoice ← require (l.invoices.get? id) .invoiceNotFound
  ensure (invoice.status ∈ [InvoiceStatus.issued,.partiallyPaid] ∧ invoice.dueDate < cutoffDate ∧
    invoice.lastOverdueNotifiedAt = none) .invalidStatus
  return { l with invoices := l.invoices.modify id fun i =>
    { i with status := .overdue, lastOverdueNotifiedAt := some now } }

def voidInvoice (l : Ledger) (id : ℕ) : Except FinanceError Ledger := do
  let invoice ← require (l.invoices.get? id) .invoiceNotFound
  ensure (¬ |invoice.balanceAmount - invoice.totalAmount| > 1) .paymentsExist
  ensure (isValidInvoiceTransition invoice.status .void) .invalidStatusTransition
  return { l with invoices := l.invoices.modify id fun i => { i with status := .void } }

def cancel (l : Ledger) (id : ℕ) : Except FinanceError Ledger := do
  let invoice ← require (l.invoices.get? id) .invoiceNotFound
  ensure (isValidInvoiceTransition invoice.status .cancelled) .invalidStatusTransition
  return { l with invoices := l.invoices.modify id fun i => { i with status := .cancelled } }

def writeOff (l : Ledger) (id : ℕ) (reason : String) : Except FinanceError Ledger := do
  let invoice ← require (l.invoices.get? id) .invoiceNotFound
  ensure (isValidInvoiceTransition invoice.status .writtenOff) .invalidStatusTransition
  let balance := invoice.balanceAmount
  return { l with invoices := l.invoices.modify id fun i =>
    { i with status := .writtenOff, writeOffAmount := some balance,
             writeOffReason := some reason, balanceAmount := 0 } }

/-- The balance is recomputed from the payment allocations and the write-off alone. -/
def recalculateBalance (now : ℤ) (l : Ledger) (invoiceId : ℕ) : Except FinanceError Ledger := do
  let invoice ← require (l.invoices.get? invoiceId) .invoiceNotFound
  let sumAllocated := l.allocatedTo invoiceId
  let writeOff := invoice.writeOffAmount.getD 0
  let newBalance := roundMoney (invoice.totalAmount - sumAllocated - writeOff : ℤ)
  let newStatus := deriveInvoiceStatus invoice.status newBalance invoice.totalAmount
    invoice.dueDate now (some writeOff)
  return { l with invoices := l.invoices.modify invoiceId fun i =>
    { i with balanceAmount := newBalance, status := newStatus } }

/-! ## The payment service and the Stripe checkout webhook -/

structure AllocationItem where
  invoiceId : ℕ
  amount : ℚ

def createManual (l : Ledger) (householdId : ℕ) (paymentMethod : PaymentMethod) (amount : ℚ)
    (reason : Option String) : Except FinanceError Ledger := do
  ensure (householdId ∈ l.households) .householdNotFound
  return { l with payments := l.payments.insert {
    householdId, paymentMethod, externalEventId := none, amount := toColumn amount,
    status := .posted, reason } }

/-- The checks on one requested row, against the balance before any row is written. -/
def checkAllocation (l : Ledger) (payment : Payment) (alloc : AllocationItem) :
    Except FinanceError Unit := do
  let invoice ← require (l.invoices.get? alloc.invoiceId) .invoiceNotFound
  ensure (invoice.householdId = payment.householdId) .householdMismatch
  ensure (¬ roundMoney alloc.amount > invoice.balanceAmount + 1) .allocationExceedsBalance

def createAllocation (paymentId : ℕ) (l : Ledger) (alloc : AllocationItem) : Ledger :=
  { l with
    allocations := l.allocations.insert
      { paymentId, invoiceId := alloc.invoiceId, allocatedAmount := toColumn alloc.amount } }

def confirmAllocations (now : ℤ) (l : Ledger) (paymentId : ℕ) (allocations : List AllocationItem) :
    Except FinanceError Ledger := do
  let payment ← require (l.payments.get? paymentId) .paymentNotFound
  ensure (payment.status = .posted) .invalidStatus
  let newTotal := (allocations.map (·.amount)).sum
  let remaining := roundMoney (payment.amount - l.allocatedFrom paymentId : ℤ)
  ensure (¬ roundMoney newTotal > remaining + 1) .allocationExceedsPayment
  allocations.forM (checkAllocation l payment)
  let l := allocations.foldl (createAllocation paymentId) l
  allocations.foldlM (fun l alloc => recalculateBalance now l alloc.invoiceId) l

/-- `checkout.session.completed`: post the payment and allocate it to its invoice.
A zero amount or an event already processed changes nothing. -/
def handleCheckoutCompleted (now : ℤ) (l : Ledger) (householdId invoiceId : ℕ) (amountCents : ℤ)
    (paymentIntentId : String) : Except FinanceError Ledger :=
  let amountTotal := roundMoney amountCents
  if amountTotal ≤ 0 then .ok l
  else if (l.payments.select (fun p => p.externalEventId = some paymentIntentId)).isEmpty = false then .ok l
  else
    let paymentId := l.payments.next
    let l := { l with payments := l.payments.insert {
      householdId, paymentMethod := .stripe, externalEventId := some paymentIntentId,
      amount := amountTotal, status := .posted, reason := none } }
    match l.invoices.get? invoiceId with
    | none => .ok l
    | some invoice =>
      if invoice.balanceAmount > 0 then
        let allocAmount := roundMoney (min amountTotal invoice.balanceAmount : ℤ)
        let l := { l with
          allocations := l.allocations.insert { paymentId, invoiceId, allocatedAmount := allocAmount } }
        recalculateBalance now l invoiceId
      else .ok l

/-! ## Credit notes and late fees

Both services move the invoice balance by a difference instead of recomputing it.
-/

def createCreditNote (l : Ledger) (householdId : ℕ) (amount : ℚ) (reason : String) :
    Except FinanceError Ledger := do
  ensure (householdId ∈ l.households) .householdNotFound
  return { l with creditNotes := l.creditNotes.insert {
    householdId, amount := toColumn amount, remainingBalance := toColumn amount, reason } }

def applyToInvoice (now : ℤ) (l : Ledger) (creditNoteId invoiceId : ℕ) (requested : ℚ) :
    Except FinanceError Ledger := do
  let cn ← require (l.creditNotes.get? creditNoteId) .creditNoteNotFound
  ensure (¬ (cn.remainingBalance : ℚ) < requested - 1/2) .insufficientCreditBalance
  let invoice ← require (l.invoices.get? invoiceId) .invoiceNotFound
  ensure (isPayableStatus invoice.status) .invalidInvoiceStatus
  let appliedAmount := roundMoney (min requested invoice.balanceAmount)
  ensure (¬ appliedAmount ≤ 0) .invoiceAlreadyPaid
  let newBalance := roundMoney (invoice.balanceAmount - appliedAmount : ℤ)
  return { l with
    creditNoteApplications := l.creditNoteApplications.insert
      { creditNoteId, invoiceId, appliedAmount, appliedAt := now }
    creditNotes := l.creditNotes.modify creditNoteId fun c =>
      { c with remainingBalance := roundMoney (cn.remainingBalance - appliedAmount : ℤ) }
    invoices := l.invoices.modify invoiceId fun i =>
      { i with balanceAmount := newBalance,
               status := if 2 * newBalance < 1 then .paid else .partiallyPaid } }

def createLateFeeConfig (l : Ledger) (config : LateFeeConfig) : Except FinanceError Ledger :=
  .ok { l with lateFeeConfigs := l.lateFeeConfigs.insert { config with active := true } }

/-- The configuration asked for, or the most recently created one; active in both cases. -/
def findLateFeeConfig (l : Ledger) : Option ℕ → Option (ℕ × LateFeeConfig)
  | some configId => ((l.lateFeeConfigs.get? configId).filter (·.active)).map fun c => (configId,c)
  | none => (l.lateFeeConfigs.select (·.active)).getLast?

def msPerDay : ℤ := 1000 * 60 * 60 * 24

def lateFeeAmount (config : LateFeeConfig) (invoiceTotal : ℤ) : ℤ :=
  match config.feeType with
  | .percent => roundMoney (invoiceTotal * config.value / 10000)
  | .fixed => roundMoney config.value

def applyLateFee (now : ℤ) (l : Ledger) (invoiceId : ℕ) (configId : Option ℕ) :
    Except FinanceError Ledger := do
  let invoice ← require (l.invoices.get? invoiceId) .invoiceNotFound
  ensure (isPayableStatus invoice.status) .invalidInvoiceStatus
  let config ← require (findLateFeeConfig l configId) .lateFeeConfigNotFound
  ensure (¬ (now - invoice.dueDate) / msPerDay < config.2.gracePeriodDays) .withinGracePeriod
  let existing := l.lateFeeApplications.select
    (fun a => a.invoiceId = invoiceId && a.lateFeeConfigId = config.1)
  ensure (existing.length < config.2.maxApplications) .maxLateFeeApplicationsReached
  ensure (∀ days ∈ config.2.frequencyDays, days ≠ 0 → ∀ last ∈ existing.getLast?,
    ¬ (now - last.2.appliedAt) / msPerDay < days) .tooSoonForNextApplication
  let fee := lateFeeAmount config.2 invoice.totalAmount
  let newTotal := roundMoney (invoice.totalAmount + fee : ℤ)
  let newBalance := roundMoney (invoice.balanceAmount + fee : ℤ)
  return { l with
    lateFeeApplications := l.lateFeeApplications.insert
      { invoiceId, lateFeeConfigId := config.1, amount := fee, appliedAt := now }
    invoices := l.invoices.modify invoiceId fun i =>
      { i with totalAmount := newTotal, balanceAmount := newBalance,
               lines := i.lines ++ [{ description := "Late fee: " ++ config.2.name, quantity := 100,
                                      unitAmount := fee, lineTotal := fee }] } }

/-! ## The refund service -/

def createRefund (l : Ledger) (userId paymentId : ℕ) (amount : ℚ) (reason : String) :
    Except FinanceError Ledger := do
  let payment ← require (l.payments.get? paymentId) .paymentNotFound
  ensure (payment.status ∈ [PaymentStatus.posted,.refundedPartial]) .invalidPaymentStatus
  let totalRefunded := l.refundedOf paymentId (fun s => s ≠ .rejected && s ≠ .failed)
  let unrefunded := roundMoney (payment.amount - totalRefunded : ℤ)
  ensure (¬ amount > unrefunded + 1) .refundExceedsAvailable
  ensure (∀ a ∈ l.allocations.select (fun a => a.paymentId = paymentId),
    ∀ i ∈ l.invoices.get? a.2.invoiceId, i.status ∉ [InvoiceStatus.void,.writtenOff])
    .invoiceVoidOrWrittenOff
  return { l with refunds := l.refunds.insert {
    paymentId, amount := toColumn amount, status := .pendingApproval, reason,
    requestedByUserId := userId, approvedByUserId := none, failureReason := none,
    executedAt := none } }

def approve (l : Ledger) (refundId approverUserId : ℕ) : Except FinanceError Ledger := do
  let refund ← require (l.refunds.get? refundId) .refundNotFound
  ensure (¬ refund.requestedByUserId = approverUserId) .selfApprovalBlocked
  ensure (refund.status = .pendingApproval) .invalidStatus
  return { l with refunds := l.refunds.modify refundId fun r =>
    { r with status := .approved, approvedByUserId := some approverUserId } }

def reject (l : Ledger) (refundId approverUserId : ℕ) (comment : String) :
    Except FinanceError Ledger := do
  let refund ← require (l.refunds.get? refundId) .refundNotFound
  ensure (refund.status = .pendingApproval) .invalidStatus
  return { l with refunds := l.refunds.modify refundId fun r =>
    { r with status := .rejected, approvedByUserId := some approverUserId,
             failureReason := some comment } }

/-- Take `reverseAmount` off one allocation; what is left under one cent over it is
dropped with the row. -/
def reverseAllocation (l : Ledger) (id : ℕ) (allocAmount reverseAmount : ℤ) : Ledger :=
  if reverseAmount ≥ allocAmount - 1 then { l with allocations := l.allocations.erase id }
  else { l with allocations := l.allocations.modify id fun a =>
    { a with allocatedAmount := roundMoney (allocAmount - reverseAmount : ℤ) } }

/-- The loop over the allocations, the most recent one first. -/
@[grind] def reverseLoop (now : ℤ) : Ledger → ℤ → List (ℕ × PaymentAllocation) → Except FinanceError Ledger
  | l, _, [] => .ok l
  | l, remaining, alloc :: rest =>
    if remaining ≤ 0 then .ok l
    else do
      let allocAmount := alloc.2.allocatedAmount
      let reverseAmount := roundMoney (min remaining allocAmount : ℤ)
      let l ← recalculateBalance now (reverseAllocation l alloc.1 allocAmount reverseAmount)
        alloc.2.invoiceId
      reverseLoop now l (roundMoney (remaining - reverseAmount : ℤ)) rest

/-- What is left of a refund once the unallocated part of the payment has been used. -/
def afterUnallocated (refundAmount unallocated : ℤ) : ℤ :=
  if unallocated > 0 then roundMoney (refundAmount - min refundAmount unallocated : ℤ) else refundAmount

def lifoAllocations (l : Ledger) (paymentId : ℕ) : List (ℕ × PaymentAllocation) :=
  (l.allocations.select (fun a => a.paymentId = paymentId)).reverse

def reverseAllocationsLifo (now : ℤ) (l : Ledger) (paymentId : ℕ) (refundAmount : ℤ) :
    Except FinanceError Ledger :=
  match l.payments.get? paymentId with
  | none => .ok l
  | some payment =>
    let unallocated := roundMoney (payment.amount - l.allocatedFrom paymentId : ℤ)
    reverseLoop now l (afterUnallocated refundAmount unallocated) (lifoAllocations l paymentId)

def paymentStatusAfter (totalRefunded paymentAmount : ℤ) : PaymentStatus :=
  if totalRefunded ≥ paymentAmount - 1 then .refundedFull
  else if totalRefunded > 0 then .refundedPartial
  else .posted

def markExecuted (now : ℤ) (l : Ledger) (refundId : ℕ) : Ledger :=
  { l with refunds := l.refunds.modify refundId fun r =>
    { r with status := .executed, executedAt := some now } }

def markFailed (l : Ledger) (refundId : ℕ) (message : String) : Ledger :=
  { l with refunds := l.refunds.modify refundId fun r =>
    { r with status := .failed, failureReason := some ("Stripe refund failed: " ++ message) } }

/-- The database transaction of `execute`. -/
def executeTransaction (now : ℤ) (l : Ledger) (refundId : ℕ) (refund : Refund) :
    Except FinanceError Ledger := do
  let l ← reverseAllocationsLifo now (markExecuted now l refundId) refund.paymentId refund.amount
  match l.payments.get? refund.paymentId with
  | none => return l
  | some payment =>
    let newStatus := paymentStatusAfter (l.executedOf refund.paymentId) payment.amount
    return { l with payments := l.payments.modify refund.paymentId fun p =>
      { p with status := newStatus } }

/-- `execute` commits its transaction before it calls Stripe; when that call fails the
refund is marked failed and the reversal stays. -/
def execute (now : ℤ) (l : Ledger) (refundId : ℕ) (stripeFailure : Option String) :
    Ledger × Except FinanceError Unit :=
  let transaction : Except FinanceError (Refund × Ledger) := do
    let refund ← require (l.refunds.get? refundId) .refundNotFound
    ensure (refund.status = .approved) .invalidStatus
    let l' ← executeTransaction now l refundId refund
    return (refund,l')
  match transaction with
  | .error e => (l,.error e)
  | .ok (refund,l') =>
    match l.payments.get? refund.paymentId, stripeFailure with
    | some payment, some message =>
      if payment.paymentMethod = .stripe ∧ payment.externalEventId.isSome then
        (markFailed l' refundId message,.error .stripeRefundFailed)
      else (l',.ok ())
    | _, _ => (l',.ok ())

end EduPod.Finance
