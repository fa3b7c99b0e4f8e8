import EduPod.Foundation.Runs
import EduPod.Finance.Invoices

/-! # Finance requests and ledger runs

A request that fails leaves the tables as they were, with one exception: a refund
whose Stripe call fails has already been booked.
-/
namespace EduPod.Finance

inductive Command
  | createInvoice (householdId : ℕ) (dueDate : ℤ) (lines : List InvoiceLineDto)
  | issue (id : ℕ) (approval : IssueApproval)
  | approvalCallback (id : ℕ)
  | markOverdue (cutoffDate : ℤ) (id : ℕ)
  | voidInvoice (id : ℕ)
  | cancel (id : ℕ)
  | writeOff (id : ℕ) (reason : String)
  | createManual (householdId : ℕ) (paymentMethod : PaymentMethod) (amount : ℚ) (reason : Option String)
  | checkoutCompleted (householdId invoiceId : ℕ) (amountCents : ℤ) (paymentIntentId : String)
  | confirmAllocations (paymentId : ℕ) (allocations : List AllocationItem)
  | createCreditNote (householdId : ℕ) (amount : ℚ) (reason : String)
  | applyToInvoice (creditNoteId invoiceId : ℕ) (appliedAmount : ℚ)
  | createLateFeeConfig (config : LateFeeConfig)
  | applyLateFee (invoiceId : ℕ) (configId : Option ℕ)
  | createRefund (userId paymentId : ℕ) (amount : ℚ) (reason : String)
  | approve (refundId approverUserId : ℕ)
  | reject (refundId approverUserId : ℕ) (comment : String)
  | execute (refundId : ℕ) (stripeFailure : Option String)

structure Request where
  now : ℤ
  command : Command

/-- What the request schemas demand of the amounts. -/
def Command.valid : Command → Bool
  | .createInvoice _ _ lines =>
    !lines.isEmpty && lines.all (fun line => 0 < line.quantity && 0 < line.unitAmount)
  | .createManual _ paymentMethod amount _ => paymentMethod ≠ .stripe && 0 < amount
  | .confirmAllocations _ allocations =>
    !allocations.isEmpty && allocations.all (fun alloc => 0 < alloc.amount)
  | .createCreditNote _ amount _ => 0 < amount
  | .applyToInvoice _ _ appliedAmount => 0 < appliedAmount
  | .createLateFeeConfig config =>
    0 < config.value && 0 ≤ config.gracePeriodDays && 1 ≤ config.maxApplications &&
      config.frequencyDays.all (1 ≤ ·)
  | .createRefund _ _ amount _ => 0 < amount
  | _ => true

/-- Commit the new tables or roll back. -/
def transact (l : Ledger) : Except FinanceError Ledger → Ledger × Except FinanceError Unit
  | .ok l' => (l',.ok ())
  | .error e => (l,.error e)

def dispatch (now : ℤ) (l : Ledger) : Command → Ledger × Except FinanceError Unit
  | .createInvoice householdId dueDate lines => transact l (createInvoice l householdId dueDate lines)
  | .issue id approval => transact l (issue now l id approval)
  | .approvalCallback id => transact l (approvalCallback now l id)
  | .markOverdue cutoffDate id => transact l (markOverdue cutoffDate now l id)
  | .voidInvoice id => transact l (voidInvoice l id)
  | .cancel id => transact l (cancel l id)
  | .writeOff id reason => transact l (writeOff l id reason)
  | .createManual householdId paymentMethod amount reason =>
    transact l (createManual l householdId paymentMethod amount reason)
  | .checkoutCompleted householdId invoiceId amountCents paymentIntentId =>
    transact l (handleCheckoutCompleted now l householdId invoiceId amountCents paymentIntentId)
  | .confirmAllocations paymentId allocations =>
    transact l (confirmAllocations now l paymentId allocations)
  | .createCreditNote householdId amount reason => transact l (createCreditNote l householdId amount reason)
  | .applyToInvoice creditNoteId invoiceId appliedAmount =>
    transact l (applyToInvoice now l creditNoteId invoiceId appliedAmount)
  | .createLateFeeConfig config => transact l (createLateFeeConfig l config)
  | .applyLateFee invoiceId configId => transact l (applyLateFee now l invoiceId configId)
  | .createRefund userId paymentId amount reason => transact l (createRefund l userId paymentId amount reason)
  | .approve refundId approverUserId => transact l (approve l refundId approverUserId)
  | .reject refundId approverUserId comment => transact l (reject l refundId approverUserId comment)
  | .execute refundId stripeFailure => execute now l refundId stripeFailure

def serve (l : Ledger) (r : Request) : Ledger × Except FinanceError Unit :=
  if r.command.valid then dispatch r.now l r.command else (l,.error .validationError)

/-- One step of a ledger run. -/
def step (l : Ledger) (r : Request) : Ledger := (serve l r).1

theorem transact_keeps {P : Ledger → Prop} {l : Ledger} {x : Except FinanceError Ledger} (hl : P l)
    (hok : ∀ l', x = .ok l' → P l') : P (transact l x).1 := by
  cases x with
  | error e => exact hl
  | ok l' => exact hok l' rfl

theorem transact_iff {P : Ledger → Prop} {G : Prop} {l : Ledger} {x : Except FinanceError Ledger} (hl : P l)
    (hok : ∀ l', x = .ok l' → (P l' ↔ G)) (herr : (∀ l', x ≠ .ok l') → G) : P (transact l x).1 ↔ G := by
  cases x with
  | error e => exact iff_of_true hl (herr (by simp))
  | ok l' => exact hok l' rfl

end EduPod.Finance
