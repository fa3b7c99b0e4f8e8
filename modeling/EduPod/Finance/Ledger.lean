import EduPod.Foundation.Table
import EduPod.Foundation.Fallible
import EduPod.Finance.InvoiceStatus

/-! # The finance tables of one tenant

Identifiers are issued by the tables themselves. Creation order is `created_at`
order. Amount columns are whole cents; instants are milliseconds.
-/
namespace EduPod.Finance

structure InvoiceLine where
  description : String
  quantity : ℤ
  unitAmount : ℤ
  lineTotal : ℤ
  deriving DecidableEq, Repr

structure Invoice where
  householdId : ℕ
  status : InvoiceStatus
  issueDate : Option ℤ
  dueDate : ℤ
  subtotalAmount : ℤ
  discountAmount : ℤ
  totalAmount : ℤ
  balanceAmount : ℤ
  writeOffAmount : Option ℤ
  writeOffReason : Option String
  lastOverdueNotifiedAt : Option ℤ
  approvalRequestId : Option ℕ
  lines : List InvoiceLine
  deriving DecidableEq, Repr

inductive PaymentMethod
  | stripe | cash | bankTransfer | cardManual
  deriving DecidableEq, Repr

inductive PaymentStatus
  | pending | posted | failed | voided | refundedPartial | refundedFull
  deriving DecidableEq, Repr

structure Payment where
  householdId : ℕ
  paymentMethod : PaymentMethod
  externalEventId : Option String
  amount : ℤ
  status : PaymentStatus
  reason : Option String
  deriving DecidableEq, Repr

structure PaymentAllocation where
  paymentId : ℕ
  invoiceId : ℕ
  allocatedAmount : ℤ
  deriving DecidableEq, Repr

structure CreditNote where
  householdId : ℕ
  amount : ℤ
  remainingBalance : ℤ
  reason : String
  deriving DecidableEq, Repr

structure CreditNoteApplication where
  creditNoteId : ℕ
  invoiceId : ℕ
  appliedAmount : ℤ
  appliedAt : ℤ
  deriving DecidableEq, Repr

inductive LateFeeType
  | fixed | percent
  deriving DecidableEq, Repr

/-- `value` is in cents for a fixed fee and in hundredths of a percent otherwise. -/
structure LateFeeConfig where
  name : String
  feeType : LateFeeType
  value : ℤ
  gracePeriodDays : ℤ
  maxApplications : ℕ
  frequencyDays : Option ℤ
  active : Bool
  deriving DecidableEq, Repr

structure LateFeeApplication where
  invoiceId : ℕ
  lateFeeConfigId : ℕ
  amount : ℤ
  appliedAt : ℤ
  deriving DecidableEq, Repr

inductive RefundStatus
  | pendingApproval | approved | executed | failed | rejected
  deriving DecidableEq, Repr

structure Refund where
  paymentId : ℕ
  amount : ℤ
  status : RefundStatus
  reason : String
  requestedByUserId : ℕ
  approvedByUserId : Option ℕ
  failureReason : Option String
  executedAt : Option ℤ
  deriving DecidableEq, Repr

structure Ledger where
  households : List ℕ
  invoices : Table Invoice
  payments : Table Payment
  allocations : Table PaymentAllocation
  creditNotes : Table CreditNote
  creditNoteApplications : Table CreditNoteApplication
  lateFeeConfigs : Table LateFeeConfig
  lateFeeApplications : Table LateFeeApplication
  refunds : Table Refund

/-- The codes of the exceptions the finance services raise, and the one of the
request schema. -/
inductive FinanceError
  | validationError
  | householdNotFound | invoiceNotFound | paymentNotFound | creditNoteNotFound
  | lateFeeConfigNotFound | refundNotFound
  | invalidStatusTransition | paymentsExist
  | invalidStatus | allocationExceedsPayment | householdMismatch | allocationExceedsBalance
  | insufficientCreditBalance | invalidInvoiceStatus | invoiceAlreadyPaid
  | withinGracePeriod | maxLateFeeApplicationsReached | tooSoonForNextApplication
  | invalidPaymentStatus | refundExceedsAvailable | invoiceVoidOrWrittenOff
  | selfApprovalBlocked | stripeRefundFailed
  deriving DecidableEq, Repr

namespace Ledger

/-- A tenant with its households and no financial record yet. -/
def initial (households : List ℕ) : Ledger where
  households := households
  invoices := .empty
  payments := .empty
  allocations := .empty
  creditNotes := .empty
  creditNoteApplications := .empty
  lateFeeConfigs := .empty
  lateFeeApplications := .empty
  refunds := .empty

/-- Sum of an invoice's payment allocations. -/
def allocatedTo (l : Ledger) (invoiceId : ℕ) : ℤ :=
  l.allocations.sumWhere (fun a => a.invoiceId = invoiceId) (·.allocatedAmount)

/-- Sum of the allocations made from a payment. -/
def allocatedFrom (l : Ledger) (paymentId : ℕ) : ℤ :=
  l.allocations.sumWhere (fun a => a.paymentId = paymentId) (·.allocatedAmount)

/-- Sum of the credit-note applications on an invoice. -/
def creditedTo (l : Ledger) (invoiceId : ℕ) : ℤ :=
  l.creditNoteApplications.sumWhere (fun a => a.invoiceId = invoiceId) (·.appliedAmount)

/-- Sum of a payment's refunds in a status that satisfies `p`. -/
def refundedOf (l : Ledger) (paymentId : ℕ) (p : RefundStatus → Bool) : ℤ :=
  l.refunds.sumWhere (fun r => r.paymentId = paymentId && p r.status) (·.amount)

/-- Sum of a payment's executed refunds. -/
def executedOf (l : Ledger) (paymentId : ℕ) : ℤ := l.refundedOf paymentId (· = .executed)

/-! Each sum depends on its own table only. -/

variable {l l' : Ledger} {id : ℕ}

theorem allocatedTo_congr (h : l'.allocations = l.allocations) : l'.allocatedTo id = l.allocatedTo id := by
  rw [allocatedTo,h,allocatedTo]

theorem allocatedFrom_congr (h : l'.allocations = l.allocations) :
    l'.allocatedFrom id = l.allocatedFrom id := by
  rw [allocatedFrom,h,allocatedFrom]

theorem creditedTo_congr (h : l'.creditNoteApplications = l.creditNoteApplications) :
    l'.creditedTo id = l.creditedTo id := by
  rw [creditedTo,h,creditedTo]

theorem refundedOf_congr {p : RefundStatus → Bool} (h : l'.refunds = l.refunds) :
    l'.refundedOf id p = l.refundedOf id p := by
  rw [refundedOf,h,refundedOf]

end Ledger

end EduPod.Finance
