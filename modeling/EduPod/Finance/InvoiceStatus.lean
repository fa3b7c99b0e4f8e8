import Mathlib

/-! # Money in cents and the invoice status machine

All amounts are counted in cents. Stored `Decimal(12,2)` columns are whole cents
and hence integers; amounts of a request are arbitrary positive rationals. The
tolerances `0.01` and `0.005` of the source are one cent and half a cent here.
-/
namespace EduPod.Finance

/-- `Math.round` of the amount in cents: halves go up. -/
def roundMoney (value : ℚ) : ℤ := ⌊value + 1/2⌋

/-- What a `Decimal(12,2)` column stores: halves go away from zero. -/
def toColumn (value : ℚ) : ℤ := if 0 ≤ value then ⌊value + 1/2⌋ else -⌊-value + 1/2⌋

@[simp] theorem roundMoney_intCast (z : ℤ) : roundMoney z = z := by
  unfold roundMoney
  rw [Int.floor_intCast_add]
  norm_num

@[simp] theorem toColumn_intCast (z : ℤ) : toColumn z = z := by
  unfold toColumn
  split
  · exact roundMoney_intCast z
  · rw [← Int.cast_neg]
    simpa [roundMoney] using congrArg Neg.neg (roundMoney_intCast (-z))

theorem toColumn_nonneg {value : ℚ} (h : 0 ≤ value) : 0 ≤ toColumn value := by
  rw [toColumn,if_pos h]
  exact Int.floor_nonneg.mpr (by linarith)

inductive InvoiceStatus
  | draft | pendingApproval | issued | partiallyPaid | paid | overdue | void | cancelled | writtenOff
  deriving DecidableEq, Repr

open InvoiceStatus

def validInvoiceTransitions : InvoiceStatus → List InvoiceStatus
  | draft => [pendingApproval,issued,cancelled]
  | pendingApproval => [issued,cancelled]
  | issued => [partiallyPaid,paid,overdue,void,writtenOff]
  | partiallyPaid => [paid,writtenOff]
  | overdue => [partiallyPaid,paid,void,writtenOff]
  | paid => []
  | void => []
  | cancelled => []
  | writtenOff => []

def isValidInvoiceTransition (current target : InvoiceStatus) : Bool :=
  target ∈ validInvoiceTransitions current

def payableInvoiceStatuses : List InvoiceStatus := [issued,partiallyPaid,overdue]

def isPayableStatus (status : InvoiceStatus) : Bool := status ∈ payableInvoiceStatuses

/-- `dueDate` and `now` are instants in milliseconds. -/
def deriveInvoiceStatus (currentStatus : InvoiceStatus) (balanceAmount totalAmount : ℤ)
    (dueDate now : ℤ) (writeOffAmount : Option ℤ) : InvoiceStatus :=
  if currentStatus ∈ [void,cancelled,pendingApproval] then currentStatus
  else if 0 < writeOffAmount.getD 0 ∧ 2 * |balanceAmount| < 1 then writtenOff
  else if 2 * |balanceAmount| < 1 then paid
  else if 1 < 2 * balanceAmount ∧ 1 < 2 * |balanceAmount - totalAmount| then partiallyPaid
  else if 2 * |balanceAmount - totalAmount| < 1 ∧ dueDate < now then overdue
  else issued

/-- Void and cancelled invoices are closed: their balance no longer means anything. -/
def InvoiceStatus.closed (status : InvoiceStatus) : Bool := status ∈ [void,cancelled]

/-- Deriving a status neither closes an invoice nor reopens a closed one. -/
theorem deriveInvoiceStatus_closed (currentStatus : InvoiceStatus) (balanceAmount totalAmount : ℤ)
    (dueDate now : ℤ) (writeOffAmount : Option ℤ) :
    (deriveInvoiceStatus currentStatus balanceAmount totalAmount dueDate now writeOffAmount).closed =
      currentStatus.closed := by
  unfold deriveInvoiceStatus
  by_cases h : currentStatus ∈ [void,cancelled,pendingApproval]
  · rw [if_pos h]
  · have hc : currentStatus.closed = false := by
      simp only [List.mem_cons,List.not_mem_nil,or_false,not_or] at h
      simp [InvoiceStatus.closed,h]
    rw [if_neg h,hc]
    repeat' split
    all_goals rfl

/-- A payable invoice is not closed. -/
theorem closed_of_isPayableStatus {status : InvoiceStatus} (h : isPayableStatus status = true) :
    status.closed = false := by
  cases status <;> first | rfl | simp [isPayableStatus,payableInvoiceStatuses] at h

end EduPod.Finance
