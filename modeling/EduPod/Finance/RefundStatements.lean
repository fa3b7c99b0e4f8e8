import EduPod.Foundation.ReadCommitted
import EduPod.Finance.Effects

/-! # The refund service, statement by statement

The same services as scripts of queries and writes. Outside a transaction every query commits by
itself; `create` and the booking of `execute` are transactions.
-/
namespace EduPod.Finance.Statements
open ReadCommitted Script

/-- The rows the service locks. -/
inductive Row
  | sequence | refund (id : ℕ) | allocation (id : ℕ) | invoice (id : ℕ) | payment (id : ℕ)
  deriving DecidableEq, Repr

/-- An exception of the service, or of a write that finds no row. -/
inductive ServiceError
  | finance (e : FinanceError)
  | recordNotFound
  deriving DecidableEq, Repr

abbrev Tx := Script Ledger Row ServiceError

/-- A refund that still counts against its payment. -/
def counts (status : RefundStatus) : Bool := status ≠ .rejected && status ≠ .failed

def createdRefund (userId paymentId : ℕ) (amount : ℚ) (reason : String) : Refund where
  paymentId := paymentId
  amount := toColumn amount
  status := .pendingApproval
  reason := reason
  requestedByUserId := userId
  approvedByUserId := none
  failureReason := none
  executedAt := none

/-- The reference number is drawn under a lock on the sequence row, after the checks. -/
def create (userId paymentId : ℕ) (amount : ℚ) (reason : String) : Tx Unit := do
  let found ← read fun l => l.payments.get? paymentId
  let payment ← require found (.finance .paymentNotFound)
  let totalRefunded ← read fun l => l.refundedOf paymentId counts
  let invoices ← read fun l =>
    (l.allocations.select fun a => a.paymentId = paymentId).filterMap fun a => l.invoices.get? a.2.invoiceId
  ensure (payment.status ∈ [PaymentStatus.posted,.refundedPartial]) (.finance .invalidPaymentStatus)
  let unrefunded := roundMoney (payment.amount - totalRefunded : ℤ)
  ensure (¬ amount > unrefunded + 1) (.finance .refundExceedsAvailable)
  ensure (∀ i ∈ invoices, i.status ∉ [InvoiceStatus.void,.writtenOff]) (.finance .invoiceVoidOrWrittenOff)
  lock [.sequence]
  insert fun l => { l with refunds := l.refunds.insert (createdRefund userId paymentId amount reason) }

/-- A conditional `updateMany` on one refund. -/
def updateRefund (refundId : ℕ) (status : RefundStatus) (change : Refund → Refund) : Tx Bool :=
  updateWhere (.refund refundId) (fun l => (l.refunds.get? refundId).any (·.status = status))
    fun l => { l with refunds := l.refunds.modify refundId change }

def approve (refundId approverUserId : ℕ) : Tx Unit := do
  let found ← read fun l => l.refunds.get? refundId
  endTransaction
  let refund ← require found (.finance .refundNotFound)
  ensure (¬ refund.requestedByUserId = approverUserId) (.finance .selfApprovalBlocked)
  let updated ← updateRefund refundId .pendingApproval fun r =>
    { r with status := .approved, approvedByUserId := some approverUserId }
  endTransaction
  ensure (updated = true) (.finance .invalidStatus)

def reject (refundId approverUserId : ℕ) (comment : String) : Tx Unit := do
  let found ← read fun l => l.refunds.get? refundId
  endTransaction
  let _ ← require found (.finance .refundNotFound)
  let updated ← updateRefund refundId .pendingApproval fun r =>
    { r with status := .rejected, approvedByUserId := some approverUserId, failureReason := some comment }
  endTransaction
  ensure (updated = true) (.finance .invalidStatus)

def recalculateBalance (now : ℤ) (invoiceId : ℕ) : Tx Unit := do
  let found ← read fun l => l.invoices.get? invoiceId
  let sumAllocated ← read fun l => l.allocatedTo invoiceId
  let invoice ← require found (.finance .invoiceNotFound)
  let writeOff := invoice.writeOffAmount.getD 0
  let newBalance := roundMoney (invoice.totalAmount - sumAllocated - writeOff : ℤ)
  let newStatus := deriveInvoiceStatus invoice.status newBalance invoice.totalAmount invoice.dueDate now
    (some writeOff)
  let updated ← updateWhere (.invoice invoiceId) (fun l => (l.invoices.get? invoiceId).isSome) fun l =>
    { l with invoices := l.invoices.modify invoiceId fun i =>
      { i with balanceAmount := newBalance, status := newStatus } }
  ensure (updated = true) .recordNotFound

/-- Delete the allocation or take `reverseAmount` off it. -/
def reverseAllocation (id : ℕ) (allocAmount reverseAmount : ℤ) : Tx Unit := do
  let updated ← updateWhere (.allocation id) (fun l => (l.allocations.get? id).isSome)
    fun l => Finance.reverseAllocation l id allocAmount reverseAmount
  ensure (updated = true) .recordNotFound

@[grind] def reverseLoop (now : ℤ) : ℤ → List (ℕ × PaymentAllocation) → Tx Unit
  | _, [] => pure ()
  | remaining, alloc :: rest =>
    if remaining ≤ 0 then pure ()
    else do
      let allocAmount := alloc.2.allocatedAmount
      let reverseAmount := roundMoney (min remaining allocAmount : ℤ)
      reverseAllocation alloc.1 allocAmount reverseAmount
      recalculateBalance now alloc.2.invoiceId
      reverseLoop now (roundMoney (remaining - reverseAmount : ℤ)) rest

def reverseAllocationsLifo (now : ℤ) (paymentId : ℕ) (refundAmount : ℤ) : Tx Unit := do
  let allocations ← read fun l => lifoAllocations l paymentId
  let totalAllocated := (allocations.map (·.2.allocatedAmount)).sum
  let found ← read fun l => l.payments.get? paymentId
  match found with
  | none => pure ()
  | some payment =>
    let unallocated := roundMoney (payment.amount - totalAllocated : ℤ)
    reverseLoop now (afterUnallocated refundAmount unallocated) allocations

def updatePaymentStatus (paymentId : ℕ) : Tx Unit := do
  let found ← read fun l => l.payments.get? paymentId
  let totalRefunded ← read fun l => l.executedOf paymentId
  match found with
  | none => pure ()
  | some payment =>
    let updated ← updateWhere (.payment paymentId) (fun l => (l.payments.get? paymentId).isSome) fun l =>
      { l with payments := l.payments.modify paymentId fun p =>
        { p with status := paymentStatusAfter totalRefunded payment.amount } }
    ensure (updated = true) .recordNotFound

/-- `stripeFailure` is how the Stripe call will fail, should it be made. -/
def execute (now : ℤ) (refundId : ℕ) (stripeFailure : Option String) : Tx Unit := do
  let found ← read fun l => l.refunds.get? refundId
  endTransaction
  let refund ← require found (.finance .refundNotFound)
  ensure (refund.status = .approved) (.finance .invalidStatus)
  let paymentRow ← read fun l => l.payments.get? refund.paymentId
  endTransaction
  let claimed ← updateRefund refundId .approved fun r =>
    { r with status := .executed, executedAt := some now }
  ensure (claimed = true) (.finance .invalidStatus)
  reverseAllocationsLifo now refund.paymentId refund.amount
  updatePaymentStatus refund.paymentId
  endTransaction
  if (paymentRow.any fun p => p.paymentMethod = .stripe && p.externalEventId.isSome) then
    match stripeFailure with
    | none => pure ()
    | some message => do
      let updated ← updateWhere (.refund refundId) (fun l => (l.refunds.get? refundId).isSome) fun l =>
        { l with refunds := l.refunds.modify refundId fun r =>
          { r with status := .failed, failureReason := some ("Stripe refund failed: " ++ message) } }
      endTransaction
      ensure (updated = true) .recordNotFound
      fail (.finance .stripeRefundFailed)

inductive RefundRequest
  | create (userId paymentId : ℕ) (amount : ℚ) (reason : String)
  | approve (refundId approverUserId : ℕ)
  | reject (refundId approverUserId : ℕ) (comment : String)
  | execute (now : ℤ) (refundId : ℕ) (stripeFailure : Option String)

/-- The request schema asks for a positive amount. -/
def serve : RefundRequest → Tx Unit
  | .create userId paymentId amount reason =>
    if 0 < amount then create userId paymentId amount reason else fail (.finance .validationError)
  | .approve refundId approverUserId => approve refundId approverUserId
  | .reject refundId approverUserId comment => reject refundId approverUserId comment
  | .execute now refundId stripeFailure => execute now refundId stripeFailure

/-! ## Agreement with the services run one at a time -/

/-- The request among the finance requests. -/
def RefundRequest.toRequest : RefundRequest → Request
  | .create userId paymentId amount reason => ⟨0,.createRefund userId paymentId amount reason⟩
  | .approve refundId approverUserId => ⟨0,.approve refundId approverUserId⟩
  | .reject refundId approverUserId comment => ⟨0,.reject refundId approverUserId comment⟩
  | .execute now refundId stripeFailure => ⟨now,.execute refundId stripeFailure⟩

/-- The outcome of a sequential service as the outcome of a script. -/
def lift : Except FinanceError Ledger → Except ServiceError (Ledger × Unit)
  | .ok l => .ok (l,())
  | .error e => .error (.finance e)

section
variable {db l l' : Ledger} {α β : Type}

theorem run_ensure_pos {p : Prop} {d : Decidable p} (hp : p) (e : ServiceError) :
    (ensure p e : Tx Unit).run db l = (db,.ok (l,())) := by
  rw [ensure,if_pos hp]
  rfl

theorem run_ensure_neg {p : Prop} {d : Decidable p} (hp : ¬p) (e : ServiceError) :
    (ensure p e : Tx Unit).run db l = (db,.error e) := by
  rw [ensure,if_neg hp]
  rfl

theorem run_updateWhere {row : Row} {found : Ledger → Bool} {w : Ledger → Ledger} (h : found l = true) :
    (updateWhere row found w : Tx Bool).run db l = (db,.ok (w l,true)) := by
  simp [updateWhere,run,h]

theorem run_updateWhere_false {row : Row} {found : Ledger → Bool} {w : Ledger → Ledger} (h : found l = false) :
    (updateWhere row found w : Tx Bool).run db l = (db,.ok (l,false)) := by
  simp [updateWhere,run,h]

theorem run_read_bind (f : Ledger → α) (g : α → Tx β) : (read f >>= g).run db l = (g (f l)).run db l := rfl

theorem run_endTransaction_bind (g : Unit → Tx β) : (endTransaction >>= g).run db l = (g ()).run l l := rfl

theorem run_require_some {found : Option α} {a : α} (h : found = some a) (e : ServiceError) :
    (require found e : Tx α).run db l = (db,.ok (l,a)) := by
  rw [h]
  rfl

theorem run_require_none {found : Option α} (h : found = none) (e : ServiceError) :
    (require found e : Tx α).run db l = (db,.error e) := by
  rw [h]
  rfl

theorem run_recalculateBalance (now : ℤ) (db l : Ledger) (invoiceId : ℕ) :
    (recalculateBalance now invoiceId).run db l = (db,lift (Finance.recalculateBalance now l invoiceId)) := by
  unfold recalculateBalance Finance.recalculateBalance
  rw [run_read_bind,run_read_bind]
  cases hi : l.invoices.get? invoiceId with
  | none => exact run_bind_error (run_require_none rfl _) _
  | some invoice =>
    rw [run_bind_ok (run_require_some rfl _)]
    refine (run_bind_ok (run_updateWhere (by rw [hi]; rfl)) _).trans ?_
    exact run_ensure_pos rfl _

theorem run_reverseAllocation {id : ℕ} (h : (l.allocations.get? id).isSome = true) (allocAmount reverseAmount : ℤ) :
    (reverseAllocation id allocAmount reverseAmount).run db l =
      (db,.ok (Finance.reverseAllocation l id allocAmount reverseAmount,())) := by
  refine (run_bind_ok (run_updateWhere h) _).trans ?_
  exact run_ensure_pos rfl _

theorem run_reverseLoop (now : ℤ) (db : Ledger) {remaining : ℤ} {rows : List (ℕ × PaymentAllocation)}
    (hs : Stored l rows) :
    (reverseLoop now remaining rows).run db l = (db,lift (Finance.reverseLoop now l remaining rows)) := by
  induction rows generalizing l remaining with
  | nil => rfl
  | cons a rest ih =>
    unfold reverseLoop Finance.reverseLoop
    by_cases hr : remaining ≤ 0
    · rw [if_pos hr,if_pos hr]
      rfl
    · rw [if_neg hr,if_neg hr]
      have hsome : (l.allocations.get? a.1).isSome = true := by rw [hs.2 a List.mem_cons_self]; rfl
      refine (run_bind_ok (run_reverseAllocation hsome _ _) _).trans ?_
      have hrun := run_recalculateBalance now db (Finance.reverseAllocation l a.1 a.2.allocatedAmount
        (roundMoney (min remaining a.2.allocatedAmount : ℤ))) a.2.invoiceId
      simp only
      cases hm : Finance.recalculateBalance now (Finance.reverseAllocation l a.1 a.2.allocatedAmount
          (roundMoney (min remaining a.2.allocatedAmount : ℤ))) a.2.invoiceId with
      | error e =>
        rw [hm] at hrun
        exact run_bind_error hrun _
      | ok mid =>
        rw [hm] at hrun
        exact (run_bind_ok hrun _).trans (ih (hs.turn hm))

theorem run_reverseAllocationsLifo (now : ℤ) (db l : Ledger) (paymentId : ℕ) (refundAmount : ℤ) :
    (reverseAllocationsLifo now paymentId refundAmount).run db l =
      (db,lift (Finance.reverseAllocationsLifo now l paymentId refundAmount)) := by
  unfold reverseAllocationsLifo Finance.reverseAllocationsLifo
  rw [run_read_bind,run_read_bind]
  cases hp : l.payments.get? paymentId with
  | none => rfl
  | some payment =>
    have hsum : ((lifoAllocations l paymentId).map (·.2.allocatedAmount)).sum = l.allocatedFrom paymentId := by
      rw [lifoAllocations,List.map_reverse,List.sum_reverse]
      rfl
    simp only [hsum]
    exact run_reverseLoop now db (stored_lifoAllocations l paymentId)

/-- The payment as the booking of a refund leaves it. -/
def withPaymentStatus (l : Ledger) (paymentId : ℕ) : Ledger :=
  match l.payments.get? paymentId with
  | none => l
  | some payment => { l with payments := l.payments.modify paymentId fun p =>
      { p with status := paymentStatusAfter (l.executedOf paymentId) payment.amount } }

theorem run_updatePaymentStatus (db l : Ledger) (paymentId : ℕ) :
    (updatePaymentStatus paymentId).run db l = (db,.ok (withPaymentStatus l paymentId,())) := by
  unfold updatePaymentStatus withPaymentStatus
  rw [run_read_bind,run_read_bind]
  cases hp : l.payments.get? paymentId with
  | none => rfl
  | some payment =>
    refine (run_bind_ok (run_updateWhere (by rw [hp]; rfl)) _).trans ?_
    exact run_ensure_pos rfl _

theorem executeTransaction_eq (now : ℤ) (l : Ledger) (refundId : ℕ) (refund : Refund) :
    executeTransaction now l refundId refund =
      Finance.reverseAllocationsLifo now (markExecuted now l refundId) refund.paymentId refund.amount >>= fun l =>
        .ok (withPaymentStatus l refund.paymentId) := by
  unfold executeTransaction withPaymentStatus
  apply congrArg
  funext l
  cases l.payments.get? refund.paymentId <;> rfl

theorem withPaymentStatus_refunds (l : Ledger) (paymentId : ℕ) :
    (withPaymentStatus l paymentId).refunds = l.refunds := by
  unfold withPaymentStatus
  split <;> rfl

theorem reverseAllocationsLifo_refunds {now : ℤ} {paymentId : ℕ} {refundAmount : ℤ}
    (h : Finance.reverseAllocationsLifo now l paymentId refundAmount = .ok l') : l'.refunds = l.refunds := by
  unfold Finance.reverseAllocationsLifo at h
  cases hp : l.payments.get? paymentId with
  | none =>
    rw [hp] at h
    cases h
    rfl
  | some payment =>
    rw [hp] at h
    exact (reverseLoop_frame h).2

/-- `execute` by itself books the refund, and marks it failed if the Stripe call fails. -/
theorem settled_execute (now : ℤ) (l : Ledger) (refundId : ℕ) (stripeFailure : Option String) :
    settled ((execute now refundId stripeFailure).run l l) = (Finance.execute now l refundId stripeFailure).1 := by
  unfold execute Finance.execute
  rw [run_read_bind]
  cases hr : l.refunds.get? refundId with
  | none => rfl
  | some refund =>
    rw [run_endTransaction_bind,run_bind_ok (run_require_some rfl _)]
    by_cases hs : refund.status = .approved
    swap
    · rw [run_bind_error (run_ensure_neg hs _)]
      simp [settled,Fallible.require,Fallible.ensure,hs,Bind.bind,Except.bind]
    rw [run_bind_ok (run_ensure_pos hs _),run_read_bind,run_endTransaction_bind]
    have hfound : (l.refunds.get? refundId).any (·.status = .approved) = true := by simp [hr,hs]
    unfold updateRefund
    rw [run_bind_ok (run_updateWhere hfound),run_bind_ok (run_ensure_pos rfl _)]
    have hlifo := run_reverseAllocationsLifo now l (markExecuted now l refundId) refund.paymentId refund.amount
    cases hx : Finance.reverseAllocationsLifo now (markExecuted now l refundId) refund.paymentId refund.amount with
    | error e =>
      rw [hx] at hlifo
      have htx : executeTransaction now l refundId refund = .error e := by rw [executeTransaction_eq,hx]; rfl
      refine (congrArg settled (run_bind_error hlifo _)).trans ?_
      simp [settled,Fallible.require,Fallible.ensure,hs,Bind.bind,Except.bind,htx]
    | ok mid =>
      rw [hx] at hlifo
      have htx : executeTransaction now l refundId refund = .ok (withPaymentStatus mid refund.paymentId) := by
        rw [executeTransaction_eq,hx]
        rfl
      refine (congrArg settled (run_bind_ok hlifo _)).trans ?_
      rw [run_bind_ok (run_updatePaymentStatus ..),run_endTransaction_bind]
      simp only [Fallible.require,Fallible.ensure,hs,if_true,Bind.bind,Except.bind,htx,pure,Except.pure]
      cases hp : l.payments.get? refund.paymentId with
      | none => rfl
      | some payment =>
        have hany : (some payment).any (fun p => decide (p.paymentMethod = .stripe) && p.externalEventId.isSome) =
            decide (payment.paymentMethod = .stripe ∧ payment.externalEventId.isSome = true) := by
          simp [Bool.decide_and]
        simp only [hany,decide_eq_true_eq]
        by_cases hstripe : payment.paymentMethod = .stripe ∧ payment.externalEventId.isSome = true
        swap
        · rw [if_neg hstripe]
          cases stripeFailure with
          | none => rfl
          | some message => simp only [if_neg hstripe]; rfl
        rw [if_pos hstripe]
        cases stripeFailure with
        | none => rfl
        | some message =>
          have hsome : ((withPaymentStatus mid refund.paymentId).refunds.get? refundId).isSome = true := by
            rw [withPaymentStatus_refunds,reverseAllocationsLifo_refunds hx]
            simp [markExecuted,hr]
          simp only [if_pos hstripe]
          refine (congrArg settled (run_bind_ok (run_updateWhere hsome) _)).trans ?_
          rfl

/-! The checks of a script stop it where those of the service do. -/

theorem settled_ensure_bind {p q : Prop} {d : Decidable p} {d' : Decidable q} (hpq : p ↔ q) {e : ServiceError}
    {e' : FinanceError} {f : Unit → Tx Unit} {f' : PUnit → Except FinanceError Ledger}
    (h : q → settled ((f ()).run l l) = (transact l (f' ⟨⟩)).1) :
    settled ((ensure p e >>= f).run l l) = (transact l (Fallible.ensure q e' >>= f')).1 := by
  by_cases hq : q
  · rw [run_bind_ok (run_ensure_pos (hpq.mpr hq) _),h hq,Fallible.ensure,if_pos hq]
    rfl
  · rw [run_bind_error (run_ensure_neg (mt hpq.mp hq) _),Fallible.ensure,if_neg hq]
    rfl

theorem settled_require_bind {found : Option α} {e : ServiceError} {e' : FinanceError} {f : α → Tx Unit}
    {f' : α → Except FinanceError Ledger}
    (h : ∀ a, found = some a → settled ((f a).run l l) = (transact l (f' a)).1) :
    settled ((require found e >>= f).run l l) = (transact l (Fallible.require found e' >>= f')).1 := by
  cases hf : found with
  | none => rfl
  | some a => exact h a hf

theorem settled_create (l : Ledger) (userId paymentId : ℕ) (amount : ℚ) (reason : String) :
    settled ((create userId paymentId amount reason).run l l) =
      (transact l (createRefund l userId paymentId amount reason)).1 := by
  unfold create createRefund
  rw [run_read_bind]
  refine settled_require_bind fun payment _ => ?_
  rw [run_read_bind,run_read_bind]
  refine settled_ensure_bind Iff.rfl fun _ => settled_ensure_bind Iff.rfl fun _ => ?_
  refine settled_ensure_bind ?_ fun _ => rfl
  simp only [List.forall_mem_filterMap,Option.mem_def]

/-- A decision is taken on a pending refund only. -/
theorem settled_decide {refundId : ℕ} {refund : Refund} (hr : l.refunds.get? refundId = some refund)
    (change : Refund → Refund) {e : ServiceError} {e' : FinanceError} :
    settled ((updateRefund refundId .pendingApproval change >>= fun updated =>
      endTransaction >>= fun _ => ensure (updated = true) e).run l l) =
    (transact l (Fallible.ensure (refund.status = .pendingApproval) e' >>= fun _ =>
      pure { l with refunds := l.refunds.modify refundId change })).1 := by
  unfold updateRefund
  by_cases hs : refund.status = .pendingApproval
  · have hfound : (l.refunds.get? refundId).any (·.status = .pendingApproval) = true := by simp [hr,hs]
    rw [run_bind_ok (run_updateWhere hfound),run_endTransaction_bind,run_ensure_pos rfl,Fallible.ensure,if_pos hs]
    rfl
  · have hfound : (l.refunds.get? refundId).any (·.status = .pendingApproval) = false := by simp [hr,hs]
    rw [run_bind_ok (run_updateWhere_false hfound),run_endTransaction_bind,run_ensure_neg Bool.false_ne_true,
      Fallible.ensure,if_neg hs]
    rfl

theorem settled_approve (l : Ledger) (refundId approverUserId : ℕ) :
    settled ((approve refundId approverUserId).run l l) = (transact l (Finance.approve l refundId approverUserId)).1 := by
  unfold approve Finance.approve
  rw [run_read_bind,run_endTransaction_bind]
  refine settled_require_bind fun refund hr => settled_ensure_bind Iff.rfl fun _ => ?_
  exact settled_decide hr _

theorem settled_reject (l : Ledger) (refundId approverUserId : ℕ) (comment : String) :
    settled ((reject refundId approverUserId comment).run l l) =
      (transact l (Finance.reject l refundId approverUserId comment)).1 := by
  unfold reject Finance.reject
  rw [run_read_bind,run_endTransaction_bind]
  exact settled_require_bind fun refund hr => settled_decide hr _

end

/-- A refund request served with nobody beside it does what the service does. -/
theorem settled_serve (l : Ledger) (request : RefundRequest) :
    settled ((serve request).run l l) = Finance.step l request.toRequest := by
  cases request with
  | create userId paymentId amount reason =>
    have hvalid : (Command.createRefund userId paymentId amount reason).valid = decide (0 < amount) := rfl
    simp only [serve,Finance.step,Finance.serve,RefundRequest.toRequest,hvalid,decide_eq_true_eq]
    by_cases hpos : 0 < amount
    · rw [if_pos hpos,if_pos hpos]
      exact settled_create l userId paymentId amount reason
    · rw [if_neg hpos,if_neg hpos]
      rfl
  | approve refundId approverUserId => exact settled_approve l refundId approverUserId
  | reject refundId approverUserId comment => exact settled_reject l refundId approverUserId comment
  | execute now refundId stripeFailure => exact settled_execute now l refundId stripeFailure

end EduPod.Finance.Statements
