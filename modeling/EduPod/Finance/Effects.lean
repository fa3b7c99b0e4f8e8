import EduPod.Finance.Commands
import EduPod.Finance.Recalculation

/-! # What an accepted request changes

One inversion lemma a request, so that no invariant proof unfolds a service again.
-/
namespace EduPod.Finance
open Fallible
variable {now : ℤ} {l l' : Ledger}

/-! ## Invoices -/

theorem createInvoice_ok {householdId : ℕ} {dueDate : ℤ} {lines : List InvoiceLineDto}
    (h : createInvoice l householdId dueDate lines = .ok l') : ∃ invoice : Invoice,
      invoice.balanceAmount = invoice.totalAmount ∧ invoice.writeOffAmount = none ∧
      l' = { l with invoices := l.invoices.insert invoice } := by
  simp only [createInvoice,ensure_bind_eq_ok,pure_eq_ok] at h
  obtain ⟨-,rfl⟩ := h
  exact ⟨_,rfl,rfl,rfl⟩

/-- One invoice was rewritten, its amounts were not, and it was not reopened. -/
def Restatused (l l' : Ledger) (id : ℕ) : Prop := ∃ invoice g, l.invoices.get? id = some invoice ∧
  l' = { l with invoices := l.invoices.modify id g } ∧
  (g invoice).totalAmount = invoice.totalAmount ∧ (g invoice).balanceAmount = invoice.balanceAmount ∧
  (g invoice).writeOffAmount = invoice.writeOffAmount ∧
  (invoice.status.closed = true → (g invoice).status.closed = true)

theorem issue_ok {id : ℕ} {approval : IssueApproval} (h : issue now l id approval = .ok l') :
    Restatused l l' id := by
  simp only [issue,require_bind_eq_ok,ensure_bind_eq_ok] at h
  obtain ⟨invoice,hi,hs,h⟩ := h
  have hc : invoice.status.closed = false := by rw [hs]; rfl
  cases approval <;> cases h <;> exact ⟨invoice,_,hi,rfl,rfl,rfl,rfl,by simp [hc]⟩

theorem approvalCallback_ok {id : ℕ} (h : approvalCallback now l id = .ok l') : Restatused l l' id := by
  simp only [approvalCallback,require_bind_eq_ok,ensure_bind_eq_ok,pure_eq_ok] at h
  obtain ⟨invoice,hi,hs,rfl⟩ := h
  have hc : invoice.status.closed = false := by rw [hs]; rfl
  exact ⟨invoice,_,hi,rfl,rfl,rfl,rfl,by simp [hc]⟩

theorem markOverdue_ok {cutoffDate : ℤ} {id : ℕ} (h : markOverdue cutoffDate now l id = .ok l') :
    Restatused l l' id := by
  simp only [markOverdue,require_bind_eq_ok,ensure_bind_eq_ok,pure_eq_ok] at h
  obtain ⟨invoice,hi,⟨hs,-,-⟩,rfl⟩ := h
  have hc : invoice.status.closed = false := by
    rcases List.mem_cons.mp hs with hs | hs
    · rw [hs]; rfl
    · rw [List.mem_singleton.mp hs]; rfl
  exact ⟨invoice,_,hi,rfl,rfl,rfl,rfl,by simp [hc]⟩

theorem voidInvoice_ok {id : ℕ} (h : voidInvoice l id = .ok l') : Restatused l l' id := by
  simp only [voidInvoice,require_bind_eq_ok,ensure_bind_eq_ok,pure_eq_ok] at h
  obtain ⟨invoice,hi,-,-,rfl⟩ := h
  exact ⟨invoice,_,hi,rfl,rfl,rfl,rfl,fun _ => rfl⟩

theorem cancel_ok {id : ℕ} (h : cancel l id = .ok l') : Restatused l l' id := by
  simp only [cancel,require_bind_eq_ok,ensure_bind_eq_ok,pure_eq_ok] at h
  obtain ⟨invoice,hi,-,rfl⟩ := h
  exact ⟨invoice,_,hi,rfl,rfl,rfl,rfl,fun _ => rfl⟩

theorem writeOff_ok_iff {id : ℕ} {reason : String} : writeOff l id reason = .ok l' ↔ ∃ invoice,
    l.invoices.get? id = some invoice ∧ isValidInvoiceTransition invoice.status .writtenOff = true ∧
    l' = { l with invoices := l.invoices.modify id fun i =>
      { i with status := .writtenOff, writeOffAmount := some invoice.balanceAmount,
               writeOffReason := some reason, balanceAmount := 0 } } := by
  simp only [writeOff,require_bind_eq_ok,ensure_bind_eq_ok,pure_eq_ok]
  simp only [eq_comm (b := l')]

/-! ## Credit notes and late fees -/

theorem applyToInvoice_ok {creditNoteId invoiceId : ℕ} {requested : ℚ}
    (h : applyToInvoice now l creditNoteId invoiceId requested = .ok l') :
    ∃ invoice status, ∃ applied : ℤ, ∃ notes, l.invoices.get? invoiceId = some invoice ∧
      invoice.status.closed = false ∧
      l' = { l with
        creditNoteApplications := l.creditNoteApplications.insert
          { creditNoteId, invoiceId, appliedAmount := applied, appliedAt := now }
        creditNotes := notes
        invoices := l.invoices.modify invoiceId fun i =>
          { i with balanceAmount := invoice.balanceAmount - applied, status := status } } := by
  simp only [applyToInvoice,require_bind_eq_ok,ensure_bind_eq_ok,pure_eq_ok,roundMoney_intCast] at h
  obtain ⟨cn,-,-,invoice,hi,hs,-,rfl⟩ := h
  exact ⟨invoice,_,_,_,hi,closed_of_isPayableStatus hs,rfl⟩

theorem applyLateFee_ok {invoiceId : ℕ} {configId : Option ℕ}
    (h : applyLateFee now l invoiceId configId = .ok l') :
    ∃ invoice, ∃ fee : ℤ, ∃ applications lines, l.invoices.get? invoiceId = some invoice ∧
      invoice.status.closed = false ∧
      l' = { l with
        lateFeeApplications := applications
        invoices := l.invoices.modify invoiceId fun i =>
          { i with totalAmount := invoice.totalAmount + fee, balanceAmount := invoice.balanceAmount + fee,
                   lines := i.lines ++ lines } } := by
  simp only [applyLateFee,require_bind_eq_ok,ensure_bind_eq_ok,pure_eq_ok,roundMoney_intCast] at h
  obtain ⟨invoice,hi,hs,config,-,-,-,-,rfl⟩ := h
  exact ⟨invoice,lateFeeAmount config.2 invoice.totalAmount,_,_,hi,closed_of_isPayableStatus hs,rfl⟩

theorem createCreditNote_ok {householdId : ℕ} {amount : ℚ} {reason : String}
    (h : createCreditNote l householdId amount reason = .ok l') :
    ∃ note, l' = { l with creditNotes := l.creditNotes.insert note } := by
  simp only [createCreditNote,ensure_bind_eq_ok,pure_eq_ok] at h
  obtain ⟨-,rfl⟩ := h
  exact ⟨_,rfl⟩

/-! ## Payments -/

theorem createManual_ok {householdId : ℕ} {paymentMethod : PaymentMethod} {amount : ℚ}
    {reason : Option String} (h : createManual l householdId paymentMethod amount reason = .ok l') :
    l' = { l with
      payments := l.payments.insert ⟨householdId,paymentMethod,none,toColumn amount,.posted,reason⟩ } := by
  simp only [createManual,ensure_bind_eq_ok,pure_eq_ok] at h
  exact h.2.symm

/-- The webhook gets as far as an allocation. -/
def CheckoutAllocates (l : Ledger) (invoiceId : ℕ) (amountCents : ℤ) (paymentIntentId : String) : Prop :=
  0 < amountCents ∧
  l.payments.select (fun p => p.externalEventId = some paymentIntentId) = [] ∧
  ∃ invoice, l.invoices.get? invoiceId = some invoice ∧ 0 < invoice.balanceAmount

/-- The payment a completed checkout posts. -/
def checkoutPayment (householdId : ℕ) (amountCents : ℤ) (paymentIntentId : String) : Payment where
  householdId := householdId
  paymentMethod := .stripe
  externalEventId := some paymentIntentId
  amount := amountCents
  status := .posted
  reason := none

theorem handleCheckoutCompleted_ok {householdId invoiceId : ℕ} {amountCents : ℤ} {paymentIntentId : String}
    (h : handleCheckoutCompleted now l householdId invoiceId amountCents paymentIntentId = .ok l') :
    (¬ CheckoutAllocates l invoiceId amountCents paymentIntentId ∧ (l' = l ∨ (0 < amountCents ∧
      l' = { l with
        payments := l.payments.insert (checkoutPayment householdId amountCents paymentIntentId) }))) ∨
    (CheckoutAllocates l invoiceId amountCents paymentIntentId ∧ ∃ invoice,
      l.invoices.get? invoiceId = some invoice ∧ 0 < invoice.balanceAmount ∧ recalculateBalance now { l with
        payments := l.payments.insert (checkoutPayment householdId amountCents paymentIntentId)
        allocations := l.allocations.insert
          ⟨l.payments.next,invoiceId,min amountCents invoice.balanceAmount⟩ } invoiceId = .ok l') := by
  simp only [handleCheckoutCompleted,roundMoney_intCast] at h
  by_cases hpos : amountCents ≤ 0
  · rw [if_pos hpos] at h
    exact Or.inl ⟨fun hc => absurd hc.1 (not_lt.mpr hpos),Or.inl (Except.ok.inj h).symm⟩
  rw [if_neg hpos] at h
  by_cases hnew : (l.payments.select (fun p => p.externalEventId = some paymentIntentId)) = []
  swap
  · rw [if_pos (by simpa [List.isEmpty_iff] using hnew)] at h
    exact Or.inl ⟨fun hc => hnew hc.2.1,Or.inl (Except.ok.inj h).symm⟩
  rw [if_neg (by simp [hnew])] at h
  cases hi : l.invoices.get? invoiceId with
  | none =>
    simp only [hi] at h
    exact Or.inl ⟨fun ⟨_,_,_,hc,_⟩ => by simp [hi] at hc,Or.inr ⟨not_le.mp hpos,(Except.ok.inj h).symm⟩⟩
  | some invoice =>
    simp only [hi] at h
    by_cases hb : invoice.balanceAmount > 0
    · rw [if_pos hb] at h
      exact Or.inr ⟨⟨not_le.mp hpos,hnew,invoice,hi,hb⟩,invoice,rfl,hb,h⟩
    · rw [if_neg hb] at h
      refine Or.inl ⟨?_,Or.inr ⟨not_le.mp hpos,(Except.ok.inj h).symm⟩⟩
      rintro ⟨_,_,invoice',hi',hb'⟩
      obtain rfl : invoice = invoice' := Option.some.inj (hi.symm.trans hi')
      exact hb hb'

/-- The webhook never fails: it recomputes an invoice only after finding it. -/
theorem handleCheckoutCompleted_exists_ok (now : ℤ) (l : Ledger) (householdId invoiceId : ℕ)
    (amountCents : ℤ) (paymentIntentId : String) : ∃ l',
      handleCheckoutCompleted now l householdId invoiceId amountCents paymentIntentId = .ok l' := by
  simp only [handleCheckoutCompleted,roundMoney_intCast]
  split
  · exact ⟨_,rfl⟩
  split
  · exact ⟨_,rfl⟩
  split
  · exact ⟨_,rfl⟩
  · rename_i invoice hi
    split
    · exact recalculateBalance_exists now (by rw [hi]; rfl)
    · exact ⟨_,rfl⟩

/-! ## Refunds -/

theorem createRefund_ok {userId paymentId : ℕ} {amount : ℚ} {reason : String}
    (h : createRefund l userId paymentId amount reason = .ok l') : ∃ payment,
      l.payments.get? paymentId = some payment ∧
      payment.status ∈ [PaymentStatus.posted,.refundedPartial] ∧
      amount ≤ payment.amount - l.refundedOf paymentId (fun s => s ≠ .rejected && s ≠ .failed) + 1 ∧
      l' = { l with
        refunds := l.refunds.insert ⟨paymentId,toColumn amount,.pendingApproval,reason,userId,none,none,none⟩ } := by
  simp only [createRefund,require_bind_eq_ok,ensure_bind_eq_ok,pure_eq_ok,roundMoney_intCast] at h
  obtain ⟨payment,hp,hs,hle,-,rfl⟩ := h
  exact ⟨payment,hp,hs,by simpa using hle,rfl⟩

theorem approve_ok {refundId approverUserId : ℕ} (h : approve l refundId approverUserId = .ok l') :
    ∃ refund, l.refunds.get? refundId = some refund ∧ refund.status = .pendingApproval ∧
      l' = { l with refunds := l.refunds.modify refundId fun r =>
        { r with status := .approved, approvedByUserId := some approverUserId } } := by
  simp only [approve,require_bind_eq_ok,ensure_bind_eq_ok,pure_eq_ok] at h
  obtain ⟨refund,hr,-,hs,rfl⟩ := h
  exact ⟨refund,hr,hs,rfl⟩

theorem reject_ok {refundId approverUserId : ℕ} {comment : String}
    (h : reject l refundId approverUserId comment = .ok l') :
    ∃ refund, l.refunds.get? refundId = some refund ∧ refund.status = .pendingApproval ∧
      l' = { l with refunds := l.refunds.modify refundId fun r =>
        { r with status := .rejected, approvedByUserId := some approverUserId,
                 failureReason := some comment } } := by
  simp only [reject,require_bind_eq_ok,ensure_bind_eq_ok,pure_eq_ok] at h
  obtain ⟨refund,hr,hs,rfl⟩ := h
  exact ⟨refund,hr,hs,rfl⟩

/-- The part of a refund that the allocations of its payment have to give back. -/
def toReverse (l : Ledger) (payment : Payment) (refund : Refund) : ℤ :=
  afterUnallocated refund.amount (payment.amount - l.allocatedFrom refund.paymentId)

/-- A committed transaction of `execute`: the refund is booked, the loop ran over the payment's
allocations, and the payment got its new status. -/
def Executed (now : ℤ) (l : Ledger) (refundId : ℕ) (refund : Refund) (l' : Ledger) : Prop :=
  (l.payments.get? refund.paymentId = none ∧ l' = markExecuted now l refundId) ∨
  ∃ payment, l.payments.get? refund.paymentId = some payment ∧ ∃ mid,
    reverseLoop now (markExecuted now l refundId) (toReverse l payment refund)
      (lifoAllocations l refund.paymentId) = .ok mid ∧
    l' = { mid with payments := mid.payments.modify refund.paymentId fun p =>
      { p with status := paymentStatusAfter (mid.executedOf refund.paymentId) payment.amount } }

theorem executeTransaction_ok_iff {refundId : ℕ} {refund : Refund} :
    executeTransaction now l refundId refund = .ok l' ↔ Executed now l refundId refund l' := by
  have hpay : (markExecuted now l refundId).payments = l.payments := rfl
  simp only [executeTransaction,bind_eq_ok,Executed]
  cases hp : l.payments.get? refund.paymentId with
  | none =>
    have hloop : reverseAllocationsLifo now (markExecuted now l refundId) refund.paymentId refund.amount =
        .ok (markExecuted now l refundId) := by
      simp only [reverseAllocationsLifo,hpay,hp]
    simp only [hloop,Except.ok.injEq,exists_eq_left',hpay,hp,pure_eq_ok,reduceCtorEq,false_and,exists_false,
      or_false,true_and]
    exact eq_comm
  | some payment =>
    have hloop : reverseAllocationsLifo now (markExecuted now l refundId) refund.paymentId refund.amount =
        reverseLoop now (markExecuted now l refundId) (toReverse l payment refund)
          (lifoAllocations l refund.paymentId) := by
      simp only [reverseAllocationsLifo,roundMoney_intCast,hpay,hp]
      rfl
    simp only [hloop,reduceCtorEq,false_and,false_or,Option.some.injEq,exists_eq_left']
    refine exists_congr fun mid => and_congr_right fun hm => ?_
    rw [(reverseLoop_frame hm).1,hpay,hp]
    exact pure_eq_ok.trans eq_comm

/-- The Stripe call is made and fails. -/
def StripeFails (l : Ledger) (refund : Refund) (stripeFailure : Option String) : Prop :=
  stripeFailure.isSome ∧ ∃ payment, l.payments.get? refund.paymentId = some payment ∧
    payment.paymentMethod = .stripe ∧ payment.externalEventId.isSome

/-- `execute` leaves the tables alone unless the refund is approved and its transaction goes
through; a failed Stripe call only marks the refund on top of that. -/
theorem execute_cases (now : ℤ) (l : Ledger) (refundId : ℕ) (stripeFailure : Option String) :
    (∃ refund mid, l.refunds.get? refundId = some refund ∧ refund.status = .approved ∧
      Executed now l refundId refund mid ∧
      ((¬ StripeFails l refund stripeFailure ∧ (execute now l refundId stripeFailure).1 = mid) ∨
        (StripeFails l refund stripeFailure ∧
          ∃ message, (execute now l refundId stripeFailure).1 = markFailed mid refundId message))) ∨
    ((execute now l refundId stripeFailure).1 = l ∧ ∀ refund, l.refunds.get? refundId = some refund →
      refund.status = .approved → ∀ mid, ¬ Executed now l refundId refund mid) := by
  unfold execute
  cases hr : l.refunds.get? refundId with
  | none => exact Or.inr ⟨rfl,by simp⟩
  | some refund =>
    by_cases hs : refund.status = .approved
    · cases hx : executeTransaction now l refundId refund with
      | error e =>
        refine Or.inr ⟨by simp [require,ensure,hs,hx,Bind.bind,Except.bind],?_⟩
        intro refund' hr' _ mid hmid
        obtain rfl : refund = refund' := Option.some.inj hr'
        rw [executeTransaction_ok_iff.mpr hmid] at hx
        cases hx
      | ok mid =>
        refine Or.inl ⟨refund,mid,rfl,hs,executeTransaction_ok_iff.mp hx,?_⟩
        simp only [require,ensure,hs,if_true,Bind.bind,Except.bind,hx,pure,Except.pure,StripeFails]
        cases hp : l.payments.get? refund.paymentId with
        | none => exact Or.inl ⟨by simp,rfl⟩
        | some payment =>
          cases stripeFailure with
          | none => exact Or.inl ⟨by simp,rfl⟩
          | some message =>
            by_cases hf : payment.paymentMethod = .stripe ∧ payment.externalEventId.isSome
            · simp only [if_pos hf]
              exact Or.inr ⟨⟨rfl,payment,rfl,hf⟩,message,rfl⟩
            · simp only [if_neg hf]
              refine Or.inl ⟨?_,trivial⟩
              rintro ⟨-,payment',hp',hf'⟩
              exact hf (Option.some.inj hp' ▸ hf')
    · refine Or.inr ⟨?_,?_⟩
      · simp [require,ensure,hs,Bind.bind,Except.bind]
      · intro refund' hr'
        obtain rfl : refund = refund' := Option.some.inj hr'
        exact fun h => absurd h hs

end EduPod.Finance
