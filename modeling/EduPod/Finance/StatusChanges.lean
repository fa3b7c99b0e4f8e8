import EduPod.Finance.Funding
import EduPod.Finance.RefundCover

/-! # What an accepted allocation request can overdraw

Every row is checked on its own against the balance read before any row is written. Rows that
name one invoice are booked together, so the limits hold for their sum or not at all.
-/
namespace EduPod.Finance
open Fallible Runs InvoiceStatus

section
/-- No invoice has a negative balance. -/
def NoneOverpaid (l : Ledger) : Prop := ∀ id invoice, l.invoices.get? id = some invoice → 0 ≤ invoice.balanceAmount

/-- No invoice is overpaid and no more than the payment is allocated. -/
def WithinLimits (l : Ledger) (paymentId : ℕ) : Prop :=
  NoneOverpaid l ∧ ∀ payment, l.payments.get? paymentId = some payment → l.allocatedFrom paymentId ≤ payment.amount

/-- What the rows of a request put on one invoice, as stored. -/
def requestedFor (allocs : List AllocationItem) (invoiceId : ℕ) : ℤ :=
  ((allocs.filter fun a => a.invoiceId = invoiceId).map (toColumn ·.amount)).sum

/-- The rows together stay within the payment, and those of one invoice within what its other
allocations and its write-off leave of the total. The invoices not named are not overpaid. -/
structure RowsFit (l : Ledger) (paymentId : ℕ) (allocs : List AllocationItem) : Prop where
  payment : ∀ payment, l.payments.get? paymentId = some payment →
    (allocs.map (toColumn ·.amount)).sum ≤ payment.amount - l.allocatedFrom paymentId
  named : ∀ id ∈ allocs.map (·.invoiceId), ∀ invoice, l.invoices.get? id = some invoice →
    requestedFor allocs id ≤ invoice.totalAmount - l.allocatedTo id - invoice.writeOffAmount.getD 0
  unnamed : ∀ id ∉ allocs.map (·.invoiceId), ∀ invoice, l.invoices.get? id = some invoice → 0 ≤ invoice.balanceAmount

section
variable {now : ℤ} {l l' : Ledger} {paymentId : ℕ} {allocs : List AllocationItem}

theorem createAllocations_allocatedTo_eq (paymentId : ℕ) (l : Ledger) (allocs : List AllocationItem) (id : ℕ) :
    (allocs.foldl (createAllocation paymentId) l).allocatedTo id = l.allocatedTo id + requestedFor allocs id := by
  induction allocs generalizing l with
  | nil => simp [requestedFor]
  | cons a rest ih =>
    have hone : (createAllocation paymentId l a).allocatedTo id =
        l.allocatedTo id + if a.invoiceId = id then toColumn a.amount else 0 := by
      simp [Ledger.allocatedTo,createAllocation,Table.sumWhere_insert]
    rw [List.foldl_cons,ih,hone]
    by_cases h : a.invoiceId = id
    · simp only [requestedFor,h,decide_true,List.filter_cons_of_pos,List.map_cons,List.sum_cons,if_true]
      ring
    · simp [requestedFor,h]

theorem confirmAllocations_allocatedTo (h : confirmAllocations now l paymentId allocs = .ok l') (id : ℕ) :
    l'.allocatedTo id = l.allocatedTo id + requestedFor allocs id := by
  apply (Ledger.allocatedTo_congr (confirmAllocations_frame h).1).trans
  exact createAllocations_allocatedTo_eq paymentId l allocs id

theorem confirmAllocations_allocatedFrom (h : confirmAllocations now l paymentId allocs = .ok l') :
    l'.allocatedFrom paymentId = l.allocatedFrom paymentId + (allocs.map (toColumn ·.amount)).sum := by
  apply (Ledger.allocatedFrom_congr (confirmAllocations_frame h).1).trans
  rw [createAllocations_allocatedFrom,if_pos rfl]

/-- The balances after an accepted request: recomputed for the invoices it names, kept for the others. -/
theorem confirmAllocations_noneOverpaid_iff (h : confirmAllocations now l paymentId allocs = .ok l') :
    NoneOverpaid l' ↔
      (∀ id ∈ allocs.map (·.invoiceId), ∀ invoice, l.invoices.get? id = some invoice →
        requestedFor allocs id ≤ invoice.totalAmount - l.allocatedTo id - invoice.writeOffAmount.getD 0) ∧
      ∀ id ∉ allocs.map (·.invoiceId), ∀ invoice, l.invoices.get? id = some invoice → 0 ≤ invoice.balanceAmount := by
  have hr := confirmAllocations_rebalanced h
  have hto := confirmAllocations_allocatedTo h
  constructor
  · intro hn
    constructor
    · intro id hid invoice hi
      obtain ⟨invoice₀,invoice',hi₀,hi',-,-,-,hb⟩ := hr.recomputed id hid
      obtain rfl : invoice = invoice₀ := Option.some.inj (hi.symm.trans hi₀)
      have := hn id invoice' hi'
      rw [hb,hto] at this
      omega
    · intro id hid invoice hi
      apply hn id invoice
      rw [(hr.kept id hid).1,hi]
  · rintro ⟨hnamed,hunnamed⟩ id invoice' hi'
    by_cases hid : id ∈ allocs.map (·.invoiceId)
    · obtain ⟨invoice,invoice₀,hi,hi₀,-,-,-,hb⟩ := hr.recomputed id hid
      obtain rfl : invoice' = invoice₀ := Option.some.inj (hi'.symm.trans hi₀)
      have := hnamed id hid invoice hi
      rw [hb,hto]
      omega
    · exact hunnamed id hid invoice' ((hr.kept id hid).1 ▸ hi')

/-- An accepted request leaves everything within its limits precisely when its rows fit together. -/
theorem confirmAllocations_withinLimits_iff (h : confirmAllocations now l paymentId allocs = .ok l') :
    WithinLimits l' paymentId ↔ RowsFit l paymentId allocs := by
  have hpay := (confirmAllocations_frame h).2.1
  have hfrom := confirmAllocations_allocatedFrom h
  unfold WithinLimits
  rw [confirmAllocations_noneOverpaid_iff h,hpay,hfrom]
  constructor
  · rintro ⟨⟨hnamed,hunnamed⟩,hp⟩
    exact ⟨fun payment hi => le_sub_iff_add_le'.mpr (hp payment hi),hnamed,hunnamed⟩
  · intro hf
    exact ⟨⟨hf.named,hf.unnamed⟩,fun payment hi => le_sub_iff_add_le'.mp (hf.payment payment hi)⟩

end

/-- An issued invoice of 100.00 and a posted payment of 200.00 of one household. -/
def invoiceAndPayment : Ledger :=
  [⟨0,.createInvoice 1 0 [⟨"Tuition",1,10000⟩]⟩,⟨0,.issue 0 .notRequired⟩,
   ⟨0,.createManual 1 .cash 20000 none⟩].foldl step (Ledger.initial [1])

/-- Two rows for the invoice, each within its balance. -/
def bothRows : List AllocationItem := [⟨0,10000⟩,⟨0,10000⟩]

theorem bothRows_withinLimits_iff : ∃ l', confirmAllocations 0 invoiceAndPayment 0 bothRows = .ok l' ∧
    (WithinLimits l' 0 ↔ RowsFit invoiceAndPayment 0 bothRows) := by
  obtain ⟨l',h⟩ := exists_of_isOk (x := confirmAllocations 0 invoiceAndPayment 0 bothRows) (by decide +kernel)
  exact ⟨l',h,confirmAllocations_withinLimits_iff h⟩

/-- Both rows are accepted and leave the invoice with a balance of -100.00. -/
theorem not_confirmAllocations_withinLimits : ¬∀ (now : ℤ) (l l' : Ledger) (paymentId : ℕ) (allocs : List AllocationItem),
    (Command.confirmAllocations paymentId allocs).valid = true → WithinLimits l paymentId →
    confirmAllocations now l paymentId allocs = .ok l' → WithinLimits l' paymentId := by
  intro h
  obtain ⟨l',hok⟩ := exists_of_isOk (x := confirmAllocations 0 invoiceAndPayment 0 bothRows) (by decide +kernel)
  have hbefore : WithinLimits invoiceAndPayment 0 := by
    constructor
    · intro id invoice hi
      have hall : ∀ r ∈ invoiceAndPayment.invoices.rows, 0 ≤ r.2.balanceAmount := by decide +kernel
      exact hall _ (Table.mem_of_get? hi)
    · intro payment hi
      have hall : ∀ r ∈ invoiceAndPayment.payments.rows, invoiceAndPayment.allocatedFrom 0 ≤ r.2.amount := by
        decide +kernel
      exact hall _ (Table.mem_of_get? hi)
  obtain ⟨hnone,-⟩ := h 0 invoiceAndPayment l' 0 bothRows (by decide) hbefore hok
  obtain ⟨hnamed,-⟩ := (confirmAllocations_noneOverpaid_iff hok).mp hnone
  have hsome : (invoiceAndPayment.invoices.get? 0).isSome = true := by decide +kernel
  obtain ⟨invoice,hi⟩ := Option.isSome_iff_exists.mp hsome
  have hrow : ∀ r ∈ invoiceAndPayment.invoices.rows, r.2.totalAmount - invoiceAndPayment.allocatedTo 0 -
      r.2.writeOffAmount.getD 0 < requestedFor bothRows 0 := by decide +kernel
  exact absurd (hnamed 0 (by decide) invoice hi) (not_le.mpr (hrow _ (Table.mem_of_get? hi)))

end

/-! ## Status changes and the transition map

An explicit transition asks the map first. A status derived from a recomputed balance does not,
so what it may turn into is decided by the old status and the amounts alone.
-/

/-- Every invoice keeps its status or makes a transition of the map. -/
def StatusChangesPermitted (l l' : Ledger) : Prop := ∀ id invoice invoice',
  l.invoices.get? id = some invoice → l'.invoices.get? id = some invoice' →
  invoice'.status = invoice.status ∨ isValidInvoiceTransition invoice.status invoice'.status = true

/-- The new balances for which deriving the status of an invoice stays within the map. -/
def DerivesPermitted (now : ℤ) (invoice : Invoice) (balance : ℤ) : Prop :=
  let settled := balance = 0
  let partly := 0 < balance ∧ balance ≠ invoice.totalAmount
  let pastDue := balance = invoice.totalAmount ∧ invoice.dueDate < now
  match invoice.status with
  | draft => ¬settled ∧ ¬partly ∧ ¬pastDue
  | partiallyPaid => settled ∨ partly
  | overdue => settled ∨ partly ∨ pastDue
  | paid => settled ∧ invoice.writeOffAmount.getD 0 ≤ 0
  | writtenOff => settled ∧ 0 < invoice.writeOffAmount.getD 0
  | pendingApproval | issued | void | cancelled => True

/-- What a reversal takes off the allocations of one invoice: whole rows, or the rest of the
amount off the last row it gets to. -/
@[grind] def reversedFor : ℤ → List (ℕ × PaymentAllocation) → ℕ → ℤ
  | _, [], _ => 0
  | remaining, a :: rest, id =>
    if remaining ≤ 0 then 0
    else (if a.2.invoiceId = id then
        if a.2.allocatedAmount ≤ remaining + 1 then a.2.allocatedAmount else remaining
      else 0) + reversedFor (remaining - a.2.allocatedAmount) rest id

section
variable {now : ℤ} {l l' : Ledger}

/-! ## Derived statuses -/

def derivedStatus (now : ℤ) (invoice : Invoice) (balance : ℤ) : InvoiceStatus :=
  deriveInvoiceStatus invoice.status balance invoice.totalAmount invoice.dueDate now
    (some (invoice.writeOffAmount.getD 0))

/-- Deriving in whole cents. -/
theorem deriveInvoiceStatus_eq (currentStatus : InvoiceStatus) (balance total dueDate now writeOff : ℤ) :
    deriveInvoiceStatus currentStatus balance total dueDate now (some writeOff) =
      if currentStatus ∈ [void,cancelled,pendingApproval] then currentStatus
      else if balance = 0 then if 0 < writeOff then writtenOff else paid
      else if 0 < balance ∧ balance ≠ total then partiallyPaid
      else if balance = total ∧ dueDate < now then overdue
      else issued := by
  have hzero : 2 * |balance| < 1 ↔ balance = 0 := by
    rw [← abs_eq_zero]
    have := abs_nonneg balance
    omega
  have htotal : 2 * |balance - total| < 1 ↔ balance = total := by
    rw [← sub_eq_zero,← abs_eq_zero]
    have := abs_nonneg (balance - total)
    omega
  have hne : 1 < 2 * |balance - total| ↔ balance ≠ total := by
    rw [← sub_ne_zero,← abs_pos]
    omega
  have hpos : 1 < 2 * balance ↔ 0 < balance := by omega
  simp only [deriveInvoiceStatus,hzero,htotal,hne,hpos,Option.getD_some]
  split
  · rfl
  by_cases hb : balance = 0 <;> simp [hb]

theorem derivedStatus_permitted_iff (now : ℤ) (invoice : Invoice) (balance : ℤ) :
    derivedStatus now invoice balance = invoice.status ∨
      isValidInvoiceTransition invoice.status (derivedStatus now invoice balance) = true ↔
    DerivesPermitted now invoice balance := by
  unfold derivedStatus DerivesPermitted
  rw [deriveInvoiceStatus_eq]
  by_cases hs : balance = 0
  · by_cases hw : 0 < invoice.writeOffAmount.getD 0
    · simp only [hs,hw,not_le.mpr hw,if_true]
      cases invoice.status <;> simp [isValidInvoiceTransition,validInvoiceTransitions]
    · simp only [hs,hw,not_lt.mp hw,if_true,if_false]
      cases invoice.status <;> simp [isValidInvoiceTransition,validInvoiceTransitions]
  by_cases hp : 0 < balance ∧ balance ≠ invoice.totalAmount
  · simp only [hs,hp.1,hp.2,ne_eq,not_false_eq_true,and_self,if_true,if_false,false_and]
    cases invoice.status <;> simp [isValidInvoiceTransition,validInvoiceTransitions]
  by_cases hd : balance = invoice.totalAmount ∧ invoice.dueDate < now
  · simp only [hs,if_neg hp,if_pos hd,if_false]
    cases invoice.status <;> simp [isValidInvoiceTransition,validInvoiceTransitions,hd]
  · simp only [hs,if_neg hp,if_neg hd,if_false]
    cases invoice.status <;> simp [isValidInvoiceTransition,validInvoiceTransitions,hp,hd]

/-- A status derived twice is the one derived last. -/
theorem deriveInvoiceStatus_deriveInvoiceStatus (currentStatus : InvoiceStatus)
    (balance balance' total dueDate now writeOff : ℤ) :
    deriveInvoiceStatus (deriveInvoiceStatus currentStatus balance total dueDate now (some writeOff))
      balance' total dueDate now (some writeOff) =
    deriveInvoiceStatus currentStatus balance' total dueDate now (some writeOff) := by
  simp only [deriveInvoiceStatus_eq]
  by_cases h : currentStatus ∈ [void,cancelled,pendingApproval]
  · simp only [if_pos h]
  · simp only [if_neg h]
    rw [if_neg]
    split_ifs <;> decide

/-! ## Recomputations -/

/-- The invoices of `T` had their status derived anew from their new balance; the others are kept. -/
structure Rederived (now : ℤ) (l l' : Ledger) (T : List ℕ) : Prop where
  kept : ∀ id ∉ T, l'.invoices.get? id = l.invoices.get? id
  derived : ∀ id ∈ T, ∃ invoice invoice', l.invoices.get? id = some invoice ∧
    l'.invoices.get? id = some invoice' ∧ invoice'.totalAmount = invoice.totalAmount ∧
    invoice'.dueDate = invoice.dueDate ∧ invoice'.writeOffAmount = invoice.writeOffAmount ∧
    invoice'.status = derivedStatus now invoice invoice'.balanceAmount

theorem Rederived.refl (now : ℤ) (l : Ledger) : Rederived now l l [] :=
  ⟨fun _ _ => rfl,fun _ hid => absurd hid List.not_mem_nil⟩

theorem Rederived.trans {l'' : Ledger} {T T' : List ℕ} (h : Rederived now l l' T)
    (h' : Rederived now l' l'' T') : Rederived now l l'' (T ++ T') := by
  constructor
  · intro id hid
    simp only [List.mem_append,not_or] at hid
    exact (h'.kept id hid.2).trans (h.kept id hid.1)
  · intro id hid
    by_cases hT' : id ∈ T'
    · obtain ⟨mid,invoice'',hm,hi'',ht',hd',hw',hs'⟩ := h'.derived id hT'
      by_cases hT : id ∈ T
      · obtain ⟨invoice,mid',hi,hm',ht,hd,hw,hs⟩ := h.derived id hT
        obtain rfl : mid' = mid := Option.some.inj (hm'.symm.trans hm)
        refine ⟨invoice,invoice'',hi,hi'',ht'.trans ht,hd'.trans hd,hw'.trans hw,?_⟩
        rw [hs',derivedStatus,hs,ht,hd,hw]
        apply deriveInvoiceStatus_deriveInvoiceStatus
      · exact ⟨mid,invoice'',(h.kept id hT) ▸ hm,hi'',ht',hd',hw',hs'⟩
    · have hT : id ∈ T := (List.mem_append.mp hid).resolve_right hT'
      obtain ⟨invoice,invoice',hi,hi',hrest⟩ := h.derived id hT
      exact ⟨invoice,invoice',hi,(h'.kept id hT').trans hi',hrest⟩

theorem Rederived.of_invoices {l'' : Ledger} {T : List ℕ} (h : Rederived now l' l'' T)
    (hl : l'.invoices = l.invoices) : Rederived now l l'' T :=
  ⟨fun id hid => by rw [h.kept id hid,hl],fun id hid => by rw [← hl]; exact h.derived id hid⟩

theorem recalculateBalance_rederived {id : ℕ} (h : recalculateBalance now l id = .ok l') :
    Rederived now l l' [id] := by
  obtain ⟨invoice,balance,hi,-,rfl⟩ := recalculateBalance_ok h
  constructor
  · intro j hj
    exact Table.get?_modify_ne _ (by simpa using hj) _
  · intro j hj
    obtain rfl : j = id := by simpa using hj
    exact ⟨invoice,_,hi,Table.get?_modify_self hi _,rfl,rfl,rfl,rfl⟩

theorem confirmAllocations_rederived {paymentId : ℕ} {allocs : List AllocationItem}
    (h : confirmAllocations now l paymentId allocs = .ok l') :
    Rederived now l l' (allocs.map (·.invoiceId)) := by
  obtain ⟨-,h⟩ := confirmAllocations_ok_iff.mp h
  have hall := recalculateAll_relates (Rederived.refl now) .trans recalculateBalance_rederived h
  exact hall.of_invoices (createAllocations_frame paymentId l allocs).1

theorem Executed.rederived {refundId : ℕ} {refund : Refund} {payment : Payment}
    (hp : l.payments.get? refund.paymentId = some payment) (h : Executed now l refundId refund l') :
    Rederived now l l' ((reached (toReverse l payment refund) (lifoAllocations l refund.paymentId)).map
      (·.2.invoiceId)) := by
  rcases h with ⟨hn,-⟩ | ⟨payment',hp',mid,hm,rfl⟩
  · rw [hp] at hn
    cases hn
  · obtain rfl : payment = payment' := Option.some.inj (hp.symm.trans hp')
    have hr := reverseLoop_relates (Rederived.refl now) .trans
      (fun _ h => (recalculateBalance_rederived h).of_invoices (reverseAllocation_frame ..).1)
      (stored_lifoAllocations (markExecuted now l refundId) refund.paymentId) hm
    exact ⟨hr.kept,hr.derived⟩

/-- After a recomputation every change is permitted precisely when the amounts allow it. -/
theorem Rederived.permitted_iff {T : List ℕ} (hd : Rederived now l l' T) (hr : Rebalanced l l' T) :
    StatusChangesPermitted l l' ↔ ∀ id ∈ T, ∀ invoice, l.invoices.get? id = some invoice →
      DerivesPermitted now invoice
        (invoice.totalAmount - l'.allocatedTo id - invoice.writeOffAmount.getD 0) := by
  have hone : ∀ id ∈ T, ∀ invoice, l.invoices.get? id = some invoice → ∃ invoice',
      l'.invoices.get? id = some invoice' ∧ invoice'.status = derivedStatus now invoice
        (invoice.totalAmount - l'.allocatedTo id - invoice.writeOffAmount.getD 0) := by
    intro id hid invoice hi
    obtain ⟨invoice₁,invoice',hi₁,hi',-,-,-,hs⟩ := hd.derived id hid
    obtain ⟨invoice₂,invoice'₂,hi₂,hi'₂,-,-,-,hb⟩ := hr.recomputed id hid
    obtain rfl : invoice₁ = invoice := Option.some.inj (hi₁.symm.trans hi)
    obtain rfl : invoice₂ = invoice₁ := Option.some.inj (hi₂.symm.trans hi)
    obtain rfl : invoice'₂ = invoice' := Option.some.inj (hi'₂.symm.trans hi')
    exact ⟨invoice'₂,hi',by rw [hs,hb]⟩
  constructor
  · intro h id hid invoice hi
    obtain ⟨invoice',hi',hs⟩ := hone id hid invoice hi
    rw [← derivedStatus_permitted_iff,← hs]
    exact h id invoice invoice' hi hi'
  · intro h id invoice invoice' hi hi'
    by_cases hid : id ∈ T
    · obtain ⟨invoice₁,hi₁,hs⟩ := hone id hid invoice hi
      obtain rfl : invoice₁ = invoice' := Option.some.inj (hi₁.symm.trans hi')
      rw [hs]
      exact (derivedStatus_permitted_iff now invoice _).mpr (h id hid invoice hi)
    · rw [hd.kept id hid,hi] at hi'
      exact Or.inl (congrArg Invoice.status (Option.some.inj hi').symm)

/-! ## What a reversal leaves allocated -/

theorem reversedFor_of_nonpos {remaining : ℤ} (h : remaining ≤ 0) (rows : List (ℕ × PaymentAllocation))
    (id : ℕ) : reversedFor remaining rows id = 0 := by
  cases rows <;> simp [reversedFor,h]

theorem reversedFor_min (remaining amount : ℤ) (rows : List (ℕ × PaymentAllocation)) (id : ℕ) :
    reversedFor (remaining - min remaining amount) rows id = reversedFor (remaining - amount) rows id := by
  rcases le_total remaining amount with h | h
  · rw [min_eq_left h,reversedFor_of_nonpos (by omega),reversedFor_of_nonpos (by omega)]
  · rw [min_eq_right h]

theorem reverseAllocation_allocatedTo_eq {a : ℕ × PaymentAllocation}
    (ha : l.allocations.get? a.1 = some a.2) (remaining : ℤ) (id : ℕ) :
    (reverseAllocation l a.1 a.2.allocatedAmount (min remaining a.2.allocatedAmount)).allocatedTo id =
      l.allocatedTo id - if a.2.invoiceId = id then
        if a.2.allocatedAmount ≤ remaining + 1 then a.2.allocatedAmount else remaining else 0 := by
  unfold reverseAllocation Ledger.allocatedTo
  by_cases hle : a.2.allocatedAmount ≤ remaining + 1
  · have hdrop : min remaining a.2.allocatedAmount ≥ a.2.allocatedAmount - 1 := by omega
    rw [if_pos hdrop,if_pos hle,Table.sumWhere_erase ha]
    simp
  · have hkeep : ¬min remaining a.2.allocatedAmount ≥ a.2.allocatedAmount - 1 := by omega
    rw [if_neg hkeep,if_neg hle,Table.sumWhere_modify ha]
    by_cases hid : a.2.invoiceId = id
    · simp only [hid,decide_true,if_true,roundMoney_intCast]
      omega
    · simp [hid]

theorem reverseLoop_allocatedTo {remaining : ℤ} {rows : List (ℕ × PaymentAllocation)} (hs : Stored l rows)
    (h : reverseLoop now l remaining rows = .ok l') (id : ℕ) :
    l'.allocatedTo id = l.allocatedTo id - reversedFor remaining rows id := by
  induction rows generalizing l remaining with
  | nil =>
    obtain rfl : l = l' := by simpa [reverseLoop] using h
    simp [reversedFor]
  | cons a rest ih =>
    simp only [reverseLoop,roundMoney_intCast] at h
    by_cases hr : remaining ≤ 0
    · rw [if_pos hr] at h
      obtain rfl : l = l' := by simpa using h
      simp [reversedFor,hr]
    · rw [if_neg hr] at h
      obtain ⟨mid,hm,h⟩ := bind_eq_ok.mp h
      have hturn := reverseAllocation_allocatedTo_eq (hs.2 a List.mem_cons_self) remaining id
      rw [← Ledger.allocatedTo_congr (recalculateBalance_allocations hm).1] at hturn
      rw [ih (hs.turn hm) h,hturn,reversedFor_min,reversedFor,if_neg hr]
      ring

theorem Executed.allocatedTo {refundId : ℕ} {refund : Refund} {payment : Payment}
    (hp : l.payments.get? refund.paymentId = some payment) (h : Executed now l refundId refund l') (id : ℕ) :
    l'.allocatedTo id = l.allocatedTo id -
      reversedFor (toReverse l payment refund) (lifoAllocations l refund.paymentId) id := by
  rcases h with ⟨hn,-⟩ | ⟨payment',hp',mid,hm,rfl⟩
  · rw [hp] at hn
    cases hn
  · obtain rfl : payment = payment' := Option.some.inj (hp.symm.trans hp')
    exact reverseLoop_allocatedTo (stored_lifoAllocations (markExecuted now l refundId) refund.paymentId) hm id

/-! ## One request -/

theorem StatusChangesPermitted.of_invoices (h : l'.invoices = l.invoices) : StatusChangesPermitted l l' := by
  intro id invoice invoice' hi hi'
  rw [h,hi] at hi'
  exact Or.inl (congrArg Invoice.status (Option.some.inj hi').symm)

/-- An update of one invoice only has to be checked there. -/
theorem StatusChangesPermitted.of_modify {id : ℕ} {invoice : Invoice} (hi : l.invoices.get? id = some invoice)
    {g : Invoice → Invoice} (hg : (g invoice).status = invoice.status ∨
      isValidInvoiceTransition invoice.status (g invoice).status = true) :
    StatusChangesPermitted l { l with invoices := l.invoices.modify id g } := by
  intro j invoice₁ invoice' hj hj'
  by_cases hne : j = id
  · subst hne
    obtain rfl : invoice = invoice₁ := Option.some.inj (hi.symm.trans hj)
    rw [Table.get?_modify_self hi] at hj'
    cases hj'
    exact hg
  · rw [Table.get?_modify_ne _ hne,hj] at hj'
    exact Or.inl (congrArg Invoice.status (Option.some.inj hj').symm)

theorem issue_permitted {id : ℕ} {approval : IssueApproval} (h : issue now l id approval = .ok l') :
    StatusChangesPermitted l l' := by
  simp only [issue,require_bind_eq_ok,ensure_bind_eq_ok] at h
  obtain ⟨invoice,hi,hs,h⟩ := h
  cases approval <;> cases h <;> refine .of_modify hi (Or.inr ?_) <;> rw [hs] <;> rfl

theorem voidInvoice_permitted {id : ℕ} (h : voidInvoice l id = .ok l') : StatusChangesPermitted l l' := by
  simp only [voidInvoice,require_bind_eq_ok,ensure_bind_eq_ok,pure_eq_ok] at h
  obtain ⟨invoice,hi,-,ht,rfl⟩ := h
  exact .of_modify hi (Or.inr ht)

theorem cancel_permitted {id : ℕ} (h : cancel l id = .ok l') : StatusChangesPermitted l l' := by
  simp only [cancel,require_bind_eq_ok,ensure_bind_eq_ok,pure_eq_ok] at h
  obtain ⟨invoice,hi,ht,rfl⟩ := h
  exact .of_modify hi (Or.inr ht)

theorem writeOff_permitted {id : ℕ} {reason : String} (h : writeOff l id reason = .ok l') :
    StatusChangesPermitted l l' := by
  obtain ⟨invoice,hi,ht,rfl⟩ := writeOff_ok_iff.mp h
  exact .of_modify hi (Or.inr ht)

/-- A payable invoice may be paid in full or in part. -/
theorem payable_permitted {status target : InvoiceStatus} (hs : isPayableStatus status = true)
    (ht : target = paid ∨ target = partiallyPaid) :
    target = status ∨ isValidInvoiceTransition status target = true := by
  cases status <;> rcases ht with rfl | rfl <;> revert hs <;> decide

theorem applyToInvoice_permitted {creditNoteId invoiceId : ℕ} {requested : ℚ}
    (h : applyToInvoice now l creditNoteId invoiceId requested = .ok l') : StatusChangesPermitted l l' := by
  simp only [applyToInvoice,require_bind_eq_ok,ensure_bind_eq_ok,pure_eq_ok,roundMoney_intCast] at h
  obtain ⟨cn,-,-,invoice,hi,hs,-,rfl⟩ := h
  refine StatusChangesPermitted.of_modify hi (payable_permitted hs ?_)
  exact ite_eq_or_eq ..

/-! ## Whole runs -/

/-- The services whose status changes the map governs. -/
def Command.governed : Command → Bool
  | .issue .. | .cancel .. | .voidInvoice .. | .writeOff .. | .confirmAllocations .. | .applyToInvoice ..
  | .execute .. => true
  | _ => false

/-- Every invoice an accepted allocation request names ends with a balance its status allows. -/
def ConfirmsPermitted (now : ℤ) (l : Ledger) (paymentId : ℕ) (allocs : List AllocationItem) : Prop :=
  Confirmable l paymentId allocs → ∀ id ∈ allocs.map (·.invoiceId), ∀ invoice,
    l.invoices.get? id = some invoice → DerivesPermitted now invoice
      (invoice.totalAmount - (l.allocatedTo id + requestedFor allocs id) - invoice.writeOffAmount.getD 0)

/-- Every invoice a refund takes an allocation from ends with a balance its status allows. -/
def ReversesPermitted (now : ℤ) (l : Ledger) (refundId : ℕ) : Prop :=
  ∀ refund payment, l.refunds.get? refundId = some refund → refund.status = .approved →
    l.payments.get? refund.paymentId = some payment →
    ∀ id ∈ (reached (toReverse l payment refund) (lifoAllocations l refund.paymentId)).map (·.2.invoiceId),
    ∀ invoice, l.invoices.get? id = some invoice → DerivesPermitted now invoice
      (invoice.totalAmount - (l.allocatedTo id -
        reversedFor (toReverse l payment refund) (lifoAllocations l refund.paymentId) id) -
          invoice.writeOffAmount.getD 0)

def StatusGuard (l : Ledger) (r : Request) : Prop :=
  match r.command with
  | .confirmAllocations paymentId allocs => r.command.valid → ConfirmsPermitted r.now l paymentId allocs
  | .execute refundId _ => ReversesPermitted r.now l refundId
  | _ => True

theorem confirmAllocations_permitted_iff (paymentId : ℕ) (allocs : List AllocationItem) :
    StatusChangesPermitted l (transact l (confirmAllocations now l paymentId allocs)).1 ↔
      ConfirmsPermitted now l paymentId allocs := by
  refine transact_iff (.of_invoices rfl) ?_ ?_
  · intro l' h
    rw [(confirmAllocations_rederived h).permitted_iff (confirmAllocations_rebalanced h)]
    simp only [confirmAllocations_allocatedTo h]
    exact ⟨fun hd _ => hd,fun hd => hd (confirmAllocations_ok_iff.mp h).1⟩
  · intro herr hc
    obtain ⟨l',h⟩ := hc.exists_ok now
    exact absurd h (herr l')

theorem Executed.permitted_iff {refundId : ℕ} {refund : Refund} (hr : l.refunds.get? refundId = some refund)
    (hs : refund.status = .approved) (h : Executed now l refundId refund l') :
    StatusChangesPermitted l l' ↔ ReversesPermitted now l refundId := by
  cases hp : l.payments.get? refund.paymentId with
  | none =>
    rcases h with ⟨-,rfl⟩ | ⟨payment,hp',-⟩
    · refine iff_of_true (.of_invoices rfl) ?_
      intro refund' payment hr' _ hp'
      obtain rfl : refund = refund' := Option.some.inj (hr.symm.trans hr')
      rw [hp] at hp'
      cases hp'
    · rw [hp] at hp'
      cases hp'
  | some payment =>
    rw [(h.rederived hp).permitted_iff (h.rebalanced hp)]
    simp only [h.allocatedTo hp]
    constructor
    · intro hd refund' payment' hr' _ hp'
      obtain rfl : refund = refund' := Option.some.inj (hr.symm.trans hr')
      obtain rfl : payment = payment' := Option.some.inj (hp.symm.trans hp')
      exact hd
    · intro hd
      exact hd refund payment hr hs hp

theorem execute_permitted_iff (hw : Linked l) (refundId : ℕ) (stripeFailure : Option String) :
    StatusChangesPermitted l (execute now l refundId stripeFailure).1 ↔ ReversesPermitted now l refundId := by
  rcases execute_cases now l refundId stripeFailure with
    ⟨refund,mid,hr,hs,hx,⟨-,h⟩ | ⟨-,message,h⟩⟩ | ⟨h,herr⟩
  · rw [h]
    exact hx.permitted_iff hr hs
  · rw [h]
    change StatusChangesPermitted l mid ↔ _
    exact hx.permitted_iff hr hs
  · rw [h]
    refine iff_of_true (.of_invoices rfl) ?_
    intro refund payment hr hs hp
    obtain ⟨mid,hx⟩ := hw.exists_executed now refundId hp
    exact absurd hx (herr refund hr hs mid)

/-- A governed request changes statuses within the map precisely when it meets the guard. -/
theorem step_permitted_iff (l : Ledger) (r : Request) (hw : Linked l) :
    (r.command.governed = true → StatusChangesPermitted l (step l r)) ↔ StatusGuard l r := by
  obtain ⟨now,command⟩ := r
  have hsame : StatusChangesPermitted l l := .of_invoices rfl
  unfold step serve StatusGuard
  by_cases hv : command.valid = true
  swap
  · -- a request the schema refuses changes nothing
    rw [if_neg hv]
    refine iff_of_true (fun _ => hsame) ?_
    cases command <;> first | trivial | exact fun h => absurd h hv
  rw [if_pos hv]
  cases command with
  | issue id approval => exact iff_of_true (fun _ => transact_keeps hsame fun l' h => issue_permitted h) trivial
  | cancel id => exact iff_of_true (fun _ => transact_keeps hsame fun l' h => cancel_permitted h) trivial
  | voidInvoice id =>
    exact iff_of_true (fun _ => transact_keeps hsame fun l' h => voidInvoice_permitted h) trivial
  | writeOff id reason =>
    exact iff_of_true (fun _ => transact_keeps hsame fun l' h => writeOff_permitted h) trivial
  | applyToInvoice creditNoteId invoiceId appliedAmount =>
    exact iff_of_true (fun _ => transact_keeps hsame fun l' h => applyToInvoice_permitted h) trivial
  | confirmAllocations paymentId allocs =>
    have h : StatusChangesPermitted l (transact l (confirmAllocations now l paymentId allocs)).1 ↔
        ConfirmsPermitted now l paymentId allocs := confirmAllocations_permitted_iff paymentId allocs
    exact ⟨fun hp _ => h.mp (hp rfl),fun hg _ => h.mpr (hg hv)⟩
  | execute refundId stripeFailure =>
    have h : StatusChangesPermitted l (execute now l refundId stripeFailure).1 ↔ ReversesPermitted now l refundId :=
      execute_permitted_iff hw refundId stripeFailure
    exact ⟨fun hp => h.mp (hp rfl),fun hg _ => h.mpr hg⟩
  | _ => exact iff_of_true (fun hg => absurd hg Bool.false_ne_true) trivial

end

/-- A draft invoice of 100.00 and a payment of 100.00. -/
def draftAndPayment : Ledger :=
  [⟨0,.createInvoice 1 0 [⟨"Tuition",1,10000⟩]⟩,⟨0,.createManual 1 .cash 10000 none⟩].foldl step
    (Ledger.initial [1])

end EduPod.Finance
