import EduPod.Finance.RefundCover

/-! # The status of a payment and its executed refunds

The status is written when a refund is booked, before Stripe is called, and from a total that
counts one cent short of the amount as the whole amount.
-/
namespace EduPod.Finance
open Fallible Runs

/-- The status that its executed refunds give a payment. -/
def statusOf (executed amount : ℤ) : PaymentStatus :=
  if amount ≤ executed then .refundedFull else if 0 < executed then .refundedPartial else .posted

/-- Every payment has the status its executed refunds give it. -/
def StatusExact (l : Ledger) : Prop :=
  ∀ id payment, l.payments.get? id = some payment → payment.status = statusOf (l.executedOf id) payment.amount

/-- Refunds are not negative and belong to stored payments, allocations to stored invoices. -/
structure Traced (l : Ledger) : Prop where
  linked : Linked l
  refunds : l.refunds.All fun r => 0 ≤ r.amount ∧ (l.payments.get? r.paymentId).isSome

/-- A refund that pays out does not leave exactly one cent of its payment. One whose Stripe call fails
would not have moved the status had it paid out. -/
def BooksExactly (l : Ledger) (refundId : ℕ) (stripeFailure : Option String) : Prop :=
  ∀ refund payment, l.refunds.get? refundId = some refund → refund.status = .approved →
    l.payments.get? refund.paymentId = some payment →
    (¬ StripeFails l refund stripeFailure →
      l.executedOf refund.paymentId + refund.amount ≠ payment.amount - 1) ∧
    (StripeFails l refund stripeFailure → payment.amount ≤ l.executedOf refund.paymentId ∨
      (0 < l.executedOf refund.paymentId ∧
        l.executedOf refund.paymentId + refund.amount < payment.amount - 1) ∨
      (l.executedOf refund.paymentId ≤ 0 ∧ l.executedOf refund.paymentId + refund.amount ≤ 0 ∧
        l.executedOf refund.paymentId + refund.amount < payment.amount - 1))

/-- Payments are worth at least a cent and refunds are booked exactly. -/
def PaymentGuard (l : Ledger) (r : Request) : Prop :=
  match r.command with
  | .createManual householdId _ amount _ => r.command.valid → householdId ∈ l.households → 0 < toColumn amount
  | .execute refundId stripeFailure => BooksExactly l refundId stripeFailure
  | _ => True

section
variable {now : ℤ} {l l' : Ledger}

theorem paymentStatusAfter_eq_statusOf (executed amount : ℤ) :
    paymentStatusAfter executed amount = statusOf executed amount ↔ executed ≠ amount - 1 := by
  unfold paymentStatusAfter statusOf
  split_ifs <;> simp <;> omega

theorem paymentStatusAfter_add_eq_statusOf {executed amount : ℤ} {refunded : ℤ} (hr : 0 ≤ refunded) :
    paymentStatusAfter (executed + refunded) amount = statusOf executed amount ↔ amount ≤ executed ∨
      (0 < executed ∧ executed + refunded < amount - 1) ∨
      (executed ≤ 0 ∧ executed + refunded ≤ 0 ∧ executed + refunded < amount - 1) := by
  unfold paymentStatusAfter statusOf
  split_ifs <;> simp <;> omega

/-! ## Requests that book no refund -/

/-- What a request may do to payments and refunds that neither takes a manual payment nor books a refund. -/
inductive Moved (l l' : Ledger) : Prop
  | kept (hp : l'.payments = l.payments) (hr : l'.refunds = l.refunds)
  | paid (payment : Payment) (hs : payment.status = .posted) (ha : 0 < payment.amount)
    (hp : l'.payments = l.payments.insert payment) (hr : l'.refunds = l.refunds)
  | requested (refund : Refund) (hpay : (l.payments.get? refund.paymentId).isSome) (ha : 0 ≤ refund.amount)
    (hs : refund.status ≠ .executed) (hp : l'.payments = l.payments) (hr : l'.refunds = l.refunds.insert refund)
  | decided (id : ℕ) (refund : Refund) (g : Refund → Refund) (hi : l.refunds.get? id = some refund)
    (hg : (g refund).paymentId = refund.paymentId ∧ (g refund).amount = refund.amount)
    (hs : refund.status ≠ .executed ∧ (g refund).status ≠ .executed)
    (h : l' = { l with refunds := l.refunds.modify id g })

theorem Restatused.moved {id : ℕ} (h : Restatused l l' id) : Moved l l' := by
  obtain ⟨_,_,_,rfl,-⟩ := h
  exact .kept rfl rfl

theorem Moved.of_transact {x : Except FinanceError Ledger} (h : ∀ l', x = .ok l' → Moved l l') :
    Moved l (transact l x).1 := transact_keeps (.kept rfl rfl) h

theorem handleCheckoutCompleted_moved {householdId invoiceId : ℕ} {amountCents : ℤ} {paymentIntentId : String}
    (h : handleCheckoutCompleted now l householdId invoiceId amountCents paymentIntentId = .ok l') :
    Moved l l' := by
  rcases handleCheckoutCompleted_ok h with ⟨-,rfl | ⟨hpos,rfl⟩⟩ | ⟨hc,invoice,-,-,h⟩
  · exact .kept rfl rfl
  · exact .paid (checkoutPayment householdId amountCents paymentIntentId) rfl hpos rfl rfl
  · obtain ⟨-,hp,hr⟩ := recalculateBalance_allocations h
    exact .paid (checkoutPayment householdId amountCents paymentIntentId) rfl hc.1 hp hr

theorem step_moved (l : Ledger) (r : Request)
    (hm : ∀ householdId paymentMethod amount reason, r.command ≠ .createManual householdId paymentMethod amount reason)
    (h : ∀ refundId stripeFailure, r.command ≠ .execute refundId stripeFailure) : Moved l (step l r) := by
  obtain ⟨now,command⟩ := r
  unfold step serve
  by_cases hv : command.valid = true
  swap
  · rw [if_neg hv]
    exact .kept rfl rfl
  rw [if_pos hv]
  cases command with
  | createInvoice householdId dueDate lines =>
    refine .of_transact fun l' h => ?_
    obtain ⟨invoice,-,-,rfl⟩ := createInvoice_ok h
    exact .kept rfl rfl
  | issue id approval => exact .of_transact fun l' h => (issue_ok h).moved
  | approvalCallback id => exact .of_transact fun l' h => (approvalCallback_ok h).moved
  | markOverdue cutoffDate id => exact .of_transact fun l' h => (markOverdue_ok h).moved
  | voidInvoice id => exact .of_transact fun l' h => (voidInvoice_ok h).moved
  | cancel id => exact .of_transact fun l' h => (cancel_ok h).moved
  | writeOff id reason =>
    refine .of_transact fun l' h => ?_
    obtain ⟨invoice,-,-,rfl⟩ := writeOff_ok_iff.mp h
    exact .kept rfl rfl
  | createManual householdId paymentMethod amount reason => exact absurd rfl (hm _ _ _ _)
  | checkoutCompleted householdId invoiceId amountCents paymentIntentId =>
    exact .of_transact fun l' h => handleCheckoutCompleted_moved h
  | confirmAllocations paymentId allocs =>
    refine .of_transact fun l' h => ?_
    obtain ⟨-,hp,hr⟩ := confirmAllocations_frame h
    exact .kept hp hr
  | createCreditNote householdId amount reason =>
    refine .of_transact fun l' h => ?_
    obtain ⟨note,rfl⟩ := createCreditNote_ok h
    exact .kept rfl rfl
  | applyToInvoice creditNoteId invoiceId appliedAmount =>
    refine .of_transact fun l' h => ?_
    obtain ⟨_,_,_,_,-,-,rfl⟩ := applyToInvoice_ok h
    exact .kept rfl rfl
  | createLateFeeConfig config => exact .kept rfl rfl
  | applyLateFee invoiceId configId =>
    refine .of_transact fun l' h => ?_
    obtain ⟨_,_,_,_,-,-,rfl⟩ := applyLateFee_ok h
    exact .kept rfl rfl
  | createRefund userId paymentId amount reason =>
    simp only [Command.valid,decide_eq_true_eq] at hv
    refine .of_transact fun l' h => ?_
    obtain ⟨payment,hp,-,-,rfl⟩ := createRefund_ok h
    exact .requested _ (Option.isSome_of_eq_some hp) (toColumn_nonneg hv.le) (by simp) rfl rfl
  | approve refundId approverUserId =>
    refine .of_transact fun l' h => ?_
    obtain ⟨refund,hr,hs,rfl⟩ := approve_ok h
    refine .decided refundId refund _ hr ⟨rfl,rfl⟩ ⟨?_,?_⟩ rfl <;> simp [hs]
  | reject refundId approverUserId comment =>
    refine .of_transact fun l' h => ?_
    obtain ⟨refund,hr,hs,rfl⟩ := reject_ok h
    refine .decided refundId refund _ hr ⟨rfl,rfl⟩ ⟨?_,?_⟩ rfl <;> simp [hs]
  | execute refundId stripeFailure => exact absurd rfl (h refundId stripeFailure)

theorem Traced.insertPayment (ht : Traced l) (hw : Linked l') {payment : Payment}
    (hp : l'.payments = l.payments.insert payment) (hr : l'.refunds = l.refunds) : Traced l' := by
  refine ⟨hw,?_⟩
  rw [hp,hr]
  exact ht.refunds.mono fun r h => ⟨h.1,Table.isSome_get?_insert h.2 _⟩

theorem Moved.traced (hm : Moved l l') (hw : Linked l') (ht : Traced l) : Traced l' := by
  cases hm with
  | kept hp hr =>
    refine ⟨hw,?_⟩
    rw [hp,hr]
    exact ht.refunds
  | paid payment hs ha hp hr => exact ht.insertPayment hw hp hr
  | requested refund hpay ha hs hp hr =>
    refine ⟨hw,?_⟩
    rw [hp,hr]
    exact ht.refunds.insert ⟨ha,hpay⟩
  | decided id refund g hi hg hs h =>
    subst h
    refine ⟨hw,ht.refunds.modify ?_⟩
    intro r hr
    obtain rfl : refund = r := Option.some.inj (hi.symm.trans hr)
    rw [hg.1,hg.2]
    exact ht.refunds.get? hi

theorem Traced.executedOf_next (ht : Traced l) : l.executedOf l.payments.next = 0 := by
  refine Table.sumWhere_eq_zero (ht.refunds.mono fun r hr => ?_) _
  have hne : r.paymentId ≠ l.payments.next := by
    intro he
    rw [he,l.payments.get?_next] at hr
    exact absurd hr.2 (by simp)
  simp [hne]

/-- A new payment has the right status precisely when it is worth something. -/
theorem statusExact_insert_iff (ht : Traced l) (hs : StatusExact l) {payment : Payment}
    (hst : payment.status = .posted) (hp : l'.payments = l.payments.insert payment) (hr : l'.refunds = l.refunds) :
    StatusExact l' ↔ 0 < payment.amount := by
  have hexec : ∀ id, l'.executedOf id = l.executedOf id := fun id => Ledger.refundedOf_congr hr
  constructor
  · intro h
    have hnew := h l.payments.next payment (by rw [hp,Table.get?_insert,if_pos rfl])
    by_contra hle
    rw [hexec,ht.executedOf_next,statusOf,if_pos (not_lt.mp hle),hst] at hnew
    cases hnew
  · intro hpos id payment' hi
    rw [hexec]
    rw [hp,Table.get?_insert] at hi
    by_cases hid : id = l.payments.next
    · rw [if_pos hid] at hi
      cases hi
      rw [hid,ht.executedOf_next,statusOf,if_neg (not_le.mpr hpos),if_neg (lt_irrefl 0),hst]
    · rw [if_neg hid] at hi
      exact hs id payment' hi

theorem Moved.statusExact (hm : Moved l l') (ht : Traced l) (hs : StatusExact l) : StatusExact l' := by
  cases hm with
  | kept hp hr =>
    intro id payment hi
    rw [Ledger.executedOf,Ledger.refundedOf_congr hr]
    exact hs id payment (hp ▸ hi)
  | paid payment hst ha hp hr => exact (statusExact_insert_iff ht hs hst hp hr).mpr ha
  | requested refund hpay ha hst hp hr =>
    intro id payment hi
    have he : l'.executedOf id = l.executedOf id := by
      simp [Ledger.executedOf,Ledger.refundedOf,hr,Table.sumWhere_insert,hst]
    rw [he]
    exact hs id payment (hp ▸ hi)
  | decided rid refund g hi hg hst h =>
    subst h
    intro id payment hp
    rw [executedOf_modify hi hg.1 hg.2 rfl]
    simpa [hst.1,hst.2] using hs id payment hp

/-! ## The execution of a refund -/

theorem Executed.booking {refundId : ℕ} {refund : Refund} {payment : Payment}
    (hr : l.refunds.get? refundId = some refund) (hs : refund.status = .approved)
    (hp : l.payments.get? refund.paymentId = some payment) (hx : Executed now l refundId refund l') :
    (l'.refunds = l.refunds.modify refundId fun r => { r with status := .executed, executedAt := some now }) ∧
    l'.payments = l.payments.modify refund.paymentId fun p => { p with
      status := paymentStatusAfter (l.executedOf refund.paymentId + refund.amount) payment.amount } := by
  rcases hx with ⟨hn,-⟩ | ⟨payment',hp',mid,hm,rfl⟩
  · rw [hp] at hn
    cases hn
  · obtain rfl : payment = payment' := Option.some.inj (hp.symm.trans hp')
    obtain ⟨hmp,hmr⟩ := reverseLoop_frame hm
    have he := executedOf_markExecuted hr hs hmr refund.paymentId
    rw [if_pos rfl] at he
    refine ⟨hmr,?_⟩
    rw [he,hmp]
    rfl

/-- The one payment whose status a booking writes decides. -/
theorem statusExact_modify_iff (hs : StatusExact l) {paymentId : ℕ} {payment : Payment}
    (hp : l.payments.get? paymentId = some payment) {status : PaymentStatus}
    (hl : l'.payments = l.payments.modify paymentId fun p => { p with status := status })
    (hothers : ∀ id ≠ paymentId, l'.executedOf id = l.executedOf id) :
    StatusExact l' ↔ status = statusOf (l'.executedOf paymentId) payment.amount := by
  constructor
  · intro h
    apply h paymentId { payment with status }
    rw [hl]
    exact Table.get?_modify_self hp _
  · intro h id payment' hi
    rw [hl] at hi
    by_cases hid : id = paymentId
    · subst hid
      rw [Table.get?_modify_self hp] at hi
      cases hi
      exact h
    · rw [Table.get?_modify_ne _ hid] at hi
      rw [hothers id hid]
      exact hs id payment' hi

theorem execute_statusExact_iff (now : ℤ) (refundId : ℕ) (stripeFailure : Option String) (ht : Traced l)
    (he : StatusExact l) :
    StatusExact (execute now l refundId stripeFailure).1 ↔ BooksExactly l refundId stripeFailure := by
  rcases execute_cases now l refundId stripeFailure with
    ⟨refund,mid,hr,hs,hx,⟨hok,h⟩ | ⟨hfail,message,h⟩⟩ | ⟨h,herr⟩
  · obtain ⟨hpos,hpay⟩ := ht.refunds.get? hr
    obtain ⟨payment,hp⟩ := Option.isSome_iff_exists.mp hpay
    obtain ⟨hrefunds,hpayments⟩ := hx.booking hr hs hp
    have hexec := executedOf_markExecuted hr hs hrefunds
    rw [h,statusExact_modify_iff he hp hpayments fun id hid => by rw [hexec,if_neg hid.symm,add_zero],
      hexec,if_pos rfl,paymentStatusAfter_eq_statusOf]
    constructor
    · intro hne refund' payment' hr' _ hp'
      obtain rfl : refund = refund' := Option.some.inj (hr.symm.trans hr')
      obtain rfl : payment = payment' := Option.some.inj (hp.symm.trans hp')
      exact ⟨fun _ => hne,fun hfail => absurd hfail hok⟩
    · intro hb
      exact (hb refund payment hr hs hp).1 hok
  · obtain ⟨hpos,hpay⟩ := ht.refunds.get? hr
    obtain ⟨payment,hp⟩ := Option.isSome_iff_exists.mp hpay
    obtain ⟨hrefunds,hpayments⟩ := hx.booking hr hs hp
    have hexec := executedOf_markFailed hr hs hrefunds message
    have hpayments' : (markFailed mid refundId message).payments = _ := hpayments
    rw [h,statusExact_modify_iff he hp hpayments' fun id _ => hexec id,
      hexec,paymentStatusAfter_add_eq_statusOf hpos]
    constructor
    · intro hd refund' payment' hr' _ hp'
      obtain rfl : refund = refund' := Option.some.inj (hr.symm.trans hr')
      obtain rfl : payment = payment' := Option.some.inj (hp.symm.trans hp')
      exact ⟨fun hok => absurd hfail hok,fun _ => hd⟩
    · intro hb
      exact (hb refund payment hr hs hp).2 hfail
  · rw [h]
    refine iff_of_true he ?_
    intro refund payment hr hs hp
    obtain ⟨mid,hx⟩ := ht.linked.exists_executed now refundId hp
    exact absurd hx (herr refund hr hs mid)

/-- Rewriting a refund's status leaves the rows as `Traced` wants them. -/
theorem refunds_all_modify {k m m' : Ledger} {refundId : ℕ} {refund : Refund} {g : Refund → Refund}
    (hall : m.refunds.All fun r => 0 ≤ r.amount ∧ (k.payments.get? r.paymentId).isSome)
    (hr : m.refunds.get? refundId = some refund) (hp : (g refund).paymentId = refund.paymentId)
    (ha : (g refund).amount = refund.amount) (hm : m'.refunds = m.refunds.modify refundId g) :
    m'.refunds.All fun r => 0 ≤ r.amount ∧ (k.payments.get? r.paymentId).isSome := by
  rw [hm]
  apply hall.modify
  intro r hr'
  obtain rfl : refund = r := Option.some.inj (hr.symm.trans hr')
  rw [hp,ha]
  exact hall.get? hr

theorem execute_traced (now : ℤ) (refundId : ℕ) (stripeFailure : Option String) (ht : Traced l) :
    Traced (execute now l refundId stripeFailure).1 := by
  refine ⟨execute_linked now refundId stripeFailure ht.linked,?_⟩
  rcases execute_cases now l refundId stripeFailure with
    ⟨refund,mid,hr,hs,hx,⟨-,h⟩ | ⟨-,message,h⟩⟩ | ⟨h,-⟩
  · obtain ⟨payment,hp⟩ := Option.isSome_iff_exists.mp (ht.refunds.get? hr).2
    obtain ⟨hrefunds,hpayments⟩ := hx.booking hr hs hp
    have hall := refunds_all_modify ht.refunds hr rfl rfl hrefunds
    rw [h,hpayments]
    simpa only [Table.isSome_get?_modify] using hall
  · obtain ⟨payment,hp⟩ := Option.isSome_iff_exists.mp (ht.refunds.get? hr).2
    obtain ⟨hrefunds,hpayments⟩ := hx.booking hr hs hp
    have hall := refunds_all_modify ht.refunds hr rfl rfl hrefunds
    have hr' : mid.refunds.get? refundId = some { refund with status := .executed, executedAt := some now } := by
      rw [hrefunds]
      exact Table.get?_modify_self hr _
    have hall' := refunds_all_modify hall hr' rfl rfl (markFailed_refunds mid refundId message)
    rw [h]
    change (markFailed mid refundId message).refunds.All fun r => 0 ≤ r.amount ∧ (mid.payments.get? r.paymentId).isSome
    rw [hpayments]
    simpa only [Table.isSome_get?_modify] using hall'
  · rw [h]
    exact ht.refunds

/-! ## Whole runs -/

/-- The payment that `createManual` posts. -/
def manualPayment (householdId : ℕ) (paymentMethod : PaymentMethod) (amount : ℚ) (reason : Option String) :
    Payment where
  householdId := householdId
  paymentMethod := paymentMethod
  externalEventId := none
  amount := toColumn amount
  status := .posted
  reason := reason

theorem createManual_statusExact_iff {householdId : ℕ} {paymentMethod : PaymentMethod} {amount : ℚ}
    {reason : Option String} (ht : Traced l) (hs : StatusExact l) :
    StatusExact (transact l (createManual l householdId paymentMethod amount reason)).1 ↔
      (householdId ∈ l.households → 0 < toColumn amount) := by
  by_cases hin : householdId ∈ l.households
  · have hok : createManual l householdId paymentMethod amount reason = .ok { l with
        payments := l.payments.insert (manualPayment householdId paymentMethod amount reason) } := by
      simp [createManual,manualPayment,ensure,hin,Bind.bind,Except.bind,pure,Except.pure]
    rw [hok]
    refine Iff.trans (statusExact_insert_iff ht hs ?_ rfl rfl) ⟨fun h _ => h,fun h => h hin⟩
    rfl
  · have herr : createManual l householdId paymentMethod amount reason = .error .householdNotFound := by
      simp [createManual,ensure,hin,Bind.bind,Except.bind]
    rw [herr]
    exact iff_of_true hs fun h => absurd h hin

theorem step_traced (l : Ledger) (r : Request) (ht : Traced l) : Traced (step l r) := by
  have hw := step_linked l r ht.linked
  obtain ⟨now,command⟩ := r
  cases command with
  | execute refundId stripeFailure => exact execute_traced now refundId stripeFailure ht
  | createManual householdId paymentMethod amount reason =>
    unfold step serve at hw ⊢
    split at hw
    · rename_i hv
      rw [if_pos hv]
      revert hw
      apply transact_keeps (P := fun l' => Linked l' → Traced l') (fun _ => ht)
      intro l' h hw
      rw [createManual_ok h] at hw ⊢
      exact ht.insertPayment hw rfl rfl
    · rename_i hv
      rw [if_neg hv]
      exact ht
  | _ => exact (step_moved l _ (by simp) (by simp)).traced hw ht

/-- One request keeps every status exact precisely when it meets the guard. -/
theorem step_statusExact_iff (l : Ledger) (r : Request) (ht : Traced l) (hs : StatusExact l) :
    StatusExact (step l r) ↔ PaymentGuard l r := by
  obtain ⟨now,command⟩ := r
  cases command with
  | execute refundId stripeFailure => exact execute_statusExact_iff now refundId stripeFailure ht hs
  | createManual householdId paymentMethod amount reason =>
    unfold step serve PaymentGuard
    by_cases hv : (Command.createManual householdId paymentMethod amount reason).valid = true
    · rw [if_pos hv]
      exact (createManual_statusExact_iff ht hs).trans ⟨fun h _ => h,fun h => h hv⟩
    · rw [if_neg hv]
      exact iff_of_true hs fun h => absurd h hv
  | _ => exact iff_of_true ((step_moved l _ (by simp) (by simp)).statusExact ht hs) trivial

end

/-- A card payment of 100.00, and its refund in full whose Stripe call fails. -/
def failedRefund : List Request :=
  [⟨0,.checkoutCompleted 1 0 10000 "pi_1"⟩,⟨0,.createRefund 1 0 10000 "Left"⟩,⟨0,.approve 0 2⟩,
   ⟨0,.execute 0 (some "card_error")⟩]

end EduPod.Finance
