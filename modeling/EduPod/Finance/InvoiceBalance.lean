import EduPod.Finance.Effects

/-! # Exact invoice balances

The invariant compares a stored balance with the contributions that make it up. The
recomputation leaves the credit notes out, so it is kept exactly as long as no credited
invoice is recomputed and no invoice is written off twice.
-/
namespace EduPod.Finance
open Runs

def BalanceExact (l : Ledger) (id : ℕ) (invoice : Invoice) : Prop :=
  invoice.balanceAmount = invoice.totalAmount - l.allocatedTo id - l.creditedTo id -
    invoice.writeOffAmount.getD 0

/-- Every invoice that is not void or cancelled has an exact balance. -/
def BalancesExact (l : Ledger) : Prop :=
  ∀ id invoice, l.invoices.get? id = some invoice → invoice.status.closed = false → BalanceExact l id invoice

/-- No credit note is applied to the invoice, unless it is closed. -/
def Uncredited (l : Ledger) (id : ℕ) : Prop :=
  ∀ invoice, l.invoices.get? id = some invoice → invoice.status.closed = false → l.creditedTo id = 0

/-- Every allocation and every credit-note application belongs to a stored invoice. -/
structure Linked (l : Ledger) : Prop where
  allocations : l.allocations.All fun a => (l.invoices.get? a.invoiceId).isSome
  applications : l.creditNoteApplications.All fun a => (l.invoices.get? a.invoiceId).isSome

/-- Invoices, allocations and credit-note applications are the same. -/
structure SameBalances (l l' : Ledger) : Prop where
  invoices : l'.invoices = l.invoices
  allocations : l'.allocations = l.allocations
  applications : l'.creditNoteApplications = l.creditNoteApplications

section
variable {l l' : Ledger}

theorem Linked.same (hl : Linked l) (h : SameBalances l l') : Linked l' := by
  obtain ⟨ha,hc⟩ := hl
  exact ⟨by rw [h.allocations,h.invoices]; exact ha,by rw [h.applications,h.invoices]; exact hc⟩

theorem BalancesExact.same_iff (h : SameBalances l l') : BalancesExact l' ↔ BalancesExact l := by
  simp only [BalancesExact,BalanceExact,Ledger.allocatedTo,Ledger.creditedTo,h.invoices,h.allocations,
    h.applications]

theorem BalancesExact.same (he : BalancesExact l) (h : SameBalances l l') : BalancesExact l' :=
  (BalancesExact.same_iff h).mpr he

theorem Linked.allocatedTo_eq_zero (h : Linked l) {id : ℕ} (hid : l.invoices.get? id = none) :
    l.allocatedTo id = 0 := by
  refine Table.sumWhere_eq_zero (h.allocations.mono fun a ha => ?_) _
  refine decide_eq_false ?_
  rintro rfl
  simp [hid] at ha

theorem Linked.creditedTo_eq_zero (h : Linked l) {id : ℕ} (hid : l.invoices.get? id = none) :
    l.creditedTo id = 0 := by
  refine Table.sumWhere_eq_zero (h.applications.mono fun a ha => ?_) _
  refine decide_eq_false ?_
  rintro rfl
  simp [hid] at ha

theorem Linked.insert (h : Linked l) (invoice : Invoice) :
    Linked { l with invoices := l.invoices.insert invoice } :=
  ⟨h.allocations.mono fun _ ha => Table.isSome_get?_insert ha _,
    h.applications.mono fun _ ha => Table.isSome_get?_insert ha _⟩

theorem Linked.modify (h : Linked l) (id : ℕ) (g : Invoice → Invoice) :
    Linked { l with invoices := l.invoices.modify id g } := by
  obtain ⟨ha,hc⟩ := h
  exact ⟨by simpa [Table.All] using ha,by simpa [Table.All] using hc⟩

theorem Rebalanced.linked {T : List ℕ} (h : Rebalanced l l' T) (hl : Linked l)
    (ha : l'.allocations.All fun a => (l.invoices.get? a.invoiceId).isSome) : Linked l' := by
  refine ⟨?_,?_⟩
  · simpa only [h.isSome_get?] using ha
  · simpa only [h.isSome_get?,h.credits] using hl.applications

/-! ## Exactness across one change -/

/-- A new invoice starts exact: nothing can be allocated or credited to it yet. -/
theorem balancesExact_insert (hw : Linked l) (h : BalancesExact l) {invoice : Invoice}
    (hb : invoice.balanceAmount = invoice.totalAmount) (ho : invoice.writeOffAmount = none) :
    BalancesExact { l with invoices := l.invoices.insert invoice } := by
  intro id invoice' hi hc
  rw [Table.get?_insert] at hi
  by_cases hid : id = l.invoices.next
  · rw [if_pos hid] at hi
    obtain rfl : invoice = invoice' := Option.some.inj hi
    have hnone := hid ▸ l.invoices.get?_next
    have ha : Ledger.allocatedTo { l with invoices := l.invoices.insert invoice } id = 0 :=
      hw.allocatedTo_eq_zero hnone
    have hcr : Ledger.creditedTo { l with invoices := l.invoices.insert invoice } id = 0 :=
      hw.creditedTo_eq_zero hnone
    simp [BalanceExact,ha,hcr,hb,ho]
  · rw [if_neg hid] at hi
    exact h id invoice' hi hc

/-- Where one invoice is rewritten and the others keep their contributions, that invoice decides. -/
theorem balancesExact_modify_iff {id : ℕ} {invoice : Invoice} {g : Invoice → Invoice}
    (h : BalancesExact l) (hi : l.invoices.get? id = some invoice)
    (hinv : l'.invoices = l.invoices.modify id g)
    (ha : ∀ j ≠ id, l'.allocatedTo j = l.allocatedTo j) (hc : ∀ j ≠ id, l'.creditedTo j = l.creditedTo j) :
    BalancesExact l' ↔ ((g invoice).status.closed = false → BalanceExact l' id (g invoice)) := by
  constructor
  · intro h'
    exact h' id (g invoice) (by simp [hinv,Table.get?_modify,hi])
  · intro hg j invoice' hj hcl
    rw [hinv,Table.get?_modify] at hj
    by_cases hid : j = id
    · subst hid
      obtain rfl : g invoice = invoice' := by simpa [hi] using hj
      exact hg hcl
    · rw [if_neg hid] at hj
      have := h j invoice' hj hcl
      rwa [BalanceExact,ha j hid,hc j hid]

theorem Restatused.balancesExact {id : ℕ} (hr : Restatused l l' id) (h : BalancesExact l) :
    BalancesExact l' := by
  obtain ⟨invoice,g,hi,hl',ht,hb,ho,hcl⟩ := hr
  refine (balancesExact_modify_iff h hi (congrArg Ledger.invoices hl') ?_ ?_).mpr ?_
  · exact fun j _ => Ledger.allocatedTo_congr (by rw [hl'])
  · exact fun j _ => Ledger.creditedTo_congr (by rw [hl'])
  intro hc
  have hopen : invoice.status.closed = false := by
    by_contra hne
    simp [hcl (by simpa using hne)] at hc
  have he := h id invoice hi hopen
  rwa [BalanceExact,ht,hb,ho,Ledger.allocatedTo_congr (by rw [hl']),
    Ledger.creditedTo_congr (by rw [hl'])]

theorem Restatused.linked {id : ℕ} (hr : Restatused l l' id) (h : Linked l) : Linked l' := by
  obtain ⟨_,g,_,rfl,-⟩ := hr
  exact h.modify id g

/-- A recomputed balance forgets the credit notes and nothing else. -/
theorem Rebalanced.balancesExact_iff {T : List ℕ} (hr : Rebalanced l l' T) (h : BalancesExact l) :
    BalancesExact l' ↔ ∀ id ∈ T, Uncredited l id := by
  have hcred : ∀ id, l'.creditedTo id = l.creditedTo id := fun id => by
    simp only [Ledger.creditedTo,hr.credits]
  constructor
  · intro h' id hid invoice hi hc
    obtain ⟨invoice₀,invoice',hi₀,hi',ht,ho,hcl,hb⟩ := hr.recomputed id hid
    obtain rfl : invoice = invoice₀ := Option.some.inj (hi.symm.trans hi₀)
    have he := h' id invoice' hi' (hcl.trans hc)
    rw [BalanceExact,hb,ht,ho,hcred] at he
    omega
  · intro hu id invoice' hi' hc
    by_cases hid : id ∈ T
    · obtain ⟨invoice,invoice₀,hi,hi₀,ht,ho,hcl,hb⟩ := hr.recomputed id hid
      obtain rfl : invoice' = invoice₀ := Option.some.inj (hi'.symm.trans hi₀)
      have hz := hu id hid invoice hi (hcl.symm.trans hc)
      rw [BalanceExact,hb,ht,ho,hcred,hz]
      omega
    · obtain ⟨hk,ha⟩ := hr.kept id hid
      have := h id invoice' (hk ▸ hi') hc
      rwa [BalanceExact,ha,hcred]

theorem applyToInvoice_linked {now : ℤ} {creditNoteId invoiceId : ℕ} {requested : ℚ} (hw : Linked l)
    (h : applyToInvoice now l creditNoteId invoiceId requested = .ok l') : Linked l' := by
  obtain ⟨invoice,status,applied,notes,hi,-,rfl⟩ := applyToInvoice_ok h
  obtain ⟨ha,hc⟩ := hw.modify invoiceId fun i =>
    { i with balanceAmount := invoice.balanceAmount - applied, status := status }
  exact ⟨ha,hc.insert (by simp [hi])⟩

theorem applyToInvoice_balancesExact {now : ℤ} {creditNoteId invoiceId : ℕ} {requested : ℚ}
    (he : BalancesExact l) (h : applyToInvoice now l creditNoteId invoiceId requested = .ok l') :
    BalancesExact l' := by
  obtain ⟨invoice,status,applied,notes,hi,hc,hl'⟩ := applyToInvoice_ok h
  have hinv := congrArg Ledger.invoices hl'
  dsimp only at hinv
  refine (balancesExact_modify_iff he hi hinv ?_ ?_).mpr ?_
  · exact fun j _ => Ledger.allocatedTo_congr (by rw [hl'])
  · intro j hj
    simp [hl',Ledger.creditedTo,Table.sumWhere_insert,hj.symm]
  · intro _
    have hb := he invoiceId invoice hi hc
    simp only [BalanceExact,hl',Ledger.creditedTo,Ledger.allocatedTo,Table.sumWhere_insert] at hb ⊢
    rw [hb,if_pos (by simp)]
    ring

theorem applyLateFee_linked {now : ℤ} {invoiceId : ℕ} {configId : Option ℕ} (hw : Linked l)
    (h : applyLateFee now l invoiceId configId = .ok l') : Linked l' := by
  obtain ⟨invoice,fee,applications,lines,-,-,rfl⟩ := applyLateFee_ok h
  obtain ⟨ha,hc⟩ := hw.modify invoiceId fun i =>
    { i with totalAmount := invoice.totalAmount + fee, balanceAmount := invoice.balanceAmount + fee,
             lines := i.lines ++ lines }
  exact ⟨ha,hc⟩

theorem applyLateFee_balancesExact {now : ℤ} {invoiceId : ℕ} {configId : Option ℕ} (he : BalancesExact l)
    (h : applyLateFee now l invoiceId configId = .ok l') : BalancesExact l' := by
  obtain ⟨invoice,fee,applications,lines,hi,hc,hl'⟩ := applyLateFee_ok h
  have hinv := congrArg Ledger.invoices hl'
  dsimp only at hinv
  refine (balancesExact_modify_iff he hi hinv ?_ ?_).mpr ?_
  · exact fun j _ => Ledger.allocatedTo_congr (by rw [hl'])
  · exact fun j _ => Ledger.creditedTo_congr (by rw [hl'])
  · intro _
    have hb := he invoiceId invoice hi hc
    rw [BalanceExact] at hb ⊢
    rw [Ledger.allocatedTo_congr (l := l) (by rw [hl']),Ledger.creditedTo_congr (l := l) (by rw [hl']),hb]
    ring

/-- A write-off keeps the balance exact only where there is no earlier one to overwrite. -/
theorem writeOff_balancesExact_iff {id : ℕ} {reason : String} {invoice : Invoice} (he : BalancesExact l)
    (hi : l.invoices.get? id = some invoice)
    (ht : isValidInvoiceTransition invoice.status .writtenOff = true)
    (h : writeOff l id reason = .ok l') : BalancesExact l' ↔ invoice.writeOffAmount.getD 0 = 0 := by
  obtain ⟨invoice',hi',-,hl'⟩ := writeOff_ok_iff.mp h
  obtain rfl : invoice = invoice' := Option.some.inj (hi.symm.trans hi')
  have hc : invoice.status.closed = false := by
    generalize invoice.status = s at ht
    cases s <;> first | rfl | simp [isValidInvoiceTransition,validInvoiceTransitions] at ht
  have hb := he id invoice hi hc
  have hinv := congrArg Ledger.invoices hl'
  dsimp only at hinv
  rw [balancesExact_modify_iff he hi hinv
    (fun j _ => Ledger.allocatedTo_congr (by rw [hl'])) (fun j _ => Ledger.creditedTo_congr (by rw [hl']))]
  rw [BalanceExact] at hb ⊢
  rw [Ledger.allocatedTo_congr (l := l) (by rw [hl']),Ledger.creditedTo_congr (l := l) (by rw [hl'])]
  simp only [Option.getD_some]
  constructor
  · intro h
    have := h rfl
    omega
  · intro h _
    omega

/-! ## Confirmed allocations, the webhook and refunds -/

theorem confirmAllocations_linked {now : ℤ} {paymentId : ℕ} {allocs : List AllocationItem} (hw : Linked l)
    (h : confirmAllocations now l paymentId allocs = .ok l') : Linked l' := by
  refine (confirmAllocations_rebalanced h).linked hw ?_
  obtain ⟨hc,h⟩ := confirmAllocations_ok_iff.mp h
  rw [(recalculateAll_allocations h).1]
  exact createAllocations_all hw.allocations hc.isSome_get?

theorem confirmAllocations_iff {now : ℤ} {paymentId : ℕ} {allocs : List AllocationItem}
    (he : BalancesExact l) : BalancesExact (transact l (confirmAllocations now l paymentId allocs)).1 ↔
      (Confirmable l paymentId allocs → ∀ a ∈ allocs, Uncredited l a.invoiceId) := by
  refine transact_iff he ?_ ?_
  · intro l' h
    rw [(confirmAllocations_rebalanced h).balancesExact_iff he,List.forall_mem_map]
    exact ⟨fun hu _ => hu,fun hu => hu (confirmAllocations_ok_iff.mp h).1⟩
  · intro herr hc
    obtain ⟨l',h⟩ := hc.exists_ok now
    exact absurd h (herr l')

theorem handleCheckoutCompleted_linked {now : ℤ} {householdId invoiceId : ℕ} {amountCents : ℤ}
    {paymentIntentId : String} (hw : Linked l)
    (h : handleCheckoutCompleted now l householdId invoiceId amountCents paymentIntentId = .ok l') :
    Linked l' := by
  rcases handleCheckoutCompleted_ok h with ⟨-,rfl | ⟨-,rfl⟩⟩ | ⟨-,invoice,hi,-,h⟩
  · exact hw
  · exact hw.same ⟨rfl,rfl,rfl⟩
  · refine (recalculateBalance_rebalanced h).linked ⟨?_,hw.applications⟩ ?_
    · exact hw.allocations.insert (by simp [hi])
    · rw [(recalculateBalance_allocations h).1]
      exact hw.allocations.insert (by simp [hi])

theorem handleCheckoutCompleted_rebalanced {now : ℤ} {householdId invoiceId : ℕ} {amountCents : ℤ}
    {paymentIntentId : String} (hc : CheckoutAllocates l invoiceId amountCents paymentIntentId)
    (h : handleCheckoutCompleted now l householdId invoiceId amountCents paymentIntentId = .ok l') :
    Rebalanced l l' [invoiceId] := by
  rcases handleCheckoutCompleted_ok h with ⟨hn,-⟩ | ⟨-,invoice,-,-,h⟩
  · exact absurd hc hn
  · refine (recalculateBalance_rebalanced h).of_sameOutside ⟨rfl,rfl,?_⟩
    intro id hid
    have hne : invoiceId ≠ id := fun he => hid (he ▸ List.mem_singleton_self _)
    simp [Ledger.allocatedTo,Table.sumWhere_insert,hne]

theorem handleCheckoutCompleted_iff {now : ℤ} {householdId invoiceId : ℕ} {amountCents : ℤ}
    {paymentIntentId : String} (he : BalancesExact l) : BalancesExact (transact l
      (handleCheckoutCompleted now l householdId invoiceId amountCents paymentIntentId)).1 ↔
      (CheckoutAllocates l invoiceId amountCents paymentIntentId → Uncredited l invoiceId) := by
  refine transact_iff he ?_ ?_
  · intro l' h
    by_cases hc : CheckoutAllocates l invoiceId amountCents paymentIntentId
    · rw [(handleCheckoutCompleted_rebalanced hc h).balancesExact_iff he]
      simp [hc]
    · refine iff_of_true ?_ fun h => absurd h hc
      rcases handleCheckoutCompleted_ok h with ⟨-,rfl | ⟨-,rfl⟩⟩ | ⟨h,-⟩
      · exact he
      · exact he.same ⟨rfl,rfl,rfl⟩
      · exact absurd h hc
  · intro herr hc
    obtain ⟨l',h⟩ := handleCheckoutCompleted_exists_ok now l householdId invoiceId amountCents paymentIntentId
    exact absurd h (herr l')

/-- A committed refund recomputes the invoices of the allocations it reaches. -/
theorem Executed.rebalanced {now : ℤ} {refundId : ℕ} {refund : Refund} {payment : Payment}
    (hp : l.payments.get? refund.paymentId = some payment) (h : Executed now l refundId refund l') :
    Rebalanced l l' ((reached (toReverse l payment refund) (lifoAllocations l refund.paymentId)).map
      (·.2.invoiceId)) := by
  rcases h with ⟨hn,-⟩ | ⟨payment',hp',mid,hm,rfl⟩
  · rw [hp] at hn
    cases hn
  · obtain rfl : payment = payment' := Option.some.inj (hp.symm.trans hp')
    have hr := reverseLoop_rebalanced (stored_lifoAllocations (markExecuted now l refundId) refund.paymentId) hm
    exact ⟨hr.credits,hr.next,hr.kept,hr.recomputed⟩

theorem Executed.linked {now : ℤ} {refundId : ℕ} {refund : Refund} (hw : Linked l)
    (h : Executed now l refundId refund l') : Linked l' := by
  rcases h with ⟨-,rfl⟩ | ⟨payment,hp,mid,hm,rfl⟩
  · exact hw.same ⟨rfl,rfl,rfl⟩
  · have hr := reverseLoop_rebalanced (stored_lifoAllocations (markExecuted now l refundId) refund.paymentId) hm
    have hall := reverseLoop_all (P := fun a => (l.invoices.get? a.invoiceId).isSome)
      (fun _ _ _ h => h) hm hw.allocations
    have hmid : Linked mid := hr.linked (hw.same ⟨rfl,rfl,rfl⟩) hall
    exact hmid.same ⟨rfl,rfl,rfl⟩

/-- The transaction of a refund cannot fail: the invoices it recomputes are all stored. -/
theorem Linked.exists_executed (hw : Linked l) (now : ℤ) (refundId : ℕ) {refund : Refund} {payment : Payment}
    (hp : l.payments.get? refund.paymentId = some payment) : ∃ mid, Executed now l refundId refund mid := by
  have hrows : ∀ r ∈ lifoAllocations l refund.paymentId,
      ((markExecuted now l refundId).invoices.get? r.2.invoiceId).isSome := fun r hr =>
    hw.allocations r (List.mem_filter.mp (List.mem_reverse.mp hr)).1
  obtain ⟨mid,hm⟩ := reverseLoop_exists now (toReverse l payment refund) hrows
  exact ⟨_,Or.inr ⟨payment,hp,mid,hm,rfl⟩⟩

theorem execute_linked (now : ℤ) (refundId : ℕ) (stripeFailure : Option String) (hw : Linked l) :
    Linked (execute now l refundId stripeFailure).1 := by
  rcases execute_cases now l refundId stripeFailure with
    ⟨refund,mid,-,-,hx,⟨-,h⟩ | ⟨-,message,h⟩⟩ | ⟨h,-⟩
  · rw [h]
    exact hx.linked hw
  · rw [h]
    exact (hx.linked hw).same ⟨rfl,rfl,rfl⟩
  · rw [h]
    exact hw

/-- No allocation the refund reaches is on a credited invoice. -/
def ReversesUncredited (l : Ledger) (refundId : ℕ) : Prop :=
  ∀ refund payment, l.refunds.get? refundId = some refund → refund.status = .approved →
    l.payments.get? refund.paymentId = some payment →
    ∀ a ∈ reached (toReverse l payment refund) (lifoAllocations l refund.paymentId),
      Uncredited l a.2.invoiceId

theorem Executed.balancesExact_iff {now : ℤ} {refundId : ℕ} {refund : Refund} (he : BalancesExact l)
    (hr : l.refunds.get? refundId = some refund) (hs : refund.status = .approved)
    (h : Executed now l refundId refund l') : BalancesExact l' ↔ ReversesUncredited l refundId := by
  cases hp : l.payments.get? refund.paymentId with
  | none =>
    rcases h with ⟨-,rfl⟩ | ⟨payment,hp',-⟩
    · refine iff_of_true (he.same ⟨rfl,rfl,rfl⟩) ?_
      intro refund' payment hr' _ hp'
      obtain rfl : refund = refund' := Option.some.inj (hr.symm.trans hr')
      rw [hp] at hp'
      cases hp'
    · rw [hp] at hp'
      cases hp'
  | some payment =>
    rw [(h.rebalanced hp).balancesExact_iff he,List.forall_mem_map]
    constructor
    · intro hu refund' payment' hr' _ hp'
      obtain rfl : refund = refund' := Option.some.inj (hr.symm.trans hr')
      obtain rfl : payment = payment' := Option.some.inj (hp.symm.trans hp')
      exact hu
    · intro hu
      exact hu refund payment hr hs hp

theorem execute_iff (now : ℤ) (refundId : ℕ) (stripeFailure : Option String) (hw : Linked l)
    (he : BalancesExact l) :
    BalancesExact (execute now l refundId stripeFailure).1 ↔ ReversesUncredited l refundId := by
  rcases execute_cases now l refundId stripeFailure with
    ⟨refund,mid,hr,hs,hx,⟨-,h⟩ | ⟨-,message,h⟩⟩ | ⟨h,herr⟩
  · rw [h]
    exact hx.balancesExact_iff he hr hs
  · rw [h,← hx.balancesExact_iff he hr hs]
    exact BalancesExact.same_iff ⟨rfl,rfl,rfl⟩
  · rw [h]
    refine iff_of_true he ?_
    intro refund payment hr hs hp
    obtain ⟨mid,hx⟩ := hw.exists_executed now refundId hp
    exact absurd hx (herr refund hr hs mid)

/-! ## One request and whole runs -/

theorem step_linked (l : Ledger) (r : Request) (hw : Linked l) : Linked (step l r) := by
  obtain ⟨now,command⟩ := r
  unfold step serve
  split
  swap
  · exact hw
  cases command with
  | createInvoice householdId dueDate lines =>
    refine transact_keeps hw fun l' h => ?_
    obtain ⟨invoice,-,-,rfl⟩ := createInvoice_ok h
    exact hw.insert invoice
  | issue id approval => exact transact_keeps hw fun l' h => (issue_ok h).linked hw
  | approvalCallback id => exact transact_keeps hw fun l' h => (approvalCallback_ok h).linked hw
  | markOverdue cutoffDate id => exact transact_keeps hw fun l' h => (markOverdue_ok h).linked hw
  | voidInvoice id => exact transact_keeps hw fun l' h => (voidInvoice_ok h).linked hw
  | cancel id => exact transact_keeps hw fun l' h => (cancel_ok h).linked hw
  | writeOff id reason =>
    refine transact_keeps hw fun l' h => ?_
    obtain ⟨invoice,-,-,rfl⟩ := writeOff_ok_iff.mp h
    exact hw.modify id _
  | createManual householdId paymentMethod amount reason =>
    refine transact_keeps hw fun l' h => ?_
    rw [createManual_ok h]
    exact hw.same ⟨rfl,rfl,rfl⟩
  | checkoutCompleted householdId invoiceId amountCents paymentIntentId =>
    exact transact_keeps hw fun l' h => handleCheckoutCompleted_linked hw h
  | confirmAllocations paymentId allocs =>
    exact transact_keeps hw fun l' h => confirmAllocations_linked hw h
  | createCreditNote householdId amount reason =>
    refine transact_keeps hw fun l' h => ?_
    obtain ⟨note,rfl⟩ := createCreditNote_ok h
    exact hw.same ⟨rfl,rfl,rfl⟩
  | applyToInvoice creditNoteId invoiceId appliedAmount =>
    exact transact_keeps hw fun l' h => applyToInvoice_linked hw h
  | createLateFeeConfig config => exact hw.same ⟨rfl,rfl,rfl⟩
  | applyLateFee invoiceId configId => exact transact_keeps hw fun l' h => applyLateFee_linked hw h
  | createRefund userId paymentId amount reason =>
    refine transact_keeps hw fun l' h => ?_
    obtain ⟨payment,-,-,-,rfl⟩ := createRefund_ok h
    exact hw.same ⟨rfl,rfl,rfl⟩
  | approve refundId approverUserId =>
    refine transact_keeps hw fun l' h => ?_
    obtain ⟨refund,-,-,rfl⟩ := approve_ok h
    exact hw.same ⟨rfl,rfl,rfl⟩
  | reject refundId approverUserId comment =>
    refine transact_keeps hw fun l' h => ?_
    obtain ⟨refund,-,-,rfl⟩ := reject_ok h
    exact hw.same ⟨rfl,rfl,rfl⟩
  | execute refundId stripeFailure => exact execute_linked now refundId stripeFailure hw

/-- The branches that lose a contribution are not taken: no recomputation of a credited
invoice, no second write-off. -/
def BalanceGuard (l : Ledger) (r : Request) : Prop :=
  match r.command with
  | .writeOff id _ => ∀ invoice, l.invoices.get? id = some invoice →
      isValidInvoiceTransition invoice.status .writtenOff = true → invoice.writeOffAmount.getD 0 = 0
  | .checkoutCompleted _ invoiceId amountCents paymentIntentId =>
    CheckoutAllocates l invoiceId amountCents paymentIntentId → Uncredited l invoiceId
  | .confirmAllocations paymentId allocs => r.command.valid → Confirmable l paymentId allocs →
      ∀ a ∈ allocs, Uncredited l a.invoiceId
  | .execute refundId _ => ReversesUncredited l refundId
  | _ => True

/-- One request keeps the balances exact precisely when it meets the guard. -/
theorem step_balancesExact_iff (l : Ledger) (r : Request) (hw : Linked l) (he : BalancesExact l) :
    BalancesExact (step l r) ↔ BalanceGuard l r := by
  obtain ⟨now,command⟩ := r
  unfold step serve BalanceGuard
  by_cases hv : command.valid = true
  swap
  · -- only allocation requests have both a schema and a guard
    rw [if_neg hv]
    refine iff_of_true he ?_
    cases command <;> first | trivial | exact fun h => absurd h hv
  rw [if_pos hv]
  cases command with
  | createInvoice householdId dueDate lines =>
    refine iff_of_true (transact_keeps he fun l' h => ?_) trivial
    obtain ⟨invoice,hb,ho,rfl⟩ := createInvoice_ok h
    exact balancesExact_insert hw he hb ho
  | issue id approval => exact iff_of_true (transact_keeps he fun l' h => (issue_ok h).balancesExact he) trivial
  | approvalCallback id =>
    exact iff_of_true (transact_keeps he fun l' h => (approvalCallback_ok h).balancesExact he) trivial
  | markOverdue cutoffDate id =>
    exact iff_of_true (transact_keeps he fun l' h => (markOverdue_ok h).balancesExact he) trivial
  | voidInvoice id => exact iff_of_true (transact_keeps he fun l' h => (voidInvoice_ok h).balancesExact he) trivial
  | cancel id => exact iff_of_true (transact_keeps he fun l' h => (cancel_ok h).balancesExact he) trivial
  | writeOff id reason =>
    refine transact_iff he ?_ ?_
    · intro l' h
      obtain ⟨invoice,hi,ht,-⟩ := writeOff_ok_iff.mp h
      rw [writeOff_balancesExact_iff he hi ht h]
      constructor
      · intro hz invoice' hi' _
        obtain rfl : invoice = invoice' := Option.some.inj (hi.symm.trans hi')
        exact hz
      · intro hz
        exact hz invoice hi ht
    · intro herr invoice hi ht
      exact absurd (writeOff_ok_iff.mpr ⟨invoice,hi,ht,rfl⟩) (herr _)
  | createManual householdId paymentMethod amount reason =>
    refine iff_of_true (transact_keeps he fun l' h => ?_) trivial
    rw [createManual_ok h]
    exact he.same ⟨rfl,rfl,rfl⟩
  | checkoutCompleted householdId invoiceId amountCents paymentIntentId => exact handleCheckoutCompleted_iff he
  | confirmAllocations paymentId allocs =>
    refine (confirmAllocations_iff he).trans ?_
    exact ⟨fun h _ => h,fun h => h hv⟩
  | createCreditNote householdId amount reason =>
    refine iff_of_true (transact_keeps he fun l' h => ?_) trivial
    obtain ⟨note,rfl⟩ := createCreditNote_ok h
    exact he.same ⟨rfl,rfl,rfl⟩
  | applyToInvoice creditNoteId invoiceId appliedAmount =>
    exact iff_of_true (transact_keeps he fun l' h => applyToInvoice_balancesExact he h) trivial
  | createLateFeeConfig config => exact iff_of_true (he.same ⟨rfl,rfl,rfl⟩) trivial
  | applyLateFee invoiceId configId =>
    exact iff_of_true (transact_keeps he fun l' h => applyLateFee_balancesExact he h) trivial
  | createRefund userId paymentId amount reason =>
    refine iff_of_true (transact_keeps he fun l' h => ?_) trivial
    obtain ⟨payment,-,-,-,rfl⟩ := createRefund_ok h
    exact he.same ⟨rfl,rfl,rfl⟩
  | approve refundId approverUserId =>
    refine iff_of_true (transact_keeps he fun l' h => ?_) trivial
    obtain ⟨refund,-,-,rfl⟩ := approve_ok h
    exact he.same ⟨rfl,rfl,rfl⟩
  | reject refundId approverUserId comment =>
    refine iff_of_true (transact_keeps he fun l' h => ?_) trivial
    obtain ⟨refund,-,-,rfl⟩ := reject_ok h
    exact he.same ⟨rfl,rfl,rfl⟩
  | execute refundId stripeFailure => exact execute_iff now refundId stripeFailure hw he

end

/-- Balances are exact along a whole run precisely when no request of the run recomputes a
credited invoice or writes one off a second time. -/
theorem trace_balancesExact_iff (households : List ℕ) (requests : List Request) :
    (∀ l ∈ trace step (Ledger.initial households) requests, BalancesExact l) ↔
      Guarded step BalanceGuard (Ledger.initial households) requests := by
  refine trace_invariant_iff step_linked step_balancesExact_iff ?_ ?_
  · exact ⟨Table.all_empty _,Table.all_empty _⟩
  · intro id invoice hi
    cases hi

/-- A credit note of 30.00 on an invoice of 100.00, then a payment of 10.00. -/
def creditThenPay : List Request :=
  [⟨0,.createInvoice 1 0 [⟨"Tuition",1,10000⟩]⟩,⟨0,.issue 0 .notRequired⟩,
   ⟨0,.createCreditNote 1 3000 "Goodwill"⟩,⟨0,.applyToInvoice 0 0 3000⟩,
   ⟨0,.createManual 1 .cash 1000 none⟩,⟨0,.confirmAllocations 0 [⟨0,1000⟩]⟩]

/-- After it the balance is 90.00 instead of 60.00. -/
theorem not_trace_balancesExact : ¬ ∀ (households : List ℕ) (requests : List Request),
    ∀ l ∈ trace step (Ledger.initial households) requests, BalancesExact l := by
  intro h
  have he := h [1] creditThenPay _ (foldl_mem_trace _ _) 0
  have hi : ∃ invoice, (creditThenPay.foldl step (Ledger.initial [1])).invoices.get? 0 = some invoice ∧
      invoice.status.closed = false ∧ invoice.balanceAmount = 9000 ∧ invoice.totalAmount = 10000 ∧
      invoice.writeOffAmount = none := by
    refine ⟨((creditThenPay.foldl step (Ledger.initial [1])).invoices.get? 0).get (by decide +kernel),?_⟩
    decide +kernel
  obtain ⟨invoice,hi,hc,hb,ht,ho⟩ := hi
  have := he invoice hi hc
  have ha : (creditThenPay.foldl step (Ledger.initial [1])).allocatedTo 0 = 1000 := by decide +kernel
  have hcr : (creditThenPay.foldl step (Ledger.initial [1])).creditedTo 0 = 3000 := by decide +kernel
  rw [BalanceExact,hb,ht,ho,ha,hcr] at this
  simp at this

end EduPod.Finance
