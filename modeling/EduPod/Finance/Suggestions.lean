import EduPod.Finance.StatusChanges
import EduPod.Foundation.Pouring
import EduPod.Foundation.TableBulk

/-! # Balances that a recomputation does not lower

A stored balance may lie below what a recomputation gives, as far as credit notes went into it, but above it
only on an invoice that has been written off.
-/
namespace EduPod.Finance
open Fallible Runs Pouring

section
def Covers (l : Ledger) (id : ℕ) (invoice : Invoice) : Prop := invoice.status ≠ .writtenOff →
  invoice.balanceAmount ≤ invoice.totalAmount - l.allocatedTo id - invoice.writeOffAmount.getD 0

def Covered (l : Ledger) : Prop := ∀ id invoice, l.invoices.get? id = some invoice → Covers l id invoice

section
variable {now : ℤ} {l l' : Ledger}

theorem Covered.same (h : Covered l) (hs : SameBalances l l') : Covered l' := by
  intro id invoice hi
  rw [hs.invoices] at hi
  have hcovers := h id invoice hi
  rwa [Covers,← Ledger.allocatedTo_congr hs.allocations] at hcovers

theorem covered_insert (h : Covered l) (hw : Linked l) {invoice : Invoice}
    (hbalance : invoice.balanceAmount = invoice.totalAmount) (hwriteOff : invoice.writeOffAmount = none) :
    Covered { l with invoices := l.invoices.insert invoice } := by
  intro id invoice' hi
  rw [Table.get?_insert] at hi
  split at hi
  · rename_i hid
    cases hi
    intro _
    have hnone : l.allocatedTo id = 0 := hw.allocatedTo_eq_zero (by rw [hid,Table.get?_next])
    change invoice.balanceAmount ≤ invoice.totalAmount - l.allocatedTo id - invoice.writeOffAmount.getD 0
    rw [hnone,hwriteOff,hbalance]
    simp
  · exact h id invoice' hi

/-- One invoice is rewritten and the allocations are not. -/
theorem covered_modify (h : Covered l) {id : ℕ} {invoice : Invoice} {g : Invoice → Invoice}
    (hi : l.invoices.get? id = some invoice) (hinvoices : l'.invoices = l.invoices.modify id g)
    (hallocations : l'.allocations = l.allocations) (hg : Covers l id invoice → Covers l id (g invoice)) : Covered l' := by
  intro j invoice' hj
  rw [hinvoices] at hj
  rw [Covers,Ledger.allocatedTo_congr hallocations]
  by_cases hid : j = id
  · subst hid
    rw [Table.get?_modify_self hi] at hj
    cases hj
    exact hg (h j invoice hi)
  · rw [Table.get?_modify_ne _ hid] at hj
    exact h j invoice' hj

/-- A new status by the map: what is written off stays so. -/
theorem covered_restatused {id : ℕ} (h : Covered l) (hr : Restatused l l' id) (hs : StatusChangesPermitted l l') :
    Covered l' := by
  obtain ⟨invoice,g,hi,rfl,htotal,hbalance,hwriteOff,-⟩ := hr
  refine covered_modify h hi rfl rfl fun hcovers hopen => ?_
  rw [htotal,hbalance,hwriteOff]
  apply hcovers
  intro hwritten
  obtain hsame | hvalid := hs id invoice _ hi (Table.get?_modify_self hi g)
  · exact hopen (hsame.trans hwritten)
  · rw [hwritten] at hvalid
    simp [isValidInvoiceTransition,validInvoiceTransitions] at hvalid

/-- A recomputed balance is exactly what covers it. -/
theorem Rebalanced.covered {T : List ℕ} (hr : Rebalanced l l' T) (h : Covered l) : Covered l' := by
  intro id invoice' hi'
  by_cases hid : id ∈ T
  · obtain ⟨invoice,invoice₀,-,hi₀,htotal,hwriteOff,-,hbalance⟩ := hr.recomputed id hid
    obtain rfl : invoice' = invoice₀ := Option.some.inj (hi'.symm.trans hi₀)
    intro _
    rw [hbalance,htotal,hwriteOff]
  · obtain ⟨hkept,hallocated⟩ := hr.kept id hid
    rw [Covers,hallocated]
    exact h id invoice' (hkept ▸ hi')

theorem applyToInvoice_covered {creditNoteId invoiceId : ℕ} {requested : ℚ} (h : Covered l)
    (hok : applyToInvoice now l creditNoteId invoiceId requested = .ok l') : Covered l' := by
  simp only [applyToInvoice,require_bind_eq_ok,ensure_bind_eq_ok,pure_eq_ok,roundMoney_intCast] at hok
  obtain ⟨cn,-,-,invoice,hi,hs,happlied,hl'⟩ := hok
  have hinvoices := congrArg Ledger.invoices hl'.symm
  dsimp only at hinvoices
  refine covered_modify h hi hinvoices (by rw [← hl']) fun hcovers _ => ?_
  have hopen : invoice.status ≠ .writtenOff := by
    rintro hwritten
    rw [hwritten] at hs
    simp [isPayableStatus,payableInvoiceStatuses] at hs
  have hbalance := hcovers hopen
  dsimp only
  omega

theorem applyLateFee_covered {invoiceId : ℕ} {configId : Option ℕ} (h : Covered l)
    (hok : applyLateFee now l invoiceId configId = .ok l') : Covered l' := by
  obtain ⟨invoice,fee,applications,lines,hi,-,hl'⟩ := applyLateFee_ok hok
  have hinvoices := congrArg Ledger.invoices hl'
  dsimp only at hinvoices
  refine covered_modify h hi hinvoices (by rw [hl']) fun hcovers hopen => ?_
  have hbalance := hcovers hopen
  dsimp only
  omega

theorem writeOff_covered {id : ℕ} {reason : String} (h : Covered l) (hok : writeOff l id reason = .ok l') : Covered l' := by
  obtain ⟨invoice,hi,-,hl'⟩ := writeOff_ok_iff.mp hok
  have hinvoices := congrArg Ledger.invoices hl'
  dsimp only at hinvoices
  exact covered_modify h hi hinvoices (by rw [hl']) fun _ hopen => absurd rfl hopen

theorem handleCheckoutCompleted_balancesCovered {householdId invoiceId : ℕ} {amountCents : ℤ} {paymentIntentId : String}
    (h : Covered l) (hok : handleCheckoutCompleted now l householdId invoiceId amountCents paymentIntentId = .ok l') :
    Covered l' := by
  by_cases hc : CheckoutAllocates l invoiceId amountCents paymentIntentId
  · exact (handleCheckoutCompleted_rebalanced hc hok).covered h
  · obtain ⟨-,rfl | ⟨-,rfl⟩⟩ | ⟨hc',-⟩ := handleCheckoutCompleted_ok hok
    · exact h
    · exact h.same ⟨rfl,rfl,rfl⟩
    · exact absurd hc' hc

theorem execute_covered (now : ℤ) (refundId : ℕ) (stripeFailure : Option String) (h : Covered l) :
    Covered (execute now l refundId stripeFailure).1 := by
  have hexecuted : ∀ {refund : Refund} {mid : Ledger}, Executed now l refundId refund mid → Covered mid := by
    intro refund mid hx
    cases hp : l.payments.get? refund.paymentId with
    | none =>
      obtain ⟨-,rfl⟩ | ⟨payment,hp',-⟩ := hx
      · exact h.same ⟨rfl,rfl,rfl⟩
      · rw [hp] at hp'
        cases hp'
    | some payment => exact (hx.rebalanced hp).covered h
  obtain ⟨refund,mid,-,-,hx,⟨-,hrun⟩ | ⟨-,message,hrun⟩⟩ | ⟨hrun,-⟩ := execute_cases now l refundId stripeFailure
  · rw [hrun]
    exact hexecuted hx
  · rw [hrun]
    exact (hexecuted hx).same ⟨rfl,rfl,rfl⟩
  · rw [hrun]
    exact h

/-! ## One request and whole runs -/

theorem step_covered (l : Ledger) (r : Request) (hw : Linked l) (h : Covered l) : Covered (step l r) := by
  obtain ⟨now,command⟩ := r
  unfold step serve
  split
  swap
  · exact h
  cases command with
  | createInvoice householdId dueDate lines =>
    refine transact_keeps h fun l' hok => ?_
    obtain ⟨invoice,hbalance,hwriteOff,rfl⟩ := createInvoice_ok hok
    exact covered_insert h hw hbalance hwriteOff
  | issue id approval => exact transact_keeps h fun l' hok => covered_restatused h (issue_ok hok) (issue_permitted hok)
  | approvalCallback id =>
    refine transact_keeps h fun l' hok => covered_restatused h (approvalCallback_ok hok) ?_
    simp only [approvalCallback,require_bind_eq_ok,ensure_bind_eq_ok,pure_eq_ok] at hok
    obtain ⟨invoice,hi,hs,rfl⟩ := hok
    exact .of_modify hi (.inr (by rw [hs]; rfl))
  | markOverdue cutoffDate id =>
    refine transact_keeps h fun l' hok => ?_
    simp only [markOverdue,require_bind_eq_ok,ensure_bind_eq_ok,pure_eq_ok] at hok
    obtain ⟨invoice,hi,⟨hs,-⟩,hl'⟩ := hok
    have hinvoices := congrArg Ledger.invoices hl'.symm
    dsimp only at hinvoices
    refine covered_modify h hi hinvoices (by rw [← hl']) fun hcovers _ => hcovers ?_
    rintro hwritten
    rw [hwritten] at hs
    simp at hs
  | voidInvoice id => exact transact_keeps h fun l' hok => covered_restatused h (voidInvoice_ok hok) (voidInvoice_permitted hok)
  | cancel id => exact transact_keeps h fun l' hok => covered_restatused h (cancel_ok hok) (cancel_permitted hok)
  | writeOff id reason => exact transact_keeps h fun l' hok => writeOff_covered h hok
  | createManual householdId paymentMethod amount reason =>
    refine transact_keeps h fun l' hok => ?_
    rw [createManual_ok hok]
    exact h.same ⟨rfl,rfl,rfl⟩
  | checkoutCompleted householdId invoiceId amountCents paymentIntentId =>
    exact transact_keeps h fun l' hok => handleCheckoutCompleted_balancesCovered h hok
  | confirmAllocations paymentId allocs =>
    exact transact_keeps h fun l' hok => (confirmAllocations_rebalanced hok).covered h
  | createCreditNote householdId amount reason =>
    refine transact_keeps h fun l' hok => ?_
    obtain ⟨note,rfl⟩ := createCreditNote_ok hok
    exact h.same ⟨rfl,rfl,rfl⟩
  | applyToInvoice creditNoteId invoiceId appliedAmount =>
    exact transact_keeps h fun l' hok => applyToInvoice_covered h hok
  | createLateFeeConfig config => exact h.same ⟨rfl,rfl,rfl⟩
  | applyLateFee invoiceId configId => exact transact_keeps h fun l' hok => applyLateFee_covered h hok
  | createRefund userId paymentId amount reason =>
    refine transact_keeps h fun l' hok => ?_
    obtain ⟨payment,-,-,-,rfl⟩ := createRefund_ok hok
    exact h.same ⟨rfl,rfl,rfl⟩
  | approve refundId approverUserId =>
    refine transact_keeps h fun l' hok => ?_
    obtain ⟨refund,-,-,rfl⟩ := approve_ok hok
    exact h.same ⟨rfl,rfl,rfl⟩
  | reject refundId approverUserId comment =>
    refine transact_keeps h fun l' hok => ?_
    obtain ⟨refund,-,-,rfl⟩ := reject_ok hok
    exact h.same ⟨rfl,rfl,rfl⟩
  | execute refundId stripeFailure => exact execute_covered now refundId stripeFailure h

/-- Every ledger that requests lead to has covered balances. -/
theorem covered_foldl (households : List ℕ) (requests : List Request) :
    Covered (requests.foldl step (Ledger.initial households)) := by
  have hsound : ∀ (l : Ledger), Linked l ∧ Covered l → Linked (requests.foldl step l) ∧ Covered (requests.foldl step l) := by
    induction requests with
    | nil => exact fun _ h => h
    | cons r requests ih => exact fun l h => ih (step l r) ⟨step_linked l r h.1,step_covered l r h.1 h.2⟩
  refine (hsound _ ⟨⟨?_,?_⟩,?_⟩).2
  · simp [Ledger.initial]
  · simp [Ledger.initial]
  · intro id invoice hi
    simp [Ledger.initial] at hi

end

end

/-! ## Suggested allocations

What is left of a payment is suggested for the open invoices of its household, the earliest due first. The
suggestions are meant to be confirmed as they stand.
-/

structure AllocationSuggestion where
  invoiceId : ℕ
  invoiceDueDate : ℤ
  invoiceBalance : ℤ
  suggestedAmount : ℤ

def isOpenFor (householdId : ℕ) (invoice : Invoice) : Bool :=
  invoice.householdId = householdId && isPayableStatus invoice.status && 0 < invoice.balanceAmount

/-- By due date; invoices of one date in the order of their creation. -/
def unpaidInvoices (l : Ledger) (householdId : ℕ) : List (ℕ × Invoice) :=
  (l.invoices.select (isOpenFor householdId)).insertionSort fun a b => a.2.dueDate ≤ b.2.dueDate

def suggestFor (row : ℕ × Invoice) (suggestedAmount : ℤ) : AllocationSuggestion where
  invoiceId := row.1
  invoiceDueDate := row.2.dueDate
  invoiceBalance := row.2.balanceAmount
  suggestedAmount := suggestedAmount

/-- The loop over the invoices, from what remains. -/
@[grind] def suggestLoop : ℤ → List (ℕ × Invoice) → List AllocationSuggestion
  | _, [] => []
  | remaining, row :: rows =>
    if remaining ≤ 0 then []
    else
      let suggestedAmount := roundMoney (min remaining row.2.balanceAmount : ℤ)
      suggestFor row suggestedAmount :: suggestLoop (roundMoney (remaining - suggestedAmount : ℤ)) rows

def suggestAllocations (l : Ledger) (paymentId : ℕ) : Except FinanceError (List AllocationSuggestion) := do
  let payment ← require (l.payments.get? paymentId) .paymentNotFound
  let remaining := roundMoney (payment.amount - l.allocatedFrom paymentId : ℤ)
  return if remaining ≤ 0 then [] else suggestLoop remaining (unpaidInvoices l payment.householdId)

def AllocationSuggestion.item (s : AllocationSuggestion) : AllocationItem := ⟨s.invoiceId,s.suggestedAmount⟩

/-! ## The suggestions -/

section
variable {l : Ledger} {paymentId : ℕ} {payment : Payment} {remaining : ℤ} {row : ℕ × Invoice}

def balanceOf (row : ℕ × Invoice) : ℤ := row.2.balanceAmount

theorem suggestLoop_eq (remaining : ℤ) (rows : List (ℕ × Invoice)) :
    suggestLoop remaining rows = (pour balanceOf remaining rows).map fun p => suggestFor p.1 p.2 := by
  induction rows generalizing remaining with
  | nil => rfl
  | cons row rows ih =>
    simp only [suggestLoop,roundMoney_intCast,ih]
    split
    · rename_i h
      rw [pour_of_nonpos h]
      rfl
    · rename_i h
      rw [pour_cons_of_pos (not_le.mp h)]
      rfl

/-- What goes into which open invoice. -/
def shares (l : Ledger) (paymentId : ℕ) (payment : Payment) : List ((ℕ × Invoice) × ℤ) :=
  pour balanceOf (payment.amount - l.allocatedFrom paymentId) (unpaidInvoices l payment.householdId)

theorem suggestAllocations_eq (hp : l.payments.get? paymentId = some payment) :
    suggestAllocations l paymentId = .ok ((shares l paymentId payment).map fun p => suggestFor p.1 p.2) := by
  have hfound : require (l.payments.get? paymentId) FinanceError.paymentNotFound = .ok payment := by
    rw [hp]
    rfl
  simp only [suggestAllocations,hfound,ok_bind,roundMoney_intCast,suggestLoop_eq,shares]
  by_cases h : payment.amount - l.allocatedFrom paymentId ≤ 0
  · rw [if_pos h,pour_of_nonpos h]
    rfl
  · rw [if_neg h]
    rfl

theorem mem_unpaidInvoices_iff {householdId : ℕ} : row ∈ unpaidInvoices l householdId ↔
    l.invoices.get? row.1 = some row.2 ∧ isOpenFor householdId row.2 = true := by
  rw [unpaidInvoices,(List.perm_insertionSort _ _).mem_iff,Table.select,List.mem_filter,Table.get?_eq_some_iff]

theorem unpaid_balance_pos {householdId : ℕ} : ∀ row ∈ unpaidInvoices l householdId, 0 < balanceOf row := by
  intro row hrow
  have hopen := (mem_unpaidInvoices_iff.mp hrow).2
  simp only [isOpenFor,Bool.and_eq_true,decide_eq_true_eq] at hopen
  exact hopen.2

theorem nodup_unpaidInvoices (l : Ledger) (householdId : ℕ) : ((unpaidInvoices l householdId).map Prod.fst).Nodup := by
  have hperm := (List.perm_insertionSort (fun a b : ℕ × Invoice => a.2.dueDate ≤ b.2.dueDate)
    (l.invoices.select (isOpenFor householdId))).map Prod.fst
  exact hperm.nodup_iff.mpr ((List.filter_sublist.map Prod.fst).nodup l.invoices.nodup)

theorem sorted_unpaidInvoices (l : Ledger) (householdId : ℕ) :
    (unpaidInvoices l householdId).Pairwise fun a b => a.2.dueDate ≤ b.2.dueDate :=
  have : Std.Total fun a b : ℕ × Invoice => a.2.dueDate ≤ b.2.dueDate := ⟨fun _ _ => le_total _ _⟩
  have : IsTrans (ℕ × Invoice) fun a b => a.2.dueDate ≤ b.2.dueDate := ⟨fun _ _ _ => le_trans⟩
  List.pairwise_insertionSort _ _

/-- The total that the household still has to pay. -/
def openBalance (l : Ledger) (householdId : ℕ) : ℤ := l.invoices.sumWhere (isOpenFor householdId) (·.balanceAmount)

theorem sum_unpaidInvoices (l : Ledger) (householdId : ℕ) :
    ((unpaidInvoices l householdId).map balanceOf).sum = openBalance l householdId := by
  exact ((List.perm_insertionSort _ _).map balanceOf).sum_eq

/-! ## Confirming them -/

def items (l : Ledger) (paymentId : ℕ) (payment : Payment) : List AllocationItem :=
  (shares l paymentId payment).map fun p => (suggestFor p.1 p.2).item

theorem share_of_mem {p : (ℕ × Invoice) × ℤ} (h : p ∈ shares l paymentId payment) :
    l.invoices.get? p.1.1 = some p.1.2 ∧ isOpenFor payment.householdId p.1.2 = true ∧ 0 < p.2 ∧ p.2 ≤ p.1.2.balanceAmount := by
  obtain ⟨hget,hopen⟩ := mem_unpaidInvoices_iff.mp (mem_of_mem_pour h)
  obtain ⟨hpos,hle⟩ := bounds_of_mem_pour unpaid_balance_pos h
  exact ⟨hget,hopen,hpos,hle⟩

theorem sum_shares (hleft : 0 ≤ payment.amount - l.allocatedFrom paymentId) :
    ((shares l paymentId payment).map Prod.snd).sum =
      min (payment.amount - l.allocatedFrom paymentId) (openBalance l payment.householdId) := by
  rw [← sum_unpaidInvoices]
  exact sum_pour unpaid_balance_pos hleft

theorem shares_of_nonpos (hleft : payment.amount - l.allocatedFrom paymentId ≤ 0) : shares l paymentId payment = [] :=
  pour_of_nonpos hleft

theorem sum_items : ((items l paymentId payment).map (·.amount)).sum = ((shares l paymentId payment).map Prod.snd).sum := by
  rw [Int.cast_list_sum,items,List.map_map,List.map_map]
  rfl

theorem checkAllocation_share {p : (ℕ × Invoice) × ℤ} (h : p ∈ shares l paymentId payment) :
    checkAllocation l payment (suggestFor p.1 p.2).item = .ok () := by
  obtain ⟨hget,hopen,-,hle⟩ := share_of_mem h
  simp only [isOpenFor,Bool.and_eq_true,decide_eq_true_eq] at hopen
  simp only [checkAllocation,require_bind_eq_ok,ensure_bind_eq_ok,ensure_eq_ok]
  refine ⟨p.1.2,hget,hopen.1.1,?_⟩
  change ¬roundMoney (p.2 : ℚ) > p.1.2.balanceAmount + 1
  rw [roundMoney_intCast]
  omega

/-- The suggestions pass the checks as soon as the payment does. -/
theorem confirmable_items_iff (hp : l.payments.get? paymentId = some payment) :
    Confirmable l paymentId (items l paymentId payment) ↔
      payment.status = .posted ∧ l.allocatedFrom paymentId ≤ payment.amount + 1 := by
  have hchecks : ∀ a ∈ items l paymentId payment, checkAllocation l payment a = .ok () := by
    intro a ha
    obtain ⟨p,hmem,rfl⟩ := List.mem_map.mp ha
    exact checkAllocation_share hmem
  have htotal : roundMoney ((items l paymentId payment).map (·.amount)).sum ≤ payment.amount - l.allocatedFrom paymentId + 1 ↔
      l.allocatedFrom paymentId ≤ payment.amount + 1 := by
    rw [sum_items,roundMoney_intCast]
    rcases le_total 0 (payment.amount - l.allocatedFrom paymentId) with hleft | hleft
    · have hmin := min_le_left (payment.amount - l.allocatedFrom paymentId) (openBalance l payment.householdId)
      rw [sum_shares hleft]
      omega
    · rw [shares_of_nonpos hleft,List.map_nil,List.sum_nil]
      omega
  constructor
  · rintro ⟨payment',hp',hstatus,hle,-⟩
    obtain rfl : payment = payment' := Option.some.inj (hp.symm.trans hp')
    exact ⟨hstatus,htotal.mp hle⟩
  · rintro ⟨hstatus,hle⟩
    exact ⟨payment,hp,hstatus,htotal.mpr hle,hchecks⟩

theorem requestedFor_items_le {id : ℕ} {invoice : Invoice} (hi : l.invoices.get? id = some invoice) :
    requestedFor (items l paymentId payment) id ≤ max 0 invoice.balanceAmount := by
  have hkeys : ((shares l paymentId payment).map fun p => (p.1.1,p.2)).map Prod.fst =
      ((shares l paymentId payment).map Prod.fst).map Prod.fst := by
    rw [List.map_map,List.map_map]
    rfl
  have hnodup : (((shares l paymentId payment).map fun p => (p.1.1,p.2)).map Prod.fst).Nodup := by
    rw [hkeys]
    exact ((map_fst_pour_take _ _).sublist.map Prod.fst).nodup (nodup_unpaidInvoices l payment.householdId)
  have hrequested : requestedFor (items l paymentId payment) id =
      ((((shares l paymentId payment).map fun p => (p.1.1,p.2)).filter fun r => r.1 = id).map Prod.snd).sum := by
    rw [requestedFor,items,List.filter_map,List.filter_map,List.map_map,List.map_map]
    congr 1
    exact List.map_congr_left fun p _ => toColumn_intCast p.2
  rw [hrequested,Table.sum_filter_key hnodup]
  cases hlookup : ((shares l paymentId payment).map fun p => (p.1.1,p.2)).lookup id with
  | none => exact le_max_left _ _
  | some share =>
    obtain ⟨before,after,hsplit,-⟩ := List.lookup_eq_some_iff.mp hlookup
    have hrow : (id,share) ∈ (shares l paymentId payment).map fun p => (p.1.1,p.2) := by simp [hsplit]
    obtain ⟨p,hmem,heq⟩ := List.mem_map.mp hrow
    obtain ⟨rfl,rfl⟩ := Prod.mk.inj heq
    obtain ⟨hget,-,-,hle⟩ := share_of_mem hmem
    obtain rfl : invoice = p.1.2 := Option.some.inj (hi.symm.trans hget)
    exact hle.trans (le_max_right _ _)

/-- An open invoice that a suggestion is for keeps a balance that is not negative, and so does every other one. -/
theorem nonneg_of_confirm {now : ℤ} {l' : Ledger} {id : ℕ} {invoice invoice' : Invoice} (hcovered : Covered l)
    (hconfirm : confirmAllocations now l paymentId (items l paymentId payment) = .ok l')
    (hi : l.invoices.get? id = some invoice) (hi' : l'.invoices.get? id = some invoice') (hnonneg : 0 ≤ invoice.balanceAmount) :
    0 ≤ invoice'.balanceAmount := by
  have hr := confirmAllocations_rebalanced hconfirm
  by_cases hid : id ∈ (items l paymentId payment).map (·.invoiceId)
  · obtain ⟨invoice₁,invoice₂,hi₁,hi₂,-,-,-,hbalance⟩ := hr.recomputed id hid
    obtain rfl : invoice = invoice₁ := Option.some.inj (hi.symm.trans hi₁)
    obtain rfl : invoice' = invoice₂ := Option.some.inj (hi'.symm.trans hi₂)
    have hopen : invoice.status ≠ .writtenOff := by
      obtain ⟨a,ha,haid⟩ := List.mem_map.mp hid
      obtain ⟨p,hmem,rfl⟩ := List.mem_map.mp ha
      obtain ⟨hget,hopen,-⟩ := share_of_mem hmem
      have hsame : p.1.1 = id := haid
      rw [hsame,hi] at hget
      obtain rfl : invoice = p.1.2 := Option.some.inj hget
      rintro hwritten
      simp [isOpenFor,isPayableStatus,payableInvoiceStatuses,hwritten] at hopen
    have hcovers := hcovered id invoice hi hopen
    have hrequested : requestedFor (items l paymentId payment) id ≤ max 0 invoice.balanceAmount := requestedFor_items_le hi
    rw [max_eq_right hnonneg] at hrequested
    rw [confirmAllocations_allocatedTo hconfirm] at hbalance
    omega
  · rw [(hr.kept id hid).1,hi] at hi'
    cases hi'
    exact hnonneg

/-! ## What the suggestions are for -/

/-- The suggestions use up what is left of the payment, or all that is open, the earliest due first, and they can be
confirmed as they stand. -/
structure SuggestionsFit (now : ℤ) (l : Ledger) (paymentId : ℕ) (payment : Payment)
    (suggestions : List AllocationSuggestion) : Prop where
  positive : ∀ s ∈ suggestions, 0 < s.suggestedAmount
  total : (suggestions.map (·.suggestedAmount)).sum =
    min (max 0 (payment.amount - l.allocatedFrom paymentId)) (openBalance l payment.householdId)
  once : (suggestions.map (·.invoiceId)).Nodup
  within : ∀ s ∈ suggestions, ∃ invoice, l.invoices.get? s.invoiceId = some invoice ∧
    isOpenFor payment.householdId invoice = true ∧ s.invoiceDueDate = invoice.dueDate ∧
    s.invoiceBalance = invoice.balanceAmount ∧ s.suggestedAmount ≤ invoice.balanceAmount
  earliestFirst : ∀ s ∈ suggestions, ∀ id invoice, l.invoices.get? id = some invoice →
    isOpenFor payment.householdId invoice = true → invoice.dueDate < s.invoiceDueDate →
    ∃ s' ∈ suggestions, s'.invoiceId = id ∧ s'.suggestedAmount = invoice.balanceAmount
  confirmed : ∃ l', confirmAllocations now l paymentId (suggestions.map (·.item)) = .ok l' ∧
    ∀ id invoice invoice', l.invoices.get? id = some invoice → l'.invoices.get? id = some invoice' →
      0 ≤ invoice.balanceAmount → 0 ≤ invoice'.balanceAmount

theorem total_shares (l : Ledger) (paymentId : ℕ) (payment : Payment) : ((shares l paymentId payment).map Prod.snd).sum =
    min (max 0 (payment.amount - l.allocatedFrom paymentId)) (openBalance l payment.householdId) := by
  have hopen : 0 ≤ openBalance l payment.householdId := by
    rw [← sum_unpaidInvoices]
    apply List.sum_nonneg
    intro x hx
    obtain ⟨row,hrow,rfl⟩ := List.mem_map.mp hx
    exact (unpaid_balance_pos row hrow).le
  rcases le_total 0 (payment.amount - l.allocatedFrom paymentId) with hleft | hleft
  · rw [sum_shares hleft,max_eq_right hleft]
  · rw [shares_of_nonpos hleft,max_eq_left hleft,min_eq_left hopen]
    rfl

theorem map_item_suggestions : ((shares l paymentId payment).map fun p => suggestFor p.1 p.2).map (·.item) =
    items l paymentId payment := by
  rw [List.map_map]
  rfl

theorem suggestionsFit_shares {now : ℤ} (hcovered : Covered l)
    (hconfirmable : Confirmable l paymentId (items l paymentId payment)) :
    SuggestionsFit now l paymentId payment ((shares l paymentId payment).map fun p => suggestFor p.1 p.2) where
  positive s hs := by
    obtain ⟨p,hmem,rfl⟩ := List.mem_map.mp hs
    exact (share_of_mem hmem).2.2.1
  total := by
    rw [List.map_map]
    exact total_shares l paymentId payment
  once := by
    have hids : ((shares l paymentId payment).map fun p => suggestFor p.1 p.2).map (·.invoiceId) =
        ((shares l paymentId payment).map Prod.fst).map Prod.fst := by
      rw [List.map_map,List.map_map]
      rfl
    rw [hids]
    exact ((map_fst_pour_take _ _).sublist.map Prod.fst).nodup (nodup_unpaidInvoices l payment.householdId)
  within s hs := by
    obtain ⟨p,hmem,rfl⟩ := List.mem_map.mp hs
    obtain ⟨hget,hopen,-,hle⟩ := share_of_mem hmem
    exact ⟨p.1.2,hget,hopen,rfl,rfl,hle⟩
  earliestFirst s hs id invoice hget hopen hdue := by
    obtain ⟨q,hmem,rfl⟩ := List.mem_map.mp hs
    have hrow : (id,invoice) ∈ unpaidInvoices l payment.householdId := mem_unpaidInvoices_iff.mpr ⟨hget,hopen⟩
    have hlater : ¬q.1.2.dueDate ≤ invoice.dueDate := not_le.mpr hdue
    have hfilled := filled_of_before (r := fun a b => a.2.dueDate ≤ b.2.dueDate) (fun _ => le_rfl)
      (sorted_unpaidInvoices l payment.householdId) hrow hmem hlater
    exact ⟨_,List.mem_map_of_mem hfilled,rfl,rfl⟩
  confirmed := by
    obtain ⟨l',hl'⟩ := hconfirmable.exists_ok now
    rw [map_item_suggestions]
    exact ⟨l',hl',fun id invoice invoice' hi hi' hnonneg => nonneg_of_confirm hcovered hl' hi hi' hnonneg⟩

end

/-- In every state that requests lead to. -/
theorem suggestionsFit_iff (households : List ℕ) (requests : List Request) (now : ℤ) {paymentId : ℕ} {payment : Payment}
    (hp : (requests.foldl step (Ledger.initial households)).payments.get? paymentId = some payment) :
    (∃ suggestions, suggestAllocations (requests.foldl step (Ledger.initial households)) paymentId = .ok suggestions ∧
      SuggestionsFit now (requests.foldl step (Ledger.initial households)) paymentId payment suggestions) ↔
    payment.status = .posted ∧
      (requests.foldl step (Ledger.initial households)).allocatedFrom paymentId ≤ payment.amount + 1 := by
  rw [← confirmable_items_iff hp]
  constructor
  · rintro ⟨suggestions,hsuggest,hfit⟩
    rw [suggestAllocations_eq hp] at hsuggest
    cases hsuggest
    obtain ⟨l',hconfirm,-⟩ := hfit.confirmed
    rw [map_item_suggestions] at hconfirm
    exact (confirmAllocations_ok_iff.mp hconfirm).1
  · intro hconfirmable
    exact ⟨_,suggestAllocations_eq hp,suggestionsFit_shares (covered_foldl households requests) hconfirmable⟩

/-- An invoice of 100.00 and a payment of 60.00 of one household. -/
def invoiceAndSmallPayment : List Request :=
  [⟨0,.createInvoice 1 0 [⟨"Tuition",1,10000⟩]⟩,⟨0,.issue 0 .notRequired⟩,⟨0,.createManual 1 .cash 6000 none⟩]

theorem suggestionsFit_smallPayment : ∃ suggestions,
    suggestAllocations (invoiceAndSmallPayment.foldl step (Ledger.initial [1])) 0 = .ok suggestions ∧
      SuggestionsFit 0 (invoiceAndSmallPayment.foldl step (Ledger.initial [1])) 0 ⟨1,.cash,none,6000,.posted,none⟩ suggestions :=
  (suggestionsFit_iff [1] invoiceAndSmallPayment 0 (by decide +kernel)).mpr (by decide +kernel)

/-- The payment is refunded in full. -/
def refundedPayment : List Request :=
  invoiceAndSmallPayment ++ [⟨0,.createRefund 7 0 6000 "Paid twice"⟩,⟨0,.approve 0 8⟩,⟨0,.execute 0 none⟩]

/-- The refunded payment is suggested for the invoice and then refused. -/
theorem not_suggestionsFit_refunded : ¬∃ suggestions,
    suggestAllocations (refundedPayment.foldl step (Ledger.initial [1])) 0 = .ok suggestions ∧
      SuggestionsFit 0 (refundedPayment.foldl step (Ledger.initial [1])) 0 ⟨1,.cash,none,6000,.refundedFull,none⟩ suggestions := by
  rintro ⟨suggestions,-,hfit⟩
  obtain ⟨l',hconfirm,-⟩ := hfit.confirmed
  obtain ⟨⟨payment,hp,hstatus,-⟩,-⟩ := confirmAllocations_ok_iff.mp hconfirm
  have hrefunded : (refundedPayment.foldl step (Ledger.initial [1])).payments.get? 0 =
      some ⟨1,.cash,none,6000,.refundedFull,none⟩ := by decide +kernel
  rw [hrefunded] at hp
  cases hp
  cases hstatus

end EduPod.Finance
