import EduPod.Finance.Funding

/-! # Refunds and allocations of one payment

A reversal first uses the unallocated part of the payment, and it counts money that
earlier refunds have already returned as unallocated.
-/
namespace EduPod.Finance
open Fallible Runs

/-- The cent a reversal drops when it leaves only one on the last allocation it reaches. -/
@[grind] def droppedCent : ℤ → List (ℕ × PaymentAllocation) → ℤ
  | _, [] => 0
  | remaining, a :: rest =>
    if remaining ≤ 0 then 0
    else if remaining < a.2.allocatedAmount then
      if a.2.allocatedAmount - remaining = 1 then 1 else 0
    else droppedCent (remaining - a.2.allocatedAmount) rest

theorem droppedCent_nonneg (remaining : ℤ) (rows : List (ℕ × PaymentAllocation)) :
    0 ≤ droppedCent remaining rows := by
  induction rows generalizing remaining with
  | nil => exact le_rfl
  | cons a rest ih =>
    unfold droppedCent
    split
    · exact le_rfl
    split
    · split <;> decide
    · exact ih _

section
variable {l l' : Ledger}

/-! ## The reversal loop -/

def total (rows : List (ℕ × PaymentAllocation)) : ℤ := (rows.map (·.2.allocatedAmount)).sum

theorem total_lifoAllocations (l : Ledger) (paymentId : ℕ) :
    total (lifoAllocations l paymentId) = l.allocatedFrom paymentId := by
  rw [total,lifoAllocations,List.map_reverse,List.sum_reverse]
  rfl

/-- The rows of a reversal: stored, positive, and all of one payment. -/
structure Reversible (l : Ledger) (paymentId : ℕ) (rows : List (ℕ × PaymentAllocation)) : Prop where
  stored : Stored l rows
  positive : ∀ r ∈ rows, 0 < r.2.allocatedAmount
  payment : ∀ r ∈ rows, r.2.paymentId = paymentId

theorem Funded.reversible (hf : Funded l) (paymentId : ℕ) :
    Reversible l paymentId (lifoAllocations l paymentId) := by
  refine ⟨stored_lifoAllocations l paymentId,fun r hr => ?_,fun r hr => ?_⟩
  · exact (hf.allocations r (List.mem_filter.mp (List.mem_reverse.mp hr)).1).1
  · simpa using (List.mem_filter.mp (List.mem_reverse.mp hr)).2

theorem Reversible.turn {now : ℤ} {paymentId : ℕ} {a : ℕ × PaymentAllocation}
    {rest : List (ℕ × PaymentAllocation)} (hr : Reversible l paymentId (a :: rest))
    {allocAmount reverseAmount : ℤ} {id : ℕ}
    (h : recalculateBalance now (reverseAllocation l a.1 allocAmount reverseAmount) id = .ok l') :
    Reversible l' paymentId rest :=
  ⟨hr.stored.turn h,fun r hm => hr.positive r (List.mem_cons_of_mem _ hm),
    fun r hm => hr.payment r (List.mem_cons_of_mem _ hm)⟩

/-- What one turn of the loop takes off the payment's allocations. -/
theorem reverseAllocation_allocatedFrom {a : ℕ × PaymentAllocation}
    (ha : l.allocations.get? a.1 = some a.2) (remaining : ℤ) (id : ℕ) :
    (reverseAllocation l a.1 a.2.allocatedAmount (min remaining a.2.allocatedAmount)).allocatedFrom id =
      l.allocatedFrom id - if a.2.paymentId = id then
        min remaining a.2.allocatedAmount + if a.2.allocatedAmount - remaining = 1 then 1 else 0 else 0 := by
  unfold reverseAllocation Ledger.allocatedFrom
  split
  · rw [Table.sumWhere_erase ha]
    by_cases hid : a.2.paymentId = id
    · simp only [hid,decide_true,if_true]
      split <;> omega
    · simp [hid]
  · rw [Table.sumWhere_modify ha]
    by_cases hid : a.2.paymentId = id
    · simp only [hid,decide_true,if_true,roundMoney_intCast]
      split <;> omega
    · simp [hid]

/-- The loop takes the whole remaining amount off the allocations, and at most one cent more. -/
theorem reverseLoop_allocatedFrom {now : ℤ} {paymentId : ℕ} {rows : List (ℕ × PaymentAllocation)}
    {remaining : ℤ} (hrev : Reversible l paymentId rows) (hr : 0 ≤ remaining)
    (h : reverseLoop now l remaining rows = .ok l') : l'.allocatedFrom paymentId =
      l.allocatedFrom paymentId - min remaining (total rows) - droppedCent remaining rows := by
  have htotal : ∀ rows : List (ℕ × PaymentAllocation), (∀ r ∈ rows, 0 < r.2.allocatedAmount) →
      0 ≤ total rows := fun rows hp =>
    List.sum_nonneg fun x hx => by
      obtain ⟨r,hr,rfl⟩ := List.mem_map.mp hx
      exact (hp r hr).le
  induction rows generalizing l remaining with
  | nil =>
    obtain rfl : l = l' := by simpa [reverseLoop] using h
    simp [total,droppedCent,hr]
  | cons a rest ih =>
    have hpos := hrev.positive a List.mem_cons_self
    have hrest := htotal rest fun r hm => hrev.positive r (List.mem_cons_of_mem _ hm)
    have hcons : total (a :: rest) = a.2.allocatedAmount + total rest := rfl
    simp only [reverseLoop,roundMoney_intCast] at h
    by_cases hz : remaining ≤ 0
    · rw [if_pos hz] at h
      obtain rfl : l = l' := by simpa using h
      rw [droppedCent,if_pos hz,hcons]
      omega
    · rw [if_neg hz] at h
      obtain ⟨mid,hm,h⟩ := bind_eq_ok.mp h
      have hmid := reverseAllocation_allocatedFrom (hrev.stored.2 a List.mem_cons_self) remaining paymentId
      rw [if_pos (hrev.payment a List.mem_cons_self)] at hmid
      rw [← Ledger.allocatedFrom_congr (recalculateBalance_allocations hm).1] at hmid
      have hl' := ih (hrev.turn hm) (by omega) h
      rw [hl',hmid,droppedCent,if_neg hz,hcons]
      by_cases hlt : remaining < a.2.allocatedAmount
      · -- the walk ends inside this row
        have hd : droppedCent (remaining - min remaining a.2.allocatedAmount) rest = 0 := by
          rw [min_eq_left hlt.le,sub_self]
          cases rest <;> rfl
        rw [hd,if_pos hlt]
        split <;> omega
      · rw [if_neg hlt,min_eq_right (not_lt.mp hlt)]
        split <;> omega

theorem reverseLoop_allocatedFrom_ne {now : ℤ} {paymentId id : ℕ} (hid : id ≠ paymentId)
    {rows : List (ℕ × PaymentAllocation)} {remaining : ℤ} (hrev : Reversible l paymentId rows)
    (h : reverseLoop now l remaining rows = .ok l') : l'.allocatedFrom id = l.allocatedFrom id := by
  induction rows generalizing l remaining with
  | nil =>
    obtain rfl : l = l' := by simpa [reverseLoop] using h
    rfl
  | cons a rest ih =>
    simp only [reverseLoop,roundMoney_intCast] at h
    by_cases hz : remaining ≤ 0
    · rw [if_pos hz] at h
      obtain rfl : l = l' := by simpa using h
      rfl
    · rw [if_neg hz] at h
      obtain ⟨mid,hm,h⟩ := bind_eq_ok.mp h
      have hmid := reverseAllocation_allocatedFrom (hrev.stored.2 a List.mem_cons_self) remaining id
      rw [if_neg (by rw [hrev.payment a List.mem_cons_self]; exact hid.symm),sub_zero] at hmid
      rw [ih (hrev.turn hm) h,Ledger.allocatedFrom_congr (recalculateBalance_allocations hm).1,hmid]

/-! ## Executed refunds -/

theorem droppedCent_of_nonpos {remaining : ℤ} (h : remaining ≤ 0) (rows : List (ℕ × PaymentAllocation)) :
    droppedCent remaining rows = 0 := by
  cases rows <;> simp [droppedCent,h]

theorem droppedCent_of_total_le {rows : List (ℕ × PaymentAllocation)}
    (hpos : ∀ r ∈ rows, 0 < r.2.allocatedAmount) {remaining : ℤ} (h : total rows ≤ remaining) :
    droppedCent remaining rows = 0 := by
  induction rows generalizing remaining with
  | nil => rfl
  | cons a rest ih =>
    obtain ⟨_,hrest⟩ := List.forall_mem_cons.mp hpos
    have hcons : total (a :: rest) = a.2.allocatedAmount + total rest := rfl
    have hnn : 0 ≤ total rest := List.sum_nonneg fun x hx => by
      obtain ⟨r,hr,rfl⟩ := List.mem_map.mp hx
      exact (hrest r hr).le
    rw [hcons] at h
    unfold droppedCent
    split
    · rfl
    · rw [if_neg (by omega)]
      exact ih hrest (by omega)

theorem paymentStatusAfter_ne_posted {totalRefunded : ℤ} (h : 0 < totalRefunded) (paymentAmount : ℤ) :
    paymentStatusAfter totalRefunded paymentAmount ≠ .posted := by
  unfold paymentStatusAfter
  split_ifs <;> decide

theorem executedOf_markExecuted {now : ℤ} {refundId : ℕ} {refund : Refund}
    (hr : l.refunds.get? refundId = some refund) (hs : refund.status = .approved)
    (hl : l'.refunds = l.refunds.modify refundId fun r => { r with status := .executed, executedAt := some now })
    (id : ℕ) :
    l'.executedOf id = l.executedOf id + if refund.paymentId = id then refund.amount else 0 := by
  rw [executedOf_modify hr rfl rfl hl]
  simp [hs]

/-- What a committed refund does to its payment, its refund row and its allocations. -/
structure Booked (now : ℤ) (l l' : Ledger) (refundId : ℕ) (refund : Refund) (payment : Payment) : Prop where
  refunds : l'.refunds =
    l.refunds.modify refundId fun r => { r with status := .executed, executedAt := some now }
  payments : ∃ status, status ≠ PaymentStatus.posted ∧
    l'.payments = l.payments.modify refund.paymentId fun p => { p with status := status }
  rows : l'.allocations.All fun a => 0 < a.allocatedAmount ∧ (l.payments.get? a.paymentId).isSome
  others : ∀ id ≠ refund.paymentId, l'.allocatedFrom id = l.allocatedFrom id
  reversed : 0 ≤ toReverse l payment refund → l'.allocatedFrom refund.paymentId =
    l.allocatedFrom refund.paymentId - min (toReverse l payment refund) (l.allocatedFrom refund.paymentId) -
      droppedCent (toReverse l payment refund) (lifoAllocations l refund.paymentId)

theorem Executed.booked {now : ℤ} {refundId : ℕ} {refund : Refund} (hf : Funded l)
    (hr : l.refunds.get? refundId = some refund) (hs : refund.status = .approved)
    (hx : Executed now l refundId refund l') : ∃ payment,
      l.payments.get? refund.paymentId = some payment ∧ Booked now l l' refundId refund payment := by
  obtain ⟨hpos,hpay⟩ := hf.refunds.get? hr
  rcases hx with ⟨hn,-⟩ | ⟨payment,hp,mid,hm,rfl⟩
  · simp [hn] at hpay
  obtain ⟨hmp,hmr⟩ := reverseLoop_frame hm
  have hrev : Reversible (markExecuted now l refundId) refund.paymentId
      (lifoAllocations l refund.paymentId) := by
    obtain ⟨hst,hpo,hpa⟩ := hf.reversible refund.paymentId
    exact ⟨hst,hpo,hpa⟩
  have he := executedOf_markExecuted hr hs hmr refund.paymentId
  have hnn := hf.executedOf_nonneg refund.paymentId
  rw [if_pos rfl] at he
  refine ⟨payment,hp,hmr,⟨paymentStatusAfter (mid.executedOf refund.paymentId) payment.amount,
    paymentStatusAfter_ne_posted (by omega) _,by rw [hmp]; rfl⟩,?_,?_,?_⟩
  · have hall := reverseLoop_all (P := fun a => 0 < a.allocatedAmount ∧ (l.payments.get? a.paymentId).isSome)
      (fun a x hx h => ⟨hx,h.2⟩) hm hf.allocations
    exact hall
  · intro id hid
    have hl := reverseLoop_allocatedFrom_ne hid hrev hm
    exact hl
  · intro hrem
    have hl := reverseLoop_allocatedFrom hrev hrem hm
    rw [total_lifoAllocations] at hl
    exact hl

/-- Rebooking a refund of a payment that is no longer posted. -/
theorem Funded.rebook (hf : Funded l) {refundId : ℕ} {refund : Refund}
    (hr : l.refunds.get? refundId = some refund) {g : Refund → Refund}
    (hp : (g refund).paymentId = refund.paymentId) (ha : (g refund).amount = refund.amount)
    (hrefunds : l'.refunds = l.refunds.modify refundId g)
    (hall : l'.allocations.All fun a => 0 < a.allocatedAmount ∧ (l.payments.get? a.paymentId).isSome)
    (hpay : ∀ id, (l'.payments.get? id).isSome = (l.payments.get? id).isSome)
    (hposted : ∀ id payment, l'.payments.get? id = some payment → payment.status = .posted →
      id ≠ refund.paymentId ∧ l.payments.get? id = some payment) : Funded l' := by
  refine ⟨by simpa only [hpay] using hall,?_,?_⟩
  · rw [hrefunds]
    refine Table.All.modify (by simpa only [hpay] using hf.refunds) fun r hr' => ?_
    obtain rfl : refund = r := Option.some.inj (hr.symm.trans hr')
    rw [ha,hp,hpay]
    exact hf.refunds.get? hr
  · intro id payment hi hs
    obtain ⟨hne,hold⟩ := hposted id payment hi hs
    rw [executedOf_modify hr hp ha hrefunds]
    simpa [hne.symm] using hf.posted id payment hold hs

theorem Booked.funded {now : ℤ} {refundId : ℕ} {refund : Refund} {payment : Payment} (hf : Funded l)
    (hr : l.refunds.get? refundId = some refund) (hb : Booked now l l' refundId refund payment) :
    Funded l' := by
  obtain ⟨status,hne,hpay⟩ := hb.payments
  refine hf.rebook hr rfl rfl hb.refunds hb.rows (by simp [hpay]) ?_
  intro id payment' hi hs
  rw [hpay,Table.get?_modify] at hi
  by_cases hid : id = refund.paymentId
  · rw [if_pos hid] at hi
    obtain ⟨p,-,rfl⟩ := Option.map_eq_some_iff.mp hi
    exact absurd hs hne
  · rw [if_neg hid] at hi
    exact ⟨hid,hi⟩

theorem markFailed_refunds (l : Ledger) (refundId : ℕ) (message : String) :
    (markFailed l refundId message).refunds = l.refunds.modify refundId fun r =>
      { r with status := .failed, failureReason := some ("Stripe refund failed: " ++ message) } := rfl

theorem markFailed_funded {now : ℤ} {refundId : ℕ} {refund : Refund} {payment : Payment} (hf : Funded l)
    (hr : l.refunds.get? refundId = some refund) (hb : Booked now l l' refundId refund payment)
    (message : String) : Funded (markFailed l' refundId message) := by
  have hr' : l'.refunds.get? refundId = some { refund with status := .executed, executedAt := some now } := by
    simp [hb.refunds,Table.get?_modify,hr]
  obtain ⟨status,hne,hpay⟩ := hb.payments
  refine (hb.funded hf hr).rebook hr' rfl rfl (markFailed_refunds l' refundId message) (hb.funded hf hr).allocations (fun _ => rfl) ?_
  intro id payment' hi hs
  refine ⟨?_,hi⟩
  rintro rfl
  change l'.payments.get? refund.paymentId = _ at hi
  rw [hpay,Table.get?_modify,if_pos rfl] at hi
  obtain ⟨p,-,rfl⟩ := Option.map_eq_some_iff.mp hi
  exact hne hs

/-- A failed Stripe call takes the refund back out of the executed ones. -/
theorem executedOf_markFailed {now : ℤ} {refundId : ℕ} {refund : Refund}
    (hr : l.refunds.get? refundId = some refund) (hs : refund.status = .approved)
    (hl : l'.refunds = l.refunds.modify refundId fun r => { r with status := .executed, executedAt := some now })
    (message : String) (id : ℕ) : (markFailed l' refundId message).executedOf id = l.executedOf id := by
  have hr' : l'.refunds.get? refundId = some { refund with status := .executed, executedAt := some now } := by
    simp [hl,Table.get?_modify,hr]
  rw [executedOf_modify hr' rfl rfl (markFailed_refunds l' refundId message),executedOf_markExecuted hr hs hl]
  simp

theorem execute_funded (now : ℤ) (refundId : ℕ) (stripeFailure : Option String) (hf : Funded l) :
    Funded (execute now l refundId stripeFailure).1 := by
  rcases execute_cases now l refundId stripeFailure with
    ⟨refund,mid,hr,hs,hx,⟨-,h⟩ | ⟨-,message,h⟩⟩ | ⟨h,-⟩
  · obtain ⟨payment,-,hb⟩ := hx.booked hf hr hs
    rw [h]
    exact hb.funded hf hr
  · obtain ⟨payment,-,hb⟩ := hx.booked hf hr hs
    rw [h]
    exact markFailed_funded hf hr hb message
  · rw [h]
    exact hf

/-- The refund is paid from money neither allocated nor refunded yet. Otherwise it reaches
into the allocations: then it may not exceed the payment, and no more may have been refunded
before than the cent the reversal happens to drop. -/
def Fits (l : Ledger) (payment : Payment) (refund : Refund) : Prop :=
  let unallocated := payment.amount - l.allocatedFrom refund.paymentId
  refund.amount ≤ unallocated - l.executedOf refund.paymentId ∨
    (unallocated < refund.amount ∧ refund.amount ≤ payment.amount ∧ l.executedOf refund.paymentId ≤
      droppedCent (refund.amount - unallocated) (lifoAllocations l refund.paymentId))

theorem toReverse_eq (l : Ledger) (payment : Payment) {refund : Refund}
    (h : 0 ≤ payment.amount - l.allocatedFrom refund.paymentId) (ha : 0 < refund.amount) :
    toReverse l payment refund = max 0 (refund.amount - (payment.amount - l.allocatedFrom refund.paymentId)) := by
  simp only [toReverse,afterUnallocated,roundMoney_intCast]
  split <;> omega

/-- The arithmetic of one committed refund. -/
theorem Booked.fits_iff {now : ℤ} {refundId : ℕ} {refund : Refund} {payment : Payment} (hf : Funded l)
    (ha : 0 < refund.amount)
    (hc : l.allocatedFrom refund.paymentId + l.executedOf refund.paymentId ≤ payment.amount)
    (hb : Booked now l l' refundId refund payment) : l'.allocatedFrom refund.paymentId +
      (l.executedOf refund.paymentId + refund.amount) ≤ payment.amount ↔ Fits l payment refund := by
  have he := hf.executedOf_nonneg refund.paymentId
  have hs := hf.allocatedFrom_nonneg refund.paymentId
  have hrem := toReverse_eq l payment (by omega) ha
  have hpos := (hf.reversible refund.paymentId).positive
  have htotal := total_lifoAllocations l refund.paymentId
  rw [hb.reversed (by omega),hrem]
  unfold Fits
  by_cases hu : refund.amount ≤ payment.amount - l.allocatedFrom refund.paymentId
  · rw [max_eq_left (by omega),droppedCent_of_nonpos le_rfl]
    omega
  · rw [max_eq_right (by omega)]
    by_cases hle : refund.amount ≤ payment.amount
    · omega
    · rw [droppedCent_of_total_le hpos (by omega)]
      omega

/-- The condition on an execution that pays out. -/
def RefundFits (l : Ledger) (refundId : ℕ) (stripeFailure : Option String) : Prop :=
  ∀ refund payment, l.refunds.get? refundId = some refund → refund.status = .approved →
    l.payments.get? refund.paymentId = some payment → ¬ StripeFails l refund stripeFailure →
    Fits l payment refund

theorem execute_covered_iff (now : ℤ) (refundId : ℕ) (stripeFailure : Option String) (hw : Linked l)
    (hf : Funded l) (hc : RefundsCovered l) :
    RefundsCovered (execute now l refundId stripeFailure).1 ↔ RefundFits l refundId stripeFailure := by
  rcases execute_cases now l refundId stripeFailure with
    ⟨refund,mid,hr,hs,hx,⟨hok,h⟩ | ⟨hfail,message,h⟩⟩ | ⟨h,herr⟩
  · obtain ⟨payment,hp,hb⟩ := hx.booked hf hr hs
    obtain ⟨ha,-⟩ := hf.refunds.get? hr
    obtain ⟨status,-,hpay⟩ := hb.payments
    have hfits := hb.fits_iff hf ha (hc _ _ hp)
    rw [h]
    constructor
    · intro h' refund' payment' hr' _ hp' _
      obtain rfl : refund = refund' := Option.some.inj (hr.symm.trans hr')
      obtain rfl : payment = payment' := Option.some.inj (hp.symm.trans hp')
      have := h' refund.paymentId { payment with status } (by simp [hpay,Table.get?_modify,hp])
      rw [executedOf_markExecuted hr hs hb.refunds,if_pos rfl] at this
      exact hfits.mp this
    · intro hfit id payment' hi
      rw [hpay,Table.get?_modify] at hi
      rw [executedOf_markExecuted hr hs hb.refunds]
      by_cases hid : id = refund.paymentId
      · subst hid
        rw [if_pos rfl,hp] at hi
        obtain rfl := Option.some.inj hi
        rw [if_pos rfl]
        exact hfits.mpr (hfit refund payment hr hs hp hok)
      · rw [if_neg hid] at hi
        rw [hb.others id hid,if_neg (Ne.symm hid),add_zero]
        exact hc id payment' hi
  · obtain ⟨payment,hp,hb⟩ := hx.booked hf hr hs
    obtain ⟨ha,-⟩ := hf.refunds.get? hr
    obtain ⟨status,-,hpay⟩ := hb.payments
    rw [h]
    refine iff_of_true ?_ ?_
    · intro id payment' hi
      change mid.payments.get? id = _ at hi
      rw [hpay,Table.get?_modify] at hi
      rw [executedOf_markFailed hr hs hb.refunds]
      change mid.allocatedFrom id + _ ≤ _
      by_cases hid : id = refund.paymentId
      · subst hid
        rw [if_pos rfl,hp] at hi
        obtain rfl := Option.some.inj hi
        have hcov := hc _ _ hp
        have he := hf.executedOf_nonneg refund.paymentId
        have hsn := hf.allocatedFrom_nonneg refund.paymentId
        have hrem := toReverse_eq l payment (by omega) ha
        have hd := droppedCent_nonneg (toReverse l payment refund) (lifoAllocations l refund.paymentId)
        rw [hb.reversed (by omega)]
        change _ ≤ payment.amount
        omega
      · rw [if_neg hid] at hi
        rw [hb.others id hid]
        exact hc id payment' hi
    · intro refund' payment' hr' _ _ hok
      obtain rfl : refund = refund' := Option.some.inj (hr.symm.trans hr')
      exact absurd hfail hok
  · rw [h]
    refine iff_of_true hc ?_
    intro refund payment hr hs hp _
    obtain ⟨mid,hx⟩ := hw.exists_executed now refundId hp
    exact absurd hx (herr refund hr hs mid)

/-! ## One request and whole runs -/

theorem Restatused.sameFunds {id : ℕ} (h : Restatused l l' id) : SameFunds l l' := by
  obtain ⟨_,_,_,rfl,-⟩ := h
  exact ⟨rfl,rfl,rfl⟩

theorem step_funded (l : Ledger) (r : Request) (hw : r.command.WholeCents) (hf : Funded l) :
    Funded (step l r) := by
  obtain ⟨now,command⟩ := r
  unfold step serve
  by_cases hv : command.valid = true
  swap
  · rw [if_neg hv]
    exact hf
  rw [if_pos hv]
  cases command with
  | createInvoice householdId dueDate lines =>
    refine transact_keeps hf fun l' h => ?_
    obtain ⟨invoice,-,-,rfl⟩ := createInvoice_ok h
    exact hf.same ⟨rfl,rfl,rfl⟩
  | issue id approval => exact transact_keeps hf fun l' h => hf.same (issue_ok h).sameFunds
  | approvalCallback id => exact transact_keeps hf fun l' h => hf.same (approvalCallback_ok h).sameFunds
  | markOverdue cutoffDate id => exact transact_keeps hf fun l' h => hf.same (markOverdue_ok h).sameFunds
  | voidInvoice id => exact transact_keeps hf fun l' h => hf.same (voidInvoice_ok h).sameFunds
  | cancel id => exact transact_keeps hf fun l' h => hf.same (cancel_ok h).sameFunds
  | writeOff id reason =>
    refine transact_keeps hf fun l' h => ?_
    obtain ⟨invoice,-,-,rfl⟩ := writeOff_ok_iff.mp h
    exact hf.same ⟨rfl,rfl,rfl⟩
  | createManual householdId paymentMethod amount reason =>
    refine transact_keeps hf fun l' h => ?_
    rw [createManual_ok h]
    exact hf.insertPayment _
  | checkoutCompleted householdId invoiceId amountCents paymentIntentId =>
    exact transact_keeps hf fun l' h => handleCheckoutCompleted_funded hf h
  | confirmAllocations paymentId allocs =>
    simp only [Command.valid,Bool.and_eq_true,List.all_eq_true,decide_eq_true_eq] at hv
    exact transact_keeps hf fun l' h => confirmAllocations_funded hf hv.2 hw h
  | createCreditNote householdId amount reason =>
    refine transact_keeps hf fun l' h => ?_
    obtain ⟨note,rfl⟩ := createCreditNote_ok h
    exact hf.same ⟨rfl,rfl,rfl⟩
  | applyToInvoice creditNoteId invoiceId appliedAmount =>
    refine transact_keeps hf fun l' h => ?_
    obtain ⟨_,_,_,_,-,-,rfl⟩ := applyToInvoice_ok h
    exact hf.same ⟨rfl,rfl,rfl⟩
  | createLateFeeConfig config => exact hf.same ⟨rfl,rfl,rfl⟩
  | applyLateFee invoiceId configId =>
    refine transact_keeps hf fun l' h => ?_
    obtain ⟨_,_,_,_,-,-,rfl⟩ := applyLateFee_ok h
    exact hf.same ⟨rfl,rfl,rfl⟩
  | createRefund userId paymentId amount reason =>
    simp only [Command.valid,decide_eq_true_eq] at hv
    exact transact_keeps hf fun l' h => createRefund_funded hf hv hw h
  | approve refundId approverUserId =>
    refine transact_keeps hf fun l' h => ?_
    obtain ⟨refund,hr,hs,rfl⟩ := approve_ok h
    exact hf.modifyRefund hr rfl rfl (by simp [hs]) (by simp)
  | reject refundId approverUserId comment =>
    refine transact_keeps hf fun l' h => ?_
    obtain ⟨refund,hr,hs,rfl⟩ := reject_ok h
    exact hf.modifyRefund hr rfl rfl (by simp [hs]) (by simp)
  | execute refundId stripeFailure => exact execute_funded now refundId stripeFailure hf

/-- Allocations stay within what is left of the payment, to the cent, and a refund that
pays out fits. -/
def RefundGuard (l : Ledger) (r : Request) : Prop :=
  match r.command with
  | .confirmAllocations paymentId allocs => r.command.valid → Confirmable l paymentId allocs →
      AllocatesWithin l paymentId allocs
  | .execute refundId stripeFailure => RefundFits l refundId stripeFailure
  | _ => True

/-- One request keeps every payment covered precisely when it meets the guard. -/
theorem step_refundsCovered_iff (l : Ledger) (r : Request) (hwc : r.command.WholeCents) (hw : Linked l)
    (hf : Funded l) (hc : RefundsCovered l) : RefundsCovered (step l r) ↔ RefundGuard l r := by
  obtain ⟨now,command⟩ := r
  unfold step serve RefundGuard
  by_cases hv : command.valid = true
  swap
  · rw [if_neg hv]
    refine iff_of_true hc ?_
    cases command <;> first | trivial | exact fun h => absurd h hv
  rw [if_pos hv]
  cases command with
  | createInvoice householdId dueDate lines =>
    refine iff_of_true (transact_keeps hc fun l' h => ?_) trivial
    obtain ⟨invoice,-,-,rfl⟩ := createInvoice_ok h
    exact hc.same ⟨rfl,rfl,rfl⟩
  | issue id approval =>
    exact iff_of_true (transact_keeps hc fun l' h => hc.same (issue_ok h).sameFunds) trivial
  | approvalCallback id =>
    exact iff_of_true (transact_keeps hc fun l' h => hc.same (approvalCallback_ok h).sameFunds) trivial
  | markOverdue cutoffDate id =>
    exact iff_of_true (transact_keeps hc fun l' h => hc.same (markOverdue_ok h).sameFunds) trivial
  | voidInvoice id =>
    exact iff_of_true (transact_keeps hc fun l' h => hc.same (voidInvoice_ok h).sameFunds) trivial
  | cancel id => exact iff_of_true (transact_keeps hc fun l' h => hc.same (cancel_ok h).sameFunds) trivial
  | writeOff id reason =>
    refine iff_of_true (transact_keeps hc fun l' h => ?_) trivial
    obtain ⟨invoice,-,-,rfl⟩ := writeOff_ok_iff.mp h
    exact hc.same ⟨rfl,rfl,rfl⟩
  | createManual householdId paymentMethod amount reason =>
    refine iff_of_true (transact_keeps hc fun l' h => ?_) trivial
    simp only [Command.valid,Bool.and_eq_true,decide_eq_true_eq] at hv
    rw [createManual_ok h]
    exact hc.insertPayment hf (toColumn_nonneg hv.2.le)
  | checkoutCompleted householdId invoiceId amountCents paymentIntentId =>
    exact iff_of_true (transact_keeps hc fun l' h => handleCheckoutCompleted_covered hf hc h) trivial
  | confirmAllocations paymentId allocs =>
    refine (confirmAllocations_covered_iff hf hc hwc).trans ?_
    exact ⟨fun h _ => h,fun h => h hv⟩
  | createCreditNote householdId amount reason =>
    refine iff_of_true (transact_keeps hc fun l' h => ?_) trivial
    obtain ⟨note,rfl⟩ := createCreditNote_ok h
    exact hc.same ⟨rfl,rfl,rfl⟩
  | applyToInvoice creditNoteId invoiceId appliedAmount =>
    refine iff_of_true (transact_keeps hc fun l' h => ?_) trivial
    obtain ⟨_,_,_,_,-,-,rfl⟩ := applyToInvoice_ok h
    exact hc.same ⟨rfl,rfl,rfl⟩
  | createLateFeeConfig config => exact iff_of_true (hc.same ⟨rfl,rfl,rfl⟩) trivial
  | applyLateFee invoiceId configId =>
    refine iff_of_true (transact_keeps hc fun l' h => ?_) trivial
    obtain ⟨_,_,_,_,-,-,rfl⟩ := applyLateFee_ok h
    exact hc.same ⟨rfl,rfl,rfl⟩
  | createRefund userId paymentId amount reason =>
    exact iff_of_true (transact_keeps hc fun l' h => createRefund_covered hc h) trivial
  | approve refundId approverUserId =>
    refine iff_of_true (transact_keeps hc fun l' h => ?_) trivial
    obtain ⟨refund,hr,hs,rfl⟩ := approve_ok h
    exact hc.modifyRefund hr rfl rfl (by simp [hs]) (by simp)
  | reject refundId approverUserId comment =>
    refine iff_of_true (transact_keeps hc fun l' h => ?_) trivial
    obtain ⟨refund,hr,hs,rfl⟩ := reject_ok h
    exact hc.modifyRefund hr rfl rfl (by simp [hs]) (by simp)
  | execute refundId stripeFailure => exact execute_covered_iff now refundId stripeFailure hw hf hc

end

/-- A payment of 100.00, all of it allocated, and two refunds of 50.00. -/
def refundTwice : List Request :=
  [⟨0,.createInvoice 1 0 [⟨"Tuition",1,10000⟩]⟩,⟨0,.issue 0 .notRequired⟩,
   ⟨0,.createManual 1 .cash 10000 none⟩,⟨0,.confirmAllocations 0 [⟨0,10000⟩]⟩,
   ⟨0,.createRefund 1 0 5000 "Overpaid"⟩,⟨0,.approve 0 2⟩,⟨0,.execute 0 none⟩,
   ⟨0,.createRefund 1 0 5000 "Overpaid"⟩,⟨0,.approve 1 2⟩,⟨0,.execute 1 none⟩]

theorem refundTwice_wholeCents : ∀ r ∈ refundTwice, r.command.WholeCents := by
  simp [refundTwice,Command.WholeCents]

end EduPod.Finance
