import EduPod.Finance.InvoiceBalance

/-! # What a payment has allocated and refunded

The unconditional facts about the rows of a payment, and how every request other than
the execution of a refund moves the two sums.
-/
namespace EduPod.Finance
open Fallible

/-- No payment has more allocated and refunded than was paid. -/
def RefundsCovered (l : Ledger) : Prop :=
  ∀ id payment, l.payments.get? id = some payment → l.allocatedFrom id + l.executedOf id ≤ payment.amount

/-- The unconditional facts: rows are positive and belong to a payment, and a payment that
is still posted has no executed refund. -/
structure Funded (l : Ledger) : Prop where
  allocations : l.allocations.All fun a => 0 < a.allocatedAmount ∧ (l.payments.get? a.paymentId).isSome
  refunds : l.refunds.All fun r => 0 < r.amount ∧ (l.payments.get? r.paymentId).isSome
  posted : ∀ id payment, l.payments.get? id = some payment → payment.status = .posted → l.executedOf id = 0

/-- Payments, allocations and refunds are the same. -/
structure SameFunds (l l' : Ledger) : Prop where
  payments : l'.payments = l.payments
  allocations : l'.allocations = l.allocations
  refunds : l'.refunds = l.refunds

/-- Amounts of allocation and refund requests are whole cents. -/
def Command.WholeCents : Command → Prop
  | .confirmAllocations _ allocs => ∀ a ∈ allocs, a.amount.den = 1
  | .createRefund _ _ amount _ => amount.den = 1
  | _ => True

section
variable {l l' : Ledger}

theorem toColumn_of_den {amount : ℚ} (h : amount.den = 1) : (toColumn amount : ℚ) = amount := by
  obtain ⟨z,rfl⟩ : ∃ z : ℤ, (z : ℚ) = amount := ⟨amount.num,(Rat.den_eq_one_iff amount).mp h⟩
  rw [toColumn_intCast]

theorem Funded.same (hf : Funded l) (h : SameFunds l l') : Funded l' := by
  obtain ⟨ha,hr,hp⟩ := hf
  refine ⟨by rw [h.allocations,h.payments]; exact ha,by rw [h.refunds,h.payments]; exact hr,?_⟩
  rw [h.payments]
  intro id payment hi hs
  rw [Ledger.executedOf,Ledger.refundedOf_congr h.refunds]
  exact hp id payment hi hs

theorem RefundsCovered.same (hc : RefundsCovered l) (h : SameFunds l l') : RefundsCovered l' := by
  intro id payment hi
  rw [Ledger.allocatedFrom_congr h.allocations,Ledger.executedOf,Ledger.refundedOf_congr h.refunds]
  exact hc id payment (h.payments ▸ hi)

theorem Funded.executedOf_nonneg (hf : Funded l) (id : ℕ) : 0 ≤ l.executedOf id :=
  Table.sumWhere_nonneg (hf.refunds.mono fun _ h => h.1.le) _

theorem Funded.allocatedFrom_nonneg (hf : Funded l) (id : ℕ) : 0 ≤ l.allocatedFrom id :=
  Table.sumWhere_nonneg (hf.allocations.mono fun _ h => h.1.le) _

theorem Funded.allocatedFrom_eq_zero (hf : Funded l) {id : ℕ} (hid : l.payments.get? id = none) :
    l.allocatedFrom id = 0 := by
  refine Table.sumWhere_eq_zero (hf.allocations.mono fun a ha => ?_) _
  refine decide_eq_false ?_
  rintro rfl
  simp [hid] at ha

theorem Funded.executedOf_eq_zero (hf : Funded l) {id : ℕ} (hid : l.payments.get? id = none) :
    l.executedOf id = 0 := by
  refine Table.sumWhere_eq_zero (hf.refunds.mono fun r hr => ?_) _
  have hne : r.paymentId ≠ id := by
    rintro rfl
    simp [hid] at hr
  simp [hne]

/-! ## New payments -/

theorem Funded.insertPayment (hf : Funded l) (payment : Payment) :
    Funded { l with payments := l.payments.insert payment } := by
  refine ⟨hf.allocations.mono fun _ h => ⟨h.1,Table.isSome_get?_insert h.2 _⟩,
    hf.refunds.mono fun _ h => ⟨h.1,Table.isSome_get?_insert h.2 _⟩,?_⟩
  intro id payment' hi hs
  rw [Table.get?_insert] at hi
  by_cases hid : id = l.payments.next
  · exact hf.executedOf_eq_zero (hid ▸ l.payments.get?_next)
  · rw [if_neg hid] at hi
    exact hf.posted id payment' hi hs

theorem RefundsCovered.insertPayment (hf : Funded l) (hc : RefundsCovered l) {payment : Payment}
    (ha : 0 ≤ payment.amount) : RefundsCovered { l with payments := l.payments.insert payment } := by
  intro id payment' hi
  rw [Table.get?_insert] at hi
  by_cases hid : id = l.payments.next
  · rw [if_pos hid] at hi
    obtain rfl : payment = payment' := Option.some.inj hi
    have hn := hid ▸ l.payments.get?_next
    have hs : l.allocatedFrom id = 0 := hf.allocatedFrom_eq_zero hn
    have he : l.executedOf id = 0 := hf.executedOf_eq_zero hn
    change l.allocatedFrom id + l.executedOf id ≤ _
    omega
  · rw [if_neg hid] at hi
    exact hc id payment' hi

/-! ## New allocations -/

theorem Funded.insertAllocation (hf : Funded l) {a : PaymentAllocation} (ha : 0 < a.allocatedAmount)
    (hp : (l.payments.get? a.paymentId).isSome) :
    Funded { l with allocations := l.allocations.insert a } :=
  ⟨hf.allocations.insert ⟨ha,hp⟩,hf.refunds,hf.posted⟩

theorem allocatedFrom_insert (l : Ledger) (a : PaymentAllocation) (id : ℕ) :
    Ledger.allocatedFrom { l with allocations := l.allocations.insert a } id =
      l.allocatedFrom id + if a.paymentId = id then a.allocatedAmount else 0 := by
  simp [Ledger.allocatedFrom,Table.sumWhere_insert]

theorem RefundsCovered.insertAllocation (hc : RefundsCovered l) {a : PaymentAllocation}
    (h : ∀ payment, l.payments.get? a.paymentId = some payment →
      l.allocatedFrom a.paymentId + l.executedOf a.paymentId + a.allocatedAmount ≤ payment.amount) :
    RefundsCovered { l with allocations := l.allocations.insert a } := by
  intro id payment hi
  rw [allocatedFrom_insert]
  change _ + l.executedOf id ≤ _
  by_cases hid : a.paymentId = id
  · have := h payment (hid ▸ hi)
    rw [hid] at this
    rw [if_pos hid]
    omega
  · have := hc id payment hi
    rw [if_neg hid]
    omega

theorem handleCheckoutCompleted_funded {now : ℤ} {householdId invoiceId : ℕ} {amountCents : ℤ}
    {paymentIntentId : String} (hf : Funded l)
    (h : handleCheckoutCompleted now l householdId invoiceId amountCents paymentIntentId = .ok l') :
    Funded l' := by
  rcases handleCheckoutCompleted_ok h with ⟨-,rfl | ⟨-,rfl⟩⟩ | ⟨hc,invoice,-,hb,h⟩
  · exact hf
  · exact hf.insertPayment _
  · obtain ⟨ha,hp,hr⟩ := recalculateBalance_allocations h
    have hnew := hf.insertPayment (checkoutPayment householdId amountCents paymentIntentId)
    have hall := hnew.insertAllocation
      (a := ⟨l.payments.next,invoiceId,min amountCents invoice.balanceAmount⟩) (lt_min hc.1 hb)
      (by simp [Table.get?_insert])
    exact hall.same ⟨hp,ha,hr⟩

theorem handleCheckoutCompleted_covered {now : ℤ} {householdId invoiceId : ℕ} {amountCents : ℤ}
    {paymentIntentId : String} (hf : Funded l) (hc : RefundsCovered l)
    (h : handleCheckoutCompleted now l householdId invoiceId amountCents paymentIntentId = .ok l') :
    RefundsCovered l' := by
  rcases handleCheckoutCompleted_ok h with ⟨-,rfl | ⟨hpos,rfl⟩⟩ | ⟨hall,invoice,-,-,h⟩
  · exact hc
  · exact hc.insertPayment hf hpos.le
  · obtain ⟨ha,hp,hr⟩ := recalculateBalance_allocations h
    have hnew : RefundsCovered { l with
        payments := l.payments.insert (checkoutPayment householdId amountCents paymentIntentId) } :=
      hc.insertPayment hf hall.1.le
    have hs : l.allocatedFrom l.payments.next = 0 := hf.allocatedFrom_eq_zero l.payments.get?_next
    have he : l.executedOf l.payments.next = 0 := hf.executedOf_eq_zero l.payments.get?_next
    have hcov := hnew.insertAllocation
      (a := ⟨l.payments.next,invoiceId,min amountCents invoice.balanceAmount⟩) fun payment hi => by
        rw [Table.get?_insert,if_pos rfl] at hi
        obtain rfl := Option.some.inj hi
        change l.allocatedFrom l.payments.next + l.executedOf l.payments.next + min _ _ ≤ amountCents
        rw [hs,he]
        simp
    exact hcov.same ⟨hp,ha,hr⟩

/-! ## Confirmed allocations -/

theorem createAllocations_allocatedFrom (paymentId : ℕ) (l : Ledger) (allocs : List AllocationItem) (id : ℕ) :
    (allocs.foldl (createAllocation paymentId) l).allocatedFrom id = l.allocatedFrom id +
      if paymentId = id then (allocs.map (toColumn ·.amount)).sum else 0 := by
  induction allocs generalizing l with
  | nil => simp
  | cons a rest ih =>
    rw [List.foldl_cons,ih,createAllocation,allocatedFrom_insert,List.map_cons,List.sum_cons]
    split <;> ring

theorem roundMoney_sum {allocs : List AllocationItem} (h : ∀ a ∈ allocs, a.amount.den = 1) :
    roundMoney (allocs.map (·.amount)).sum = (allocs.map (toColumn ·.amount)).sum := by
  have hs : (allocs.map (·.amount)).sum = (((allocs.map (toColumn ·.amount)).sum : ℤ) : ℚ) := by
    induction allocs with
    | nil => simp
    | cons a rest ih =>
      obtain ⟨ha,hrest⟩ := List.forall_mem_cons.mp h
      rw [List.map_cons,List.sum_cons,ih hrest,List.map_cons,List.sum_cons,Int.cast_add,toColumn_of_den ha]
  rw [hs,roundMoney_intCast]

theorem toColumn_pos {amount : ℚ} (h : amount.den = 1) (hpos : 0 < amount) : 0 < toColumn amount := by
  rw [← toColumn_of_den h] at hpos
  exact_mod_cast hpos

theorem confirmAllocations_frame {now : ℤ} {paymentId : ℕ} {allocs : List AllocationItem}
    (h : confirmAllocations now l paymentId allocs = .ok l') :
    l'.allocations = (allocs.foldl (createAllocation paymentId) l).allocations ∧
    l'.payments = l.payments ∧ l'.refunds = l.refunds := by
  obtain ⟨ha,hp,hr⟩ := recalculateAll_allocations (confirmAllocations_ok_iff.mp h).2
  obtain ⟨-,hp',hr',-⟩ := createAllocations_frame paymentId l allocs
  exact ⟨ha,hp.trans hp',hr.trans hr'⟩

theorem confirmAllocations_funded {now : ℤ} {paymentId : ℕ} {allocs : List AllocationItem}
    (hf : Funded l) (hpos : ∀ a ∈ allocs, 0 < a.amount) (hw : ∀ a ∈ allocs, a.amount.den = 1)
    (h : confirmAllocations now l paymentId allocs = .ok l') : Funded l' := by
  obtain ⟨ha,hp,hr⟩ := confirmAllocations_frame h
  obtain ⟨payment,hpay,-⟩ := (confirmAllocations_ok_iff.mp h).1
  refine ⟨?_,by rw [hr,hp]; exact hf.refunds,?_⟩
  · rw [ha,hp]
    refine createAllocations_all hf.allocations fun a hm => ⟨toColumn_pos (hw a hm) (hpos a hm),?_⟩
    exact Option.isSome_of_eq_some hpay
  · intro id payment' hi hs
    rw [Ledger.executedOf,Ledger.refundedOf_congr hr]
    exact hf.posted id payment' (hp ▸ hi) hs

/-- The allocated total stays within what is left, without the cent of tolerance. -/
def AllocatesWithin (l : Ledger) (paymentId : ℕ) (allocs : List AllocationItem) : Prop :=
  ∀ payment, l.payments.get? paymentId = some payment →
    roundMoney (allocs.map (·.amount)).sum ≤ payment.amount - l.allocatedFrom paymentId

theorem confirmAllocations_covered_iff {now : ℤ} {paymentId : ℕ} {allocs : List AllocationItem}
    (hf : Funded l) (hc : RefundsCovered l) (hw : ∀ a ∈ allocs, a.amount.den = 1) :
    RefundsCovered (transact l (confirmAllocations now l paymentId allocs)).1 ↔
      (Confirmable l paymentId allocs → AllocatesWithin l paymentId allocs) := by
  refine transact_iff hc ?_ ?_
  · intro l' h
    obtain ⟨ha,hp,hr⟩ := confirmAllocations_frame h
    obtain ⟨payment,hpay,hs,-,-⟩ := (confirmAllocations_ok_iff.mp h).1
    have he : ∀ id, l'.executedOf id = l.executedOf id := fun id => Ledger.refundedOf_congr hr
    have hz := hf.posted paymentId payment hpay hs
    simp only [RefundsCovered,hp,he,Ledger.allocatedFrom_congr ha,createAllocations_allocatedFrom]
    constructor
    · intro h' _ payment' hpay'
      have := h' paymentId payment' hpay'
      rw [if_pos rfl,hz,← roundMoney_sum hw] at this
      omega
    · intro hg id payment' hi
      have hold := hc id payment' hi
      split
      · rename_i hid
        subst hid
        have := hg (confirmAllocations_ok_iff.mp h).1 payment' hi
        rw [roundMoney_sum hw] at this
        omega
      · omega
  · intro herr hcf
    obtain ⟨l',h⟩ := hcf.exists_ok now
    exact absurd h (herr l')

/-! ## Refund rows -/

theorem createRefund_funded {userId paymentId : ℕ} {amount : ℚ} {reason : String} (hf : Funded l)
    (hpos : 0 < amount) (hw : amount.den = 1)
    (h : createRefund l userId paymentId amount reason = .ok l') : Funded l' := by
  obtain ⟨payment,hpay,-,-,rfl⟩ := createRefund_ok h
  refine ⟨hf.allocations,hf.refunds.insert ⟨toColumn_pos hw hpos,Option.isSome_of_eq_some hpay⟩,?_⟩
  intro id payment' hi hs
  have := hf.posted id payment' hi hs
  rw [Ledger.executedOf,Ledger.refundedOf] at this ⊢
  rw [Table.sumWhere_insert,this]
  simp

theorem createRefund_covered {userId paymentId : ℕ} {amount : ℚ} {reason : String} (hc : RefundsCovered l)
    (h : createRefund l userId paymentId amount reason = .ok l') : RefundsCovered l' := by
  obtain ⟨payment,-,-,-,rfl⟩ := createRefund_ok h
  intro id payment' hi
  have := hc id payment' hi
  change l.allocatedFrom id + _ ≤ _
  rw [Ledger.executedOf,Ledger.refundedOf] at this ⊢
  rw [Table.sumWhere_insert]
  simpa using this

theorem executedOf_modify {refundId : ℕ} {refund : Refund} (hr : l.refunds.get? refundId = some refund)
    {g : Refund → Refund} (hp : (g refund).paymentId = refund.paymentId)
    (ha : (g refund).amount = refund.amount) (hl : l'.refunds = l.refunds.modify refundId g) (id : ℕ) :
    l'.executedOf id = l.executedOf id -
      (if refund.paymentId = id ∧ refund.status = .executed then refund.amount else 0) +
      (if refund.paymentId = id ∧ (g refund).status = .executed then refund.amount else 0) := by
  rw [Ledger.executedOf,Ledger.refundedOf,hl,Table.sumWhere_modify hr]
  simp [hp,ha,Ledger.executedOf,Ledger.refundedOf]

/-- A refund row changes without being or becoming executed. -/
theorem Funded.modifyRefund (hf : Funded l) {refundId : ℕ} {refund : Refund}
    (hr : l.refunds.get? refundId = some refund) {g : Refund → Refund}
    (hp : (g refund).paymentId = refund.paymentId) (ha : (g refund).amount = refund.amount)
    (hs : refund.status ≠ .executed) (hs' : (g refund).status ≠ .executed) :
    Funded { l with refunds := l.refunds.modify refundId g } := by
  refine ⟨hf.allocations,hf.refunds.modify fun r hr' => ?_,?_⟩
  · obtain rfl : refund = r := Option.some.inj (hr.symm.trans hr')
    rw [ha,hp]
    exact hf.refunds.get? hr
  · intro id payment hi hst
    rw [executedOf_modify hr hp ha rfl]
    simpa [hs,hs'] using hf.posted id payment hi hst

theorem RefundsCovered.modifyRefund (hc : RefundsCovered l) {refundId : ℕ} {refund : Refund}
    (hr : l.refunds.get? refundId = some refund) {g : Refund → Refund}
    (hp : (g refund).paymentId = refund.paymentId) (ha : (g refund).amount = refund.amount)
    (hs : refund.status ≠ .executed) (hs' : (g refund).status ≠ .executed) :
    RefundsCovered { l with refunds := l.refunds.modify refundId g } := by
  intro id payment hi
  change l.allocatedFrom id + _ ≤ _
  rw [executedOf_modify hr hp ha rfl]
  simpa [hs,hs'] using hc id payment hi

end

end EduPod.Finance
