import EduPod.Finance.Invoices

/-! # What a recomputed balance is made of

`Rebalanced l l' T` says that the invoices in `T` had their balance recomputed and
nothing else moved. Every service that goes through `recalculateBalance` is an
instance, whatever its loop looks like.
-/
namespace EduPod.Finance
open Fallible

/-- All that `recalculateBalance` does. -/
theorem recalculateBalance_ok {now : ℤ} {l l' : Ledger} {id : ℕ}
    (h : recalculateBalance now l id = .ok l') : ∃ invoice balance, l.invoices.get? id = some invoice ∧
      balance = invoice.totalAmount - l.allocatedTo id - invoice.writeOffAmount.getD 0 ∧
      l' = { l with invoices := l.invoices.modify id fun i =>
        { i with balanceAmount := balance,
                 status := deriveInvoiceStatus invoice.status balance invoice.totalAmount invoice.dueDate now
                   (some (invoice.writeOffAmount.getD 0)) } } := by
  simp only [recalculateBalance,require_bind_eq_ok,pure_eq_ok,roundMoney_intCast] at h
  obtain ⟨invoice,hi,rfl⟩ := h
  exact ⟨invoice,_,hi,rfl,rfl⟩

/-- The allocations of the invoices outside `T` are untouched, and so is everything
an invoice balance is compared with. -/
structure SameOutside (l l' : Ledger) (T : List ℕ) : Prop where
  invoices : l'.invoices = l.invoices
  credits : l'.creditNoteApplications = l.creditNoteApplications
  allocated : ∀ id ∉ T, l'.allocatedTo id = l.allocatedTo id

structure Rebalanced (l l' : Ledger) (T : List ℕ) : Prop where
  credits : l'.creditNoteApplications = l.creditNoteApplications
  next : l'.invoices.next = l.invoices.next
  kept : ∀ id ∉ T, l'.invoices.get? id = l.invoices.get? id ∧ l'.allocatedTo id = l.allocatedTo id
  recomputed : ∀ id ∈ T, ∃ invoice invoice', l.invoices.get? id = some invoice ∧
    l'.invoices.get? id = some invoice' ∧ invoice'.totalAmount = invoice.totalAmount ∧
    invoice'.writeOffAmount = invoice.writeOffAmount ∧
    invoice'.status.closed = invoice.status.closed ∧
    invoice'.balanceAmount = invoice.totalAmount - l'.allocatedTo id - invoice.writeOffAmount.getD 0

theorem Rebalanced.refl (l : Ledger) : Rebalanced l l [] :=
  ⟨rfl,rfl,fun _ _ => ⟨rfl,rfl⟩,fun _ hid => absurd hid List.not_mem_nil⟩

theorem Rebalanced.trans {l l' l'' : Ledger} {T T' : List ℕ} (h : Rebalanced l l' T)
    (h' : Rebalanced l' l'' T') : Rebalanced l l'' (T ++ T') := by
  refine ⟨h'.credits.trans h.credits,h'.next.trans h.next,?_,?_⟩
  · intro id hid
    simp only [List.mem_append,not_or] at hid
    obtain ⟨hT,hT'⟩ := hid
    obtain ⟨hi,ha⟩ := h.kept id hT
    obtain ⟨hi',ha'⟩ := h'.kept id hT'
    exact ⟨hi'.trans hi,ha'.trans ha⟩
  · intro id hid
    by_cases hT' : id ∈ T'
    · obtain ⟨mid,invoice'',hm,hi'',htot',hw',hc',hb'⟩ := h'.recomputed id hT'
      by_cases hT : id ∈ T
      · obtain ⟨invoice,mid',hi,hm',htot,hw,hc,-⟩ := h.recomputed id hT
        obtain rfl : mid' = mid := Option.some.inj (hm'.symm.trans hm)
        exact ⟨invoice,invoice'',hi,hi'',htot'.trans htot,hw'.trans hw,hc'.trans hc,by rw [hb',htot,hw]⟩
      · obtain ⟨hi,-⟩ := h.kept id hT
        exact ⟨mid,invoice'',hi ▸ hm,hi'',htot',hw',hc',hb'⟩
    · have hT : id ∈ T := (List.mem_append.mp hid).resolve_right hT'
      obtain ⟨invoice,invoice',hi,hi',htot,hw,hc,hb⟩ := h.recomputed id hT
      obtain ⟨hk,ha⟩ := h'.kept id hT'
      exact ⟨invoice,invoice',hi,hk.trans hi',htot,hw,hc,by rw [hb,ha]⟩

theorem Rebalanced.of_sameOutside {l l' l'' : Ledger} {T : List ℕ} (h' : Rebalanced l' l'' T)
    (h : SameOutside l l' T) : Rebalanced l l'' T := by
  refine ⟨h'.credits.trans h.credits,by rw [h'.next,h.invoices],?_,?_⟩
  · intro id hid
    obtain ⟨hi,ha⟩ := h'.kept id hid
    exact ⟨by rw [hi,h.invoices],by rw [ha,h.allocated id hid]⟩
  · intro id hid
    obtain ⟨invoice,invoice',hi,hrest⟩ := h'.recomputed id hid
    exact ⟨invoice,invoice',by rw [← h.invoices,hi],hrest⟩

theorem recalculateBalance_rebalanced {now : ℤ} {l l' : Ledger} {id : ℕ}
    (h : recalculateBalance now l id = .ok l') : Rebalanced l l' [id] := by
  obtain ⟨invoice,balance,hi,hb,rfl⟩ := recalculateBalance_ok h
  refine ⟨rfl,rfl,?_,?_⟩
  · intro j hj
    have hne : j ≠ id := by simpa using hj
    exact ⟨Table.get?_modify_ne _ hne _,rfl⟩
  · intro j hj
    obtain rfl : j = id := by simpa using hj
    exact ⟨invoice,_,hi,Table.get?_modify_self hi _,rfl,rfl,deriveInvoiceStatus_closed ..,hb⟩

/-- Recomputing neither adds nor removes an invoice. -/
theorem Rebalanced.isSome_get? {l l' : Ledger} {T : List ℕ} (h : Rebalanced l l' T) (id : ℕ) :
    (l'.invoices.get? id).isSome = (l.invoices.get? id).isSome := by
  by_cases hid : id ∈ T
  · obtain ⟨_,_,hi,hi',-⟩ := h.recomputed id hid
    rw [hi,hi']
    rfl
  · rw [(h.kept id hid).1]

theorem recalculateBalance_exists (now : ℤ) {l : Ledger} {id : ℕ} (h : (l.invoices.get? id).isSome) :
    ∃ l', recalculateBalance now l id = .ok l' := by
  obtain ⟨invoice,hi⟩ := Option.isSome_iff_exists.mp h
  simp only [recalculateBalance,require_bind_eq_ok,pure_eq_ok]
  exact ⟨_,invoice,hi,rfl⟩

/-! ## The payment services -/

theorem createAllocations_allocatedTo (paymentId : ℕ) (l : Ledger) (allocs : List AllocationItem) (id : ℕ)
    (hid : id ∉ allocs.map (·.invoiceId)) :
    (allocs.foldl (createAllocation paymentId) l).allocatedTo id = l.allocatedTo id := by
  induction allocs generalizing l with
  | nil => rfl
  | cons a rest ih =>
    simp only [List.map_cons,List.mem_cons,not_or] at hid
    rw [List.foldl_cons,ih _ hid.2]
    simp [Ledger.allocatedTo,createAllocation,Table.sumWhere_insert,Ne.symm hid.1]

theorem createAllocations_frame (paymentId : ℕ) (l : Ledger) (allocs : List AllocationItem) :
    (allocs.foldl (createAllocation paymentId) l).invoices = l.invoices ∧
    (allocs.foldl (createAllocation paymentId) l).payments = l.payments ∧
    (allocs.foldl (createAllocation paymentId) l).refunds = l.refunds ∧
    (allocs.foldl (createAllocation paymentId) l).creditNoteApplications = l.creditNoteApplications := by
  induction allocs generalizing l with
  | nil => exact ⟨rfl,rfl,rfl,rfl⟩
  | cons a rest ih => simpa [createAllocation] using ih (createAllocation paymentId l a)

/-- Recomputing one invoice after the other: a relation that composes and holds of every single
recomputation holds of the whole loop. -/
theorem recalculateAll_relates {R : Ledger → Ledger → List ℕ → Prop} {now : ℤ} (hrefl : ∀ l, R l l [])
    (htrans : ∀ {l l' l'' T T'}, R l l' T → R l' l'' T' → R l l'' (T ++ T'))
    (hone : ∀ {l l' id}, recalculateBalance now l id = .ok l' → R l l' [id])
    {l l' : Ledger} {allocs : List AllocationItem}
    (h : allocs.foldlM (fun l a => recalculateBalance now l a.invoiceId) l = .ok l') :
    R l l' (allocs.map (·.invoiceId)) := by
  induction allocs generalizing l with
  | nil =>
    obtain rfl : l = l' := by simpa using h
    exact hrefl l
  | cons a rest ih =>
    rw [List.foldlM_cons,bind_eq_ok] at h
    obtain ⟨mid,hm,h⟩ := h
    exact htrans (hone hm) (ih h)

theorem recalculateAll_rebalanced {now : ℤ} {l l' : Ledger} {allocs : List AllocationItem}
    (h : allocs.foldlM (fun l a => recalculateBalance now l a.invoiceId) l = .ok l') :
    Rebalanced l l' (allocs.map (·.invoiceId)) :=
  recalculateAll_relates .refl .trans recalculateBalance_rebalanced h

theorem recalculateAll_exists (now : ℤ) {l : Ledger} {allocs : List AllocationItem}
    (h : ∀ a ∈ allocs, (l.invoices.get? a.invoiceId).isSome) :
    ∃ l', allocs.foldlM (fun l a => recalculateBalance now l a.invoiceId) l = .ok l' := by
  have hturn : ∀ m : Ledger, (∀ a ∈ allocs, (m.invoices.get? a.invoiceId).isSome) → ∀ a ∈ allocs, ∃ m',
      recalculateBalance now m a.invoiceId = .ok m' ∧
        ∀ a ∈ allocs, (m'.invoices.get? a.invoiceId).isSome := by
    intro m hm a ha
    obtain ⟨m',hm'⟩ := recalculateBalance_exists now (hm a ha)
    refine ⟨m',hm',?_⟩
    intro b hb
    rw [(recalculateBalance_rebalanced hm').isSome_get?]
    exact hm b hb
  obtain ⟨l',hl',-⟩ := foldlM_exists_ok hturn h
  exact ⟨l',hl'⟩

/-- The checks of `confirmAllocations`. -/
def Confirmable (l : Ledger) (paymentId : ℕ) (allocs : List AllocationItem) : Prop :=
  ∃ payment, l.payments.get? paymentId = some payment ∧ payment.status = .posted ∧
    roundMoney (allocs.map (·.amount)).sum ≤ payment.amount - l.allocatedFrom paymentId + 1 ∧
    ∀ a ∈ allocs, checkAllocation l payment a = .ok ()

theorem confirmAllocations_ok_iff {now : ℤ} {l l' : Ledger} {paymentId : ℕ}
    {allocs : List AllocationItem} : confirmAllocations now l paymentId allocs = .ok l' ↔
      Confirmable l paymentId allocs ∧ allocs.foldlM (fun l a => recalculateBalance now l a.invoiceId)
        (allocs.foldl (createAllocation paymentId) l) = .ok l' := by
  simp only [confirmAllocations,require_bind_eq_ok,ensure_bind_eq_ok,roundMoney_intCast,Confirmable]
  constructor
  · rintro ⟨payment,hp,hs,hle,h⟩
    obtain ⟨⟨⟩,hc,h⟩ := bind_eq_ok.mp h
    exact ⟨⟨payment,hp,hs,not_lt.mp hle,forM_eq_ok.mp hc⟩,h⟩
  · rintro ⟨⟨payment,hp,hs,hle,hc⟩,h⟩
    exact ⟨payment,hp,hs,not_lt.mpr hle,bind_eq_ok.mpr ⟨⟨⟩,forM_eq_ok.mpr hc,h⟩⟩

theorem checkAllocation_ok {l : Ledger} {payment : Payment} {a : AllocationItem}
    (h : checkAllocation l payment a = .ok ()) : ∃ invoice, l.invoices.get? a.invoiceId = some invoice ∧
      invoice.householdId = payment.householdId ∧ roundMoney a.amount ≤ invoice.balanceAmount + 1 := by
  simp only [checkAllocation,require_bind_eq_ok,ensure_bind_eq_ok,ensure_eq_ok] at h
  obtain ⟨invoice,hi,hh,hle⟩ := h
  exact ⟨invoice,hi,hh,not_lt.mp hle⟩

theorem Confirmable.isSome_get? {l : Ledger} {paymentId : ℕ} {allocs : List AllocationItem}
    (h : Confirmable l paymentId allocs) : ∀ a ∈ allocs, (l.invoices.get? a.invoiceId).isSome := by
  obtain ⟨_,_,_,_,hc⟩ := h
  intro a ha
  obtain ⟨_,hi,-⟩ := checkAllocation_ok (hc a ha)
  exact Option.isSome_of_eq_some hi

/-- Once its checks pass, `confirmAllocations` goes through. -/
theorem Confirmable.exists_ok (now : ℤ) {l : Ledger} {paymentId : ℕ} {allocs : List AllocationItem}
    (h : Confirmable l paymentId allocs) : ∃ l', confirmAllocations now l paymentId allocs = .ok l' := by
  obtain ⟨hi,-⟩ := createAllocations_frame paymentId l allocs
  obtain ⟨l',hl'⟩ := recalculateAll_exists now (l := allocs.foldl (createAllocation paymentId) l)
    (by rw [hi]; exact h.isSome_get?)
  exact ⟨l',confirmAllocations_ok_iff.mpr ⟨h,hl'⟩⟩

theorem confirmAllocations_rebalanced {now : ℤ} {l l' : Ledger} {paymentId : ℕ}
    {allocs : List AllocationItem} (h : confirmAllocations now l paymentId allocs = .ok l') :
    Rebalanced l l' (allocs.map (·.invoiceId)) := by
  obtain ⟨-,h⟩ := confirmAllocations_ok_iff.mp h
  obtain ⟨hi,-,-,hc⟩ := createAllocations_frame paymentId l allocs
  exact (recalculateAll_rebalanced h).of_sameOutside
    ⟨hi,hc,fun id hid => createAllocations_allocatedTo paymentId l allocs id hid⟩

/-! ## The reversal of a refund -/

/-- The allocations a reversal gets to before the amount is used up. -/
@[grind] def reached : ℤ → List (ℕ × PaymentAllocation) → List (ℕ × PaymentAllocation)
  | _, [] => []
  | remaining, a :: rest =>
    if remaining ≤ 0 then [] else a :: reached (remaining - a.2.allocatedAmount) rest

theorem reached_of_nonpos {remaining : ℤ} (h : remaining ≤ 0) (rows : List (ℕ × PaymentAllocation)) :
    reached remaining rows = [] := by
  cases rows <;> simp [reached,h]

/-- Stopping short of an allocation's end and going past it stop the walk alike. -/
theorem reached_min (remaining amount : ℤ) (rows : List (ℕ × PaymentAllocation)) :
    reached (remaining - min remaining amount) rows = reached (remaining - amount) rows := by
  rcases le_total remaining amount with h | h
  · rw [min_eq_left h,reached_of_nonpos (by omega),reached_of_nonpos (by omega)]
  · rw [min_eq_right h]

theorem reverseAllocation_allocatedTo {l : Ledger} {id : ℕ} {a : PaymentAllocation}
    (ha : l.allocations.get? id = some a) (allocAmount reverseAmount : ℤ) {j : ℕ} (hj : j ≠ a.invoiceId) :
    (reverseAllocation l id allocAmount reverseAmount).allocatedTo j = l.allocatedTo j := by
  unfold reverseAllocation Ledger.allocatedTo
  split
  · simp [Table.sumWhere_erase ha,Ne.symm hj]
  · simp [Table.sumWhere_modify ha,Ne.symm hj]

theorem reverseAllocation_frame (l : Ledger) (id : ℕ) (allocAmount reverseAmount : ℤ) :
    (reverseAllocation l id allocAmount reverseAmount).invoices = l.invoices ∧
    (reverseAllocation l id allocAmount reverseAmount).payments = l.payments ∧
    (reverseAllocation l id allocAmount reverseAmount).refunds = l.refunds ∧
    (reverseAllocation l id allocAmount reverseAmount).creditNoteApplications =
      l.creditNoteApplications := by
  unfold reverseAllocation
  split <;> exact ⟨rfl,rfl,rfl,rfl⟩

/-- Reversing one allocation leaves the other rows alone. -/
theorem reverseAllocation_get? (l : Ledger) {id j : ℕ} (hj : j ≠ id) (allocAmount reverseAmount : ℤ) :
    (reverseAllocation l id allocAmount reverseAmount).allocations.get? j = l.allocations.get? j := by
  unfold reverseAllocation
  split
  · simp [Table.get?_erase,hj]
  · simp [Table.get?_modify,hj]

theorem recalculateBalance_allocations {now : ℤ} {l l' : Ledger} {id : ℕ}
    (h : recalculateBalance now l id = .ok l') : l'.allocations = l.allocations ∧
      l'.payments = l.payments ∧ l'.refunds = l.refunds := by
  obtain ⟨_,_,_,_,rfl⟩ := recalculateBalance_ok h
  exact ⟨rfl,rfl,rfl⟩

theorem recalculateAll_allocations {now : ℤ} {l l' : Ledger} {allocs : List AllocationItem}
    (h : allocs.foldlM (fun l a => recalculateBalance now l a.invoiceId) l = .ok l') :
    l'.allocations = l.allocations ∧ l'.payments = l.payments ∧ l'.refunds = l.refunds := by
  induction allocs generalizing l with
  | nil =>
    obtain rfl : l = l' := by simpa using h
    exact ⟨rfl,rfl,rfl⟩
  | cons a rest ih =>
    rw [List.foldlM_cons,bind_eq_ok] at h
    obtain ⟨mid,hm,h⟩ := h
    obtain ⟨ha,hp,hf⟩ := recalculateBalance_allocations hm
    obtain ⟨iha,ihp,ihf⟩ := ih h
    exact ⟨iha.trans ha,ihp.trans hp,ihf.trans hf⟩

/-- The rows still to be visited are stored rows, each once. -/
def Stored (l : Ledger) (rows : List (ℕ × PaymentAllocation)) : Prop :=
  (rows.map Prod.fst).Nodup ∧ ∀ r ∈ rows, l.allocations.get? r.1 = some r.2

theorem stored_lifoAllocations (l : Ledger) (paymentId : ℕ) : Stored l (lifoAllocations l paymentId) := by
  constructor
  · rw [lifoAllocations,List.map_reverse]
    exact List.nodup_reverse.mpr ((List.filter_sublist.map Prod.fst).nodup l.allocations.nodup)
  · intro r hr
    exact Table.get?_of_mem (List.mem_filter.mp (List.mem_reverse.mp hr)).1

/-- One turn of the reversal loop hands the rest of the rows on. -/
theorem Stored.turn {now : ℤ} {l l' : Ledger} {a : ℕ × PaymentAllocation}
    {rest : List (ℕ × PaymentAllocation)} (hs : Stored l (a :: rest)) {allocAmount reverseAmount : ℤ}
    {id : ℕ} (h : recalculateBalance now (reverseAllocation l a.1 allocAmount reverseAmount) id = .ok l') :
    Stored l' rest := by
  obtain ⟨hn,hm⟩ := hs
  rw [List.map_cons,List.nodup_cons] at hn
  refine ⟨hn.2,?_⟩
  intro r hr
  have hne : r.1 ≠ a.1 := fun he => hn.1 (he ▸ List.mem_map.mpr ⟨r,hr,rfl⟩)
  rw [(recalculateBalance_allocations h).1,reverseAllocation_get? l hne]
  exact hm r (List.mem_cons_of_mem _ hr)

/-- The reversal loop: a relation that composes and holds of every turn holds of the whole walk,
for the invoices of the rows it gets to. -/
theorem reverseLoop_relates {R : Ledger → Ledger → List ℕ → Prop} {now : ℤ} (hrefl : ∀ l, R l l [])
    (htrans : ∀ {l l' l'' T T'}, R l l' T → R l' l'' T' → R l l'' (T ++ T'))
    (hturn : ∀ {l l' : Ledger} {a : ℕ × PaymentAllocation} {reverseAmount : ℤ},
      l.allocations.get? a.1 = some a.2 →
      recalculateBalance now (reverseAllocation l a.1 a.2.allocatedAmount reverseAmount) a.2.invoiceId = .ok l' →
      R l l' [a.2.invoiceId])
    {l l' : Ledger} {remaining : ℤ} {rows : List (ℕ × PaymentAllocation)} (hs : Stored l rows)
    (h : reverseLoop now l remaining rows = .ok l') : R l l' ((reached remaining rows).map (·.2.invoiceId)) := by
  induction rows generalizing l remaining with
  | nil =>
    obtain rfl : l = l' := by simpa [reverseLoop] using h
    exact hrefl l
  | cons a rest ih =>
    simp only [reverseLoop] at h
    by_cases hr : remaining ≤ 0
    · rw [if_pos hr] at h
      obtain rfl : l = l' := by simpa using h
      simpa [reached,hr] using hrefl l
    · rw [if_neg hr,bind_eq_ok] at h
      obtain ⟨mid,hm,h⟩ := h
      rw [roundMoney_intCast,roundMoney_intCast] at h
      have hrest := ih (hs.turn hm) h
      rw [reached_min] at hrest
      simpa [reached,hr] using htrans (hturn (hs.2 a List.mem_cons_self) hm) hrest

theorem reverseLoop_rebalanced {now : ℤ} {l l' : Ledger} {remaining : ℤ}
    {rows : List (ℕ × PaymentAllocation)} (hs : Stored l rows)
    (h : reverseLoop now l remaining rows = .ok l') :
    Rebalanced l l' ((reached remaining rows).map (·.2.invoiceId)) := by
  refine reverseLoop_relates .refl .trans ?_ hs h
  intro l l' a reverseAmount ha hm
  obtain ⟨hi,-,-,hc⟩ := reverseAllocation_frame l a.1 a.2.allocatedAmount reverseAmount
  apply (recalculateBalance_rebalanced hm).of_sameOutside
  exact ⟨hi,hc,fun id hid => reverseAllocation_allocatedTo ha _ _ (by simpa using hid)⟩

/-- The reversal touches neither payments nor refunds. -/
theorem reverseLoop_frame {now : ℤ} {l l' : Ledger} {remaining : ℤ} {rows : List (ℕ × PaymentAllocation)}
    (h : reverseLoop now l remaining rows = .ok l') :
    l'.payments = l.payments ∧ l'.refunds = l.refunds := by
  induction rows generalizing l remaining with
  | nil =>
    obtain rfl : l = l' := by simpa [reverseLoop] using h
    exact ⟨rfl,rfl⟩
  | cons a rest ih =>
    simp only [reverseLoop] at h
    by_cases hr : remaining ≤ 0
    · rw [if_pos hr] at h
      obtain rfl : l = l' := by simpa using h
      exact ⟨rfl,rfl⟩
    · rw [if_neg hr] at h
      obtain ⟨mid,hm,h⟩ := bind_eq_ok.mp h
      obtain ⟨-,hp,hf⟩ := recalculateBalance_allocations hm
      obtain ⟨-,hp',hf',-⟩ := reverseAllocation_frame l a.1 a.2.allocatedAmount
        (roundMoney (min remaining a.2.allocatedAmount : ℤ))
      obtain ⟨ihp,ihf⟩ := ih h
      exact ⟨ihp.trans (hp.trans hp'),ihf.trans (hf.trans hf')⟩

theorem reverseLoop_exists (now : ℤ) {l : Ledger} (remaining : ℤ) {rows : List (ℕ × PaymentAllocation)}
    (h : ∀ r ∈ rows, (l.invoices.get? r.2.invoiceId).isSome) :
    ∃ l', reverseLoop now l remaining rows = .ok l' := by
  induction rows generalizing l remaining with
  | nil => exact ⟨l,rfl⟩
  | cons a rest ih =>
    simp only [reverseLoop]
    by_cases hr : remaining ≤ 0
    · exact ⟨l,if_pos hr⟩
    · rw [if_neg hr]
      simp only [bind_eq_ok]
      obtain ⟨hi,-⟩ := reverseAllocation_frame l a.1 a.2.allocatedAmount
        (roundMoney (min remaining a.2.allocatedAmount : ℤ))
      have ha : ((reverseAllocation l a.1 a.2.allocatedAmount
          (roundMoney (min remaining a.2.allocatedAmount : ℤ))).invoices.get? a.2.invoiceId).isSome := by
        rw [hi]
        exact h a List.mem_cons_self
      obtain ⟨mid,hm⟩ := recalculateBalance_exists now ha
      obtain ⟨l',hl'⟩ := ih (l := mid) _ fun r hr => by
        rw [(recalculateBalance_rebalanced hm).isSome_get?,hi]
        exact h r (List.mem_cons_of_mem _ hr)
      exact ⟨l',mid,hm,hl'⟩

/-! ## Properties of single allocation rows -/

/-- A row property that survives a smaller positive amount. -/
def Shrinks (P : PaymentAllocation → Prop) : Prop :=
  ∀ a x, 0 < x → P a → P { a with allocatedAmount := x }

theorem createAllocations_all {P : PaymentAllocation → Prop} {paymentId : ℕ} {l : Ledger}
    {allocs : List AllocationItem} (h : l.allocations.All P)
    (hnew : ∀ a ∈ allocs, P { paymentId, invoiceId := a.invoiceId, allocatedAmount := toColumn a.amount }) :
    (allocs.foldl (createAllocation paymentId) l).allocations.All P := by
  induction allocs generalizing l with
  | nil => exact h
  | cons a rest ih =>
    rw [List.forall_mem_cons] at hnew
    exact ih (h.insert hnew.1) hnew.2

theorem reverseAllocation_all {P : PaymentAllocation → Prop} (hP : Shrinks P) {l : Ledger}
    (h : l.allocations.All P) (id : ℕ) (allocAmount reverseAmount : ℤ) :
    (reverseAllocation l id allocAmount reverseAmount).allocations.All P := by
  unfold reverseAllocation
  split
  · exact h.erase id
  · refine h.modify fun a ha => hP a _ ?_ (h.get? ha)
    rw [roundMoney_intCast]
    omega

theorem reverseLoop_all {P : PaymentAllocation → Prop} (hP : Shrinks P) {now : ℤ} {l l' : Ledger}
    {remaining : ℤ} {rows : List (ℕ × PaymentAllocation)} (h : reverseLoop now l remaining rows = .ok l')
    (hl : l.allocations.All P) : l'.allocations.All P := by
  induction rows generalizing l remaining with
  | nil =>
    obtain rfl : l = l' := by simpa [reverseLoop] using h
    exact hl
  | cons a rest ih =>
    simp only [reverseLoop] at h
    by_cases hr : remaining ≤ 0
    · rw [if_pos hr] at h
      obtain rfl : l = l' := by simpa using h
      exact hl
    · rw [if_neg hr] at h
      obtain ⟨mid,hm,h⟩ := bind_eq_ok.mp h
      refine ih h ?_
      rw [(recalculateBalance_allocations hm).1]
      exact reverseAllocation_all hP hl _ _ _

end EduPod.Finance
