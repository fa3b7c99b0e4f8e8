import EduPod.Foundation.TableBulk
import EduPod.Finance.Commands
import EduPod.Finance.StatusChanges

/-! # Overdue detection

The daily job marks the past-due invoices that it has not marked before, whatever their balance.
Whether every past-due invoice with a balance left is overdue after a run, and no paid one is,
depends on the notices that the invoices carry when it starts.
-/
namespace EduPod.Finance
open Fallible Runs InvoiceStatus

/-- The invoices the job finds. -/
def Invoice.pastDue (cutoffDate : ℤ) (i : Invoice) : Bool :=
  i.status ∈ [issued,partiallyPaid] && i.dueDate < cutoffDate && i.lastOverdueNotifiedAt = none

def Invoice.markOverdue (now : ℤ) (i : Invoice) : Invoice :=
  { i with status := .overdue, lastOverdueNotifiedAt := some now }

/-- The job updates one invoice after the other. -/
def detectOverdue (cutoffDate now : ℤ) (l : Ledger) : Ledger :=
  let found := l.invoices.select (·.pastDue cutoffDate)
  { l with invoices := found.foldl (fun invoices q => invoices.modify q.1 (·.markOverdue now)) l.invoices }

def Command.ofJob : Command → Bool
  | .markOverdue .. => true
  | _ => false

/-- A request of a client: marking invoices is left to the job. -/
structure ClientRequest where
  request : Request
  ofClient : request.command.ofJob = false

inductive DailyEvent
  | serve (r : ClientRequest)
  | detectOverdue (asOfDate : Option ℤ) (now : ℤ)

def DailyEvent.now : DailyEvent → ℤ
  | .serve r => r.request.now
  | .detectOverdue _ now => now

def dailyStep (l : Ledger) : DailyEvent → Ledger
  | .serve r => step l r.request
  | .detectOverdue asOfDate now => detectOverdue (asOfDate.getD now) now l

/-- Every invoice in force with a balance left past its due date is overdue, and no paid one is. -/
def OverdueMarked (cutoffDate : ℤ) (l : Ledger) : Prop := ∀ id i, l.invoices.get? id = some i →
  (i.status ∉ [void,cancelled,draft,pendingApproval,writtenOff] → 0 < i.balanceAmount → i.dueDate < cutoffDate →
    i.status = overdue) ∧ (i.balanceAmount ≤ 0 → i.status ≠ overdue)

def MarksOverdue (l : Ledger) (e : DailyEvent) : Prop :=
  ∀ asOfDate now, e = .detectOverdue asOfDate now → OverdueMarked (asOfDate.getD now) (dailyStep l e)

/-- Of the issued or partially paid invoices past their due date, those with a balance left are those
that carry no notice. -/
def NoticesFit (cutoffDate : ℤ) (l : Ledger) : Prop := ∀ id i, l.invoices.get? id = some i →
  i.status ∈ [issued,partiallyPaid] → i.dueDate < cutoffDate → (0 < i.balanceAmount ↔ i.lastOverdueNotifiedAt = none)

def FindsNoticesFit (l : Ledger) (e : DailyEvent) : Prop :=
  ∀ asOfDate now, e = .detectOverdue asOfDate now → NoticesFit (asOfDate.getD now) l

/-- What an invoice's status says of its balance. -/
structure Invoice.Fits (i : Invoice) : Prop where
  total : 0 ≤ i.totalAmount
  paid : i.status = paid → i.balanceAmount ≤ 0
  overdue : i.status = overdue → 0 < i.balanceAmount

structure Ledger.Fits (l : Ledger) : Prop where
  invoices : l.invoices.All Invoice.Fits
  fees : l.lateFeeConfigs.All fun c => 0 ≤ c.value

section
variable {now : ℤ} {l l' : Ledger}

/-! ## Requests -/

theorem Ledger.Fits.of_frame (h : l.Fits) (hi : l'.invoices = l.invoices) (hc : l'.lateFeeConfigs = l.lateFeeConfigs) :
    l'.Fits := ⟨by rw [hi]; exact h.invoices,by rw [hc]; exact h.fees⟩

/-- A status that says nothing of the balance. -/
theorem Invoice.Fits.of_other {i : Invoice} (ht : 0 ≤ i.totalAmount) (hp : i.status ≠ .paid) (ho : i.status ≠ .overdue) :
    i.Fits := ⟨ht,fun h => absurd h hp,fun h => absurd h ho⟩

theorem Ledger.Fits.modify (h : l.Fits) {id : ℕ} {g : Invoice → Invoice}
    (hg : ∀ i, l.invoices.get? id = some i → i.Fits → (g i).Fits) : Ledger.Fits { l with invoices := l.invoices.modify id g } :=
  ⟨h.invoices.modify fun i hi => hg i hi (h.invoices.get? hi),h.fees⟩

theorem roundMoney_nonneg {value : ℚ} (h : 0 ≤ value) : 0 ≤ roundMoney value := Int.floor_nonneg.mpr (by linarith)

theorem fits_createInvoice (h : l.Fits) {householdId : ℕ} {dueDate : ℤ} {lines : List InvoiceLineDto}
    (hv : (Command.createInvoice householdId dueDate lines).valid = true)
    (he : createInvoice l householdId dueDate lines = .ok l') : l'.Fits := by
  simp only [createInvoice,ensure_bind_eq_ok,pure_eq_ok] at he
  obtain ⟨-,rfl⟩ := he
  simp only [Command.valid,Bool.and_eq_true,List.all_eq_true,decide_eq_true_eq] at hv
  refine ⟨h.invoices.insert (.of_other ?_ (by simp) (by simp)),h.fees⟩
  rw [roundMoney_intCast]
  refine List.sum_nonneg fun x hx => ?_
  obtain ⟨row,hrow,rfl⟩ := List.mem_map.mp hx
  obtain ⟨line,hline,rfl⟩ := List.mem_map.mp hrow
  obtain ⟨hq,hu⟩ := hv.2 line hline
  exact roundMoney_nonneg (mul_nonneg hq.le hu.le)

theorem fits_issue (h : l.Fits) {id : ℕ} {approval : IssueApproval} (he : issue now l id approval = .ok l') : l'.Fits := by
  simp only [issue,require_bind_eq_ok,ensure_bind_eq_ok] at he
  obtain ⟨invoice,-,-,he⟩ := he
  cases approval <;> cases he <;> exact h.modify fun i _ hi => .of_other hi.total (by simp) (by simp)

theorem fits_approvalCallback (h : l.Fits) {id : ℕ} (he : approvalCallback now l id = .ok l') : l'.Fits := by
  simp only [approvalCallback,require_bind_eq_ok,ensure_bind_eq_ok,pure_eq_ok] at he
  obtain ⟨invoice,-,-,rfl⟩ := he
  exact h.modify fun i _ hi => .of_other hi.total (by simp) (by simp)

theorem fits_voidInvoice (h : l.Fits) {id : ℕ} (he : voidInvoice l id = .ok l') : l'.Fits := by
  simp only [voidInvoice,require_bind_eq_ok,ensure_bind_eq_ok,pure_eq_ok] at he
  obtain ⟨invoice,-,-,-,rfl⟩ := he
  exact h.modify fun i _ hi => .of_other hi.total (by simp) (by simp)

theorem fits_cancel (h : l.Fits) {id : ℕ} (he : cancel l id = .ok l') : l'.Fits := by
  simp only [cancel,require_bind_eq_ok,ensure_bind_eq_ok,pure_eq_ok] at he
  obtain ⟨invoice,-,-,rfl⟩ := he
  exact h.modify fun i _ hi => .of_other hi.total (by simp) (by simp)

theorem fits_writeOff (h : l.Fits) {id : ℕ} {reason : String} (he : writeOff l id reason = .ok l') : l'.Fits := by
  obtain ⟨invoice,-,-,rfl⟩ := writeOff_ok_iff.mp he
  exact h.modify fun i _ hi => .of_other hi.total (by simp) (by simp)

theorem fits_applyToInvoice (h : l.Fits) {creditNoteId invoiceId : ℕ} {requested : ℚ}
    (he : applyToInvoice now l creditNoteId invoiceId requested = .ok l') : l'.Fits := by
  simp only [applyToInvoice,require_bind_eq_ok,ensure_bind_eq_ok,pure_eq_ok,roundMoney_intCast] at he
  obtain ⟨cn,-,-,invoice,-,-,-,rfl⟩ := he
  refine ⟨h.invoices.modify fun i hi => ?_,h.fees⟩
  have hfits := h.invoices.get? hi
  refine ⟨hfits.total,fun hp => ?_,fun ho => ?_⟩
  · dsimp only at hp ⊢
    split at hp
    · omega
    · cases hp
  · dsimp only at ho
    split at ho <;> cases ho

theorem lateFeeAmount_nonneg {config : LateFeeConfig} (hc : 0 ≤ config.value) {total : ℤ} (ht : 0 ≤ total) :
    0 ≤ lateFeeAmount config total := by
  have htotal : (0 : ℚ) ≤ total := Int.cast_nonneg ht
  have hvalue : (0 : ℚ) ≤ config.value := Int.cast_nonneg hc
  unfold lateFeeAmount
  split
  · exact roundMoney_nonneg (by positivity)
  · exact roundMoney_nonneg hvalue

theorem findLateFeeConfig_value (h : l.Fits) {configId : Option ℕ} {config : ℕ × LateFeeConfig}
    (hf : findLateFeeConfig l configId = some config) : 0 ≤ config.2.value := by
  cases configId with
  | none =>
    have hmem := List.mem_filter.mp (List.mem_of_getLast? hf)
    exact h.fees config hmem.1
  | some id =>
    obtain ⟨c,hc,rfl⟩ := Option.map_eq_some_iff.mp hf
    exact h.fees.get? (Option.filter_eq_some_iff.mp hc).1

theorem fits_applyLateFee (h : l.Fits) {invoiceId : ℕ} {configId : Option ℕ}
    (he : applyLateFee now l invoiceId configId = .ok l') : l'.Fits := by
  simp only [applyLateFee,require_bind_eq_ok,ensure_bind_eq_ok,pure_eq_ok,roundMoney_intCast] at he
  obtain ⟨invoice,hi,hs,config,hf,-,-,-,rfl⟩ := he
  have hfits := h.invoices.get? hi
  have hfee := lateFeeAmount_nonneg (findLateFeeConfig_value h hf) hfits.total
  refine ⟨h.invoices.modify fun i hi' => ?_,h.fees⟩
  obtain rfl := Option.some.inj (hi.symm.trans hi')
  have htotal := hfits.total
  refine ⟨by dsimp only; omega,fun hp => ?_,fun ho => ?_⟩
  · have hpaid : invoice.status = paid := hp
    rw [hpaid] at hs
    cases hs
  · have := hfits.overdue ho
    dsimp only
    omega

theorem fits_createLateFeeConfig (h : l.Fits) {config : LateFeeConfig} (hv : (Command.createLateFeeConfig config).valid = true)
    (he : createLateFeeConfig l config = .ok l') : l'.Fits := by
  obtain rfl := Except.ok.inj he
  simp only [Command.valid,Bool.and_eq_true,decide_eq_true_eq] at hv
  exact ⟨h.invoices,h.fees.insert hv.1.1.1.le⟩

/-! ## Recomputed balances -/

theorem fits_recalculateBalance {id : ℕ} (he : recalculateBalance now l id = .ok l') (h : l.Fits) : l'.Fits := by
  obtain ⟨invoice,balance,hi,-,rfl⟩ := recalculateBalance_ok he
  refine h.modify fun i hi' hfits => ?_
  obtain rfl := Option.some.inj (hi.symm.trans hi')
  have htotal := hfits.total
  rw [deriveInvoiceStatus_eq]
  refine ⟨htotal,fun hp => ?_,fun ho => ?_⟩
  · dsimp only at hp ⊢
    split_ifs at hp with hclosed hzero
    · rw [hp] at hclosed
      simp at hclosed
    · omega
  · dsimp only at ho ⊢
    split_ifs at ho with hclosed hzero hw hpart hdue
    · rw [ho] at hclosed
      simp at hclosed
    · omega

theorem fits_createAllocations (h : l.Fits) (paymentId : ℕ) (allocs : List AllocationItem) :
    (allocs.foldl (createAllocation paymentId) l).Fits := by
  induction allocs generalizing l with
  | nil => exact h
  | cons a rest ih => exact ih (h.of_frame rfl rfl)

theorem fits_confirmAllocations (h : l.Fits) {paymentId : ℕ} {allocs : List AllocationItem}
    (he : confirmAllocations now l paymentId allocs = .ok l') : l'.Fits := by
  obtain ⟨-,he⟩ := confirmAllocations_ok_iff.mp he
  exact recalculateAll_relates (R := fun l l' _ => l.Fits → l'.Fits) (fun _ h => h) (fun hab hbc h => hbc (hab h))
    fits_recalculateBalance he (fits_createAllocations h paymentId allocs)

theorem fits_handleCheckoutCompleted (h : l.Fits) {householdId invoiceId : ℕ} {amountCents : ℤ} {paymentIntentId : String}
    (he : handleCheckoutCompleted now l householdId invoiceId amountCents paymentIntentId = .ok l') : l'.Fits := by
  rcases handleCheckoutCompleted_ok he with ⟨-,rfl | ⟨-,rfl⟩⟩ | ⟨-,invoice,-,-,he⟩
  · exact h
  · exact h.of_frame rfl rfl
  · exact fits_recalculateBalance he (h.of_frame rfl rfl)

theorem fits_reverseAllocation (h : l.Fits) (id : ℕ) (allocAmount reverseAmount : ℤ) :
    (reverseAllocation l id allocAmount reverseAmount).Fits := by
  unfold reverseAllocation
  split <;> exact h.of_frame rfl rfl

theorem fits_executed (h : l.Fits) {refundId : ℕ} {refund : Refund} (he : Executed now l refundId refund l') : l'.Fits := by
  rcases he with ⟨-,rfl⟩ | ⟨payment,-,mid,hm,rfl⟩
  · exact h.of_frame rfl rfl
  · have hmid := reverseLoop_relates (R := fun l l' _ => l.Fits → l'.Fits) (fun _ h => h) (fun hab hbc h => hbc (hab h))
      (fun _ he h => fits_recalculateBalance he (fits_reverseAllocation h _ _ _))
      (stored_lifoAllocations (markExecuted now l refundId) refund.paymentId) hm (h.of_frame rfl rfl)
    exact hmid.of_frame rfl rfl

theorem fits_execute (h : l.Fits) (refundId : ℕ) (stripeFailure : Option String) :
    (execute now l refundId stripeFailure).1.Fits := by
  rcases execute_cases now l refundId stripeFailure with ⟨refund,mid,-,-,he,⟨-,hl⟩ | ⟨-,message,hl⟩⟩ | ⟨hl,-⟩
  · rw [hl]
    exact fits_executed h he
  · rw [hl]
    exact (fits_executed h he).of_frame rfl rfl
  · rw [hl]
    exact h

theorem fits_serve (h : l.Fits) (r : ClientRequest) : (dailyStep l (.serve r)).Fits := by
  obtain ⟨⟨now,command⟩,hclient⟩ := r
  unfold dailyStep step serve
  dsimp only
  by_cases hv : command.valid = true
  swap
  · rw [if_neg hv]
    exact h
  rw [if_pos hv]
  cases command with
  | markOverdue cutoffDate id => cases hclient
  | createInvoice householdId dueDate lines => exact transact_keeps h fun l' he => fits_createInvoice h hv he
  | issue id approval => exact transact_keeps h fun l' he => fits_issue h he
  | approvalCallback id => exact transact_keeps h fun l' he => fits_approvalCallback h he
  | voidInvoice id => exact transact_keeps h fun l' he => fits_voidInvoice h he
  | cancel id => exact transact_keeps h fun l' he => fits_cancel h he
  | writeOff id reason => exact transact_keeps h fun l' he => fits_writeOff h he
  | createManual householdId paymentMethod amount reason =>
    exact transact_keeps h fun l' he => by
      rw [createManual_ok he]
      exact h.of_frame rfl rfl
  | checkoutCompleted householdId invoiceId amountCents paymentIntentId =>
    exact transact_keeps h fun l' he => fits_handleCheckoutCompleted h he
  | confirmAllocations paymentId allocations => exact transact_keeps h fun l' he => fits_confirmAllocations h he
  | createCreditNote householdId amount reason =>
    refine transact_keeps h fun l' he => ?_
    obtain ⟨note,rfl⟩ := createCreditNote_ok he
    exact h.of_frame rfl rfl
  | applyToInvoice creditNoteId invoiceId appliedAmount => exact transact_keeps h fun l' he => fits_applyToInvoice h he
  | createLateFeeConfig config => exact transact_keeps h fun l' he => fits_createLateFeeConfig h hv he
  | applyLateFee invoiceId configId => exact transact_keeps h fun l' he => fits_applyLateFee h he
  | createRefund userId paymentId amount reason =>
    refine transact_keeps h fun l' he => ?_
    obtain ⟨payment,-,-,-,rfl⟩ := createRefund_ok he
    exact h.of_frame rfl rfl
  | approve refundId approverUserId =>
    refine transact_keeps h fun l' he => ?_
    obtain ⟨refund,-,-,rfl⟩ := approve_ok he
    exact h.of_frame rfl rfl
  | reject refundId approverUserId comment =>
    refine transact_keeps h fun l' he => ?_
    obtain ⟨refund,-,-,rfl⟩ := reject_ok he
    exact h.of_frame rfl rfl
  | execute refundId stripeFailure => exact fits_execute h refundId stripeFailure

/-! ## The job -/

theorem get?_detectOverdue (cutoffDate now : ℤ) (l : Ledger) (id : ℕ) :
    (detectOverdue cutoffDate now l).invoices.get? id =
      (l.invoices.get? id).map fun i => if i.pastDue cutoffDate then i.markOverdue now else i := by
  rw [detectOverdue]
  dsimp only
  rw [Table.foldl_modify_select,Table.get?_mapRows]

theorem pastDue_iff {cutoffDate : ℤ} {i : Invoice} : i.pastDue cutoffDate = true ↔
    i.status ∈ [issued,partiallyPaid] ∧ i.dueDate < cutoffDate ∧ i.lastOverdueNotifiedAt = none := by
  simp only [Invoice.pastDue,Bool.and_eq_true,decide_eq_true_eq,and_assoc]

/-- What the job makes of one invoice. -/
theorem marked_iff {i : Invoice} (h : i.Fits) (cutoffDate now : ℤ) :
    (∀ i', i' = (if i.pastDue cutoffDate then i.markOverdue now else i) →
      (i'.status ∉ [void,cancelled,draft,pendingApproval,writtenOff] → 0 < i'.balanceAmount → i'.dueDate < cutoffDate →
        i'.status = overdue) ∧ (i'.balanceAmount ≤ 0 → i'.status ≠ overdue)) ↔
      (i.status ∈ [issued,partiallyPaid] → i.dueDate < cutoffDate → (0 < i.balanceAmount ↔ i.lastOverdueNotifiedAt = none)) := by
  rw [forall_eq]
  by_cases hfound : i.pastDue cutoffDate = true
  · obtain ⟨hs,hd,hn⟩ := pastDue_iff.mp hfound
    rw [if_pos hfound]
    simp only [Invoice.markOverdue,hs,hd,hn,true_imp_iff,iff_true,ne_eq,not_true_eq_false,imp_false,implies_true,true_and]
    exact not_le
  · rw [if_neg hfound]
    rw [pastDue_iff] at hfound
    have hpaid := h.paid
    have hoverdue := h.overdue
    constructor
    · rintro ⟨hmarked,-⟩ hs hd
      have hnotice : i.lastOverdueNotifiedAt ≠ none := fun hn => hfound ⟨hs,hd,hn⟩
      refine iff_of_false (fun hb => ?_) hnotice
      have hopen : i.status ∉ [void,cancelled,draft,pendingApproval,writtenOff] := by
        rcases List.mem_pair.mp hs with hs | hs <;> rw [hs] <;> decide
      have hover := hmarked hopen hb hd
      rcases List.mem_pair.mp hs with hs | hs <;> rw [hs] at hover <;> cases hover
    · intro hfit
      refine ⟨fun hopen hb hd => ?_,fun hb ho => absurd (hoverdue ho) (not_lt.mpr hb)⟩
      by_contra hnot
      have hs : i.status ∈ [issued,partiallyPaid] := by
        cases hstatus : i.status with
        | issued => decide
        | partiallyPaid => decide
        | overdue => exact absurd hstatus hnot
        | paid => exact absurd (hpaid hstatus) (not_le.mpr hb)
        | _ => simp [hstatus] at hopen
      exact hfound ⟨hs,hd,(hfit hs hd).mp hb⟩

theorem overdueMarked_iff (h : l.Fits) (cutoffDate now : ℤ) :
    OverdueMarked cutoffDate (detectOverdue cutoffDate now l) ↔ NoticesFit cutoffDate l := by
  unfold OverdueMarked NoticesFit
  refine forall_congr' fun id => ?_
  rw [get?_detectOverdue]
  cases hi : l.invoices.get? id with
  | none => simp
  | some i =>
    simp only [Option.map_some,Option.some.injEq,forall_eq']
    rw [← marked_iff (h.invoices.get? hi) cutoffDate now,forall_eq]

theorem fits_detectOverdue (h : l.Fits) {cutoffDate : ℤ} (hn : NoticesFit cutoffDate l) (now : ℤ) :
    (detectOverdue cutoffDate now l).Fits := by
  refine ⟨?_,h.fees⟩
  intro q hq
  have hget := Table.get?_of_row hq
  rw [get?_detectOverdue] at hget
  obtain ⟨i,hi,he⟩ := Option.map_eq_some_iff.mp hget
  have hfits := h.invoices.get? hi
  rw [← he]
  split
  · rename_i hfound
    obtain ⟨hs,hd,hnone⟩ := pastDue_iff.mp hfound
    exact ⟨hfits.total,fun hp => (by cases hp),fun _ => (hn q.1 i hi hs hd).mpr hnone⟩
  · exact hfits

/-- In every run, each detection leaves the past-due invoices marked precisely when the notices fit
the balances where it starts. -/
theorem detections_mark_iff (households : List ℕ) (events : List DailyEvent) :
    Guarded dailyStep MarksOverdue (Ledger.initial households) events ↔
      Guarded dailyStep FindsNoticesFit (Ledger.initial households) events := by
  refine guarded_iff_along (J := Ledger.Fits) (fun l e h hfit => ?_) (fun l e h => ?_) ⟨Table.all_empty _,Table.all_empty _⟩
  · cases e with
    | serve r => exact fits_serve h r
    | detectOverdue asOfDate now => exact fits_detectOverdue h (hfit asOfDate now rfl) now
  · refine forall₃_congr fun asOfDate now he => ?_
    subst he
    exact overdueMarked_iff h _ now

end

/-! An invoice is found past due, then half of it is paid, and the next run passes it over. -/

def clientRequest (now : ℤ) (command : Command) (h : command.ofJob = false) : DailyEvent := .serve ⟨⟨now,command⟩,h⟩

def lateThenHalfPaid : List DailyEvent :=
  [clientRequest 0 (.createInvoice 1 10 [⟨"Tuition",1,10000⟩]) rfl,clientRequest 1 (.issue 0 .notRequired) rfl,
    .detectOverdue none 20,clientRequest 21 (.createManual 1 .cash 5000 none) rfl,
    clientRequest 22 (.confirmAllocations 0 [⟨0,5000⟩]) rfl,.detectOverdue none 30]

/-- The invoice stays partially paid. -/
theorem not_detections_mark : ¬ ∀ (households : List ℕ) (events : List DailyEvent),
    (events.map DailyEvent.now).Pairwise (· ≤ ·) → Guarded dailyStep MarksOverdue (Ledger.initial households) events := by
  intro h
  obtain ⟨-,-,-,-,-,hmarks,-⟩ := h [1] lateThenHalfPaid (by decide)
  have hmarked := hmarks none 30 rfl
  have hrow : ((lateThenHalfPaid.foldl dailyStep (Ledger.initial [1])).invoices.get? 0).map
      (fun i => (i.status,i.balanceAmount,i.dueDate)) = some (.partiallyPaid,5000,10) := by
    decide +kernel
  obtain ⟨i,hi,hcolumns⟩ := Option.map_eq_some_iff.mp hrow
  obtain ⟨hs,hcolumns⟩ := Prod.mk.inj hcolumns
  obtain ⟨hb,hd⟩ := Prod.mk.inj hcolumns
  have hover := (hmarked 0 i hi).1 (by rw [hs]; decide) (by omega) (by dsimp only [Option.getD]; omega)
  rw [hs] at hover
  cases hover

end EduPod.Finance
