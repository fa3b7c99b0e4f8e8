import EduPod.Finance.RefundStatements

/-! # Interleaved refund requests on one payment

Only `create` adds to the refunds that count against a payment. It compares the amount with what
it read before it waited for the sequence row, so what matters is the state it inserts into.
-/
namespace EduPod.Finance.Statements
open ReadCommitted Script Runs

/-- The row a request inserts, if it gets that far. -/
def RefundRequest.refund? : RefundRequest → Option Refund
  | .create userId paymentId amount reason =>
    if 0 < amount then some (createdRefund userId paymentId amount reason) else none
  | _ => none

/-- The refunds of the payment that count stay within its amount. -/
def WithinPayment (paymentId : ℕ) (l : Ledger) : Prop :=
  ∀ payment, l.payments.get? paymentId = some payment → l.refundedOf paymentId counts ≤ payment.amount

abbrev RefundSession := Session Ledger Row ServiceError RefundRequest
abbrev RefundState := State Ledger Row ServiceError RefundRequest

/-- A `create` that commits its row finds room for it among the refunds committed by then. -/
def InsertFits (paymentId : ℕ) (st : RefundState) : Event RefundRequest → Prop
  | .advance id => ∀ s refund, st.sessions.get? id = some s → s.script.commits = true →
    s.request.refund? = some refund → refund.paymentId = paymentId → ∀ payment,
    st.db.payments.get? paymentId = some payment →
      st.db.refundedOf paymentId counts + refund.amount ≤ payment.amount
  | _ => True

/-! ## Writes -/

/-- A write that leaves refunds and payment amounts alone. -/
def Neutral (w : Ledger → Ledger) : Prop :=
  ∀ l, (w l).refunds = l.refunds ∧ ∀ id, ((w l).payments.get? id).map (·.amount) = (l.payments.get? id).map (·.amount)

/-- A write that changes one refund, but neither its payment nor its amount. -/
def Restatuses (id : ℕ) (g : Refund → Refund) (w : Ledger → Ledger) : Prop :=
  (∀ r, (g r).paymentId = r.paymentId ∧ (g r).amount = r.amount) ∧ ∀ l, (w l).refunds = l.refunds.modify id g ∧
    ∀ id, ((w l).payments.get? id).map (·.amount) = (l.payments.get? id).map (·.amount)

/-- A write that inserts one refund. -/
def Inserts (refund : Refund) (w : Ledger → Ledger) : Prop :=
  ∀ l, (w l).refunds = l.refunds.insert refund ∧
    ∀ id, ((w l).payments.get? id).map (·.amount) = (l.payments.get? id).map (·.amount)

/-- The change of a stored refund does not make it count if it did not before. -/
def Lowers (l : Ledger) (id : ℕ) (g : Refund → Refund) : Prop :=
  ∃ r, l.refunds.get? id = some r ∧ (counts (g r).status = true → counts r.status = true)

/-! ## What a script may still do -/

/-- `o` is the row the request is to insert, `touched` says that the open transaction has changed
a refund already. Besides writes that are neutral a transaction changes one refund under its lock,
or inserts `o` and ends. -/
@[grind] def Lawful (o : Option Refund) : Bool → Tx Unit → Prop
  | touched, .done _ => touched = false → o = none
  | _, .fail _ => True
  | _, .commit rest => o = none ∧ Lawful o false rest
  | touched, .statement locks write next => ∀ view,
    (Neutral (write view) ∧ Lawful o touched (next view)) ∨
    (touched = false ∧ o = none ∧ ∃ id g, .refund id ∈ locks view ∧ Restatuses id g (write view) ∧
      Lowers view id g ∧ Lawful o true (next view)) ∨
    (touched = false ∧ ∃ refund, o = some refund ∧ Inserts refund (write view) ∧ next view = .done ())

/-- Where a session stands: nothing written to the refunds yet, or its row inserted, or a refund
changed that it holds the lock of. -/
def Standing (l : Ledger) (s : RefundSession) : Prop :=
  (Neutral s.pending ∧ Lawful s.request.refund? false s.script) ∨
  (∃ refund, s.request.refund? = some refund ∧ Inserts refund s.pending ∧ s.script = .done ()) ∨
  (s.request.refund? = none ∧ ∃ id g, .refund id ∈ s.held ∧ Restatuses id g s.pending ∧ Lowers l id g ∧
    Lawful none true s.script)

section
variable {l l' : Ledger} {w w' : Ledger → Ledger} {id : ℕ} {g : Refund → Refund} {refund : Refund}

theorem neutral_id : Neutral fun l => l := fun _ => ⟨rfl,fun _ => rfl⟩

theorem Neutral.comp (h' : Neutral w') (h : Neutral w) : Neutral fun l => w' (w l) := fun l =>
  ⟨(h' _).1.trans (h l).1,fun id => ((h' _).2 id).trans ((h l).2 id)⟩

theorem Restatuses.comp_neutral (h' : Restatuses id g w') (h : Neutral w) : Restatuses id g fun l => w' (w l) :=
  ⟨h'.1,fun l => ⟨by rw [(h'.2 _).1,(h l).1],fun id => ((h'.2 _).2 id).trans ((h l).2 id)⟩⟩

theorem Restatuses.neutral_comp (h' : Neutral w') (h : Restatuses id g w) : Restatuses id g fun l => w' (w l) :=
  ⟨h.1,fun l => ⟨by rw [(h' _).1,(h.2 l).1],fun id => ((h' _).2 id).trans ((h.2 l).2 id)⟩⟩

theorem Inserts.comp_neutral (h' : Inserts refund w') (h : Neutral w) : Inserts refund fun l => w' (w l) :=
  fun l => ⟨by rw [(h' _).1,(h l).1],fun id => ((h' _).2 id).trans ((h l).2 id)⟩

theorem Lowers.congr (h : l'.refunds.get? id = l.refunds.get? id) (hl : Lowers l id g) : Lowers l' id g := by
  rw [Lowers,h]
  exact hl

theorem Lowers.insert (hw : Inserts refund w) (h : Lowers l id g) : Lowers (w l) id g := by
  obtain ⟨r,hr,hc⟩ := h
  refine Lowers.congr ?_ ⟨r,hr,hc⟩
  rw [(hw l).1,Table.get?_insert,if_neg (Table.lt_next_of_get? hr).ne]

end

/-! ## The scripts -/

/-- A script that only makes neutral writes and ends no transaction. -/
@[grind] def Quiet {α : Type} : Tx α → Prop
  | .done _ => True
  | .fail _ => True
  | .commit _ => False
  | .statement _ write next => ∀ view, Neutral (write view) ∧ Quiet (next view)

section
variable {α β : Type} {o : Option Refund} {touched : Bool}

theorem Quiet.bind {x : Tx α} {f : α → Tx β} (hx : Quiet x) (hf : ∀ a, Quiet (f a)) : Quiet (x >>= f) := by
  induction x with
  | done a => exact hf a
  | fail e => trivial
  | commit rest => exact hx.elim
  | statement locks write next ih => exact fun view => ⟨(hx view).1,ih view (hx view).2⟩

/-- Quiet statements before a lawful rest. -/
theorem Lawful.bind {x : Tx α} {f : α → Tx Unit} (hx : Quiet x) (hf : ∀ a, Lawful o touched (f a)) :
    Lawful o touched (x >>= f) := by
  induction x with
  | done a => exact hf a
  | fail e => trivial
  | commit rest => exact hx.elim
  | statement locks write next ih => exact fun view => Or.inl ⟨(hx view).1,ih view (hx view).2⟩

theorem quiet_read (f : Ledger → α) : Quiet (read f) := fun _ => ⟨neutral_id,trivial⟩

theorem quiet_lock (rows : List Row) : Quiet (lock rows) := fun _ => ⟨neutral_id,trivial⟩

theorem quiet_ensure {p : Prop} {d : Decidable p} {e : ServiceError} : Quiet (ensure p e) := by
  unfold ensure
  split <;> trivial

theorem lawful_ensure {p : Prop} {d : Decidable p} {e : ServiceError} : Lawful none touched (ensure p e) := by
  unfold ensure
  split
  · exact fun _ => rfl
  · trivial

theorem quiet_require {found : Option α} {e : ServiceError} : Quiet (require found e) := by
  cases found <;> trivial

theorem quiet_updateWhere (row : Row) (found : Ledger → Bool) {w : Ledger → Ledger} (hw : Neutral w) :
    Quiet (updateWhere row found w) := by
  intro view
  refine ⟨?_,trivial⟩
  cases hv : found view
  · simpa only [hv,Bool.false_eq_true,if_false] using neutral_id
  · simpa only [hv,if_true] using hw

theorem quiet_recalculateBalance (now : ℤ) (invoiceId : ℕ) : Quiet (recalculateBalance now invoiceId) := by
  refine (quiet_read _).bind fun found => (quiet_read _).bind fun sum => quiet_require.bind fun invoice => ?_
  refine Quiet.bind (quiet_updateWhere _ _ ?_) fun updated => quiet_ensure
  exact fun l => ⟨rfl,fun _ => rfl⟩

theorem quiet_reverseAllocation (id : ℕ) (allocAmount reverseAmount : ℤ) :
    Quiet (reverseAllocation id allocAmount reverseAmount) := by
  refine Quiet.bind (quiet_updateWhere _ _ fun l => ?_) fun updated => quiet_ensure
  obtain ⟨-,hp,hr,-⟩ := reverseAllocation_frame l id allocAmount reverseAmount
  exact ⟨hr,fun id => by rw [hp]⟩

theorem quiet_reverseLoop (now remaining : ℤ) (rows : List (ℕ × PaymentAllocation)) :
    Quiet (reverseLoop now remaining rows) := by
  induction rows generalizing remaining with
  | nil => trivial
  | cons a rest ih =>
    unfold reverseLoop
    split
    · trivial
    · exact (quiet_reverseAllocation _ _ _).bind fun _ => (quiet_recalculateBalance _ _).bind fun _ => ih _

theorem quiet_reverseAllocationsLifo (now : ℤ) (paymentId : ℕ) (refundAmount : ℤ) :
    Quiet (reverseAllocationsLifo now paymentId refundAmount) := by
  refine (quiet_read _).bind fun allocations => (quiet_read _).bind fun found => ?_
  cases found with
  | none => trivial
  | some payment => exact quiet_reverseLoop _ _ _

theorem quiet_updatePaymentStatus (paymentId : ℕ) : Quiet (updatePaymentStatus paymentId) := by
  refine (quiet_read _).bind fun found => (quiet_read _).bind fun totalRefunded => ?_
  cases found with
  | none => trivial
  | some payment =>
    refine Quiet.bind (quiet_updateWhere _ _ fun l => ⟨rfl,fun id => ?_⟩) fun updated => quiet_ensure
    by_cases hid : id = paymentId
    · subst hid
      cases hp : l.payments.get? id <;> simp [Table.get?_modify,hp]
    · rw [Table.get?_modify_ne _ hid]

/-- The one change a transaction makes to a refund, under the lock of its row. -/
theorem Lawful.updateWhere {refundId : ℕ} {found : Ledger → Bool} {g : Refund → Refund} {f : Bool → Tx Unit}
    (hg : ∀ r, (g r).paymentId = r.paymentId ∧ (g r).amount = r.amount)
    (hlow : ∀ l, found l = true → Lowers l refundId g) (ht : Lawful none true (f true))
    (hf : Lawful none false (f false)) : Lawful none false
      (Script.updateWhere (.refund refundId) found
        (fun l => { l with refunds := l.refunds.modify refundId g }) >>= f) := by
  intro view
  cases hv : found view with
  | true =>
    refine Or.inr (Or.inl ⟨rfl,rfl,refundId,g,?_,⟨hg,fun l => ?_⟩,hlow view hv,?_⟩)
    · simp only [hv,if_true]
      exact List.mem_singleton_self _
    · simp only [hv,if_true]
      exact ⟨trivial,fun _ => trivial⟩
    · change Lawful none true (f (found view))
      rw [hv]
      exact ht
  | false =>
    refine Or.inl ⟨fun l => ?_,?_⟩
    · simp only [hv,Bool.false_eq_true,if_false]
      exact ⟨trivial,fun _ => trivial⟩
    · change Lawful none false (f (found view))
      rw [hv]
      exact hf

theorem lawful_endTransaction {f : Unit → Tx Unit} (hf : Lawful none false (f ())) :
    Lawful none touched (endTransaction >>= f) := ⟨rfl,hf⟩

theorem lawful_create (userId paymentId : ℕ) (amount : ℚ) (reason : String) :
    Lawful (some (createdRefund userId paymentId amount reason)) false (create userId paymentId amount reason) := by
  refine .bind (quiet_read _) fun found => .bind quiet_require fun payment => ?_
  refine .bind (quiet_read _) fun totalRefunded => .bind (quiet_read _) fun invoices => ?_
  refine .bind quiet_ensure fun _ => .bind quiet_ensure fun _ => .bind quiet_ensure fun _ => ?_
  refine .bind (quiet_lock _) fun _ view => ?_
  exact Or.inr (Or.inr ⟨rfl,_,rfl,fun l => ⟨rfl,fun _ => rfl⟩,rfl⟩)

/-- The condition of a conditional update finds a refund that counts. -/
theorem lowers_of_any {l : Ledger} {refundId : ℕ} {status : RefundStatus} (hs : counts status = true)
    (h : (l.refunds.get? refundId).any (·.status = status) = true) (g : Refund → Refund) : Lowers l refundId g := by
  cases hr : l.refunds.get? refundId with
  | none => simp [hr] at h
  | some r =>
    have hst : r.status = status := by simpa [hr] using h
    exact ⟨r,hr,fun _ => hst ▸ hs⟩

theorem lawful_approve (refundId approverUserId : ℕ) : Lawful none false (approve refundId approverUserId) := by
  refine .bind (quiet_read _) fun found => lawful_endTransaction ?_
  refine .bind quiet_require fun refund => .bind quiet_ensure fun _ => ?_
  refine .updateWhere (fun r => ⟨rfl,rfl⟩) (fun l h => lowers_of_any rfl h _) ?_ ?_
  · exact lawful_endTransaction lawful_ensure
  · exact lawful_endTransaction lawful_ensure

theorem lawful_reject (refundId approverUserId : ℕ) (comment : String) :
    Lawful none false (reject refundId approverUserId comment) := by
  refine .bind (quiet_read _) fun found => lawful_endTransaction (.bind quiet_require fun refund => ?_)
  refine .updateWhere (fun r => ⟨rfl,rfl⟩) (fun l h => lowers_of_any rfl h _) ?_ ?_
  · exact lawful_endTransaction lawful_ensure
  · exact lawful_endTransaction lawful_ensure

theorem lawful_markFailed (refundId : ℕ) (message : String) {f : Bool → Tx Unit}
    (hf : ∀ updated, Lawful none false (f updated)) : Lawful none false
      (Script.updateWhere (.refund refundId) (fun l => (l.refunds.get? refundId).isSome) (fun l =>
        { l with refunds := l.refunds.modify refundId fun r =>
          { r with status := .failed, failureReason := some message } }) >>= fun updated =>
        endTransaction >>= fun _ => f updated) := by
  refine .updateWhere (fun r => ⟨rfl,rfl⟩) (fun l h => ?_) (lawful_endTransaction (hf _)) (lawful_endTransaction (hf _))
  obtain ⟨r,hr⟩ := Option.isSome_iff_exists.mp h
  exact ⟨r,hr,fun hc => by cases hc⟩

theorem lawful_execute (now : ℤ) (refundId : ℕ) (stripeFailure : Option String) :
    Lawful none false (execute now refundId stripeFailure) := by
  refine .bind (quiet_read _) fun found => lawful_endTransaction (.bind quiet_require fun refund => ?_)
  refine .bind quiet_ensure fun _ => .bind (quiet_read _) fun paymentRow => lawful_endTransaction ?_
  refine .updateWhere (fun r => ⟨rfl,rfl⟩) (fun l h => lowers_of_any rfl h _) ?_ trivial
  refine .bind quiet_ensure fun _ => .bind (quiet_reverseAllocationsLifo _ _ _) fun _ => ?_
  refine .bind (quiet_updatePaymentStatus _) fun _ => lawful_endTransaction ?_
  split
  · cases stripeFailure with
    | none => exact fun _ => rfl
    | some message =>
      exact lawful_markFailed refundId _ fun updated => .bind quiet_ensure fun _ => trivial
  · exact fun _ => rfl

theorem lawful_serve (request : RefundRequest) : Lawful request.refund? false (serve request) := by
  cases request with
  | create userId paymentId amount reason =>
    unfold RefundRequest.refund? serve
    by_cases h : 0 < amount
    · simpa only [if_pos h] using lawful_create userId paymentId amount reason
    · simp only [if_neg h]
      trivial
  | approve refundId approverUserId => exact lawful_approve refundId approverUserId
  | reject refundId approverUserId comment => exact lawful_reject refundId approverUserId comment
  | execute now refundId stripeFailure => exact lawful_execute now refundId stripeFailure

end

/-! ## Every session keeps its standing -/

theorem maintained_standing : Maintained serve Standing := by
  constructor
  · intro l request
    exact Or.inl ⟨neutral_id,lawful_serve request⟩
  · intro l request locks write next pending held h
    rcases h with ⟨hn,hl⟩ | ⟨refund,-,-,hs⟩ | ⟨ho,id,g,hid,hr,hlow,hl⟩
    · rcases hl (pending l) with ⟨hw,hl⟩ | ⟨-,ho,id,g,hid,hw,hlow,hl⟩ | ⟨-,refund,ho,hw,hd⟩
      · exact Or.inl ⟨hw.comp hn,hl⟩
      · refine Or.inr (Or.inr ⟨ho,id,g,List.mem_append_right _ hid,hw.comp_neutral hn,?_,ho ▸ hl⟩)
        exact hlow.congr (by rw [(hn l).1])
      · exact Or.inr (Or.inl ⟨refund,ho,hw.comp_neutral hn,hd⟩)
    · cases hs
    · rcases hl (pending l) with ⟨hw,hl⟩ | ⟨ht,-⟩ | ⟨ht,-⟩
      · have hboth := Restatuses.neutral_comp hw hr
        exact Or.inr (Or.inr ⟨ho,id,g,List.mem_append_left _ hid,hboth,hlow,hl⟩)
      · cases ht
      · cases ht
  · intro l request rest pending held h
    rcases h with ⟨hn,ho,hl⟩ | ⟨refund,-,-,hs⟩ | ⟨ho,id,g,hid,hr,hlow,-,hl⟩
    · exact Or.inl ⟨neutral_id,hl⟩
    · cases hs
    · refine Or.inl ⟨neutral_id,?_⟩
      change Lawful request.refund? false rest
      rw [show request.refund? = none from ho]
      exact hl
  · intro l s t hs ht hc hd
    rcases hs with hs | hs | ⟨ho,id,g,hid,hr,hlow,hl⟩
    · exact Or.inl hs
    · exact Or.inr (Or.inl hs)
    · refine Or.inr (Or.inr ⟨ho,id,g,hid,hr,?_,hl⟩)
      rcases ht with ⟨hn,-⟩ | ⟨refund,-,hi,-⟩ | ⟨-,id',g',hid',hr',-⟩
      · exact hlow.congr (by rw [(hn l).1])
      · exact hlow.insert hi
      · have hne : id ≠ id' := by
          rintro rfl
          exact hd hid hid'
        apply hlow.congr
        rw [(hr'.2 l).1,Table.get?_modify_ne _ hne]

/-! ## What a commit does to the refunds -/

theorem RefundRequest.refund?_some {request : RefundRequest} {refund : Refund} (h : request.refund? = some refund) :
    0 ≤ refund.amount ∧ counts refund.status = true := by
  cases request with
  | create userId paymentId amount reason =>
    by_cases hpos : 0 < amount
    · rw [RefundRequest.refund?,if_pos hpos] at h
      cases h
      exact ⟨toColumn_nonneg hpos.le,rfl⟩
    · rw [RefundRequest.refund?,if_neg hpos] at h
      cases h
  | _ => cases h

/-- A commit inserts the request's row, or it changes at most one refund and never to count again. -/
inductive Committed (l : Ledger) (o : Option Refund) (l' : Ledger) : Prop
  | kept (ho : o = none) (h : l'.refunds = l.refunds)
  | inserted (refund : Refund) (ho : o = some refund) (h : l'.refunds = l.refunds.insert refund)
  | restatused (ho : o = none) (id : ℕ) (g : Refund → Refund)
    (hg : ∀ r, (g r).paymentId = r.paymentId ∧ (g r).amount = r.amount) (hlow : Lowers l id g)
    (h : l'.refunds = l.refunds.modify id g)

theorem Standing.committed {l : Ledger} {s : RefundSession} (h : Standing l s) (hc : s.script.commits = true) :
    Committed l s.request.refund? (s.pending l) := by
  rcases h with ⟨hn,hl⟩ | ⟨refund,ho,hi,-⟩ | ⟨ho,id,g,-,hr,hlow,-⟩
  · apply Committed.kept _ (hn l).1
    cases hs : s.script with
    | done u =>
      rw [hs] at hl
      exact hl rfl
    | fail e => simp [hs,commits] at hc
    | commit rest =>
      rw [hs] at hl
      exact hl.1
    | statement locks write next => simp [hs,commits] at hc
  · exact .inserted refund ho (hi l).1
  · exact .restatused ho id g hr.1 hlow (hr.2 l).1

theorem Standing.amount {l : Ledger} {s : RefundSession} (h : Standing l s) (id : ℕ) :
    ((s.pending l).payments.get? id).map (·.amount) = (l.payments.get? id).map (·.amount) := by
  rcases h with ⟨hn,-⟩ | ⟨refund,-,hi,-⟩ | ⟨-,_,_,-,hr,-⟩
  · exact (hn l).2 id
  · exact (hi l).2 id
  · exact (hr.2 l).2 id

/-- No stored refund has a negative amount. -/
def NonnegRefunds (l : Ledger) : Prop := l.refunds.All fun r => 0 ≤ r.amount

theorem Committed.nonneg {l l' : Ledger} {request : RefundRequest} (h : Committed l request.refund? l')
    (hn : NonnegRefunds l) : NonnegRefunds l' := by
  unfold NonnegRefunds at *
  rcases h with ⟨-,h⟩ | ⟨refund,ho,h⟩ | ⟨-,id,g,hg,-,h⟩
  · rw [h]
    exact hn
  · rw [h]
    exact hn.insert (RefundRequest.refund?_some ho).1
  · rw [h]
    apply hn.modify
    intro r hr
    rw [(hg r).2]
    exact hn.get? hr

/-- How the refunds that count against a payment move with a commit. -/
theorem Committed.refundedOf {l l' : Ledger} {request : RefundRequest} (h : Committed l request.refund? l')
    (hn : NonnegRefunds l) (paymentId : ℕ) :
    (∃ refund, request.refund? = some refund ∧ refund.paymentId = paymentId ∧
      l'.refundedOf paymentId counts = l.refundedOf paymentId counts + refund.amount) ∨
    ((∀ refund, request.refund? = some refund → refund.paymentId ≠ paymentId) ∧
      l'.refundedOf paymentId counts ≤ l.refundedOf paymentId counts) := by
  rcases h with ⟨ho,h⟩ | ⟨refund,ho,h⟩ | ⟨ho,id,g,hg,⟨r,hr,hlow⟩,h⟩
  · refine Or.inr ⟨by simp [ho],?_⟩
    rw [Ledger.refundedOf_congr h]
  · have hsum : l'.refundedOf paymentId counts = l.refundedOf paymentId counts +
        if refund.paymentId = paymentId then refund.amount else 0 := by
      simp [Ledger.refundedOf,h,Table.sumWhere_insert,(RefundRequest.refund?_some ho).2]
    by_cases hp : refund.paymentId = paymentId
    · exact Or.inl ⟨refund,ho,hp,by rw [hsum,if_pos hp]⟩
    · refine Or.inr ⟨?_,by rw [hsum,if_neg hp,add_zero]⟩
      intro refund' ho'
      obtain rfl : refund = refund' := Option.some.inj (ho.symm.trans ho')
      exact hp
  · refine Or.inr ⟨by simp [ho],?_⟩
    have hpos : 0 ≤ r.amount := hn.get? hr
    rw [Ledger.refundedOf,h,Table.sumWhere_modify hr,(hg r).1,(hg r).2]
    simp only [Ledger.refundedOf,Bool.and_eq_true,decide_eq_true_eq]
    by_cases hp : r.paymentId = paymentId
    · cases hb : counts (g r).status with
      | true => simp [hp,hlow hb]
      | false =>
        simp only [hp,true_and,Bool.false_eq_true,if_false]
        split <;> omega
    · simp [hp]

/-! ## One step and whole interleavings -/

/-- The sessions are coherent and no refund is negative. -/
def Ordered (st : RefundState) : Prop := Coherent Standing st ∧ NonnegRefunds st.db

theorem step_ordered (st : RefundState) (e : Event RefundRequest) (h : Ordered st) :
    Ordered (ReadCommitted.step serve st e) := by
  refine ⟨coherent_step maintained_standing st e h.1,?_⟩
  cases e with
  | start request => exact h.2
  | abort id => exact h.2
  | advance id =>
    cases hs : st.sessions.get? id with
    | none =>
      rw [step_advance_none hs]
      exact h.2
    | some s =>
      rw [step_advance_db hs]
      split
      · rename_i hc
        exact ((h.1.sessions id s hs).committed hc).nonneg h.2
      · exact h.2

/-- One step keeps the payment's refunds within its amount precisely when a row it inserts fits. -/
theorem step_withinPayment_iff (paymentId : ℕ) (st : RefundState) (e : Event RefundRequest) (h : Ordered st)
    (hw : WithinPayment paymentId st.db) :
    WithinPayment paymentId (ReadCommitted.step serve st e).db ↔ InsertFits paymentId st e := by
  cases e with
  | start request => exact iff_of_true hw trivial
  | abort id => exact iff_of_true hw trivial
  | advance id =>
    cases hs : st.sessions.get? id with
    | none =>
      rw [step_advance_none hs]
      exact iff_of_true hw fun s _ hs' => by simp [hs] at hs'
    | some s =>
      rw [step_advance_db hs]
      by_cases hc : s.script.commits = true
      swap
      · rw [if_neg hc]
        refine iff_of_true hw ?_
        intro s' _ hs' hc'
        obtain rfl : s = s' := Option.some.inj (hs.symm.trans hs')
        exact absurd hc' hc
      rw [if_pos hc]
      have hstand := h.1.sessions id s hs
      have hamount : ∀ payment, st.db.payments.get? paymentId = some payment → ∃ payment',
          (s.pending st.db).payments.get? paymentId = some payment' ∧ payment'.amount = payment.amount := by
        intro payment hp
        have ha := hstand.amount paymentId
        rw [hp,Option.map_some] at ha
        exact Option.map_eq_some_iff.mp ha
      have hamount' : ∀ payment', (s.pending st.db).payments.get? paymentId = some payment' → ∃ payment,
          st.db.payments.get? paymentId = some payment ∧ payment.amount = payment'.amount := by
        intro payment' hp
        have ha := (hstand.amount paymentId).symm
        rw [hp,Option.map_some] at ha
        exact Option.map_eq_some_iff.mp ha
      rcases (hstand.committed hc).refundedOf h.2 paymentId with ⟨refund,ho,hp,hsum⟩ | ⟨ho,hle⟩
      · constructor
        · intro hw' s' refund' hs' _ ho' _ payment hpay
          obtain rfl : s = s' := Option.some.inj (hs.symm.trans hs')
          obtain rfl : refund = refund' := Option.some.inj (ho.symm.trans ho')
          obtain ⟨payment',hpay',ha⟩ := hamount payment hpay
          have := hw' payment' hpay'
          omega
        · intro hg payment' hpay'
          obtain ⟨payment,hpay,ha⟩ := hamount' payment' hpay'
          have := hg s refund hs hc ho hp payment hpay
          omega
      · refine iff_of_true ?_ ?_
        · intro payment' hpay'
          obtain ⟨payment,hpay,ha⟩ := hamount' payment' hpay'
          have := hw payment hpay
          omega
        · intro s' refund hs' _ ho' hp
          obtain rfl : s = s' := Option.some.inj (hs.symm.trans hs')
          exact absurd hp (ho refund ho')

/-- A posted payment of 100.00 without refunds. -/
def paidLedger : Ledger := [⟨0,.createManual 1 .cash 10000 none⟩].foldl Finance.step (Ledger.initial [1])

/-- Two requests to refund it in full: both read before either inserts. -/
def bothRead : List (Event RefundRequest) :=
  [.start (.create 1 0 10000 "Left"),.start (.create 2 0 10000 "Left")] ++
    List.replicate 3 (.advance 0) ++ List.replicate 3 (.advance 1) ++
    List.replicate 3 (.advance 0) ++ List.replicate 3 (.advance 1)

theorem paidLedger_sound : NonnegRefunds paidLedger ∧ WithinPayment 0 paidLedger := by
  constructor
  · intro r hr
    revert r hr
    decide +kernel
  · intro payment hp
    have hall : ∀ r ∈ paidLedger.payments.rows, paidLedger.refundedOf 0 counts ≤ r.2.amount := by decide +kernel
    exact hall _ (Table.mem_of_get? hp)

end EduPod.Finance.Statements
