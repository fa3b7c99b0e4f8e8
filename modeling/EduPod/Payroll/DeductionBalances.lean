import EduPod.Foundation.Runs
import EduPod.Payroll.PathAgreement

/-! # What finalisation takes off

Within one transaction the deductions are read, scheduled, counted in the pay and taken off, so that
the pay, the applications and the balances speak of the same amounts.
-/
namespace EduPod.Payroll
open Fallible Runs

section
/-- The committed applications of a run for one of its entries. -/
def committedFor (s : Register) (runId entryId : ℕ) : ℤ :=
  s.applications.sumWhere (fun a => isCommittedOf runId a && a.payrollEntryId = entryId) (·.appliedAmount)

/-- The committed applications of a run to one deduction. -/
def committedOn (s : Register) (runId deductionId : ℕ) : ℤ :=
  s.applications.sumWhere (fun a => isCommittedOf runId a && a.staffRecurringDeductionId = deductionId)
    (·.appliedAmount)

/-- What a finalised run takes off its entries is what it takes off the deductions. An entry without
aggregates is not paid at all. -/
structure DeductionsSettled (s s' : Register) (runId : ℕ) : Prop where
  withheld : ∀ row ∈ s'.entriesOf runId, row.2.totals.deductionsTotal = committedFor s' runId row.1
  subtracted : ∀ row ∈ s'.entriesOf runId, row.2.totals = .zero ∨
    row.2.totals.netPay = row.2.totals.grossPay - (row.2.totals.deductionsTotal +
      (sumOneOffsByEntry s' row.1).2 + (sumAdjustmentsByEntry s' row.1).2)
  decremented : ∀ id d, s.deductions.get? id = some d → ∃ d', s'.deductions.get? id = some d' ∧
    d'.remainingAmount = d.remainingAmount - committedOn s' runId id
  once : ((s'.applications.select (isCommittedOf runId)).map fun a => a.2.staffRecurringDeductionId).Nodup

/-- A run that a request finalises has its deductions settled by it. -/
def SettlesDeductions (s : Register) (command : Command) : Prop := ∀ runId, ¬isFinalised s runId →
  isFinalised (step s command) runId → DeductionsSettled s (step s command) runId

section
variable {s s' : Register} {runId : ℕ} {run : PayrollRun}

theorem sumWhere_of_not_finalised (hs : Sound s) (hopen : ¬isFinalised s runId)
    (p : PayrollDeductionApplication → Bool) :
    s.applications.sumWhere (fun a => isCommittedOf runId a && p a) (·.appliedAmount) = 0 := by
  apply Table.sumWhere_eq_zero
  intro a ha
  have hne : a.2.payrollRunId ≠ runId := fun h => hopen (h ▸ (hs.applications a ha).1)
  simp [isCommittedOf,hne]

/-- The sums of applications after a finalisation: what was there and what was scheduled. -/
theorem sumWhere_finalised (userId : ℕ) (p : PayrollDeductionApplication → Bool) :
    (finalised s runId run userId).applications.sumWhere p (·.appliedAmount) =
      s.applications.sumWhere p (·.appliedAmount) +
        (((scheduledIn s runId run).filter fun a => p (commit a)).map (·.appliedAmount)).sum := by
  change (s.applications.insertAll ((scheduledIn s runId run).map commit)).sumWhere p _ = _
  rw [Table.sumWhere_insertAll,List.filter_map,List.map_map]
  rfl

theorem isCommittedOf_commit {a : PayrollDeductionApplication} (h : a ∈ scheduledIn s runId run) :
    isCommittedOf runId (commit a) = true := by
  obtain ⟨row,-,-,d,-,rfl⟩ := of_mem_scheduledIn h
  simp [isCommittedOf,commit,applicationOf]

/-- The applications of a run that are for one entry are those made for it. -/
theorem sum_scheduledIn_entry {row : ℕ × PayrollEntry} (hrow : row ∈ s.entriesOf runId) :
    (((scheduledIn s runId run).filter fun a => a.payrollEntryId = row.1).map (·.appliedAmount)).sum =
      ((scheduledFor s runId run row).map (·.appliedAmount)).sum := by
  have hown : ∀ r, (scheduledFor s runId run r).filter (fun a => a.payrollEntryId = row.1) =
      if r.1 = row.1 then scheduledFor s runId run r else [] := by
    intro r
    split
    · rename_i hid
      apply List.filter_eq_self.mpr
      intro a ha
      obtain ⟨-,d,-,rfl⟩ := of_mem_scheduledFor ha
      exact decide_eq_true hid
    · rename_i hid
      apply List.filter_eq_nil_iff.mpr
      intro a ha
      obtain ⟨-,d,-,rfl⟩ := of_mem_scheduledFor ha
      simp [applicationOf,hid]
  rw [← Table.sum_map_ite_key nodup_entriesOf (fun r => ((scheduledFor s runId run r).map (·.appliedAmount)).sum) hrow]
  rw [scheduledIn,List.filter_flatMap,List.map_flatMap,List.flatMap_def,List.sum_flatten,List.map_map]
  congr 1
  apply List.map_congr_left
  intro r _
  rw [Function.comp_apply,hown]
  split <;> rfl

theorem sum_scheduledFor {row : ℕ × PayrollEntry} {comp : StaffCompensation}
    (hcomp : periodComp s run row.2 = some comp) :
    ((scheduledFor s runId run row).map (·.appliedAmount)).sum = scheduledTotal s run row.2.staffProfileId := by
  rw [scheduledFor,hcomp,Option.isSome_some,if_pos rfl,List.map_map]
  rfl

/-- The applications of a run to one deduction are the one that was taken, if any. -/
theorem sum_scheduledIn_deduction (h : Ready s runId) {id : ℕ} {d : StaffRecurringDeduction}
    (hd : s.deductions.get? id = some d) :
    (((scheduledIn s runId run).filter fun a => a.staffRecurringDeductionId = id).map (·.appliedAmount)).sum =
      if isTaken s runId run d then appliedAmountOf d else 0 := by
  have hn : (((scheduledIn s runId run).map fun a => (a.staffRecurringDeductionId,a.appliedAmount)).map
      Prod.fst).Nodup := by
    rw [List.map_map]
    exact nodup_scheduledIn h
  have hsum := Table.sum_filter_key hn id
  rw [lookup_scheduledIn h (Table.mem_of_get? hd),List.filter_map,List.map_map] at hsum
  refine hsum.trans ?_
  split <;> rfl

/-! ## The two ways of finalising a run -/

theorem committedFor_finalised (hs : Sound s) (hopen : ¬isFinalised s runId) (userId : ℕ) {row : ℕ × PayrollEntry}
    (hrow : row ∈ s.entriesOf runId) : committedFor (finalised s runId run userId) runId row.1 =
      ((scheduledFor s runId run row).map (·.appliedAmount)).sum := by
  rw [committedFor,sumWhere_finalised,sumWhere_of_not_finalised hs hopen,zero_add,← sum_scheduledIn_entry hrow]
  congr 2
  apply List.filter_congr
  intro a ha
  rw [isCommittedOf_commit ha]
  rfl

theorem committedOn_finalised (hs : Sound s) (hopen : ¬isFinalised s runId) (userId : ℕ) {id : ℕ}
    {d : StaffRecurringDeduction} (hd : s.deductions.get? id = some d) :
    committedOn (finalised s runId run userId) runId id = if isTaken s runId run d then appliedAmountOf d else 0 := by
  rw [committedOn,sumWhere_finalised,sumWhere_of_not_finalised hs hopen,zero_add,
    ← sum_scheduledIn_deduction (hs.ready hopen) hd]
  congr 2
  apply List.filter_congr
  intro a ha
  rw [isCommittedOf_commit ha]
  rfl

theorem get?_deductions_finalised (userId : ℕ) {id : ℕ} {d : StaffRecurringDeduction}
    (hd : s.deductions.get? id = some d) : (finalised s runId run userId).deductions.get? id =
      some (if isTaken s runId run d then decremented (appliedAmountOf d) d else d) := by
  change (Table.get? (s.deductions.mapRows _) id) = _
  rw [Table.get?_mapRows,hd,Option.map_some]

/-- What is applied never exceeds what remains. -/
theorem remainingAmount_decremented (d : StaffRecurringDeduction) :
    (decremented (appliedAmountOf d) d).remainingAmount = d.remainingAmount - appliedAmountOf d := by
  have hle : appliedAmountOf d ≤ d.remainingAmount := min_le_right _ _
  exact max_eq_left (by omega)

theorem settled_finalised (hs : Sound s) (hopen : ¬isFinalised s runId) (userId : ℕ) :
    DeductionsSettled s (finalised s runId run userId) runId := by
  have hentries : (finalised s runId run userId).entriesOf runId = settledRows s runId run := entriesOf_settled rfl
  refine ⟨?_,?_,?_,?_⟩
  · intro row hrow
    rw [hentries] at hrow
    obtain ⟨entry,hentry,rfl⟩ := List.mem_map.mp hrow
    rw [committedFor_finalised hs hopen userId hentry]
    cases hcomp : periodComp s run entry.2 with
    | none =>
      -- a skipped entry has no application either
      obtain ⟨hmem,hrun⟩ := mem_entriesOf.mp hentry
      have hzero := hs.untouched entry hmem (hrun ▸ hopen)
      simp [settledEntry,inputOf,scheduledFor,hcomp,hzero,PayTotals.zero]
    | some comp =>
      rw [sum_scheduledFor hcomp]
      simp [settledEntry,inputOf,hcomp,computed,compute,calcInputFor]
  · intro row hrow
    rw [hentries] at hrow
    obtain ⟨entry,hentry,rfl⟩ := List.mem_map.mp hrow
    cases hcomp : periodComp s run entry.2 with
    | none =>
      obtain ⟨hmem,hrun⟩ := mem_entriesOf.mp hentry
      left
      simpa [settledEntry,inputOf,hcomp] using hs.untouched entry hmem (hrun ▸ hopen)
    | some comp =>
      right
      simp only [settledEntry,inputOf,hcomp,Option.map_some,Option.elim_some,computed,compute,toCents_intCast]
      rfl
  · intro id d hd
    refine ⟨_,get?_deductions_finalised userId hd,?_⟩
    rw [committedOn_finalised hs hopen userId hd]
    split
    · exact remainingAmount_decremented d
    · exact (sub_zero _).symm
  · have hselect := Table.map_select_insertAll s.applications ((scheduledIn s runId run).map commit)
      (isCommittedOf runId)
    have hold : s.applications.select (isCommittedOf runId) = [] := by
      apply List.filter_eq_nil_iff.mpr
      intro a ha
      have hne : a.2.payrollRunId ≠ runId := fun h => hopen (h ▸ (hs.applications a ha).1)
      simp [isCommittedOf,hne]
    have hnew : ((scheduledIn s runId run).map commit).filter (isCommittedOf runId) =
        (scheduledIn s runId run).map commit := by
      apply List.filter_eq_self.mpr
      intro a ha
      obtain ⟨b,hb,rfl⟩ := List.mem_map.mp ha
      exact isCommittedOf_commit hb
    rw [hold,hnew] at hselect
    have hids := congrArg (List.map PayrollDeductionApplication.staffRecurringDeductionId) hselect
    rw [List.map_map] at hids
    change ((Table.select (s.applications.insertAll _) _).map _).Nodup
    refine (congrArg List.Nodup hids).mpr ?_
    rw [List.map_nil,List.nil_append,List.map_map]
    exact nodup_scheduledIn (hs.ready hopen)

/-- The job behind an approval pays nothing and takes nothing off. -/
theorem settled_approved (hs : Sound s) (hopen : ¬isFinalised s runId) (approverUserId : ℕ) :
    DeductionsSettled s (approved s runId run approverUserId) runId := by
  have hzero : ∀ row ∈ s.entriesOf runId, row.2.totals = .zero := by
    intro row hrow
    obtain ⟨hmem,hrun⟩ := mem_entriesOf.mp hrow
    exact hs.untouched row hmem (hrun ▸ hopen)
  refine ⟨?_,fun row hrow => .inl (hzero row hrow),?_,?_⟩
  · intro row hrow
    have hnone : committedFor (approved s runId run approverUserId) runId row.1 = 0 :=
      sumWhere_of_not_finalised hs hopen _
    rw [hnone,hzero row hrow]
    rfl
  · intro id d hd
    have hnone : committedOn (approved s runId run approverUserId) runId id = 0 :=
      sumWhere_of_not_finalised hs hopen _
    exact ⟨d,hd,by rw [hnone,sub_zero]⟩
  · have hnil : (approved s runId run approverUserId).applications.select (isCommittedOf runId) = [] := by
      apply List.filter_eq_nil_iff.mpr
      intro a ha
      have hne : a.2.payrollRunId ≠ runId := fun h => hopen (h ▸ (hs.applications a ha).1)
      simp [isCommittedOf,hne]
    rw [hnil]
    exact List.nodup_nil

theorem step_settlesDeductions (s : Register) (command : Command) (hs : Sound s) : SettlesDeductions s command := by
  intro id hopen
  have h := step_stepped hs command
  generalize step s command = s' at h ⊢
  cases h with
  | finalised runId userId run hf =>
    obtain ⟨-,-,-,-,hrun,-⟩ := hf
    intro hfinal
    rcases (isFinalised_closed hrun rfl id).mp hfinal with rfl | hold
    · exact settled_finalised hs hopen userId
    · exact absurd hold hopen
  | approved runId approverUserId run ha =>
    obtain ⟨-,hrun,-⟩ := ha
    intro hfinal
    rcases (isFinalised_closed hrun rfl id).mp hfinal with rfl | hold
    · exact settled_approved hs hopen approverUserId
    · exact absurd hold hopen
  | drafted _ _ hd => exact fun hfinal => absurd ((hd.finalised id).mp hfinal) hopen
  | deductions t _ _ _ => exact fun hfinal => absurd hfinal hopen

end

/-- In every sequence of requests, each run that is finalised withholds from its entries what it commits
and takes that off the deductions. -/
theorem guarded_settlesDeductions (records : StaffRecords) (commands : List Command) :
    Guarded step SettlesDeductions (Register.initial records) commands :=
  guarded_of_invariant step_sound step_settlesDeductions (initial_sound records)

end

/-! ## The balance of a deduction

What remains and the number of months that remain are counted down together. They were made to run out
together when the deduction was created, but an update changes the monthly amount alone.
-/

/-- All committed applications to a deduction. -/
def committedTotal (s : Register) (deductionId : ℕ) : ℤ :=
  s.applications.sumWhere (fun a => a.committed && a.staffRecurringDeductionId = deductionId) (·.appliedAmount)

/-- What is no longer remaining has been committed. -/
def Balanced (s : Register) : Prop := ∀ id d, s.deductions.get? id = some d →
  0 < d.totalAmount ∧ 0 < d.monthlyAmount ∧ 0 ≤ d.remainingAmount ∧
  d.totalAmount - d.remainingAmount = committedTotal s id

/-- A commit makes a deduction inactive only when nothing remains of it. -/
def OnlyWhenRepaid (s : Register) (command : Command) : Prop := command.commits = true → ∀ id d d',
  s.deductions.get? id = some d → (step s command).deductions.get? id = some d' →
  d.active = true → d'.active = false → d'.remainingAmount = 0

/-- No deduction in its last month is taken with more remaining than the monthly amount. -/
def LastMonthCovers (s : Register) (command : Command) : Prop := ∀ runId userId run,
  Finalises s command runId userId run → ∀ d ∈ s.deductions.rows, isTaken s runId run d.2 = true →
  2 ≤ d.2.monthsRemaining ∨ d.2.remainingAmount ≤ d.2.monthlyAmount

section
variable {s s' : Register} {runId : ℕ} {run : PayrollRun}

/-! ## Balances -/

theorem committedTotal_finalised (h : Ready s runId) (userId : ℕ) {id : ℕ} {d : StaffRecurringDeduction}
    (hd : s.deductions.get? id = some d) : committedTotal (finalised s runId run userId) id =
      committedTotal s id + if isTaken s runId run d then appliedAmountOf d else 0 := by
  rw [committedTotal,sumWhere_finalised,← sum_scheduledIn_deduction h hd]
  rfl

theorem balanced_finalised (h : Ready s runId) (hb : Balanced s) (userId : ℕ) :
    Balanced (finalised s runId run userId) := by
  intro id d' hd'
  obtain ⟨d,hd,rfl⟩ : ∃ d, s.deductions.get? id = some d ∧
      d' = if isTaken s runId run d then decremented (appliedAmountOf d) d else d := by
    change (Table.get? (s.deductions.mapRows _) id) = _ at hd'
    rw [Table.get?_mapRows] at hd'
    obtain ⟨d,hd,he⟩ := Option.map_eq_some_iff.mp hd'
    exact ⟨d,hd,he.symm⟩
  obtain ⟨htotal,hmonthly,hremaining,hbalance⟩ := hb id d hd
  rw [committedTotal_finalised h userId hd]
  split
  · rename_i htaken
    have hle : appliedAmountOf d ≤ d.remainingAmount := min_le_right _ _
    rw [remainingAmount_decremented]
    refine ⟨htotal,hmonthly,by omega,?_⟩
    change d.totalAmount - (d.remainingAmount - appliedAmountOf d) = _
    omega
  · exact ⟨htotal,hmonthly,hremaining,by omega⟩

theorem balanced_of_same (hb : Balanced s) (hd : s'.deductions = s.deductions)
    (ha : s'.applications = s.applications) : Balanced s' := by
  intro id d hget
  rw [committedTotal,ha]
  exact hb id d (hd ▸ hget)

theorem balanced_edit (hs : Sound s) (hb : Balanced s) {t : Table StaffRecurringDeduction} (ht : DeductionEdit s t) :
    Balanced { s with deductions := t } := by
  intro id d' hd'
  change t.get? id = some d' at hd'
  change _ ∧ _ ∧ _ ∧ _ = committedTotal s id
  cases ht with
  | create d htotal hmonthly hremaining _ =>
    rw [Table.get?_insert] at hd'
    split at hd'
    · rename_i hid
      obtain rfl := Option.some.inj hd'
      -- nothing has been committed under an identifier that was never used
      have hzero : committedTotal s id = 0 := by
        apply Table.sumWhere_eq_zero
        intro a ha
        have hsome := (hs.applications a ha).2.2
        have hne : a.2.staffRecurringDeductionId ≠ id := by
          rintro rfl
          rw [hid,Table.get?_next] at hsome
          cases hsome
        simp [hne]
      rw [hzero,hremaining]
      exact ⟨htotal,hmonthly,htotal.le,sub_self _⟩
    · exact hb id d' hd'
  | update deductionId monthlyAmount active hpos =>
    rw [Table.get?_modify] at hd'
    split at hd'
    · obtain ⟨d,hd,rfl⟩ := Option.map_eq_some_iff.mp hd'
      obtain ⟨htotal,hmonthly,hremaining,hbalance⟩ := hb id d hd
      refine ⟨htotal,?_,hremaining,hbalance⟩
      cases hm : monthlyAmount with
      | none => exact hmonthly
      | some m => exact hpos m hm
    · exact hb id d' hd'
  | delete deductionId _ =>
    rw [Table.get?_erase] at hd'
    split at hd'
    · cases hd'
    · exact hb id d' hd'

theorem step_balanced (s : Register) (command : Command) (h : Sound s ∧ Balanced s) :
    Sound (step s command) ∧ Balanced (step s command) := by
  obtain ⟨hs,hb⟩ := h
  refine ⟨step_sound s command hs,?_⟩
  have h := step_stepped hs command
  generalize step s command = s' at h ⊢
  cases h with
  | finalised runId userId run hf =>
    obtain ⟨-,-,-,-,hrun,hopen,-⟩ := hf
    have hnot : ¬isFinalised s runId := by
      rw [isFinalised_iff hrun]
      exact open_of_isOpen hopen
    exact balanced_finalised (hs.ready hnot) hb userId
  | approved => exact balanced_of_same hb rfl rfl
  | drafted _ _ hd => exact balanced_of_same hb hd.deductions hd.applications
  | deductions t _ _ ht => exact balanced_edit hs hb ht

/-! ## The last month -/

/-- A deduction that is taken stops precisely when it is repaid or in its last month. -/
theorem repaid_iff {d : StaffRecurringDeduction} :
    ((decremented (appliedAmountOf d) d).active = false →
      (decremented (appliedAmountOf d) d).remainingAmount = 0) ↔
    2 ≤ d.monthsRemaining ∨ d.remainingAmount ≤ d.monthlyAmount := by
  have hactive : (decremented (appliedAmountOf d) d).active =
      decide (0 < d.remainingAmount - appliedAmountOf d ∧ 0 < d.monthsRemaining - 1) := by
    rw [← remainingAmount_decremented]
    rfl
  rw [hactive,remainingAmount_decremented,decide_eq_false_iff_not]
  unfold appliedAmountOf
  omega

theorem onlyWhenRepaid_of_same {command : Command} (h : (step s command).deductions = s.deductions) :
    OnlyWhenRepaid s command := by
  intro _ id d d' hd hd' hactive hinactive
  rw [h,hd] at hd'
  rw [Option.some.inj hd',hinactive] at hactive
  cases hactive

theorem active_of_isTaken {d : StaffRecurringDeduction} (h : isTaken s runId run d = true) : d.active = true := by
  obtain ⟨row,-,hr⟩ := List.any_eq_true.mp h
  simp only [isDue,Bool.and_eq_true,decide_eq_true_eq] at hr
  exact hr.1.2.1.2

theorem onlyWhenRepaid_finalised_iff {command : Command} {userId : ℕ} (hs : Sound s)
    (hf : Finalises s command runId userId run) : OnlyWhenRepaid s command ↔ LastMonthCovers s command := by
  have hstep := step_finalises hs hf
  have hcommits : command.commits = true := by
    obtain ⟨_,_,_,rfl,-⟩ := hf
    rfl
  constructor
  · intro h runId' userId' run' hf' d hd htaken
    obtain ⟨rfl,rfl,rfl⟩ := hf.unique hf'
    have hget := Table.get?_of_row hd
    have hget' : (finalised s runId' run' userId').deductions.get? d.1 = _ := get?_deductions_finalised userId' hget
    rw [htaken,if_pos rfl] at hget'
    rw [← hstep] at hget'
    exact repaid_iff.mp (h hcommits d.1 d.2 _ hget hget' (active_of_isTaken htaken))
  · intro h _ id d d' hd hd' hactive hinactive
    rw [hstep,get?_deductions_finalised userId hd] at hd'
    obtain rfl := Option.some.inj hd'
    by_cases htaken : isTaken s runId run d = true
    · rw [if_pos htaken] at hinactive ⊢
      exact repaid_iff.mpr (h runId userId run hf (id,d) (Table.mem_of_get? hd) htaken) hinactive
    · rw [if_neg htaken,hactive] at hinactive
      cases hinactive

theorem step_onlyWhenRepaid_iff (s : Register) (command : Command) (hs : Sound s) :
    OnlyWhenRepaid s command ↔ LastMonthCovers s command := by
  by_cases hf : ∃ runId userId run, Finalises s command runId userId run
  · obtain ⟨runId,userId,run,hf⟩ := hf
    exact onlyWhenRepaid_finalised_iff hs hf
  · refine iff_of_true ?_ fun runId userId run h => absurd ⟨runId,userId,run,h⟩ hf
    by_cases hcommits : command.commits = true
    · apply onlyWhenRepaid_of_same
      have h := step_stepped hs command
      generalize step s command = s' at h ⊢
      cases h with
      | finalised runId userId run h => exact absurd ⟨runId,userId,run,h⟩ hf
      | approved => rfl
      | drafted _ _ hd => exact hd.deductions
      | deductions t _ hno _ => exact absurd hcommits (by simp [hno])
    · exact fun h => absurd h hcommits

end

/-- The balances are right throughout, and every deduction is collected in full precisely along the
sequences of requests whose finalisations meet no last month that falls short. -/
theorem trace_deductions_iff (records : StaffRecords) (commands : List Command) :
    ((∀ s ∈ trace step (Register.initial records) commands, Balanced s) ∧
      Guarded step OnlyWhenRepaid (Register.initial records) commands) ↔
      Guarded step LastMonthCovers (Register.initial records) commands := by
  have hb : ∀ s ∈ trace step (Register.initial records) commands, Sound s ∧ Balanced s := by
    apply trace_invariant (G := fun _ _ => True) (fun s command h _ => step_balanced s command h)
    · refine ⟨initial_sound records,fun id d hd => ?_⟩
      cases hd
    · exact guarded_of_invariant step_sound (fun _ _ _ => trivial) (initial_sound records)
  rw [← guarded_iff step_sound step_onlyWhenRepaid_iff (initial_sound records)]
  exact and_iff_right fun s hs => (hb s hs).2

/-! ## A monthly amount that is lowered -/

/-- 300.00 at 100.00 a month is lowered to 50.00 a month before the first of three runs. -/
def loweredMonthly : List Command :=
  [.createDeduction 1 30000 10000 (.firstOfMonth (12 * 2026)),.updateDeduction 0 (some 5000) none,
    .createRun 2026 3 22,.finalise 0 0 false false true false,.createRun 2026 4 22,.finalise 1 0 false false true false,
    .createRun 2026 5 22]

/-- The third run stops the deduction with 150.00 remaining. -/
theorem not_trace_deductions : ¬∀ (records : StaffRecords) (commands : List Command),
    (∀ s ∈ trace step (Register.initial records) commands, Balanced s) ∧
      Guarded step OnlyWhenRepaid (Register.initial records) commands := by
  intro h
  obtain ⟨-,hguarded⟩ := h oneSalary (loweredMonthly ++ [.finalise 2 0 false false true false])
  obtain ⟨-,-,-,-,-,-,-,hlast,-⟩ := hguarded
  have hbefore : (loweredMonthly.foldl step (Register.initial oneSalary)).deductions.get? 0 =
      some ⟨1,30000,5000,20000,.firstOfMonth (12 * 2026),1,true⟩ := by decide +kernel
  have hafter : ((loweredMonthly ++ [Command.finalise 2 0 false false true false]).foldl step
      (Register.initial oneSalary)).deductions.get? 0 =
      some ⟨1,30000,5000,15000,.firstOfMonth (12 * 2026),0,false⟩ := by decide +kernel
  exact absurd (hlast rfl 0 _ _ hbefore hafter rfl rfl) (by decide)

end EduPod.Payroll
