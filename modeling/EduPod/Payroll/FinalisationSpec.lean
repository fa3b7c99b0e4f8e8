import EduPod.Foundation.TableBulk
import EduPod.Payroll.Finalisation

/-! # What finalising a run does

The loops of `finaliseAtomic` in closed form, for a run of which nothing has been settled yet.
-/
namespace EduPod.Payroll
open Fallible

/-- Nothing of the run has been settled, and no staff member has two entries in it. -/
structure Ready (s : Register) (runId : ℕ) : Prop where
  unique : (s.entriesOf runId).Pairwise fun a b => a.2.staffProfileId ≠ b.2.staffProfileId
  applications : ∀ a ∈ s.applications.rows, a.2.payrollRunId ≠ runId
  payslips : ∀ p ∈ s.payslips.rows, p.2.payrollEntryId ∉ (s.entriesOf runId).map Prod.fst

/-- The contract an entry is paid by. -/
def periodComp (s : Register) (run : PayrollRun) (entry : PayrollEntry) : Option StaffCompensation :=
  findActiveForPeriod s.records entry.staffProfileId run.periodStart run.periodEnd

/-- The deductions that take something off the pay of a staff member. -/
def dueRows (s : Register) (run : PayrollRun) (staffProfileId : ℕ) : List (ℕ × StaffRecurringDeduction) :=
  (s.deductions.select (isDue run staffProfileId)).filter fun d => 0 < appliedAmountOf d.2

def applicationOf (runId entryId : ℕ) (d : ℕ × StaffRecurringDeduction) : PayrollDeductionApplication where
  payrollRunId := runId
  payrollEntryId := entryId
  staffRecurringDeductionId := d.1
  appliedAmount := appliedAmountOf d.2
  committed := false

/-- The applications an entry gets: none where it is skipped. -/
def scheduledFor (s : Register) (runId : ℕ) (run : PayrollRun) (row : ℕ × PayrollEntry) :
    List PayrollDeductionApplication :=
  if (periodComp s run row.2).isSome then
    (dueRows s run row.2.staffProfileId).map (applicationOf runId row.1)
  else []

def scheduledTotal (s : Register) (run : PayrollRun) (staffProfileId : ℕ) : ℤ :=
  ((dueRows s run staffProfileId).map fun d => appliedAmountOf d.2).sum

def inputOf (s : Register) (run : PayrollRun) (row : ℕ × PayrollEntry) : Option CalcInput :=
  (periodComp s run row.2).map fun comp =>
    calcInputFor s run row.1 comp (scheduledTotal s run row.2.staffProfileId)

def Register.addApplications (s : Register) (as : List PayrollDeductionApplication) : Register :=
  { s with applications := s.applications.insertAll as }

/-- The applications of a whole run. -/
def scheduledIn (s : Register) (runId : ℕ) (run : PayrollRun) : List PayrollDeductionApplication :=
  (s.entriesOf runId).flatMap (scheduledFor s runId run)

def commit (a : PayrollDeductionApplication) : PayrollDeductionApplication := { a with committed := true }

/-- A deduction that some entry of the run is paid net of. -/
def isTaken (s : Register) (runId : ℕ) (run : PayrollRun) (d : StaffRecurringDeduction) : Bool :=
  (s.entriesOf runId).any fun row =>
    (periodComp s run row.2).isSome && isDue run row.2.staffProfileId d && 0 < appliedAmountOf d

/-- An entry after the calculation; a skipped one stays as it is. -/
def settledEntry (s : Register) (run : PayrollRun) (id : ℕ) (entry : PayrollEntry) : PayrollEntry :=
  (inputOf s run (id,entry)).elim entry fun input => computed (compute input) entry

def settledRows (s : Register) (runId : ℕ) (run : PayrollRun) : List (ℕ × PayrollEntry) :=
  (s.entriesOf runId).map fun row => (row.1,settledEntry s run row.1 row.2)

@[grind] def payslipsOf (run : PayrollRun) (actorUserId : ℕ) : ℕ → List (ℕ × PayrollEntry) → List Payslip
  | _, [] => []
  | sequence, row :: rows =>
    payslipOf run actorUserId (sequence + 1) row.1 row.2 :: payslipsOf run actorUserId (sequence + 1) rows

def totalsOf (results : List CalcResult) : RunTotals where
  basic := (results.map (·.basePay)).sum
  bonus := (results.map (·.bonusPay)).sum
  net := (results.map (·.totals.netPay)).sum
  headcount := results.length

/-- The results the totals of a run are taken over. -/
def resultsOf (s : Register) (runId : ℕ) (run : PayrollRun) : List CalcResult :=
  (s.entriesOf runId).filterMap fun row => (inputOf s run row).map compute

/-- The register after a run is finalised. -/
def finalised (s : Register) (runId : ℕ) (run : PayrollRun) (actorUserId : ℕ) : Register where
  records := s.records
  runs := s.runs.modify runId (closed (totalsOf (resultsOf s runId run)) actorUserId)
  entries := s.entries.mapRows fun id e => if e.payrollRunId = runId then settledEntry s run id e else e
  adjustments := s.adjustments
  oneOffItems := s.oneOffItems
  deductions := s.deductions.mapRows fun _ d =>
    if isTaken s runId run d then decremented (appliedAmountOf d) d else d
  applications := s.applications.insertAll ((scheduledIn s runId run).map commit)
  payslips := s.payslips.insertAll (payslipsOf run actorUserId s.payslipSequence (settledRows s runId run))
  payslipSequence := s.payslipSequence + (s.entriesOf runId).length

section
variable {s : Register} {runId : ℕ} {run : PayrollRun}

/-! ## Scheduling -/

theorem hasApplication_insert {a : PayrollDeductionApplication} {deductionId : ℕ} :
    hasApplication { s with applications := s.applications.insert a } runId deductionId =
      (hasApplication s runId deductionId ||
        (a.payrollRunId = runId && a.staffRecurringDeductionId = deductionId)) := by
  simp [hasApplication,Table.insert]

theorem scheduleApplication_foldl {entryId : ℕ} {ds : List (ℕ × StaffRecurringDeduction)}
    (hn : (ds.map Prod.fst).Nodup) (hnone : ∀ d ∈ ds, hasApplication s runId d.1 = false) (total : ℤ) :
    ds.foldl (scheduleApplication runId entryId) (s,total) =
      let due := ds.filter fun d => 0 < appliedAmountOf d.2
      (s.addApplications (due.map (applicationOf runId entryId)),
        total + (due.map fun d => appliedAmountOf d.2).sum) := by
  induction ds generalizing s total with
  | nil => simp [Register.addApplications]
  | cons d ds ih =>
    obtain ⟨hd,hds⟩ := List.nodup_cons.mp hn
    have hrest := fun d' h => hnone d' (List.mem_cons_of_mem d h)
    rw [List.foldl_cons]
    unfold scheduleApplication
    by_cases happlied : appliedAmountOf d.2 ≤ 0
    · have hfilter : ¬0 < appliedAmountOf d.2 := not_lt.mpr happlied
      simp only [happlied,if_true]
      refine (ih hds hrest total).trans ?_
      simp [hfilter,Register.addApplications]
    · have hfilter : 0 < appliedAmountOf d.2 := not_le.mp happlied
      have hfresh : hasApplication s runId d.1 = false := hnone d List.mem_cons_self
      simp only [happlied,if_false,hfresh,Bool.false_eq_true]
      refine (ih hds ?_ _).trans ?_
      · intro d' hd'
        have hne : d.1 ≠ d'.1 := fun he => hd (he ▸ List.mem_map_of_mem hd')
        rw [hasApplication_insert,hrest d' hd']
        simpa using hne
      · simp [hfilter,applicationOf,Register.addApplications,add_assoc]

theorem scheduleApplicationForRun_eq {entryId staffProfileId : ℕ}
    (hnone : ∀ d ∈ s.deductions.select (isDue run staffProfileId), hasApplication s runId d.1 = false) :
    scheduleApplicationForRun s runId run entryId staffProfileId =
      (s.addApplications ((dueRows s run staffProfileId).map (applicationOf runId entryId)),
        scheduledTotal s run staffProfileId) := by
  have hn : ((s.deductions.select (isDue run staffProfileId)).map Prod.fst).Nodup :=
    (List.filter_sublist.map _).nodup s.deductions.nodup
  refine (scheduleApplication_foldl hn hnone 0).trans ?_
  simp [dueRows,scheduledTotal]

theorem mem_dueRows {staffProfileId : ℕ} {d : ℕ × StaffRecurringDeduction} :
    d ∈ dueRows s run staffProfileId ↔
      d ∈ s.deductions.rows ∧ isDue run staffProfileId d.2 = true ∧ 0 < appliedAmountOf d.2 := by
  simp only [dueRows,Table.select,List.mem_filter,decide_eq_true_eq,and_assoc]

theorem staff_of_isDue {staffProfileId : ℕ} {d : StaffRecurringDeduction}
    (h : isDue run staffProfileId d = true) : d.staffProfileId = staffProfileId := by
  simp only [isDue,Bool.and_eq_true,decide_eq_true_eq] at h
  exact h.1.1

/-- An application made for an entry takes from a deduction of its staff member. -/
theorem of_mem_scheduledFor {row : ℕ × PayrollEntry} {a : PayrollDeductionApplication}
    (h : a ∈ scheduledFor s runId run row) :
    (periodComp s run row.2).isSome ∧ ∃ d ∈ dueRows s run row.2.staffProfileId, a = applicationOf runId row.1 d := by
  unfold scheduledFor at h
  split at h
  · rename_i hc
    obtain ⟨d,hd,rfl⟩ := List.mem_map.mp h
    exact ⟨hc,d,hd,rfl⟩
  · cases h

theorem resolveEntry_none {acc : Register × List (ℕ × CalcInput)} {row : ℕ × PayrollEntry}
    (h : periodComp acc.1 run row.2 = none) : resolveEntry runId run acc row = acc := by
  simp only [periodComp] at h
  simp only [resolveEntry,h]

theorem resolveEntry_some {acc : Register × List (ℕ × CalcInput)} {row : ℕ × PayrollEntry} {comp : StaffCompensation}
    (h : periodComp acc.1 run row.2 = some comp) : resolveEntry runId run acc row =
      ((scheduleApplicationForRun acc.1 runId run row.1 row.2.staffProfileId).1,acc.2 ++ [(row.1,
        calcInputFor acc.1 run row.1 comp (scheduleApplicationForRun acc.1 runId run row.1 row.2.staffProfileId).2)]) := by
  simp only [periodComp] at h
  simp only [resolveEntry,h]

/-- The loop over the entries; `done` is what the entries before have been given. -/
theorem resolveEntry_foldl {rows : List (ℕ × PayrollEntry)} (done : List PayrollDeductionApplication)
    (inputs : List (ℕ × CalcInput))
    (hrows : rows.Pairwise fun a b => a.2.staffProfileId ≠ b.2.staffProfileId)
    (hnone : ∀ a ∈ s.applications.rows, a.2.payrollRunId ≠ runId)
    (hdone : ∀ a ∈ done, ∃ d, (a.staffRecurringDeductionId,d) ∈ s.deductions.rows ∧
      ∀ row ∈ rows, d.staffProfileId ≠ row.2.staffProfileId) :
    rows.foldl (resolveEntry runId run) (s.addApplications done,inputs) =
      (s.addApplications (done ++ rows.flatMap (scheduledFor s runId run)),
        inputs ++ rows.filterMap fun row => (inputOf s run row).map fun input => (row.1,input)) := by
  induction rows generalizing done inputs with
  | nil => simp
  | cons row rows ih =>
    obtain ⟨hrow,hrest⟩ := List.pairwise_cons.mp hrows
    rw [List.foldl_cons]
    cases hc : periodComp s run row.2 with
    | none =>
      have hstep : resolveEntry runId run (s.addApplications done,inputs) row =
          (s.addApplications done,inputs) := resolveEntry_none hc
      rw [hstep,ih done inputs hrest]
      · simp [scheduledFor,inputOf,hc]
      · intro a ha
        obtain ⟨d,hd,hne⟩ := hdone a ha
        exact ⟨d,hd,fun row' h => hne row' (List.mem_cons_of_mem row h)⟩
    | some comp =>
      have hfresh : ∀ d ∈ s.deductions.select (isDue run row.2.staffProfileId),
          hasApplication (s.addApplications done) runId d.1 = false := by
        intro d hd
        obtain ⟨hmem,hdue⟩ := List.mem_filter.mp hd
        rw [hasApplication,List.any_eq_false]
        intro a ha
        have hcases : (∃ r ∈ s.applications.rows, r.2 = a.2) ∨ a.2 ∈ done := Table.mem_insertAll.mp ⟨a,ha,rfl⟩
        rcases hcases with ⟨r,hr,he⟩ | hin
        · have := hnone r hr
          rw [he] at this
          simp [this]
        · -- an earlier entry belongs to another staff member, and so do its deductions
          obtain ⟨d',hd',hne⟩ := hdone a.2 hin
          have hstaff := hne row List.mem_cons_self
          have hid : a.2.staffRecurringDeductionId ≠ d.1 := by
            intro he
            have hsame : d' = d.2 := congrArg Prod.snd (Table.row_unique hd' hmem he)
            rw [hsame] at hstaff
            exact hstaff (staff_of_isDue hdue)
          simp [hid]
      have hstep : resolveEntry runId run (s.addApplications done,inputs) row =
          (s.addApplications (done ++ scheduledFor s runId run row),
            inputs ++ [(row.1,calcInputFor s run row.1 comp (scheduledTotal s run row.2.staffProfileId))]) := by
        rw [resolveEntry_some hc]
        have hadd : (s.addApplications done).addApplications
            ((dueRows s run row.2.staffProfileId).map (applicationOf runId row.1)) =
            s.addApplications (done ++ scheduledFor s runId run row) := by
          simp [Register.addApplications,scheduledFor,hc,Table.insertAll_append]
        rw [← hadd]
        exact congrArg (fun x : Register × ℤ => (x.1,inputs ++ [(row.1,calcInputFor s run row.1 comp x.2)]))
          (scheduleApplicationForRun_eq hfresh)
      rw [hstep,ih (done ++ scheduledFor s runId run row) _ hrest]
      · simp [inputOf,hc]
      · intro a ha
        rcases List.mem_append.mp ha with ha | ha
        · obtain ⟨d,hd,hne⟩ := hdone a ha
          exact ⟨d,hd,fun row' h => hne row' (List.mem_cons_of_mem row h)⟩
        · obtain ⟨-,d,hd,rfl⟩ := of_mem_scheduledFor ha
          obtain ⟨hmem,hdue,-⟩ := mem_dueRows.mp hd
          refine ⟨d.2,hmem,fun row' h => ?_⟩
          rw [staff_of_isDue hdue]
          exact hrow row' h

theorem resolveForRun_eq (h : Ready s runId) : resolveForRun s runId run =
    (s.addApplications (scheduledIn s runId run),
      (s.entriesOf runId).filterMap fun row => (inputOf s run row).map fun input => (row.1,input)) :=
  resolveEntry_foldl [] [] h.unique h.applications (fun _ ha => absurd ha List.not_mem_nil)

/-! ## Computing -/

theorem computeEntry_foldl (inputs : List (ℕ × CalcInput)) (s : Register) (totals : RunTotals) :
    inputs.foldl computeEntry (s,totals) =
      ({ s with entries := inputs.foldl (fun t u => t.modify u.1 (computed (compute u.2))) s.entries },
        { basic := totals.basic + (totalsOf (inputs.map fun u => compute u.2)).basic
          bonus := totals.bonus + (totalsOf (inputs.map fun u => compute u.2)).bonus
          net := totals.net + (totalsOf (inputs.map fun u => compute u.2)).net
          headcount := totals.headcount + inputs.length }) := by
  induction inputs generalizing s totals with
  | nil => simp [totalsOf]
  | cons u inputs ih =>
    rw [List.foldl_cons,computeEntry,ih]
    simp only [totalsOf,List.map_cons,List.sum_cons,List.length_cons,List.foldl_cons,add_assoc,add_comm 1]

theorem nodup_entriesOf : ((s.entriesOf runId).map Prod.fst).Nodup := Table.nodup_select _ _

theorem mem_entriesOf {row : ℕ × PayrollEntry} :
    row ∈ s.entriesOf runId ↔ row ∈ s.entries.rows ∧ row.2.payrollRunId = runId := by
  simp [Register.entriesOf,Table.select]

theorem computed_entries : ((s.entriesOf runId).filterMap fun row =>
      (inputOf s run row).map fun input => (row.1,input)).foldl
        (fun t u => t.modify u.1 (computed (compute u.2))) s.entries =
    s.entries.mapRows fun id e => if e.payrollRunId = runId then settledEntry s run id e else e := by
  have hn : (((s.entriesOf runId).filterMap fun row =>
      (inputOf s run row).map fun input => (row.1,input)).map Prod.fst).Nodup := by
    have hentries : ((s.entriesOf runId).map Prod.fst).Nodup := nodup_entriesOf
    refine List.Nodup.sublist ?_ hentries
    generalize s.entriesOf runId = rows
    induction rows with
    | nil => simp
    | cons row rows ih =>
      cases h : inputOf s run row with
      | none => simpa [h] using ih.cons row.1
      | some input => simpa [h] using ih
  rw [Table.foldl_modify _ hn fun input => computed (compute input)]
  apply Table.mapRows_congr
  intro row hrow
  by_cases hin : row.2.payrollRunId = runId
  · rw [if_pos hin,Table.lookup_filterMap nodup_entriesOf _ (mem_entriesOf.mpr ⟨hrow,hin⟩)]
    rfl
  · rw [if_neg hin]
    have hnone : ((s.entriesOf runId).filterMap fun r =>
        (inputOf s run r).map fun input => (r.1,input)).lookup row.1 = none := by
      apply Table.lookup_eq_none_of_ne
      intro q hq hid
      obtain ⟨r,hmem,he⟩ := List.mem_filterMap.mp hq
      obtain ⟨input,-,rfl⟩ := Option.map_eq_some_iff.mp he
      obtain ⟨hr,hrun⟩ := mem_entriesOf.mp hmem
      exact hin (Table.row_unique hr hrow hid ▸ hrun)
    rw [hnone]
    rfl

/-! ## Committing -/

theorem modify_decremented {t : Table StaffRecurringDeduction} {id : ℕ} {d : StaffRecurringDeduction}
    (h : t.get? id = some d) (appliedAmount : ℤ) :
    (t.modify id fun c => { c with
      remainingAmount := (decremented appliedAmount d).remainingAmount
      monthsRemaining := (decremented appliedAmount d).monthsRemaining
      active := (decremented appliedAmount d).active }) = t.modify id (decremented appliedAmount) := by
  rw [Table.modify_eq_mapRows,Table.modify_eq_mapRows]
  apply Table.mapRows_congr
  intro r hr
  by_cases he : r.1 = id
  · have hr' := Table.get?_of_row hr
    rw [he,h] at hr'
    rw [if_pos he,if_pos he,← Option.some.inj hr']
    rfl
  · rw [if_neg he,if_neg he]

/-- Each deduction is written from the row it still has, as none is committed twice. -/
theorem commitApplication_foldl {read : Table StaffRecurringDeduction}
    {rows : List (ℕ × PayrollDeductionApplication)}
    (hn : (rows.map fun r => r.2.staffRecurringDeductionId).Nodup) (s : Register)
    (hread : ∀ r ∈ rows, ∃ d, read.get? r.2.staffRecurringDeductionId = some d ∧
      s.deductions.get? r.2.staffRecurringDeductionId = some d) :
    rows.foldl (commitApplication read) s =
      { s with
        deductions := (rows.map fun r => (r.2.staffRecurringDeductionId,r.2.appliedAmount)).foldl
          (fun t u => t.modify u.1 (decremented u.2)) s.deductions
        applications := rows.foldl (fun t r => t.modify r.1 commit) s.applications } := by
  induction rows generalizing s with
  | nil => rfl
  | cons r rows ih =>
    obtain ⟨hr,hrows⟩ := List.nodup_cons.mp hn
    obtain ⟨d,hd,hd'⟩ := hread r List.mem_cons_self
    have hstep : commitApplication read s r = { s with
        deductions := s.deductions.modify r.2.staffRecurringDeductionId (decremented r.2.appliedAmount)
        applications := s.applications.modify r.1 commit } := by
      unfold commitApplication
      rw [hd]
      simp only [modify_decremented hd']
      rfl
    rw [List.foldl_cons,hstep,ih hrows]
    · rfl
    · intro q hq
      obtain ⟨d,hd,hd'⟩ := hread q (List.mem_cons_of_mem r hq)
      have hne : q.2.staffRecurringDeductionId ≠ r.2.staffRecurringDeductionId :=
        fun he => hr (List.mem_map.mpr ⟨q,hq,he⟩)
      exact ⟨d,hd,(Table.get?_modify_ne _ hne _).trans hd'⟩

theorem nodup_dueRows {staffProfileId : ℕ} : ((dueRows s run staffProfileId).map Prod.fst).Nodup :=
  (List.filter_sublist.map _).nodup (Table.nodup_select _ _)

/-- No deduction is scheduled twice in a run. -/
theorem nodup_scheduledIn (h : Ready s runId) :
    ((scheduledIn s runId run).map (·.staffRecurringDeductionId)).Nodup := by
  rw [scheduledIn,List.map_flatMap,List.nodup_flatMap]
  constructor
  · intro row _
    unfold scheduledFor
    split
    · rw [List.map_map]
      exact nodup_dueRows
    · exact List.nodup_nil
  · refine h.unique.imp ?_
    intro a b hne id ha hb
    obtain ⟨x,hx,rfl⟩ := List.mem_map.mp ha
    obtain ⟨y,hy,he⟩ := List.mem_map.mp hb
    obtain ⟨-,d,hd,rfl⟩ := of_mem_scheduledFor hx
    obtain ⟨-,d',hd',rfl⟩ := of_mem_scheduledFor hy
    obtain ⟨hmem,hdue,-⟩ := mem_dueRows.mp hd
    obtain ⟨hmem',hdue',-⟩ := mem_dueRows.mp hd'
    rw [Table.row_unique hmem' hmem he] at hdue'
    exact hne ((staff_of_isDue hdue).symm.trans (staff_of_isDue hdue'))

theorem of_mem_scheduledIn {a : PayrollDeductionApplication} (h : a ∈ scheduledIn s runId run) :
    ∃ row ∈ s.entriesOf runId, (periodComp s run row.2).isSome ∧
      ∃ d ∈ dueRows s run row.2.staffProfileId, a = applicationOf runId row.1 d := by
  obtain ⟨row,hrow,ha⟩ := List.mem_flatMap.mp h
  exact ⟨row,hrow,of_mem_scheduledFor ha⟩

/-- The deductions that are taken are those with an application. -/
theorem lookup_scheduledIn (h : Ready s runId) {d : ℕ × StaffRecurringDeduction} (hd : d ∈ s.deductions.rows) :
    ((scheduledIn s runId run).map fun a => (a.staffRecurringDeductionId,a.appliedAmount)).lookup d.1 =
      if isTaken s runId run d.2 then some (appliedAmountOf d.2) else none := by
  by_cases ht : isTaken s runId run d.2 = true
  · rw [if_pos ht]
    obtain ⟨row,hrow,hr⟩ := List.any_eq_true.mp ht
    simp only [Bool.and_eq_true,decide_eq_true_eq] at hr
    obtain ⟨⟨hc,hdue⟩,hpos⟩ := hr
    have hmem : applicationOf runId row.1 d ∈ scheduledIn s runId run := by
      refine List.mem_flatMap.mpr ⟨row,hrow,?_⟩
      rw [scheduledFor,if_pos hc]
      exact List.mem_map_of_mem (mem_dueRows.mpr ⟨hd,hdue,hpos⟩)
    have hn : (((scheduledIn s runId run).map fun a => (a.staffRecurringDeductionId,a.appliedAmount)).map
        Prod.fst).Nodup := by
      rw [List.map_map]
      exact nodup_scheduledIn h
    exact Table.lookup_of_mem hn (List.mem_map.mpr ⟨_,hmem,rfl⟩)
  · rw [if_neg ht]
    apply Table.lookup_eq_none_of_ne
    intro q hq he
    obtain ⟨a,ha,rfl⟩ := List.mem_map.mp hq
    obtain ⟨row,hrow,hc,d',hd',rfl⟩ := of_mem_scheduledIn ha
    obtain ⟨hmem',hdue',hpos'⟩ := mem_dueRows.mp hd'
    rw [Table.row_unique hmem' hd he] at hdue' hpos'
    exact ht (List.any_eq_true.mpr ⟨row,hrow,by simp [hc,hdue',hpos']⟩)

/-- Committing what has just been scheduled. -/
theorem commitApplications_eq (h : Ready s runId) (s' : Register) (hdeductions : s'.deductions = s.deductions)
    (happlications : s'.applications = s.applications.insertAll (scheduledIn s runId run)) :
    commitApplications s' runId = { s' with
      deductions := s.deductions.mapRows fun _ d =>
        if isTaken s runId run d then decremented (appliedAmountOf d) d else d
      applications := s.applications.insertAll ((scheduledIn s runId run).map commit) } := by
  have hopen : ∀ a ∈ scheduledIn s runId run, a.payrollRunId = runId ∧ a.committed = false := by
    intro a ha
    obtain ⟨row,-,-,d,-,rfl⟩ := of_mem_scheduledIn ha
    exact ⟨rfl,rfl⟩
  let pending : PayrollDeductionApplication → Bool := fun a => a.payrollRunId = runId && !a.committed
  have hvalues : (s'.applications.select pending).map Prod.snd = scheduledIn s runId run := by
    rw [happlications,Table.map_select_insertAll]
    have hnone : s.applications.select pending = [] := by
      apply List.filter_eq_nil_iff.mpr
      intro a ha
      simp [pending,h.applications a ha]
    have hall : (scheduledIn s runId run).filter pending = scheduledIn s runId run := by
      apply List.filter_eq_self.mpr
      intro a ha
      simp [pending,hopen a ha]
    rw [hnone,hall]
    rfl
  have hpairs : (s'.applications.select pending).map (fun r => (r.2.staffRecurringDeductionId,r.2.appliedAmount)) =
      (scheduledIn s runId run).map fun a => (a.staffRecurringDeductionId,a.appliedAmount) := by
    rw [← hvalues,List.map_map]
    rfl
  have hn : ((s'.applications.select pending).map fun r => r.2.staffRecurringDeductionId).Nodup := by
    have hscheduled : ((scheduledIn s runId run).map (·.staffRecurringDeductionId)).Nodup := nodup_scheduledIn h
    rw [← hvalues,List.map_map] at hscheduled
    exact hscheduled
  have hread : ∀ r ∈ s'.applications.select pending, ∃ d,
      s'.deductions.get? r.2.staffRecurringDeductionId = some d ∧
        s'.deductions.get? r.2.staffRecurringDeductionId = some d := by
    intro r hr
    have hmem : r.2 ∈ scheduledIn s runId run := hvalues ▸ List.mem_map_of_mem hr
    obtain ⟨row,-,-,d,hd,he⟩ := of_mem_scheduledIn hmem
    rw [he,hdeductions]
    have := Table.get?_of_row (mem_dueRows.mp hd).1
    exact ⟨d.2,this,this⟩
  refine (commitApplication_foldl hn s' hread).trans ?_
  have hded : ((s'.applications.select pending).map fun r =>
        (r.2.staffRecurringDeductionId,r.2.appliedAmount)).foldl
          (fun t u => t.modify u.1 (decremented u.2)) s'.deductions =
      s.deductions.mapRows fun _ d => if isTaken s runId run d then decremented (appliedAmountOf d) d else d := by
    have hnodup : (((scheduledIn s runId run).map fun a =>
        (a.staffRecurringDeductionId,a.appliedAmount)).map Prod.fst).Nodup := by
      rw [List.map_map]
      exact nodup_scheduledIn h
    rw [hpairs,hdeductions,Table.foldl_modify _ hnodup decremented]
    apply Table.mapRows_congr
    intro d hd
    rw [lookup_scheduledIn h hd]
    split <;> rfl
  have happ : (s'.applications.select pending).foldl (fun t r => t.modify r.1 commit) s'.applications =
      s.applications.insertAll ((scheduledIn s runId run).map commit) := by
    refine (Table.foldl_modify_select s'.applications pending commit).trans ?_
    rw [happlications,Table.mapRows_insertAll]
    congr 1
    · apply Table.mapRows_eq_self
      intro a ha
      simp [pending,h.applications a ha]
    · apply List.map_congr_left
      intro a ha
      simp [pending,hopen a ha]
  rw [hded,happ]

/-! ## Payslips -/

theorem hasPayslip_insert {payslip : Payslip} {entryId : ℕ} :
    s.payslips.rows.any (fun p => p.2.payrollEntryId = entryId) = false → payslip.payrollEntryId ≠ entryId →
      (s.payslips.insert payslip).rows.any (fun p => p.2.payrollEntryId = entryId) = false := by
  intro h hne
  simp [Table.insert,h,hne]

theorem issuePayslip_foldl {actorUserId : ℕ} {rows : List (ℕ × PayrollEntry)} (hn : (rows.map Prod.fst).Nodup)
    (s : Register) (hnone : ∀ row ∈ rows, hasPayslip s row.1 = false) :
    rows.foldl (issuePayslip run actorUserId) s = { s with
      payslips := s.payslips.insertAll (payslipsOf run actorUserId s.payslipSequence rows)
      payslipSequence := s.payslipSequence + rows.length } := by
  induction rows generalizing s with
  | nil => rfl
  | cons row rows ih =>
    obtain ⟨hrow,hrows⟩ := List.nodup_cons.mp hn
    have hstep : issuePayslip run actorUserId s row = { s with
        payslipSequence := s.payslipSequence + 1
        payslips := s.payslips.insert (payslipOf run actorUserId (s.payslipSequence + 1) row.1 row.2) } := by
      rw [issuePayslip,hnone row List.mem_cons_self]
      rfl
    rw [List.foldl_cons,hstep,ih hrows]
    · simp only [payslipsOf,Table.insertAll_cons,List.length_cons,add_assoc,add_comm 1]
    · intro row' h
      have hne : row.1 ≠ row'.1 := fun he => hrow (he ▸ List.mem_map_of_mem h)
      exact hasPayslip_insert (hnone row' (List.mem_cons_of_mem row h)) hne

theorem hasPayslip_of_ready (h : Ready s runId) {entryId : ℕ} (hid : entryId ∈ (s.entriesOf runId).map Prod.fst) :
    hasPayslip s entryId = false := by
  apply List.any_eq_false.mpr
  intro p hp
  have hne : p.2.payrollEntryId ≠ entryId := fun he => h.payslips p hp (he ▸ hid)
  simpa using hne

theorem settledEntry_run (id : ℕ) (entry : PayrollEntry) :
    (settledEntry s run id entry).payrollRunId = entry.payrollRunId := by
  unfold settledEntry
  cases inputOf s run (id,entry) <;> rfl

/-- The entries of the run once they are computed. -/
theorem entriesOf_settled {s' : Register} (h : s'.entries = s.entries.mapRows fun id e =>
      if e.payrollRunId = runId then settledEntry s run id e else e) :
    s'.entriesOf runId = settledRows s runId run := by
  unfold Register.entriesOf settledRows
  rw [h,Table.select_mapRows]
  · apply List.map_congr_left
    intro row hrow
    rw [if_pos (mem_entriesOf.mp hrow).2]
  · intro row _
    split
    · rw [settledEntry_run]
    · rfl

theorem settledRows_ids : (settledRows s runId run).map Prod.fst = (s.entriesOf runId).map Prod.fst := by
  rw [settledRows,List.map_map]
  rfl

/-! ## Both paths -/

theorem resultsOf_eq : resultsOf s runId run = ((s.entriesOf runId).filterMap fun row =>
    (inputOf s run row).map fun input => (row.1,input)).map fun u => compute u.2 := by
  rw [List.map_filterMap]
  apply List.filterMap_congr
  intro row _
  rw [Option.map_map]
  rfl

/-- The register between the calculation and the payslips. -/
def computedRegister (s : Register) (runId : ℕ) (run : PayrollRun) : Register :=
  { s.addApplications (scheduledIn s runId run) with
    entries := s.entries.mapRows fun id e => if e.payrollRunId = runId then settledEntry s run id e else e }

/-- The register between the commits and the payslips. -/
def committedRegister (s : Register) (runId : ℕ) (run : PayrollRun) : Register :=
  { computedRegister s runId run with
    deductions := s.deductions.mapRows fun _ d =>
      if isTaken s runId run d then decremented (appliedAmountOf d) d else d
    applications := s.applications.insertAll ((scheduledIn s runId run).map commit) }

theorem computeEntry_resolved :
    ((s.entriesOf runId).filterMap fun row => (inputOf s run row).map fun input => (row.1,input)).foldl
        computeEntry (s.addApplications (scheduledIn s runId run),⟨0,0,0,0⟩) =
      (computedRegister s runId run,totalsOf (resultsOf s runId run)) := by
  rw [computeEntry_foldl,← resultsOf_eq]
  have hentries : ((s.entriesOf runId).filterMap fun row =>
      (inputOf s run row).map fun input => (row.1,input)).foldl
        (fun t u => t.modify u.1 (computed (compute u.2))) (s.addApplications (scheduledIn s runId run)).entries =
      s.entries.mapRows fun id e => if e.payrollRunId = runId then settledEntry s run id e else e :=
    computed_entries
  have hlength : ((s.entriesOf runId).filterMap fun row =>
      (inputOf s run row).map fun input => (row.1,input)).length = (resultsOf s runId run).length := by
    rw [resultsOf_eq,List.length_map]
  rw [hentries,hlength]
  simp [computedRegister,totalsOf]

theorem generatePayslipsForRun_eq (h : Ready s runId) {s' : Register} (hids : s'.entriesOf runId = settledRows s runId run)
    (hpayslips : s'.payslips = s.payslips) (actorUserId : ℕ) :
    generatePayslipsForRun s' runId run actorUserId = { s' with
      payslips := s.payslips.insertAll (payslipsOf run actorUserId s'.payslipSequence (settledRows s runId run))
      payslipSequence := s'.payslipSequence + (s.entriesOf runId).length } := by
  have hn : ((settledRows s runId run).map Prod.fst).Nodup := settledRows_ids ▸ nodup_entriesOf
  have hnone : ∀ row ∈ settledRows s runId run, hasPayslip s' row.1 = false := by
    intro row hrow
    obtain ⟨row',hrow',rfl⟩ := List.mem_map.mp hrow
    rw [hasPayslip,hpayslips]
    exact hasPayslip_of_ready h (List.mem_map.mpr ⟨row',hrow',rfl⟩)
  rw [generatePayslipsForRun,hids,issuePayslip_foldl hn s' hnone,hpayslips]
  simp [settledRows]

/-- The direct path on a run that is open in the expected state. -/
theorem finaliseAtomic_eq (h : Ready s runId) (hrun : s.runs.get? runId = some run) (hopen : run.status ≠ .finalised)
    (actorUserId : ℕ) : finaliseAtomic s runId actorUserId run.status = .ok (finalised s runId run actorUserId) := by
  unfold finaliseAtomic
  rw [require_bind_eq_ok]
  refine ⟨run,hrun,?_⟩
  rw [if_neg hopen,ensure_bind_eq_ok]
  refine ⟨rfl,?_⟩
  rw [pure_eq_ok,resolveForRun_eq h]
  dsimp only
  rw [computeEntry_resolved]
  dsimp only
  have hcommit : commitApplications (computedRegister s runId run) runId = committedRegister s runId run :=
    commitApplications_eq h _ rfl rfl
  have hids : (committedRegister s runId run).entriesOf runId = settledRows s runId run := entriesOf_settled rfl
  rw [hcommit,generatePayslipsForRun_eq h hids rfl]
  rfl

/-- What the job leaves of a run: what its entries held. -/
def approved (s : Register) (runId : ℕ) (run : PayrollRun) (approverUserId : ℕ) : Register where
  records := s.records
  runs := s.runs.modify runId (closed ((s.entriesOf runId).foldl addPersisted ⟨0,0,0,0⟩) approverUserId)
  entries := s.entries
  adjustments := s.adjustments
  oneOffItems := s.oneOffItems
  deductions := s.deductions
  applications := s.applications
  payslips := s.payslips.insertAll (payslipsOf run approverUserId s.payslipSequence (s.entriesOf runId))
  payslipSequence := s.payslipSequence + (s.entriesOf runId).length

theorem commitApplications_of_ready (h : Ready s runId) : commitApplications s runId = s := by
  have hnone : s.applications.select (fun a => a.payrollRunId = runId && !a.committed) = [] := by
    apply List.filter_eq_nil_iff.mpr
    intro a ha
    simp [h.applications a ha]
  rw [commitApplications,hnone]
  rfl

theorem processJob_eq (h : Ready s runId) (hrun : s.runs.get? runId = some run)
    (hpending : run.status = .pendingApproval) (approverUserId : ℕ) :
    processJob s runId approverUserId = .ok (approved s runId run approverUserId) := by
  unfold processJob
  rw [require_bind_eq_ok]
  refine ⟨run,hrun,?_⟩
  rw [if_pos hpending,pure_eq_ok,commitApplications_of_ready h,
    issuePayslip_foldl nodup_entriesOf s fun row hrow => hasPayslip_of_ready h (List.mem_map_of_mem hrow)]
  rfl

end

end EduPod.Payroll
