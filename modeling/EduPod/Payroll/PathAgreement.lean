import EduPod.Payroll.Drafts

/-! # The two paths compared

The direct path pays what it resolves, the job behind an approval what the entries hold. The
aggregates of an entry hold nothing before it is finalised, so the two agree where there is nothing
to pay.
-/
namespace EduPod.Payroll
open Fallible Finance

/-- What is compared: the pay on every payslip of the run, its totals and headcount, and its committed
applications by entry, deduction and amount. -/
structure Outcome where
  payslips : List (ℕ × PayslipPay)
  totals : RunTotals
  applications : List (ℕ × ℕ × ℤ)
  deriving DecidableEq

def payOn (p : Payslip) : ℕ × PayslipPay := (p.payrollEntryId,⟨p.basePay,p.bonusPay,p.totals⟩)

def isOfRun (s : Register) (runId : ℕ) (p : Payslip) : Bool :=
  (s.entries.get? p.payrollEntryId).any fun e => e.payrollRunId = runId

def isCommittedOf (runId : ℕ) (a : PayrollDeductionApplication) : Bool := a.payrollRunId = runId && a.committed

def outcomeOf (s : Register) (runId : ℕ) : Option Outcome :=
  (s.runs.get? runId).map fun run =>
    { payslips := (s.payslips.select (isOfRun s runId)).map fun p => payOn p.2
      totals := ⟨run.totalBasicPay,run.totalBonusPay,run.totalPay,run.headcount⟩
      applications := (s.applications.select (isCommittedOf runId)).map fun a =>
        (a.2.payrollEntryId,a.2.staffRecurringDeductionId,a.2.appliedAmount) }

def setStatus (s : Register) (runId : ℕ) (status : PayrollRunStatus) : Register :=
  { s with runs := s.runs.modify runId fun r => { r with status := status } }

/-- From the same tables, status aside, both paths go through and have the same outcome. -/
def PathsAgree (s : Register) (runId : ℕ) : Prop := ∀ run userId approverUserId,
  s.runs.get? runId = some run → (run.status = .draft ∨ run.status = .pendingApproval) →
  ∃ direct approved, finaliseAtomic (setStatus s runId .draft) runId userId .draft = .ok direct ∧
    processJob (setStatus s runId .pendingApproval) runId approverUserId = .ok approved ∧
    outcomeOf direct runId = outcomeOf approved runId

/-- The share of the working days of the period, to four places. -/
def workedShare (s : Register) (run : PayrollRun) (staffProfileId : ℕ) : ℚ :=
  toFixed 4 (calculateDaysWorkedForPeriod s.records staffProfileId run.periodStart run.periodEnd run.totalWorkingDays /
    run.totalWorkingDays)

/-- The contract earns less than half a cent of salary and nothing by the class. -/
def EarnsNothing (s : Register) (run : PayrollRun) (comp : StaffCompensation) : Prop :=
  (comp.compensationType = .salaried → run.totalWorkingDays ≠ 0 → ∀ salary, comp.baseSalary = some salary →
    2 * |salary * workedShare s run comp.staffProfileId| < 1) ∧
  (comp.compensationType = .perClass → ∀ rate, comp.perClassRate = some rate →
    rate * (deliveredCount s.records run comp.staffProfileId : ℤ) = 0)

/-- Every entry has a contract in the period, but there is nothing to pay or to take off, and the
draft amounts are zero as well. -/
def NothingPayable (s : Register) (runId : ℕ) : Prop := ∀ run, s.runs.get? runId = some run →
  (run.status = .draft ∨ run.status = .pendingApproval) → ∀ row ∈ s.entriesOf runId,
  row.2.basicPay = 0 ∧ row.2.bonusPay = 0 ∧
  (∃ comp, periodComp s run row.2 = some comp ∧ EarnsNothing s run comp) ∧
  calculateAllowancesTotalForPeriod s.records row.2.staffProfileId run.periodStart run.periodEnd = 0 ∧
  (∀ i ∈ s.oneOffItems.rows, i.2.payrollEntryId = row.1 → i.2.amount = 0) ∧
  (∀ a ∈ s.adjustments.rows, a.2.payrollEntryId = row.1 → a.2.amount = 0) ∧
  ∀ d ∈ s.deductions.rows, isDue run row.2.staffProfileId d.2 = true → appliedAmountOf d.2 ≤ 0

/-! ## Amounts that come to nothing -/

theorem toColumn_eq_zero_iff (x : ℚ) : toColumn x = 0 ↔ 2 * |x| < 1 := by
  unfold toColumn
  split
  · rename_i h
    rw [Int.floor_eq_zero_iff,Set.mem_Ico,abs_of_nonneg h]
    constructor
    · intro hx
      linarith [hx.2]
    · intro hx
      constructor <;> linarith
  · rename_i h
    rw [neg_eq_zero,Int.floor_eq_zero_iff,Set.mem_Ico,abs_of_neg (not_le.mp h)]
    constructor
    · intro hx
      linarith [hx.2]
    · intro hx
      constructor <;> linarith

theorem toCents_intCast (z : ℤ) : toCents z = z := toColumn_intCast z

theorem addBySign_bounds {sums : ℤ × ℤ} (row : String × ℤ) (hp : 0 ≤ sums.1) (hn : 0 ≤ sums.2) :
    0 ≤ (addBySign sums row).1 ∧ 0 ≤ (addBySign sums row).2 ∧
      (addBySign sums row = (0,0) ↔ sums = (0,0) ∧ row.2 = 0) := by
  obtain ⟨positive,negative⟩ := sums
  have habs := abs_nonneg row.2
  have hzero : |row.2| = 0 ↔ row.2 = 0 := abs_eq_zero
  unfold addBySign
  dsimp only at hp hn ⊢
  split
  · simp only [Prod.mk.injEq,← hzero]
    omega
  · rename_i h
    have hrow : 0 ≤ row.2 := not_lt.mp fun hlt => h (.inr hlt)
    simp only [Prod.mk.injEq]
    omega

/-- Both magnitudes of a sum by sign are sums of what is not negative. -/
theorem sumBySign_bounds (rows : List (String × ℤ)) :
    0 ≤ (sumBySign rows).1 ∧ 0 ≤ (sumBySign rows).2 ∧
      (sumBySign rows = (0,0) ↔ ∀ row ∈ rows, row.2 = 0) := by
  have hfold : ∀ sums : ℤ × ℤ, 0 ≤ sums.1 → 0 ≤ sums.2 →
      0 ≤ (rows.foldl addBySign sums).1 ∧ 0 ≤ (rows.foldl addBySign sums).2 ∧
        (rows.foldl addBySign sums = (0,0) ↔ sums = (0,0) ∧ ∀ row ∈ rows, row.2 = 0) := by
    induction rows with
    | nil =>
      intro sums hp hn
      exact ⟨hp,hn,by simp⟩
    | cons row rows ih =>
      intro sums hp hn
      obtain ⟨hp,hn,hiff⟩ := addBySign_bounds row hp hn
      obtain ⟨hp',hn',hiff'⟩ := ih _ hp hn
      refine ⟨hp',hn',hiff'.trans ?_⟩
      rw [hiff,List.forall_mem_cons,and_assoc]
  have h := hfold (0,0) le_rfl le_rfl
  exact ⟨h.1,h.2.1,h.2.2.trans (and_iff_right rfl)⟩

theorem computeBasePay_eq_zero_iff (s : Register) (run : PayrollRun) (id : ℕ) (comp : StaffCompensation) (total : ℤ) :
    computeBasePay (calcInputFor s run id comp total) = 0 ↔
      (comp.compensationType = .salaried → run.totalWorkingDays ≠ 0 → ∀ salary, comp.baseSalary = some salary →
        2 * |salary * workedShare s run comp.staffProfileId| < 1) := by
  unfold computeBasePay calcInputFor
  dsimp only
  cases comp.compensationType with
  | perClass => simp
  | salaried =>
    cases comp.baseSalary with
    | none => simp
    | some salary =>
      by_cases hdays : run.totalWorkingDays = 0
      · simp [hdays]
      · simp only [reduceCtorEq,if_false,if_true,hdays,not_false_eq_true,forall_const,Option.some.injEq,
          forall_eq',toCents,toColumn_eq_zero_iff,workedShare,ne_eq]

theorem computeClassBonus_eq_zero_iff (s : Register) (run : PayrollRun) (id : ℕ) (comp : StaffCompensation)
    (total : ℤ) : computeClassBonus (calcInputFor s run id comp total) = 0 ↔
      (comp.compensationType = .perClass → ∀ rate, comp.perClassRate = some rate →
        rate * (deliveredCount s.records run comp.staffProfileId : ℤ) = 0) := by
  unfold computeClassBonus calcInputFor
  dsimp only
  cases comp.compensationType with
  | salaried => simp
  | perClass =>
    cases comp.perClassRate with
    | none => simp
    | some rate =>
      have hcast : (rate * (deliveredCount s.records run comp.staffProfileId : ℕ) : ℚ) =
          (rate * (deliveredCount s.records run comp.staffProfileId : ℤ) : ℤ) := by push_cast; rfl
      simp only [reduceCtorEq,if_false,if_true,forall_const,Option.some.injEq,forall_eq',hcast,toCents_intCast]

/-- One of the two parts of the pay is always nothing. -/
theorem pay_parts (s : Register) (run : PayrollRun) (id : ℕ) (comp : StaffCompensation) (total : ℤ) :
    computeBasePay (calcInputFor s run id comp total) = 0 ∨ computeClassBonus (calcInputFor s run id comp total) = 0 := by
  cases h : comp.compensationType with
  | salaried => exact .inr (by simp [computeClassBonus,calcInputFor,h])
  | perClass => exact .inl (by simp [computeBasePay,calcInputFor,h])

/-- Nothing due adds up to nothing. -/
theorem scheduledTotal_eq_zero_iff {s : Register} {run : PayrollRun} {staffProfileId : ℕ} :
    scheduledTotal s run staffProfileId = 0 ↔
      ∀ d ∈ s.deductions.rows, isDue run staffProfileId d.2 = true → appliedAmountOf d.2 ≤ 0 := by
  have hpos : ∀ a ∈ (dueRows s run staffProfileId).map fun d => appliedAmountOf d.2, 0 < a := by
    intro a ha
    obtain ⟨d,hd,rfl⟩ := List.mem_map.mp ha
    exact (mem_dueRows.mp hd).2.2
  have hnil : scheduledTotal s run staffProfileId = 0 ↔ dueRows s run staffProfileId = [] := by
    unfold scheduledTotal
    cases h : dueRows s run staffProfileId with
    | nil => simp
    | cons d ds =>
      rw [h,List.map_cons,List.forall_mem_cons] at hpos
      have hrest := List.sum_nonneg fun a ha => (hpos.2 a ha).le
      rw [List.map_cons,List.sum_cons]
      exact iff_of_false (by linarith [hpos.1]) (List.cons_ne_nil d ds)
  rw [hnil,List.eq_nil_iff_forall_not_mem]
  constructor
  · intro h d hd hdue
    by_contra happlied
    exact h d (mem_dueRows.mpr ⟨hd,hdue,not_le.mp happlied⟩)
  · intro h d hd
    obtain ⟨hmem,hdue,happlied⟩ := mem_dueRows.mp hd
    exact absurd happlied (not_lt.mpr (h d hmem hdue))

theorem laterStart_foldl {P : StaffCompensation → Prop} {comps : List StaffCompensation}
    (hcomps : ∀ c ∈ comps, P c) {best : Option StaffCompensation} (hbest : ∀ c, best = some c → P c) :
    ∀ c, comps.foldl laterStart best = some c → P c := by
  induction comps generalizing best with
  | nil => exact hbest
  | cons x comps ih =>
    obtain ⟨hx,hcomps⟩ := List.forall_mem_cons.mp hcomps
    apply ih hcomps
    intro c hc
    unfold laterStart at hc
    cases best with
    | none => exact Option.some.inj hc ▸ hx
    | some b =>
      dsimp only at hc
      split at hc
      · exact Option.some.inj hc ▸ hbest b rfl
      · exact Option.some.inj hc ▸ hx

theorem staff_of_periodComp {s : Register} {run : PayrollRun} {entry : PayrollEntry} {comp : StaffCompensation}
    (h : periodComp s run entry = some comp) : comp.staffProfileId = entry.staffProfileId := by
  refine laterStart_foldl (P := fun c => c.staffProfileId = entry.staffProfileId) ?_ (fun c hc => by cases hc) comp h
  intro c hc
  have := (List.mem_filter.mp hc).2
  simp only [Bool.and_eq_true,decide_eq_true_eq] at this
  exact this.1.1

section
variable {s : Register} {runId : ℕ} {run : PayrollRun}

theorem sumOneOffs_eq_zero_iff {entryId : ℕ} : sumOneOffsByEntry s entryId = (0,0) ↔
    ∀ i ∈ s.oneOffItems.rows, i.2.payrollEntryId = entryId → i.2.amount = 0 := by
  unfold sumOneOffsByEntry
  rw [(sumBySign_bounds _).2.2,List.forall_mem_map]
  simp [Table.select]

theorem sumAdjustments_eq_zero_iff {entryId : ℕ} : sumAdjustmentsByEntry s entryId = (0,0) ↔
    ∀ a ∈ s.adjustments.rows, a.2.payrollEntryId = entryId → a.2.amount = 0 := by
  unfold sumAdjustmentsByEntry
  rw [(sumBySign_bounds _).2.2,List.forall_mem_map]
  simp [Table.select]

/-- A calculation gives what the draft holds precisely when all its parts are nothing. -/
theorem compute_eq_draft_iff {row : ℕ × PayrollEntry} {comp : StaffCompensation}
    (hcomp : periodComp s run row.2 = some comp) :
    let result := compute (calcInputFor s run row.1 comp (scheduledTotal s run row.2.staffProfileId))
    (result.basePay = row.2.basicPay ∧ result.bonusPay = row.2.bonusPay ∧ result.totals = .zero) ↔
      row.2.basicPay = 0 ∧ row.2.bonusPay = 0 ∧ EarnsNothing s run comp ∧
      calculateAllowancesTotalForPeriod s.records row.2.staffProfileId run.periodStart run.periodEnd = 0 ∧
      sumOneOffsByEntry s row.1 = (0,0) ∧ sumAdjustmentsByEntry s row.1 = (0,0) ∧
      scheduledTotal s run row.2.staffProfileId = 0 := by
  have hbase := computeBasePay_eq_zero_iff s run row.1 comp (scheduledTotal s run row.2.staffProfileId)
  have hbonus := computeClassBonus_eq_zero_iff s run row.1 comp (scheduledTotal s run row.2.staffProfileId)
  have hearns : EarnsNothing s run comp ↔
      computeBasePay (calcInputFor s run row.1 comp (scheduledTotal s run row.2.staffProfileId)) = 0 ∧
      computeClassBonus (calcInputFor s run row.1 comp (scheduledTotal s run row.2.staffProfileId)) = 0 := by
    rw [hbase,hbonus]
    rfl
  have hparts := pay_parts s run row.1 comp (scheduledTotal s run row.2.staffProfileId)
  have hone : 0 ≤ (sumOneOffsByEntry s row.1).1 ∧ 0 ≤ (sumOneOffsByEntry s row.1).2 :=
    ⟨(sumBySign_bounds _).1,(sumBySign_bounds _).2.1⟩
  have hadj : 0 ≤ (sumAdjustmentsByEntry s row.1).1 ∧ 0 ≤ (sumAdjustmentsByEntry s row.1).2 :=
    ⟨(sumBySign_bounds _).1,(sumBySign_bounds _).2.1⟩
  rw [hearns,Prod.ext_iff,Prod.ext_iff,← staff_of_periodComp hcomp]
  rw [← staff_of_periodComp hcomp] at hparts
  simp only [compute,PayTotals.zero,toCents_intCast,PayTotals.mk.injEq]
  revert hparts
  generalize computeBasePay _ = base
  generalize computeClassBonus _ = bonus
  intro hparts
  simp only [calcInputFor]
  omega

/-! ## The outcome of either path -/

theorem payOn_payslipsOf (run : PayrollRun) (actorUserId sequence : ℕ) (rows : List (ℕ × PayrollEntry)) :
    (payslipsOf run actorUserId sequence rows).map payOn = rows.map payOfRow := by
  induction rows generalizing sequence with
  | nil => rfl
  | cons row rows ih => rw [payslipsOf,List.map_cons,List.map_cons,ih]; rfl

theorem isOfRun_congr {s' : Register}
    (h : ∀ id, (s'.entries.get? id).map (·.payrollRunId) = (s.entries.get? id).map (·.payrollRunId)) (p : Payslip) :
    isOfRun s' runId p = isOfRun s runId p := by
  have h' := congrArg (fun o : Option ℕ => o.any fun id => decide (id = runId)) (h p.payrollEntryId)
  simpa only [isOfRun,Option.any_map,Function.comp_def] using h'

theorem isOfRun_of_mem {p : Payslip} (h : p.payrollEntryId ∈ (s.entriesOf runId).map Prod.fst) (otherId : ℕ) :
    isOfRun s otherId p = decide (runId = otherId) := by
  obtain ⟨row,hrow,he⟩ := List.mem_map.mp h
  obtain ⟨hmem,hrun⟩ := mem_entriesOf.mp hrow
  have hget : s.entries.get? p.payrollEntryId = some row.2 := he ▸ Table.get?_of_mem hmem
  simp [isOfRun,hget,hrun]

/-- The payslips of a run of which nothing was settled are those that are added. -/
theorem map_payOn_closed (run : PayrollRun) {s' : Register} {actorUserId sequence : ℕ} {rows : List (ℕ × PayrollEntry)}
    (hs : Sound s) (hopen : ¬isFinalised s runId)
    (hentries : ∀ id, (s'.entries.get? id).map (·.payrollRunId) = (s.entries.get? id).map (·.payrollRunId))
    (hrows : rows.map Prod.fst = (s.entriesOf runId).map Prod.fst)
    (hpayslips : s'.payslips = s.payslips.insertAll (payslipsOf run actorUserId sequence rows)) :
    (s'.payslips.select (isOfRun s' runId)).map (fun p => payOn p.2) = rows.map payOfRow := by
  have hold : s.payslips.select (isOfRun s' runId) = [] := by
    apply List.filter_eq_nil_iff.mpr
    intro p hp
    obtain ⟨e,he,hf⟩ := hs.payslips p hp
    have hne : e.payrollRunId ≠ runId := fun h => hopen (h ▸ hf)
    rw [isOfRun_congr hentries]
    simp [isOfRun,he,hne]
  have hnew : (payslipsOf run actorUserId sequence rows).filter (isOfRun s' runId) =
      payslipsOf run actorUserId sequence rows := by
    apply List.filter_eq_self.mpr
    intro p hp
    rw [isOfRun_congr hentries,isOfRun_of_mem (hrows ▸ mem_payslipsOf hp)]
    exact decide_eq_true rfl
  have h := Table.map_select_insertAll s.payslips (payslipsOf run actorUserId sequence rows) (isOfRun s' runId)
  rw [← hpayslips,hold,hnew] at h
  have hmap := congrArg (List.map payOn) h
  rw [List.map_map] at hmap
  exact hmap.trans (payOn_payslipsOf run actorUserId sequence rows)

/-- What is added for a run of which nothing was settled is all there is of it. -/
theorem outcomeOf_closed (run : PayrollRun) {s' : Register} {totals : RunTotals} {actorUserId sequence : ℕ}
    {rows : List (ℕ × PayrollEntry)} {as : List PayrollDeductionApplication} (hs : Sound s)
    (hopen : ¬isFinalised s runId) (hruns : s'.runs.get? runId = some (closed totals actorUserId run))
    (hentries : ∀ id, (s'.entries.get? id).map (·.payrollRunId) = (s.entries.get? id).map (·.payrollRunId))
    (hrows : rows.map Prod.fst = (s.entriesOf runId).map Prod.fst)
    (hpayslips : s'.payslips = s.payslips.insertAll (payslipsOf run actorUserId sequence rows))
    (happlications : s'.applications = s.applications.insertAll as)
    (has : ∀ a ∈ as, a.payrollRunId = runId ∧ a.committed = true) :
    outcomeOf s' runId = some
      { payslips := rows.map payOfRow
        totals := totals
        applications := as.map fun a => (a.payrollEntryId,a.staffRecurringDeductionId,a.appliedAmount) } := by
  have holdapps : s.applications.select (isCommittedOf runId) = [] := by
    apply List.filter_eq_nil_iff.mpr
    intro a ha
    have hne : a.2.payrollRunId ≠ runId := fun h => hopen (h ▸ (hs.applications a ha).1)
    simp [isCommittedOf,hne]
  have hnewapps : as.filter (isCommittedOf runId) = as := by
    apply List.filter_eq_self.mpr
    intro a ha
    simp [isCommittedOf,has a ha]
  have happs : (s'.applications.select (isCommittedOf runId)).map Prod.snd = as := by
    rw [happlications,Table.map_select_insertAll,holdapps,hnewapps]
    rfl
  unfold outcomeOf
  rw [hruns,Option.map_some,map_payOn_closed run hs hopen hentries hrows hpayslips,← happs,List.map_map]
  rfl

theorem addPersisted_foldl (rows : List (ℕ × PayrollEntry)) (totals : RunTotals) :
    rows.foldl addPersisted totals =
      { basic := totals.basic + (rows.map fun r => r.2.basicPay).sum
        bonus := totals.bonus + (rows.map fun r => r.2.bonusPay).sum
        net := totals.net + (rows.map fun r => r.2.totals.netPay).sum
        headcount := totals.headcount + rows.length } := by
  induction rows generalizing totals with
  | nil => simp
  | cons row rows ih =>
    rw [List.foldl_cons,ih]
    simp only [addPersisted,List.map_cons,List.sum_cons,List.length_cons,add_assoc,add_comm 1]

/-- Entries stay with their run. -/
theorem get?_finalised_run (userId id : ℕ) : ((finalised s runId run userId).entries.get? id).map (·.payrollRunId) =
    (s.entries.get? id).map (·.payrollRunId) := by
  change (Table.get? (s.entries.mapRows _) id).map _ = _
  rw [Table.get?_mapRows,Option.map_map]
  congr 1
  funext e
  dsimp only [Function.comp]
  split
  · exact settledEntry_run id e
  · rfl

theorem outcomeOf_finalised (hs : Sound s) (hrun : s.runs.get? runId = some run)
    (hopen : run.status ≠ .finalised) (userId : ℕ) : outcomeOf (finalised s runId run userId) runId = some
      { payslips := (settledRows s runId run).map payOfRow
        totals := totalsOf (resultsOf s runId run)
        applications := (scheduledIn s runId run).map fun a =>
          (a.payrollEntryId,a.staffRecurringDeductionId,a.appliedAmount) } := by
  have hnot : ¬isFinalised s runId := by rwa [isFinalised_iff hrun]
  refine (outcomeOf_closed run hs hnot (Table.get?_modify_self hrun _) (get?_finalised_run userId) settledRows_ids rfl
    rfl ?_).trans ?_
  · intro a ha
    obtain ⟨b,hb,rfl⟩ := List.mem_map.mp ha
    obtain ⟨row,-,-,d,-,rfl⟩ := of_mem_scheduledIn hb
    exact ⟨rfl,rfl⟩
  · rw [List.map_map]
    rfl

theorem outcomeOf_approved (hs : Sound s) (hrun : s.runs.get? runId = some run)
    (hopen : run.status ≠ .finalised) (approverUserId : ℕ) :
    outcomeOf (approved s runId run approverUserId) runId = some
      { payslips := (s.entriesOf runId).map payOfRow
        totals := (s.entriesOf runId).foldl addPersisted ⟨0,0,0,0⟩
        applications := [] } := by
  have hnot : ¬isFinalised s runId := by rwa [isFinalised_iff hrun]
  have happlications : (approved s runId run approverUserId).applications = s.applications.insertAll [] := rfl
  have hpayslips : (approved s runId run approverUserId).payslips =
      s.payslips.insertAll (payslipsOf run approverUserId s.payslipSequence (s.entriesOf runId)) := rfl
  have hruns : (approved s runId run approverUserId).runs.get? runId = _ := Table.get?_modify_self hrun _
  exact outcomeOf_closed run hs hnot hruns (fun _ => rfl) rfl hpayslips happlications
    fun _ ha => absurd ha List.not_mem_nil

/-! ## When the paths agree -/

theorem setStatus_sound (status : PayrollRunStatus) (hs : Sound s) (hrun : s.runs.get? runId = some run)
    (hopen : run.status ≠ .finalised) (hstatus : status ≠ .finalised) : Sound (setStatus s runId status) :=
  hs.drafted (setStatus_drafted hrun hopen hstatus)

theorem get?_setStatus (status : PayrollRunStatus) (hrun : s.runs.get? runId = some run) :
    (setStatus s runId status).runs.get? runId = some { run with status := status } :=
  Table.get?_modify_self hrun _

/-- Both paths go through, so that their outcomes can be compared. -/
theorem paths_agree_iff (hs : Sound s) (hrun : s.runs.get? runId = some run) (hopen : run.status ≠ .finalised)
    (userId approverUserId : ℕ) :
    (∃ direct approved, finaliseAtomic (setStatus s runId .draft) runId userId .draft = .ok direct ∧
      processJob (setStatus s runId .pendingApproval) runId approverUserId = .ok approved ∧
      outcomeOf direct runId = outcomeOf approved runId) ↔
    (settledRows s runId run).map payOfRow = (s.entriesOf runId).map payOfRow ∧
      totalsOf (resultsOf s runId run) = (s.entriesOf runId).foldl addPersisted ⟨0,0,0,0⟩ ∧
      scheduledIn s runId run = [] := by
  have hdraft := setStatus_sound .draft hs hrun hopen (by decide)
  have hpending := setStatus_sound .pendingApproval hs hrun hopen (by decide)
  have hgetdraft := get?_setStatus .draft hrun
  have hgetpending := get?_setStatus .pendingApproval hrun
  have hdraftopen : PayrollRunStatus.draft ≠ .finalised := by decide
  have hpendingopen : PayrollRunStatus.pendingApproval ≠ .finalised := by decide
  have hdirect : finaliseAtomic (setStatus s runId .draft) runId userId .draft = .ok
      (finalised (setStatus s runId .draft) runId { run with status := .draft } userId) :=
    finaliseAtomic_eq (hdraft.ready fun h => hdraftopen ((isFinalised_iff hgetdraft).mp h)) hgetdraft hdraftopen userId
  have happroved : processJob (setStatus s runId .pendingApproval) runId approverUserId = .ok
      (approved (setStatus s runId .pendingApproval) runId { run with status := .pendingApproval } approverUserId) :=
    processJob_eq (hpending.ready fun h => hpendingopen ((isFinalised_iff hgetpending).mp h)) hgetpending rfl
      approverUserId
  have houtcome := outcomeOf_finalised hdraft hgetdraft hdraftopen userId
  have houtcome' := outcomeOf_approved hpending hgetpending hpendingopen approverUserId
  have hsame : outcomeOf (finalised (setStatus s runId .draft) runId { run with status := .draft } userId) runId =
      outcomeOf (approved (setStatus s runId .pendingApproval) runId { run with status := .pendingApproval }
        approverUserId) runId ↔
      (settledRows s runId run).map payOfRow = (s.entriesOf runId).map payOfRow ∧
        totalsOf (resultsOf s runId run) = (s.entriesOf runId).foldl addPersisted ⟨0,0,0,0⟩ ∧
        scheduledIn s runId run = [] := by
    rw [houtcome,houtcome',Option.some_inj,Outcome.mk.injEq,List.map_eq_nil_iff]
    exact Iff.rfl
  rw [← hsame]
  constructor
  · rintro ⟨direct,approved',hd,ha,he⟩
    rw [hdirect] at hd
    rw [happroved] at ha
    cases hd
    cases ha
    exact he
  · exact fun he => ⟨_,_,hdirect,happroved,he⟩

/-- An entry that is paid anew comes out as its draft. -/
theorem payOfRow_settled_iff {row : ℕ × PayrollEntry} {comp : StaffCompensation}
    (hcomp : periodComp s run row.2 = some comp) (hzero : row.2.totals = .zero) :
    payOfRow (row.1,settledEntry s run row.1 row.2) = payOfRow row ↔
      let result := compute (calcInputFor s run row.1 comp (scheduledTotal s run row.2.staffProfileId))
      result.basePay = row.2.basicPay ∧ result.bonusPay = row.2.bonusPay ∧ result.totals = .zero := by
  have hsettled : settledEntry s run row.1 row.2 = computed
      (compute (calcInputFor s run row.1 comp (scheduledTotal s run row.2.staffProfileId))) row.2 := by
    simp [settledEntry,inputOf,hcomp]
  rw [hsettled,payOfRow,payOfRow,hzero]
  simp [computed]

theorem scheduledFor_eq_nil {row : ℕ × PayrollEntry} (h : scheduledTotal s run row.2.staffProfileId = 0) :
    scheduledFor s runId run row = [] := by
  have hnil : dueRows s run row.2.staffProfileId = [] := by
    rw [List.eq_nil_iff_forall_not_mem]
    intro d hd
    obtain ⟨hmem,hdue,happlied⟩ := mem_dueRows.mp hd
    exact absurd happlied (not_lt.mpr (scheduledTotal_eq_zero_iff.mp h d hmem hdue))
  unfold scheduledFor
  rw [hnil]
  split <;> rfl

/-- Where every entry is resolved, there is a result for each. -/
theorem resultsOf_eq_map {payOf : ℕ × PayrollEntry → CalcResult}
    (h : ∀ row ∈ s.entriesOf runId, (inputOf s run row).map compute = some (payOf row)) :
    resultsOf s runId run = (s.entriesOf runId).map payOf := by
  rw [resultsOf,List.filterMap_congr h,List.filterMap_eq_map']

end

/-- The two paths agree precisely on the runs with nothing payable. -/
theorem pathsAgree_iff (records : StaffRecords) (commands : List Command) (runId : ℕ) :
    PathsAgree (commands.foldl step (Register.initial records)) runId ↔
      NothingPayable (commands.foldl step (Register.initial records)) runId := by
  have hs := foldl_sound records commands
  generalize commands.foldl step (Register.initial records) = s at hs
  have hzero : ∀ run, s.runs.get? runId = some run → (run.status = .draft ∨ run.status = .pendingApproval) →
      ∀ row ∈ s.entriesOf runId, row.2.totals = .zero := by
    intro run hrun hopen row hrow
    obtain ⟨hmem,hr⟩ := mem_entriesOf.mp hrow
    apply hs.untouched row hmem
    rw [hr,isFinalised_iff hrun]
    exact open_of_isOpen hopen
  constructor
  · intro h run hrun hopen row hrow
    obtain ⟨hpay,htotals,-⟩ := (paths_agree_iff hs hrun (open_of_isOpen hopen) 0 0).mp (h run 0 0 hrun hopen)
    -- the headcounts are equal only if no entry is skipped
    have hlength : (resultsOf s runId run).length = (s.entriesOf runId).length := by
      have := congrArg RunTotals.headcount htotals
      rw [addPersisted_foldl] at this
      simpa [totalsOf] using this
    have hsome := (List.filterMap_length_eq_length.mp hlength) row hrow
    obtain ⟨comp,hcomp⟩ : ∃ comp, periodComp s run row.2 = some comp := by
      rw [Option.isSome_map,inputOf,Option.isSome_map] at hsome
      exact Option.isSome_iff_exists.mp hsome
    rw [settledRows,List.map_map,List.map_inj_left] at hpay
    have hrowpay := (payOfRow_settled_iff hcomp (hzero run hrun hopen row hrow)).mp (hpay row hrow)
    obtain ⟨hbasic,hbonus,hearns,hallowances,hone,hadj,hdue⟩ := (compute_eq_draft_iff hcomp).mp hrowpay
    exact ⟨hbasic,hbonus,⟨comp,hcomp,hearns⟩,hallowances,sumOneOffs_eq_zero_iff.mp hone,
      sumAdjustments_eq_zero_iff.mp hadj,scheduledTotal_eq_zero_iff.mp hdue⟩
  · intro h run userId approverUserId hrun hopen
    rw [paths_agree_iff hs hrun (open_of_isOpen hopen)]
    have hrows : ∀ row ∈ s.entriesOf runId, scheduledTotal s run row.2.staffProfileId = 0 ∧
        payOfRow (row.1,settledEntry s run row.1 row.2) = payOfRow row ∧
        (inputOf s run row).map compute = some ⟨row.2.basicPay,row.2.bonusPay,.zero⟩ := by
      intro row hrow
      obtain ⟨hbasic,hbonus,⟨comp,hcomp,hearns⟩,hallowances,hone,hadj,hdue⟩ := h run hrun hopen row hrow
      have hdue' := scheduledTotal_eq_zero_iff.mpr hdue
      have hdraft := (compute_eq_draft_iff hcomp).mpr ⟨hbasic,hbonus,hearns,hallowances,
        sumOneOffs_eq_zero_iff.mpr hone,sumAdjustments_eq_zero_iff.mpr hadj,hdue'⟩
      refine ⟨hdue',(payOfRow_settled_iff hcomp (hzero run hrun hopen row hrow)).mpr hdraft,?_⟩
      obtain ⟨hb,hc,ht⟩ := hdraft
      rw [inputOf,hcomp,Option.map_some,Option.map_some,← hb,← hc,← ht]
    have hresults := resultsOf_eq_map fun row hrow => (hrows row hrow).2.2
    refine ⟨?_,?_,?_⟩
    · rw [settledRows,List.map_map,List.map_inj_left]
      exact fun row hrow => (hrows row hrow).2.1
    · have hnet : (s.entriesOf runId).map (fun r => r.2.totals.netPay) = (s.entriesOf runId).map fun _ => 0 :=
        List.map_congr_left fun row hrow => by rw [hzero run hrun hopen row hrow]; rfl
      rw [hresults,addPersisted_foldl,hnet]
      simp [totalsOf,Function.comp_def,PayTotals.zero]
    · exact List.flatMap_eq_nil_iff.mpr fun row hrow => scheduledFor_eq_nil (hrows row hrow).1

/-! ## A run with one salary -/

/-- One active staff member with a salary of 3000.00 since January 2026. -/
def oneSalary : StaffRecords where
  compensations := [⟨1,.salaried,some 300000,none,none,none,100,.firstOfMonth (12 * 2026),none⟩]
  activeStaff := [1]
  attendance := []
  deliveries := []
  allowances := []
  schedules := []
  autoPopulateClassCounts := false

/-- The direct path pays the salary of a fresh run, the job behind an approval nothing. -/
theorem not_pathsAgree : ¬∀ (records : StaffRecords) (commands : List Command) (runId : ℕ),
    PathsAgree (commands.foldl step (Register.initial records)) runId := by
  intro h
  have hs := foldl_sound oneSalary [.createRun 2026 3 22]
  have hrun : ([Command.createRun 2026 3 22].foldl step (Register.initial oneSalary)).runs.get? 0 =
      some (newRun 2026 3 22) := by decide +kernel
  have hopen : (newRun 2026 3 22).status ≠ .finalised := by decide
  obtain ⟨-,htotals,-⟩ := (paths_agree_iff hs hrun hopen 0 0).mp (h oneSalary _ 0 _ 0 0 hrun (.inl rfl))
  revert htotals
  decide +kernel

end EduPod.Payroll
