import EduPod.Foundation.Runs
import EduPod.Payroll.PathAgreement

/-! # The totals of a finalised run

A run is closed with the totals of what was computed for it, and a payslip is issued for each of its
entries. The two cover the same entries as long as every entry has a contract in the period.
-/
namespace EduPod.Payroll
open Fallible Runs

/-- The entries of a run that payslips were issued for. -/
def paidEntries (s : Register) (runId : ℕ) : List ℕ :=
  (s.payslips.select (isOfRun s runId)).map fun p => p.2.payrollEntryId

/-- A finalised run shows the sums and the number of its entries, each of which has one payslip. -/
def TotalsExact (s : Register) (runId : ℕ) : Prop := ∀ run, s.runs.get? runId = some run →
  run.status = .finalised →
  run.totalPay = ((s.entriesOf runId).map fun e => e.2.totals.netPay).sum ∧
  run.totalBasicPay = ((s.entriesOf runId).map fun e => e.2.basicPay).sum ∧
  run.totalBonusPay = ((s.entriesOf runId).map fun e => e.2.bonusPay).sum ∧
  run.headcount = (s.entriesOf runId).length ∧
  paidEntries s runId = (s.entriesOf runId).map Prod.fst

/-- A direct finalisation finds a contract in the period for every entry. -/
def Contracted (s : Register) (command : Command) : Prop := ∀ runId userId run,
  Finalises s command runId userId run → ∀ row ∈ s.entriesOf runId, (periodComp s run row.2).isSome

/-- All that the totals of a run depend on is the same. -/
structure SameTotals (s s' : Register) (runId : ℕ) : Prop where
  runs : s'.runs.get? runId = s.runs.get? runId
  entries : (s'.entriesOf runId).map payOfRow = (s.entriesOf runId).map payOfRow
  payslips : paidEntries s' runId = paidEntries s runId

section
variable {s s' : Register} {runId : ℕ} {run : PayrollRun}

theorem SameTotals.refl (s : Register) (runId : ℕ) : SameTotals s s runId := ⟨rfl,rfl,rfl⟩

theorem SameTotals.totalsExact_iff (h : SameTotals s s' runId) : TotalsExact s' runId ↔ TotalsExact s runId := by
  have hmap : ∀ {α : Type} (f : ℕ × PayslipPay → α),
      (s'.entriesOf runId).map (fun e => f (payOfRow e)) = (s.entriesOf runId).map fun e => f (payOfRow e) := by
    intro α f
    have := congrArg (List.map f) h.entries
    simpa only [List.map_map,Function.comp_def] using this
  have hnet := hmap fun e => e.2.totals.netPay
  have hbasic := hmap fun e => e.2.basePay
  have hbonus := hmap fun e => e.2.bonusPay
  have hids := hmap Prod.fst
  have hlength := congrArg List.length hids
  rw [List.length_map,List.length_map] at hlength
  simp only [payOfRow] at hnet hbasic hbonus hids
  unfold TotalsExact
  rw [h.runs,h.payslips,hnet,hbasic,hbonus,hlength]
  exact forall_congr' fun run => by rw [hids]

/-! ## The runs a request leaves alone -/

theorem Drafted.sameTotals (hd : Drafted s s') (hs : Sound s) (hf : isFinalised s runId) : SameTotals s s' runId where
  runs := (hd.settled runId hf).1
  entries := (hd.settled runId hf).2
  payslips := by
    unfold paidEntries
    rw [hd.payslips]
    congr 1
    apply List.filter_congr
    intro p hp
    obtain ⟨e,he,-⟩ := hs.payslips p hp
    obtain ⟨e',he',hrun⟩ := hd.kept _ e he
    simp [isOfRun,he,he',hrun]

/-- Payslips of another run do not count. -/
theorem paidEntries_insertAll {ps : List Payslip} {otherId : ℕ} (hne : runId ≠ otherId)
    (hentries : ∀ id, (s'.entries.get? id).map (·.payrollRunId) = (s.entries.get? id).map (·.payrollRunId))
    (hpayslips : s'.payslips = s.payslips.insertAll ps)
    (hps : ∀ p ∈ ps, p.payrollEntryId ∈ (s.entriesOf otherId).map Prod.fst) :
    paidEntries s' runId = paidEntries s runId := by
  have hnone : ps.filter (isOfRun s' runId) = [] := by
    apply List.filter_eq_nil_iff.mpr
    intro p hp
    rw [isOfRun_congr hentries,isOfRun_of_mem (hps p hp)]
    simpa using Ne.symm hne
  have hsame : s.payslips.select (isOfRun s' runId) = s.payslips.select (isOfRun s runId) :=
    List.filter_congr fun p _ => isOfRun_congr hentries p.2
  have h := congrArg (List.map Payslip.payrollEntryId) (Table.map_select_insertAll s.payslips ps (isOfRun s' runId))
  rw [← hpayslips,hnone,List.append_nil,hsame,List.map_map,List.map_map] at h
  exact h

theorem finalised_sameTotals {otherId : ℕ} (hne : otherId ≠ runId) (userId : ℕ) :
    SameTotals s (finalised s runId run userId) otherId where
  runs := Table.get?_modify_ne _ hne _
  entries := by
    have hselect : (finalised s runId run userId).entriesOf otherId = (s.entriesOf otherId).map fun r =>
        (r.1,if r.2.payrollRunId = runId then settledEntry s run r.1 r.2 else r.2) := by
      change ((s.entries.mapRows fun id e => if e.payrollRunId = runId then settledEntry s run id e else e).select
        fun e => e.payrollRunId = otherId) = _
      apply Table.select_mapRows
      intro r _
      split
      · rw [settledEntry_run]
      · rfl
    rw [hselect,List.map_map]
    apply List.map_congr_left
    intro r hr
    have hother : r.2.payrollRunId ≠ runId := (mem_entriesOf.mp hr).2 ▸ hne
    simp [hother]
  payslips := by
    apply paidEntries_insertAll hne (get?_finalised_run userId) rfl
    intro p hp
    rw [← settledRows_ids]
    exact mem_payslipsOf hp

theorem approved_sameTotals {otherId : ℕ} (hne : otherId ≠ runId) (approverUserId : ℕ) :
    SameTotals s (approved s runId run approverUserId) otherId where
  runs := Table.get?_modify_ne _ hne _
  entries := rfl
  payslips := paidEntries_insertAll hne (fun _ => rfl) rfl fun _ hp => mem_payslipsOf hp

/-! ## The run that is finalised -/

theorem paidEntries_of_map_payOn {rows : List (ℕ × PayrollEntry)}
    (h : (s.payslips.select (isOfRun s runId)).map (fun p => payOn p.2) = rows.map payOfRow) :
    paidEntries s runId = rows.map Prod.fst := by
  have h' := congrArg (List.map Prod.fst) h
  rw [List.map_map,List.map_map] at h'
  exact h'

/-- The direct path leaves exact totals precisely where it skips no entry. -/
theorem totalsExact_finalised_iff (hs : Sound s) (hrun : s.runs.get? runId = some run)
    (hopen : run.status ≠ .finalised) (userId : ℕ) :
    TotalsExact (finalised s runId run userId) runId ↔ ∀ row ∈ s.entriesOf runId, (periodComp s run row.2).isSome := by
  have hnot : ¬isFinalised s runId := by rwa [isFinalised_iff hrun]
  have hget : (finalised s runId run userId).runs.get? runId =
      some (closed (totalsOf (resultsOf s runId run)) userId run) := Table.get?_modify_self hrun _
  have hentries : (finalised s runId run userId).entriesOf runId = settledRows s runId run := entriesOf_settled rfl
  have hpaid : paidEntries (finalised s runId run userId) runId = (settledRows s runId run).map Prod.fst :=
    paidEntries_of_map_payOn (map_payOn_closed run hs hnot (get?_finalised_run userId) settledRows_ids rfl)
  have hcomp : ∀ row, ((inputOf s run row).map compute).isSome = (periodComp s run row.2).isSome := by
    intro row
    rw [Option.isSome_map,inputOf,Option.isSome_map]
  constructor
  · intro h
    obtain ⟨-,-,-,hcount,-⟩ := h _ hget rfl
    -- the headcount is the number of results
    rw [hentries,settledRows,List.length_map] at hcount
    intro row hrow
    rw [← hcomp]
    exact List.filterMap_length_eq_length.mp hcount row hrow
  · intro h run' hrun' _
    obtain rfl := Option.some.inj (hget.symm.trans hrun')
    have hresults : resultsOf s runId run = (settledRows s runId run).map fun e =>
        ⟨e.2.basicPay,e.2.bonusPay,e.2.totals⟩ := by
      rw [settledRows,List.map_map]
      apply resultsOf_eq_map
      intro row hrow
      obtain ⟨comp,hc⟩ := Option.isSome_iff_exists.mp (h row hrow)
      simp [settledEntry,inputOf,hc,computed]
    rw [hentries,hpaid,hresults]
    simp [closed,totalsOf,Function.comp_def]

/-- The job adds up every entry. -/
theorem totalsExact_approved (hs : Sound s) (hrun : s.runs.get? runId = some run) (hopen : run.status ≠ .finalised)
    (approverUserId : ℕ) : TotalsExact (approved s runId run approverUserId) runId := by
  have hnot : ¬isFinalised s runId := by rwa [isFinalised_iff hrun]
  have hpaid : paidEntries (approved s runId run approverUserId) runId = (s.entriesOf runId).map Prod.fst :=
    paidEntries_of_map_payOn (map_payOn_closed run hs hnot (fun _ => rfl) rfl rfl)
  have hget : (approved s runId run approverUserId).runs.get? runId =
      some (closed ((s.entriesOf runId).foldl addPersisted ⟨0,0,0,0⟩) approverUserId run) :=
    Table.get?_modify_self hrun _
  intro run' hrun' _
  obtain rfl := Option.some.inj (hget.symm.trans hrun')
  rw [hpaid,addPersisted_foldl]
  simp only [closed,zero_add]
  exact ⟨rfl,rfl,rfl,rfl,rfl⟩

/-! ## Whole runs -/

/-- Other requests leave the runs that are finalised alone, and finalise none. -/
theorem totalsExact_of_same (hi : ∀ runId, TotalsExact s runId) (hfinal : ∀ id, isFinalised s' id → isFinalised s id)
    (hsame : ∀ id, isFinalised s id → SameTotals s s' id) (runId : ℕ) : TotalsExact s' runId := by
  intro run hrun hf
  have hold := hfinal runId ⟨run,hrun,hf⟩
  exact (hsame runId hold).totalsExact_iff.mpr (hi runId) run hrun hf

theorem Drafted.totalsExact (hd : Drafted s s') (hs : Sound s) (hi : ∀ runId, TotalsExact s runId) :
    ∀ runId, TotalsExact s' runId :=
  totalsExact_of_same hi (fun id => (hd.finalised id).mp) fun _ hf => hd.sameTotals hs hf

/-- A direct finalisation keeps all totals exact precisely where it finds every contract. -/
theorem finalised_totalsExact_iff (hs : Sound s) (hi : ∀ runId, TotalsExact s runId)
    (hrun : s.runs.get? runId = some run) (hopen : run.status ≠ .finalised) (userId : ℕ) :
    (∀ id, TotalsExact (finalised s runId run userId) id) ↔
      ∀ row ∈ s.entriesOf runId, (periodComp s run row.2).isSome := by
  rw [← totalsExact_finalised_iff hs hrun hopen userId]
  constructor
  · exact fun h => h runId
  · intro h id
    by_cases hid : id = runId
    · rw [hid]
      exact h
    · exact (finalised_sameTotals hid userId).totalsExact_iff.mpr (hi id)

theorem approved_totalsExact (hs : Sound s) (hi : ∀ runId, TotalsExact s runId) (hrun : s.runs.get? runId = some run)
    (hopen : run.status ≠ .finalised) (approverUserId id : ℕ) : TotalsExact (approved s runId run approverUserId) id := by
  by_cases hid : id = runId
  · rw [hid]
    exact totalsExact_approved hs hrun hopen approverUserId
  · exact (approved_sameTotals hid approverUserId).totalsExact_iff.mpr (hi id)

theorem step_totalsExact_iff (s : Register) (command : Command) (hs : Sound s) (hi : ∀ runId, TotalsExact s runId) :
    (∀ runId, TotalsExact (step s command) runId) ↔ Contracted s command := by
  have h := step_stepped hs command
  generalize step s command = s' at h ⊢
  cases h with
  | finalised runId userId run hf =>
    have hf' := hf
    obtain ⟨-,-,-,-,hrun,hopen,-⟩ := hf'
    refine (finalised_totalsExact_iff hs hi hrun (open_of_isOpen hopen) userId).trans ?_
    constructor
    · intro h runId' userId' run' hf'
      obtain ⟨rfl,rfl,rfl⟩ := hf.unique hf'
      exact h
    · exact fun h => h runId userId run hf
  | approved runId approverUserId run ha =>
    obtain ⟨-,hrun,hpending⟩ := id ha
    refine iff_of_true (approved_totalsExact hs hi hrun ?_ approverUserId) fun _ _ _ hf => absurd ha hf.not_approves
    rw [hpending]
    decide
  | drafted _ hno hd => exact iff_of_true (hd.totalsExact hs hi) fun _ _ _ hf => absurd hf (hno.1 _ _ _)
  | deductions t hno _ _ =>
    refine iff_of_true ?_ fun _ _ _ hf => absurd hf (hno.1 _ _ _)
    exact totalsExact_of_same hi (fun _ h => h) fun id _ => ⟨rfl,rfl,rfl⟩

end

/-- The totals of all finalised runs are exact along every sequence of requests in which the direct
path finds a contract in the period for every entry, and only along those. -/
theorem trace_totalsExact_iff (records : StaffRecords) (commands : List Command) :
    (∀ s ∈ trace step (Register.initial records) commands, ∀ runId, TotalsExact s runId) ↔
      Guarded step Contracted (Register.initial records) commands := by
  refine trace_invariant_iff step_sound step_totalsExact_iff (initial_sound records) ?_
  intro runId run hrun
  cases hrun

/-! ## A contract that starts too late -/

/-- One active staff member with a salary of 3000.00 from April 2026 on. -/
def laterSalary : StaffRecords :=
  { oneSalary with compensations := [⟨1,.salaried,some 300000,none,none,none,100,.firstOfMonth (12 * 2026 + 3),none⟩] }

/-- The run of March has an entry and a payslip for the contract, but a headcount of zero. -/
theorem not_trace_totalsExact : ¬∀ (records : StaffRecords) (commands : List Command),
    ∀ s ∈ trace step (Register.initial records) commands, ∀ runId, TotalsExact s runId := by
  intro h
  let march : List Command := [.createRun 2026 3 22,.finalise 0 0 false false true false]
  have hexact := h laterSalary march _ (foldl_mem_trace _ _) 0
  have hheads : ((march.foldl step (Register.initial laterSalary)).runs.get? 0).map
      (fun r => (r.status,r.headcount)) = some (.finalised,0) := by decide +kernel
  have hentries : ((march.foldl step (Register.initial laterSalary)).entriesOf 0).length = 1 := by decide +kernel
  obtain ⟨run,hrun,hr⟩ := Option.map_eq_some_iff.mp hheads
  obtain ⟨hstatus,hcount⟩ := Prod.mk.inj hr
  obtain ⟨-,-,-,hlength,-⟩ := hexact run hrun hstatus
  rw [hentries,hcount] at hlength
  cases hlength

end EduPod.Payroll
