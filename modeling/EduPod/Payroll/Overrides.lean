import EduPod.Foundation.Runs
import EduPod.Payroll.PathAgreement

/-! # Overridden pay

An update of an entry can override its total pay. Neither way of finalising a run reads the override:
one computes the pay anew, the other takes the aggregates as they are.
-/
namespace EduPod.Payroll
open Fallible Runs

/-- An overridden entry and each of its payslips show the override as the net pay. -/
def OverridesPaid (s : Register) (runId : ℕ) : Prop := ∀ row ∈ s.entriesOf runId, ∀ amount,
  row.2.overrideTotalPay = some amount → row.2.totals.netPay = amount ∧
    (∃ p ∈ s.payslips.rows, p.2.payrollEntryId = row.1) ∧
    ∀ p ∈ s.payslips.rows, p.2.payrollEntryId = row.1 → p.2.totals.netPay = amount

/-- A run that a request finalises has its overrides paid. -/
def HonoursOverrides (s : Register) (command : Command) : Prop := ∀ runId, ¬isFinalised s runId →
  isFinalised (step s command) runId → OverridesPaid (step s command) runId

/-- What an entry earns by its contract and the rows about it, less what is taken off. -/
def payDue (s : Register) (run : PayrollRun) (row : ℕ × PayrollEntry) : ℤ :=
  (periodComp s run row.2).elim 0 fun comp =>
    let input := calcInputFor s run row.1 comp (scheduledTotal s run row.2.staffProfileId)
    computeBasePay input + computeClassBonus input + input.allowancesTotal + input.oneOffPositiveTotal +
      input.adjustmentPositiveTotal -
      (input.scheduledDeductionsTotal + input.oneOffNegativeTotal + input.adjustmentNegativeTotal)

/-- Every override is what would have been due anyway, and nothing behind an approval. -/
def OverridesIdle (s : Register) (command : Command) : Prop :=
  (∀ runId userId run, Finalises s command runId userId run → ∀ row ∈ s.entriesOf runId, ∀ amount,
    row.2.overrideTotalPay = some amount → payDue s run row = amount) ∧
  ∀ runId approverUserId run, Approves s command runId approverUserId run → ∀ row ∈ s.entriesOf runId, ∀ amount,
    row.2.overrideTotalPay = some amount → amount = 0

section
variable {s s' : Register} {runId : ℕ} {run : PayrollRun}

/-- The payslips of a run show what its entries hold. -/
theorem overridesPaid_iff {rows : List (ℕ × PayrollEntry)} (hrows : s.entriesOf runId = rows)
    (hpay : (s.payslips.select (isOfRun s runId)).map (fun p => payOn p.2) = rows.map payOfRow) :
    OverridesPaid s runId ↔
      ∀ row ∈ rows, ∀ amount, row.2.overrideTotalPay = some amount → row.2.totals.netPay = amount := by
  subst hrows
  constructor
  · exact fun h row hrow amount ha => (h row hrow amount ha).1
  · intro h row hrow amount ha
    have hnet := h row hrow amount ha
    refine ⟨hnet,?_,?_⟩
    · have hmem : payOfRow row ∈ (s.payslips.select (isOfRun s runId)).map fun p => payOn p.2 :=
        hpay ▸ List.mem_map_of_mem hrow
      obtain ⟨p,hp,he⟩ := List.mem_map.mp hmem
      exact ⟨p,(List.mem_filter.mp hp).1,(Prod.mk.inj he).1⟩
    · intro p hp hid
      have hof : isOfRun s runId p.2 = true := by
        rw [isOfRun_of_mem (List.mem_map.mpr ⟨row,hrow,hid.symm⟩)]
        exact decide_eq_true rfl
      have hmem : payOn p.2 ∈ (s.entriesOf runId).map payOfRow :=
        hpay ▸ List.mem_map_of_mem (f := fun p : ℕ × Payslip => payOn p.2) (List.mem_filter.mpr ⟨hp,hof⟩)
      obtain ⟨row',hrow',he⟩ := List.mem_map.mp hmem
      obtain ⟨hid',hpay'⟩ := Prod.mk.inj he
      have hsame : row' = row := Table.row_unique (mem_entriesOf.mp hrow').1 (mem_entriesOf.mp hrow).1 (hid'.trans hid)
      have htotals : row'.2.totals = p.2.totals := congrArg PayslipPay.totals hpay'
      rw [← hnet,← hsame,htotals]

theorem settledEntry_override (id : ℕ) (entry : PayrollEntry) :
    (settledEntry s run id entry).overrideTotalPay = entry.overrideTotalPay := by
  unfold settledEntry
  cases inputOf s run (id,entry) <;> rfl

/-- The calculation pays what is due. -/
theorem netPay_settledEntry {row : ℕ × PayrollEntry} (hzero : row.2.totals = .zero) :
    (settledEntry s run row.1 row.2).totals.netPay = payDue s run row := by
  unfold payDue
  cases hcomp : periodComp s run row.2 with
  | none => simp [settledEntry,inputOf,hcomp,hzero,PayTotals.zero]
  | some comp =>
    simp only [settledEntry,inputOf,hcomp,Option.map_some,Option.elim_some,computed,compute,toCents_intCast]

theorem overridesPaid_finalised_iff (run : PayrollRun) (hs : Sound s) (hopen : ¬isFinalised s runId) (userId : ℕ) :
    OverridesPaid (finalised s runId run userId) runId ↔ ∀ row ∈ s.entriesOf runId, ∀ amount,
      row.2.overrideTotalPay = some amount → payDue s run row = amount := by
  have hentries : (finalised s runId run userId).entriesOf runId = settledRows s runId run := entriesOf_settled rfl
  rw [overridesPaid_iff hentries (map_payOn_closed run hs hopen (get?_finalised_run userId) settledRows_ids rfl),
    settledRows,List.forall_mem_map]
  apply forall₂_congr
  intro row hrow
  obtain ⟨hmem,hrun⟩ := mem_entriesOf.mp hrow
  rw [settledEntry_override,netPay_settledEntry (hs.untouched row hmem (hrun ▸ hopen))]

theorem overridesPaid_approved_iff (run : PayrollRun) (hs : Sound s) (hopen : ¬isFinalised s runId) (approverUserId : ℕ) :
    OverridesPaid (approved s runId run approverUserId) runId ↔ ∀ row ∈ s.entriesOf runId, ∀ amount,
      row.2.overrideTotalPay = some amount → amount = 0 := by
  have hentries : (approved s runId run approverUserId).entriesOf runId = s.entriesOf runId := rfl
  rw [overridesPaid_iff hentries (map_payOn_closed run hs hopen (fun _ => rfl) rfl rfl)]
  apply forall₂_congr
  intro row hrow
  obtain ⟨hmem,hrun⟩ := mem_entriesOf.mp hrow
  have hnet : row.2.totals.netPay = 0 := by rw [hs.untouched row hmem (hrun ▸ hopen)]; rfl
  rw [hnet]
  exact forall₂_congr fun amount _ => eq_comm

theorem step_honoursOverrides_iff (s : Register) (command : Command) (hs : Sound s) :
    HonoursOverrides s command ↔ OverridesIdle s command := by
  unfold HonoursOverrides
  have h := step_stepped hs command
  generalize step s command = s' at h ⊢
  cases h with
  | finalised runId userId run hf =>
    obtain ⟨_,_,_,rfl,hrun,hopen,_⟩ := id hf
    have hnot : ¬isFinalised s runId := by
      rw [isFinalised_iff hrun]
      exact open_of_isOpen hopen
    have hiff := overridesPaid_finalised_iff run hs hnot userId
    constructor
    · intro h
      refine ⟨?_,fun _ _ _ ha => absurd ha hf.not_approves⟩
      intro runId' userId' run' hf'
      obtain ⟨rfl,rfl,rfl⟩ := hf.unique hf'
      exact hiff.mp (h runId' hnot ((isFinalised_closed hrun rfl runId').mpr (.inl rfl)))
    · intro h id hid hfinal
      rcases (isFinalised_closed hrun rfl id).mp hfinal with rfl | hold
      · exact hiff.mpr (h.1 id userId run hf)
      · exact absurd hold hid
  | approved runId approverUserId run ha =>
    obtain ⟨rfl,hrun,hpending⟩ := id ha
    have hnot : ¬isFinalised s runId := by
      rw [isFinalised_iff hrun,hpending]
      decide
    have hiff := overridesPaid_approved_iff run hs hnot approverUserId
    constructor
    · intro h
      refine ⟨fun _ _ _ hf => absurd ha hf.not_approves,?_⟩
      rintro runId' approverUserId' run' ⟨he,hrun',-⟩
      cases he
      exact hiff.mp (h runId hnot ((isFinalised_closed hrun rfl runId).mpr (.inl rfl)))
    · intro h id hid hfinal
      rcases (isFinalised_closed hrun rfl id).mp hfinal with rfl | hold
      · exact hiff.mpr (h.2 id approverUserId run ha)
      · exact absurd hold hid
  | drafted _ hno hd =>
    refine iff_of_true (fun id hid hfinal => absurd ((hd.finalised id).mp hfinal) hid) ?_
    exact ⟨fun _ _ _ hf => absurd hf (hno.1 _ _ _),fun _ _ _ ha => absurd ha (hno.2 _ _ _)⟩
  | deductions t hno _ _ =>
    refine iff_of_true (fun id hid hfinal => absurd hfinal hid) ?_
    exact ⟨fun _ _ _ hf => absurd hf (hno.1 _ _ _),fun _ _ _ ha => absurd ha (hno.2 _ _ _)⟩

end

/-- Overrides are honoured precisely along the sequences of requests in which they make no difference. -/
theorem guarded_honoursOverrides_iff (records : StaffRecords) (commands : List Command) :
    Guarded step HonoursOverrides (Register.initial records) commands ↔
      Guarded step OverridesIdle (Register.initial records) commands :=
  guarded_iff step_sound step_honoursOverrides_iff (initial_sound records)

/-! ## A salary that is overridden -/

/-- The pay of the one entry is overridden with 2500.00. -/
def overridden2500 : UpdatePayrollEntryDto where
  daysWorked := none
  classesTaught := none
  notes := none
  overrideTotalPay := some (some 250000)
  overrideNote := some (some "agreed")

/-- The entry and its payslip show the salary of 3000.00. -/
theorem not_guarded_honoursOverrides : ¬∀ (records : StaffRecords) (commands : List Command),
    Guarded step HonoursOverrides (Register.initial records) commands := by
  intro h
  let drafted : List Command := [.createRun 2026 3 22,.updateEntry 0 overridden2500 false]
  let paid : List Command := drafted ++ [.finalise 0 0 false false true false]
  obtain ⟨-,-,hlast,-⟩ := h oneSalary paid
  have hopen : ((drafted.foldl step (Register.initial oneSalary)).runs.get? 0).map (·.status) = some .draft := by
    decide +kernel
  have hfinal : ((paid.foldl step (Register.initial oneSalary)).runs.get? 0).map (·.status) = some .finalised := by
    decide +kernel
  have hentry : ((paid.foldl step (Register.initial oneSalary)).entriesOf 0).map
      (fun e => (e.2.overrideTotalPay,e.2.totals.netPay)) = [(some 250000,300000)] := by decide +kernel
  have hbefore : ¬isFinalised (drafted.foldl step (Register.initial oneSalary)) 0 := by
    rintro ⟨run,hrun,hf⟩
    rw [hrun,Option.map_some,hf] at hopen
    cases hopen
  have hafter : isFinalised (paid.foldl step (Register.initial oneSalary)) 0 := by
    obtain ⟨run,hrun,hf⟩ := Option.map_eq_some_iff.mp hfinal
    exact ⟨run,hrun,hf⟩
  have hmem : (some 250000,300000) ∈ ((paid.foldl step (Register.initial oneSalary)).entriesOf 0).map
      (fun e => (e.2.overrideTotalPay,e.2.totals.netPay)) := by
    rw [hentry]
    exact List.mem_singleton_self _
  obtain ⟨row,hrow,he⟩ := List.mem_map.mp hmem
  obtain ⟨hoverride,hnet⟩ := Prod.mk.inj he
  have hpaid := (hlast 0 hbefore hafter row hrow 250000 hoverride).1
  rw [hnet] at hpaid
  exact absurd hpaid (by decide)

end EduPod.Payroll
