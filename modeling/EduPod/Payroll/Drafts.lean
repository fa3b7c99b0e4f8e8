import EduPod.Payroll.FinalisationSpec

/-! # Registers that runs of requests lead to

A run that is not finalised has nothing but drafts: entries with the default aggregates, no payslip
and no application. Every draft request leaves it so.
-/
namespace EduPod.Payroll
open Fallible

def isFinalised (s : Register) (runId : ℕ) : Prop :=
  ∃ run, s.runs.get? runId = some run ∧ run.status = .finalised

/-- The parts of the pay that an entry or a payslip shows. -/
structure PayslipPay where
  basePay : ℤ
  bonusPay : ℤ
  totals : PayTotals
  deriving DecidableEq

def payOfRow (row : ℕ × PayrollEntry) : ℕ × PayslipPay := (row.1,⟨row.2.basicPay,row.2.bonusPay,row.2.totals⟩)

/-- The entry, if it is there, belongs to a run that is not finalised. -/
def isOpenEntry (s : Register) (entryId : ℕ) : Prop :=
  ∀ e, s.entries.get? entryId = some e → ¬isFinalised s e.payrollRunId

/-- What holds of the tables after any sequence of requests. -/
structure Sound (s : Register) : Prop where
  unique : ∀ a ∈ s.entries.rows, ∀ b ∈ s.entries.rows, a.2.payrollRunId = b.2.payrollRunId →
    a.2.staffProfileId = b.2.staffProfileId → a.1 = b.1
  untouched : ∀ r ∈ s.entries.rows, ¬isFinalised s r.2.payrollRunId → r.2.totals = .zero
  applications : ∀ a ∈ s.applications.rows, isFinalised s a.2.payrollRunId ∧ a.2.committed = true ∧
    (s.deductions.get? a.2.staffRecurringDeductionId).isSome
  payslips : ∀ p ∈ s.payslips.rows, ∃ e, s.entries.get? p.2.payrollEntryId = some e ∧ isFinalised s e.payrollRunId

/-- What a draft request may do: edit what is not finalised, and add entries to it. -/
structure Drafted (s s' : Register) : Prop where
  finalised : ∀ id, isFinalised s' id ↔ isFinalised s id
  runs : ∀ id, (s.runs.get? id).isSome → (s'.runs.get? id).isSome
  entries : ∀ r ∈ s'.entries.rows,
    (∃ e, s.entries.get? r.1 = some e ∧ e.payrollRunId = r.2.payrollRunId ∧ e.totals = r.2.totals) ∨
    s.entries.get? r.1 = none ∧ ¬isFinalised s r.2.payrollRunId ∧ r.2.totals = .zero
  kept : ∀ id e, s.entries.get? id = some e →
    ∃ e', s'.entries.get? id = some e' ∧ e'.payrollRunId = e.payrollRunId
  unique : (∀ a ∈ s.entries.rows, ∀ b ∈ s.entries.rows, a.2.payrollRunId = b.2.payrollRunId →
      a.2.staffProfileId = b.2.staffProfileId → a.1 = b.1) →
    ∀ a ∈ s'.entries.rows, ∀ b ∈ s'.entries.rows, a.2.payrollRunId = b.2.payrollRunId →
      a.2.staffProfileId = b.2.staffProfileId → a.1 = b.1
  settled : ∀ id, isFinalised s id → s'.runs.get? id = s.runs.get? id ∧
    (s'.entriesOf id).map payOfRow = (s.entriesOf id).map payOfRow
  deductions : s'.deductions = s.deductions
  applications : s'.applications = s.applications
  payslips : s'.payslips = s.payslips

section
variable {s s' s'' : Register} {runId : ℕ}

theorem isFinalised_iff {run : PayrollRun} (h : s.runs.get? runId = some run) :
    isFinalised s runId ↔ run.status = .finalised := by
  constructor
  · rintro ⟨run',h',hs⟩
    rw [h] at h'
    exact Option.some.inj h' ▸ hs
  · intro hs
    exact ⟨run,h,hs⟩

theorem isFinalised_congr (h : s'.runs = s.runs) (id : ℕ) : isFinalised s' id ↔ isFinalised s id := by
  rw [isFinalised,h,isFinalised]

/-- Until a run is finalised nothing of it is settled. -/
theorem Sound.ready (hs : Sound s) (h : ¬isFinalised s runId) : Ready s runId where
  unique := by
    have hn : s.entries.rows.Nodup := s.entries.nodup.of_map
    refine List.Nodup.pairwise_of_forall_ne (List.Nodup.filter _ hn) ?_
    intro a ha b hb hne hstaff
    obtain ⟨ha,hrun⟩ := mem_entriesOf.mp ha
    obtain ⟨hb,hrun'⟩ := mem_entriesOf.mp hb
    exact hne (Table.row_unique ha hb (hs.unique a ha b hb (hrun.trans hrun'.symm) hstaff))
  applications := by
    rintro a ha rfl
    exact h (hs.applications a ha).1
  payslips := by
    intro p hp hmem
    obtain ⟨row,hrow,he⟩ := List.mem_map.mp hmem
    obtain ⟨hrow,hrun⟩ := mem_entriesOf.mp hrow
    obtain ⟨e,hget,hfinal⟩ := hs.payslips p hp
    rw [← he,Table.get?_of_mem (a := row.2) hrow] at hget
    rw [← Option.some.inj hget,hrun] at hfinal
    exact h hfinal

theorem Sound.drafted (hs : Sound s) (h : Drafted s s') : Sound s' where
  unique := h.unique hs.unique
  untouched := by
    intro r hr hopen
    rcases h.entries r hr with ⟨e,he,hrun,htotals⟩ | ⟨-,-,htotals⟩
    · rw [← htotals]
      apply hs.untouched (r.1,e) (Table.mem_of_get? he)
      rw [hrun]
      exact fun hf => hopen ((h.finalised _).mpr hf)
    · exact htotals
  applications := by
    rw [h.applications,h.deductions]
    intro a ha
    obtain ⟨hf,hrest⟩ := hs.applications a ha
    exact ⟨(h.finalised _).mpr hf,hrest⟩
  payslips := by
    rw [h.payslips]
    intro p hp
    obtain ⟨e,he,hf⟩ := hs.payslips p hp
    obtain ⟨e',he',hrun⟩ := h.kept _ e he
    exact ⟨e',he',(h.finalised _).mpr (hrun ▸ hf)⟩

/-! ## Draft edits compose -/

theorem Drafted.refl (s : Register) : Drafted s s where
  finalised := fun _ => Iff.rfl
  runs := fun _ h => h
  entries := fun r hr => .inl ⟨r.2,Table.get?_of_mem hr,rfl,rfl⟩
  kept := fun _ e he => ⟨e,he,rfl⟩
  unique := fun h => h
  settled := fun _ _ => ⟨rfl,rfl⟩
  deductions := rfl
  applications := rfl
  payslips := rfl

theorem Drafted.trans (h : Drafted s s') (h' : Drafted s' s'') : Drafted s s'' where
  finalised := fun id => (h'.finalised id).trans (h.finalised id)
  runs := fun id hid => h'.runs id (h.runs id hid)
  entries := by
    intro r hr
    rcases h'.entries r hr with ⟨e',he',hrun',htotals'⟩ | ⟨hnone,hopen,hzero⟩
    · rcases h.entries (r.1,e') (Table.mem_of_get? he') with ⟨e,he,hrun,htotals⟩ | ⟨hnone,hopen,hzero⟩
      · exact .inl ⟨e,he,hrun.trans hrun',htotals.trans htotals'⟩
      · exact .inr ⟨hnone,hrun' ▸ hopen,htotals' ▸ hzero⟩
    · refine .inr ⟨?_,fun hf => hopen ((h.finalised _).mpr hf),hzero⟩
      cases he : s.entries.get? r.1 with
      | none => rfl
      | some e =>
        obtain ⟨e',he',-⟩ := h.kept r.1 e he
        rw [hnone] at he'
        cases he'
  kept := by
    intro id e he
    obtain ⟨e',he',hrun'⟩ := h.kept id e he
    obtain ⟨e'',he'',hrun''⟩ := h'.kept id e' he'
    exact ⟨e'',he'',hrun''.trans hrun'⟩
  unique := fun hu => h'.unique (h.unique hu)
  settled := by
    intro id hf
    obtain ⟨hrun,hpay⟩ := h.settled id hf
    obtain ⟨hrun',hpay'⟩ := h'.settled id ((h.finalised id).mpr hf)
    exact ⟨hrun'.trans hrun,hpay'.trans hpay⟩
  deductions := h'.deductions.trans h.deductions
  applications := h'.applications.trans h.applications
  payslips := h'.payslips.trans h.payslips

/-- Requests that touch neither runs nor entries. -/
theorem Drafted.of_same (hruns : s'.runs = s.runs) (hentries : s'.entries = s.entries)
    (hd : s'.deductions = s.deductions) (ha : s'.applications = s.applications) (hp : s'.payslips = s.payslips) :
    Drafted s s' where
  finalised := isFinalised_congr hruns
  runs := fun id h => by rwa [hruns]
  entries := fun r hr => .inl ⟨r.2,Table.get?_of_mem (hentries ▸ hr),rfl,rfl⟩
  kept := fun id e he => ⟨e,hentries ▸ he,rfl⟩
  unique := fun h => hentries ▸ h
  settled := fun id _ => ⟨by rw [hruns],by rw [Register.entriesOf,hentries]; rfl⟩
  deductions := hd
  applications := ha
  payslips := hp

/-- An edit of a run that is not finalised and stays so. -/
theorem Drafted.modifyRun {g : PayrollRun → PayrollRun}
    (hg : ∀ run, s.runs.get? runId = some run → run.status ≠ .finalised ∧ (g run).status ≠ .finalised) :
    Drafted s { s with runs := s.runs.modify runId g } where
  finalised := by
    intro id
    cases h : s.runs.get? id with
    | none =>
      have hget : (s.runs.modify runId g).get? id = none := by simp [Table.get?_modify,h]
      constructor
      · rintro ⟨run,hrun,-⟩
        change (s.runs.modify runId g).get? id = some run at hrun
        rw [hget] at hrun
        cases hrun
      · rintro ⟨run,hrun,-⟩
        rw [h] at hrun
        cases hrun
    | some run =>
      rw [isFinalised_iff h]
      by_cases hid : id = runId
      · subst hid
        have hget : (s.runs.modify id g).get? id = some (g run) := Table.get?_modify_self h g
        exact (isFinalised_iff (s := { s with runs := s.runs.modify id g }) hget).trans
          (iff_of_false (hg run h).2 (hg run h).1)
      · have hget : (s.runs.modify runId g).get? id = some run := (Table.get?_modify_ne _ hid g).trans h
        exact isFinalised_iff (s := { s with runs := s.runs.modify runId g }) hget
  runs := fun id h => by simpa using h
  entries := fun r hr => .inl ⟨r.2,Table.get?_of_mem hr,rfl,rfl⟩
  kept := fun _ e he => ⟨e,he,rfl⟩
  unique := fun h => h
  settled := by
    rintro id ⟨run,hrun,hf⟩
    have hne : id ≠ runId := fun he => (hg run (he ▸ hrun)).1 hf
    exact ⟨Table.get?_modify_ne _ hne g,rfl⟩
  deductions := rfl
  applications := rfl
  payslips := rfl

/-- An edit of an entry that leaves it to its run, its staff member and its aggregates, and its pay
where the run is finalised. -/
theorem Drafted.modifyEntry {entryId : ℕ} {g : PayrollEntry → PayrollEntry}
    (hg : ∀ e, (g e).payrollRunId = e.payrollRunId ∧ (g e).staffProfileId = e.staffProfileId ∧
      (g e).totals = e.totals)
    (hpay : isOpenEntry s entryId ∨ ∀ e, (g e).basicPay = e.basicPay ∧ (g e).bonusPay = e.bonusPay) :
    Drafted s { s with entries := s.entries.modify entryId g } := by
  have hrows : ∀ r ∈ (s.entries.modify entryId g).rows, ∃ e, (r.1,e) ∈ s.entries.rows ∧
      r.2.payrollRunId = e.payrollRunId ∧ r.2.staffProfileId = e.staffProfileId ∧ r.2.totals = e.totals := by
    intro r hr
    rw [Table.modify_eq_mapRows] at hr
    obtain ⟨q,hq,rfl⟩ := Table.mem_mapRows.mp hr
    refine ⟨q.2,hq,?_⟩
    dsimp only
    split
    · exact hg q.2
    · exact ⟨rfl,rfl,rfl⟩
  refine ⟨fun _ => Iff.rfl,fun _ h => h,?_,?_,?_,?_,rfl,rfl,rfl⟩
  · intro r hr
    obtain ⟨e,he,hrun,-,htotals⟩ := hrows r hr
    exact .inl ⟨e,Table.get?_of_mem he,hrun.symm,htotals.symm⟩
  · intro id e he
    by_cases hid : id = entryId
    · subst hid
      exact ⟨g e,Table.get?_modify_self he g,(hg e).1⟩
    · exact ⟨e,(Table.get?_modify_ne _ hid g).trans he,rfl⟩
  · intro hu a ha b hb hrun hstaff
    obtain ⟨x,hx,hxrun,hxstaff,-⟩ := hrows a ha
    obtain ⟨y,hy,hyrun,hystaff,-⟩ := hrows b hb
    exact hu (a.1,x) hx (b.1,y) hy (hxrun.symm.trans (hrun.trans hyrun)) (hxstaff.symm.trans (hstaff.trans hystaff))
  · intro id hf
    refine ⟨rfl,?_⟩
    have hselect : (s.entries.modify entryId g).select (fun e => e.payrollRunId = id) =
        (s.entriesOf id).map fun r => (r.1,if r.1 = entryId then g r.2 else r.2) := by
      rw [Table.modify_eq_mapRows]
      apply Table.select_mapRows
      intro r _
      split
      · rw [(hg r.2).1]
      · rfl
    change ((s.entries.modify entryId g).select fun e => e.payrollRunId = id).map payOfRow = _
    rw [hselect,List.map_map]
    apply List.map_congr_left
    intro r hr
    obtain ⟨hmem,hrun⟩ := mem_entriesOf.mp hr
    dsimp only [Function.comp,payOfRow]
    split
    · rename_i hid
      rcases hpay with hopen | hpay
      · exact absurd (hrun ▸ hf) (hopen r.2 (hid ▸ Table.get?_of_row hmem))
      · rw [(hpay r.2).1,(hpay r.2).2,(hg r.2).2.2]
    · rfl

/-- A new entry for a staff member who has none in the run yet. -/
theorem Drafted.insertEntry {entry : PayrollEntry} (hopen : ¬isFinalised s entry.payrollRunId)
    (hnew : ∀ e ∈ s.entriesOf entry.payrollRunId, e.2.staffProfileId ≠ entry.staffProfileId)
    (hzero : entry.totals = .zero) : Drafted s { s with entries := s.entries.insert entry } := by
  have hrows : ∀ r ∈ (s.entries.insert entry).rows, r ∈ s.entries.rows ∨ r = (s.entries.next,entry) := by
    intro r hr
    simpa [Table.insert] using hr
  have hclash : ∀ r ∈ s.entries.rows, r.2.payrollRunId = entry.payrollRunId →
      r.2.staffProfileId ≠ entry.staffProfileId := fun r hr hrun => hnew r (mem_entriesOf.mpr ⟨hr,hrun⟩)
  refine ⟨fun _ => Iff.rfl,fun _ h => h,?_,?_,?_,?_,rfl,rfl,rfl⟩
  · intro r hr
    rcases hrows r hr with hr | rfl
    · exact .inl ⟨r.2,Table.get?_of_mem hr,rfl,rfl⟩
    · exact .inr ⟨Table.get?_next _,hopen,hzero⟩
  · intro id e he
    refine ⟨e,?_,rfl⟩
    apply Table.get?_of_mem
    exact List.mem_append_left _ (Table.mem_of_get? he)
  · intro hu a ha b hb hrun hstaff
    rcases hrows a ha with ha | rfl <;> rcases hrows b hb with hb | rfl
    · exact hu a ha b hb hrun hstaff
    · exact absurd hstaff (hclash a ha hrun)
    · exact absurd hstaff.symm (hclash b hb hrun.symm)
    · rfl
  · intro id hf
    have hne : entry.payrollRunId ≠ id := fun he => hopen (he ▸ hf)
    refine ⟨rfl,congrArg (List.map payOfRow) ?_⟩
    simp [Register.entriesOf,Table.select,Table.insert,hne]

/-- A run that starts as a draft. -/
theorem Drafted.insertRun {run : PayrollRun} (hrun : run.status ≠ .finalised) :
    Drafted s { s with runs := s.runs.insert run } where
  finalised := by
    intro id
    unfold isFinalised
    rw [Table.get?_insert]
    split
    · rename_i hid
      constructor
      · rintro ⟨run',he,hs⟩
        obtain rfl := Option.some.inj he
        exact absurd hs hrun
      · rintro ⟨run',he,-⟩
        rw [hid,Table.get?_next] at he
        cases he
    · rfl
  runs := fun id h => Table.isSome_get?_insert h run
  entries := fun r hr => .inl ⟨r.2,Table.get?_of_mem hr,rfl,rfl⟩
  kept := fun _ e he => ⟨e,he,rfl⟩
  unique := fun h => h
  settled := by
    rintro id ⟨run',hrun',-⟩
    have hne : id ≠ s.runs.next := (Table.lt_next_of_get? hrun').ne
    refine ⟨?_,rfl⟩
    change (s.runs.insert run).get? id = s.runs.get? id
    rw [Table.get?_insert,if_neg hne]
  deductions := rfl
  applications := rfl
  payslips := rfl

theorem isOpenEntry.drafted {entryId : ℕ} (h : isOpenEntry s entryId) (hd : Drafted s s') :
    isOpenEntry s' entryId := by
  intro e he hf
  rw [hd.finalised] at hf
  rcases hd.entries (entryId,e) (Table.mem_of_get? he) with ⟨e₀,he₀,hrun,-⟩ | ⟨-,hopen,-⟩
  · exact h e₀ he₀ (hrun.symm ▸ hf)
  · exact hopen hf

theorem isOpenEntry_of_mem {row : ℕ × PayrollEntry} (hrow : row ∈ s.entriesOf runId) (hopen : ¬isFinalised s runId) :
    isOpenEntry s row.1 := by
  intro e he
  obtain ⟨hmem,hrun⟩ := mem_entriesOf.mp hrow
  rw [Table.get?_of_row hmem] at he
  rw [← Option.some.inj he,hrun]
  exact hopen

/-! ## The draft requests -/

theorem addEntry_drafted {run : PayrollRun} {comp : StaffCompensation} (hopen : ¬isFinalised s runId)
    (h : addEntry runId run s comp = .ok s') : Drafted s s' := by
  simp only [addEntry,bind_eq_ok,ensure_eq_ok,pure_eq_ok] at h
  obtain ⟨result,-,-,hnew,rfl⟩ := h
  exact Drafted.insertEntry hopen hnew rfl

theorem addEntries_drafted {run : PayrollRun} {comps : List StaffCompensation} (hopen : ¬isFinalised s runId)
    (h : comps.foldlM (addEntry runId run) s = .ok s') : Drafted s s' := by
  refine foldlM_relates (R := Drafted) ?_ (Drafted.refl s) h
  intro b hb comp _ b' hstep
  exact hb.trans (addEntry_drafted (fun hf => hopen ((hb.finalised runId).mp hf)) hstep)

theorem createRun_drafted {periodYear periodMonth totalWorkingDays : ℕ}
    (h : createRun s periodYear periodMonth totalWorkingDays = .ok s') : Drafted s s' := by
  simp only [createRun,ensure_bind_eq_ok] at h
  have hrun : Drafted s { s with runs := s.runs.insert (newRun periodYear periodMonth totalWorkingDays) } :=
    Drafted.insertRun (by simp [newRun])
  refine hrun.trans (addEntries_drafted ?_ h.2)
  intro hf
  obtain ⟨run,he,-⟩ := (hrun.finalised _).mp hf
  rw [Table.get?_next] at he
  cases he

theorem refreshEntry_drafted {run : PayrollRun} {row : ℕ × PayrollEntry} (hopen : isOpenEntry s row.1)
    (h : refreshEntry run s row = .ok s') : Drafted s s' := by
  unfold refreshEntry at h
  split at h
  · cases h
    exact Drafted.refl s
  · split at h
    · simp only [bind_eq_ok,pure_eq_ok] at h
      obtain ⟨result,-,rfl⟩ := h
      exact Drafted.modifyEntry (fun e => ⟨rfl,rfl,rfl⟩) (.inl hopen)
    · cases h
      exact Drafted.refl s

theorem refreshEntries_drafted (h : refreshEntries s runId = .ok s') : Drafted s s' := by
  simp only [refreshEntries,bind_eq_ok,require_eq_ok,ensure_eq_ok] at h
  obtain ⟨run,hrun,-,hdraft,mid,hmid,h⟩ := h
  have hopen : ¬isFinalised s runId := by
    rw [isFinalised_iff hrun,hdraft]
    decide
  have hrefresh : Drafted s mid := by
    refine foldlM_relates (R := Drafted) ?_ (Drafted.refl s) hmid
    intro b hb row hrow b' hstep
    exact hb.trans (refreshEntry_drafted ((isOpenEntry_of_mem hrow hopen).drafted hb) hstep)
  refine hrefresh.trans (addEntries_drafted ?_ h)
  rwa [hrefresh.finalised]

theorem recalculateSalaried_drafted (totalWorkingDays : ℕ) (rows : List (ℕ × PayrollEntry)) (s : Register)
    (hopen : ∀ row ∈ rows, isOpenEntry s row.1) : Drafted s (recalculateSalaried totalWorkingDays s rows) := by
  induction rows generalizing s with
  | nil => exact Drafted.refl s
  | cons row rows ih =>
    unfold recalculateSalaried
    split
    · exact Drafted.refl s
    · rename_i result _
      have hone : Drafted s { s with entries := s.entries.modify row.1 (withPay result) } :=
        Drafted.modifyEntry (fun e => ⟨rfl,rfl,rfl⟩) (.inl (hopen row List.mem_cons_self))
      exact hone.trans (ih _ fun row' h => (hopen row' (List.mem_cons_of_mem row h)).drafted hone)

theorem updateRun_drafted {totalWorkingDays : Option ℕ} {stale : Bool}
    (h : updateRun s runId totalWorkingDays stale = .ok s') : Drafted s s' := by
  simp only [updateRun,require_bind_eq_ok,ensure_bind_eq_ok] at h
  obtain ⟨run,hrun,hdraft,-,h⟩ := h
  cases totalWorkingDays with
  | none =>
    cases h
    exact Drafted.refl s
  | some days =>
    have hdays : Drafted s { s with runs := s.runs.modify runId fun r => { r with totalWorkingDays := days } } :=
      Drafted.modifyRun fun run' hrun' => by
        obtain rfl := Option.some.inj (hrun.symm.trans hrun')
        rw [hdraft]
        exact ⟨by decide,by decide⟩
    dsimp only at h
    split at h
    · cases h
      exact hdays
    · cases h
      refine hdays.trans (recalculateSalaried_drafted days _ _ fun row hrow => ?_)
      have hopen : ¬isFinalised s runId := by
        rw [isFinalised_iff hrun,hdraft]
        decide
      exact (isOpenEntry_of_mem (List.mem_filter.mp hrow).1 hopen).drafted hdays

theorem updateEntry_drafted {entryId : ℕ} {dto : UpdatePayrollEntryDto} {stale : Bool}
    (h : updateEntry s entryId dto stale = .ok s') : Drafted s s' := by
  simp only [updateEntry,bind_eq_ok,require_eq_ok,ensure_eq_ok,pure_eq_ok] at h
  obtain ⟨entry,hentry,run,hrun,-,hdraft,-,-,-,-,-,-,result,-,-,-,rfl⟩ := h
  apply Drafted.modifyEntry
  · intro e
    unfold overridden
    split <;> exact ⟨rfl,rfl,rfl⟩
  · left
    intro e he
    obtain rfl := Option.some.inj (hentry.symm.trans he)
    rw [isFinalised_iff hrun,hdraft]
    decide

theorem setStatus_drafted {run : PayrollRun} {status : PayrollRunStatus} (hrun : s.runs.get? runId = some run)
    (hopen : run.status ≠ .finalised) (hstatus : status ≠ .finalised) :
    Drafted s { s with runs := s.runs.modify runId fun r => { r with status := status } } := by
  apply Drafted.modifyRun
  intro run' hrun'
  rw [hrun] at hrun'
  rw [← Option.some.inj hrun']
  exact ⟨hopen,hstatus⟩

theorem cancelRun_drafted (h : cancelRun s runId = .ok s') : Drafted s s' := by
  simp only [cancelRun,require_bind_eq_ok,ensure_bind_eq_ok,pure_eq_ok] at h
  obtain ⟨run,hrun,hvalid,rfl⟩ := h
  apply setStatus_drafted hrun
  · intro hf
    rw [hf] at hvalid
    revert hvalid
    decide
  · decide

theorem generateSessions_drafted (h : generateSessions s runId = .ok s') : Drafted s s' := by
  simp only [generateSessions,require_bind_eq_ok,pure_eq_ok] at h
  obtain ⟨run,-,rfl⟩ := h
  generalize (s.entriesOf runId).filter (fun e => e.2.compensationType = .perClass) = rows
  have hfold : ∀ b, Drafted s b → Drafted s (rows.foldl (fun s row => { s with
      entries := s.entries.modify row.1 fun e => { e with
        classesTaught := some (deliveredCount s.records run row.2.staffProfileId)
        autoPopulatedClassCount := some (deliveredCount s.records run row.2.staffProfileId) } }) b) := by
    induction rows with
    | nil => exact fun b hb => hb
    | cons row rows ih =>
      intro b hb
      exact ih _ (hb.trans (Drafted.modifyEntry (fun e => ⟨rfl,rfl,rfl⟩) (.inr fun e => ⟨rfl,rfl⟩)))
  exact hfold s (Drafted.refl s)

/-- The requests that only edit drafts. -/
def Command.drafts : Command → Bool
  | .createDeduction .. | .updateDeduction .. | .deleteDeduction .. | .finalise .. | .approvalCallback .. => false
  | _ => true

/-- The requests that commit applications. -/
def Command.commits : Command → Bool
  | .finalise .. | .approvalCallback .. => true
  | _ => false

theorem serve_drafted {command : Command} (hc : command.drafts = true) (h : serve s command = .ok s') :
    Drafted s s' := by
  cases command with
  | editStaffRecords records =>
    cases h
    exact .of_same rfl rfl rfl rfl rfl
  | createRun periodYear periodMonth totalWorkingDays => exact createRun_drafted h
  | updateRun runId totalWorkingDays stale => exact updateRun_drafted h
  | refreshEntries runId => exact refreshEntries_drafted h
  | updateEntry entryId dto stale => exact updateEntry_drafted h
  | createAdjustment runId entryId adjustmentType amount =>
    simp only [serve,createAdjustment,bind_eq_ok,require_eq_ok,ensure_eq_ok,pure_eq_ok] at h
    obtain ⟨entry,-,-,-,-,-,rfl⟩ := h
    exact .of_same rfl rfl rfl rfl rfl
  | updateAdjustment adjustmentId adjustmentType amount =>
    simp only [serve,updateAdjustment,bind_eq_ok,require_eq_ok,ensure_eq_ok,pure_eq_ok] at h
    obtain ⟨adjustment,-,-,-,rfl⟩ := h
    exact .of_same rfl rfl rfl rfl rfl
  | deleteAdjustment adjustmentId =>
    simp only [serve,deleteAdjustment,bind_eq_ok,require_eq_ok,ensure_eq_ok,pure_eq_ok] at h
    obtain ⟨adjustment,-,-,-,rfl⟩ := h
    exact .of_same rfl rfl rfl rfl rfl
  | createOneOffItem entryId itemType amount =>
    simp only [serve,createOneOffItem,bind_eq_ok,require_eq_ok,ensure_eq_ok,pure_eq_ok] at h
    obtain ⟨entry,-,-,-,rfl⟩ := h
    exact .of_same rfl rfl rfl rfl rfl
  | updateOneOffItem itemId itemType amount =>
    simp only [serve,updateOneOffItem,bind_eq_ok,require_eq_ok,ensure_eq_ok,pure_eq_ok] at h
    obtain ⟨item,-,entry,-,-,-,rfl⟩ := h
    exact .of_same rfl rfl rfl rfl rfl
  | deleteOneOffItem itemId =>
    simp only [serve,deleteOneOffItem,bind_eq_ok,require_eq_ok,ensure_eq_ok,pure_eq_ok] at h
    obtain ⟨item,-,entry,-,-,-,rfl⟩ := h
    exact .of_same rfl rfl rfl rfl rfl
  | generateSessions runId => exact generateSessions_drafted h
  | cancelRun runId => exact cancelRun_drafted h
  | _ => cases hc

/-! ## Finalising -/

theorem isFinalised_closed {totals : RunTotals} {actorUserId : ℕ} {run : PayrollRun}
    (hrun : s.runs.get? runId = some run) (h : s'.runs = s.runs.modify runId (closed totals actorUserId)) (id : ℕ) :
    isFinalised s' id ↔ id = runId ∨ isFinalised s id := by
  unfold isFinalised
  rw [h]
  by_cases hid : id = runId
  · subst hid
    rw [Table.get?_modify_self hrun]
    exact iff_of_true ⟨_,rfl,rfl⟩ (.inl rfl)
  · rw [Table.get?_modify_ne _ hid]
    simp [hid]

theorem mem_payslipsOf {run : PayrollRun} {actorUserId sequence : ℕ} {rows : List (ℕ × PayrollEntry)} {p : Payslip}
    (h : p ∈ payslipsOf run actorUserId sequence rows) : p.payrollEntryId ∈ rows.map Prod.fst := by
  induction rows generalizing sequence with
  | nil => cases h
  | cons row rows ih =>
    rcases List.mem_cons.mp h with rfl | h
    · exact List.mem_cons_self
    · exact List.mem_cons_of_mem _ (ih h)

/-- Closing a run keeps the tables sound where its applications are committed and the aggregates of all
other entries are left alone. -/
theorem Sound.close {run : PayrollRun} {totals : RunTotals} {actorUserId : ℕ} {f : ℕ → PayrollEntry → PayrollEntry}
    {as : List PayrollDeductionApplication} {ps : List Payslip} (hs : Sound s) (hrun : s.runs.get? runId = some run)
    (hruns : s'.runs = s.runs.modify runId (closed totals actorUserId))
    (hentries : s'.entries = s.entries.mapRows f)
    (hf : ∀ id e, (f id e).payrollRunId = e.payrollRunId ∧ (f id e).staffProfileId = e.staffProfileId ∧
      (e.payrollRunId ≠ runId → (f id e).totals = e.totals))
    (hdeductions : ∀ id, (s.deductions.get? id).isSome → (s'.deductions.get? id).isSome)
    (happlications : s'.applications = s.applications.insertAll as)
    (has : ∀ a ∈ as, a.payrollRunId = runId ∧ a.committed = true ∧
      (s.deductions.get? a.staffRecurringDeductionId).isSome)
    (hpayslips : s'.payslips = s.payslips.insertAll ps)
    (hps : ∀ p ∈ ps, p.payrollEntryId ∈ (s.entriesOf runId).map Prod.fst) : Sound s' where
  unique := by
    rw [hentries]
    intro a ha b hb hrun hstaff
    obtain ⟨x,hx,rfl⟩ := Table.mem_mapRows.mp ha
    obtain ⟨y,hy,rfl⟩ := Table.mem_mapRows.mp hb
    dsimp only at hrun hstaff
    rw [(hf x.1 x.2).1,(hf y.1 y.2).1] at hrun
    rw [(hf x.1 x.2).2.1,(hf y.1 y.2).2.1] at hstaff
    exact hs.unique x hx y hy hrun hstaff
  untouched := by
    rw [hentries]
    intro r hr hopen
    obtain ⟨x,hx,rfl⟩ := Table.mem_mapRows.mp hr
    dsimp only at hopen ⊢
    rw [(hf x.1 x.2).1,isFinalised_closed hrun hruns,not_or] at hopen
    exact ((hf x.1 x.2).2.2 hopen.1).trans (hs.untouched x hx hopen.2)
  applications := by
    rw [happlications]
    intro a ha
    rw [isFinalised_closed hrun hruns]
    rcases Table.mem_insertAll.mp ⟨a,ha,rfl⟩ with ⟨b,hb,he⟩ | hin
    · obtain ⟨hfinal,hcommitted,hsome⟩ := hs.applications b hb
      rw [he] at hfinal hcommitted hsome
      exact ⟨.inr hfinal,hcommitted,hdeductions _ hsome⟩
    · obtain ⟨hr,hcommitted,hsome⟩ := has a.2 hin
      exact ⟨.inl hr,hcommitted,hdeductions _ hsome⟩
  payslips := by
    rw [hpayslips,hentries]
    intro p hp
    rcases Table.mem_insertAll.mp ⟨p,hp,rfl⟩ with ⟨q,hq,he⟩ | hin
    · obtain ⟨e,hget,hfinal⟩ := hs.payslips q hq
      rw [he] at hget
      refine ⟨f p.2.payrollEntryId e,by rw [Table.get?_mapRows,hget]; rfl,?_⟩
      rw [(hf _ e).1,isFinalised_closed hrun hruns]
      exact .inr hfinal
    · obtain ⟨row,hrow,he⟩ := List.mem_map.mp (hps p.2 hin)
      obtain ⟨hrow,hr⟩ := mem_entriesOf.mp hrow
      have hget := Table.get?_of_row hrow
      refine ⟨f row.1 row.2,by rw [← he,Table.get?_mapRows,hget]; rfl,?_⟩
      rw [(hf _ _).1,isFinalised_closed hrun hruns]
      exact .inl hr

theorem settledEntry_staff {run : PayrollRun} (id : ℕ) (entry : PayrollEntry) :
    (settledEntry s run id entry).staffProfileId = entry.staffProfileId := by
  unfold settledEntry
  cases inputOf s run (id,entry) <;> rfl

theorem Sound.finalised {run : PayrollRun} (hs : Sound s) (hrun : s.runs.get? runId = some run) (actorUserId : ℕ) :
    Sound (finalised s runId run actorUserId) := by
  refine hs.close (f := fun id e => if e.payrollRunId = runId then settledEntry s run id e else e) hrun rfl rfl
    ?_ ?_ rfl ?_ rfl ?_
  · intro id e
    split
    · rename_i h
      exact ⟨settledEntry_run id e,settledEntry_staff id e,fun hne => absurd h hne⟩
    · exact ⟨rfl,rfl,fun _ => rfl⟩
  · intro id h
    change (Table.get? (s.deductions.mapRows _) id).isSome
    rwa [Table.get?_mapRows,Option.isSome_map]
  · intro a ha
    obtain ⟨b,hb,rfl⟩ := List.mem_map.mp ha
    obtain ⟨row,-,-,d,hd,rfl⟩ := of_mem_scheduledIn hb
    have hget := Table.get?_of_row (mem_dueRows.mp hd).1
    exact ⟨rfl,rfl,Option.isSome_of_eq_some hget⟩
  · intro p hp
    rw [← settledRows_ids]
    exact mem_payslipsOf hp

theorem Sound.approved {run : PayrollRun} (hs : Sound s) (hrun : s.runs.get? runId = some run) (approverUserId : ℕ) :
    Sound (approved s runId run approverUserId) := by
  refine hs.close (f := fun _ e => e) hrun rfl ?_ ?_ (fun _ h => h) (Table.insertAll_nil _).symm ?_ rfl ?_
  · exact (Table.mapRows_eq_self fun _ _ => rfl).symm
  · exact fun _ _ => ⟨rfl,rfl,fun _ => rfl⟩
  · exact fun _ ha => absurd ha List.not_mem_nil
  · exact fun _ hp => mem_payslipsOf hp

/-- The request goes down the direct path: the run is open, its entries are complete, and no approval
stands in the way. -/
def Finalises (s : Register) (command : Command) (runId userId : ℕ) (run : PayrollRun) : Prop :=
  ∃ requireApproval isSchoolOwner approved,
    command = .finalise runId userId false requireApproval isSchoolOwner approved ∧
    s.runs.get? runId = some run ∧ (run.status = .draft ∨ run.status = .pendingApproval) ∧
    (∀ e ∈ s.entriesOf runId, (e.2.compensationType = .salaried → e.2.daysWorked.isSome) ∧
      (e.2.compensationType = .perClass → e.2.classesTaught.isSome)) ∧
    ¬(run.status = .draft ∧ requireApproval = true ∧ isSchoolOwner = false ∧ approved = false)

/-- The request is the callback of an approval that the run waits for. -/
def Approves (s : Register) (command : Command) (runId approverUserId : ℕ) (run : PayrollRun) : Prop :=
  command = .approvalCallback runId approverUserId ∧ s.runs.get? runId = some run ∧ run.status = .pendingApproval

/-- A request finalises one run at most. -/
theorem Finalises.unique {command : Command} {userId runId' userId' : ℕ} {run run' : PayrollRun}
    (h : Finalises s command runId userId run) (h' : Finalises s command runId' userId' run') :
    runId' = runId ∧ userId' = userId ∧ run' = run := by
  obtain ⟨_,_,_,rfl,hrun,-⟩ := h
  obtain ⟨_,_,_,he,hrun',-⟩ := h'
  cases he
  exact ⟨rfl,rfl,Option.some.inj (hrun'.symm.trans hrun)⟩

theorem Finalises.not_approves {command : Command} {userId runId' approverUserId : ℕ} {run run' : PayrollRun}
    (h : Finalises s command runId userId run) : ¬Approves s command runId' approverUserId run' := by
  rintro ⟨rfl,-⟩
  obtain ⟨_,_,_,he,-⟩ := h
  cases he

theorem open_of_isOpen {run : PayrollRun} (h : run.status = .draft ∨ run.status = .pendingApproval) :
    run.status ≠ .finalised := by
  rcases h with h | h <;> rw [h] <;> decide

theorem executeFinalisation_eq {run : PayrollRun} (hs : Sound s) (hrun : s.runs.get? runId = some run)
    (hopen : run.status = .draft ∨ run.status = .pendingApproval) (userId : ℕ) :
    executeFinalisation s runId userId = .ok (finalised s runId run userId) := by
  have hready : Ready s runId := hs.ready (by rw [isFinalised_iff hrun]; exact open_of_isOpen hopen)
  have heq := finaliseAtomic_eq hready hrun (open_of_isOpen hopen) userId
  unfold executeFinalisation
  rw [require_bind_eq_ok]
  refine ⟨run,hrun,?_⟩
  rw [ensure_bind_eq_ok]
  rcases hopen with h | h
  · rw [h] at heq ⊢
    exact ⟨by decide,heq⟩
  · rw [h] at heq ⊢
    exact ⟨by decide,heq⟩

/-- A finalisation that is accepted asks for an approval or goes down the direct path. -/
theorem finalise_cases {userId : ℕ} {stale requireApproval isSchoolOwner approved : Bool} (hs : Sound s)
    (h : finalise s runId userId stale requireApproval isSchoolOwner approved = .ok s') :
    Drafted s s' ∨ ∃ run, Finalises s (.finalise runId userId stale requireApproval isSchoolOwner approved)
      runId userId run ∧ s' = finalised s runId run userId := by
  simp only [finalise,bind_eq_ok,require_eq_ok,ensure_eq_ok] at h
  obtain ⟨run,hrun,-,hvalid,-,hstale,-,hcomplete,h⟩ := h
  have hopen : run.status = .draft ∨ run.status = .pendingApproval := by
    revert hvalid
    cases run.status <;> decide
  split at h
  · rename_i hpending
    rw [pure_eq_ok] at h
    subst h
    exact .inl (setStatus_drafted hrun (open_of_isOpen hopen) (by decide))
  · rename_i hdirect
    rw [executeFinalisation_eq hs hrun hopen] at h
    cases h
    refine .inr ⟨run,⟨requireApproval,isSchoolOwner,approved,by rw [hstale],hrun,hopen,hcomplete,?_⟩,rfl⟩
    simpa using hdirect

theorem finalise_eq {command : Command} {userId : ℕ} {run : PayrollRun} (hs : Sound s)
    (h : Finalises s command runId userId run) : serve s command = .ok (finalised s runId run userId) := by
  obtain ⟨requireApproval,isSchoolOwner,approved,rfl,hrun,hopen,hcomplete,hdirect⟩ := h
  simp only [serve,finalise,bind_eq_ok,require_eq_ok,ensure_eq_ok]
  refine ⟨run,hrun,⟨⟩,?_,⟨⟩,trivial,⟨⟩,hcomplete,?_⟩
  · rcases hopen with h | h <;> rw [h] <;> decide
  · rw [if_neg (by simpa using hdirect)]
    exact executeFinalisation_eq hs hrun hopen userId

/-- The job behind an approval closes a run that waits for it and does nothing otherwise. -/
theorem processJob_cases {approverUserId : ℕ} (hs : Sound s) (h : processJob s runId approverUserId = .ok s') :
    s' = s ∨ ∃ run, s.runs.get? runId = some run ∧ run.status = .pendingApproval ∧
      s' = approved s runId run approverUserId := by
  have hfound : ∃ run, s.runs.get? runId = some run := by
    unfold processJob at h
    rw [require_bind_eq_ok] at h
    obtain ⟨run,hrun,-⟩ := h
    exact ⟨run,hrun⟩
  obtain ⟨run,hrun⟩ := hfound
  by_cases hpending : run.status = .pendingApproval
  · have hready : Ready s runId := hs.ready (by rw [isFinalised_iff hrun,hpending]; decide)
    rw [processJob_eq hready hrun hpending] at h
    cases h
    exact .inr ⟨run,hrun,hpending,rfl⟩
  · unfold processJob at h
    rw [require_bind_eq_ok] at h
    obtain ⟨run',hrun',h⟩ := h
    obtain rfl := Option.some.inj (hrun.symm.trans hrun')
    rw [if_neg hpending] at h
    cases h
    exact .inl rfl

/-! ## Whole runs -/

theorem Sound.setDeductions {t : Table StaffRecurringDeduction} (hs : Sound s)
    (h : ∀ a ∈ s.applications.rows, (t.get? a.2.staffRecurringDeductionId).isSome) :
    Sound { s with deductions := t } where
  unique := hs.unique
  untouched := hs.untouched
  applications := fun a ha => ⟨(hs.applications a ha).1,(hs.applications a ha).2.1,h a ha⟩
  payslips := hs.payslips

/-- What the requests about recurring deductions do to their table. -/
inductive DeductionEdit (s : Register) : Table StaffRecurringDeduction → Prop
  | create (d : StaffRecurringDeduction) : 0 < d.totalAmount → 0 < d.monthlyAmount →
      d.remainingAmount = d.totalAmount → d.active = true → DeductionEdit s (s.deductions.insert d)
  | update (id : ℕ) (monthlyAmount : Option ℤ) (active : Option Bool) : (∀ m, monthlyAmount = some m → 0 < m) →
      DeductionEdit s (s.deductions.modify id fun d => { d with
        monthlyAmount := monthlyAmount.getD d.monthlyAmount
        active := active.getD d.active })
  | delete (id : ℕ) : (∀ a ∈ s.applications.rows, a.2.staffRecurringDeductionId ≠ id) →
      DeductionEdit s (s.deductions.erase id)

/-- The request finalises no run, by either path. -/
def ClosesNone (s : Register) (command : Command) : Prop :=
  (∀ runId userId run, ¬Finalises s command runId userId run) ∧
  ∀ runId approverUserId run, ¬Approves s command runId approverUserId run

/-- The four things a request can do. -/
inductive Stepped (s : Register) (command : Command) : Register → Prop
  | finalised (runId userId : ℕ) (run : PayrollRun) : Finalises s command runId userId run →
      Stepped s command (finalised s runId run userId)
  | approved (runId approverUserId : ℕ) (run : PayrollRun) : Approves s command runId approverUserId run →
      Stepped s command (approved s runId run approverUserId)
  | drafted (s' : Register) : ClosesNone s command → Drafted s s' → Stepped s command s'
  | deductions (t : Table StaffRecurringDeduction) : ClosesNone s command → command.commits = false →
      DeductionEdit s t → Stepped s command { s with deductions := t }

theorem step_finalises {command : Command} {userId : ℕ} {run : PayrollRun} (hs : Sound s)
    (h : Finalises s command runId userId run) : step s command = finalised s runId run userId := by
  have hserve := finalise_eq hs h
  obtain ⟨requireApproval,isSchoolOwner,approved,rfl,-⟩ := h
  have hvalid : (Command.finalise runId userId false requireApproval isSchoolOwner approved).valid = true := rfl
  unfold step
  rw [if_pos hvalid,hserve]

theorem step_approves {command : Command} {approverUserId : ℕ} {run : PayrollRun} (hs : Sound s)
    (h : Approves s command runId approverUserId run) : step s command = approved s runId run approverUserId := by
  obtain ⟨rfl,hrun,hpending⟩ := h
  have hready : Ready s runId := hs.ready (by rw [isFinalised_iff hrun,hpending]; decide)
  have hserve : serve s (.approvalCallback runId approverUserId) = .ok (approved s runId run approverUserId) :=
    processJob_eq hready hrun hpending approverUserId
  have hvalid : (Command.approvalCallback runId approverUserId).valid = true := rfl
  unfold step
  rw [if_pos hvalid,hserve]

theorem serve_stepped {command : Command} (hs : Sound s) (hvalid : command.valid = true)
    (hno : ClosesNone s command) (h : serve s command = .ok s') : Stepped s command s' := by
  by_cases hc : command.drafts = true
  · exact .drafted s' hno (serve_drafted hc h)
  cases command with
  | createDeduction staffProfileId totalAmount monthlyAmount startDate =>
    cases h
    simp only [Command.valid,Bool.and_eq_true,decide_eq_true_eq] at hvalid
    exact .deductions _ hno rfl (.create _ hvalid.1.1 hvalid.1.2 rfl rfl)
  | updateDeduction deductionId monthlyAmount active =>
    simp only [serve,updateDeduction,bind_eq_ok,require_eq_ok,pure_eq_ok] at h
    obtain ⟨d,-,rfl⟩ := h
    refine .deductions _ hno rfl (.update deductionId monthlyAmount active fun m hm => ?_)
    simpa [Command.valid,hm] using hvalid
  | deleteDeduction deductionId =>
    simp only [serve,deleteDeduction,bind_eq_ok,require_eq_ok,ensure_eq_ok,pure_eq_ok] at h
    obtain ⟨d,-,-,hfree,rfl⟩ := h
    exact .deductions _ hno rfl (.delete deductionId hfree)
  | finalise runId userId stale requireApproval isSchoolOwner approved =>
    rcases finalise_cases hs h with hd | ⟨run,hf,-⟩
    · exact .drafted s' hno hd
    · exact absurd hf (hno.1 runId userId run)
  | approvalCallback runId approverUserId =>
    rcases processJob_cases hs h with rfl | ⟨run,hrun,hpending,rfl⟩
    · exact .drafted _ hno (.refl _)
    · exact absurd ⟨rfl,hrun,hpending⟩ (hno.2 runId approverUserId run)
  | _ => exact absurd rfl hc

/-- The case lemma all invariants of the tables are proved by. -/
theorem step_stepped (hs : Sound s) (command : Command) : Stepped s command (step s command) := by
  by_cases hf : ∃ runId userId run, Finalises s command runId userId run
  · obtain ⟨runId,userId,run,hf⟩ := hf
    rw [step_finalises hs hf]
    exact .finalised runId userId run hf
  by_cases ha : ∃ runId approverUserId run, Approves s command runId approverUserId run
  · obtain ⟨runId,approverUserId,run,ha⟩ := ha
    rw [step_approves hs ha]
    exact .approved runId approverUserId run ha
  · have hno : ClosesNone s command :=
      ⟨fun runId userId run h => hf ⟨runId,userId,run,h⟩,fun runId userId run h => ha ⟨runId,userId,run,h⟩⟩
    unfold step
    split
    · rename_i hvalid
      cases h : serve s command with
      | ok s' => exact serve_stepped hs hvalid hno h
      | error e => exact .drafted s hno (.refl s)
    · exact .drafted s hno (.refl s)

theorem DeductionEdit.isSome {t : Table StaffRecurringDeduction} (h : DeductionEdit s t) {id : ℕ}
    (hid : (s.deductions.get? id).isSome) (happ : ∃ a ∈ s.applications.rows, a.2.staffRecurringDeductionId = id) :
    (t.get? id).isSome := by
  cases h with
  | create d => exact Table.isSome_get?_insert hid d
  | update => simpa using hid
  | delete deductionId hfree =>
    obtain ⟨a,ha,rfl⟩ := happ
    rwa [Table.get?_erase,if_neg (hfree a ha)]

theorem step_sound (s : Register) (command : Command) (hs : Sound s) : Sound (step s command) := by
  have h := step_stepped hs command
  generalize step s command = s' at h ⊢
  cases h with
  | finalised runId userId run hf =>
    obtain ⟨-,-,-,-,hrun,-⟩ := hf
    exact hs.finalised hrun userId
  | approved runId approverUserId run ha => exact hs.approved ha.2.1 approverUserId
  | drafted _ _ hd => exact hs.drafted hd
  | deductions t _ _ ht =>
    exact hs.setDeductions fun a ha => ht.isSome (hs.applications a ha).2.2 ⟨a,ha,rfl⟩

theorem initial_sound (records : StaffRecords) : Sound (Register.initial records) where
  unique := fun _ ha => absurd ha List.not_mem_nil
  untouched := fun _ ha => absurd ha List.not_mem_nil
  applications := fun _ ha => absurd ha List.not_mem_nil
  payslips := fun _ ha => absurd ha List.not_mem_nil

theorem foldl_sound (records : StaffRecords) (commands : List Command) :
    Sound (commands.foldl step (Register.initial records)) :=
  List.foldlRecOn (motive := Sound) commands step (initial_sound records) fun s hs command _ => step_sound s command hs

end

end EduPod.Payroll
