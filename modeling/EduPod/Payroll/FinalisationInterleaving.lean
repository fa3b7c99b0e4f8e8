import EduPod.Payroll.FinalisationStatements

/-! # Finalisations and cancellations of one run, interleaved

What the three services change of a run is a log of four kinds of changes. The payslips are kept to
one an entry by their unique index; the decrements and the status rest on what was read before.
-/
namespace EduPod.Payroll.Statements
open ReadCommitted Script Runs

/-! ## The observed run -/

/-- A run as the three services change it: whether the application of a deduction is committed, the
decrements noted, the entries with a payslip, and the status. -/
structure Progress where
  committed : ℕ → Option Bool
  decrements : List ℕ
  issued : List ℕ
  status : Option PayrollRunStatus

inductive Change
  | schedule (deductionId : ℕ) | decrement (deductionId : ℕ) | issue (entryId : ℕ) | settle (status : PayrollRunStatus)
  deriving DecidableEq

def Progress.apply (o : Progress) : Change → Progress
  | .schedule i => { o with committed := fun j => if j = i ∧ o.committed i = none then some false else o.committed j }
  | .decrement i => { o with
    committed := fun j => if j = i then (o.committed j).map fun _ => true else o.committed j
    decrements := o.decrements ++ [i] }
  | .issue entryId => { o with issued := o.issued ++ [entryId] }
  | .settle status => { o with status := o.status.map fun _ => status }

def progress (runId : ℕ) (d : Books) : Progress where
  committed i := (d.applications.get? (runId,i)).map (·.committed)
  decrements := d.decrements
  issued := d.issued
  status := d.runStatus runId

def decrementsOf (log : List Change) : List ℕ := log.filterMap fun
  | .decrement i => some i
  | _ => none

def issuesOf (log : List Change) : List ℕ := log.filterMap fun
  | .issue entryId => some entryId
  | _ => none

/-- A change finds its application. -/
def Present (o : Progress) : Change → Prop
  | .decrement i => o.committed i ≠ none
  | _ => True

/-- The status a request gives to the run. -/
def PayrollRequest.settles : PayrollRequest → PayrollRunStatus
  | .finaliseAtomic .. | .processJob _ => .finalised
  | .cancelRun => .cancelled

/-- When a request may make a change. -/
def May (request : PayrollRequest) (o : Progress) (locks : List Row) (log : List Change) : Change → Prop
  | .schedule _ => True
  | .decrement i => i ∉ decrementsOf log ∧ o.committed i ≠ none
  | .issue entryId => Row.payslip entryId ∈ locks ∧ entryId ∉ o.issued
  | .settle status => status = request.settles

/-- A cancellation that comes to its end has cancelled, in a transaction of its own. -/
def Ends : PayrollRequest → Bool → List Change → Prop
  | .cancelRun,final,log => if final then .settle .cancelled ∈ log else log = []
  | _,_,_ => True

/-- What a session knows of its log. -/
structure Valid (request : PayrollRequest) (o : Progress) (held : List Row) (log : List Change) : Prop where
  once : (decrementsOf log).Nodup
  present : Guarded Progress.apply Present o log
  locked : ∀ entryId ∈ issuesOf log, Row.payslip entryId ∈ held ∧ entryId ∉ o.issued
  fresh : (issuesOf log).Nodup
  settles : ∀ status, .settle status ∈ log → status = request.settles

section
variable {o o' : Progress} {log log' : List Change}

theorem decrements_foldl : (log.foldl Progress.apply o).decrements = o.decrements ++ decrementsOf log := by
  induction log generalizing o with
  | nil => simp [decrementsOf]
  | cons c log ih =>
    rw [List.foldl_cons,ih]
    cases c <;> simp [Progress.apply,decrementsOf]

theorem issued_foldl : (log.foldl Progress.apply o).issued = o.issued ++ issuesOf log := by
  induction log generalizing o with
  | nil => simp [issuesOf]
  | cons c log ih =>
    rw [List.foldl_cons,ih]
    cases c <;> simp [Progress.apply,issuesOf]

/-- Applications are never removed. -/
theorem committed_apply {i : ℕ} (c : Change) (h : o.committed i ≠ none) : (o.apply c).committed i ≠ none := by
  cases c with
  | schedule j =>
    simp only [Progress.apply]
    split <;> simp [h]
  | decrement j =>
    simp only [Progress.apply]
    split <;> simpa using h
  | issue _ => exact h
  | settle _ => exact h

theorem committed_foldl {i : ℕ} (h : o.committed i ≠ none) : (log.foldl Progress.apply o).committed i ≠ none := by
  induction log generalizing o with
  | nil => exact h
  | cons c log ih => exact ih (committed_apply c h)

theorem apply_mono (h : ∀ i, o.committed i ≠ none → o'.committed i ≠ none) (c : Change) :
    ∀ i, (o.apply c).committed i ≠ none → (o'.apply c).committed i ≠ none := by
  intro i hi
  cases c with
  | schedule j =>
    by_cases hij : i = j
    · subst hij
      simp only [Progress.apply,true_and]
      split <;> simp_all
    · simp only [Progress.apply,hij,false_and,if_false] at hi ⊢
      exact h i hi
  | decrement j =>
    by_cases hij : i = j
    · simp only [Progress.apply,hij,if_true,ne_eq,Option.map_eq_none_iff] at hi ⊢
      exact h j hi
    · simp only [Progress.apply,hij,if_false] at hi ⊢
      exact h i hi
  | issue _ => exact h i hi
  | settle _ => exact h i hi

theorem guarded_present_mono (h : ∀ i, o.committed i ≠ none → o'.committed i ≠ none)
    (hg : Guarded Progress.apply Present o log) : Guarded Progress.apply Present o' log := by
  induction log generalizing o o' with
  | nil => trivial
  | cons c log ih =>
    obtain ⟨hc,hg⟩ := hg
    refine ⟨?_,ih (apply_mono h c) hg⟩
    cases c with
    | decrement i => exact h i hc
    | schedule _ => trivial
    | issue _ => trivial
    | settle _ => trivial

theorem guarded_present_snoc {c : Change} (hg : Guarded Progress.apply Present o log)
    (hc : Present (log.foldl Progress.apply o) c) : Guarded Progress.apply Present o (log ++ [c]) := by
  induction log generalizing o with
  | nil => exact ⟨hc,trivial⟩
  | cons c' log ih => exact ⟨hg.1,ih hg.2 hc⟩

/-- The decrements noted are those of the committed applications. -/
def Progress.Noted (o : Progress) : Prop := ∀ i, i ∈ o.decrements ↔ o.committed i = some true

theorem noted_apply {c : Change} (h : o.Noted) (hc : Present o c) : (o.apply c).Noted := by
  intro i
  cases c with
  | schedule j =>
    simp only [Progress.apply]
    split
    · rename_i hj
      obtain ⟨rfl,hn⟩ := hj
      simp [h i,hn]
    · exact h i
  | decrement j =>
    by_cases hij : i = j
    · subst hij
      obtain ⟨b,hb⟩ := Option.ne_none_iff_exists'.mp hc
      simp [Progress.apply,hb]
    · simp [Progress.apply,hij,h i]
  | issue _ => exact h i
  | settle _ => exact h i

theorem noted_foldl (h : o.Noted) (hg : Guarded Progress.apply Present o log) : (log.foldl Progress.apply o).Noted :=
  trace_invariant (fun _ _ ho hc => noted_apply ho hc) h hg _ (foldl_mem_trace o log)

theorem status_foldl_of_forall {status : PayrollRunStatus} (h : ∀ s, Change.settle s ∈ log → s = status) :
    (log.foldl Progress.apply o).status = o.status ∨ (log.foldl Progress.apply o).status = o.status.map fun _ => status := by
  induction log generalizing o with
  | nil => exact .inl rfl
  | cons c log ih =>
    have hrest : ∀ s, Change.settle s ∈ log → s = status := fun s hs => h s (List.mem_cons_of_mem _ hs)
    rw [List.foldl_cons]
    cases c with
    | settle s =>
      obtain rfl := h s List.mem_cons_self
      rcases ih (o := o.apply (.settle s)) hrest with h' | h'
      · exact .inr h'
      · refine .inr (h'.trans ?_)
        simp [Progress.apply,Function.comp_def]
    | schedule _ => exact ih hrest
    | decrement _ => exact ih hrest
    | issue _ => exact ih hrest

theorem status_foldl_of_mem {status : PayrollRunStatus} (hm : Change.settle status ∈ log)
    (h : ∀ s, Change.settle s ∈ log → s = status) :
    (log.foldl Progress.apply o).status = o.status.map fun _ => status := by
  obtain ⟨before,after,rfl⟩ := List.append_of_mem hm
  rw [List.foldl_append,List.foldl_cons]
  have hafter : ∀ s, Change.settle s ∈ after → s = status := fun s hs =>
    h s (List.mem_append_right _ (List.mem_cons_of_mem _ hs))
  have hbefore : ∀ s, Change.settle s ∈ before → s = status := fun s hs => h s (List.mem_append_left _ hs)
  have hset : ((before.foldl Progress.apply o).apply (.settle status)).status = o.status.map fun _ => status := by
    rcases status_foldl_of_forall (o := o) hbefore with h' | h' <;>
      simp [Progress.apply,h',Function.comp_def]
  rcases status_foldl_of_forall (o := (before.foldl Progress.apply o).apply (.settle status)) hafter with h' | h' <;>
    simp [h',hset,Function.comp_def]

end

/-! ## Logs under locks -/

section
variable (request request' : PayrollRequest) (o : Progress) (held held' : List Row) (log log' : List Change)

theorem validates : Validates Progress.apply (May request) (Valid request) := by
  constructor
  · intro o
    exact ⟨List.nodup_nil,trivial,fun _ h => (List.not_mem_nil h).elim,List.nodup_nil,fun _ h => (List.not_mem_nil h).elim⟩
  · intro o held more log h
    exact { h with locked := fun e he => ⟨List.mem_append_left _ (h.locked e he).1,(h.locked e he).2⟩ }
  · intro o held more log c h hmay
    have hlocked : ∀ entryId ∈ issuesOf log, Row.payslip entryId ∈ held ++ more ∧ entryId ∉ o.issued :=
      fun e he => ⟨List.mem_append_left _ (h.locked e he).1,(h.locked e he).2⟩
    have hsettles : ∀ status, .settle status ∈ log ++ [c] → status = request.settles := by
      intro status hs
      rcases List.mem_append.mp hs with hs | hs
      · exact h.settles status hs
      · obtain rfl := List.mem_singleton.mp hs
        exact hmay
    cases c with
    | schedule i =>
      refine ⟨?_,guarded_present_snoc h.present trivial,?_,?_,hsettles⟩
      · simpa [decrementsOf] using h.once
      · simpa [issuesOf] using hlocked
      · simpa [issuesOf] using h.fresh
    | decrement i =>
      refine ⟨?_,guarded_present_snoc h.present hmay.2,?_,?_,hsettles⟩
      · have hnew : decrementsOf (log ++ [.decrement i]) = decrementsOf log ++ [i] := by simp [decrementsOf]
        rw [hnew]
        exact List.nodup_append.mpr ⟨h.once,List.nodup_singleton i,fun a ha b hb hab =>
          hmay.1 (List.mem_singleton.mp hb ▸ hab ▸ ha)⟩
      · simpa [issuesOf] using hlocked
      · simpa [issuesOf] using h.fresh
    | issue entryId =>
      have hnew : issuesOf (log ++ [.issue entryId]) = issuesOf log ++ [entryId] := by simp [issuesOf]
      obtain ⟨hlock,hfresh⟩ := hmay
      rw [issued_foldl,List.mem_append,not_or] at hfresh
      refine ⟨?_,guarded_present_snoc h.present trivial,?_,?_,hsettles⟩
      · simpa [decrementsOf] using h.once
      · intro e he
        rw [hnew] at he
        rcases List.mem_append.mp he with he | he
        · exact hlocked e he
        · obtain rfl := List.mem_singleton.mp he
          exact ⟨List.mem_append_right _ hlock,hfresh.1⟩
      · rw [hnew]
        exact List.nodup_append.mpr ⟨h.fresh,List.nodup_singleton entryId,fun a ha b hb hab =>
          hfresh.2 (List.mem_singleton.mp hb ▸ hab ▸ ha)⟩
    | settle status =>
      refine ⟨?_,guarded_present_snoc h.present trivial,?_,?_,hsettles⟩
      · simpa [decrementsOf] using h.once
      · simpa [issuesOf] using hlocked
      · simpa [issuesOf] using h.fresh

theorem valid_others (h : Valid request o held log) (h' : Valid request' o held' log') (hd : List.Disjoint held held') :
    Valid request (log'.foldl Progress.apply o) held log := by
  refine { h with present := guarded_present_mono (fun i => committed_foldl) h.present, locked := fun e he => ?_ }
  refine ⟨(h.locked e he).1,?_⟩
  rw [issued_foldl,List.mem_append,not_or]
  exact ⟨(h.locked e he).2,fun he' => hd (h.locked e he).1 (h'.locked e he').1⟩

end
/-! ## What the services log -/

abbrev LogsTx (runId : ℕ) (request : PayrollRequest) (log : List Change) (script : Tx Unit) : Prop :=
  script.Logs (progress runId) Progress.apply (May request) (Ends request) log

section
variable {runId : ℕ} {request : PayrollRequest} {log : List Change} {β : Type}

theorem progress_insert (d : Books) (i : ℕ) (a : ScheduledApplication) (ha : a.committed = false) :
    progress runId { d with applications := d.applications.insert (runId,i) a } = (progress runId d).apply (.schedule i) := by
  have hcommitted : ∀ j, ((d.applications.insert (runId,i) a).get? (runId,j)).map (·.committed) =
      if j = i ∧ (d.applications.get? (runId,i)).map (·.committed) = none then some false
      else (d.applications.get? (runId,j)).map (·.committed) := by
    intro j
    rw [UniqueIndex.get?_insert]
    simp only [Prod.mk.injEq,true_and,Option.map_eq_none_iff]
    split <;> simp [ha]
  simp only [progress,Progress.apply,hcommitted]
  rfl

theorem progress_mark (d : Books) (i : ℕ) : progress runId { d with
      applications := d.applications.modify (runId,i) fun a => { a with committed := true }
      decrements := d.decrements ++ [i] } = (progress runId d).apply (.decrement i) := by
  have hcommitted : ∀ j, ((d.applications.modify (runId,i) fun a => { a with committed := true }).get? (runId,j)).map
      (·.committed) = if j = i then ((d.applications.get? (runId,j)).map (·.committed)).map fun _ => true
        else (d.applications.get? (runId,j)).map (·.committed) := by
    intro j
    rw [UniqueIndex.get?_modify]
    simp only [Prod.mk.injEq,true_and]
    split <;> simp [Function.comp_def]
  simp only [progress,Progress.apply,hcommitted]
  rfl

theorem progress_issue (d : Books) (payslip : Payslip) :
    progress runId { d with payslips := d.payslips ++ [payslip] } =
      (progress runId d).apply (.issue payslip.payrollEntryId) := by
  simp only [progress,Progress.apply,Books.issued,List.map_append]
  rfl

theorem progress_settle (d : Books) {status : PayrollRunStatus} {change : PayrollRun → PayrollRun}
    (h : ∀ run, (change run).status = status) :
    progress runId { d with runs := d.runs.modify runId change } = (progress runId d).apply (.settle status) := by
  have hstatus : ((d.runs.modify runId change).get? runId).map (·.status) =
      ((d.runs.get? runId).map (·.status)).map fun _ => status := by
    rw [Table.get?_modify,if_pos rfl,Option.map_map,Option.map_map]
    congr 1
    funext run
    exact h run
  simp only [progress,Progress.apply,Books.runStatus,hstatus]
  rfl

theorem logs_scheduleLoop {entryId : ℕ} {f : ℤ → Tx Unit} (hlog : decrementsOf log = [])
    (h : ∀ total log', decrementsOf log' = [] → LogsTx runId request log' (f total)) (total : ℤ)
    (rows : List (ℕ × StaffRecurringDeduction)) :
    LogsTx runId request log (scheduleLoop runId entryId total rows >>= f) := by
  induction rows generalizing total log with
  | nil => exact h total log hlog
  | cons row rows ih =>
    rw [scheduleLoop]
    split
    · exact ih hlog total
    · rw [Script.bind_assoc]
      refine fun view => .inr ⟨.schedule row.1,trivial,fun d => progress_insert d row.1 _ rfl,?_⟩
      refine ih ?_ _
      simpa [decrementsOf] using hlog

theorem logs_resolveEntries {run : PayrollRun} {f : List (ℕ × CalcInput) → Tx Unit} (hlog : decrementsOf log = [])
    (h : ∀ inputs log', decrementsOf log' = [] → LogsTx runId request log' (f inputs))
    (rows : List (ℕ × PayrollEntry)) : LogsTx runId request log (resolveEntries runId run rows >>= f) := by
  induction rows generalizing log f with
  | nil => exact h [] log hlog
  | cons row rows ih =>
    rw [resolveEntries,Script.bind_assoc]
    refine logs_read fun view => ?_
    cases findActiveForPeriod view.records row.2.staffProfileId run.periodStart run.periodEnd with
    | none => exact ih hlog h
    | some comp =>
      dsimp only
      rw [Script.bind_assoc,scheduleApplicationForRun,Script.bind_assoc]
      refine logs_read fun view => ?_
      rw [Script.bind_assoc]
      refine logs_require fun run' _ => ?_
      rw [Script.bind_assoc]
      refine logs_read fun view => logs_scheduleLoop hlog (fun scheduled log' hlog' => ?_) 0 _
      rw [Script.bind_assoc]
      refine logs_read fun view => ?_
      rw [Script.bind_assoc]
      exact ih hlog' fun inputs log'' hlog'' => h _ log'' hlog''

theorem logs_resolveForRun {f : List (ℕ × CalcInput) → Tx Unit} (hlog : decrementsOf log = [])
    (h : ∀ inputs log', decrementsOf log' = [] → LogsTx runId request log' (f inputs)) :
    LogsTx runId request log (resolveForRun runId >>= f) := by
  rw [resolveForRun,Script.bind_assoc]
  refine logs_read fun view => ?_
  rw [Script.bind_assoc]
  refine logs_require fun run _ => ?_
  rw [Script.bind_assoc]
  exact logs_read fun view => logs_resolveEntries hlog h _

theorem logs_computeLoop {f : RunTotals → Tx Unit} (h : ∀ totals, LogsTx runId request log (f totals))
    (inputs : List (ℕ × CalcInput)) (totals : RunTotals) :
    LogsTx runId request log (computeLoop totals inputs >>= f) := by
  induction inputs generalizing totals with
  | nil => exact h totals
  | cons input inputs ih =>
    rw [computeLoop,Script.bind_assoc]
    exact logs_updateRow_quiet (fun _ => rfl) (ih _)

/-- Each application that was read is noted once, whatever has become of it since. -/
theorem logs_commitLoop {deductions : Table StaffRecurringDeduction} {f : Unit → Tx Unit}
    (h : ∀ log', LogsTx runId request log' (f ())) (apps : List (ℕ × ScheduledApplication))
    (hn : (decrementsOf log ++ apps.map Prod.fst).Nodup) :
    LogsTx runId request log (commitLoop runId deductions apps >>= f) := by
  induction apps generalizing log with
  | nil => exact h log
  | cons app apps ih =>
    rw [commitLoop,Script.bind_assoc]
    refine logs_require fun deduction _ => ?_
    rw [Script.bind_assoc]
    refine logs_updateRow_quiet (fun _ => rfl) ?_
    rw [Script.bind_assoc]
    refine logs_updateRow (.decrement app.1) (fun view hfound => ⟨?_,?_⟩) (fun d => progress_mark d app.1) (ih ?_)
    · intro hmem
      exact (List.nodup_append.mp hn).2.2 app.1 hmem app.1 List.mem_cons_self rfl
    · intro hnone
      rw [Option.map_eq_none_iff.mp hnone] at hfound
      cases hfound
    · simpa [decrementsOf] using hn

/-- Their keys tell the applications of a run apart. -/
theorem nodup_uncommitted (d : Books) (runId : ℕ) : ((d.uncommitted runId).map Prod.fst).Nodup := by
  rw [Books.uncommitted,List.map_map]
  refine List.Nodup.map_on ?_ (List.Nodup.of_map _ ((List.filter_sublist.map Prod.fst).nodup d.applications.nodup))
  intro a ha b hb hab
  obtain ⟨ha,hra⟩ := List.mem_filter.mp ha
  obtain ⟨hb,hrb⟩ := List.mem_filter.mp hb
  simp only [Bool.and_eq_true,decide_eq_true_eq] at hra hrb
  have hkey : a.1 = b.1 := Prod.ext (hra.1.trans hrb.1.symm) hab
  exact List.inj_on_of_nodup_map d.applications.nodup ha hb hkey

theorem logs_commitApplications {f : Unit → Tx Unit} (hlog : decrementsOf log = [])
    (h : ∀ log', LogsTx runId request log' (f ())) : LogsTx runId request log (commitApplications runId >>= f) := by
  rw [commitApplications,Script.bind_assoc]
  refine logs_read fun view => ?_
  rw [Script.bind_assoc]
  refine logs_read fun view' => logs_commitLoop h _ ?_
  rw [hlog,List.nil_append]
  exact nodup_uncommitted view runId

theorem logs_createPayslip {payslip : Payslip} {f : Unit → Tx Unit} (h : ∀ log', LogsTx runId request log' (f ())) :
    LogsTx runId request log (createPayslip payslip >>= f) := by
  intro view
  by_cases hc : view.issued.contains payslip.payrollEntryId = true
  · refine .inl ⟨fun d => ?_,logs_ensure fun _ => h log⟩
    simp only [hc,if_true]
  · refine .inr ⟨.issue payslip.payrollEntryId,⟨List.mem_singleton_self _,?_⟩,fun d => ?_,logs_ensure fun _ => h _⟩
    · simpa [progress] using hc
    · simpa only [hc,Bool.false_eq_true,if_false] using progress_issue d payslip

theorem logs_payslipLoop {run : PayrollRun} {actorUserId : ℕ} {issued : List ℕ} {f : Unit → Tx Unit}
    (h : ∀ log', LogsTx runId request log' (f ())) (rows : List (ℕ × PayrollEntry)) :
    LogsTx runId request log (payslipLoop run actorUserId issued rows >>= f) := by
  induction rows generalizing log with
  | nil => exact h log
  | cons row rows ih =>
    rw [payslipLoop]
    split
    · exact ih
    · rw [Script.bind_assoc]
      refine logs_quiet (fun _ _ => rfl) fun view => ?_
      change LogsTx runId request log ((createPayslip (payslipOf run actorUserId (view.payslipSequence + 1) row.1 row.2) >>=
        fun _ => payslipLoop run actorUserId issued rows) >>= f)
      rw [Script.bind_assoc]
      exact logs_createPayslip fun _ => ih

theorem logs_updateRun (status : PayrollRunStatus) {change : PayrollRun → PayrollRun} {f : Unit → Tx Unit}
    (hc : ∀ run, (change run).status = status) (hr : status = request.settles)
    (h : LogsTx runId request (log ++ [.settle status]) (f ())) :
    LogsTx runId request log (updateRun runId change >>= f) :=
  logs_updateRow (.settle status) (fun _ _ => hr) (fun d => progress_settle d hc) h

end

/-- A script by itself, with nothing after it. -/
theorem logs_of_bind_done {runId : ℕ} {request : PayrollRequest} {log : List Change} {script : Tx Unit}
    (h : LogsTx runId request log (script >>= Script.done)) : LogsTx runId request log script := by
  rwa [Script.bind_done] at h

theorem logs_serve (runId : ℕ) (request : PayrollRequest) : LogsTx runId request [] (serve runId request) := by
  apply logs_of_bind_done
  cases request with
  | finaliseAtomic actorUserId expectedFromState =>
    rw [serve,finaliseAtomic,Script.bind_assoc]
    refine logs_read fun view => ?_
    rw [Script.bind_assoc]
    refine logs_require fun run _ => ?_
    split
    · trivial
    · rw [Script.bind_assoc]
      refine logs_ensure fun _ => ?_
      rw [Script.bind_assoc]
      refine logs_resolveForRun rfl fun inputs log hlog => ?_
      rw [Script.bind_assoc]
      refine logs_computeLoop (fun totals => ?_) inputs _
      rw [Script.bind_assoc]
      refine logs_commitApplications hlog fun log => ?_
      rw [Script.bind_assoc,generatePayslipsForRun,Script.bind_assoc]
      refine logs_read fun view => ?_
      rw [Script.bind_assoc]
      refine logs_require fun run _ => ?_
      rw [Script.bind_assoc]
      refine logs_read fun view => ?_
      rw [Script.bind_assoc]
      refine logs_read fun view => logs_payslipLoop (fun log => ?_) _
      exact logs_updateRun .finalised (fun _ => rfl) rfl trivial
  | processJob approverUserId =>
    rw [serve,processJob,Script.bind_assoc]
    refine logs_read fun view => ?_
    rw [Script.bind_assoc]
    refine logs_require fun run _ => ?_
    split
    · rw [Script.bind_assoc]
      refine logs_commitApplications rfl fun log => ?_
      rw [Script.bind_assoc]
      refine logs_read fun view => ?_
      rw [Script.bind_assoc]
      refine logs_read fun view => ?_
      rw [Script.bind_assoc]
      refine logs_payslipLoop (fun log => ?_) _
      exact logs_updateRun .finalised (fun _ => rfl) rfl trivial
    · trivial
  | cancelRun =>
    rw [serve,cancelRun,Script.bind_assoc]
    refine logs_read fun view => ?_
    rw [Script.bind_assoc]
    refine logs_endTransaction rfl ?_
    rw [Script.bind_assoc]
    refine logs_require fun run _ => ?_
    rw [Script.bind_assoc]
    exact logs_ensure fun _ => logs_updateRun .cancelled (fun _ => rfl) rfl (List.mem_singleton_self _)

/-! ## Runs -/

abbrev PayrollState := State Books Row ServiceError PayrollRequest

/-- The books as a run starts from them: the applications committed so far have had their decrement. -/
def Books.noted (d : Books) (runId : ℕ) : Books := { d with
  decrements := (d.applications.rows.filter fun a => a.1.1 = runId && a.2.committed).map fun a => a.1.2 }

/-- No application has decremented its deduction twice, and no entry has two payslips. -/
structure InOrder (d : Books) : Prop where
  decrements : d.decrements.Nodup
  payslips : d.issued.Nodup

/-- The run is not cancelled after it has been finalised. -/
def NotCancelledAfter (runId : ℕ) (d d' : Books) : Prop :=
  d.runStatus runId = some .finalised → d'.runStatus runId ≠ some .cancelled

/-- A finalisation that commits finds the applications it decrements for uncommitted still. -/
def CommitsOnce (runId : ℕ) (st : PayrollState) : Event PayrollRequest → Prop
  | .advance id => ∀ s, st.sessions.get? id = some s → s.script.commits = true →
    ∀ i ∈ (s.pending st.db).decrements.drop st.db.decrements.length, st.db.committed runId i = false
  | _ => True

/-- A cancellation that commits its update finds the run not finalised. -/
def CancelsInTime (runId : ℕ) (st : PayrollState) : Event PayrollRequest → Prop
  | .advance id => ∀ s, st.sessions.get? id = some s → s.request = .cancelRun → s.script = .done () →
    st.db.runStatus runId ≠ some .finalised
  | _ => True

/-- What holds of every state, however the three services interleave. -/
structure Ordered (runId : ℕ) (st : PayrollState) : Prop where
  coherent : Coherent (Logged (progress runId) Progress.apply May Ends Valid) st
  noted : (progress runId st.db).Noted

section
variable {runId : ℕ} {st : PayrollState}

/-- What a session that commits leaves behind. -/
theorem Ordered.commits (h : Ordered runId st) {id : ℕ} {s : Session Books Row ServiceError PayrollRequest}
    (hs : st.sessions.get? id = some s) : ∃ log, progress runId (s.pending st.db) =
      log.foldl Progress.apply (progress runId st.db) ∧ Valid s.request (progress runId st.db) s.held log ∧
        (s.script = .done () → Ends s.request true log) ∧
        (s.script.commits = true → s.script ≠ .done () → Ends s.request false log) := by
  obtain ⟨log,hlog,hvalid,hscript⟩ := h.coherent.sessions id s hs
  refine ⟨log,hlog st.db,hvalid,fun hdone => ?_,fun hc hne => ?_⟩
  · rw [hdone] at hscript
    exact hscript
  · cases hcase : s.script with
    | done u => exact absurd hcase hne
    | fail e => simp [hcase,Script.commits] at hc
    | commit rest =>
      rw [hcase] at hscript
      exact hscript.1
    | statement locks write next => simp [hcase,Script.commits] at hc

theorem step_ordered (st : PayrollState) (e : Event PayrollRequest) (h : Ordered runId st) :
    Ordered runId (ReadCommitted.step (serve runId) st e) := by
  refine ⟨coherent_step (maintained_logged (logs_serve runId) validates valid_others) st e h.coherent,?_⟩
  cases e with
  | start request => exact h.noted
  | abort id => exact h.noted
  | advance id =>
    cases hs : st.sessions.get? id with
    | none =>
      rw [step_advance_none hs]
      exact h.noted
    | some s =>
      rw [step_advance_db hs]
      split
      · obtain ⟨log,hlog,hvalid,-,-⟩ := h.commits hs
        rw [hlog]
        exact noted_foldl h.noted hvalid.present
      · exact h.noted

theorem mem_noted (d : Books) (i : ℕ) : i ∈ (d.noted runId).decrements ↔ d.committed runId i = true := by
  simp only [Books.noted,Books.committed,List.mem_map,List.mem_filter,Bool.and_eq_true,decide_eq_true_eq,Option.any_eq_true]
  constructor
  · rintro ⟨⟨⟨r,j⟩,a⟩,⟨hr,rfl,hc⟩,rfl⟩
    exact ⟨a,UniqueIndex.get?_eq_some_iff.mpr hr,hc⟩
  · rintro ⟨a,ha,hc⟩
    exact ⟨((runId,i),a),⟨UniqueIndex.get?_eq_some_iff.mp ha,rfl,hc⟩,rfl⟩

variable (runId) in
theorem committed_iff (d : Books) (i : ℕ) : (progress runId d).committed i = some true ↔ d.committed runId i = true := by
  rw [Books.committed,Option.any_eq_true]
  exact Option.map_eq_some_iff

theorem ordered_idle (d : Books) : Ordered runId (State.idle (d.noted runId)) :=
  ⟨coherent_idle _ _,fun i => (mem_noted d i).trans (committed_iff runId d i).symm⟩

theorem nodup_noted (d : Books) : (d.noted runId).decrements.Nodup := by
  refine List.Nodup.map_on ?_ (List.Nodup.of_map _ ((List.filter_sublist.map Prod.fst).nodup d.applications.nodup))
  intro a ha b hb hab
  obtain ⟨ha,hra⟩ := List.mem_filter.mp ha
  obtain ⟨hb,hrb⟩ := List.mem_filter.mp hb
  simp only [Bool.and_eq_true,decide_eq_true_eq] at hra hrb
  have hkey : a.1 = b.1 := Prod.ext (hra.1.trans hrb.1.symm) hab
  exact List.inj_on_of_nodup_map d.applications.nodup ha hb hkey

/-- One step keeps the books in order precisely when what commits decrements for uncommitted
applications only. -/
theorem step_inOrder_iff (st : PayrollState) (e : Event PayrollRequest) (h : Ordered runId st) (ho : InOrder st.db) :
    InOrder (ReadCommitted.step (serve runId) st e).db ↔ CommitsOnce runId st e := by
  cases e with
  | start request => exact iff_of_true ho trivial
  | abort id => exact iff_of_true ho trivial
  | advance id =>
    cases hs : st.sessions.get? id with
    | none =>
      rw [step_advance_none hs]
      exact iff_of_true ho fun s hs' => by simp [hs] at hs'
    | some s =>
      rw [step_advance_db hs]
      by_cases hc : s.script.commits = true
      swap
      · rw [if_neg hc]
        refine iff_of_true ho fun s' hs' hc' => ?_
        obtain rfl : s = s' := Option.some.inj (hs.symm.trans hs')
        exact absurd hc' hc
      rw [if_pos hc]
      obtain ⟨log,hlog,hvalid,-,-⟩ := h.commits hs
      have hdecrements : (s.pending st.db).decrements = st.db.decrements ++ decrementsOf log :=
        (congrArg Progress.decrements hlog).trans decrements_foldl
      have hissued : (s.pending st.db).issued = st.db.issued ++ issuesOf log :=
        (congrArg Progress.issued hlog).trans issued_foldl
      have hpayslips : (s.pending st.db).issued.Nodup := by
        rw [hissued]
        refine List.nodup_append.mpr ⟨ho.payslips,hvalid.fresh,?_⟩
        rintro e he _ he' rfl
        exact (hvalid.locked e he').2 he
      have hnoted : ∀ i, i ∈ st.db.decrements ↔ st.db.committed runId i = true := fun i =>
        (h.noted i).trans (committed_iff runId st.db i)
      have hguard : CommitsOnce runId st (.advance id) ↔ ∀ i ∈ decrementsOf log, st.db.committed runId i = false := by
        constructor
        · intro hg i hi
          refine hg s hs hc i ?_
          rw [hdecrements,List.drop_left]
          exact hi
        · intro hg s' hs' _ i hi
          obtain rfl : s = s' := Option.some.inj (hs.symm.trans hs')
          rw [hdecrements,List.drop_left] at hi
          exact hg i hi
      rw [hguard]
      constructor
      · intro ho' i hi
        have hnodup := ho'.decrements
        rw [hdecrements] at hnodup
        rw [← Bool.not_eq_true,← hnoted]
        exact fun hmem => (List.nodup_append.mp hnodup).2.2 i hmem i hi rfl
      · intro hg
        refine ⟨?_,hpayslips⟩
        rw [hdecrements]
        refine List.nodup_append.mpr ⟨ho.decrements,hvalid.once,?_⟩
        rintro i hi _ hi' rfl
        have hfalse := hg i hi'
        rw [(hnoted i).mp hi] at hfalse
        cases hfalse

/-- From a finalised run, one step leads to a cancelled one precisely when a cancellation commits late. -/
theorem step_finalised_iff (st : PayrollState) (e : Event PayrollRequest) (h : Ordered runId st)
    (hf : st.db.runStatus runId = some .finalised) :
    ((ReadCommitted.step (serve runId) st e).db.runStatus runId = some .finalised ∧ CancelsInTime runId st e) ∨
      ((ReadCommitted.step (serve runId) st e).db.runStatus runId = some .cancelled ∧ ¬ CancelsInTime runId st e) := by
  cases e with
  | start request => exact .inl ⟨hf,trivial⟩
  | abort id => exact .inl ⟨hf,trivial⟩
  | advance id =>
    cases hs : st.sessions.get? id with
    | none =>
      rw [step_advance_none hs]
      exact .inl ⟨hf,fun s hs' => by simp [hs] at hs'⟩
    | some s =>
      rw [step_advance_db hs]
      obtain ⟨log,hlog,hvalid,hlast,hfirst⟩ := h.commits hs
      have hstatus : (s.pending st.db).runStatus runId = (log.foldl Progress.apply (progress runId st.db)).status :=
        congrArg Progress.status hlog
      have hbefore : (progress runId st.db).status = some .finalised := hf
      by_cases hlate : s.request = .cancelRun ∧ s.script = .done ()
      · obtain ⟨hr,hdone⟩ := hlate
        refine .inr ⟨?_,fun hg => hg s hs hr hdone hf⟩
        have hmem : Change.settle .cancelled ∈ log := by
          have := hlast hdone
          rwa [hr] at this
        have hall : ∀ status, Change.settle status ∈ log → status = .cancelled := by
          intro status hm
          rw [hvalid.settles status hm,hr]
          rfl
        rw [hdone,Script.commits,if_pos rfl,hstatus,status_foldl_of_mem hmem hall,hbefore]
        rfl
      · refine .inl ⟨?_,fun s' hs' hr hdone => ?_⟩
        swap
        · obtain rfl : s = s' := Option.some.inj (hs.symm.trans hs')
          exact absurd ⟨hr,hdone⟩ hlate
        split
        swap
        · exact hf
        rename_i hc
        rw [hstatus]
        by_cases hr : s.request = .cancelRun
        · have hnil : log = [] := by
            have := hfirst hc fun hdone => hlate ⟨hr,hdone⟩
            rwa [hr] at this
          rw [hnil]
          exact hf
        · have hall : ∀ status, Change.settle status ∈ log → status = .finalised := by
            intro status hm
            rw [hvalid.settles status hm]
            cases hq : s.request with
            | cancelRun => exact absurd hq hr
            | finaliseAtomic _ _ => rfl
            | processJob _ => rfl
          rcases status_foldl_of_forall (o := progress runId st.db) hall with h' | h' <;> rw [h',hbefore]
          rfl

theorem cancelsInTime_of_ne {e : Event PayrollRequest} (hf : st.db.runStatus runId ≠ some .finalised) :
    CancelsInTime runId st e := by
  cases e with
  | start request => trivial
  | abort id => trivial
  | advance id => exact fun _ _ _ _ => hf

theorem step_notCancelled_iff (st : PayrollState) (e : Event PayrollRequest) (h : Ordered runId st) :
    NotCancelledAfter runId st.db (ReadCommitted.step (serve runId) st e).db ↔ CancelsInTime runId st e := by
  by_cases hf : st.db.runStatus runId = some .finalised
  · rcases step_finalised_iff st e h hf with ⟨hstatus,hg⟩ | ⟨hstatus,hg⟩
    · refine iff_of_true (fun _ => ?_) hg
      rw [hstatus]
      simp
    · exact iff_of_false (fun hn => hn hf hstatus) hg
  · exact iff_of_true (fun hf' => absurd hf' hf) (cancelsInTime_of_ne hf)

theorem step_finalised_of_iff (st : PayrollState) (e : Event PayrollRequest) (h : Ordered runId st) :
    (st.db.runStatus runId = some .finalised →
      (ReadCommitted.step (serve runId) st e).db.runStatus runId = some .finalised) ↔ CancelsInTime runId st e := by
  by_cases hf : st.db.runStatus runId = some .finalised
  · rcases step_finalised_iff st e h hf with ⟨hstatus,hg⟩ | ⟨hstatus,hg⟩
    · exact iff_of_true (fun _ => hstatus) hg
    · refine iff_of_false (fun hn => ?_) hg
      rw [hn hf] at hstatus
      cases hstatus
  · exact iff_of_true (fun hf' => absurd hf' hf) (cancelsInTime_of_ne hf)

end

section
variable (runId : ℕ) (d : Books) (events : List (Event PayrollRequest))

theorem trace_notCancelled_iff :
    (trace (ReadCommitted.step (serve runId)) (State.idle (d.noted runId)) events).Pairwise
        (fun st st' => NotCancelledAfter runId st.db st'.db) ↔
      Guarded (ReadCommitted.step (serve runId)) (CancelsInTime runId) (State.idle (d.noted runId)) events := by
  constructor
  · intro h
    exact (guarded_iff step_ordered step_notCancelled_iff (ordered_idle d)).mp (guarded_of_pairwise h)
  · intro h
    have hstays := (guarded_iff step_ordered step_finalised_of_iff (ordered_idle d)).mpr h
    have hpairs := (trace_pairwise_iff (R := fun st st' : PayrollState =>
      st.db.runStatus runId = some .finalised → st'.db.runStatus runId = some .finalised)
      fun _ _ _ h h' hf => h' (h hf)).mpr hstays
    refine hpairs.imp fun {st st'} hstay hf hcancelled => ?_
    rw [hstay hf] at hcancelled
    cases hcancelled

/-- In every interleaving, each application decrements its deduction at most once, each entry has at
most one payslip and the run is not cancelled after it has been finalised, precisely when no entry
had two payslips before and every session commits in time. -/
theorem trace_finalisedOnce_iff :
    (∀ st ∈ trace (ReadCommitted.step (serve runId)) (State.idle (d.noted runId)) events, InOrder st.db) ∧
        (trace (ReadCommitted.step (serve runId)) (State.idle (d.noted runId)) events).Pairwise
          (fun st st' => NotCancelledAfter runId st.db st'.db) ↔
      d.issued.Nodup ∧ Guarded (ReadCommitted.step (serve runId))
        (fun st e => CommitsOnce runId st e ∧ CancelsInTime runId st e) (State.idle (d.noted runId)) events := by
  have hiff : d.issued.Nodup →
      ((∀ st ∈ trace (ReadCommitted.step (serve runId)) (State.idle (d.noted runId)) events, InOrder st.db) ↔
        Guarded (ReadCommitted.step (serve runId)) (CommitsOnce runId) (State.idle (d.noted runId)) events) := fun hissued =>
    trace_invariant_iff (I := fun st => InOrder st.db) step_ordered step_inOrder_iff (ordered_idle d) ⟨nodup_noted d,hissued⟩
  rw [guarded_and_iff,← trace_notCancelled_iff]
  constructor
  · rintro ⟨hstates,hpairs⟩
    have hissued : d.issued.Nodup := (hstates _ (head_mem_trace _ _)).payslips
    exact ⟨hissued,(hiff hissued).mp hstates,hpairs⟩
  · rintro ⟨hissued,hg,hpairs⟩
    exact ⟨(hiff hissued).mpr hg,hpairs⟩

end

/-- A run that waits for approval, with one entry and one deduction of 20 from 100. -/
def oneDeduction : Books where
  records := ⟨[],[0],[],[],[],[],false⟩
  runs := Table.empty.insert ⟨1,2026,20,.pendingApproval,0,0,0,0,none⟩
  entries := Table.empty.insert ⟨0,0,.salaried,some 1000,none,none,none,none,some 20,none,none,1000,0,1000,none,none,none,.zero⟩
  adjustments := .empty
  oneOffItems := .empty
  deductions := Table.empty.insert ⟨0,100,20,100,.firstOfMonth (12 * 2026),5,true⟩
  applications := UniqueIndex.empty.insert (0,0) ⟨0,20,false⟩
  payslips := []
  payslipSequence := 0
  decrements := []

/-- A cancellation reads the run, and an approval finalises it. -/
def finalisedMeanwhile : List (Event PayrollRequest) :=
  [.start .cancelRun,.start (.processJob 7),.advance 0,.advance 0] ++ List.replicate 11 (.advance 1)

/-- Then the cancellation updates the run. -/
def lateCancellation : List (Event PayrollRequest) := List.replicate 2 (.advance 0)

theorem not_finalisedOnce : ¬ ∀ (runId : ℕ) (d : Books) (events : List (Event PayrollRequest)),
    (∀ st ∈ trace (ReadCommitted.step (serve runId)) (State.idle (d.noted runId)) events, InOrder st.db) ∧
      (trace (ReadCommitted.step (serve runId)) (State.idle (d.noted runId)) events).Pairwise
        fun st st' => NotCancelledAfter runId st.db st'.db := by
  intro h
  have hlater := rel_foldl_of_pairwise (fun st hf hc => by rw [hf] at hc; cases hc)
    (h 0 oneDeduction (finalisedMeanwhile ++ lateCancellation)).2
  have hfinalised : (finalisedMeanwhile.foldl (ReadCommitted.step (serve 0)) (State.idle (oneDeduction.noted 0))).db.runStatus 0 =
      some .finalised := by decide +kernel
  have hcancelled : (lateCancellation.foldl (ReadCommitted.step (serve 0)) (finalisedMeanwhile.foldl
      (ReadCommitted.step (serve 0)) (State.idle (oneDeduction.noted 0)))).db.runStatus 0 = some .cancelled := by decide +kernel
  exact hlater hfinalised hcancelled

/-- Of two approvals, the second reads the balance after the first has committed. -/
def approvedTwice : List (Event PayrollRequest) :=
  [.start (.processJob 7),.start (.processJob 7),.advance 0,.advance 0] ++ List.replicate 11 (.advance 1) ++
    List.replicate 9 (.advance 0)

/-- It takes the 20 off once more. -/
example : ((approvedTwice.foldl (ReadCommitted.step (serve 0)) (State.idle oneDeduction)).db.deductions.get? 0).map
    (·.remainingAmount) = some 60 := by decide +kernel

end EduPod.Payroll.Statements
