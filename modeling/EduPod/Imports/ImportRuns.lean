import EduPod.Imports.ImportRows

/-! # Files and their deliveries

The rows of a file run in one transaction: one row that aborts takes all of them with it, otherwise each has the
effect of its verdict. A delivery either leaves the school alone, marks the job as failed, or reads the file.
-/
namespace EduPod.Imports
open AbortingTransaction AbortingTransaction.Script

/-! ## The rows of a file -/

section
variable {c : Conventions} {importType : ImportType} {headers : List String} {s : School}

theorem inert_tallyRow (tally : Tally) (r : List String × ℕ) : Inert (tallyRow c importType headers tally r) :=
  inert_caught (inert_bind inert_processRow fun _ => inert_pure _) fun _ => inert_pure _

theorem tallyRow_aborts {tally : Tally} {row : List String} {i : ℕ}
    (h : verdict c importType headers (s.knownTo c importType) row = .aborts) :
    (tallyRow c importType headers tally (row,i) ⟨s,false⟩).2.aborted = true :=
  aborted_caught (fun _ => inert_pure _) (aborted_bind (fun _ => inert_pure _) (processRow_aborts h))

theorem tallyRow_taken (tally : Tally) {row : List String} (i : ℕ)
    (h : verdict c importType headers (s.knownTo c importType) row ≠ .aborts) :
    ∃ tally' s', tallyRow c importType headers tally (row,i) ⟨s,false⟩ = (.ok tally',⟨s',false⟩) ∧
      tally'.successCount = tally.successCount + [verdict c importType headers (s.knownTo c importType) row].count .created ∧
      tally'.successCount + tally'.failureCount = tally.successCount + tally.failureCount + 1 ∧
      Effect [(verdict c importType headers (s.knownTo c importType) row,i)] s s' ∧
      ∀ name, name ∈ s'.knownTo c importType ↔ name ∈ knownAfter c importType headers (s.knownTo c importType) row := by
  obtain ⟨out,s',hrun,hout,heffect,hknown⟩ := processRow_taken (i := i) h
  cases out with
  | ok u =>
    have hcreated := hout.mp rfl
    refine ⟨tally.succeeded,s',caught_ok (bind_ok hrun),?_,?_,heffect,hknown⟩
    · simp [Tally.succeeded,hcreated]
    · simp only [Tally.succeeded]
      omega
  | error e =>
    have hfailed : verdict c importType headers (s.knownTo c importType) row ≠ .created := fun hv => by
      have hno := hout.mpr hv
      cases hno
    refine ⟨tally.failed i e,s',caught_error (bind_error hrun),?_,?_,heffect,hknown⟩
    · simp [Tally.failed,hfailed]
    · simp only [Tally.failed]
      omega

theorem count_verdicts_cons (v w : Verdict) (vs : List Verdict) : (v :: vs).count w = [v].count w + vs.count w := by
  rw [← List.count_append]
  rfl

theorem foldRows_taken {rows : List (List String)} (k : ℕ) (tally : Tally)
    (h : .aborts ∉ verdicts c importType headers (s.knownTo c importType) rows) :
    ∃ tally' s', (rows.zipIdx k).foldlM (tallyRow c importType headers) tally ⟨s,false⟩ = (.ok tally',⟨s',false⟩) ∧
      tally'.successCount = tally.successCount + (verdicts c importType headers (s.knownTo c importType) rows).count .created ∧
      tally'.successCount + tally'.failureCount = tally.successCount + tally.failureCount + rows.length ∧
      Effect ((verdicts c importType headers (s.knownTo c importType) rows).zipIdx k) s s' := by
  induction rows generalizing k tally s with
  | nil => exact ⟨tally,s,rfl,rfl,rfl,effect_of_records rfl rfl rfl rfl rfl⟩
  | cons row rest ih =>
    rw [verdicts,List.mem_cons,not_or] at h
    obtain ⟨tally₁,s₁,hrun₁,hsuccess₁,hcount₁,heffect₁,hknown₁⟩ := tallyRow_taken tally k (Ne.symm h.1)
    have hcongr : verdicts c importType headers (s₁.knownTo c importType) rest =
        verdicts c importType headers (knownAfter c importType headers (s.knownTo c importType) row) rest :=
      verdicts_congr hknown₁ rest
    obtain ⟨tally₂,s₂,hrun₂,hsuccess₂,hcount₂,heffect₂⟩ := ih (k + 1) tally₁ (hcongr ▸ h.2)
    rw [hcongr] at hsuccess₂ heffect₂
    rw [verdicts]
    refine ⟨tally₂,s₂,?_,?_,?_,effect_trans heffect₁ heffect₂⟩
    · rw [List.zipIdx_cons,List.foldlM_cons,bind_ok hrun₁,hrun₂]
    · rw [hsuccess₂,hsuccess₁,Nat.add_assoc,← count_verdicts_cons]
    · rw [List.length_cons]
      omega

theorem foldRows_aborts {rows : List (List String)} (k : ℕ) (tally : Tally)
    (h : .aborts ∈ verdicts c importType headers (s.knownTo c importType) rows) :
    ((rows.zipIdx k).foldlM (tallyRow c importType headers) tally ⟨s,false⟩).2.aborted = true := by
  induction rows generalizing k tally s with
  | nil => cases h
  | cons row rest ih =>
    rw [List.zipIdx_cons,List.foldlM_cons]
    by_cases hrow : verdict c importType headers (s.knownTo c importType) row = .aborts
    · exact aborted_bind (fun a => inert_foldlM inert_tallyRow _ a) (tallyRow_aborts hrow)
    · obtain ⟨tally₁,s₁,hrun₁,-,-,-,hknown₁⟩ := tallyRow_taken tally k hrow
      rw [bind_ok hrun₁]
      apply ih
      rw [verdicts_congr hknown₁]
      rw [verdicts,List.mem_cons] at h
      exact h.resolve_left (Ne.symm hrow)

end

/-! ## One delivery -/

def Summary.counts : Summary → ℕ × ℕ
  | .uncounted _ => (0,0)
  | .counted _ successCount failureCount _ => (successCount,failureCount)

/-- How the rows of a file fare with the records of the school. -/
def School.verdictsOf (c : Conventions) (file : Conventions.ParsedFile) (s : School) : List Verdict :=
  verdicts c s.job.importType file.headers (s.knownTo c s.job.importType) file.rows

/-- The job is marked as failed and nothing else has changed. -/
def MarkedFailed (s s' : School) : Prop := ∃ error, s' = s.withJob .failed (.uncounted error)

/-- The file has been read into the records, and its rows counted. -/
structure ReadInto (vs : List Verdict) (s s' : School) : Prop where
  effect : Effect vs.zipIdx s s'
  counts : s'.job.summary.counts = (vs.count .created,vs.countP (· ≠ .created))
  status : s'.job.status = if .created ∈ vs then .completed else .failed

section
variable {c : Conventions} {s : School} {file : Conventions.ParsedFile}

theorem setJob_ok (status : ImportStatus) (summary : Summary) :
    sql (School.setJob status summary) ⟨s,false⟩ = (.ok (),⟨s.withJob status summary,false⟩) := sql_ok rfl

theorem effect_withJob {marked : List (Verdict × ℕ)} {s' : School} (h : Effect marked s s') (status : ImportStatus)
    (summary : Summary) : Effect marked s (s'.withJob status summary) := by
  have hjob : Effect [] s' (s'.withJob status summary) := effect_of_records rfl rfl rfl rfl rfl
  have heffect := effect_trans h hjob
  rwa [List.append_nil] at heffect

theorem counts_rows (vs : List Verdict) : vs.count .created + vs.countP (· ≠ .created) = vs.length := by
  rw [List.count,List.length_eq_countP_add_countP (· == .created)]
  congr 1
  exact List.countP_congr fun v _ => by simp

theorem processFile_empty (h : file.rows = []) :
    ∃ s', processFile c s.job.importType file ⟨s,false⟩ = (.ok (),⟨s',false⟩) ∧ MarkedFailed s s' := by
  rw [processFile,if_pos h]
  exact ⟨_,setJob_ok _ _,_,rfl⟩

theorem processFile_aborts (hrows : file.rows ≠ []) (h : .aborts ∈ s.verdictsOf c file) :
    (processFile c s.job.importType file ⟨s,false⟩).2.aborted = true := by
  rw [processFile,if_neg hrows]
  exact aborted_bind (fun _ => inert_sql _) (foldRows_aborts 0 ⟨0,0,[]⟩ h)

theorem processFile_read (hrows : file.rows ≠ []) (h : .aborts ∉ s.verdictsOf c file) :
    ∃ s', processFile c s.job.importType file ⟨s,false⟩ = (.ok (),⟨s',false⟩) ∧ ReadInto (s.verdictsOf c file) s s' := by
  have hlive : .aborts ∉ verdicts c s.job.importType file.headers (s.knownTo c s.job.importType) file.rows := h
  obtain ⟨tally,s₁,hrun,hsuccess,hcount,heffect⟩ := foldRows_taken 0 ⟨0,0,[]⟩ hlive
  have hsuccess' : tally.successCount = (s.verdictsOf c file).count .created := by
    rw [hsuccess,School.verdictsOf]
    simp
  have hlength : tally.successCount + tally.failureCount = file.rows.length := by simpa using hcount
  have hfailure : tally.failureCount = (s.verdictsOf c file).countP (· ≠ .created) := by
    have hrowsCount := counts_rows (s.verdictsOf c file)
    rw [School.verdictsOf,length_verdicts,← School.verdictsOf] at hrowsCount
    omega
  have hpositive : 0 < file.rows.length := List.length_pos_iff.mpr hrows
  rw [processFile,if_neg hrows]
  refine ⟨_,(bind_ok hrun).trans (setJob_ok _ _),effect_withJob heffect _ _,Prod.ext hsuccess' hfailure,?_⟩
  change finalStatus file.rows tally = _
  have hcreated : .created ∈ s.verdictsOf c file ↔ 0 < tally.successCount := by
    rw [hsuccess',List.count_pos_iff]
  unfold finalStatus
  split_ifs with hall hin hin
  · have hsome := hcreated.mp hin
    omega
  · rfl
  · rfl
  · have hnone : ¬0 < tally.successCount := fun hsome => hin (hcreated.mpr hsome)
    omega

/-! ## The transaction of a delivery -/

variable {d : Delivery} {f : FileBuffer} {key : String}

theorem markedFailed_withJob (status : ImportStatus) (summary : Summary) {s' : School}
    (h : MarkedFailed (s.withJob status summary) s') : MarkedFailed s s' := h

theorem readInto_withJob (status : ImportStatus) (summary : Summary) {vs : List Verdict} {s' : School}
    (h : ReadInto vs (s.withJob status summary) s') : ReadInto vs s s' where
  effect := by
    have hmark : Effect [] s (s.withJob status summary) := effect_of_records rfl rfl rfl rfl rfl
    exact effect_trans hmark h.effect
  counts := h.counts
  status := h.status

theorem execute_lost (hd : d.transactionFails = true) (fileBuffer : Option FileBuffer) : execute c d fileBuffer s = none :=
  if_pos hd

theorem execute_eq (hd : d.transactionFails = false) (fileBuffer : Option FileBuffer) :
    execute c d fileBuffer s = transaction (processJob c fileBuffer) s := if_neg (by simp [hd])

theorem processJob_unread (hkey : s.job.fileKey = some key) :
    ∃ s', processJob c none ⟨s,false⟩ = (.ok (),⟨s',false⟩) ∧ MarkedFailed s s' := by
  have hjob : sql (fun s => some (s.job,s)) ⟨s,false⟩ = (.ok s.job,⟨s,false⟩) := sql_ok rfl
  rw [processJob,bind_ok hjob,hkey]
  exact ⟨_,(bind_ok (setJob_ok _ _)).trans (setJob_ok _ _),_,rfl⟩

theorem processJob_eq (hkey : s.job.fileKey = some key) :
    processJob c (some f) ⟨s,false⟩ =
      processFile c s.job.importType (c.parseFile f key) ⟨s.withJob .processing s.job.summary,false⟩ := by
  have hjob : sql (fun s => some (s.job,s)) ⟨s,false⟩ = (.ok s.job,⟨s,false⟩) := sql_ok rfl
  rw [processJob,bind_ok hjob,hkey]
  exact bind_ok (setJob_ok _ _)

end

/-! ## Deliveries in turn -/

/-- The job of this key with its file, as long as it is stored. -/
structure Stored (key : String) (f : FileBuffer) (present : Bool) (w : World) : Prop where
  fileKey : w.school.job.fileKey = some key
  file : w.file = if present then some f else none

section
variable {c : Conventions} {w : World} {d : Delivery} {key : String} {f : FileBuffer} {present : Bool}

/-- What a delivery downloads. -/
theorem buffer_eq (h : Stored key f present w) :
    (if d.downloadFails then none else w.file) = if present && !d.downloadFails then some f else none := by
  rw [h.file]
  cases d.downloadFails <;> cases present <;> rfl

theorem process_none (h : Stored key f present w)
    (hnone : execute c d (if present && !d.downloadFails then some f else none) w.school = none) : process c w d = w := by
  rw [process,h.fileKey,buffer_eq h]
  simp only [hnone]

theorem process_some {s' : School} (h : Stored key f present w)
    (hsome : execute c d (if present && !d.downloadFails then some f else none) w.school = some s') :
    process c w d = ⟨s',if present && d.deleteFails then some f else none⟩ := by
  have hfile : (if d.deleteFails then w.file else none) = if present && d.deleteFails then some f else none := by
    rw [h.file]
    cases d.deleteFails <;> cases present <;> rfl
  rw [process,h.fileKey,buffer_eq h]
  simp only [hsome,hfile]

theorem process_lost (h : Stored key f present w) (hd : d.transactionFails = true) : process c w d = w :=
  process_none h (execute_lost hd _)

/-- A delivery without the file, or with a file without rows, marks the job as failed. -/
theorem process_unread (h : Stored key f present w) (hd : d.transactionFails = false)
    (hunread : (present && !d.downloadFails) = false ∨ (c.parseFile f key).rows = []) :
    Stored key f (present && d.deleteFails) (process c w d) ∧ MarkedFailed w.school (process c w d).school := by
  obtain ⟨s',hrun,hmarked⟩ : ∃ s', processJob c (if present && !d.downloadFails then some f else none) ⟨w.school,false⟩ =
      (.ok (),⟨s',false⟩) ∧ MarkedFailed w.school s' := by
    cases hread : present && !d.downloadFails with
    | false => exact processJob_unread h.fileKey
    | true =>
      have hrows := hunread.resolve_left (by simp [hread])
      obtain ⟨s',hrun,hmarked⟩ := processFile_empty (c := c) (s := w.school.withJob .processing w.school.job.summary) hrows
      exact ⟨s',(processJob_eq h.fileKey).trans hrun,markedFailed_withJob _ _ hmarked⟩
  have hsome := (execute_eq (c := c) hd _).trans (transaction_ok hrun)
  rw [process_some h hsome]
  obtain ⟨error,rfl⟩ := hmarked
  exact ⟨⟨h.fileKey,rfl⟩,error,rfl⟩

/-- A row that aborts takes the whole delivery with it. -/
theorem process_aborts (h : Stored key f present w) (hrows : (c.parseFile f key).rows ≠ [])
    (hread : (present && !d.downloadFails) = true) (haborts : .aborts ∈ w.school.verdictsOf c (c.parseFile f key)) :
    process c w d = w := by
  apply process_none h
  cases hd : d.transactionFails with
  | true => exact execute_lost hd _
  | false =>
    rw [execute_eq hd,if_pos hread]
    apply transaction_aborted
    rw [processJob_eq h.fileKey]
    exact processFile_aborts (s := w.school.withJob .processing w.school.job.summary) hrows haborts

theorem process_read (h : Stored key f present w) (hd : d.transactionFails = false)
    (hread : (present && !d.downloadFails) = true) (hrows : (c.parseFile f key).rows ≠ [])
    (hlive : .aborts ∉ w.school.verdictsOf c (c.parseFile f key)) :
    Stored key f (present && d.deleteFails) (process c w d) ∧
      ReadInto (w.school.verdictsOf c (c.parseFile f key)) w.school (process c w d).school := by
  obtain ⟨s',hrun,hinto⟩ := processFile_read (s := w.school.withJob .processing w.school.job.summary) hrows hlive
  have hsome : execute c d (if present && !d.downloadFails then some f else none) w.school = some s' := by
    rw [execute_eq hd,if_pos hread]
    exact transaction_ok ((processJob_eq h.fileKey).trans hrun)
  rw [process_some h hsome]
  have hschool := readInto_withJob _ _ hinto
  exact ⟨⟨hschool.effect.fileKey.trans h.fileKey,rfl⟩,hschool⟩

end
end EduPod.Imports
