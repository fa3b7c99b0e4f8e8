import EduPod.Imports.ImportRuns

/-! # An import under redelivery

The deliveries of one job come one after another. The journal of a run lists what each reading of the file made
of its rows; it tells what the school and the job look like when the last delivery is over.
-/
namespace EduPod.Imports

def deliver (c : Conventions) (w : World) (ds : List Delivery) : World := ds.foldl (process c) w

/-- For every delivery that commits, whether it reads the file. -/
@[grind] def readings : Bool → List Delivery → List Bool
  | _, [] => []
  | present, d :: ds =>
    if d.transactionFails then readings present ds
    else (present && !d.downloadFails) :: readings (present && d.deleteFails) ds

/-! ## The journal of a run -/

/-- The readings of a run with the verdicts `vss` that each of them gave; the first gave `vs`. -/
structure Journal (log : List Bool) (vs : List Verdict) (vss : List (List Verdict)) (w w' : World) : Prop where
  length : vss.length = log.count true
  first : ∀ us ∈ vss.head?, us = vs
  weakened : ∀ us ∈ vss, List.Forall₂ Weakens vs us
  effect : Effect (vss.flatMap fun us => us.zipIdx) w.school w'.school
  idle : log = [] → w' = w
  failed : log.getLast? = some false → w'.school.job.summary.counts = (0,0) ∧ w'.school.job.status = .failed
  read : log.getLast? = some true → ∃ us ∈ vss.getLast?,
    w'.school.job.summary.counts = (us.count .created,us.countP (· ≠ .created)) ∧
      w'.school.job.status = if .created ∈ us then .completed else .failed

theorem weakens_refl (vs : List Verdict) : List.Forall₂ Weakens vs vs := List.forall₂_same.mpr fun _ _ => .inl rfl

theorem weakens_trans {vs us ts : List Verdict} (h : List.Forall₂ Weakens vs us) (h' : List.Forall₂ Weakens us ts) :
    List.Forall₂ Weakens vs ts := by
  induction h generalizing ts with
  | nil => exact h'
  | cons hv _ ih =>
    cases h' with
    | cons hu hrest =>
      refine .cons ?_ (ih hrest)
      obtain rfl | rfl := hu
      · exact hv
      · exact .inr rfl

theorem aborts_notMem_of_weakens {vs us : List Verdict} (h : List.Forall₂ Weakens vs us) (hlive : .aborts ∉ vs) :
    .aborts ∉ us := by
  induction h with
  | nil => exact hlive
  | @cons v u vs us hv _ ih =>
    rw [List.mem_cons,not_or] at hlive ⊢
    refine ⟨?_,ih hlive.2⟩
    obtain rfl | rfl := hv
    · exact hlive.1
    · decide

section
variable {log : List Bool} {vs : List Verdict} {vss : List (List Verdict)} {w w₁ w' : World}

theorem getLast?_cons_eq (a : Bool) (log : List Bool) : (a :: log).getLast? = if log = [] then some a else log.getLast? := by
  cases log <;> rfl

theorem journal_nil : Journal [] vs [] w w where
  length := rfl
  first us hus := by simp at hus
  weakened us hus := by simp at hus
  effect := effect_of_records rfl rfl rfl rfl rfl
  idle _ := rfl
  failed h := by simp at h
  read h := by simp at h

/-- A delivery that marks the job as failed puts an entry without verdicts in front of the journal. -/
theorem journal_failed (hmarked : MarkedFailed w.school w₁.school) (h : Journal log vs vss w₁ w') :
    Journal (false :: log) vs vss w w' where
  length := by simpa using h.length
  first := h.first
  weakened := h.weakened
  effect := by
    obtain ⟨error,hschool⟩ := hmarked
    have hmark : Effect [] w.school w₁.school := by
      rw [hschool]
      exact effect_of_records rfl rfl rfl rfl rfl
    exact effect_trans hmark h.effect
  idle hlog := by cases hlog
  failed hlast := by
    rw [getLast?_cons_eq] at hlast
    split at hlast
    · rename_i hnil
      obtain ⟨error,hschool⟩ := hmarked
      rw [h.idle hnil,hschool]
      exact ⟨rfl,rfl⟩
    · exact h.failed hlast
  read hlast := by
    rw [getLast?_cons_eq] at hlast
    split at hlast
    · cases hlast
    · exact h.read hlast

/-- A reading puts its verdicts in front of those of the later readings. -/
theorem journal_read {us : List Verdict} (hinto : ReadInto vs w.school w₁.school) (hweakens : List.Forall₂ Weakens vs us)
    (h : Journal log us vss w₁ w') : Journal (true :: log) vs (vs :: vss) w w' where
  length := by simpa using h.length
  first ts hts := by simpa using hts.symm
  weakened ts hts := by
    obtain rfl | hts := List.mem_cons.mp hts
    · exact weakens_refl _
    · exact weakens_trans hweakens (h.weakened ts hts)
  effect := by
    rw [List.flatMap_cons]
    exact effect_trans hinto.effect h.effect
  idle hlog := by cases hlog
  failed hlast := by
    rw [getLast?_cons_eq] at hlast
    split at hlast
    · cases hlast
    · exact h.failed hlast
  read hlast := by
    rw [getLast?_cons_eq] at hlast
    split at hlast
    · rename_i hnil
      have hnone : vss = [] := by
        rw [← List.length_eq_zero_iff,h.length,hnil]
        rfl
      rw [h.idle hnil,hnone]
      exact ⟨vs,rfl,hinto.counts,hinto.status⟩
    · obtain ⟨ts,hts,hstate⟩ := h.read hlast
      refine ⟨ts,?_,hstate⟩
      rw [Option.mem_def] at hts ⊢
      rw [List.getLast?_cons,hts]
      rfl

end

section
variable {c : Conventions} {w w' : World} {key : String} {f : FileBuffer} {present : Bool}

theorem verdictsOf_weakens {file : Conventions.ParsedFile} {marked : List (Verdict × ℕ)} {s s' : School}
    (heffect : Effect marked s s') (hlive : .aborts ∉ s.verdictsOf c file) :
    List.Forall₂ Weakens (s.verdictsOf c file) (s'.verdictsOf c file) := by
  unfold School.verdictsOf
  rw [heffect.importType]
  exact verdicts_weaken (heffect.knows c _) hlive

/-- Every run over a file with rows, none of which aborts, has a journal. -/
theorem exists_journal (hstored : Stored key f present w) (hrows : (c.parseFile f key).rows ≠ [])
    (hlive : .aborts ∉ w.school.verdictsOf c (c.parseFile f key)) (ds : List Delivery) :
    ∃ vss, Journal (readings present ds) (w.school.verdictsOf c (c.parseFile f key)) vss w (deliver c w ds) := by
  induction ds generalizing w present with
  | nil => exact ⟨[],journal_nil⟩
  | cons d ds ih =>
    rw [deliver,List.foldl_cons,← deliver]
    cases hd : d.transactionFails with
    | true =>
      rw [readings,if_pos hd,process_lost hstored hd]
      exact ih hstored hlive
    | false =>
      rw [readings,if_neg (by simp [hd])]
      cases hread : present && !d.downloadFails with
      | false =>
        obtain ⟨hstored₁,hmarked⟩ := process_unread hstored hd (.inl hread)
        have hsame : (process c w d).school.verdictsOf c (c.parseFile f key) = w.school.verdictsOf c (c.parseFile f key) := by
          obtain ⟨error,hschool⟩ := hmarked
          rw [hschool]
          rfl
        obtain ⟨vss,hjournal⟩ := ih hstored₁ (hsame ▸ hlive)
        rw [hsame] at hjournal
        exact ⟨vss,journal_failed hmarked hjournal⟩
      | true =>
        obtain ⟨hstored₁,hinto⟩ := process_read hstored hd hread hrows hlive
        have hweakens := verdictsOf_weakens hinto.effect hlive
        obtain ⟨vss,hjournal⟩ := ih hstored₁ (aborts_notMem_of_weakens hweakens hlive)
        exact ⟨_ :: vss,journal_read hinto hweakens hjournal⟩

end

/-! ## Conservation -/

/-- A job that waits for its first delivery: its file is stored, and no record has been made for its rows. -/
structure Uploaded (key : String) (f : FileBuffer) (w : World) : Prop where
  stored : Stored key f true w
  uncounted : w.school.job.summary.counts = (0,0)
  unfinished : w.school.job.status ≠ .completed
  households : ∀ x ∈ w.school.households, x.fromRow = none
  students : ∀ x ∈ w.school.students, x.fromRow = none
  parents : ∀ x ∈ w.school.parents, x.fromRow = none

/-- After the deliveries every row judged valid has its one record and every other row has left nothing, the stored
counts say so, and on the way the import was never completed and then failed. -/
structure Conserved (c : Conventions) (vs : List Verdict) (w : World) (ds : List Delivery) : Prop where
  made : ∀ j, (deliver c w ds).school.madeFor j = if vs[j]? = some .created then 1 else 0
  nothing : ∀ j, vs[j]? ≠ some .created → (deliver c w ds).school.householdsFor j = 0
  counts : (deliver c w ds).school.job.summary.counts = (vs.count .created,vs.countP (· ≠ .created))
  lasting : ∀ before later, before ++ later <+: ds → (deliver c w before).school.job.status = .completed →
    (deliver c w (before ++ later)).school.job.status ≠ .failed

theorem count_zipIdx (vs : List Verdict) (v : Verdict) (j : ℕ) :
    vs.zipIdx.count (v,j) = if vs[j]? = some v then 1 else 0 := by
  have hnodup : vs.zipIdx.Nodup := by
    have hnumbers : (vs.zipIdx.map Prod.snd).Nodup := by
      rw [List.zipIdx_map_snd]
      exact List.nodup_range'
    exact hnumbers.of_map
  rw [hnodup.count]
  simp only [List.mk_mem_zipIdx_iff_getElem?]

section
variable {c : Conventions} {w : World} {key : String} {f : FileBuffer} {ds : List Delivery}

theorem madeFor_uploaded (h : Uploaded key f w) (j : ℕ) : w.school.madeFor j = 0 := by
  have hstudents : w.school.students.countP (·.fromRow = some j) = 0 :=
    List.countP_eq_zero.mpr fun x hx => by simp [h.students x hx]
  have hparents : w.school.parents.countP (·.fromRow = some j) = 0 :=
    List.countP_eq_zero.mpr fun x hx => by simp [h.parents x hx]
  rw [School.madeFor,hstudents,hparents]

theorem householdsFor_uploaded (h : Uploaded key f w) (j : ℕ) : w.school.householdsFor j = 0 :=
  List.countP_eq_zero.mpr fun x hx => by simp [h.households x hx]

/-! ### Files that are never counted -/

/-- The records of `s`, and a job that has counted nothing. -/
structure Untallied (s : School) (key : String) (f : FileBuffer) (w : World) : Prop where
  stored : ∃ present, Stored key f present w
  school : ∃ status summary, w.school = s.withJob status summary ∧ summary.counts = (0,0) ∧ status ≠ .completed

theorem untallied_process {s : School} {d : Delivery}
    (h : (c.parseFile f key).rows = [] ∨ .aborts ∈ s.verdictsOf c (c.parseFile f key)) (hw : Untallied s key f w) :
    Untallied s key f (process c w d) := by
  obtain ⟨⟨present,hstored⟩,status,summary,hschool,hcounts,hstatus⟩ := hw
  by_cases hd : d.transactionFails = true
  · rw [process_lost hstored hd]
    exact ⟨⟨present,hstored⟩,status,summary,hschool,hcounts,hstatus⟩
  by_cases hunread : (present && !d.downloadFails) = false ∨ (c.parseFile f key).rows = []
  · obtain ⟨hstored₁,error,hmarked⟩ := process_unread hstored (eq_false_of_ne_true hd) hunread
    refine ⟨⟨_,hstored₁⟩,.failed,.uncounted error,?_,rfl,by decide⟩
    rw [hmarked,hschool]
    rfl
  · rw [not_or] at hunread
    have haborts : .aborts ∈ w.school.verdictsOf c (c.parseFile f key) := by
      rw [hschool]
      exact h.resolve_left hunread.2
    rw [process_aborts hstored hunread.2 (by simpa using hunread.1) haborts]
    exact ⟨⟨present,hstored⟩,status,summary,hschool,hcounts,hstatus⟩

theorem untallied_deliver {s : School} (h : (c.parseFile f key).rows = [] ∨ .aborts ∈ s.verdictsOf c (c.parseFile f key))
    (hw : Untallied s key f w) (ds : List Delivery) : Untallied s key f (deliver c w ds) := by
  induction ds generalizing w with
  | nil => exact hw
  | cons d ds ih => exact ih (untallied_process h hw)

theorem untallied_uploaded (h : Uploaded key f w) : Untallied w.school key f w where
  stored := ⟨true,h.stored⟩
  school := ⟨_,_,rfl,h.uncounted,h.unfinished⟩

theorem conserved_of_empty (h : Uploaded key f w) (hrows : (c.parseFile f key).rows = []) :
    Conserved c (w.school.verdictsOf c (c.parseFile f key)) w ds := by
  have hrun := untallied_deliver (.inl hrows) (untallied_uploaded h)
  have hvs : w.school.verdictsOf c (c.parseFile f key) = [] := by
    rw [← List.length_eq_zero_iff,School.verdictsOf,length_verdicts,hrows]
    rfl
  obtain ⟨status,summary,hschool,hcounts,-⟩ := (hrun ds).school
  rw [hvs]
  refine ⟨fun j => ?_,fun j _ => ?_,?_,fun before later _ hcompleted => ?_⟩
  · rw [hschool]
    exact madeFor_uploaded h j
  · rw [hschool]
    exact householdsFor_uploaded h j
  · rw [hschool]
    exact hcounts
  · obtain ⟨status,summary,hschool,-,hstatus⟩ := (hrun before).school
    rw [hschool] at hcompleted
    exact absurd hcompleted hstatus

/-! ### Files that are read -/

theorem readings_prefix {present : Bool} {before ds : List Delivery} (h : before <+: ds) :
    readings present before <+: readings present ds := by
  induction before generalizing present ds with
  | nil => exact List.nil_prefix
  | cons d before ih =>
    obtain ⟨later,rfl⟩ := h
    rw [List.cons_append,readings,readings]
    split
    · exact ih ⟨later,rfl⟩
    · exact List.prefix_cons_inj _ |>.mpr (ih ⟨later,rfl⟩)

/-- A journal with one reading, its last entry, goes on no further. -/
theorem eq_of_prefix_once {log log' : List Bool} (h : log <+: log') (hlast : log.getLast? = some true)
    (hlast' : log'.getLast? = some true) (honce : log'.count true = 1) : log = log' := by
  obtain ⟨rest,rfl⟩ := h
  have hread : 0 < log.count true := List.count_pos_iff.mpr (List.mem_of_getLast? hlast)
  rw [List.count_append] at honce
  by_contra hne
  have hrest : rest ≠ [] := fun hnil => hne (by simp [hnil])
  rw [List.getLast?_append_of_ne_nil _ hrest] at hlast'
  have hagain : 0 < rest.count true := List.count_pos_iff.mpr (List.mem_of_getLast? hlast')
  omega

theorem eq_of_weakens {vs us : List Verdict} (h : List.Forall₂ Weakens vs us) (hrejected : ∀ v ∈ vs, v = .rejected) :
    us = vs := by
  induction h with
  | nil => rfl
  | @cons v u vs us hv _ ih =>
    have hu : u = v := by
      obtain heq | heq := hv
      · exact heq
      · rw [heq,hrejected v (by simp)]
    rw [hu,ih fun v hv => hrejected v (List.mem_cons_of_mem _ hv)]

variable {vs : List Verdict}

theorem counts_ne_zero (h : vs ≠ []) : (vs.count .created,vs.countP (· ≠ .created)) ≠ ((0,0) : ℕ × ℕ) := by
  intro heq
  obtain ⟨hcreated,hothers⟩ := Prod.mk.inj heq
  have htotal := counts_rows vs
  have hpositive := List.length_pos_iff.mpr h
  omega

/-- The records after a run that made the verdicts `vs` once, or any number of times but rejected every row. -/
theorem made_nothing_of_effect {vss : List (List Verdict)} {w' : World} (h : Uploaded key f w)
    (heffect : Effect (vss.flatMap fun us => us.zipIdx) w.school w'.school) (hclean : ∀ v ∈ vs, v = .created ∨ v = .rejected)
    (hvss : vss = [vs] ∨ (∀ us ∈ vss, us = vs) ∧ .created ∉ vs) (j : ℕ) :
    w'.school.madeFor j = (if vs[j]? = some .created then 1 else 0) ∧
      (vs[j]? ≠ some .created → w'.school.householdsFor j = 0) := by
  have hall : ∀ us ∈ vss, us = vs := by
    obtain rfl | ⟨hall,-⟩ := hvss
    · intro us hus
      exact List.mem_singleton.mp hus
    · exact hall
  have hmarked : ∀ v, (v,j) ∈ (vss.flatMap fun us => us.zipIdx) → vs[j]? = some v := by
    intro v hv
    obtain ⟨us,hus,hv⟩ := List.mem_flatMap.mp hv
    rw [hall us hus] at hv
    exact List.mk_mem_zipIdx_iff_getElem?.mp hv
  constructor
  · rw [heffect.made,madeFor_uploaded h,Nat.zero_add]
    obtain rfl | ⟨-,hnone⟩ := hvss
    · rw [List.flatMap_singleton,count_zipIdx]
    · have hno : vs[j]? ≠ some .created := fun hj => hnone (List.mem_of_getElem? hj)
      rw [if_neg hno]
      exact List.count_eq_zero.mpr fun hin => hno (hmarked _ hin)
  · intro hj
    rw [heffect.spares j,householdsFor_uploaded h]
    intro v hv
    have hat := hmarked v hv
    obtain rfl | hrejected := hclean v (List.mem_of_getElem? hat)
    · exact absurd hat hj
    · exact hrejected

/-- No row aborts or leaves a household, the last delivery that commits reads the file, and no other one does or no
row is valid. -/
def ReadOnce (vs : List Verdict) (log : List Bool) : Prop :=
  (∀ v ∈ vs, v = .created ∨ v = .rejected) ∧ log.getLast? = some true ∧ (log.count true = 1 ∨ .created ∉ vs)

theorem aborts_notMem_of_clean (hclean : ∀ v ∈ vs, v = .created ∨ v = .rejected) : .aborts ∉ vs := by
  intro hin
  obtain h | h := hclean _ hin <;> cases h

theorem vss_of_readOnce {vss : List (List Verdict)} {log : List Bool} {w' : World} (hjournal : Journal log vs vss w w')
    (honce : ReadOnce vs log) : vss = [vs] ∨ (∀ us ∈ vss, us = vs) ∧ .created ∉ vs := by
  obtain ⟨hclean,-,hcount | hnone⟩ := honce
  · left
    obtain ⟨us,rfl⟩ := List.length_eq_one_iff.mp (hjournal.length.trans hcount)
    rw [hjournal.first us rfl]
  · right
    refine ⟨fun us hus => eq_of_weakens (hjournal.weakened us hus) fun v hv => ?_,hnone⟩
    obtain rfl | hrejected := hclean v hv
    · exact absurd hv hnone
    · exact hrejected

/-- The counts and the status after such a run are those of the verdicts. -/
theorem state_of_readOnce {vss : List (List Verdict)} {log : List Bool} {w' : World} (hjournal : Journal log vs vss w w')
    (honce : ReadOnce vs log) : w'.school.job.summary.counts = (vs.count .created,vs.countP (· ≠ .created)) ∧
      w'.school.job.status = if .created ∈ vs then .completed else .failed := by
  obtain ⟨us,hus,hstate⟩ := hjournal.read honce.2.1
  have hus' := List.mem_of_getLast? hus
  have heq : us = vs := by
    obtain rfl | ⟨hall,-⟩ := vss_of_readOnce hjournal honce
    · exact List.mem_singleton.mp hus'
    · exact hall us hus'
  rw [heq] at hstate
  exact hstate

/-- A completed job has read the file in its last entry. -/
theorem read_of_completed {vss : List (List Verdict)} {log : List Bool} {w' : World} (h : Uploaded key f w)
    (hjournal : Journal log vs vss w w') (hcompleted : w'.school.job.status = .completed) : log.getLast? = some true := by
  cases hlast : log.getLast? with
  | none =>
    rw [hjournal.idle (List.getLast?_eq_none_iff.mp hlast)] at hcompleted
    exact absurd hcompleted h.unfinished
  | some read =>
    cases read with
    | true => rfl
    | false =>
      rw [(hjournal.failed hlast).2] at hcompleted
      cases hcompleted

theorem conserved_of_readOnce (h : Uploaded key f w) (hrows : (c.parseFile f key).rows ≠ [])
    (honce : ReadOnce (w.school.verdictsOf c (c.parseFile f key)) (readings true ds)) :
    Conserved c (w.school.verdictsOf c (c.parseFile f key)) w ds := by
  have hlive := aborts_notMem_of_clean honce.1
  have hjournals := exists_journal h.stored hrows hlive
  obtain ⟨vss,hjournal⟩ := hjournals ds
  have hrecords := made_nothing_of_effect h hjournal.effect honce.1 (vss_of_readOnce hjournal honce)
  refine ⟨fun j => (hrecords j).1,fun j => (hrecords j).2,(state_of_readOnce hjournal honce).1,?_⟩
  intro before later hprefix hcompleted hfailed
  obtain ⟨vss₁,hjournal₁⟩ := hjournals before
  have hlast₁ := read_of_completed h hjournal₁ hcompleted
  obtain hcount | hnone := honce.2.2
  · -- the only reading has come, so that the job stays as it is
    have hprefix₁ : readings true before <+: readings true (before ++ later) := readings_prefix (List.prefix_append _ _)
    have hprefix₂ : readings true (before ++ later) <+: readings true ds := readings_prefix hprefix
    have heq := eq_of_prefix_once (hprefix₁.trans hprefix₂) hlast₁ honce.2.1 hcount
    have hlog : readings true (before ++ later) = readings true ds := by
      rw [← heq] at hprefix₂ ⊢
      exact (hprefix₁.eq_of_length_le hprefix₂.length_le).symm
    obtain ⟨vss₂,hjournal₂⟩ := hjournals (before ++ later)
    rw [heq] at hjournal₁
    rw [hlog] at hjournal₂
    rw [(state_of_readOnce hjournal₁ honce).2] at hcompleted
    rw [(state_of_readOnce hjournal₂ honce).2,hcompleted] at hfailed
    cases hfailed
  · rw [(state_of_readOnce hjournal₁ ⟨honce.1,hlast₁,.inr hnone⟩).2,if_neg hnone] at hcompleted
    cases hcompleted

/-- The first reading leaves no household, for every household it leaves stays. -/
theorem clean_of_conserved {vss : List (List Verdict)} (hjournal : Journal (readings true ds) vs vss w (deliver c w ds))
    (hlast : (readings true ds).getLast? = some true) (hlive : .aborts ∉ vs) (hconserved : Conserved c vs w ds) : ∀ v ∈ vs, v = .created ∨ v = .rejected := by
  intro v hv
  obtain ⟨j,hj⟩ := List.mem_iff_getElem?.mp hv
  cases v with
  | created => exact .inl rfl
  | rejected => exact .inr rfl
  | aborts => exact absurd hv hlive
  | leavesHousehold =>
    obtain ⟨us,hus,-⟩ := hjournal.read hlast
    have hfirst : vs ∈ vss := by
      cases vss with
      | nil => cases hus
      | cons ts rest => exact List.mem_cons.mpr (.inl (hjournal.first ts rfl).symm)
    have hmarked : (Verdict.leavesHousehold,j) ∈ vss.flatMap fun us => us.zipIdx :=
      List.mem_flatMap.mpr ⟨vs,hfirst,List.mk_mem_zipIdx_iff_getElem?.mpr hj⟩
    have hcount := List.count_pos_iff.mpr hmarked
    have hleaves := hjournal.effect.leaves j
    rw [hconserved.nothing j (by simp [hj])] at hleaves
    omega

/-- Two readings make two records for one of the rows that the last one counts. -/
theorem once_of_conserved {vss : List (List Verdict)} (h : Uploaded key f w)
    (hjournal : Journal (readings true ds) vs vss w (deliver c w ds)) (hlast : (readings true ds).getLast? = some true)
    (hconserved : Conserved c vs w ds) : (readings true ds).count true = 1 ∨ .created ∉ vs := by
  by_contra hno
  rw [not_or,not_not] at hno
  obtain ⟨hcount,hcreated⟩ := hno
  rw [← hjournal.length] at hcount
  obtain ⟨us,hus,hcounts,-⟩ := hjournal.read hlast
  rw [hconserved.counts] at hcounts
  have hsuccess : 0 < us.count .created := by
    rw [← (Prod.mk.inj hcounts).1]
    exact List.count_pos_iff.mpr hcreated
  obtain ⟨j,hj⟩ := List.mem_iff_getElem?.mp (List.count_pos_iff.mp hsuccess)
  have hmade := hconserved.made j
  rw [hjournal.effect.made j,madeFor_uploaded h,Nat.zero_add] at hmade
  cases vss with
  | nil => cases hus
  | cons ts rest =>
    have hrest : rest ≠ [] := fun hnil => hcount (by simp [hnil])
    rw [Option.mem_def,List.getLast?_cons_of_ne_nil hrest] at hus
    have hagain : (Verdict.created,j) ∈ rest.flatMap fun us => us.zipIdx :=
      List.mem_flatMap.mpr ⟨us,List.mem_of_getLast? hus,List.mk_mem_zipIdx_iff_getElem?.mpr hj⟩
    have hpositive := List.count_pos_iff.mpr hagain
    rw [List.flatMap_cons,List.count_append,hjournal.first ts rfl,count_zipIdx] at hmade
    omega

theorem readOnce_of_conserved (h : Uploaded key f w) (hrows : (c.parseFile f key).rows ≠ [])
    (hconserved : Conserved c (w.school.verdictsOf c (c.parseFile f key)) w ds) :
    ReadOnce (w.school.verdictsOf c (c.parseFile f key)) (readings true ds) := by
  have hvs : w.school.verdictsOf c (c.parseFile f key) ≠ [] := by
    rw [← List.length_pos_iff,School.verdictsOf,length_verdicts]
    exact List.length_pos_iff.mpr hrows
  have hcounted : (deliver c w ds).school.job.summary.counts ≠ (0,0) := by
    rw [hconserved.counts]
    exact counts_ne_zero hvs
  have hlive : .aborts ∉ w.school.verdictsOf c (c.parseFile f key) := by
    intro haborts
    obtain ⟨status,summary,hschool,hcounts,-⟩ := (untallied_deliver (.inr haborts) (untallied_uploaded h) ds).school
    rw [hschool] at hcounted
    exact hcounted hcounts
  obtain ⟨vss,hjournal⟩ := exists_journal h.stored hrows hlive ds
  have hlast : (readings true ds).getLast? = some true := by
    cases hlog : (readings true ds).getLast? with
    | none =>
      rw [hjournal.idle (List.getLast?_eq_none_iff.mp hlog)] at hcounted
      exact absurd h.uncounted hcounted
    | some read =>
      cases read with
      | true => rfl
      | false => exact absurd (hjournal.failed hlog).1 hcounted
  exact ⟨clean_of_conserved hjournal hlast hlive hconserved,hlast,once_of_conserved h hjournal hlast hconserved⟩

end

/-! ## One student, delivered twice -/

def oneStudent : FileBuffer := ⟨none,"first_name,last_name,date_of_birth\nAnn,Lee,2015"⟩

def oneStudentWorld : World where
  school := ⟨⟨.students,some "students.csv",.processing,.uncounted none⟩,[],[],[]⟩
  file := some oneStudent

def delivered : Delivery := ⟨false,false,false⟩

theorem uploaded_oneStudentWorld : Uploaded "students.csv" oneStudent oneStudentWorld :=
  ⟨⟨rfl,rfl⟩,rfl,by decide,by simp [oneStudentWorld],by simp [oneStudentWorld],by simp [oneStudentWorld]⟩

end EduPod.Imports
