import Mathlib
import EduPod.Behaviour.HoldProtection

/-! # What the retention check archives

The check goes through the students that have left, one by one, and takes the records of each. An incident belongs to
several students, and each kind of record has a retention period of its own.
-/
namespace EduPod.Behaviour

/-- The day on which a student left. -/
def Student.leftDate (s : Student) : Option CivilDate := if s.hasLeft then s.exitDate else none

def Records.leftDate (db : Records) (studentId : ℕ) : Option CivilDate := (db.students.get? studentId).bind Student.leftDate

def PastRetention (db : Records) (now : CivilDate) (years studentId : ℕ) : Prop :=
  ∃ leftDate, db.leftDate studentId = some leftDate ∧ addYears leftDate years ≤ now

/-- The record is dated before the period ends. -/
def DatedWithin (db : Records) (years studentId : ℕ) (date : CivilDate) : Prop :=
  ∃ leftDate, db.leftDate studentId = some leftDate ∧ ¬ addYears leftDate years ≤ date

/-- All its students are past the retention period. -/
def IncidentDue (db : Records) (settings : RetentionSettings) (now : CivilDate) (i : Incident) : Prop :=
  ∀ p ∈ i.participants, PastRetention db now settings.incidentRetentionYears p.studentId

/-- The check takes an entity out of the active ones; the same check may anonymise it. -/
def Archives (db : Records) (settings : RetentionSettings) (now : CivilDate) (dryRun : Bool) (entity : Entity) : Prop :=
  (retentionCheck db settings now dryRun).retentionOf entity ≠ some .active

/-- An active record is archived exactly when it is due. -/
structure ArchivesDue (db : Records) (settings : RetentionSettings) (now : CivilDate) (dryRun : Bool) : Prop where
  incident : ∀ id i, db.incidents.get? id = some i → i.retentionStatus = .active →
    (Archives db settings now dryRun ⟨.incident,id⟩ ↔ IncidentDue db settings now i)
  sanction : ∀ id s, db.sanctions.get? id = some s → s.retentionStatus = .active →
    (Archives db settings now dryRun ⟨.sanction,id⟩ ↔ PastRetention db now settings.sanctionRetentionYears s.studentId)
  intervention : ∀ id i, db.interventions.get? id = some i → i.retentionStatus = .active →
    (Archives db settings now dryRun ⟨.intervention,id⟩ ↔
      PastRetention db now settings.interventionRetentionYears i.studentId)

/-- One student of an incident that is past the period, and left late enough after it, stands for all; sanctions and
interventions are due no earlier than incidents. -/
structure Undivided (db : Records) (settings : RetentionSettings) (now : CivilDate) : Prop where
  shared : ∀ id i, db.incidents.get? id = some i → i.retentionStatus = .active → ∀ p ∈ i.participants,
    PastRetention db now settings.incidentRetentionYears p.studentId →
    DatedWithin db settings.incidentRetentionYears p.studentId i.occurredAt → IncidentDue db settings now i
  dated : ∀ id i, db.incidents.get? id = some i → i.retentionStatus = .active → IncidentDue db settings now i →
    ∃ p ∈ i.participants, DatedWithin db settings.incidentRetentionYears p.studentId i.occurredAt
  sanction : ∀ id s, db.sanctions.get? id = some s → s.retentionStatus = .active →
    PastRetention db now settings.sanctionRetentionYears s.studentId →
    PastRetention db now settings.incidentRetentionYears s.studentId ∧
      DatedWithin db settings.sanctionRetentionYears s.studentId s.scheduledDate
  intervention : ∀ id i, db.interventions.get? id = some i → i.retentionStatus = .active →
    PastRetention db now settings.interventionRetentionYears i.studentId →
    PastRetention db now settings.incidentRetentionYears i.studentId ∧
      DatedWithin db settings.interventionRetentionYears i.studentId i.createdAt

/-- No active record is due. -/
structure NothingDue (db : Records) (settings : RetentionSettings) (now : CivilDate) : Prop where
  incident : ∀ id i, db.incidents.get? id = some i → i.retentionStatus = .active → ¬ IncidentDue db settings now i
  sanction : ∀ id s, db.sanctions.get? id = some s → s.retentionStatus = .active →
    ¬ PastRetention db now settings.sanctionRetentionYears s.studentId
  intervention : ∀ id i, db.interventions.get? id = some i → i.retentionStatus = .active →
    ¬ PastRetention db now settings.interventionRetentionYears i.studentId

/-! ## One pass over the students -/

section
variable {settings : RetentionSettings} {now : CivilDate} {db : Records}

/-- A record that a row may take out of the active ones leaves them when some row takes it. -/
theorem foldl_leaves {α ρ : Type} {status : α → RetentionStatus} {f : α → ρ → α}
    (hf : ∀ a q, f a q = a ∨ status a = .active ∧ status (f a q) ≠ .active) (rows : List ρ) {a : α}
    (ha : status a = .active) :
    status (rows.foldl f a) ≠ .active ↔ ∃ q ∈ rows, status (f a q) ≠ .active := by
  have hleft {a : α} (h : status a ≠ .active) (rows : List ρ) : rows.foldl f a = a := by
    induction rows with
    | nil => rfl
    | cons q rows ih => rw [List.foldl_cons,(hf a q).resolve_right fun hq => h hq.1,ih]
  induction rows with
  | nil => simp [ha]
  | cons q rows ih =>
    simp only [List.foldl_cons,List.mem_cons,exists_eq_or_imp]
    rcases hf a q with h | h
    · rw [h]
      exact ih.trans (or_iff_right (not_not.mpr ha)).symm
    · rw [hleft h.2]
      exact iff_of_true h.2 (.inl h.2)

def takeIncident (settings : RetentionSettings) (now : CivilDate) (i : Incident) (q : ℕ × Student) : Incident :=
  q.2.leftDate.elim i fun leftDate =>
    if addYears leftDate settings.incidentRetentionYears ≤ now then
      archiveIncident q.1 (addYears leftDate settings.incidentRetentionYears) now i
    else i

def takeSanction (settings : RetentionSettings) (now : CivilDate) (s : Sanction) (q : ℕ × Student) : Sanction :=
  q.2.leftDate.elim s fun leftDate =>
    if addYears leftDate settings.incidentRetentionYears ≤ now ∧ addYears leftDate settings.sanctionRetentionYears ≤ now then
      archiveSanction q.1 (addYears leftDate settings.sanctionRetentionYears) s
    else s

def takeIntervention (settings : RetentionSettings) (now : CivilDate) (i : Intervention) (q : ℕ × Student) : Intervention :=
  q.2.leftDate.elim i fun leftDate =>
    if addYears leftDate settings.incidentRetentionYears ≤ now ∧
        addYears leftDate settings.interventionRetentionYears ≤ now then
      archiveIntervention q.1 (addYears leftDate settings.interventionRetentionYears) i
    else i

theorem mapRows_id {α : Type} (t : Table α) : (t.mapRows fun _ a => a) = t := Table.mapRows_eq_self fun _ _ => rfl

/-- Each table is rewritten by itself, and the students stay. -/
theorem archiveStudent_tables (db : Records) (q : ℕ × Student) :
    (archiveStudent settings now db q).incidents = db.incidents.mapRows (fun _ i => takeIncident settings now i q) ∧
    (archiveStudent settings now db q).sanctions = db.sanctions.mapRows (fun _ s => takeSanction settings now s q) ∧
    (archiveStudent settings now db q).interventions =
      db.interventions.mapRows fun _ i => takeIntervention settings now i q := by
  unfold archiveStudent takeIncident takeSanction takeIntervention Student.leftDate
  by_cases hleft : q.2.hasLeft
  · rw [if_pos hleft,if_pos hleft]
    cases q.2.exitDate with
    | none => exact ⟨(mapRows_id _).symm,(mapRows_id _).symm,(mapRows_id _).symm⟩
    | some leftDate =>
      dsimp only [Option.elim_some,archiveEntitiesForStudent]
      by_cases hdue : addYears leftDate settings.incidentRetentionYears ≤ now
      · simp only [hdue,not_true_eq_false,if_false,if_true,true_and]
        constructor
        · split
          · rfl
          · exact (mapRows_id _).symm
        · split
          · rfl
          · exact (mapRows_id _).symm
      · simp only [hdue,not_false_eq_true,if_true,if_false,false_and]
        exact ⟨(mapRows_id _).symm,(mapRows_id _).symm,(mapRows_id _).symm⟩
  · rw [if_neg hleft,if_neg hleft]
    exact ⟨(mapRows_id _).symm,(mapRows_id _).symm,(mapRows_id _).symm⟩

/-- The pass rewrites each row by all students one after the other. -/
theorem get?_archiveStudents (rows : List (ℕ × Student)) (db : Records) (id : ℕ) :
    ((rows.foldl (archiveStudent settings now) db).incidents.get? id =
      (db.incidents.get? id).map fun i => rows.foldl (takeIncident settings now) i) ∧
    ((rows.foldl (archiveStudent settings now) db).sanctions.get? id =
      (db.sanctions.get? id).map fun s => rows.foldl (takeSanction settings now) s) ∧
    ((rows.foldl (archiveStudent settings now) db).interventions.get? id =
      (db.interventions.get? id).map fun i => rows.foldl (takeIntervention settings now) i) := by
  induction rows generalizing db with
  | nil => simp
  | cons q rows ih =>
    obtain ⟨hincidents,hsanctions,hinterventions⟩ := @archiveStudent_tables settings now db q
    simp only [List.foldl_cons,ih,hincidents,hsanctions,hinterventions,Table.get?_mapRows,Option.map_map,
      Function.comp_def,and_self]

theorem leftDate_of_row {q : ℕ × Student} (hq : q ∈ db.students.rows) : db.leftDate q.1 = q.2.leftDate := by
  rw [Records.leftDate,Table.get?_of_row hq,Option.bind_some]

theorem exists_row_of_leftDate {studentId : ℕ} {leftDate : CivilDate} (h : db.leftDate studentId = some leftDate) :
    ∃ q ∈ db.students.rows, q.1 = studentId ∧ q.2.leftDate = some leftDate := by
  obtain ⟨student,hstudent,hleft⟩ := Option.bind_eq_some_iff.mp h
  exact ⟨(studentId,student),Table.mem_of_get? hstudent,rfl,hleft⟩

/-- What a row takes is said of the student by its id. -/
theorem exists_row_iff {P : ℕ → CivilDate → Prop} :
    (∃ q ∈ db.students.rows, ∃ leftDate, q.2.leftDate = some leftDate ∧ P q.1 leftDate) ↔
      ∃ studentId leftDate, db.leftDate studentId = some leftDate ∧ P studentId leftDate := by
  constructor
  · rintro ⟨q,hq,leftDate,hleft,hP⟩
    exact ⟨q.1,leftDate,(leftDate_of_row hq).trans hleft,hP⟩
  · rintro ⟨studentId,leftDate,hleft,hP⟩
    obtain ⟨q,hq,rfl,hdate⟩ := exists_row_of_leftDate hleft
    exact ⟨q,hq,leftDate,hdate,hP⟩

theorem takeIncident_cases (i : Incident) (q : ℕ × Student) : takeIncident settings now i q = i ∨
    i.retentionStatus = .active ∧ (takeIncident settings now i q).retentionStatus ≠ .active := by
  unfold takeIncident archiveIncident
  cases q.2.leftDate with
  | none => exact .inl rfl
  | some leftDate =>
    dsimp only [Option.elim_some]
    split
    · split
      case isTrue h => exact .inr ⟨h.1,fun h => by cases h⟩
      case isFalse => exact .inl rfl
    · exact .inl rfl

theorem takeIncident_ne_active {i : Incident} (hi : i.retentionStatus = .active) (q : ℕ × Student) :
    (takeIncident settings now i q).retentionStatus ≠ .active ↔ ∃ leftDate, q.2.leftDate = some leftDate ∧
      addYears leftDate settings.incidentRetentionYears ≤ now ∧ (∃ p ∈ i.participants, p.studentId = q.1) ∧
      ¬ addYears leftDate settings.incidentRetentionYears ≤ i.occurredAt := by
  unfold takeIncident archiveIncident
  cases q.2.leftDate with
  | none => simp [hi]
  | some leftDate =>
    dsimp only [Option.elim_some]
    split
    case isTrue hdue =>
      split
      case isTrue h => simpa [hdue] using h.2
      case isFalse h => simpa [hdue,hi] using h
    case isFalse hdue => simp [hi,hdue]

theorem takeSanction_cases (s : Sanction) (q : ℕ × Student) : takeSanction settings now s q = s ∨
    s.retentionStatus = .active ∧ (takeSanction settings now s q).retentionStatus ≠ .active := by
  unfold takeSanction archiveSanction
  cases q.2.leftDate with
  | none => exact .inl rfl
  | some leftDate =>
    dsimp only [Option.elim_some]
    split
    · split
      case isTrue h => exact .inr ⟨h.1,fun h => by cases h⟩
      case isFalse => exact .inl rfl
    · exact .inl rfl

theorem takeSanction_ne_active {s : Sanction} (hs : s.retentionStatus = .active) (q : ℕ × Student) :
    (takeSanction settings now s q).retentionStatus ≠ .active ↔ ∃ leftDate, q.2.leftDate = some leftDate ∧
      s.studentId = q.1 ∧ addYears leftDate settings.incidentRetentionYears ≤ now ∧
      addYears leftDate settings.sanctionRetentionYears ≤ now ∧
      ¬ addYears leftDate settings.sanctionRetentionYears ≤ s.scheduledDate := by
  unfold takeSanction archiveSanction
  cases q.2.leftDate with
  | none => simp [hs]
  | some leftDate =>
    dsimp only [Option.elim_some]
    split
    case isTrue hdue =>
      split
      case isTrue h => simpa [hdue] using h.2
      case isFalse h => simpa [hdue,hs] using h
    case isFalse hdue =>
      simp only [hs,ne_eq,not_true_eq_false,Option.some.injEq,exists_eq_left',false_iff]
      exact fun h => hdue ⟨h.2.1,h.2.2.1⟩

theorem takeIntervention_cases (i : Intervention) (q : ℕ × Student) : takeIntervention settings now i q = i ∨
    i.retentionStatus = .active ∧ (takeIntervention settings now i q).retentionStatus ≠ .active := by
  unfold takeIntervention archiveIntervention
  cases q.2.leftDate with
  | none => exact .inl rfl
  | some leftDate =>
    dsimp only [Option.elim_some]
    split
    · split
      case isTrue h => exact .inr ⟨h.1,fun h => by cases h⟩
      case isFalse => exact .inl rfl
    · exact .inl rfl

theorem takeIntervention_ne_active {i : Intervention} (hi : i.retentionStatus = .active) (q : ℕ × Student) :
    (takeIntervention settings now i q).retentionStatus ≠ .active ↔ ∃ leftDate, q.2.leftDate = some leftDate ∧
      i.studentId = q.1 ∧ addYears leftDate settings.incidentRetentionYears ≤ now ∧
      addYears leftDate settings.interventionRetentionYears ≤ now ∧
      ¬ addYears leftDate settings.interventionRetentionYears ≤ i.createdAt := by
  unfold takeIntervention archiveIntervention
  cases q.2.leftDate with
  | none => simp [hi]
  | some leftDate =>
    dsimp only [Option.elim_some]
    split
    case isTrue hdue =>
      split
      case isTrue h => simpa [hdue] using h.2
      case isFalse h => simpa [hdue,hi] using h
    case isFalse hdue =>
      simp only [hi,ne_eq,not_true_eq_false,Option.some.injEq,exists_eq_left',false_iff]
      exact fun h => hdue ⟨h.2.1,h.2.2.1⟩

end

/-! ## Anonymising what is archived -/

section
variable {db : Records} {entity : Entity}

/-- Rows that hit an entity only while it is not active leave it as active as it was. -/
theorem foldl_keeps_active {ρ : Type} {f : Records → ρ → Records} {hits : ρ → Prop}
    (hf : ∀ db q, (f db q).retentionOf entity = db.retentionOf entity ∨
      hits q ∧ (f db q).retentionOf entity ≠ some .active) (rows : List ρ)
    (h : ∀ q ∈ rows, hits q → db.retentionOf entity ≠ some .active) :
    (rows.foldl f db).retentionOf entity = some .active ↔ db.retentionOf entity = some .active := by
  induction rows generalizing db with
  | nil => rfl
  | cons q rows ih =>
    rw [List.forall_mem_cons] at h
    rw [List.foldl_cons]
    rcases hf db q with hsame | ⟨hhits,hgone⟩
    · rw [ih (hsame ▸ h.2),hsame]
    · rw [ih fun _ _ _ => hgone]
      exact iff_of_false hgone (h.1 hhits)

theorem map_modify_ne_active {α : Type} {t : Table α} {status : α → RetentionStatus} {g : α → α}
    (hg : ∀ a, status (g a) ≠ .active) (id : ℕ) : ((t.modify id g).get? id).map status ≠ some .active := by
  rw [Table.get?_modify,if_pos rfl,Option.map_map]
  intro h
  obtain ⟨a,-,ha⟩ := Option.map_eq_some_iff.mp h
  exact hg a ha

theorem anonymiseIncident_active (db : Records) (q : ℕ × Incident) :
    (anonymiseIncident db q).retentionOf entity = db.retentionOf entity ∨
      entity = ⟨.incident,q.1⟩ ∧ (anonymiseIncident db q).retentionOf entity ≠ some .active := by
  unfold anonymiseIncident
  split
  · exact .inl rfl
  · by_cases he : entity = ⟨.incident,q.1⟩
    · subst he
      exact .inr ⟨rfl,map_modify_ne_active (fun _ h => by cases h) q.1⟩
    · left
      obtain ⟨type,id⟩ := entity
      cases type with
      | incident =>
        have hid : id ≠ q.1 := fun h => he (h ▸ rfl)
        exact congrArg (Option.map Incident.retentionStatus) (Table.get?_modify_ne _ hid _)
      | _ => rfl

theorem anonymiseSanction_active (db : Records) (q : ℕ × Sanction) :
    (anonymiseSanction db q).retentionOf entity = db.retentionOf entity ∨
      entity = ⟨.sanction,q.1⟩ ∧ (anonymiseSanction db q).retentionOf entity ≠ some .active := by
  unfold anonymiseSanction
  split
  · exact .inl rfl
  · by_cases he : entity = ⟨.sanction,q.1⟩
    · subst he
      exact .inr ⟨rfl,map_modify_ne_active (fun _ h => by cases h) q.1⟩
    · left
      obtain ⟨type,id⟩ := entity
      cases type with
      | sanction =>
        have hid : id ≠ q.1 := fun h => he (h ▸ rfl)
        exact congrArg (Option.map Sanction.retentionStatus) (Table.get?_modify_ne _ hid _)
      | _ => rfl

theorem anonymiseIntervention_active (db : Records) (q : ℕ × Intervention) :
    (anonymiseIntervention db q).retentionOf entity = db.retentionOf entity ∨
      entity = ⟨.intervention,q.1⟩ ∧ (anonymiseIntervention db q).retentionOf entity ≠ some .active := by
  unfold anonymiseIntervention
  split
  · exact .inl rfl
  · by_cases he : entity = ⟨.intervention,q.1⟩
    · subst he
      exact .inr ⟨rfl,map_modify_ne_active (fun _ h => by cases h) q.1⟩
    · left
      obtain ⟨type,id⟩ := entity
      cases type with
      | intervention =>
        have hid : id ≠ q.1 := fun h => he (h ▸ rfl)
        exact congrArg (Option.map Intervention.retentionStatus) (Table.get?_modify_ne _ hid _)
      | _ => rfl

/-- A batch is chosen among the archived. -/
theorem ne_active_of_mem_batch {α : Type} {t : Table α} {status : α → RetentionStatus} {q : ℕ × α}
    (hq : q ∈ (t.select fun a => status a = .archived).take anonymiseBatch) :
    (t.get? q.1).map status ≠ some .active := by
  obtain ⟨hmem,harchived⟩ := List.mem_filter.mp (List.mem_of_mem_take hq)
  have harchived : status q.2 = .archived := by simpa using harchived
  rw [Table.get?_of_row hmem,Option.map_some,harchived]
  exact fun h => (by cases h)

theorem anonymiseArchivedEntities_active (db : Records) :
    (anonymiseArchivedEntities db).retentionOf entity = some .active ↔ db.retentionOf entity = some .active := by
  unfold anonymiseArchivedEntities
  dsimp only
  rw [foldl_keeps_active anonymiseIntervention_active,foldl_keeps_active anonymiseSanction_active,
    foldl_keeps_active anonymiseIncident_active]
  · rintro q hq rfl
    exact ne_active_of_mem_batch hq
  · rintro q hq rfl
    exact ne_active_of_mem_batch hq
  · rintro q hq rfl
    exact ne_active_of_mem_batch hq

end

/-! ## Which records are archived -/

section
variable {settings : RetentionSettings} {now : CivilDate} {db : Records} {id : ℕ}

theorem archives_iff (entity : Entity) : Archives db settings now false entity ↔
    (db.students.rows.foldl (archiveStudent settings now) db).retentionOf entity ≠ some .active := by
  rw [Archives,retentionCheck,if_neg Bool.false_ne_true]
  exact not_congr (anonymiseArchivedEntities_active _)

/-- An incident is archived with the first of its students. -/
theorem archives_incident {i : Incident} (hget : db.incidents.get? id = some i) (hi : i.retentionStatus = .active) :
    Archives db settings now false ⟨.incident,id⟩ ↔ ∃ p ∈ i.participants,
      PastRetention db now settings.incidentRetentionYears p.studentId ∧
        DatedWithin db settings.incidentRetentionYears p.studentId i.occurredAt := by
  have hpass : (db.students.rows.foldl (archiveStudent settings now) db).retentionOf ⟨.incident,id⟩ =
      some (db.students.rows.foldl (takeIncident settings now) i).retentionStatus := by
    rw [Records.retentionOf,(get?_archiveStudents db.students.rows db id).1,hget]
    rfl
  rw [archives_iff,hpass,ne_eq,Option.some.injEq]
  refine (foldl_leaves takeIncident_cases db.students.rows hi).trans ?_
  simp only [takeIncident_ne_active hi]
  refine (exists_row_iff (P := fun studentId leftDate => addYears leftDate settings.incidentRetentionYears ≤ now ∧
    (∃ p ∈ i.participants, p.studentId = studentId) ∧
    ¬ addYears leftDate settings.incidentRetentionYears ≤ i.occurredAt)).trans ?_
  constructor
  · rintro ⟨studentId,leftDate,hleft,hdue,⟨p,hp,rfl⟩,hdated⟩
    exact ⟨p,hp,⟨leftDate,hleft,hdue⟩,leftDate,hleft,hdated⟩
  · rintro ⟨p,hp,⟨leftDate,hleft,hdue⟩,leftDate',hleft',hdated⟩
    obtain rfl := Option.some.inj (hleft.symm.trans hleft')
    exact ⟨p.studentId,leftDate,hleft,hdue,⟨p,hp,rfl⟩,hdated⟩

theorem archives_sanction {s : Sanction} (hget : db.sanctions.get? id = some s) (hs : s.retentionStatus = .active) :
    Archives db settings now false ⟨.sanction,id⟩ ↔
      PastRetention db now settings.incidentRetentionYears s.studentId ∧
        PastRetention db now settings.sanctionRetentionYears s.studentId ∧
        DatedWithin db settings.sanctionRetentionYears s.studentId s.scheduledDate := by
  have hpass : (db.students.rows.foldl (archiveStudent settings now) db).retentionOf ⟨.sanction,id⟩ =
      some (db.students.rows.foldl (takeSanction settings now) s).retentionStatus := by
    rw [Records.retentionOf,(get?_archiveStudents db.students.rows db id).2.1,hget]
    rfl
  rw [archives_iff,hpass,ne_eq,Option.some.injEq]
  refine (foldl_leaves takeSanction_cases db.students.rows hs).trans ?_
  simp only [takeSanction_ne_active hs]
  refine (exists_row_iff (P := fun studentId leftDate => s.studentId = studentId ∧
    addYears leftDate settings.incidentRetentionYears ≤ now ∧ addYears leftDate settings.sanctionRetentionYears ≤ now ∧
    ¬ addYears leftDate settings.sanctionRetentionYears ≤ s.scheduledDate)).trans ?_
  constructor
  · rintro ⟨_,leftDate,hleft,rfl,hincident,hdue,hdated⟩
    exact ⟨⟨leftDate,hleft,hincident⟩,⟨leftDate,hleft,hdue⟩,leftDate,hleft,hdated⟩
  · rintro ⟨⟨leftDate,hleft,hincident⟩,⟨leftDate',hleft',hdue⟩,leftDate'',hleft'',hdated⟩
    obtain rfl := Option.some.inj (hleft.symm.trans hleft')
    obtain rfl := Option.some.inj (hleft.symm.trans hleft'')
    exact ⟨s.studentId,leftDate,hleft,rfl,hincident,hdue,hdated⟩

theorem archives_intervention {i : Intervention} (hget : db.interventions.get? id = some i)
    (hi : i.retentionStatus = .active) : Archives db settings now false ⟨.intervention,id⟩ ↔
      PastRetention db now settings.incidentRetentionYears i.studentId ∧
        PastRetention db now settings.interventionRetentionYears i.studentId ∧
        DatedWithin db settings.interventionRetentionYears i.studentId i.createdAt := by
  have hpass : (db.students.rows.foldl (archiveStudent settings now) db).retentionOf ⟨.intervention,id⟩ =
      some (db.students.rows.foldl (takeIntervention settings now) i).retentionStatus := by
    rw [Records.retentionOf,(get?_archiveStudents db.students.rows db id).2.2,hget]
    rfl
  rw [archives_iff,hpass,ne_eq,Option.some.injEq]
  refine (foldl_leaves takeIntervention_cases db.students.rows hi).trans ?_
  simp only [takeIntervention_ne_active hi]
  refine (exists_row_iff (P := fun studentId leftDate => i.studentId = studentId ∧
    addYears leftDate settings.incidentRetentionYears ≤ now ∧
    addYears leftDate settings.interventionRetentionYears ≤ now ∧
    ¬ addYears leftDate settings.interventionRetentionYears ≤ i.createdAt)).trans ?_
  constructor
  · rintro ⟨_,leftDate,hleft,rfl,hincident,hdue,hdated⟩
    exact ⟨⟨leftDate,hleft,hincident⟩,⟨leftDate,hleft,hdue⟩,leftDate,hleft,hdated⟩
  · rintro ⟨⟨leftDate,hleft,hincident⟩,⟨leftDate',hleft',hdue⟩,leftDate'',hleft'',hdated⟩
    obtain rfl := Option.some.inj (hleft.symm.trans hleft')
    obtain rfl := Option.some.inj (hleft.symm.trans hleft'')
    exact ⟨i.studentId,leftDate,hleft,rfl,hincident,hdue,hdated⟩

/-- A dry run archives nothing. -/
theorem not_archives_dryRun {entity : Entity} (hactive : db.retentionOf entity = some .active) :
    ¬ Archives db settings now true entity := by
  rw [Archives,retentionCheck,if_pos rfl]
  exact not_not.mpr hactive

theorem archivesDue_of_undivided (h : Undivided db settings now) : ArchivesDue db settings now false where
  incident id i hget hi := by
    rw [archives_incident hget hi]
    constructor
    · rintro ⟨p,hp,hpast,hdated⟩
      exact h.shared id i hget hi p hp hpast hdated
    · intro hdue
      obtain ⟨p,hp,hdated⟩ := h.dated id i hget hi hdue
      exact ⟨p,hp,hdue p hp,hdated⟩
  sanction id s hget hs := by
    rw [archives_sanction hget hs]
    exact ⟨fun h => h.2.1,fun hpast => ⟨(h.sanction id s hget hs hpast).1,hpast,(h.sanction id s hget hs hpast).2⟩⟩
  intervention id i hget hi := by
    rw [archives_intervention hget hi]
    exact ⟨fun h => h.2.1,
      fun hpast => ⟨(h.intervention id i hget hi hpast).1,hpast,(h.intervention id i hget hi hpast).2⟩⟩

theorem undivided_of_archivesDue (h : ArchivesDue db settings now false) : Undivided db settings now where
  shared id i hget hi p hp hpast hdated :=
    (h.incident id i hget hi).mp ((archives_incident hget hi).mpr ⟨p,hp,hpast,hdated⟩)
  dated id i hget hi hdue := by
    obtain ⟨p,hp,-,hdated⟩ := (archives_incident hget hi).mp ((h.incident id i hget hi).mpr hdue)
    exact ⟨p,hp,hdated⟩
  sanction id s hget hs hpast := by
    obtain ⟨hincident,-,hdated⟩ := (archives_sanction hget hs).mp ((h.sanction id s hget hs).mpr hpast)
    exact ⟨hincident,hdated⟩
  intervention id i hget hi hpast := by
    obtain ⟨hincident,-,hdated⟩ := (archives_intervention hget hi).mp ((h.intervention id i hget hi).mpr hpast)
    exact ⟨hincident,hdated⟩

theorem archivesDue_dryRun_iff : ArchivesDue db settings now true ↔ NothingDue db settings now := by
  have hincident {id : ℕ} {i : Incident} (hget : db.incidents.get? id = some i) (hi : i.retentionStatus = .active) :
      ¬ Archives db settings now true ⟨.incident,id⟩ := not_archives_dryRun (by rw [Records.retentionOf,hget,← hi]; rfl)
  have hsanction {id : ℕ} {s : Sanction} (hget : db.sanctions.get? id = some s) (hs : s.retentionStatus = .active) :
      ¬ Archives db settings now true ⟨.sanction,id⟩ := not_archives_dryRun (by rw [Records.retentionOf,hget,← hs]; rfl)
  have hintervention {id : ℕ} {i : Intervention} (hget : db.interventions.get? id = some i)
      (hi : i.retentionStatus = .active) : ¬ Archives db settings now true ⟨.intervention,id⟩ :=
    not_archives_dryRun (by rw [Records.retentionOf,hget,← hi]; rfl)
  constructor
  · intro h
    exact {
      incident := fun id i hget hi hdue => hincident hget hi ((h.incident id i hget hi).mpr hdue)
      sanction := fun id s hget hs hpast => hsanction hget hs ((h.sanction id s hget hs).mpr hpast)
      intervention := fun id i hget hi hpast => hintervention hget hi ((h.intervention id i hget hi).mpr hpast) }
  · intro h
    exact {
      incident := fun id i hget hi => iff_of_false (hincident hget hi) (h.incident id i hget hi)
      sanction := fun id s hget hs => iff_of_false (hsanction hget hs) (h.sanction id s hget hs)
      intervention := fun id i hget hi => iff_of_false (hintervention hget hi) (h.intervention id i hget hi) }

end

/-- When a check archives what is due and nothing else. -/
theorem archivesDue_iff (db : Records) (settings : RetentionSettings) (now : CivilDate) (dryRun : Bool) :
    ArchivesDue db settings now dryRun ↔
      if dryRun then NothingDue db settings now else Undivided db settings now := by
  cases dryRun with
  | true => exact archivesDue_dryRun_iff
  | false => exact ⟨undivided_of_archivesDue,archivesDue_of_undivided⟩

/-- Sanctions are kept for one year and incidents for seven: two years after the student has left, the sanction stays
active. -/
theorem not_archivesDue : ¬ ∀ (db : Records) (settings : RetentionSettings) (now : CivilDate),
    ArchivesDue db settings now false := by
  intro h
  let left := CivilDate.firstOfMonth 24300
  let sanction : Sanction := ⟨0,0,.served,left,none,none,none,none,none,.active⟩
  let db : Records := { Records.empty with
    students := Table.empty.insert ⟨true,some left⟩
    sanctions := Table.empty.insert sanction }
  have hdue := (h db ⟨7,1,7⟩ (CivilDate.firstOfMonth 24324)).sanction 0 sanction rfl rfl
  have harchived := hdue.mpr ⟨left,rfl,by decide⟩
  exact harchived (by decide +kernel)

end EduPod.Behaviour
