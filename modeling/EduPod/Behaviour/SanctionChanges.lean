import EduPod.Behaviour.Appeals
import EduPod.Foundation.Runs

/-! # Changes of a sanction's status

Every change is in the table of transitions, and a sanction is appealed only while an appeal against it is
open, as long as an appeal is not won after the sanction has come to its end, amendments write no status that
the table does not allow, and the transition request does not take a decided appeal for an open one.
-/
namespace EduPod.Behaviour
open Fallible Runs

inductive Command
  | transitionStatus (id : ℕ) (newStatus : SanctionStatus)
  | bulkMarkServed (sanctionIds : List ℕ)
  | submit (dto : SubmitAppealDto)
  | decide (id : ℕ) (dto : RecordAppealDecisionDto)
  | withdraw (id : ℕ)

def Command.run (client : Client) (db : Records) : Command → Except Refusal Records
  | .transitionStatus id newStatus => Behaviour.transitionStatus client db id newStatus
  | .bulkMarkServed sanctionIds => .ok (Behaviour.bulkMarkServed db sanctionIds).records
  | .submit dto => Behaviour.submit db dto
  | .decide id dto => Behaviour.decide client db id dto
  | .withdraw id => Behaviour.withdraw db id

/-- A refused command leaves the records as they are. -/
def commandStep (client : Client) (db : Records) (command : Command) : Records :=
  match command.run client db with
  | .ok db' => db'
  | .error _ => db

def Records.statusOf (db : Records) (id : ℕ) : Option SanctionStatus := (db.sanctions.get? id).map Sanction.status

/-- Every sanction has kept its status or changed it along the table. -/
def Permitted (db db' : Records) : Prop := ∀ id s s', db.statusOf id = some s → db'.statusOf id = some s' →
  s' = s ∨ isValidSanctionTransition s s' = true

def AppealedWhileOpen (db : Records) : Prop := ∀ id, db.statusOf id = some .appealed → db.openAppeal id = true

/-! ## Exact condition -/

def Amendment.changes (id : ℕ) (status : SanctionStatus) (a : Amendment) : SanctionStatus :=
  if a.entityType = .sanction ∧ a.entityId = id ∧ a.field = "status" then (sanctionStatusOf a.newValue).getD status else status

/-- The status that amendments leave a sanction with: the last one that they write. -/
def amendedStatus (amendments : List Amendment) (id : ℕ) (status : SanctionStatus) : SanctionStatus :=
  amendments.foldl (Amendment.changes id) status

def Amendment.accepted (client : Client) (db : Records) (a : Amendment) : Prop :=
  match a.entityType with
  | .sanction => (sanctionWrite client a.field a.newValue).isSome = true ∧ (db.sanctions.get? a.entityId).isSome = true
  | .incident => (incidentWrite client a.field a.newValue).isSome = true ∧ (db.incidents.get? a.entityId).isSome = true

/-- Another appeal against the sanction is open. -/
def OtherOpenAppeal (db : Records) (appealId sanctionId : ℕ) : Prop :=
  ∃ id a, id ≠ appealId ∧ db.appeals.get? id = some a ∧ a.sanctionId = some sanctionId ∧ a.isOpen = true

/-- What amendments leave a sanction with is in the table, and is not appealed without an open appeal. The
sanction of the appeal itself is scheduled again if it was appealed. -/
def LawfulAmendments (db : Records) (appealId : ℕ) (appeal : Appeal) (amendments : List Amendment) : Prop :=
  ∀ id s, db.statusOf id = some s → ¬ (appeal.sanctionId = some id ∧ s = .appealed) →
    (amendedStatus amendments id s = s ∨ isValidSanctionTransition s (amendedStatus amendments id s) = true) ∧
      (amendedStatus amendments id s = .appealed → OtherOpenAppeal db appealId id)

def LawfulDecision (client : Client) (db : Records) (appealId : ℕ) (appeal : Appeal) (dto : RecordAppealDecisionDto) : Prop :=
  match dto.decision with
  | .upheldOriginal => True
  | .modified => (db.appealedSanction appeal).isSome = true → (∀ a ∈ dto.amendments, a.accepted client db) →
    LawfulAmendments db appealId appeal dto.amendments
  | .overturned => ∀ q, db.appealedSanction appeal = some q → q.2.status = .cancelled ∨
    isValidSanctionTransition q.2.status .cancelled = true

def Lawful (client : Client) (db : Records) : Command → Prop
  | .transitionStatus id newStatus => newStatus = .appealed → client.passesForeignStatus = true → db.statusOf id = some .scheduled →
    (∃ i a, db.appeals.get? i = some a ∧ a.sanctionId = some id ∧ a.status = .decided) → db.openAppeal id = true
  | .decide id dto => ∀ appeal, db.appeals.get? id = some appeal → appeal.isOpen = true → LawfulDecision client db id appeal dto
  | _ => True

/-! ## Writes of a status -/

section
variable {db db' : Records} {id : ℕ} {status : SanctionStatus}

theorem statusOf_congr (h : db'.sanctions = db.sanctions) : db'.statusOf = db.statusOf := by
  funext i
  rw [Records.statusOf,Records.statusOf,h]

theorem statusOf_setSanction {g : Sanction → Sanction} {f : SanctionStatus → SanctionStatus} (hg : ∀ s, (g s).status = f s.status) (i : ℕ) :
    (db.setSanction id g).statusOf i = if i = id then (db.statusOf i).map f else db.statusOf i := by
  simp only [Records.statusOf,Records.setSanction,Table.get?_modify]
  split
  · cases db.sanctions.get? i with
    | none => rfl
    | some s => exact congrArg some (hg s)
  · rfl

theorem openAppeal_congr (h : db'.appeals = db.appeals) (i : ℕ) : db'.openAppeal i = db.openAppeal i := by
  rw [Records.openAppeal,Records.openAppeal,h]

theorem Permitted.refl (db : Records) : Permitted db db := by
  intro i s s' hs hs'
  rw [hs] at hs'
  exact .inl (Option.some.inj hs').symm

theorem permitted_congr (h : db'.statusOf = db.statusOf) : Permitted db db' := by
  intro i s s' hs hs'
  rw [h,hs] at hs'
  exact .inl (Option.some.inj hs').symm

/-- One sanction gets a status, and the others keep theirs. -/
def SetsStatus (db db' : Records) (id : ℕ) (status : SanctionStatus) : Prop :=
  ∀ i, db'.statusOf i = if i = id then (db.statusOf i).map fun _ => status else db.statusOf i

theorem setsStatus_setSanction {g : Sanction → Sanction} (hg : ∀ s, (g s).status = status) :
    SetsStatus db (db.setSanction id g) id status := fun i => statusOf_setSanction hg i

theorem SetsStatus.permitted_iff (h : SetsStatus db db' id status) {s : SanctionStatus} (hs : db.statusOf id = some s) :
    Permitted db db' ↔ status = s ∨ isValidSanctionTransition s status = true := by
  constructor
  · intro hp
    exact hp id s status hs (by rw [h id,if_pos rfl,hs,Option.map_some])
  · intro hv i t t' ht ht'
    rw [h i] at ht'
    split at ht'
    · rename_i hi
      subst hi
      rw [hs] at ht ht'
      obtain rfl := Option.some.inj ht
      obtain rfl := Option.some.inj ht'
      exact hv
    · rw [ht] at ht'
      exact .inl (Option.some.inj ht').symm

/-- A sanction that gets another status than appealed needs no open appeal any more. -/
theorem SetsStatus.appealedWhileOpen (h : SetsStatus db db' id status) (hne : status ≠ .appealed)
    (hopen : ∀ i, i ≠ id → db.openAppeal i = true → db'.openAppeal i = true) (hdb : AppealedWhileOpen db) :
    AppealedWhileOpen db' := by
  intro i hi
  rw [h i] at hi
  split at hi
  · obtain ⟨_,-,he⟩ := Option.map_eq_some_iff.mp hi
    exact absurd he hne
  · rename_i hid
    exact hopen i hid (hdb i hi)

/-! ## Transition requests -/

theorem checkAppealExists_eq_ok {client : Client} : checkAppealExists client db id = .ok ⟨⟩ ↔
    client.passesForeignStatus = true ∧
      ∃ i a, db.appeals.get? i = some a ∧ a.sanctionId = some id ∧ a.status ≠ .withdrawnAppeal := by
  rw [checkAppealExists,ensure_bind_eq_ok,ensure_eq_ok]
  simp only [List.any_eq_true,Bool.and_eq_true,decide_eq_true_eq,Table.get?_eq_some_iff,Prod.exists]

theorem transitionStatus_eq_ok {client : Client} {newStatus : SanctionStatus} :
    transitionStatus client db id newStatus = .ok db' ↔ ∃ s, db.statusOf id = some s ∧
      isValidSanctionTransition s newStatus = true ∧ (newStatus = .appealed → checkAppealExists client db id = .ok ⟨⟩) ∧
      db' = db.setSanction id fun s => { s with status := newStatus } := by
  rw [transitionStatus,require_bind_eq_ok]
  simp only [ensure_bind_eq_ok,Records.statusOf,Option.map_eq_some_iff]
  constructor
  · rintro ⟨s,hs,hv,h⟩
    refine ⟨s.status,⟨s,hs,rfl⟩,hv,?_⟩
    split at h
    · obtain ⟨⟨⟩,hcheck,h⟩ := bind_eq_ok.mp h
      exact ⟨fun _ => hcheck,(pure_eq_ok.mp h).symm⟩
    · rename_i hne
      exact ⟨fun he => absurd he hne,(pure_eq_ok.mp h).symm⟩
  · rintro ⟨_,⟨s,hs,rfl⟩,hv,hcheck,rfl⟩
    refine ⟨s,hs,hv,?_⟩
    split
    · rename_i he
      rw [hcheck he]
      rfl
    · rfl

theorem valid_appealed_iff {s : SanctionStatus} : isValidSanctionTransition s .appealed = true ↔ s = .scheduled := by
  cases s <;> simp [isValidSanctionTransition_iff,validSanctionTransitions]

theorem commandStep_ok {client : Client} (command : Command) (h : command.run client db = .ok db') :
    commandStep client db command = db' := by
  rw [commandStep,h]

theorem commandStep_error {client : Client} (command : Command) (h : ∀ db', command.run client db ≠ .ok db') :
    commandStep client db command = db := by
  unfold commandStep
  cases hrun : command.run client db with
  | ok db' => exact absurd hrun (h db')
  | error e => rfl

theorem transitionStatus_lawful_iff {client : Client} {newStatus : SanctionStatus} (hdb : AppealedWhileOpen db) :
    (Permitted db (commandStep client db (.transitionStatus id newStatus)) ∧
      AppealedWhileOpen (commandStep client db (.transitionStatus id newStatus))) ↔
        Lawful client db (.transitionStatus id newStatus) := by
  by_cases hok : ∃ db', transitionStatus client db id newStatus = .ok db'
  · obtain ⟨db',hrun⟩ := hok
    rw [commandStep_ok (.transitionStatus id newStatus) hrun]
    obtain ⟨s,hs,hv,hcheck,rfl⟩ := transitionStatus_eq_ok.mp hrun
    have hset : SetsStatus db (db.setSanction id fun s => { s with status := newStatus }) id newStatus :=
      setsStatus_setSanction fun _ => rfl
    rw [and_iff_right ((hset.permitted_iff hs).mpr (.inr hv))]
    by_cases hnew : newStatus = .appealed
    · subst hnew
      obtain rfl := valid_appealed_iff.mp hv
      constructor
      · intro h _ _ _ _
        exact h id (by rw [hset id,if_pos rfl,hs,Option.map_some])
      · intro h i hi
        rw [openAppeal_congr rfl]
        by_cases hid : i = id
        · subst hid
          obtain ⟨hpasses,j,a,ha,hsanction,hnot⟩ := checkAppealExists_eq_ok.mp (hcheck rfl)
          by_cases hdecided : a.status = .decided
          · exact h rfl hpasses hs ⟨j,a,ha,hsanction,hdecided⟩
          · refine openAppeal_iff.mpr ⟨j,a,ha,hsanction,?_⟩
            unfold Appeal.isOpen
            cases hstatus : a.status <;> simp [terminalAppealStatuses,hstatus] at hnot hdecided ⊢
        · rw [hset i,if_neg hid] at hi
          exact hdb i hi
    · refine iff_of_true ?_ fun he => absurd he hnew
      exact hset.appealedWhileOpen hnew (fun _ _ ho => ho) hdb
  · rw [commandStep_error (.transitionStatus id newStatus) fun db' h => hok ⟨db',h⟩]
    refine iff_of_true ⟨.refl db,hdb⟩ ?_
    rintro rfl hpasses hs ⟨i,a,ha,hsanction,hdecided⟩
    refine absurd ⟨_,transitionStatus_eq_ok.mpr ⟨.scheduled,hs,rfl,fun _ => ?_,rfl⟩⟩ hok
    exact checkAppealExists_eq_ok.mpr ⟨hpasses,i,a,ha,hsanction,by rw [hdecided]; simp⟩

/-! ## Marking in bulk -/

/-- Each sanction is as it was or has been marked served where that was allowed. -/
def ServedWhereValid (db db' : Records) : Prop := db'.appeals = db.appeals ∧ ∀ i, db'.statusOf i = db.statusOf i ∨
  ∃ s, db.statusOf i = some s ∧ isValidSanctionTransition s .served = true ∧ db'.statusOf i = some .served

theorem ServedWhereValid.markServed {result : BulkResult} (h : ServedWhereValid db result.records) (sanctionId : ℕ) :
    ServedWhereValid db (markServed result sanctionId).records := by
  unfold Behaviour.markServed
  cases hs : result.records.sanctions.get? sanctionId with
  | none => exact h
  | some sanction =>
    dsimp only
    split
    · rename_i hvalid
      have hstatus : result.records.statusOf sanctionId = some sanction.status := by rw [Records.statusOf,hs,Option.map_some]
      refine ⟨h.1,fun i => ?_⟩
      have hset : SetsStatus result.records (result.records.setSanction sanctionId fun s => { s with status := .served })
          sanctionId .served := setsStatus_setSanction fun _ => rfl
      specialize hset i
      by_cases hi : i = sanctionId
      · subst hi
        rw [if_pos rfl,hstatus,Option.map_some] at hset
        refine .inr ?_
        rcases h.2 i with hold | ⟨s,-,-,hserved⟩
        · exact ⟨sanction.status,by rw [← hold,hstatus],hvalid,hset⟩
        · rw [hstatus] at hserved
          rw [Option.some.inj hserved] at hvalid
          cases hvalid
      · rw [if_neg hi] at hset
        rcases h.2 i with hold | ⟨s,hs,hv,hserved⟩
        · exact .inl (hset.trans hold)
        · exact .inr ⟨s,hs,hv,hset.trans hserved⟩
    · exact h

theorem servedWhereValid_bulkMarkServed (db : Records) (sanctionIds : List ℕ) :
    ServedWhereValid db (bulkMarkServed db sanctionIds).records := by
  unfold bulkMarkServed
  have hfold : ∀ result : BulkResult, ServedWhereValid db result.records →
      ServedWhereValid db (sanctionIds.foldl markServed result).records := by
    induction sanctionIds with
    | nil => exact fun _ h => h
    | cons sanctionId rest ih => exact fun result h => ih _ (h.markServed sanctionId)
  exact hfold _ ⟨rfl,fun _ => .inl rfl⟩

theorem ServedWhereValid.permitted (h : ServedWhereValid db db') : Permitted db db' := by
  intro i s s' hs hs'
  rcases h.2 i with hold | ⟨t,ht,hv,hserved⟩
  · rw [hold,hs] at hs'
    exact .inl (Option.some.inj hs').symm
  · rw [hs] at ht
    rw [hserved] at hs'
    obtain rfl := Option.some.inj ht
    obtain rfl := Option.some.inj hs'
    exact .inr hv

theorem ServedWhereValid.appealedWhileOpen (h : ServedWhereValid db db') (hdb : AppealedWhileOpen db) : AppealedWhileOpen db' := by
  intro i hi
  rw [openAppeal_congr h.1]
  rcases h.2 i with hold | ⟨t,-,-,hserved⟩
  · exact hdb i (hold.symm.trans hi)
  · rw [hserved] at hi
    cases hi

/-! ## Appeals -/

/-- Sanctions and appeals are what they were. -/
def SameCases (db db' : Records) : Prop := db'.sanctions = db.sanctions ∧ db'.appeals = db.appeals

theorem setAppealHold_frame (appealNumber : String) (appealId : ℕ) (db : Records) (entity : Entity) :
    SameCases db (setAppealHold appealNumber appealId db entity) := by
  dsimp only [setAppealHold]
  split <;> exact ⟨rfl,rfl⟩

theorem setAppealHolds_frame (appealNumber : String) (appealId : ℕ) (entities : List Entity) (db : Records) :
    SameCases db (entities.foldl (setAppealHold appealNumber appealId) db) := by
  induction entities generalizing db with
  | nil => exact ⟨rfl,rfl⟩
  | cons entity entities ih =>
    obtain ⟨hs,ha⟩ := setAppealHold_frame appealNumber appealId db entity
    obtain ⟨hs',ha'⟩ := ih (setAppealHold appealNumber appealId db entity)
    exact ⟨hs'.trans hs,ha'.trans ha⟩

theorem linkExclusionCase_frame (db : Records) (appealId : ℕ) (sanctionId : Option ℕ) :
    SameCases db (linkExclusionCase db appealId sanctionId) := by
  unfold linkExclusionCase
  split
  · exact ⟨rfl,rfl⟩
  · split <;> exact ⟨rfl,rfl⟩

theorem appeals_appealSanction (db : Records) (sanctionId : Option ℕ) (sanction : Option Sanction) :
    (appealSanction db sanctionId sanction).appeals = db.appeals := by
  unfold appealSanction
  split
  · cases sanctionId <;> rfl
  · rfl

theorem checkSanction_eq_ok {sanctionId : Option ℕ} {sanction : Option Sanction} (h : checkSanction db sanctionId = .ok sanction) :
    (sanctionId = none ∧ sanction = none) ∨
      ∃ i s, sanctionId = some i ∧ sanction = some s ∧ db.sanctions.get? i = some s ∧ db.openAppeal i = false := by
  cases sanctionId with
  | none => exact .inl ⟨rfl,(Except.ok.inj h).symm⟩
  | some i =>
    obtain ⟨s,hs,h⟩ := require_bind_eq_ok.mp h
    obtain ⟨ho,h⟩ := ensure_bind_eq_ok.mp h
    exact .inr ⟨i,s,rfl,(pure_eq_ok.mp h).symm,hs,ho⟩

/-- A scheduled sanction is appealed when an appeal against it is handed in, and no other status changes. -/
theorem submit_cases {dto : SubmitAppealDto} (h : submit db dto = .ok db') :
    db'.appeals = db.appeals.insert (submittedAppeal dto) ∧
      (db'.statusOf = db.statusOf ∨ ∃ i, dto.sanctionId = some i ∧ db.statusOf i = some .scheduled ∧ SetsStatus db db' i .appealed) := by
  obtain ⟨-,h⟩ := ensure_bind_eq_ok.mp h
  obtain ⟨_,-,h⟩ := require_bind_eq_ok.mp h
  obtain ⟨sanction,hsanction,h⟩ := bind_eq_ok.mp h
  obtain rfl := pure_eq_ok.mp h
  obtain ⟨hlinked,hlinked'⟩ := linkExclusionCase_frame ((appealEntities dto db.appeals.next).foldl
    (setAppealHold dto.appealNumber db.appeals.next) (appealSanction { db with appeals := db.appeals.insert (submittedAppeal dto) }
      dto.sanctionId sanction)) db.appeals.next dto.sanctionId
  obtain ⟨hheld,hheld'⟩ := setAppealHolds_frame dto.appealNumber db.appeals.next (appealEntities dto db.appeals.next)
    (appealSanction { db with appeals := db.appeals.insert (submittedAppeal dto) } dto.sanctionId sanction)
  refine ⟨(hlinked'.trans hheld').trans (appeals_appealSanction _ _ _),?_⟩
  have hstatus := statusOf_congr (hlinked.trans hheld)
  rcases checkSanction_eq_ok hsanction with ⟨-,rfl⟩ | ⟨i,s,hi,rfl,hs,-⟩
  · exact .inl hstatus
  · by_cases hscheduled : s.status = .scheduled
    · refine .inr ⟨i,hi,by rw [Records.statusOf,hs,Option.map_some,hscheduled],fun j => ?_⟩
      refine (congrFun hstatus j).trans ?_
      simp only [appealSanction,hi,Option.any_some,hscheduled,decide_true,if_true,Option.elim_some]
      have hset : SetsStatus db (db.setSanction i fun s => { s with status := .appealed }) i .appealed :=
        setsStatus_setSanction fun _ => rfl
      exact hset j
    · refine .inl (hstatus.trans ?_)
      simp only [appealSanction,Option.any_some,hscheduled,decide_false,Bool.false_eq_true,if_false]
      rfl

theorem openAppeal_insert {a : Appeal} (h : db'.appeals = db.appeals.insert a) {i : ℕ} :
    db'.openAppeal i = true ↔ db.openAppeal i = true ∨ a.sanctionId = some i ∧ a.isOpen = true := by
  rw [openAppeal_iff,openAppeal_iff,h]
  constructor
  · rintro ⟨j,b,hb,hs,ho⟩
    rw [Table.get?_insert] at hb
    split at hb
    · obtain rfl := Option.some.inj hb
      exact .inr ⟨hs,ho⟩
    · exact .inl ⟨j,b,hb,hs,ho⟩
  · rintro (⟨j,b,hb,hs,ho⟩ | ⟨hs,ho⟩)
    · exact ⟨j,b,by rw [Table.get?_insert,if_neg (Table.lt_next_of_get? hb).ne]; exact hb,hs,ho⟩
    · exact ⟨db.appeals.next,a,by rw [Table.get?_insert,if_pos rfl],hs,ho⟩

theorem submit_lawful (hdb : AppealedWhileOpen db) {dto : SubmitAppealDto} (h : submit db dto = .ok db') :
    Permitted db db' ∧ AppealedWhileOpen db' := by
  obtain ⟨happeals,hstatus | ⟨i,hi,hs,hset⟩⟩ := submit_cases h
  · refine ⟨permitted_congr hstatus,fun j hj => ?_⟩
    rw [hstatus] at hj
    exact (openAppeal_insert happeals).mpr (.inl (hdb j hj))
  · refine ⟨(hset.permitted_iff hs).mpr (.inr rfl),fun j hj => (openAppeal_insert happeals).mpr ?_⟩
    rw [hset j] at hj
    split at hj
    · rename_i hid
      subst hid
      exact .inr ⟨hi,rfl⟩
    · exact .inl (hdb j hj)

/-! ## Amendments -/

/-- What a write of a field does to the status. -/
def writtenStatus (field value : String) (status : SanctionStatus) : SanctionStatus :=
  if field = "status" then (sanctionStatusOf value).getD status else status

theorem status_sanctionWrite {client : Client} {field value : String} {g : Sanction → Sanction}
    (h : sanctionWrite client field value = some g) (s : Sanction) : (g s).status = writtenStatus field value s.status := by
  unfold writtenStatus
  unfold sanctionWrite at h
  split at h
  · obtain ⟨status,hstatus,rfl⟩ := Option.map_eq_some_iff.mp h
    simp [hstatus]
  · obtain ⟨outcome,-,rfl⟩ := Option.map_eq_some_iff.mp h
    rfl
  · obtain ⟨retention,-,rfl⟩ := Option.map_eq_some_iff.mp h
    rfl
  · obtain rfl := Option.some.inj h
    rfl
  · obtain rfl := Option.some.inj h
    rfl
  · obtain rfl := Option.some.inj h
    rfl
  · obtain rfl := Option.some.inj h
    rfl
  · rename_i hfield _ _ _ _ _ _
    split at h
    · obtain rfl := Option.some.inj h
      rw [if_neg hfield]
      rfl
    · cases h

theorem accepted_congr {client : Client} {am : Amendment}
    (hs : ∀ i, (db'.sanctions.get? i).isSome = (db.sanctions.get? i).isSome)
    (hi : ∀ i, (db'.incidents.get? i).isSome = (db.incidents.get? i).isSome) : am.accepted client db' ↔ am.accepted client db := by
  unfold Amendment.accepted
  cases am.entityType with
  | incident => simp only [hi]
  | sanction => simp only [hs]

/-- What one amendment does if the appeal is about a sanction. -/
theorem applyAmendment_ok {client : Client} {am : Amendment} (h : applyAmendment client true db am = .ok db') :
    am.accepted client db ∧ db'.appeals = db.appeals ∧ (∀ i, db'.statusOf i = (db.statusOf i).map (am.changes i)) ∧
      (∀ i, (db'.sanctions.get? i).isSome = (db.sanctions.get? i).isSome) ∧
      ∀ i, (db'.incidents.get? i).isSome = (db.incidents.get? i).isSome := by
  unfold applyAmendment at h
  unfold Amendment.accepted
  cases htype : am.entityType with
  | incident =>
    rw [htype] at h
    obtain ⟨g,hg,h⟩ := require_bind_eq_ok.mp h
    obtain ⟨incident,hincident,h⟩ := require_bind_eq_ok.mp h
    obtain rfl := pure_eq_ok.mp h
    refine ⟨⟨by rw [hg]; rfl,by rw [hincident]; rfl⟩,rfl,fun i => ?_,fun _ => rfl,fun i => Table.isSome_get?_modify _ _ _ _⟩
    have hchanges : am.changes i = fun s => s := by
      funext s
      exact if_neg (by simp [htype])
    rw [hchanges,Option.map_id']
    rfl
  | sanction =>
    rw [htype] at h
    simp only [if_true] at h
    obtain ⟨g,hg,h⟩ := require_bind_eq_ok.mp h
    obtain ⟨sanction,hsanction,h⟩ := require_bind_eq_ok.mp h
    obtain rfl := pure_eq_ok.mp h
    refine ⟨⟨by rw [hg]; rfl,by rw [hsanction]; rfl⟩,rfl,fun i => ?_,fun i => Table.isSome_get?_modify _ _ _ _,fun _ => rfl⟩
    refine (statusOf_setSanction (status_sanctionWrite hg) i).trans ?_
    by_cases hi : i = am.entityId
    · rw [if_pos hi]
      congr 1
      funext s
      simp [Amendment.changes,writtenStatus,htype,hi]
    · rw [if_neg hi]
      have hchanges : am.changes i = fun s => s := by
        funext s
        exact if_neg fun hc => hi hc.2.1.symm
      rw [hchanges,Option.map_id']

theorem applyAmendment_exists {client : Client} {am : Amendment} (h : am.accepted client db) :
    ∃ db', applyAmendment client true db am = .ok db' := by
  unfold Amendment.accepted at h
  unfold applyAmendment
  cases htype : am.entityType with
  | incident =>
    rw [htype] at h
    obtain ⟨g,hg⟩ := Option.isSome_iff_exists.mp h.1
    obtain ⟨incident,hincident⟩ := Option.isSome_iff_exists.mp h.2
    exact ⟨_,require_bind_eq_ok.mpr ⟨g,hg,require_bind_eq_ok.mpr ⟨incident,hincident,rfl⟩⟩⟩
  | sanction =>
    rw [htype] at h
    obtain ⟨g,hg⟩ := Option.isSome_iff_exists.mp h.1
    obtain ⟨sanction,hsanction⟩ := Option.isSome_iff_exists.mp h.2
    exact ⟨_,require_bind_eq_ok.mpr ⟨g,hg,require_bind_eq_ok.mpr ⟨sanction,hsanction,rfl⟩⟩⟩

theorem applyAmendments_ok {client : Client} {amendments : List Amendment}
    (h : amendments.foldlM (applyAmendment client true) db = .ok db') :
    db'.appeals = db.appeals ∧ ∀ i, db'.statusOf i = (db.statusOf i).map (amendedStatus amendments i) := by
  induction amendments generalizing db with
  | nil =>
    obtain rfl := Except.ok.inj h
    exact ⟨rfl,fun i => Option.map_id'.symm⟩
  | cons am amendments ih =>
    rw [List.foldlM_cons] at h
    obtain ⟨db₁,hfirst,hrest⟩ := bind_eq_ok.mp h
    obtain ⟨-,happeals,hstatus,-,-⟩ := applyAmendment_ok hfirst
    obtain ⟨happeals',hstatus'⟩ := ih hrest
    refine ⟨happeals'.trans happeals,fun i => ?_⟩
    rw [hstatus' i,hstatus i,Option.map_map]
    rfl

theorem applyAmendments_exists {client : Client} {amendments : List Amendment} (h : ∀ am ∈ amendments, am.accepted client db) :
    ∃ db', amendments.foldlM (applyAmendment client true) db = .ok db' := by
  induction amendments generalizing db with
  | nil => exact ⟨db,rfl⟩
  | cons am amendments ih =>
    obtain ⟨haccepted,hrest⟩ := List.forall_mem_cons.mp h
    obtain ⟨db₁,hfirst⟩ := applyAmendment_exists haccepted
    obtain ⟨-,-,-,hs,hi⟩ := applyAmendment_ok hfirst
    obtain ⟨db',hdb'⟩ := ih fun am' hmem => (accepted_congr hs hi).mpr (hrest am' hmem)
    exact ⟨db',by rw [List.foldlM_cons,hfirst]; exact hdb'⟩

theorem accepted_of_applyAmendments {client : Client} {amendments : List Amendment}
    (h : amendments.foldlM (applyAmendment client true) db = .ok db') : ∀ am ∈ amendments, am.accepted client db := by
  induction amendments generalizing db with
  | nil => exact fun _ hmem => (by cases hmem)
  | cons am amendments ih =>
    rw [List.foldlM_cons] at h
    obtain ⟨db₁,hfirst,hrest⟩ := bind_eq_ok.mp h
    obtain ⟨haccepted,-,-,hs,hi⟩ := applyAmendment_ok hfirst
    exact List.forall_mem_cons.mpr ⟨haccepted,fun am' hmem => (accepted_congr hs hi).mp (ih hrest am' hmem)⟩

/-- Without a sanction, amendments touch incidents only. -/
theorem applyAmendments_frame {client : Client} {amendments : List Amendment}
    (h : amendments.foldlM (applyAmendment client false) db = .ok db') :
    SameCases db db' := by
  have hframe : ∀ db₁ : Records, SameCases db db₁ → ∀ am ∈ amendments, ∀ db₂,
      applyAmendment client false db₁ am = .ok db₂ → SameCases db db₂ := by
    intro db₁ hdb₁ am _ db₂ hstep
    unfold applyAmendment at hstep
    split at hstep
    · obtain rfl := Except.ok.inj hstep
      exact hdb₁
    · obtain ⟨_,-,hstep⟩ := require_bind_eq_ok.mp hstep
      obtain ⟨_,-,hstep⟩ := require_bind_eq_ok.mp hstep
      obtain rfl := pure_eq_ok.mp hstep
      exact hdb₁
  exact foldlM_relates hframe ⟨rfl,rfl⟩ h

/-! ## Closing an appeal -/

variable {appeal : Appeal}

theorem appealedSanction_iff {q : ℕ × Sanction} :
    db.appealedSanction appeal = some q ↔ appeal.sanctionId = some q.1 ∧ db.sanctions.get? q.1 = some q.2 := by
  simp only [Records.appealedSanction,Option.bind_eq_some_iff,Option.map_eq_some_iff]
  constructor
  · rintro ⟨i,hi,s,hs,rfl⟩
    exact ⟨hi,hs⟩
  · rintro ⟨hi,hs⟩
    exact ⟨q.1,hi,q.2,hs,rfl⟩

theorem otherOpenAppeal_of_ne (ha : db.appeals.get? id = some appeal) {i : ℕ} (hne : appeal.sanctionId ≠ some i)
    (h : db.openAppeal i = true) : OtherOpenAppeal db id i := by
  obtain ⟨j,b,hb,hs,ho⟩ := openAppeal_iff.mp h
  refine ⟨j,b,?_,hb,hs,ho⟩
  rintro rfl
  obtain rfl := Option.some.inj (ha.symm.trans hb)
  exact hne hs

/-- When one appeal is closed, the others are as open as they were. -/
theorem openAppeal_close {g : Appeal → Appeal} (hg : ∀ a, (g a).isOpen = false) (h : db'.appeals = db.appeals.modify id g) (i : ℕ) :
    db'.openAppeal i = true ↔ OtherOpenAppeal db id i := by
  rw [openAppeal_iff,h]
  constructor
  · rintro ⟨j,b,hb,hs,ho⟩
    rw [Table.get?_modify] at hb
    split at hb
    · obtain ⟨_,-,rfl⟩ := Option.map_eq_some_iff.mp hb
      rw [hg] at ho
      cases ho
    · rename_i hj
      exact ⟨j,b,hj,hb,hs,ho⟩
  · rintro ⟨j,b,hj,hb,hs,ho⟩
    exact ⟨j,b,by rw [Table.get?_modify_ne _ hj]; exact hb,hs,ho⟩

/-- What a decision that is not won leaves every sanction with. -/
def ClosesWith (db db' : Records) (appeal : Appeal) (amendments : List Amendment) : Prop :=
  ∀ i, db'.statusOf i = (db.statusOf i).map fun s =>
    if appeal.sanctionId = some i ∧ s = .appealed then .scheduled else amendedStatus amendments i s

theorem closesWith_lawful_iff {amendments : List Amendment} (h : ClosesWith db db' appeal amendments)
    (hopen : ∀ i, db'.openAppeal i = true ↔ OtherOpenAppeal db id i) :
    (Permitted db db' ∧ AppealedWhileOpen db') ↔ LawfulAmendments db id appeal amendments := by
  constructor
  · rintro ⟨hp,ha⟩ i s hs hne
    have hafter : db'.statusOf i = some (amendedStatus amendments i s) := by rw [h i,hs,Option.map_some,if_neg hne]
    exact ⟨hp i s _ hs hafter,fun he => (hopen i).mp (ha i (hafter.trans (congrArg some he)))⟩
  · intro hl
    refine ⟨fun i s s' hs hs' => ?_,fun i hi => (hopen i).mpr ?_⟩
    · rw [h i,hs,Option.map_some] at hs'
      split at hs'
      · rename_i hc
        obtain rfl := Option.some.inj hs'
        rw [hc.2]
        exact .inr rfl
      · rename_i hne
        obtain rfl := Option.some.inj hs'
        exact (hl i s hs hne).1
    · rw [h i] at hi
      obtain ⟨s,hs,he⟩ := Option.map_eq_some_iff.mp hi
      split at he
      · cases he
      · rename_i hne
        exact (hl i s hs hne).2 he

theorem lawfulAmendments_nil (hdb : AppealedWhileOpen db) (ha : db.appeals.get? id = some appeal) :
    LawfulAmendments db id appeal [] := by
  intro i s hs hne
  refine ⟨.inl rfl,?_⟩
  rintro (rfl : s = .appealed)
  exact otherOpenAppeal_of_ne ha (fun hi => hne ⟨hi,rfl⟩) (hdb i hs)

theorem statusOf_reinstate {db₁ : Records} {g : Sanction → Sanction} {amendments : List Amendment}
    (h : ∀ i, db₁.statusOf i = (db.statusOf i).map (amendedStatus amendments i)) :
    ClosesWith db (reinstate db₁ (db.appealedSanction appeal) g) appeal amendments := by
  intro i
  unfold reinstate
  cases hq : db.appealedSanction appeal with
  | none =>
    refine (h i).trans ?_
    cases hs : db.sanctions.get? i with
    | none => simp [Records.statusOf,hs]
    | some s =>
      have hi : appeal.sanctionId ≠ some i := by
        intro hi
        have hsome : db.appealedSanction appeal = some (i,s) := appealedSanction_iff.mpr ⟨hi,hs⟩
        rw [hsome] at hq
        cases hq
      simp [Records.statusOf,hs,hi]
  | some q =>
    obtain ⟨hid,hsanction⟩ := appealedSanction_iff.mp hq
    have hstatus : db.statusOf q.1 = some q.2.status := by rw [Records.statusOf,hsanction,Option.map_some]
    dsimp only
    by_cases happealed : q.2.status = .appealed
    · have hset : SetsStatus db₁ (db₁.setSanction q.1 fun s => { g s with status := .scheduled }) q.1 .scheduled :=
        setsStatus_setSanction fun _ => rfl
      rw [if_pos happealed,hset i,h i]
      by_cases hi : i = q.1
      · subst hi
        simp [hstatus,hid,happealed]
      · have hne : appeal.sanctionId ≠ some i := by rw [hid]; exact fun he => hi (Option.some.inj he).symm
        simp [hi,hne]
    · rw [if_neg happealed,h i]
      by_cases hi : i = q.1
      · subst hi
        simp [hstatus,happealed]
      · have hne : appeal.sanctionId ≠ some i := by rw [hid]; exact fun he => hi (Option.some.inj he).symm
        simp [hne]

theorem appeals_reinstate (db : Records) (sanction : Option (ℕ × Sanction)) (g : Sanction → Sanction) :
    (reinstate db sanction g).appeals = db.appeals := by
  unfold reinstate
  split
  · rfl
  · split <;> rfl

theorem amendedStatus_nil_map (i : ℕ) : db.statusOf i = (db.statusOf i).map (amendedStatus [] i) := Option.map_id'.symm

theorem withdraw_lawful (hdb : AppealedWhileOpen db) (h : withdraw db id = .ok db') : Permitted db db' ∧ AppealedWhileOpen db' := by
  obtain ⟨appeal,ha,h⟩ := require_bind_eq_ok.mp h
  obtain ⟨-,h⟩ := ensure_bind_eq_ok.mp h
  obtain rfl := pure_eq_ok.mp h
  let withdrawn : Records := { db with appeals := db.appeals.modify id fun a => { a with status := .withdrawnAppeal } }
  have hcloses : ClosesWith db (reinstate withdrawn (db.appealedSanction appeal) fun s => s) appeal [] :=
    statusOf_reinstate fun i => amendedStatus_nil_map i
  have happeals : (reinstate withdrawn (db.appealedSanction appeal) fun s => s).appeals =
      db.appeals.modify id fun a => { a with status := .withdrawnAppeal } := appeals_reinstate _ _ _
  exact (closesWith_lawful_iff hcloses (openAppeal_close (fun _ => rfl) happeals)).mpr (lawfulAmendments_nil hdb ha)

theorem decide_eq_ok_iff {client : Client} {dto : RecordAppealDecisionDto} :
    decide client db id dto = .ok db' ↔ ∃ appeal db₁, db.appeals.get? id = some appeal ∧ appeal.isOpen = true ∧
      applyDecision client db id appeal dto = .ok db₁ ∧ db' = closeAppeal db₁ id dto := by
  rw [decide,require_bind_eq_ok]
  constructor
  · rintro ⟨appeal,ha,h⟩
    obtain ⟨ho,h⟩ := ensure_bind_eq_ok.mp h
    obtain ⟨db₁,hdb₁,h⟩ := bind_eq_ok.mp h
    exact ⟨appeal,db₁,ha,by rw [← decidable_iff_isOpen]; exact ho,hdb₁,(pure_eq_ok.mp h).symm⟩
  · rintro ⟨appeal,db₁,ha,ho,hdb₁,rfl⟩
    refine ⟨appeal,ha,ensure_bind_eq_ok.mpr ⟨by rw [decidable_iff_isOpen]; exact ho,?_⟩⟩
    exact bind_eq_ok.mpr ⟨db₁,hdb₁,rfl⟩

/-! ## Decisions -/

theorem closesWith_of_statusOf {db₁ : Records} {amendments : List Amendment} (h : ClosesWith db db₁ appeal amendments)
    (hs : db'.statusOf = db₁.statusOf) : ClosesWith db db' appeal amendments := fun i => (congrFun hs i).trans (h i)

/-- Nothing is to be reinstated where the appeal is not about a sanction. -/
theorem closesWith_none (h : db.appealedSanction appeal = none) (hs : db'.statusOf = db.statusOf) : ClosesWith db db' appeal [] := by
  have hreinstate : ClosesWith db (reinstate db (db.appealedSanction appeal) fun s => s) appeal [] :=
    statusOf_reinstate fun i => amendedStatus_nil_map i
  rw [h] at hreinstate
  exact closesWith_of_statusOf hreinstate hs

theorem openAppeal_closeAppeal {db₁ : Records} (dto : RecordAppealDecisionDto) (h : db₁.appeals = db.appeals) (i : ℕ) :
    (closeAppeal db₁ id dto).openAppeal i = true ↔ OtherOpenAppeal db id i :=
  openAppeal_close (fun _ => rfl) (by rw [closeAppeal,h]) i

theorem closeAppeal_lawful_iff {db₁ : Records} {amendments : List Amendment} (h : ClosesWith db db₁ appeal amendments)
    (happeals : db₁.appeals = db.appeals) (dto : RecordAppealDecisionDto) :
    (Permitted db (closeAppeal db₁ id dto) ∧ AppealedWhileOpen (closeAppeal db₁ id dto)) ↔
      LawfulAmendments db id appeal amendments :=
  closesWith_lawful_iff (closesWith_of_statusOf h rfl) (openAppeal_closeAppeal dto happeals)

theorem overturn_lawful_iff (hdb : AppealedWhileOpen db) (ha : db.appeals.get? id = some appeal) (dto : RecordAppealDecisionDto)
    (reasoning : String) : (Permitted db (closeAppeal (overturn db id appeal (db.appealedSanction appeal) reasoning) id dto) ∧
      AppealedWhileOpen (closeAppeal (overturn db id appeal (db.appealedSanction appeal) reasoning) id dto)) ↔
        ∀ q, db.appealedSanction appeal = some q → q.2.status = .cancelled ∨ isValidSanctionTransition q.2.status .cancelled = true := by
  cases hq : db.appealedSanction appeal with
  | none =>
    refine iff_of_true ?_ fun q h => (by cases h)
    have hcloses : ClosesWith db (overturn db id appeal none reasoning) appeal [] := closesWith_none hq rfl
    exact (closeAppeal_lawful_iff hcloses rfl dto).mpr (lawfulAmendments_nil hdb ha)
  | some q =>
    obtain ⟨hid,hsanction⟩ := appealedSanction_iff.mp hq
    have hstatus : db.statusOf q.1 = some q.2.status := by rw [Records.statusOf,hsanction,Option.map_some]
    have hset : SetsStatus db (closeAppeal (overturn db id appeal (some q) reasoning) id dto) q.1 .cancelled :=
      fun i => statusOf_setSanction (fun _ => rfl) i
    have hopen : AppealedWhileOpen (closeAppeal (overturn db id appeal (some q) reasoning) id dto) := by
      refine hset.appealedWhileOpen (by decide) (fun i hi ho => (openAppeal_closeAppeal dto rfl i).mpr ?_) hdb
      exact otherOpenAppeal_of_ne ha (by rw [hid]; exact fun he => hi (Option.some.inj he).symm) ho
    rw [and_iff_left hopen,hset.permitted_iff hstatus,eq_comm]
    constructor
    · rintro h q' hq'
      obtain rfl := Option.some.inj hq'
      exact h
    · exact fun h => h q rfl

theorem decision_lawful_iff {client : Client} {dto : RecordAppealDecisionDto} {db₁ : Records} (hdb : AppealedWhileOpen db)
    (ha : db.appeals.get? id = some appeal) (h : applyDecision client db id appeal dto = .ok db₁) :
    (Permitted db (closeAppeal db₁ id dto) ∧ AppealedWhileOpen (closeAppeal db₁ id dto)) ↔ LawfulDecision client db id appeal dto := by
  unfold applyDecision at h
  unfold LawfulDecision
  cases hdecision : dto.decision with
  | upheldOriginal =>
    rw [hdecision] at h
    obtain rfl := Except.ok.inj h
    refine iff_of_true ?_ trivial
    have hcloses : ClosesWith db (reinstate db (db.appealedSanction appeal) (decidedOutcome .upheld dto.decisionReasoning)) appeal [] :=
      statusOf_reinstate fun i => amendedStatus_nil_map i
    exact (closeAppeal_lawful_iff hcloses (appeals_reinstate _ _ _) dto).mpr (lawfulAmendments_nil hdb ha)
  | overturned =>
    rw [hdecision] at h
    obtain rfl := Except.ok.inj h
    exact overturn_lawful_iff hdb ha dto _
  | modified =>
    rw [hdecision] at h
    obtain ⟨amended,hamended,h⟩ := bind_eq_ok.mp h
    obtain rfl := pure_eq_ok.mp h
    cases hq : db.appealedSanction appeal with
    | none =>
      rw [hq] at hamended
      obtain ⟨hs,happeals⟩ := applyAmendments_frame hamended
      refine iff_of_true ?_ fun h => (by cases h)
      exact (closeAppeal_lawful_iff (closesWith_none hq (statusOf_congr hs)) happeals dto).mpr (lawfulAmendments_nil hdb ha)
    | some q =>
      have hsome : (db.appealedSanction appeal).isSome = true := by rw [hq]; rfl
      rw [hsome] at hamended
      obtain ⟨happeals,hstatus⟩ := applyAmendments_ok hamended
      have hcloses : ClosesWith db (reinstate amended (db.appealedSanction appeal)
          (decidedOutcome .modifiedAppeal dto.decisionReasoning)) appeal dto.amendments := statusOf_reinstate hstatus
      rw [hq] at hcloses
      rw [closeAppeal_lawful_iff hcloses ((appeals_reinstate _ _ _).trans happeals) dto]
      have haccepted := accepted_of_applyAmendments hamended
      exact ⟨fun h _ _ => h,fun h => h rfl haccepted⟩

theorem decide_lawful_iff {client : Client} {dto : RecordAppealDecisionDto} (hdb : AppealedWhileOpen db) :
    (Permitted db (commandStep client db (.decide id dto)) ∧ AppealedWhileOpen (commandStep client db (.decide id dto))) ↔
      Lawful client db (.decide id dto) := by
  by_cases hok : ∃ db', decide client db id dto = .ok db'
  · obtain ⟨db',hrun⟩ := hok
    rw [commandStep_ok (.decide id dto) hrun]
    obtain ⟨appeal,db₁,ha,ho,hdb₁,rfl⟩ := decide_eq_ok_iff.mp hrun
    rw [decision_lawful_iff hdb ha hdb₁]
    constructor
    · intro h appeal' ha' _
      obtain rfl := Option.some.inj (ha.symm.trans ha')
      exact h
    · exact fun h => h appeal ha ho
  · rw [commandStep_error (.decide id dto) fun db' h => hok ⟨db',h⟩]
    refine iff_of_true ⟨.refl db,hdb⟩ fun appeal ha ho => ?_
    have hrefused : ∀ db₁, applyDecision client db id appeal dto ≠ .ok db₁ :=
      fun db₁ h => hok ⟨_,decide_eq_ok_iff.mpr ⟨appeal,db₁,ha,ho,h,rfl⟩⟩
    unfold applyDecision at hrefused
    unfold LawfulDecision
    cases hdecision : dto.decision with
    | upheldOriginal => trivial
    | overturned =>
      rw [hdecision] at hrefused
      exact absurd rfl (hrefused _)
    | modified =>
      rw [hdecision] at hrefused
      intro hsome haccepted
      obtain ⟨amended,hamended⟩ := applyAmendments_exists haccepted
      refine absurd ?_ (hrefused (reinstate amended (db.appealedSanction appeal)
        (decidedOutcome .modifiedAppeal dto.decisionReasoning)))
      exact bind_eq_ok.mpr ⟨amended,by rw [hsome]; exact hamended,rfl⟩

/-! ## Main theorem -/

theorem commandStep_lawful_iff {client : Client} (hdb : AppealedWhileOpen db) (command : Command) :
    (Permitted db (commandStep client db command) ∧ AppealedWhileOpen (commandStep client db command)) ↔ Lawful client db command := by
  cases command with
  | transitionStatus id newStatus => exact transitionStatus_lawful_iff hdb
  | decide id dto => exact decide_lawful_iff hdb
  | bulkMarkServed sanctionIds =>
    have hserved := servedWhereValid_bulkMarkServed db sanctionIds
    exact iff_of_true ⟨hserved.permitted,hserved.appealedWhileOpen hdb⟩ trivial
  | submit dto =>
    refine iff_of_true ?_ trivial
    cases hrun : submit db dto with
    | ok db' =>
      rw [commandStep_ok (.submit dto) hrun]
      exact submit_lawful hdb hrun
    | error e =>
      rw [commandStep_error (.submit dto) fun db' h => (by cases hrun.symm.trans h)]
      exact ⟨.refl db,hdb⟩
  | withdraw id =>
    refine iff_of_true ?_ trivial
    cases hrun : withdraw db id with
    | ok db' =>
      rw [commandStep_ok (.withdraw id) hrun]
      exact withdraw_lawful hdb hrun
    | error e =>
      rw [commandStep_error (.withdraw id) fun db' h => (by cases hrun.symm.trans h)]
      exact ⟨.refl db,hdb⟩

end

/-- Every change of a status is in the table and a sanction is appealed only while an appeal against it is
open, precisely if that was so at first and every command is lawful when it comes. -/
theorem statusChanges_lawful_iff (client : Client) (db : Records) (commands : List Command) :
    (Guarded (commandStep client) (fun db command => Permitted db (commandStep client db command)) db commands ∧
      ∀ t ∈ trace (commandStep client) db commands, AppealedWhileOpen t) ↔
        AppealedWhileOpen db ∧ Guarded (commandStep client) (Lawful client) db commands :=
  guarded_and_trace_iff fun _ command hdb => commandStep_lawful_iff hdb command

/-- A sanction that has been served is appealed against, and cancelled when the appeal is won. -/
theorem not_statusChanges_lawful : ¬ ∀ (client : Client) (db : Records) (commands : List Command), AppealedWhileOpen db →
    Guarded (commandStep client) (fun db command => Permitted db (commandStep client db command)) db commands ∧
      ∀ t ∈ trace (commandStep client) db commands, AppealedWhileOpen t := by
  intro h
  let day := CivilDate.firstOfMonth 24300
  let incident : Incident := ⟨.active,day,[],"",none,none,.active,none⟩
  let sanction : Sanction := ⟨0,7,.scheduled,day,none,none,none,none,none,.active⟩
  let db : Records := { Records.empty with
    incidents := Table.empty.insert incident
    sanctions := Table.empty.insert sanction }
  let served : Command := .transitionStatus 0 .served
  let appealed : Command := .submit ⟨.sanction,0,some 0,7,"AP-1"⟩
  let won : Command := .decide 0 ⟨.overturned,"Disproportionate",[]⟩
  let client : Client := ⟨false,fun _ _ _ => true⟩
  have hdb : AppealedWhileOpen db := by
    intro id hid
    obtain ⟨s,hs,hstatus⟩ := Option.map_eq_some_iff.mp hid
    rw [Table.get?_insert] at hs
    split at hs
    · rw [← Option.some.inj hs] at hstatus
      cases hstatus
    · cases hs
  obtain ⟨⟨-,-,hpermitted,-⟩,-⟩ := h client db [served,appealed,won] hdb
  rcases hpermitted 0 .served .cancelled rfl rfl with he | hv
  · cases he
  · cases hv

end EduPod.Behaviour
