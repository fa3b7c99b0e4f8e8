import EduPod.Behaviour.LegalHolds
import EduPod.Foundation.Runs

/-! # What legal holds protect

Creating holds and submitting appeals only ever adds protection, and the retention check keeps off what is
held. A release takes away what a basis has in common, and with it the hold that another anchor or appeal
relied on, unless that one has a further hold there.
-/
namespace EduPod.Behaviour
open Fallible Runs

inductive HoldCommand
  | createHold (dto : CreateLegalHoldDto)
  | submit (dto : SubmitAppealDto)
  | withdraw (id : ℕ)
  | releaseHold (holdId : ℕ) (dto : ReleaseLegalHoldDto)
  | retentionCheck (settings : RetentionSettings) (now : CivilDate) (dryRun : Bool)

def HoldCommand.run (db : Records) : HoldCommand → Except Refusal Records
  | .createHold dto => .ok (Behaviour.createHold db dto)
  | .submit dto => Behaviour.submit db dto
  | .withdraw id => Behaviour.withdraw db id
  | .releaseHold holdId dto => Behaviour.releaseHold db holdId dto
  | .retentionCheck settings now dryRun => .ok (Behaviour.retentionCheck db settings now dryRun)

def holdStep (db : Records) (command : HoldCommand) : Records :=
  match command.run db with
  | .ok db' => db'
  | .error _ => db

/-! ## Protection -/

/-- A placement is in force unless its appeal has been closed. -/
def InForce (db : Records) (p : Placement) : Prop :=
  p ∈ db.placements ∧ ∀ id a, p.source = .appeal id → db.appeals.get? id = some a → a.isOpen = true

/-- What a placement in force is about is under an active hold. -/
def Covered (db : Records) : Prop := ∀ p, InForce db p → db.isHeld p.entity = true

def Records.retentionOf (db : Records) (entity : Entity) : Option RetentionStatus :=
  match entity.type with
  | .incident => (db.incidents.get? entity.id).map Incident.retentionStatus
  | .sanction => (db.sanctions.get? entity.id).map Sanction.retentionStatus
  | .intervention => (db.interventions.get? entity.id).map Intervention.retentionStatus
  | _ => none

/-- A hold is released only along with one of the same source. -/
def ReleasesOwn (db db' : Records) (command : HoldCommand) : Prop := ∀ i h h', db.holds.get? i = some h → h.active = true →
  db'.holds.get? i = some h' → h'.active = false → ∃ holdId dto hold, command = .releaseHold holdId dto ∧
    db.holds.get? holdId = some hold ∧ h.source = hold.source

/-- What is to stay under hold is not anonymised. -/
def KeepsProtected (db db' : Records) : Prop := ∀ p, InForce db p → db.retentionOf p.entity ≠ some .anonymised →
  db'.retentionOf p.entity ≠ some .anonymised

def Respects (db : Records) (command : HoldCommand) : Prop :=
  ReleasesOwn db (holdStep db command) command ∧ KeepsProtected db (holdStep db command)

/-! ## Exact condition -/

/-- The holds that a release takes: the one it names, and the active ones with the same basis if it is to take
the linked ones. -/
def Takes (dto : ReleaseLegalHoldDto) (holdId : ℕ) (hold : LegalHold) (i : ℕ) (h : LegalHold) : Prop :=
  i = holdId ∨ ∃ basis, dto.linkedBasis hold = some basis ∧ h.legalBasis = some basis

def Records.activeOn (db : Records) (entity : Entity) (i : ℕ) (h : LegalHold) : Prop :=
  db.holds.get? i = some h ∧ h.entity = entity ∧ h.active = true

/-- What a release takes is of the same source, and where it takes a hold from what another placement is about
there is a further one. -/
def TakesOwn (db : Records) : HoldCommand → Prop
  | .releaseHold holdId dto => ∀ hold, db.holds.get? holdId = some hold → hold.active = true →
    (∀ i h, db.holds.get? i = some h → h.active = true → Takes dto holdId hold i h → h.source = hold.source) ∧
      ∀ p, InForce db p → dto.ends hold p = false → (∃ i h, db.activeOn p.entity i h ∧ Takes dto holdId hold i h) →
        ∃ i h, db.activeOn p.entity i h ∧ ¬ Takes dto holdId hold i h
  | _ => True

/-! ## Adding protection -/

section
variable {db db' db'' : Records} {entity : Entity}

/-- Holds stay as they are, new placements are about what is held, and closed appeals stay closed. -/
structure Extends (db db' : Records) : Prop where
  holds : ∀ i h, db.holds.get? i = some h → db'.holds.get? i = some h
  placements : ∀ p ∈ db'.placements, p ∈ db.placements ∨ db'.isHeld p.entity = true
  appeals : ∀ id a, db.appeals.get? id = some a → a.isOpen = false → ∃ a', db'.appeals.get? id = some a' ∧ a'.isOpen = false

theorem Extends.isHeld (h : Extends db db') (hheld : db.isHeld entity = true) : db'.isHeld entity = true := by
  obtain ⟨i,hold,hi,hentity,hactive⟩ := isHeld_iff.mp hheld
  exact isHeld_iff.mpr ⟨i,hold,h.holds i hold hi,hentity,hactive⟩

theorem Extends.refl (db : Records) : Extends db db := ⟨fun _ _ h => h,fun _ h => .inl h,fun _ a h ho => ⟨a,h,ho⟩⟩

theorem Extends.trans (h : Extends db db') (h' : Extends db' db'') : Extends db db'' := by
  refine ⟨fun i hold hi => h'.holds i hold (h.holds i hold hi),fun p hp => ?_,fun id a ha ho => ?_⟩
  · rcases h'.placements p hp with hp | hheld
    · exact (h.placements p hp).imp_right h'.isHeld
    · exact .inr hheld
  · obtain ⟨a',ha',ho'⟩ := h.appeals id a ha ho
    exact h'.appeals id a' ha' ho'

theorem Extends.inForce (h : Extends db db') {p : Placement} (hp : InForce db' p) (hmem : p ∈ db.placements) : InForce db p := by
  refine ⟨hmem,fun id a hsource ha => ?_⟩
  cases ho : a.isOpen with
  | true => rfl
  | false =>
    obtain ⟨a',ha',ho'⟩ := h.appeals id a ha ho
    exact ho'.symm.trans (hp.2 id a' hsource ha')

theorem Extends.covered (h : Extends db db') (hdb : Covered db) : Covered db' := by
  intro p hp
  rcases h.placements p hp.1 with hmem | hheld
  · exact h.isHeld (hdb p (h.inForce hp hmem))
  · exact hheld

theorem Extends.releasesOwn (h : Extends db db') (command : HoldCommand) : ReleasesOwn db db' command := by
  intro i hold hold' hi hactive hi' hreleased
  obtain rfl := Option.some.inj ((h.holds i hold hi).symm.trans hi')
  rw [hactive] at hreleased
  cases hreleased

theorem extends_of_same (hholds : db'.holds = db.holds) (hplacements : db'.placements = db.placements)
    (happeals : db'.appeals = db.appeals) : Extends db db' := by
  refine ⟨fun i h hi => ?_,fun p hp => ?_,fun id a ha ho => ?_⟩
  · rwa [hholds]
  · rw [hplacements] at hp
    exact .inl hp
  · exact ⟨a,by rw [happeals]; exact ha,ho⟩

theorem isHeld_addHold (db : Records) (entity : Entity) (reason : String) (legalBasis : Option String) (source : HoldSource) :
    (db.addHold entity reason legalBasis source).isHeld entity = true :=
  isHeld_iff.mpr ⟨db.holds.next,_,by rw [Records.addHold,Table.get?_insert,if_pos rfl],rfl,rfl⟩

theorem extends_addHold (db : Records) (entity : Entity) (reason : String) (legalBasis : Option String) (source : HoldSource) :
    Extends db (db.addHold entity reason legalBasis source) := by
  refine ⟨fun i h hi => ?_,fun _ hp => .inl hp,fun id a ha ho => ⟨a,ha,ho⟩⟩
  rw [Records.addHold,Table.get?_insert,if_neg (Table.lt_next_of_get? hi).ne]
  exact hi

/-- Placing an entity and seeing to a hold on it. -/
theorem extends_place {source : HoldSource} (h : Extends (db.place source entity) db') (hheld : db'.isHeld entity = true) :
    Extends db db' := by
  refine ⟨fun i hold hi => h.holds i hold hi,fun p hp => ?_,fun id a ha ho => h.appeals id a ha ho⟩
  rcases h.placements p hp with hp | hp
  · rcases List.mem_append.mp hp with hp | hp
    · exact .inl hp
    · rw [List.mem_singleton.mp hp]
      exact .inr hheld
  · exact .inr hp

/-- Holds are set without a change to the records they are about. -/
def SameRetention (db db' : Records) : Prop := db'.retentionOf = db.retentionOf

theorem sameRetention_of_tables (hi : db'.incidents = db.incidents) (hs : db'.sanctions = db.sanctions)
    (hv : db'.interventions = db.interventions) : SameRetention db db' := by
  funext entity
  unfold Records.retentionOf
  rw [hi,hs,hv]

theorem SameRetention.keepsProtected (h : SameRetention db db') : KeepsProtected db db' := by
  intro p _ hne
  rwa [h]

/-! ## Creating a hold -/

theorem isHeld_of_alreadyHeld {dto : CreateLegalHoldDto} (h : db.alreadyHeld dto entity = true) : db.isHeld entity = true := by
  unfold Records.alreadyHeld at h
  cases hbasis : givenBasis dto.legalBasis with
  | none =>
    rw [hbasis] at h
    cases h
  | some basis =>
    rw [hbasis] at h
    obtain ⟨q,hrow,hq⟩ := List.any_eq_true.mp h
    simp only [Bool.and_eq_true,decide_eq_true_eq] at hq
    exact isHeld_iff.mpr ⟨q.1,q.2,Table.get?_of_row hrow,hq.1.1,hq.2⟩

theorem extends_setAnchorHold (db : Records) (dto : CreateLegalHoldDto) : Extends db (setAnchorHold db dto) := by
  have hcounted : Extends db { db with anchors := db.anchors + 1 } := extends_of_same rfl rfl rfl
  exact hcounted.trans (extends_place (extends_addHold _ _ _ _ _) (isHeld_addHold _ _ _ _ _))

theorem extends_propagateHold (number : ℕ) (dto : CreateLegalHoldDto) (db : Records) (entity : Entity) :
    Extends db (propagateHold number dto db entity) := by
  unfold propagateHold
  split
  · exact .refl db
  · dsimp only
    split
    · rename_i hheld
      exact extends_place (.refl _) (isHeld_of_alreadyHeld hheld)
    · exact extends_place (extends_addHold _ _ _ _ _) (isHeld_addHold _ _ _ _ _)

theorem extends_foldl {α : Type} {f : Records → α → Records} (hf : ∀ db a, Extends db (f db a)) (as : List α) (db : Records) :
    Extends db (as.foldl f db) := by
  induction as generalizing db with
  | nil => exact .refl db
  | cons a as ih => exact (hf db a).trans (ih (f db a))

theorem extends_createHold (db : Records) (dto : CreateLegalHoldDto) : Extends db (createHold db dto) := by
  unfold createHold
  split
  · exact .refl db
  · split
    · exact (extends_setAnchorHold db dto).trans (extends_foldl (extends_propagateHold db.anchors dto) _ _)
    · exact extends_setAnchorHold db dto

theorem sameRetention_foldl {α : Type} {f : Records → α → Records} (hf : ∀ db a, SameRetention db (f db a)) (as : List α)
    (db : Records) : SameRetention db (as.foldl f db) := by
  induction as generalizing db with
  | nil => rfl
  | cons a as ih => exact (ih (f db a)).trans (hf db a)

theorem sameRetention_propagateHold (number : ℕ) (dto : CreateLegalHoldDto) (db : Records) (entity : Entity) :
    SameRetention db (propagateHold number dto db entity) := by
  unfold propagateHold
  split
  · rfl
  · dsimp only
    split <;> exact sameRetention_of_tables rfl rfl rfl

theorem sameRetention_createHold (db : Records) (dto : CreateLegalHoldDto) : SameRetention db (createHold db dto) := by
  unfold createHold
  split
  · rfl
  · split
    · exact sameRetention_foldl (sameRetention_propagateHold db.anchors dto) _ (setAnchorHold db dto)
    · rfl

/-! ## Appeals -/

theorem extends_setAppealHold (appealNumber : String) (appealId : ℕ) (db : Records) (entity : Entity) :
    Extends db (setAppealHold appealNumber appealId db entity) := by
  dsimp only [setAppealHold]
  split
  · rename_i hheld
    exact extends_place (.refl _) hheld
  · exact extends_place (extends_addHold _ _ _ _ _) (isHeld_addHold _ _ _ _ _)

theorem extends_appealSanction (db : Records) (sanctionId : Option ℕ) (sanction : Option Sanction) :
    Extends db (appealSanction db sanctionId sanction) := by
  unfold appealSanction
  split
  · cases sanctionId <;> exact extends_of_same rfl rfl rfl
  · exact .refl db

theorem extends_linkExclusionCase (db : Records) (appealId : ℕ) (sanctionId : Option ℕ) :
    Extends db (linkExclusionCase db appealId sanctionId) := by
  unfold linkExclusionCase
  split
  · exact .refl db
  · split <;> exact extends_of_same rfl rfl rfl

theorem extends_insertAppeal (db : Records) (a : Appeal) : Extends db { db with appeals := db.appeals.insert a } := by
  refine ⟨fun _ _ h => h,fun _ hp => .inl hp,fun id b hb ho => ⟨b,?_,ho⟩⟩
  rw [Table.get?_insert,if_neg (Table.lt_next_of_get? hb).ne]
  exact hb

theorem extends_submit {dto : SubmitAppealDto} (h : submit db dto = .ok db') : Extends db db' := by
  obtain ⟨-,h⟩ := ensure_bind_eq_ok.mp h
  obtain ⟨_,-,h⟩ := require_bind_eq_ok.mp h
  obtain ⟨sanction,-,h⟩ := bind_eq_ok.mp h
  obtain rfl := pure_eq_ok.mp h
  have happealed := (extends_insertAppeal db (submittedAppeal dto)).trans (extends_appealSanction _ dto.sanctionId sanction)
  have hheld := happealed.trans (extends_foldl (extends_setAppealHold dto.appealNumber db.appeals.next)
    (appealEntities dto db.appeals.next) _)
  exact (hheld.trans (extends_linkExclusionCase _ db.appeals.next dto.sanctionId)).trans (extends_of_same rfl rfl rfl)

theorem sameRetention_setSanction {id : ℕ} {g : Sanction → Sanction} (hg : ∀ s, (g s).retentionStatus = s.retentionStatus) :
    SameRetention db (db.setSanction id g) := by
  funext entity
  unfold Records.retentionOf
  cases entity.type with
  | sanction =>
    simp only [Records.setSanction,Table.get?_modify]
    split
    · cases db.sanctions.get? entity.id with
      | none => rfl
      | some s => exact congrArg some (hg s)
    · rfl
  | _ => rfl

theorem sameRetention_appealSanction (db : Records) (sanctionId : Option ℕ) (sanction : Option Sanction) :
    SameRetention db (appealSanction db sanctionId sanction) := by
  unfold appealSanction
  split
  · cases sanctionId with
    | none => rfl
    | some id => exact sameRetention_setSanction fun _ => rfl
  · rfl

theorem sameRetention_setAppealHold (appealNumber : String) (appealId : ℕ) (db : Records) (entity : Entity) :
    SameRetention db (setAppealHold appealNumber appealId db entity) := by
  dsimp only [setAppealHold]
  split <;> exact sameRetention_of_tables rfl rfl rfl

theorem sameRetention_linkExclusionCase (db : Records) (appealId : ℕ) (sanctionId : Option ℕ) :
    SameRetention db (linkExclusionCase db appealId sanctionId) := by
  unfold linkExclusionCase
  split
  · rfl
  · split <;> exact sameRetention_of_tables rfl rfl rfl

theorem sameRetention_submit {dto : SubmitAppealDto} (h : submit db dto = .ok db') : SameRetention db db' := by
  obtain ⟨-,h⟩ := ensure_bind_eq_ok.mp h
  obtain ⟨_,-,h⟩ := require_bind_eq_ok.mp h
  obtain ⟨sanction,-,h⟩ := bind_eq_ok.mp h
  obtain rfl := pure_eq_ok.mp h
  have happealed := sameRetention_appealSanction { db with appeals := db.appeals.insert (submittedAppeal dto) } dto.sanctionId sanction
  have hheld := sameRetention_foldl (sameRetention_setAppealHold dto.appealNumber db.appeals.next)
    (appealEntities dto db.appeals.next) (appealSanction { db with appeals := db.appeals.insert (submittedAppeal dto) }
      dto.sanctionId sanction)
  exact ((sameRetention_linkExclusionCase _ db.appeals.next dto.sanctionId).trans hheld).trans happealed

theorem extends_withdrawAppeal (db : Records) (id : ℕ) :
    Extends db { db with appeals := db.appeals.modify id fun a => { a with status := .withdrawnAppeal } } := by
  refine ⟨fun _ _ h => h,fun _ hp => .inl hp,fun i a ha ho => ?_⟩
  by_cases hi : i = id
  · subst hi
    exact ⟨_,Table.get?_modify_self ha _,rfl⟩
  · exact ⟨a,by rw [Table.get?_modify_ne _ hi]; exact ha,ho⟩

theorem withdraw_cases {id : ℕ} (h : withdraw db id = .ok db') : Extends db db' ∧ SameRetention db db' := by
  obtain ⟨appeal,-,h⟩ := require_bind_eq_ok.mp h
  obtain ⟨-,h⟩ := ensure_bind_eq_ok.mp h
  obtain rfl := pure_eq_ok.mp h
  have hwithdrawn := extends_withdrawAppeal db id
  unfold reinstate
  split
  · exact ⟨hwithdrawn,rfl⟩
  · split
    · exact ⟨hwithdrawn.trans (extends_of_same rfl rfl rfl),sameRetention_setSanction fun _ => rfl⟩
    · exact ⟨hwithdrawn,rfl⟩

/-! ## Retention -/

/-- The retention check leaves holds, placements and appeals alone, and what is held it does not anonymise. -/
structure Retains (db db' : Records) : Prop where
  holds : db'.holds = db.holds
  placements : db'.placements = db.placements
  appeals : db'.appeals = db.appeals
  held : ∀ entity, db.isHeld entity = true → db.retentionOf entity ≠ some .anonymised → db'.retentionOf entity ≠ some .anonymised

theorem isHeld_congr (h : db'.holds = db.holds) (entity : Entity) : db'.isHeld entity = db.isHeld entity := by
  rw [Records.isHeld,Records.isHeld,h]

theorem Retains.refl (db : Records) : Retains db db := ⟨rfl,rfl,rfl,fun _ _ h => h⟩

theorem Retains.trans (h : Retains db db') (h' : Retains db' db'') : Retains db db'' where
  holds := h'.holds.trans h.holds
  placements := h'.placements.trans h.placements
  appeals := h'.appeals.trans h.appeals
  held entity hheld hne := h'.held entity ((isHeld_congr h.holds entity).trans hheld) (h.held entity hheld hne)

theorem retains_foldl {α : Type} {f : Records → α → Records} (hf : ∀ db a, Retains db (f db a)) (as : List α) (db : Records) :
    Retains db (as.foldl f db) := by
  induction as generalizing db with
  | nil => exact .refl db
  | cons a as ih => exact (hf db a).trans (ih (f db a))

/-- Nothing is anonymised when it is archived. -/
theorem map_archive_ne {α : Type} {t : Table α} {g : ℕ → α → α} {r : α → RetentionStatus}
    (hg : ∀ i a, r (g i a) = r a ∨ r (g i a) = .archived) {id : ℕ} (h : (t.get? id).map r ≠ some .anonymised) :
    ((t.mapRows g).get? id).map r ≠ some .anonymised := by
  rw [Table.get?_mapRows]
  cases ha : t.get? id with
  | none => exact fun he => (by cases he)
  | some a =>
    rw [ha] at h
    simp only [Option.map_some] at h ⊢
    rcases hg id a with hkeep | harchived
    · rwa [hkeep]
    · rw [harchived]
      exact fun he => (by cases he)

theorem retains_archiveEntitiesForStudent (settings : RetentionSettings) (now : CivilDate) (db : Records) (studentId : ℕ)
    (leftDate : CivilDate) : Retains db (archiveEntitiesForStudent settings now db studentId leftDate) := by
  dsimp only [archiveEntitiesForStudent]
  split
  · exact .refl db
  · refine ⟨rfl,rfl,rfl,fun entity _ hne => ?_⟩
    unfold Records.retentionOf at hne ⊢
    cases htype : entity.type with
    | incident =>
      rw [htype] at hne
      refine map_archive_ne (fun _ i => ?_) hne
      unfold archiveIncident
      split
      · exact .inr rfl
      · exact .inl rfl
    | sanction =>
      rw [htype] at hne
      dsimp only
      split
      · refine map_archive_ne (fun _ s => ?_) hne
        unfold archiveSanction
        split
        · exact .inr rfl
        · exact .inl rfl
      · exact hne
    | intervention =>
      rw [htype] at hne
      dsimp only
      split
      · refine map_archive_ne (fun _ i => ?_) hne
        unfold archiveIntervention
        split
        · exact .inr rfl
        · exact .inl rfl
      · exact hne
    | _ => exact fun he => (by cases he)

theorem retains_archiveStudent (settings : RetentionSettings) (now : CivilDate) (db : Records) (q : ℕ × Student) :
    Retains db (archiveStudent settings now db q) := by
  unfold archiveStudent
  split
  · cases q.2.exitDate with
    | none => exact .refl db
    | some leftDate => exact retains_archiveEntitiesForStudent settings now db q.1 leftDate
  · exact .refl db

/-- What is held is not what is about to be anonymised. -/
theorem id_ne_of_isHeld {type : HoldEntityType} {id : ℕ} (hnot : db.isHeld ⟨type,id⟩ = false) (hheld : db.isHeld entity = true)
    (htype : entity.type = type) : entity.id ≠ id := by
  rintro rfl
  subst htype
  exact Bool.false_ne_true (hnot.symm.trans hheld)

theorem retains_anonymiseIncident (db : Records) (q : ℕ × Incident) : Retains db (anonymiseIncident db q) := by
  unfold anonymiseIncident
  split
  · exact .refl db
  · rename_i hcond
    simp only [Bool.or_eq_true,not_or,Bool.not_eq_true] at hcond
    refine ⟨rfl,rfl,rfl,fun entity hheld hne => ?_⟩
    unfold Records.retentionOf at hne ⊢
    cases htype : entity.type with
    | incident =>
      rw [htype] at hne
      dsimp only
      rwa [Table.get?_modify_ne _ (id_ne_of_isHeld hcond.2 hheld htype)]
    | _ =>
      rw [htype] at hne
      exact hne

theorem retains_anonymiseSanction (db : Records) (q : ℕ × Sanction) : Retains db (anonymiseSanction db q) := by
  unfold anonymiseSanction
  split
  · exact .refl db
  · rename_i hnot
    refine ⟨rfl,rfl,rfl,fun entity hheld hne => ?_⟩
    unfold Records.retentionOf at hne ⊢
    cases htype : entity.type with
    | sanction =>
      rw [htype] at hne
      dsimp only
      rwa [Table.get?_modify_ne _ (id_ne_of_isHeld (Bool.not_eq_true _ ▸ hnot) hheld htype)]
    | _ =>
      rw [htype] at hne
      exact hne

theorem retains_anonymiseIntervention (db : Records) (q : ℕ × Intervention) : Retains db (anonymiseIntervention db q) := by
  unfold anonymiseIntervention
  split
  · exact .refl db
  · rename_i hnot
    refine ⟨rfl,rfl,rfl,fun entity hheld hne => ?_⟩
    unfold Records.retentionOf at hne ⊢
    cases htype : entity.type with
    | intervention =>
      rw [htype] at hne
      dsimp only
      rwa [Table.get?_modify_ne _ (id_ne_of_isHeld (Bool.not_eq_true _ ▸ hnot) hheld htype)]
    | _ =>
      rw [htype] at hne
      exact hne

theorem retains_retentionCheck (db : Records) (settings : RetentionSettings) (now : CivilDate) (dryRun : Bool) :
    Retains db (retentionCheck db settings now dryRun) := by
  unfold retentionCheck
  split
  · exact .refl db
  · refine (retains_foldl (retains_archiveStudent settings now) db.students.rows db).trans ?_
    unfold anonymiseArchivedEntities
    exact ((retains_foldl retains_anonymiseIncident _ _).trans (retains_foldl retains_anonymiseSanction _ _)).trans
      (retains_foldl retains_anonymiseIntervention _ _)

theorem Retains.toExtends (h : Retains db db') : Extends db db' := extends_of_same h.holds h.placements h.appeals

theorem Retains.keepsProtected (h : Retains db db') (hdb : Covered db) : KeepsProtected db db' :=
  fun p hp hne => h.held p.entity (hdb p hp) hne

/-! ## Releasing -/

/-- What a release does to the holds: it keeps those active that it does not take. -/
structure TakesHolds (db db' : Records) (dto : ReleaseLegalHoldDto) (holdId : ℕ) (hold : LegalHold) : Prop where
  rows : ∀ i h, db.holds.get? i = some h → ∃ h', db'.holds.get? i = some h' ∧ h'.entity = h.entity ∧
    (h'.active = true ↔ h.active = true ∧ ¬ Takes dto holdId hold i h)
  none : ∀ i, db.holds.get? i = none → db'.holds.get? i = none

theorem get?_releaseLinkedHolds (db : Records) {holdId : ℕ} {reason : String} {basis : Option String} {i : ℕ} {h : LegalHold}
    (hi : db.holds.get? i = some h) : ∃ h', (releaseLinkedHolds db holdId reason basis).holds.get? i = some h' ∧
      h'.entity = h.entity ∧ (h'.active = true ↔ h.active = true ∧ ¬ (i ≠ holdId ∧ ∃ b, basis = some b ∧ h.legalBasis = some b)) := by
  cases basis with
  | none => exact ⟨h,hi,rfl,by simp⟩
  | some b =>
    refine ⟨_,by rw [releaseLinkedHolds,Table.get?_mapRows,hi]; rfl,?_⟩
    dsimp only
    split
    · rename_i hc
      refine ⟨rfl,?_⟩
      simp [LegalHold.release,hc.1,hc.2.2]
    · rename_i hc
      refine ⟨rfl,?_⟩
      simp only [Option.some.injEq,exists_eq_left',iff_self_and]
      exact fun hactive hnot => hc ⟨hnot.2,hactive,hnot.1⟩

theorem get?_releaseLinkedHolds_none (db : Records) {holdId : ℕ} {reason : String} {basis : Option String} {i : ℕ}
    (hi : db.holds.get? i = none) : (releaseLinkedHolds db holdId reason basis).holds.get? i = none := by
  cases basis with
  | none => exact hi
  | some b => rw [releaseLinkedHolds,Table.get?_mapRows,hi,Option.map_none]

theorem takesHolds_release {holdId : ℕ} (dto : ReleaseLegalHoldDto) (hold : LegalHold) (placements : List Placement) :
    TakesHolds db (releaseLinkedHolds { db with holds := db.holds.modify holdId (LegalHold.release dto.releaseReason), placements }
      holdId dto.releaseReason (dto.linkedBasis hold)) dto holdId hold := by
  let released : Records := { db with holds := db.holds.modify holdId (LegalHold.release dto.releaseReason), placements }
  refine ⟨fun i g hi => ?_,fun i hi => get?_releaseLinkedHolds_none released ?_⟩
  · by_cases hid : i = holdId
    · have hrow : released.holds.get? i = some (g.release dto.releaseReason) := by
        subst hid
        exact Table.get?_modify_self hi _
      obtain ⟨g',hg',hentity,hiff⟩ := get?_releaseLinkedHolds released hrow
      refine ⟨g',hg',hentity,hiff.trans ?_⟩
      simp [LegalHold.release,Takes,hid]
    · have hrow : released.holds.get? i = some g := (Table.get?_modify_ne db.holds hid _).trans hi
      obtain ⟨g',hg',hentity,hiff⟩ := get?_releaseLinkedHolds released hrow
      refine ⟨g',hg',hentity,hiff.trans ?_⟩
      simp [Takes,hid]
  · change (db.holds.modify holdId (LegalHold.release dto.releaseReason)).get? i = none
    rw [Table.get?_modify,hi]
    split <;> rfl

theorem releaseHold_cases {holdId : ℕ} {dto : ReleaseLegalHoldDto} (h : releaseHold db holdId dto = .ok db') :
    ∃ hold, db.holds.get? holdId = some hold ∧ ((hold.active = false ∧ db' = db) ∨ (hold.active = true ∧
      db'.placements = db.placements.filter (fun p => !dto.ends hold p) ∧ db'.appeals = db.appeals ∧ SameRetention db db' ∧
        TakesHolds db db' dto holdId hold)) := by
  obtain ⟨hold,hhold,h⟩ := require_bind_eq_ok.mp h
  refine ⟨hold,hhold,?_⟩
  split at h
  · rename_i hactive
    obtain rfl := pure_eq_ok.mp h
    refine .inr ⟨hactive,?_,?_,?_,takesHolds_release dto hold _⟩
    · cases dto.linkedBasis hold <;> rfl
    · cases dto.linkedBasis hold <;> rfl
    · cases dto.linkedBasis hold <;> rfl
  · rename_i hactive
    exact .inl ⟨Bool.not_eq_true _ ▸ hactive,(pure_eq_ok.mp h).symm⟩

theorem releaseHold_exists {holdId : ℕ} (dto : ReleaseLegalHoldDto) {hold : LegalHold} (h : db.holds.get? holdId = some hold) :
    ∃ db', releaseHold db holdId dto = .ok db' := by
  unfold releaseHold
  rw [h]
  by_cases hactive : hold.active = true
  · exact ⟨_,if_pos hactive⟩
  · exact ⟨db,if_neg hactive⟩

theorem inForce_release {dto : ReleaseLegalHoldDto} {hold : LegalHold}
    (hplacements : db'.placements = db.placements.filter fun p => !dto.ends hold p) (happeals : db'.appeals = db.appeals)
    {p : Placement} : InForce db' p ↔ InForce db p ∧ dto.ends hold p = false := by
  unfold InForce
  rw [hplacements,happeals,List.mem_filter]
  simp only [Bool.not_eq_true']
  exact and_right_comm

theorem isHeld_release {dto : ReleaseLegalHoldDto} {holdId : ℕ} {hold : LegalHold} (h : TakesHolds db db' dto holdId hold) :
    db'.isHeld entity = true ↔ ∃ i h, db.activeOn entity i h ∧ ¬ Takes dto holdId hold i h := by
  rw [isHeld_iff]
  constructor
  · rintro ⟨i,g',hg',hentity,hactive⟩
    cases hi : db.holds.get? i with
    | none => cases (h.none i hi).symm.trans hg'
    | some g =>
      obtain ⟨g₁,hg₁,hentity₁,hiff⟩ := h.rows i g hi
      obtain rfl := Option.some.inj (hg₁.symm.trans hg')
      exact ⟨i,g,⟨hi,hentity₁.symm.trans hentity,(hiff.mp hactive).1⟩,(hiff.mp hactive).2⟩
  · rintro ⟨i,g,⟨hi,hentity,hactive⟩,hnot⟩
    obtain ⟨g',hg',hentity',hiff⟩ := h.rows i g hi
    exact ⟨i,g',hg',hentity'.trans hentity,hiff.mpr ⟨hactive,hnot⟩⟩

theorem covered_release_iff {dto : ReleaseLegalHoldDto} {holdId : ℕ} {hold : LegalHold} (hdb : Covered db)
    (h : TakesHolds db db' dto holdId hold) (hplacements : db'.placements = db.placements.filter fun p => !dto.ends hold p)
    (happeals : db'.appeals = db.appeals) : Covered db' ↔ ∀ p, InForce db p → dto.ends hold p = false →
      (∃ i h, db.activeOn p.entity i h ∧ Takes dto holdId hold i h) → ∃ i h, db.activeOn p.entity i h ∧ ¬ Takes dto holdId hold i h := by
  constructor
  · intro hcovered p hp hends _
    exact (isHeld_release h).mp (hcovered p ((inForce_release hplacements happeals).mpr ⟨hp,hends⟩))
  · intro hfurther p hp
    obtain ⟨hp,hends⟩ := (inForce_release hplacements happeals).mp hp
    refine (isHeld_release h).mpr ?_
    by_cases htaken : ∃ i h, db.activeOn p.entity i h ∧ Takes dto holdId hold i h
    · exact hfurther p hp hends htaken
    · obtain ⟨i,g,hi,hentity,hactive⟩ := isHeld_iff.mp (hdb p hp)
      exact ⟨i,g,⟨hi,hentity,hactive⟩,fun ht => htaken ⟨i,g,⟨hi,hentity,hactive⟩,ht⟩⟩

theorem releasesOwn_iff {dto : ReleaseLegalHoldDto} {holdId : ℕ} {hold : LegalHold} (hhold : db.holds.get? holdId = some hold)
    (h : TakesHolds db db' dto holdId hold) : ReleasesOwn db db' (.releaseHold holdId dto) ↔
      ∀ i h, db.holds.get? i = some h → h.active = true → Takes dto holdId hold i h → h.source = hold.source := by
  constructor
  · intro hown i g hi hactive htakes
    obtain ⟨g',hg',-,hiff⟩ := h.rows i g hi
    have hreleased : g'.active = false := by
      cases ha : g'.active with
      | false => rfl
      | true => exact absurd htakes (hiff.mp ha).2
    obtain ⟨holdId',dto',hold',he,hhold',hsource⟩ := hown i g g' hi hactive hg' hreleased
    cases he
    obtain rfl := Option.some.inj (hhold.symm.trans hhold')
    exact hsource
  · intro hsame i g g' hi hactive hg' hreleased
    obtain ⟨g₁,hg₁,-,hiff⟩ := h.rows i g hi
    obtain rfl := Option.some.inj (hg₁.symm.trans hg')
    refine ⟨holdId,dto,hold,rfl,hhold,hsame i g hi hactive ?_⟩
    by_contra hnot
    exact Bool.false_ne_true (hreleased.symm.trans (hiff.mpr ⟨hactive,hnot⟩))

theorem releaseHold_respects_iff {holdId : ℕ} {dto : ReleaseLegalHoldDto} (hdb : Covered db) :
    (Respects db (.releaseHold holdId dto) ∧ Covered (holdStep db (.releaseHold holdId dto))) ↔ TakesOwn db (.releaseHold holdId dto) := by
  have hsame : holdStep db (.releaseHold holdId dto) = db → Respects db (.releaseHold holdId dto) ∧
      Covered (holdStep db (.releaseHold holdId dto)) := by
    intro he
    rw [Respects,he]
    exact ⟨⟨(Extends.refl db).releasesOwn _,fun _ _ hne => hne⟩,hdb⟩
  cases hhold : db.holds.get? holdId with
  | none =>
    refine iff_of_true (hsame ?_) fun hold hsome => (by cases hhold.symm.trans hsome)
    simp only [holdStep,HoldCommand.run,releaseHold,hhold]
    rfl
  | some hold =>
    obtain ⟨db',hrun⟩ := releaseHold_exists dto hhold
    have hstep : holdStep db (.releaseHold holdId dto) = db' := by simp only [holdStep,HoldCommand.run,hrun]
    obtain ⟨hold',hhold',hcases⟩ := releaseHold_cases hrun
    obtain rfl := Option.some.inj (hhold.symm.trans hhold')
    rcases hcases with ⟨hinactive,rfl⟩ | ⟨hactive,hplacements,happeals,hretention,htakes⟩
    · refine iff_of_true (hsame hstep) fun hold' hsome ha => ?_
      obtain rfl := Option.some.inj (hhold.symm.trans hsome)
      exact absurd (hinactive.symm.trans ha) Bool.false_ne_true
    · rw [Respects,hstep,and_iff_left hretention.keepsProtected,releasesOwn_iff hhold htakes,
        covered_release_iff hdb htakes hplacements happeals]
      constructor
      · rintro h hold' hsome -
        obtain rfl := Option.some.inj (hhold.symm.trans hsome)
        exact h
      · exact fun h => h hold hhold hactive

/-! ## Main theorem -/

theorem Extends.respects {command : HoldCommand} (h : Extends db (holdStep db command)) (hk : KeepsProtected db (holdStep db command))
    (hdb : Covered db) : Respects db command ∧ Covered (holdStep db command) := ⟨⟨h.releasesOwn command,hk⟩,h.covered hdb⟩

theorem holdStep_respects_iff (hdb : Covered db) (command : HoldCommand) :
    (Respects db command ∧ Covered (holdStep db command)) ↔ TakesOwn db command := by
  cases command with
  | createHold dto =>
    exact iff_of_true ((extends_createHold db dto).respects (sameRetention_createHold db dto).keepsProtected hdb) trivial
  | submit dto =>
    refine iff_of_true (Extends.respects ?_ ?_ hdb) trivial
    all_goals
      simp only [holdStep,HoldCommand.run]
      cases hrun : submit db dto
    · exact .refl db
    · exact extends_submit hrun
    · exact fun _ _ hne => hne
    · exact (sameRetention_submit hrun).keepsProtected
  | withdraw id =>
    refine iff_of_true (Extends.respects ?_ ?_ hdb) trivial
    all_goals
      simp only [holdStep,HoldCommand.run]
      cases hrun : withdraw db id
    · exact .refl db
    · exact (withdraw_cases hrun).1
    · exact fun _ _ hne => hne
    · exact (withdraw_cases hrun).2.keepsProtected
  | releaseHold holdId dto => exact releaseHold_respects_iff hdb
  | retentionCheck settings now dryRun =>
    have hretains := retains_retentionCheck db settings now dryRun
    exact iff_of_true (Extends.respects hretains.toExtends (hretains.keepsProtected hdb) hdb) trivial

end

/-- A release takes holds of one source only and what is to stay under hold stays so and is not anonymised,
precisely if that was so at first and every release takes only its own. -/
theorem holds_protect_iff (db : Records) (commands : List HoldCommand) :
    (Guarded holdStep Respects db commands ∧ ∀ t ∈ trace holdStep db commands, Covered t) ↔
      Covered db ∧ Guarded holdStep TakesOwn db commands :=
  guarded_and_trace_iff fun _ command hdb => holdStep_respects_iff hdb command

/-- Two appeals about two incidents have one legal basis. When the holds of the first are released, so are
those of the second, and its incident is anonymised. -/
theorem not_holds_protect : ¬ ∀ (db : Records) (commands : List HoldCommand), Covered db →
    Guarded holdStep Respects db commands ∧ ∀ t ∈ trace holdStep db commands, Covered t := by
  intro h
  let day := CivilDate.firstOfMonth 24300
  let incident : Incident := ⟨.resolved,day,[],"",none,none,.archived,some day⟩
  let db : Records := { Records.empty with incidents := (Table.empty.insert incident).insert incident }
  let first : HoldCommand := .submit ⟨.incident,0,none,7,"AP-1"⟩
  let second : HoldCommand := .submit ⟨.incident,1,none,8,"AP-2"⟩
  let release : HoldCommand := .releaseHold 0 ⟨"Settled",true⟩
  let check : HoldCommand := .retentionCheck ⟨7,7,7⟩ day false
  have hdb : Covered db := fun p hp => (by cases hp.1)
  obtain ⟨⟨-,-,-,hcheck,-⟩,-⟩ := h db [first,second,release,check] hdb
  have hforce : InForce (holdStep (holdStep (holdStep db first) second) release) ⟨.appeal 1,⟨.incident,1⟩⟩ := by
    refine ⟨by decide +kernel,?_⟩
    rintro id a hsource ha
    cases hsource
    have hopen : ((holdStep (holdStep (holdStep db first) second) release).appeals.get? 1).all Appeal.isOpen = true := by
      decide +kernel
    rw [ha] at hopen
    exact hopen
  exact hcheck.2 _ hforce (by decide +kernel) (by decide +kernel)

end EduPod.Behaviour
