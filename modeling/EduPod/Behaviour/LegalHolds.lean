import EduPod.Behaviour.Appeals

/-! # Legal holds and retention

A hold is set on an entity and spreads to what is linked to it. Holds know of each other by their legal
basis only. The retention check archives what is past its time and anonymises what is archived, unless it
is under an active hold.
-/
namespace EduPod.Behaviour
open Fallible

structure CreateLegalHoldDto where
  entity : Entity
  holdReason : String
  legalBasis : Option String
  propagate : Bool

structure ReleaseLegalHoldDto where
  releaseReason : String
  releaseLinked : Bool

def HoldEntityType.key : HoldEntityType → String
  | .incident => "incident"
  | .sanction => "sanction"
  | .intervention => "intervention"
  | .appeal => "appeal"
  | .exclusionCase => "exclusion_case"
  | .task => "task"
  | .attachment => "attachment"

/-- A legal basis that is given and not empty. -/
def givenBasis (legalBasis : Option String) : Option String := legalBasis.filter fun b => b ≠ ""

/-! ## Creating a hold -/

def Records.heldWithBasis (db : Records) (entity : Entity) (basis : String) : Bool :=
  db.holds.rows.any fun h => h.2.entity = entity && h.2.legalBasis = some basis && h.2.active

/-- The idempotency check: there is an active hold with this basis, if a basis is given. -/
def Records.alreadyHeld (db : Records) (dto : CreateLegalHoldDto) (entity : Entity) : Bool :=
  (givenBasis dto.legalBasis).any (db.heldWithBasis entity)

def collectIncidentLinkedEntities (db : Records) (incidentId : ℕ) : List Entity :=
  ((db.sanctions.select fun s => s.incidentId = incidentId).map fun s => ⟨.sanction,s.1⟩) ++
    ((db.tasks.select fun t => t.entityType = "incident" && t.entityId = incidentId).map fun t => ⟨.task,t.1⟩) ++
    ((db.files.select fun f => !f.isDocument && f.link = ⟨"incident",incidentId⟩).map fun f => ⟨.attachment,f.1⟩) ++
    ((db.files.select fun f => f.isDocument && f.link = ⟨"incident",incidentId⟩).map fun f => ⟨.attachment,f.1⟩)

def linkedEntities (db : Records) (entity : Entity) : List Entity :=
  match entity.type with
  | .incident => collectIncidentLinkedEntities db entity.id
  | .appeal =>
    match db.appeals.get? entity.id with
    | none => []
    | some appeal => ⟨.incident,appeal.incidentId⟩ :: collectIncidentLinkedEntities db appeal.incidentId
  | .exclusionCase =>
    match db.exclusionCases.get? entity.id with
    | none => []
    | some c => [⟨.sanction,c.sanctionId⟩,⟨.incident,c.incidentId⟩] ++ collectIncidentLinkedEntities db c.incidentId ++
        (db.files.select fun f => f.isDocument && f.link = ⟨"exclusion_case",entity.id⟩).map fun f => ⟨.attachment,f.1⟩
  | _ => []

def propagatedReason (dto : CreateLegalHoldDto) : String :=
  dto.holdReason ++ " [Propagated from " ++ dto.entity.type.key ++ " " ++ toString dto.entity.id ++ "]"

/-- One linked entity. The anchor itself is skipped. -/
def propagateHold (number : ℕ) (dto : CreateLegalHoldDto) (db : Records) (entity : Entity) : Records :=
  if entity = dto.entity then db
  else
    let placed := db.place (.anchor number) entity
    if db.alreadyHeld dto entity then placed else placed.addHold entity (propagatedReason dto) dto.legalBasis (.anchor number)

def setAnchorHold (db : Records) (dto : CreateLegalHoldDto) : Records :=
  ({ db with anchors := db.anchors + 1 }.place (.anchor db.anchors) dto.entity).addHold dto.entity dto.holdReason dto.legalBasis
    (.anchor db.anchors)

def createHold (db : Records) (dto : CreateLegalHoldDto) : Records :=
  if db.alreadyHeld dto dto.entity then db
  else if dto.propagate then
    (linkedEntities (setAnchorHold db dto) dto.entity).foldl (propagateHold db.anchors dto) (setAnchorHold db dto)
  else setAnchorHold db dto

/-! ## Releasing a hold -/

def LegalHold.release (reason : String) (h : LegalHold) : LegalHold := { h with active := false, releaseReason := some reason }

/-- The basis by which holds are released along, if they are to be. -/
def ReleaseLegalHoldDto.linkedBasis (dto : ReleaseLegalHoldDto) (hold : LegalHold) : Option String :=
  if dto.releaseLinked then givenBasis hold.legalBasis else none

/-- A released hold ends what its source has put under hold there, and released with its linked holds all of it. -/
def ReleaseLegalHoldDto.ends (dto : ReleaseLegalHoldDto) (hold : LegalHold) (p : Placement) : Bool :=
  p.source = hold.source && ((dto.linkedBasis hold).isSome || p.entity = hold.entity)

def linkedReason (holdId : ℕ) (reason : String) : String := "Released linked to hold " ++ toString holdId ++ ": " ++ reason

def releaseLinkedHolds (db : Records) (holdId : ℕ) (reason : String) : Option String → Records
  | none => db
  | some basis => { db with holds := db.holds.mapRows fun id h =>
      if h.legalBasis = some basis ∧ h.active = true ∧ id ≠ holdId then h.release (linkedReason holdId reason) else h }

def releaseHold (db : Records) (holdId : ℕ) (dto : ReleaseLegalHoldDto) : Except Refusal Records := do
  let hold ← require (db.holds.get? holdId) .holdNotFound
  if hold.active then
    let released := { db with
      holds := db.holds.modify holdId (LegalHold.release dto.releaseReason)
      placements := db.placements.filter fun p => !dto.ends hold p }
    return releaseLinkedHolds released holdId dto.releaseReason (dto.linkedBasis hold)
  else return db

/-! ## Retention -/

structure RetentionSettings where
  incidentRetentionYears : ℕ
  sanctionRetentionYears : ℕ
  interventionRetentionYears : ℕ

/-- `setFullYear`: a leap day that the year does not have is the first of March. -/
def addYears (date : CivilDate) (years : ℕ) : CivilDate :=
  CivilDate.makeDay (date.monthNumber + 12 * years) date.day date.pos

def archiveIncident (studentId : ℕ) (cutoffDate now : CivilDate) (i : Incident) : Incident :=
  if i.retentionStatus = .active ∧ (i.participants.any fun p => p.studentId = studentId) = true ∧ ¬ cutoffDate ≤ i.occurredAt then
    { i with retentionStatus := .archived, archivedAt := some now }
  else i

def archiveSanction (studentId : ℕ) (cutoffDate : CivilDate) (s : Sanction) : Sanction :=
  if s.retentionStatus = .active ∧ s.studentId = studentId ∧ ¬ cutoffDate ≤ s.scheduledDate then
    { s with retentionStatus := .archived }
  else s

def archiveIntervention (studentId : ℕ) (cutoffDate : CivilDate) (i : Intervention) : Intervention :=
  if i.retentionStatus = .active ∧ i.studentId = studentId ∧ ¬ cutoffDate ≤ i.createdAt then
    { i with retentionStatus := .archived }
  else i

/-- Nothing is archived before the incidents of the student are due. -/
def archiveEntitiesForStudent (settings : RetentionSettings) (now : CivilDate) (db : Records) (studentId : ℕ) (leftDate : CivilDate) :
    Records :=
  let cutoffDate := addYears leftDate settings.incidentRetentionYears
  let sanctionCutoff := addYears leftDate settings.sanctionRetentionYears
  let interventionCutoff := addYears leftDate settings.interventionRetentionYears
  if ¬ cutoffDate ≤ now then db
  else { db with
    incidents := db.incidents.mapRows fun _ => archiveIncident studentId cutoffDate now
    sanctions := if sanctionCutoff ≤ now then db.sanctions.mapRows fun _ => archiveSanction studentId sanctionCutoff else db.sanctions
    interventions := if interventionCutoff ≤ now then
      db.interventions.mapRows fun _ => archiveIntervention studentId interventionCutoff else db.interventions }

def archiveStudent (settings : RetentionSettings) (now : CivilDate) (db : Records) (q : ℕ × Student) : Records :=
  if q.2.hasLeft then q.2.exitDate.elim db (archiveEntitiesForStudent settings now db q.1) else db

def anonymiseBatch : ℕ := 500

def Incident.anonymise (i : Incident) : Incident :=
  { i with
    description := "[Archived content]"
    parentDescription := none
    contextNotes := none
    participants := i.participants.map fun p => { p with studentSnapshot := none }
    retentionStatus := .anonymised }

def Sanction.anonymise (s : Sanction) : Sanction :=
  { s with
    notes := none
    returnConditions := none
    appealNotes := none
    parentMeetingNotes := none
    retentionStatus := .anonymised }

def Intervention.anonymise (i : Intervention) : Intervention :=
  { i with
    triggerDescription := "[Archived content]"
    outcomeNotes := none
    sendNotes := none
    retentionStatus := .anonymised }

def anonymiseIncident (db : Records) (q : ℕ × Incident) : Records :=
  if q.2.archivedAt.isNone || db.isHeld ⟨.incident,q.1⟩ then db
  else { db with incidents := db.incidents.modify q.1 Incident.anonymise }

def anonymiseSanction (db : Records) (q : ℕ × Sanction) : Records :=
  if db.isHeld ⟨.sanction,q.1⟩ then db else { db with sanctions := db.sanctions.modify q.1 Sanction.anonymise }

def anonymiseIntervention (db : Records) (q : ℕ × Intervention) : Records :=
  if db.isHeld ⟨.intervention,q.1⟩ then db else { db with interventions := db.interventions.modify q.1 Intervention.anonymise }

/-- Incidents, then sanctions, then interventions, a batch of the archived ones each. -/
def anonymiseArchivedEntities (db : Records) : Records :=
  let incidents := ((db.incidents.select fun i => i.retentionStatus = .archived).take anonymiseBatch).foldl anonymiseIncident db
  let sanctions := ((incidents.sanctions.select fun s => s.retentionStatus = .archived).take anonymiseBatch).foldl anonymiseSanction
    incidents
  ((sanctions.interventions.select fun i => i.retentionStatus = .archived).take anonymiseBatch).foldl anonymiseIntervention sanctions

def retentionCheck (db : Records) (settings : RetentionSettings) (now : CivilDate) (dryRun : Bool) : Records :=
  if dryRun then db
  else anonymiseArchivedEntities (db.students.rows.foldl (archiveStudent settings now) db)

end EduPod.Behaviour
