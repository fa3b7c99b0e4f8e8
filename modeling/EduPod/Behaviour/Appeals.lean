import EduPod.Behaviour.Records

/-! # Sanctions and appeals

A sanction's status is changed by the transition request, by marking in bulk, and by the submission, the
decision and the withdrawal of an appeal against it.
-/
namespace EduPod.Behaviour
open Fallible

/-- The database client: whether it lets a status pass that its enumeration does not have, and which of the
columns that are left out here it can write with a given text. -/
structure Client where
  passesForeignStatus : Bool
  writesField : AppealEntityType → String → String → Bool

/-- What another module asks for when an appeal is handed in. -/
structure SubmitAppealDto where
  entityType : AppealEntityType
  incidentId : ℕ
  sanctionId : Option ℕ
  studentId : ℕ
  appealNumber : String

structure RecordAppealDecisionDto where
  decision : AppealDecision
  decisionReasoning : String
  amendments : List Amendment

/-! ## Keys of enumerations -/

def byKey {α : Type} (key : α → String) (all : List α) (value : String) : Option α := all.find? fun a => key a = value

def SanctionStatus.key : SanctionStatus → String
  | .pendingApproval => "pending_approval"
  | .scheduled => "scheduled"
  | .served => "served"
  | .partiallyServed => "partially_served"
  | .noShow => "no_show"
  | .excused => "excused"
  | .cancelled => "cancelled"
  | .rescheduled => "rescheduled"
  | .notServedAbsent => "not_served_absent"
  | .appealed => "appealed"
  | .replaced => "replaced"
  | .superseded => "superseded"

def sanctionStatuses : List SanctionStatus :=
  [.pendingApproval,.scheduled,.served,.partiallyServed,.noShow,.excused,.cancelled,.rescheduled,.notServedAbsent,.appealed,
    .replaced,.superseded]

def IncidentStatus.key : IncidentStatus → String
  | .draft => "draft"
  | .active => "active"
  | .investigating => "investigating"
  | .underReview => "under_review"
  | .awaitingApproval => "awaiting_approval"
  | .awaitingParentMeeting => "awaiting_parent_meeting"
  | .escalated => "escalated"
  | .resolved => "resolved"
  | .withdrawn => "withdrawn"
  | .closedAfterAppeal => "closed_after_appeal"
  | .superseded => "superseded"
  | .convertedToSafeguarding => "converted_to_safeguarding"

def incidentStatuses : List IncidentStatus :=
  [.draft,.active,.investigating,.underReview,.awaitingApproval,.awaitingParentMeeting,.escalated,.resolved,.withdrawn,
    .closedAfterAppeal,.superseded,.convertedToSafeguarding]

def RetentionStatus.key : RetentionStatus → String
  | .active => "active"
  | .archived => "archived"
  | .anonymised => "anonymised"

def retentionStatuses : List RetentionStatus := [.active,.archived,.anonymised]

def AppealOutcome.key : AppealOutcome → String
  | .upheld => "upheld"
  | .modifiedAppeal => "modified_appeal"
  | .overturnedAppeal => "overturned_appeal"

def appealOutcomes : List AppealOutcome := [.upheld,.modifiedAppeal,.overturnedAppeal]

def sanctionStatusOf (value : String) : Option SanctionStatus := byKey SanctionStatus.key sanctionStatuses value

/-! ## The lifecycle of sanctions -/

def Records.setSanction (db : Records) (id : ℕ) (g : Sanction → Sanction) : Records :=
  { db with sanctions := db.sanctions.modify id g }

/-- The filter asks for a status other than `withdrawn`, which is not the name the client knows it by. -/
def checkAppealExists (client : Client) (db : Records) (id : ℕ) : Except Refusal Unit := do
  ensure (client.passesForeignStatus = true) .rejectedByClient
  ensure (db.appeals.rows.any fun a => a.2.sanctionId = some id && a.2.status ≠ .withdrawnAppeal) .noAppealExists

def transitionStatus (client : Client) (db : Records) (id : ℕ) (newStatus : SanctionStatus) : Except Refusal Records := do
  let sanction ← require (db.sanctions.get? id) .sanctionNotFound
  ensure (isValidSanctionTransition sanction.status newStatus = true) .invalidTransition
  if newStatus = .appealed then checkAppealExists client db id
  return db.setSanction id fun s => { s with status := newStatus }

structure BulkResult where
  records : Records
  succeeded : List ℕ
  failed : List (ℕ × Refusal)

def markServed (result : BulkResult) (sanctionId : ℕ) : BulkResult :=
  match result.records.sanctions.get? sanctionId with
  | none => { result with failed := result.failed ++ [(sanctionId,.sanctionNotFound)] }
  | some sanction =>
    if isValidSanctionTransition sanction.status .served then
      { result with
        records := result.records.setSanction sanctionId fun s => { s with status := .served }
        succeeded := result.succeeded ++ [sanctionId] }
    else { result with failed := result.failed ++ [(sanctionId,.invalidTransition)] }

def bulkMarkServed (db : Records) (sanctionIds : List ℕ) : BulkResult := sanctionIds.foldl markServed ⟨db,[],[]⟩

/-! ## Submitting an appeal -/

def Records.openAppeal (db : Records) (sanctionId : ℕ) : Bool :=
  db.appeals.rows.any fun a => a.2.sanctionId = some sanctionId && a.2.isOpen

/-- The sanction that is appealed against, which no other open appeal is about. -/
def checkSanction (db : Records) : Option ℕ → Except Refusal (Option Sanction)
  | none => .ok none
  | some sanctionId => do
    let sanction ← require (db.sanctions.get? sanctionId) .sanctionNotFound
    ensure (db.openAppeal sanctionId = false) .openAppealExists
    return some sanction

def submittedAppeal (dto : SubmitAppealDto) : Appeal where
  entityType := dto.entityType
  incidentId := dto.incidentId
  sanctionId := dto.sanctionId
  studentId := dto.studentId
  status := .submitted
  decision := none
  decisionReasoning := none
  resultingAmendments := []

def appealLegalBasis : String := "Active appeal proceedings"

def appealHoldReason (appealNumber : String) : String := s!"Appeal {appealNumber} submitted"

/-- What an appeal puts under hold. -/
def appealEntities (dto : SubmitAppealDto) (appealId : ℕ) : List Entity :=
  ⟨.incident,dto.incidentId⟩ :: (dto.sanctionId.toList.map fun id => ⟨.sanction,id⟩) ++ [⟨.appeal,appealId⟩]

/-- Only set if no active hold exists. -/
def setAppealHold (appealNumber : String) (appealId : ℕ) (db : Records) (entity : Entity) : Records :=
  let placed := db.place (.appeal appealId) entity
  if db.isHeld entity then placed
  else placed.addHold entity (appealHoldReason appealNumber) (some appealLegalBasis) (.appeal appealId)

/-- The first exclusion case of the sanction that has no appeal yet. -/
def linkExclusionCase (db : Records) (appealId : ℕ) : Option ℕ → Records
  | none => db
  | some sanctionId =>
    match db.exclusionCases.rows.find? fun c => c.2.sanctionId = sanctionId && c.2.appealId = none with
    | none => db
    | some c => { db with exclusionCases := db.exclusionCases.modify c.1 fun c => { c with appealId := some appealId } }

/-- A scheduled sanction is appealed from now on. -/
def appealSanction (db : Records) (sanctionId : Option ℕ) (sanction : Option Sanction) : Records :=
  if sanction.any fun s => s.status = .scheduled then
    sanctionId.elim db fun id => db.setSanction id fun s => { s with status := .appealed }
  else db

def submit (db : Records) (dto : SubmitAppealDto) : Except Refusal Records := do
  ensure (dto.entityType = .sanction → dto.sanctionId ≠ none) .sanctionIdRequired
  let _ ← require (db.incidents.get? dto.incidentId) .incidentNotFound
  let sanction ← checkSanction db dto.sanctionId
  let appealId := db.appeals.next
  let created := { db with appeals := db.appeals.insert (submittedAppeal dto) }
  let appealed := appealSanction created dto.sanctionId sanction
  let held := (appealEntities dto appealId).foldl (setAppealHold dto.appealNumber appealId) appealed
  let linked := linkExclusionCase held appealId dto.sanctionId
  return { linked with tasks := linked.tasks.insert ⟨"appeal",appealId⟩ }

/-! ## Deciding an appeal -/

/-- What a write of one field with a text does to a sanction, if the client takes it. -/
def sanctionWrite (client : Client) (field value : String) : Option (Sanction → Sanction) :=
  match field with
  | "status" => (sanctionStatusOf value).map fun status s => { s with status }
  | "appeal_outcome" => (byKey AppealOutcome.key appealOutcomes value).map fun outcome s => { s with appealOutcome := some outcome }
  | "retention_status" => (byKey RetentionStatus.key retentionStatuses value).map fun retentionStatus s => { s with retentionStatus }
  | "notes" => some fun s => { s with notes := some value }
  | "return_conditions" => some fun s => { s with returnConditions := some value }
  | "parent_meeting_notes" => some fun s => { s with parentMeetingNotes := some value }
  | "appeal_notes" => some fun s => { s with appealNotes := some value }
  | _ => if client.writesField .sanction field value then some id else none

def incidentWrite (client : Client) (field value : String) : Option (Incident → Incident) :=
  match field with
  | "status" => (byKey IncidentStatus.key incidentStatuses value).map fun status i => { i with status }
  | "retention_status" => (byKey RetentionStatus.key retentionStatuses value).map fun retentionStatus i => { i with retentionStatus }
  | "description" => some fun i => { i with description := value }
  | "parent_description" => some fun i => { i with parentDescription := some value }
  | "context_notes" => some fun i => { i with contextNotes := some value }
  | _ => if client.writesField .incident field value then some id else none

/-- The field is written as it comes; there is no list of fields that may be amended. -/
def applyAmendment (client : Client) (hasSanction : Bool) (db : Records) (amendment : Amendment) : Except Refusal Records :=
  match amendment.entityType with
  | .sanction =>
    if hasSanction then do
      let write ← require (sanctionWrite client amendment.field amendment.newValue) .rejectedByClient
      let _ ← require (db.sanctions.get? amendment.entityId) .rejectedByClient
      return db.setSanction amendment.entityId write
    else .ok db
  | .incident => do
    let write ← require (incidentWrite client amendment.field amendment.newValue) .rejectedByClient
    let _ ← require (db.incidents.get? amendment.entityId) .rejectedByClient
    return { db with incidents := db.incidents.modify amendment.entityId write }

/-- Back to scheduled, if the sanction was appealed when the appeal was read. -/
def reinstate (db : Records) (sanction : Option (ℕ × Sanction)) (g : Sanction → Sanction) : Records :=
  match sanction with
  | none => db
  | some (id,sanction) => if sanction.status = .appealed then db.setSanction id fun s => { g s with status := .scheduled } else db

def decidedOutcome (outcome : AppealOutcome) (reasoning : String) (s : Sanction) : Sanction :=
  { s with appealOutcome := some outcome, appealNotes := some reasoning }

/-- Sanction, incident and exclusion cases of an appeal that has been won. -/
def overturn (db : Records) (appealId : ℕ) (appeal : Appeal) (sanction : Option (ℕ × Sanction)) (reasoning : String) : Records :=
  let cancelled := sanction.elim db fun q => db.setSanction q.1 fun s =>
    { decidedOutcome .overturnedAppeal reasoning s with status := .cancelled }
  { cancelled with
    incidents := cancelled.incidents.modify appeal.incidentId fun i => { i with status := .closedAfterAppeal }
    exclusionCases := cancelled.exclusionCases.mapRows fun _ c =>
      if c.appealId = some appealId then { c with status := .overturned } else c }

def Records.appealedSanction (db : Records) (appeal : Appeal) : Option (ℕ × Sanction) :=
  appeal.sanctionId.bind fun id => (db.sanctions.get? id).map fun s => (id,s)

def applyDecision (client : Client) (db : Records) (id : ℕ) (appeal : Appeal) (dto : RecordAppealDecisionDto) :
    Except Refusal Records :=
  let sanction := db.appealedSanction appeal
  match dto.decision with
  | .upheldOriginal => .ok (reinstate db sanction (decidedOutcome .upheld dto.decisionReasoning))
  | .modified => do
    let amended ← dto.amendments.foldlM (applyAmendment client sanction.isSome) db
    return reinstate amended sanction (decidedOutcome .modifiedAppeal dto.decisionReasoning)
  | .overturned => .ok (overturn db id appeal sanction dto.decisionReasoning)

def decidableStatuses : List AppealStatus := [.submitted,.underReview,.hearingScheduled]

def closeAppeal (db : Records) (id : ℕ) (dto : RecordAppealDecisionDto) : Records :=
  { db with appeals := db.appeals.modify id fun a => { a with
    status := .decided
    decision := some dto.decision
    decisionReasoning := some dto.decisionReasoning
    resultingAmendments := if dto.decision = .modified then dto.amendments else a.resultingAmendments } }

def decide (client : Client) (db : Records) (id : ℕ) (dto : RecordAppealDecisionDto) : Except Refusal Records := do
  let appeal ← require (db.appeals.get? id) .appealNotFound
  ensure (decidableStatuses.contains appeal.status = true) .appealNotDecidable
  let applied ← applyDecision client db id appeal dto
  return closeAppeal applied id dto

/-! ## Withdrawing an appeal -/

def withdraw (db : Records) (id : ℕ) : Except Refusal Records := do
  let appeal ← require (db.appeals.get? id) .appealNotFound
  ensure (isValidAppealTransition appeal.status .withdrawnAppeal = true) .invalidTransition
  let withdrawn := { db with appeals := db.appeals.modify id fun a => { a with status := .withdrawnAppeal } }
  return reinstate withdrawn (db.appealedSanction appeal) fun s => s

/-- An appeal can be decided precisely while it is open. -/
theorem decidable_iff_isOpen (a : Appeal) : decidableStatuses.contains a.status = a.isOpen := by
  unfold Appeal.isOpen
  cases a.status <;> rfl

theorem openAppeal_iff {db : Records} {sanctionId : ℕ} :
    db.openAppeal sanctionId = true ↔ ∃ id a, db.appeals.get? id = some a ∧ a.sanctionId = some sanctionId ∧ a.isOpen = true := by
  simp only [Records.openAppeal,List.any_eq_true,Bool.and_eq_true,decide_eq_true_eq,Table.get?_eq_some_iff]
  constructor
  · rintro ⟨⟨id,a⟩,hrow,hs,ho⟩
    exact ⟨id,a,hrow,hs,ho⟩
  · rintro ⟨id,a,hrow,hs,ho⟩
    exact ⟨(id,a),hrow,hs,ho⟩

end EduPod.Behaviour
