import EduPod.Foundation.CivilDate
import EduPod.Foundation.Fallible
import EduPod.Foundation.TableBulk

/-! # Behaviour records

The records of one school: incidents and their sanctions, appeals against them, exclusion cases, and the
legal holds that keep an entity from being anonymised.
-/
namespace EduPod.Behaviour
open Fallible

inductive IncidentStatus
  | draft | active | investigating | underReview | awaitingApproval | awaitingParentMeeting | escalated | resolved
  | withdrawn | closedAfterAppeal | superseded | convertedToSafeguarding
  deriving DecidableEq, Repr

inductive SanctionStatus
  | pendingApproval | scheduled | served | partiallyServed | noShow | excused | cancelled | rescheduled
  | notServedAbsent | appealed | replaced | superseded
  deriving DecidableEq, Repr

inductive AppealStatus
  | submitted | underReview | hearingScheduled | decided | withdrawnAppeal
  deriving DecidableEq, Repr

inductive AppealDecision
  | upheldOriginal | modified | overturned
  deriving DecidableEq, Repr

inductive AppealOutcome
  | upheld | modifiedAppeal | overturnedAppeal
  deriving DecidableEq, Repr

inductive ExclusionStatus
  | initiated | noticeIssued | hearingScheduled | hearingHeld | decisionMade | appealWindow | finalised | overturned
  deriving DecidableEq, Repr

inductive RetentionStatus
  | active | archived | anonymised
  deriving DecidableEq, Repr

inductive AppealEntityType
  | incident | sanction
  deriving DecidableEq, Repr

inductive HoldEntityType
  | incident | sanction | intervention | appeal | exclusionCase | task | attachment
  deriving DecidableEq, Repr

structure Entity where
  type : HoldEntityType
  id : ℕ
  deriving DecidableEq

/-- Who has put an entity under hold: a hold that was asked for, with what it spread to, or an appeal. -/
inductive HoldSource
  | anchor (number : ℕ)
  | appeal (id : ℕ)
  deriving DecidableEq

structure Participant where
  studentId : ℕ
  studentSnapshot : Option String
  deriving DecidableEq

structure Incident where
  status : IncidentStatus
  occurredAt : CivilDate
  participants : List Participant
  description : String
  parentDescription : Option String
  contextNotes : Option String
  retentionStatus : RetentionStatus
  archivedAt : Option CivilDate
  deriving DecidableEq

structure Sanction where
  incidentId : ℕ
  studentId : ℕ
  status : SanctionStatus
  scheduledDate : CivilDate
  notes : Option String
  returnConditions : Option String
  parentMeetingNotes : Option String
  appealNotes : Option String
  appealOutcome : Option AppealOutcome
  retentionStatus : RetentionStatus
  deriving DecidableEq

structure Intervention where
  studentId : ℕ
  createdAt : CivilDate
  triggerDescription : String
  outcomeNotes : Option String
  sendNotes : Option String
  retentionStatus : RetentionStatus
  deriving DecidableEq

structure Amendment where
  entityType : AppealEntityType
  entityId : ℕ
  field : String
  newValue : String
  deriving DecidableEq

structure Appeal where
  entityType : AppealEntityType
  incidentId : ℕ
  sanctionId : Option ℕ
  studentId : ℕ
  status : AppealStatus
  decision : Option AppealDecision
  decisionReasoning : Option String
  resultingAmendments : List Amendment
  deriving DecidableEq

structure ExclusionCase where
  sanctionId : ℕ
  incidentId : ℕ
  appealId : Option ℕ
  status : ExclusionStatus
  deriving DecidableEq

/-- What a task, an attachment or a document belongs to. -/
structure Link where
  entityType : String
  entityId : ℕ
  deriving DecidableEq

/-- An attachment or a document: both are held as attachments, and no two of them have the same id. -/
structure StoredFile where
  link : Link
  isDocument : Bool
  deriving DecidableEq

structure LegalHold where
  entity : Entity
  holdReason : String
  legalBasis : Option String
  active : Bool
  releaseReason : Option String
  source : HoldSource
  deriving DecidableEq

/-- An entity is to stay under hold on behalf of a source. -/
structure Placement where
  source : HoldSource
  entity : Entity
  deriving DecidableEq

structure Student where
  hasLeft : Bool
  exitDate : Option CivilDate
  deriving DecidableEq

/-- `anchors` counts the holds that were asked for and `placements` says what is to stay under hold. -/
structure Records where
  students : Table Student
  incidents : Table Incident
  sanctions : Table Sanction
  interventions : Table Intervention
  appeals : Table Appeal
  exclusionCases : Table ExclusionCase
  tasks : Table Link
  files : Table StoredFile
  holds : Table LegalHold
  anchors : ℕ
  placements : List Placement

def Records.empty : Records where
  students := Table.empty
  incidents := Table.empty
  sanctions := Table.empty
  interventions := Table.empty
  appeals := Table.empty
  exclusionCases := Table.empty
  tasks := Table.empty
  files := Table.empty
  holds := Table.empty
  anchors := 0
  placements := []

inductive Refusal
  | sanctionIdRequired | incidentNotFound | sanctionNotFound | openAppealExists | appealNotFound | appealNotDecidable
  | invalidTransition | noAppealExists | holdNotFound | rejectedByClient
  deriving DecidableEq, Repr

/-! ## Sanction and appeal statuses -/

def validSanctionTransitions : SanctionStatus → List SanctionStatus
  | .pendingApproval => [.scheduled,.cancelled]
  | .scheduled => [.served,.partiallyServed,.noShow,.excused,.cancelled,.superseded,.notServedAbsent,.appealed]
  | .appealed => [.scheduled,.cancelled,.replaced]
  | .noShow => [.superseded,.cancelled]
  | .excused => [.superseded,.cancelled]
  | .notServedAbsent => [.superseded]
  | _ => []

def terminalSanctionStatuses : List SanctionStatus := [.served,.partiallyServed,.cancelled,.replaced,.superseded]

def isValidSanctionTransition (current next : SanctionStatus) : Bool :=
  if terminalSanctionStatuses.contains current then false else (validSanctionTransitions current).contains next

def validAppealTransitions : AppealStatus → List AppealStatus
  | .submitted => [.underReview,.withdrawnAppeal]
  | .underReview => [.hearingScheduled,.decided,.withdrawnAppeal]
  | .hearingScheduled => [.decided,.withdrawnAppeal]
  | _ => []

def terminalAppealStatuses : List AppealStatus := [.decided,.withdrawnAppeal]

def isValidAppealTransition (current next : AppealStatus) : Bool :=
  if terminalAppealStatuses.contains current then false else (validAppealTransitions current).contains next

def Appeal.isOpen (a : Appeal) : Bool := !terminalAppealStatuses.contains a.status

/-- A status that is terminal has no transitions in the table either. -/
theorem validSanctionTransitions_terminal {s : SanctionStatus} (h : s ∈ terminalSanctionStatuses) :
    validSanctionTransitions s = [] := by
  cases s <;> simp [terminalSanctionStatuses,validSanctionTransitions] at h ⊢

theorem isValidSanctionTransition_iff {s t : SanctionStatus} :
    isValidSanctionTransition s t = true ↔ t ∈ validSanctionTransitions s := by
  unfold isValidSanctionTransition
  split
  · rename_i h
    rw [validSanctionTransitions_terminal (List.contains_iff_mem.mp h)]
    simp
  · exact List.contains_iff_mem

/-- An appeal can be withdrawn precisely while it is open. -/
theorem isValidAppealTransition_withdrawn (a : Appeal) :
    isValidAppealTransition a.status .withdrawnAppeal = a.isOpen := by
  unfold Appeal.isOpen
  cases a.status <;> rfl

/-! ## Setting holds -/

def Records.isHeld (db : Records) (entity : Entity) : Bool := db.holds.rows.any fun h => h.2.entity = entity && h.2.active

def Records.addHold (db : Records) (entity : Entity) (reason : String) (legalBasis : Option String) (source : HoldSource) :
    Records :=
  { db with holds := db.holds.insert ⟨entity,reason,legalBasis,true,none,source⟩ }

def Records.place (db : Records) (source : HoldSource) (entity : Entity) : Records :=
  { db with placements := db.placements ++ [⟨source,entity⟩] }

theorem isHeld_iff {db : Records} {entity : Entity} :
    db.isHeld entity = true ↔ ∃ id h, db.holds.get? id = some h ∧ h.entity = entity ∧ h.active = true := by
  simp only [Records.isHeld,List.any_eq_true,Bool.and_eq_true,decide_eq_true_eq,Table.get?_eq_some_iff]
  constructor
  · rintro ⟨⟨id,h⟩,hrow,hentity,hactive⟩
    exact ⟨id,h,hrow,hentity,hactive⟩
  · rintro ⟨id,h,hrow,hentity,hactive⟩
    exact ⟨(id,h),hrow,hentity,hactive⟩

end EduPod.Behaviour
