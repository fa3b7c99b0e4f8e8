import Mathlib
import EduPod.Behaviour.Records
import EduPod.Policy.RuleBook

/-! # Incidents as the policy engine reads them

The incidents of one tenant with their participants, and the input a rule is matched against: frozen
facts of the incident and the student, and how often the student was involved in incidents lately.
-/
namespace EduPod.Policy
open Behaviour (IncidentStatus)

inductive ApprovalStatus
  | notRequired | pending | approved | rejected
  deriving DecidableEq, Repr

inductive ParentNotificationStatus
  | notRequired | pending | sent | delivered | failed | acknowledged
  deriving DecidableEq, Repr

inductive ParticipantType
  | student | staff | parent | visitor | unknown
  deriving DecidableEq, Repr

/-- What was known of a student when the participant was added; a key may be missing. -/
structure StudentSnapshot where
  yearGroupId : Option ℕ := none
  yearGroupName : Option String := none
  hasSend : Option Bool := none
  hadActiveIntervention : Option Bool := none
  deriving DecidableEq, Repr

structure Participant where
  participantType : ParticipantType
  studentId : Option ℕ
  role : ParticipantRole
  studentSnapshot : Option StudentSnapshot
  deriving DecidableEq, Repr

structure Incident where
  incidentNumber : String
  categoryId : ℕ
  polarity : Polarity
  severity : ℤ
  contextType : String
  occurredAt : ℤ
  weekday : Option ℤ
  periodOrder : Option ℤ
  status : IncidentStatus
  approvalStatus : ApprovalStatus
  parentNotificationStatus : ParentNotificationStatus
  reportedById : ℕ
  description : String
  academicYearId : ℕ
  escalatedFromId : Option ℕ
  policyEvaluationId : Option ℕ
  participants : List Participant
  deriving DecidableEq, Repr

structure BehaviourCategory where
  name : String
  polarity : Polarity
  severity : ℤ
  deriving DecidableEq, Repr

inductive SanctionType
  | detention | suspensionInternal | suspensionExternal | expulsion | communityService | lossOfPrivilege
  | restorativeMeeting | otherSanction
  deriving DecidableEq, Repr

inductive TaskType
  | followUp | interventionReview | parentMeeting | parentAcknowledgement | approvalAction | sanctionSupervision
  | returnCheckIn | safeguardingAction | documentRequested | appealReview | breakGlassReview
  | guardianRestrictionReview | custom
  deriving DecidableEq, Repr

inductive TaskPriority
  | low | medium | high | urgent
  deriving DecidableEq, Repr

inductive InterventionType
  | behaviourPlan | mentoring | counsellingReferral | restorative | academicSupport | parentEngagement
  | externalAgency | otherIntervention
  deriving DecidableEq, Repr

/-- A key of a stored configuration, which is any JSON: missing, a value its use takes, or something else. -/
inductive ConfigField (α : Type)
  | missing
  | value (a : α)
  | invalid
  deriving DecidableEq, Repr

/-- The keys the handlers of the actions read. -/
structure ActionConfig where
  targetCategoryId : ConfigField ℕ := .missing
  reason : ConfigField String := .missing
  sanctionType : ConfigField SanctionType := .missing
  daysOffset : ConfigField ℤ := .missing
  notes : ConfigField String := .missing
  dueWithinSchoolDays : ConfigField ℤ := .missing
  taskType : ConfigField TaskType := .missing
  title : ConfigField String := .missing
  assignedToUserId : ConfigField ℕ := .missing
  dueInSchoolDays : ConfigField ℤ := .missing
  priority : ConfigField TaskPriority := .missing
  interventionType : ConfigField InterventionType := .missing
  deriving DecidableEq, Repr

abbrev Rule := PolicyRule PolicyCondition ActionConfig

def msPerDay : ℤ := 24 * 60 * 60 * 1000

/-- Neither withdrawn nor still a draft. -/
def Incident.counts (incident : Incident) : Bool := incident.status ≠ .withdrawn && incident.status ≠ .draft

def Participant.isStudent (participant : Participant) (studentId : ℕ) : Bool :=
  participant.participantType = .student && participant.studentId = some studentId

def snapshotOf (participant : Participant) : StudentSnapshot := participant.studentSnapshot.getD {}

def categoryNameOf (categories : Table BehaviourCategory) (incident : Incident) : String :=
  ((categories.get? incident.categoryId).map BehaviourCategory.name).getD ""

/-- The student's incidents since the window began, this one and later ones included. -/
def computeRepeatCount (incidents : Table Incident) (incident : Incident) (studentId : ℕ)
    (conditions : PolicyCondition) : ℕ :=
  match conditions.repeatCountMin,conditions.repeatWindowDays with
  | some 0,_ => 0
  | some _,some (days + 1) =>
    let windowStart := incident.occurredAt - (days + 1) * msPerDay
    ((incidents.select fun i => windowStart ≤ i.occurredAt && i.counts &&
      listed conditions.repeatCategoryIds (some i.categoryId)).map fun row =>
        row.2.participants.countP fun p => p.isStudent studentId).sum
  | _,_ => 0

def buildEvaluatedInput (categories : Table BehaviourCategory) (incidents : Table Incident) (incident : Incident)
    (participant : Participant) (studentId : ℕ) (conditions : PolicyCondition) : EvaluatedInput where
  categoryId := incident.categoryId
  categoryName := categoryNameOf categories incident
  polarity := incident.polarity
  severity := incident.severity
  contextType := incident.contextType
  occurredAt := incident.occurredAt
  weekday := incident.weekday
  periodOrder := incident.periodOrder
  studentId := studentId
  participantRole := participant.role
  yearGroupId := (snapshotOf participant).yearGroupId
  yearGroupName := (snapshotOf participant).yearGroupName
  hasSend := (snapshotOf participant).hasSend.getD false
  hadActiveIntervention := (snapshotOf participant).hadActiveIntervention.getD false
  repeatCount := computeRepeatCount incidents incident studentId conditions
  repeatWindowDaysUsed := conditions.repeatWindowDays
  repeatCategoryIdsUsed := conditions.repeatCategoryIds.getD []

def student : Participant := ⟨.student,some 7,.subject,none⟩

def firstOffence : Incident where
  incidentNumber := "INC-1"
  categoryId := 0
  polarity := .negative
  severity := 3
  contextType := "class_"
  occurredAt := 12 * 60 * 60 * 1000
  weekday := some 4
  periodOrder := none
  status := .active
  approvalStatus := .notRequired
  parentNotificationStatus := .notRequired
  reportedById := 0
  description := "Late"
  academicYearId := 0
  escalatedFromId := none
  policyEvaluationId := none
  participants := [student]

end EduPod.Policy
