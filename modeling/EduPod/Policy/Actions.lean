import Mathlib
import EduPod.Policy.Incidents

/-! # The actions of matched rules

A stage of an evaluation carries out the actions of its matched rules, in the engine of the API and in
the worker's job. All of it runs in one transaction: a query the client refuses fails its action only,
but a statement the database refuses leaves the transaction unusable.
-/
namespace EduPod.Policy
open Behaviour (IncidentStatus)

structure Sanction where
  sanctionNumber : String
  incidentId : ℕ
  studentId : ℕ
  type : SanctionType
  scheduledDate : ℤ
  notes : Option String
  deriving DecidableEq, Repr

inductive TaskEntityType
  | incident | sanction | intervention | safeguardingConcern | appeal | breakGlassGrant | exclusionCase
  | guardianRestriction
  deriving DecidableEq, Repr

inductive TaskStatus
  | pending | inProgress | completed | cancelled | overdue
  deriving DecidableEq, Repr

structure Task where
  taskType : TaskType
  entityType : TaskEntityType
  entityId : ℕ
  title : String
  description : Option String
  assignedToId : ℕ
  createdById : ℕ
  priority : TaskPriority
  status : TaskStatus
  dueDate : ℤ
  deriving DecidableEq, Repr

inductive InterventionStatus
  | planned | activeIntervention | monitoring | completedIntervention | abandoned
  deriving DecidableEq, Repr

structure Intervention where
  interventionNumber : String
  studentId : ℕ
  type : InterventionType
  status : InterventionStatus
  title : String
  assignedToId : ℕ
  startDate : ℤ
  createdAt : ℤ
  deriving DecidableEq, Repr

inductive CreatedEntity
  | incident (id : ℕ)
  | sanction (id : ℕ)
  | task (id : ℕ)
  | intervention (id : ℕ)
  deriving DecidableEq, Repr

inductive ExecutionStatus
  | success | failed | skippedDuplicate
  deriving DecidableEq, Repr

structure ActionExecution where
  actionType : ActionType
  actionConfig : ActionConfig
  status : ExecutionStatus
  createdEntity : Option CreatedEntity
  createdAt : ℤ
  deriving DecidableEq, Repr

/-- The executions of an evaluation, oldest first, are kept with it. -/
structure Evaluation where
  incidentId : ℕ
  studentId : ℕ
  stageRecord : StageRecord PolicyCondition
  evaluatedInput : EvaluatedInput
  actionExecutions : List ActionExecution
  deriving DecidableEq, Repr

/-- `users` are those a task can be assigned to; `history` the incidents flagged, with the reason. -/
structure PolicyDb where
  ruleBook : RuleBook PolicyCondition ActionConfig
  categories : Table BehaviourCategory
  users : List ℕ
  incidents : Table Incident
  sanctions : Table Sanction
  tasks : Table Task
  interventions : Table Intervention
  evaluations : Table Evaluation
  history : List (ℕ × String)

/-- What one evaluation is about. `incident` is the row as it was loaded. -/
structure EvaluationContext where
  now : ℤ
  incidentId : ℕ
  incident : Incident
  participant : Participant
  studentId : ℕ

/-- How a handler ends. -/
inductive Dispatched
  | done (db : PolicyDb) (entity : Option CreatedEntity)
  | refused (db : PolicyDb)
  | aborted

/-! ## Reading a configuration -/

section
variable {α : Type}

/-- A value with a default; the client refuses any other. -/
def ConfigField.orElse (field : ConfigField α) (default : α) : Option α :=
  match field with
  | .missing => some default
  | .value a => some a
  | .invalid => none

def ConfigField.optional (field : ConfigField α) : Option (Option α) :=
  match field with
  | .missing => some none
  | .value a => some (some a)
  | .invalid => none

/-- As a filter of a query; a missing value filters nothing. -/
def ConfigField.admits [DecidableEq α] (field : ConfigField α) (a : α) : Bool :=
  match field with
  | .missing => true
  | .value b => b = a
  | .invalid => false

/-- As a value of a column that must not be null. -/
def ConfigField.required : ConfigField α → Option α
  | .value a => some a
  | _ => none

end

/-! ## Handlers of the API's engine -/

variable (ctx : EvaluationContext)

def PolicyDb.updateIncident (db : PolicyDb) (id : ℕ) (update : Incident → Incident) : PolicyDb :=
  { db with incidents := db.incidents.modify id update }

def escalationText (incidentNumber : String) (reason : ConfigField String) : String :=
  match reason with
  | .value text => "Auto-escalated from " ++ incidentNumber ++ ". " ++ text
  | _ => "Auto-escalated from " ++ incidentNumber ++ "."

def escalatedIncident (targetCategoryId : ℕ) (targetCategory : BehaviourCategory) (reason : ConfigField String)
    (academicYearId : ℕ) : Incident where
  incidentNumber := ""
  categoryId := targetCategoryId
  polarity := targetCategory.polarity
  severity := targetCategory.severity
  contextType := ctx.incident.contextType
  occurredAt := ctx.incident.occurredAt
  weekday := ctx.incident.weekday
  periodOrder := ctx.incident.periodOrder
  status := .active
  approvalStatus := .notRequired
  parentNotificationStatus := .notRequired
  reportedById := ctx.incident.reportedById
  description := escalationText ctx.incident.incidentNumber reason
  academicYearId := academicYearId
  escalatedFromId := some ctx.incidentId
  policyEvaluationId := none
  participants := []

/-- The empty number of the new incident is under the unique index on numbers, as every other. -/
def executeAutoEscalate (config : ActionConfig) (db : PolicyDb) : Dispatched :=
  match config.targetCategoryId with
  | .missing => .done db none
  | .invalid => .refused db
  | .value targetCategoryId =>
    match db.categories.get? targetCategoryId,db.incidents.get? ctx.incidentId with
    | none,_ => .done db none
    | some _,none => .refused db
    | some targetCategory,some original =>
      if (db.incidents.select fun i => i.incidentNumber = "").isEmpty then
        let escalated := escalatedIncident ctx targetCategoryId targetCategory config.reason original.academicYearId
        .done ({ db with incidents := db.incidents.insert escalated }.updateIncident ctx.incidentId
          fun i => { i with status := .escalated }) (some (.incident db.incidents.next))
      else .aborted

def executeCreateSanction (config : ActionConfig) (db : PolicyDb) : Dispatched :=
  if config.sanctionType = .invalid then .refused db
  else
    match (db.sanctions.select fun s => s.incidentId = ctx.incidentId && s.studentId = ctx.studentId &&
        config.sanctionType.admits s.type).head? with
    | some existing => .done db (some (.sanction existing.1))
    | none =>
      match config.sanctionType.required,config.daysOffset.orElse 0,config.notes.optional with
      | some type,some daysOffset,some notes =>
        if (db.sanctions.select fun s => s.sanctionNumber = "").isEmpty then
          .done { db with sanctions := db.sanctions.insert {
            sanctionNumber := ""
            incidentId := ctx.incidentId
            studentId := ctx.studentId
            type := type
            scheduledDate := ctx.now + daysOffset * msPerDay
            notes := notes } } (some (.sanction db.sanctions.next))
        else .aborted
      | _,_,_ => .refused db

/-- `approval_status` moves from not required to pending. -/
def requireApproval (db : PolicyDb) : PolicyDb :=
  db.updateIncident ctx.incidentId fun i =>
    if i.approvalStatus = .notRequired then { i with approvalStatus := .pending } else i

def executeRequireApproval (db : PolicyDb) : Dispatched :=
  if ctx.incident.status = .awaitingApproval then .done db none else .done (requireApproval ctx db) none

def executeBlockWithoutApproval (db : PolicyDb) : Dispatched := .done (requireApproval ctx db) none

def executeRequireParentNotification (db : PolicyDb) : Dispatched :=
  .done (db.updateIncident ctx.incidentId fun i =>
    if i.parentNotificationStatus = .notRequired then { i with parentNotificationStatus := .pending } else i) none

/-- The open tasks of the incident, whatever the student. -/
def openTasks (db : PolicyDb) (admits : TaskType → Bool) : List (ℕ × Task) :=
  db.tasks.select fun t => t.entityType = .incident && t.entityId = ctx.incidentId && admits t.taskType &&
    t.status ≠ .completed && t.status ≠ .cancelled

/-- A task for a user who does not exist breaks a foreign key. -/
def createTask (db : PolicyDb) (task : Task) : Dispatched :=
  if task.assignedToId ∈ db.users then
    .done { db with tasks := db.tasks.insert task } (some (.task db.tasks.next))
  else .aborted

/-- The meeting task of both engines, with the description each gives it. -/
def createParentMeeting (db : PolicyDb) (config : ActionConfig) (notes : Option (Option String)) : Dispatched :=
  match config.dueWithinSchoolDays.orElse 5,notes with
  | some dueInDays,some description =>
    createTask db {
      taskType := .parentMeeting
      entityType := .incident
      entityId := ctx.incidentId
      title := "Parent meeting required for " ++ ctx.incident.incidentNumber
      description := description
      assignedToId := ctx.incident.reportedById
      createdById := ctx.incident.reportedById
      priority := .high
      status := .pending
      dueDate := ctx.now + dueInDays * msPerDay }
  | _,_ => .refused db

def executeRequireParentMeeting (config : ActionConfig) (db : PolicyDb) : Dispatched :=
  match (openTasks ctx db (· = .parentMeeting)).head? with
  | some existing => .done db (some (.task existing.1))
  | none => createParentMeeting ctx db config config.notes.optional

/-- The task of both engines, under the title each defaults to. -/
def createConfiguredTask (db : PolicyDb) (config : ActionConfig) (defaultTitle : String) : Dispatched :=
  match config.taskType.required,config.title.orElse defaultTitle,
      config.assignedToUserId.orElse ctx.incident.reportedById,config.priority.orElse .medium,
      config.dueInSchoolDays.orElse 3 with
  | some taskType,some title,some assigneeId,some priority,some dueInDays =>
    createTask db {
      taskType := taskType
      entityType := .incident
      entityId := ctx.incidentId
      title := title
      description := none
      assignedToId := assigneeId
      createdById := ctx.incident.reportedById
      priority := priority
      status := .pending
      dueDate := ctx.now + dueInDays * msPerDay }
  | _,_,_,_,_ => .refused db

def executeCreateTask (config : ActionConfig) (db : PolicyDb) : Dispatched :=
  if config.taskType = .invalid then .refused db
  else
    match (openTasks ctx db config.taskType.admits).head? with
    | some existing => .done db (some (.task existing.1))
    | none => createConfiguredTask ctx db config ("Task for " ++ ctx.incident.incidentNumber)

def executeCreateIntervention (config : ActionConfig) (db : PolicyDb) : Dispatched :=
  if config.interventionType = .invalid then .refused db
  else
    match (db.interventions.select fun i => i.studentId = ctx.studentId && config.interventionType.admits i.type &&
        (i.status = .activeIntervention || i.status = .planned) && ctx.now - 30 * msPerDay ≤ i.createdAt).head? with
    | some existing => .done db (some (.intervention existing.1))
    | none =>
      match config.interventionType.required,config.title.orElse ("Intervention for " ++ ctx.incident.incidentNumber) with
      | some type,some title =>
        if (db.interventions.select fun i => i.interventionNumber = "").isEmpty then
          .done { db with interventions := db.interventions.insert {
            interventionNumber := ""
            studentId := ctx.studentId
            type := type
            status := .activeIntervention
            title := title
            assignedToId := ctx.incident.reportedById
            startDate := ctx.now
            createdAt := ctx.now } } (some (.intervention db.interventions.next))
        else .aborted
      | _,_ => .refused db

/-- A reason that is no text is refused only when it is to be recorded, after the status has changed. -/
def executeFlagForReview (config : ActionConfig) (db : PolicyDb) : Dispatched :=
  if (db.incidents.get? ctx.incidentId).any fun i => i.status = .active then
    let flagged := db.updateIncident ctx.incidentId fun i => { i with status := .underReview }
    match config.reason.orElse "Flagged for review by policy engine" with
    | some reason => .done { flagged with history := flagged.history ++ [(ctx.incidentId,reason)] } none
    | none => .refused flagged
  else .done db none

def dispatchAction (actionType : ActionType) (config : ActionConfig) (db : PolicyDb) : Dispatched :=
  match actionType with
  | .autoEscalate => executeAutoEscalate ctx config db
  | .createSanction => executeCreateSanction ctx config db
  | .requireApproval => executeRequireApproval ctx db
  | .requireParentMeeting => executeRequireParentMeeting ctx config db
  | .requireParentNotification => executeRequireParentNotification ctx db
  | .createTask => executeCreateTask ctx config db
  | .createIntervention => executeCreateIntervention ctx config db
  | .notifyRoles => .done db none
  | .notifyUsers => .done db none
  | .flagForReview => executeFlagForReview ctx config db
  | .blockWithoutApproval => executeBlockWithoutApproval ctx db

/-! ## The worker's switch -/

/-- A task that is found counts as done without an entity; what has no case of its own does nothing. -/
def workerDispatch (actionType : ActionType) (config : ActionConfig) (db : PolicyDb) : Dispatched :=
  match actionType with
  | .requireParentNotification => executeRequireParentNotification ctx db
  | .requireApproval => .done (requireApproval ctx db) none
  | .blockWithoutApproval => .done (requireApproval ctx db) none
  | .flagForReview => .done (db.updateIncident ctx.incidentId fun i =>
      if i.status = .active then { i with status := .underReview } else i) none
  | .createTask =>
    if config.taskType = .invalid then .refused db
    else if (openTasks ctx db config.taskType.admits).isEmpty then
      createConfiguredTask ctx db config ("Policy task for " ++ ctx.incident.incidentNumber)
    else .done db none
  | .requireParentMeeting =>
    if (openTasks ctx db (· = .parentMeeting)).isEmpty then createParentMeeting ctx db config (some none)
    else .done db none
  | _ => .done db none

end EduPod.Policy
