import Mathlib
import EduPod.Foundation.Runs
import EduPod.Policy.ActionDedup

/-! # One evaluation in both engines

The job of the worker and the engine of the API go through the same stages, student by student. Each is
a machine whose steps evaluate a stage, carry out an action or turn to the next student; what an aborted
transaction has written is gone. The machines are run side by side on one incident.
-/
namespace EduPod.Policy
open Runs

def stageOrder : List PolicyStage := [.consequence,.approvalStage,.notificationStage,.support,.alerting]

/-- `ctx` is about the student whose turn it is; `students` are those to come. -/
structure EvaluationJob where
  db : PolicyDb
  ctx : EvaluationContext
  evaluationId : ℕ
  actions : List (ℕ × RuleAction ActionConfig)
  stages : List PolicyStage
  firstConsequenceEvaluationId : Option ℕ
  students : List (Participant × ℕ)

/-- Conditions that do not parse are skipped. -/
def PolicyDb.hits (db : PolicyDb) (ctx : EvaluationContext) (conditions : PolicyCondition) : Bool :=
  conditions.safeParse.any fun parsed => evaluateConditions parsed
    (buildEvaluatedInput db.categories db.incidents ctx.incident ctx.participant ctx.studentId parsed)

/-- The stages of the student that have an evaluation are not evaluated again. -/
def PolicyDb.pendingStages (db : PolicyDb) (incidentId studentId : ℕ) : List PolicyStage :=
  let evaluated := (db.evaluations.select fun e => e.incidentId = incidentId && e.studentId = studentId).map
    fun row => row.2.stageRecord.stage
  stageOrder.filter fun stage => !evaluated.contains stage

def PolicyDb.linkEvaluation (db : PolicyDb) (incidentId : ℕ) (evaluationId : Option ℕ) : PolicyDb :=
  match evaluationId with
  | some id => db.updateIncident incidentId fun i => { i with policyEvaluationId := some id }
  | none => db

def EvaluationJob.evaluationOf (j : EvaluationJob) (stage : PolicyStage) : Evaluation :=
  newEvaluation j.ctx (j.db.ruleBook.stageRecord stage (j.db.hits j.ctx))
    (buildEvaluatedInput j.db.categories j.db.incidents j.ctx.incident j.ctx.participant j.ctx.studentId {})

def EvaluationJob.evaluateStage (j : EvaluationJob) (stage : PolicyStage) (stages : List PolicyStage) : EvaluationJob :=
  { j with
    db := j.db.createEvaluation (j.evaluationOf stage)
    evaluationId := j.db.evaluations.next
    actions := actionsOf (matchedRules (j.db.hits j.ctx) (j.db.ruleBook.stageRules stage))
    stages := stages
    firstConsequenceEvaluationId :=
      if stage = .consequence then some j.db.evaluations.next else j.firstConsequenceEvaluationId }

/-- What is left to do of one student, then the next one. -/
def EvaluationJob.turn (j : EvaluationJob) : EvaluationJob :=
  let db := j.db.linkEvaluation j.ctx.incidentId j.firstConsequenceEvaluationId
  match j.students with
  | [] => { j with db := db, firstConsequenceEvaluationId := none }
  | student :: students =>
    { j with
      db := db
      ctx := { j.ctx with participant := student.1, studentId := student.2 }
      stages := db.pendingStages j.ctx.incidentId student.2
      firstConsequenceEvaluationId := none
      students := students }

def Engine.step (engine : Engine) (j : EvaluationJob) : Option EvaluationJob :=
  match j.actions with
  | a :: actions => (engine.runAction j.ctx j.evaluationId j.db a.1 a.2).map fun r =>
      { j with db := r.1, actions := actions }
  | [] =>
    match j.stages with
    | stage :: stages => some (j.evaluateStage stage stages)
    | [] => some j.turn

/-- `processJob`: nothing is done for an incident that is withdrawn or a draft, nor without students. -/
def PolicyDb.startJob (db : PolicyDb) (now : ℤ) (incidentId : ℕ) : Option EvaluationJob :=
  ((db.incidents.get? incidentId).filter Incident.counts).bind fun incident =>
    match (incident.participants.filter fun p => p.participantType = .student).filterMap
        fun p => p.studentId.map (p,·) with
    | [] => none
    | student :: students => some {
        db := db
        ctx := ⟨now,incidentId,incident,student.1,student.2⟩
        evaluationId := 0
        actions := []
        stages := db.pendingStages incidentId student.2
        firstConsequenceEvaluationId := none
        students := students }

/-! ## What the engines are to have in common -/

def Evaluation.unexecuted (e : Evaluation) : Evaluation := { e with actionExecutions := [] }

/-- Everything but the executions. -/
def PolicyDb.withoutExecutions (db : PolicyDb) : PolicyDb :=
  { db with evaluations := db.evaluations.mapRows fun _ e => e.unexecuted }

def ActionType.createsEntity : ActionType → Bool
  | .autoEscalate => true
  | .createSanction => true
  | .createIntervention => true
  | _ => false

def PolicyDb.contains (db : PolicyDb) : CreatedEntity → Bool
  | .incident id => (db.incidents.get? id).isSome
  | .sanction id => (db.sanctions.get? id).isSome
  | .task id => (db.tasks.get? id).isSome
  | .intervention id => (db.interventions.get? id).isSome

/-- A success of an action that is to create an entity names one, and it is there. -/
def PolicyDb.EntitiesCreated (db : PolicyDb) : Prop :=
  db.evaluations.All fun e => ∀ x ∈ e.actionExecutions, x.status = .success → x.actionType.createsEntity = true →
    x.createdEntity.any db.contains = true

/-- Two jobs side by side; `none` is one whose transaction was aborted. -/
abbrev Engines := Option EvaluationJob × Option EvaluationJob

/-- The same evaluations are recorded, what was done has had the same effect, and what a success is to have
created is there. -/
def Agree (p : Engines) : Prop :=
  (p.1 = none ∧ p.2 = none) ∨ ∃ api worker, p.1 = some api ∧ p.2 = some worker ∧
    api.db.withoutExecutions = worker.db.withoutExecutions ∧ api.db.EntitiesCreated ∧ worker.db.EntitiesCreated

def sideBySide (p : Engines) (_ : Unit) : Engines := (p.1.bind Engine.api.step,p.2.bind Engine.worker.step)

/-! ## When an action has the same effect -/

variable (ctx : EvaluationContext) (db : PolicyDb)

/-- A task is created unless the configuration is refused or an open task is found. -/
def TaskIsCreated (config : ActionConfig) : Prop :=
  openTasks ctx db config.taskType.admits = [] ∧ config.taskType.required.isSome = true ∧
    config.priority ≠ .invalid ∧ config.dueInSchoolDays ≠ .invalid ∧
    ∃ assigneeId, config.assignedToUserId.orElse ctx.incident.reportedById = some assigneeId ∧ assigneeId ∈ db.users

/-- When both engines have the same effect with an action they carry out. -/
def Alike (actionType : ActionType) (config : ActionConfig) : Prop :=
  match actionType with
  | .autoEscalate => False
  | .createSanction => False
  | .createIntervention => False
  | .requireApproval => ctx.incident.status = .awaitingApproval →
      ∀ incident, db.incidents.get? ctx.incidentId = some incident → incident.approvalStatus ≠ .notRequired
  | .flagForReview => ∀ incident, db.incidents.get? ctx.incidentId = some incident → incident.status = .active →
      config.reason = .invalid
  | .createTask => config.title = .missing → ¬TaskIsCreated ctx db config
  | .requireParentMeeting => config.notes ≠ .missing → openTasks ctx db (· = .parentMeeting) ≠ [] ∨
      config.dueWithinSchoolDays = .invalid ∨ (config.notes ≠ .invalid ∧ ctx.incident.reportedById ∉ db.users)
  | .requireParentNotification => True
  | .notifyRoles => True
  | .notifyUsers => True
  | .blockWithoutApproval => True

/-- The action that is next, unless one of its type has succeeded in the stage. -/
def EvaluationJob.NextAlike (j : EvaluationJob) : Prop :=
  ∀ a ∈ j.actions.head?, j.db.alreadySucceeded j.evaluationId a.2.actionType = false →
    Alike j.ctx j.db a.2.actionType a.2.actionConfig

variable {ctx db} {a w db' : PolicyDb} {actionType : ActionType} {config : ActionConfig}

/-! ## Handlers do not look at the evaluations -/

def PolicyDb.withEvaluations (db : PolicyDb) (evaluations : Table Evaluation) : PolicyDb :=
  { db with evaluations := evaluations }

def Dispatched.mapDb (f : PolicyDb → PolicyDb) : Dispatched → Dispatched
  | .done db entity => .done (f db) entity
  | .refused db => .refused (f db)
  | .aborted => .aborted

/-- The state an action leaves, if any. -/
def Dispatched.result : Dispatched → Option PolicyDb
  | .done db _ => some db
  | .refused db => some db
  | .aborted => none

theorem eq_withEvaluations (h : a.withoutExecutions = w.withoutExecutions) : w = a.withEvaluations w.evaluations := by
  cases a
  cases w
  simp only [PolicyDb.withoutExecutions,PolicyDb.mk.injEq] at h
  obtain ⟨rfl,rfl,rfl,rfl,rfl,rfl,rfl,-,rfl⟩ := h
  rfl

theorem createTask_withEvaluations (evaluations : Table Evaluation) (task : Task) :
    createTask (db.withEvaluations evaluations) task = (createTask db task).mapDb (·.withEvaluations evaluations) := by
  unfold createTask
  by_cases h : task.assignedToId ∈ db.users
  · rw [if_pos h]
    exact if_pos h
  · rw [if_neg h]
    exact if_neg h

theorem createParentMeeting_withEvaluations (evaluations : Table Evaluation) (notes : Option (Option String)) :
    createParentMeeting ctx (db.withEvaluations evaluations) config notes =
      (createParentMeeting ctx db config notes).mapDb (·.withEvaluations evaluations) := by
  unfold createParentMeeting
  split
  · exact createTask_withEvaluations evaluations _
  · rfl

theorem createConfiguredTask_withEvaluations (evaluations : Table Evaluation) (title : String) :
    createConfiguredTask ctx (db.withEvaluations evaluations) config title =
      (createConfiguredTask ctx db config title).mapDb (·.withEvaluations evaluations) := by
  unfold createConfiguredTask
  split
  · exact createTask_withEvaluations evaluations _
  · rfl

theorem workerDispatch_withEvaluations (evaluations : Table Evaluation) :
    workerDispatch ctx actionType config (db.withEvaluations evaluations) =
      (workerDispatch ctx actionType config db).mapDb (·.withEvaluations evaluations) := by
  have hopen : ∀ admits, openTasks ctx (db.withEvaluations evaluations) admits = openTasks ctx db admits := fun _ => rfl
  cases actionType with
  | createTask =>
    simp only [workerDispatch,hopen]
    split
    · rfl
    · split
      · exact createConfiguredTask_withEvaluations evaluations _
      · rfl
  | requireParentMeeting =>
    simp only [workerDispatch,hopen]
    split
    · exact createParentMeeting_withEvaluations evaluations _
    · rfl
  | _ => rfl

/-! ## Handlers with the same effect -/

theorem updateIncident_eq_self_iff {id : ℕ} {g : Incident → Incident} :
    db.updateIncident id g = db ↔ ∀ x, db.incidents.get? id = some x → g x = x := by
  rw [← Table.modify_eq_self_iff]
  constructor
  · intro h
    exact congrArg PolicyDb.incidents h
  · intro h
    unfold PolicyDb.updateIncident
    rw [h]

theorem result_requireApproval_iff : (dispatchAction ctx .requireApproval config db).result =
    (workerDispatch ctx .requireApproval config db).result ↔ Alike ctx db .requireApproval config := by
  have hself : db = requireApproval ctx db ↔ ∀ incident, db.incidents.get? ctx.incidentId = some incident →
      incident.approvalStatus ≠ .notRequired := by
    rw [eq_comm,requireApproval,updateIncident_eq_self_iff]
    apply forall_congr'
    intro incident
    apply imp_congr_right
    intro _
    by_cases h : incident.approvalStatus = .notRequired
    · rw [if_pos h]
      refine iff_of_false (fun heq => ?_) (not_not.mpr h)
      rw [← heq] at h
      cases h
    · rw [if_neg h]
      exact iff_of_true rfl h
  simp only [dispatchAction,workerDispatch,executeRequireApproval,Alike]
  by_cases h : ctx.incident.status = .awaitingApproval
  · rw [if_pos h]
    simp only [Dispatched.result,Option.some.injEq]
    rw [hself]
    exact ⟨fun hnone _ => hnone,fun hnone => hnone h⟩
  · rw [if_neg h]
    exact iff_of_true rfl fun hawaiting => absurd hawaiting h

theorem updateIncident_congr {id : ℕ} {f g : Incident → Incident}
    (h : ∀ x, db.incidents.get? id = some x → f x = g x) : db.updateIncident id f = db.updateIncident id g := by
  have hmodify : db.incidents.modify id f = db.incidents.modify id g := by
    rw [Table.modify_eq_mapRows,Table.modify_eq_mapRows]
    apply Table.mapRows_congr
    intro r hr
    by_cases hid : r.1 = id
    · rw [if_pos hid,if_pos hid]
      exact h r.2 (hid ▸ Table.get?_of_row hr)
    · rw [if_neg hid,if_neg hid]
  unfold PolicyDb.updateIncident
  rw [hmodify]

def flagActive (i : Incident) : Incident := if i.status = .active then { i with status := .underReview } else i

theorem result_flagForReview_iff : (dispatchAction ctx .flagForReview config db).result =
    (workerDispatch ctx .flagForReview config db).result ↔ Alike ctx db .flagForReview config := by
  have hworker : (workerDispatch ctx .flagForReview config db).result =
      some (db.updateIncident ctx.incidentId flagActive) := rfl
  rw [hworker]
  simp only [dispatchAction,executeFlagForReview,Alike]
  by_cases hactive : (db.incidents.get? ctx.incidentId).any fun i => i.status = .active
  · obtain ⟨incident,hget,hstatus⟩ := (Option.any_eq_true _ _).mp hactive
    have hsame : db.updateIncident ctx.incidentId flagActive =
        db.updateIncident ctx.incidentId fun i => { i with status := .underReview } := by
      apply updateIncident_congr
      intro x hx
      obtain rfl := Option.some.inj (hget.symm.trans hx)
      exact if_pos (by simpa using hstatus)
    rw [if_pos hactive,hsame]
    have hlonger : ∀ reason : String, ¬(Dispatched.done { db.updateIncident ctx.incidentId fun i =>
        { i with status := .underReview } with history := (db.updateIncident ctx.incidentId fun i =>
          { i with status := .underReview }).history ++ [(ctx.incidentId,reason)] } none).result =
        some (db.updateIncident ctx.incidentId fun i => { i with status := .underReview }) := by
      intro reason heq
      have hlength := congrArg (fun d : PolicyDb => d.history.length) (Option.some.inj heq)
      simp at hlength
    have hnot : (∀ i, db.incidents.get? ctx.incidentId = some i → i.status = .active → config.reason = .invalid) ↔
        config.reason = .invalid :=
      ⟨fun h => h incident hget (by simpa using hstatus),fun h _ _ _ => h⟩
    rw [hnot]
    cases hreason : config.reason with
    | missing => exact iff_of_false (hlonger _) (by simp)
    | value text => exact iff_of_false (hlonger _) (by simp)
    | invalid => exact iff_of_true rfl rfl
  · rw [if_neg hactive]
    have hinactive : ∀ i, db.incidents.get? ctx.incidentId = some i → ¬i.status = .active := by
      intro i hi hstatus
      rw [hi] at hactive
      exact hactive (by simpa using hstatus)
    have hself : db.updateIncident ctx.incidentId flagActive = db :=
      updateIncident_eq_self_iff.mpr fun i hi => if_neg (hinactive i hi)
    rw [hself]
    exact iff_of_true rfl fun i hi hstatus => absurd hstatus (hinactive i hi)

theorem result_createTask_eq_iff {t u : Task} (h : t.assignedToId = u.assignedToId) :
    (createTask db t).result = (createTask db u).result ↔ t = u ∨ t.assignedToId ∉ db.users := by
  unfold createTask
  rw [← h]
  by_cases hmem : t.assignedToId ∈ db.users
  · rw [if_pos hmem,if_pos hmem,or_iff_left (not_not.mpr hmem)]
    constructor
    · intro heq
      have htasks := congrArg (fun d : PolicyDb => d.tasks.rows.getLast?) (Option.some.inj heq)
      simpa [Table.insert] using htasks
    · rintro rfl
      rfl
  · rw [if_neg hmem,if_neg hmem]
    exact iff_of_true rfl (.inr hmem)

theorem invalid_of_orElse {α : Type} {field : ConfigField α} {default : α} (h : field.orElse default = none) :
    field = .invalid := by
  cases field with
  | invalid => rfl
  | missing | value => cases h

theorem ne_invalid_of_orElse {α : Type} {field : ConfigField α} {default a : α} (h : field.orElse default = some a) :
    field ≠ .invalid := by
  rintro rfl
  cases h

/-- A configured task depends on its default title only if it is created without one. -/
theorem result_createConfiguredTask_iff {title title' : String} (htitle : title ≠ title')
    (hopen : openTasks ctx db config.taskType.admits = []) :
    (createConfiguredTask ctx db config title).result = (createConfiguredTask ctx db config title').result ↔
      (config.title = .missing → ¬TaskIsCreated ctx db config) := by
  by_cases hmissing : config.title = .missing
  · have hnot : (config.title = .missing → ¬TaskIsCreated ctx db config) ↔ ¬TaskIsCreated ctx db config :=
      ⟨fun h => h hmissing,fun h _ => h⟩
    rw [hnot]
    unfold createConfiguredTask TaskIsCreated
    rw [hmissing]
    cases htype : config.taskType.required with
    | none => exact iff_of_true rfl fun h => by simp at h
    | some taskType =>
      cases hassignee : config.assignedToUserId.orElse ctx.incident.reportedById with
      | none => exact iff_of_true rfl fun h => by simp at h
      | some assigneeId =>
        cases hpriority : config.priority.orElse .medium with
        | none => exact iff_of_true rfl fun h => h.2.2.1 (invalid_of_orElse hpriority)
        | some priority =>
          cases hdue : config.dueInSchoolDays.orElse 3 with
          | none => exact iff_of_true rfl fun h => h.2.2.2.1 (invalid_of_orElse hdue)
          | some dueInDays =>
            have hp := ne_invalid_of_orElse hpriority
            have hd := ne_invalid_of_orElse hdue
            simp only [ConfigField.orElse]
            rw [result_createTask_eq_iff (by rfl)]
            simp [htitle,hopen,hp,hd]
  · refine iff_of_true ?_ fun h => absurd h hmissing
    unfold createConfiguredTask
    cases htitle : config.title with
    | missing => exact absurd htitle hmissing
    | value text => rfl
    | invalid => rfl

theorem result_createTask_iff : (dispatchAction ctx .createTask config db).result =
    (workerDispatch ctx .createTask config db).result ↔ Alike ctx db .createTask config := by
  simp only [dispatchAction,workerDispatch,executeCreateTask,Alike]
  by_cases hinvalid : config.taskType = .invalid
  · rw [if_pos hinvalid,if_pos hinvalid]
    refine iff_of_true rfl fun _ h => ?_
    have hsome := h.2.1
    rw [hinvalid] at hsome
    cases hsome
  · rw [if_neg hinvalid,if_neg hinvalid]
    cases hopen : openTasks ctx db config.taskType.admits with
    | nil =>
      apply result_createConfiguredTask_iff _ hopen
      intro heq
      have hlength := congrArg String.length heq
      rw [String.length_append,String.length_append] at hlength
      exact absurd (Nat.add_right_cancel hlength) (by decide)
    | cons t ts =>
      refine iff_of_true rfl fun _ h => ?_
      rw [h.1] at hopen
      cases hopen

theorem result_createParentMeeting_iff (hopen : openTasks ctx db (· = .parentMeeting) = []) :
    (createParentMeeting ctx db config config.notes.optional).result =
      (createParentMeeting ctx db config (some none)).result ↔ Alike ctx db .requireParentMeeting config := by
  simp only [Alike,createParentMeeting]
  cases hdue : config.dueWithinSchoolDays.orElse 5 with
  | none => exact iff_of_true rfl fun _ => .inr (.inl (invalid_of_orElse hdue))
  | some dueInDays =>
    have hd := ne_invalid_of_orElse hdue
    cases hnotes : config.notes with
    | missing => exact iff_of_true rfl fun h => absurd rfl h
    | value text =>
      simp only [ConfigField.optional]
      rw [result_createTask_eq_iff (by rfl)]
      simp [hopen,hd]
    | invalid =>
      simp only [ConfigField.optional]
      refine iff_of_false ?_ (by simp [hopen,hd])
      -- refused by the API; the worker goes on to create the task
      unfold createTask
      split
      · intro heq
        have htasks := congrArg (fun d : PolicyDb => d.tasks.next) (Option.some.inj heq)
        simp at htasks
      · simp [Dispatched.result]

theorem result_requireParentMeeting_iff : (dispatchAction ctx .requireParentMeeting config db).result =
    (workerDispatch ctx .requireParentMeeting config db).result ↔ Alike ctx db .requireParentMeeting config := by
  cases hopen : openTasks ctx db (· = .parentMeeting) with
  | nil =>
    have hapi : dispatchAction ctx .requireParentMeeting config db =
        createParentMeeting ctx db config config.notes.optional := by
      simp [dispatchAction,executeRequireParentMeeting,hopen]
    have hworker : workerDispatch ctx .requireParentMeeting config db = createParentMeeting ctx db config (some none) := by
      simp [workerDispatch,hopen]
    rw [hapi,hworker]
    exact result_createParentMeeting_iff hopen
  | cons t ts =>
    have hapi : (dispatchAction ctx .requireParentMeeting config db).result = some db := by
      simp [dispatchAction,executeRequireParentMeeting,hopen,Dispatched.result]
    have hworker : (workerDispatch ctx .requireParentMeeting config db).result = some db := by
      simp [workerDispatch,hopen,Dispatched.result]
    rw [hapi,hworker]
    exact iff_of_true rfl fun _ => .inl (by simp [hopen])

theorem result_eq_iff (h : actionType.createsEntity = false) : (dispatchAction ctx actionType config db).result =
    (workerDispatch ctx actionType config db).result ↔ Alike ctx db actionType config := by
  cases actionType with
  | autoEscalate | createSanction | createIntervention => cases h
  | requireApproval => exact result_requireApproval_iff
  | requireParentMeeting => exact result_requireParentMeeting_iff
  | createTask => exact result_createTask_iff
  | flagForReview => exact result_flagForReview_iff
  | requireParentNotification | notifyRoles | notifyUsers | blockWithoutApproval => exact iff_of_true rfl trivial

/-! ## Successes -/

def Dispatched.succeeds : Dispatched → Bool
  | .done _ _ => true
  | .refused _ => false
  | .aborted => false

theorem succeeds_createTask {t u : Task} (h : t.assignedToId = u.assignedToId) :
    (createTask db t).succeeds = (createTask db u).succeeds := by
  unfold createTask
  rw [← h]
  split <;> rfl

theorem succeeds_createConfiguredTask (title title' : String) :
    (createConfiguredTask ctx db config title).succeeds = (createConfiguredTask ctx db config title').succeeds := by
  unfold createConfiguredTask
  cases config.taskType.required with
  | none => rfl
  | some taskType =>
    cases config.title <;> cases config.assignedToUserId <;> cases config.priority <;> cases config.dueInSchoolDays <;>
      first | rfl | exact succeeds_createTask rfl

theorem succeeds_requireParentMeeting (h : Alike ctx db .requireParentMeeting config) :
    (dispatchAction ctx .requireParentMeeting config db).succeeds =
      (workerDispatch ctx .requireParentMeeting config db).succeeds := by
  cases hopen : openTasks ctx db (· = .parentMeeting) with
  | nil =>
    simp only [dispatchAction,workerDispatch,executeRequireParentMeeting,hopen,List.head?_nil,List.isEmpty_nil,if_true,
      createParentMeeting]
    cases hdue : config.dueWithinSchoolDays.orElse 5 with
    | none => rfl
    | some dueInDays =>
      cases hnotes : config.notes with
      | missing => rfl
      | value text => exact succeeds_createTask rfl
      | invalid =>
        have hd := ne_invalid_of_orElse hdue
        simp [Alike,hopen,hnotes,hd] at h
  | cons t ts => simp [dispatchAction,workerDispatch,executeRequireParentMeeting,hopen,Dispatched.succeeds]

theorem succeeds_createTask_eq : (dispatchAction ctx .createTask config db).succeeds =
    (workerDispatch ctx .createTask config db).succeeds := by
  simp only [dispatchAction,workerDispatch,executeCreateTask]
  by_cases hinvalid : config.taskType = .invalid
  · rw [if_pos hinvalid,if_pos hinvalid]
  · rw [if_neg hinvalid,if_neg hinvalid]
    cases openTasks ctx db config.taskType.admits with
    | nil => exact succeeds_createConfiguredTask _ _
    | cons t ts => rfl

/-- Where the effect is the same, only a flag can fail in one engine and succeed in the other. -/
theorem succeeds_eq (h : actionType.createsEntity = false) (halike : Alike ctx db actionType config)
    (hflag : actionType ≠ .flagForReview) : (dispatchAction ctx actionType config db).succeeds =
      (workerDispatch ctx actionType config db).succeeds := by
  cases actionType with
  | autoEscalate | createSanction | createIntervention => cases h
  | flagForReview => exact absurd rfl hflag
  | requireParentMeeting => exact succeeds_requireParentMeeting halike
  | createTask => exact succeeds_createTask_eq
  | requireApproval =>
    simp only [dispatchAction,workerDispatch,executeRequireApproval]
    split <;> rfl
  | requireParentNotification | notifyRoles | notifyUsers | blockWithoutApproval => rfl

/-! ## Incidents stay what they are -/

/-- The incident is not active. -/
def Inactive (incidentId : ℕ) (db : PolicyDb) : Prop :=
  ∀ incident, db.incidents.get? incidentId = some incident → incident.status ≠ .active

theorem Inactive.updateIncident {incidentId id : ℕ} (h : Inactive incidentId db) {f : Incident → Incident}
    (hf : ∀ i : Incident, i.status ≠ .active → (f i).status ≠ .active) : Inactive incidentId (db.updateIncident id f) := by
  intro incident hget
  rw [PolicyDb.updateIncident,Table.get?_modify] at hget
  split at hget
  · obtain ⟨i,hi,rfl⟩ := Option.map_eq_some_iff.mp hget
    exact hf i (h i hi)
  · exact h incident hget

end EduPod.Policy
