import Mathlib
import EduPod.Foundation.TableBulk
import EduPod.Policy.Actions

/-! # Which actions of a stage are suppressed

Both engines skip an action when one of its type has already succeeded in the evaluation, and the worker
also when one has for the student and the rule within a day. What an action would bring about does not
enter into either.
-/
namespace EduPod.Policy

inductive Engine
  | api | worker
  deriving DecidableEq, Repr

inductive Outcome
  | executed (status : ExecutionStatus)
  | skippedDuplicate
  | coolingDown
  deriving DecidableEq, Repr

def Engine.dispatch (engine : Engine) (ctx : EvaluationContext) (actionType : ActionType) (config : ActionConfig)
    (db : PolicyDb) : Dispatched :=
  match engine with
  | .api => dispatchAction ctx actionType config db
  | .worker => workerDispatch ctx actionType config db

def PolicyDb.record (db : PolicyDb) (evaluationId : ℕ) (execution : ActionExecution) : PolicyDb :=
  { db with evaluations := db.evaluations.modify evaluationId fun e =>
    { e with actionExecutions := e.actionExecutions ++ [execution] } }

def Evaluation.hasSucceeded (evaluation : Evaluation) (actionType : ActionType) : Bool :=
  evaluation.actionExecutions.any fun x => x.actionType = actionType && x.status = .success

def PolicyDb.alreadySucceeded (db : PolicyDb) (evaluationId : ℕ) (actionType : ActionType) : Bool :=
  (db.evaluations.get? evaluationId).any fun e => e.hasSucceeded actionType

/-- The action and how its execution is recorded; nothing is when the transaction has failed. -/
def Engine.executeAction (engine : Engine) (ctx : EvaluationContext) (evaluationId : ℕ) (db : PolicyDb)
    (action : RuleAction ActionConfig) : Option (PolicyDb × Outcome) :=
  if db.alreadySucceeded evaluationId action.actionType then
    some (db.record evaluationId ⟨action.actionType,action.actionConfig,.skippedDuplicate,none,ctx.now⟩,.skippedDuplicate)
  else
    match engine.dispatch ctx action.actionType action.actionConfig db with
    | .done db entity =>
      some (db.record evaluationId ⟨action.actionType,action.actionConfig,.success,entity,ctx.now⟩,.executed .success)
    | .refused db =>
      some (db.record evaluationId ⟨action.actionType,action.actionConfig,.failed,none,ctx.now⟩,.executed .failed)
    | .aborted => none

/-- An evaluation of the student is recorded under the version of its first matched rule. -/
def Evaluation.isOf (evaluation : Evaluation) (studentId ruleId : ℕ) : Bool :=
  evaluation.studentId = studentId && (evaluation.stageRecord.ruleVersionId.map Prod.fst) = some ruleId

/-- A success of the same type for the student and the rule within the last day. -/
def PolicyDb.recentExecution (db : PolicyDb) (now : ℤ) (studentId ruleId : ℕ) (actionType : ActionType) : Bool :=
  !(db.evaluations.select fun e => e.isOf studentId ruleId && e.actionExecutions.any fun x =>
    x.actionType = actionType && x.status = .success && now - msPerDay ≤ x.createdAt).isEmpty

/-- One action of a matched rule. -/
def Engine.runAction (engine : Engine) (ctx : EvaluationContext) (evaluationId : ℕ) (db : PolicyDb) (ruleId : ℕ)
    (action : RuleAction ActionConfig) : Option (PolicyDb × Outcome) :=
  if engine = .worker && db.recentExecution ctx.now ctx.studentId ruleId action.actionType then some (db,.coolingDown)
  else engine.executeAction ctx evaluationId db action

/-- The actions of the matched rules in the order they are carried out, with the rule of each. -/
def actionsOf (rules : List (ℕ × Rule)) : List (ℕ × RuleAction ActionConfig) :=
  rules.flatMap fun rule => (inExecutionOrder rule.2.actions).map fun action => (rule.1,action)

def Engine.runActions (engine : Engine) (ctx : EvaluationContext) (evaluationId : ℕ) (db : PolicyDb)
    (actions : List (ℕ × RuleAction ActionConfig)) : Option PolicyDb :=
  actions.foldlM (fun db a => (engine.runAction ctx evaluationId db a.1 a.2).map Prod.fst) db

/-- The evaluation of a stage as it is created, before any action. -/
def newEvaluation (ctx : EvaluationContext) (stageRecord : StageRecord PolicyCondition)
    (evaluatedInput : EvaluatedInput) : Evaluation :=
  ⟨ctx.incidentId,ctx.studentId,stageRecord,evaluatedInput,[]⟩

def PolicyDb.createEvaluation (db : PolicyDb) (evaluation : Evaluation) : PolicyDb :=
  { db with evaluations := db.evaluations.insert evaluation }

/-! ## What an action is to bring about -/

/-- The part of a configuration by which the handlers tell entities apart. -/
inductive Effect
  | escalation (targetCategoryId : ConfigField ℕ)
  | sanction (type : ConfigField SanctionType)
  | task (taskType : ConfigField TaskType)
  | intervention (type : ConfigField InterventionType)
  | plain (actionType : ActionType)
  deriving DecidableEq, Repr

def effectOf (actionType : ActionType) (config : ActionConfig) : Effect :=
  match actionType with
  | .autoEscalate => .escalation config.targetCategoryId
  | .createSanction => .sanction config.sanctionType
  | .createTask => .task config.taskType
  | .createIntervention => .intervention config.interventionType
  | other => .plain other

/-- A success of the type and the effect is recorded for the incident and the student. -/
def PolicyDb.Succeeded (db : PolicyDb) (incidentId studentId : ℕ) (actionType : ActionType) (effect : Effect) : Prop :=
  ∃ row ∈ db.evaluations.rows, row.2.incidentId = incidentId ∧ row.2.studentId = studentId ∧
    ∃ x ∈ row.2.actionExecutions, x.actionType = actionType ∧ effectOf x.actionType x.actionConfig = effect ∧
      x.status = .success

instance (db : PolicyDb) (incidentId studentId : ℕ) (actionType : ActionType) (effect : Effect) :
    Decidable (db.Succeeded incidentId studentId actionType effect) :=
  inferInstanceAs (Decidable (∃ row ∈ db.evaluations.rows, row.2.incidentId = incidentId ∧
    row.2.studentId = studentId ∧ ∃ x ∈ row.2.actionExecutions, x.actionType = actionType ∧
      effectOf x.actionType x.actionConfig = effect ∧ x.status = .success))

/-- Every action of a stage is executed, or one of its type and effect has succeeded before it. -/
def EveryActionTakesEffect (engine : Engine) : Prop :=
  ∀ (ctx : EvaluationContext) (created : PolicyDb) (stageRecord : StageRecord PolicyCondition)
    (evaluatedInput : EvaluatedInput) (rules : List (ℕ × Rule)) (before after : List (ℕ × RuleAction ActionConfig))
    (a : ℕ × RuleAction ActionConfig) (db db' : PolicyDb) (outcome : Outcome),
    actionsOf rules = before ++ a :: after →
    engine.runActions ctx created.evaluations.next (created.createEvaluation (newEvaluation ctx stageRecord
      evaluatedInput)) before = some db →
    engine.runAction ctx created.evaluations.next db a.1 a.2 = some (db',outcome) →
    (∃ status, outcome = .executed status) ∨
      db.Succeeded ctx.incidentId ctx.studentId a.2.actionType (effectOf a.2.actionType a.2.actionConfig)

variable {engine : Engine} {ctx : EvaluationContext} {db db' created : PolicyDb} {evaluationId : ℕ}
  {before after : List (ℕ × RuleAction ActionConfig)} {a : ℕ × RuleAction ActionConfig} {outcome : Outcome}

/-! ## Handlers leave the evaluations alone -/

def Dispatched.KeepsEvaluations (db : PolicyDb) : Dispatched → Prop
  | .done db' _ => db'.evaluations = db.evaluations
  | .refused db' => db'.evaluations = db.evaluations
  | .aborted => True

theorem keepsEvaluations_createTask (task : Task) : (createTask db task).KeepsEvaluations db := by
  unfold createTask
  split
  · rfl
  · trivial

theorem keepsEvaluations_createParentMeeting (config : ActionConfig) (notes : Option (Option String)) :
    (createParentMeeting ctx db config notes).KeepsEvaluations db := by
  unfold createParentMeeting
  split
  · exact keepsEvaluations_createTask _
  · rfl

theorem keepsEvaluations_createConfiguredTask (config : ActionConfig) (title : String) :
    (createConfiguredTask ctx db config title).KeepsEvaluations db := by
  unfold createConfiguredTask
  split
  · exact keepsEvaluations_createTask _
  · rfl

theorem keepsEvaluations_executeAutoEscalate (config : ActionConfig) :
    (executeAutoEscalate ctx config db).KeepsEvaluations db := by
  unfold executeAutoEscalate
  split
  · rfl
  · rfl
  · split
    · rfl
    · rfl
    · split
      · rfl
      · trivial

theorem keepsEvaluations_executeCreateSanction (config : ActionConfig) :
    (executeCreateSanction ctx config db).KeepsEvaluations db := by
  unfold executeCreateSanction
  split
  · rfl
  · split
    · rfl
    · split
      · split
        · rfl
        · trivial
      · rfl

theorem keepsEvaluations_executeCreateIntervention (config : ActionConfig) :
    (executeCreateIntervention ctx config db).KeepsEvaluations db := by
  unfold executeCreateIntervention
  split
  · rfl
  · split
    · rfl
    · split
      · split
        · rfl
        · trivial
      · rfl

theorem keepsEvaluations_executeCreateTask (config : ActionConfig) :
    (executeCreateTask ctx config db).KeepsEvaluations db := by
  unfold executeCreateTask
  split
  · rfl
  · split
    · rfl
    · exact keepsEvaluations_createConfiguredTask _ _

theorem keepsEvaluations_executeRequireParentMeeting (config : ActionConfig) :
    (executeRequireParentMeeting ctx config db).KeepsEvaluations db := by
  unfold executeRequireParentMeeting
  split
  · rfl
  · exact keepsEvaluations_createParentMeeting _ _

theorem keepsEvaluations_executeFlagForReview (config : ActionConfig) :
    (executeFlagForReview ctx config db).KeepsEvaluations db := by
  unfold executeFlagForReview
  split
  · dsimp only
    split <;> rfl
  · rfl

theorem keepsEvaluations_executeRequireApproval : (executeRequireApproval ctx db).KeepsEvaluations db := by
  unfold executeRequireApproval
  split <;> rfl

theorem keepsEvaluations_dispatchAction (actionType : ActionType) (config : ActionConfig) :
    (dispatchAction ctx actionType config db).KeepsEvaluations db := by
  cases actionType with
  | autoEscalate => exact keepsEvaluations_executeAutoEscalate config
  | createSanction => exact keepsEvaluations_executeCreateSanction config
  | requireApproval => exact keepsEvaluations_executeRequireApproval
  | requireParentMeeting => exact keepsEvaluations_executeRequireParentMeeting config
  | createTask => exact keepsEvaluations_executeCreateTask config
  | createIntervention => exact keepsEvaluations_executeCreateIntervention config
  | flagForReview => exact keepsEvaluations_executeFlagForReview config
  | requireParentNotification | notifyRoles | notifyUsers | blockWithoutApproval => rfl

theorem keepsEvaluations_workerCreateTask (config : ActionConfig) :
    (workerDispatch ctx .createTask config db).KeepsEvaluations db := by
  simp only [workerDispatch]
  split
  · rfl
  · split
    · exact keepsEvaluations_createConfiguredTask _ _
    · rfl

theorem keepsEvaluations_workerDispatch (actionType : ActionType) (config : ActionConfig) :
    (workerDispatch ctx actionType config db).KeepsEvaluations db := by
  cases actionType with
  | createTask => exact keepsEvaluations_workerCreateTask config
  | requireParentMeeting =>
    simp only [workerDispatch]
    split
    · exact keepsEvaluations_createParentMeeting _ _
    · rfl
  | _ => rfl

theorem keepsEvaluations_dispatch (actionType : ActionType) (config : ActionConfig) :
    (engine.dispatch ctx actionType config db).KeepsEvaluations db := by
  cases engine with
  | api => exact keepsEvaluations_dispatchAction actionType config
  | worker => exact keepsEvaluations_workerDispatch actionType config

/-! ## What the log of an evaluation says -/

/-- The evaluation is the student's, and each success in it is one of the given actions. -/
def Logged (ctx : EvaluationContext) (evaluationId : ℕ) (actions : List (ℕ × RuleAction ActionConfig))
    (db : PolicyDb) : Prop :=
  ∃ e, db.evaluations.get? evaluationId = some e ∧ e.incidentId = ctx.incidentId ∧ e.studentId = ctx.studentId ∧
    ∀ x ∈ e.actionExecutions, x.status = .success →
      ∃ b ∈ actions, b.2.actionType = x.actionType ∧ b.2.actionConfig = x.actionConfig

theorem logged_createEvaluation (stageRecord : StageRecord PolicyCondition) (evaluatedInput : EvaluatedInput) :
    Logged ctx created.evaluations.next []
      (created.createEvaluation (newEvaluation ctx stageRecord evaluatedInput)) :=
  ⟨newEvaluation ctx stageRecord evaluatedInput,by simp [PolicyDb.createEvaluation,Table.get?_insert],rfl,rfl,
    fun x hx => by simp [newEvaluation] at hx⟩

theorem Logged.mono (h : Logged ctx evaluationId before db) : Logged ctx evaluationId (before ++ after) db := by
  obtain ⟨e,he,hincident,hstudent,hsuccess⟩ := h
  refine ⟨e,he,hincident,hstudent,fun x hx hstatus => ?_⟩
  obtain ⟨b,hb,hsame⟩ := hsuccess x hx hstatus
  exact ⟨b,List.mem_append_left _ hb,hsame⟩

theorem Logged.record (h : Logged ctx evaluationId before db) (hkeeps : db'.evaluations = db.evaluations)
    {execution : ActionExecution} (htype : execution.actionType = a.2.actionType)
    (hconfig : execution.actionConfig = a.2.actionConfig) :
    Logged ctx evaluationId (before ++ [a]) (db'.record evaluationId execution) := by
  have hmore : Logged ctx evaluationId (before ++ [a]) db := h.mono
  obtain ⟨e,he,hincident,hstudent,hsuccess⟩ := hmore
  have hrecorded : (db'.record evaluationId execution).evaluations.get? evaluationId =
      some { e with actionExecutions := e.actionExecutions ++ [execution] } := by
    rw [← hkeeps] at he
    exact Table.get?_modify_self he _
  refine ⟨_,hrecorded,hincident,hstudent,fun x hx hstatus => ?_⟩
  rcases List.mem_append.mp hx with hold | hnew
  · exact hsuccess x hold hstatus
  · obtain rfl := List.mem_singleton.mp hnew
    exact ⟨a,by simp,htype.symm,hconfig.symm⟩

/-- One action adds at most its own execution. -/
theorem Logged.runAction (h : Logged ctx evaluationId before db)
    (hrun : engine.runAction ctx evaluationId db a.1 a.2 = some (db',outcome)) :
    Logged ctx evaluationId (before ++ [a]) db' := by
  unfold Engine.runAction at hrun
  split at hrun
  · cases hrun
    exact h.mono
  · unfold Engine.executeAction at hrun
    split at hrun
    · cases hrun
      exact h.record rfl rfl rfl
    · have hkeeps : (engine.dispatch ctx a.2.actionType a.2.actionConfig db).KeepsEvaluations db :=
        keepsEvaluations_dispatch a.2.actionType a.2.actionConfig
      split at hrun
      · rename_i hdispatch
        rw [hdispatch] at hkeeps
        cases hrun
        exact h.record hkeeps rfl rfl
      · rename_i hdispatch
        rw [hdispatch] at hkeeps
        cases hrun
        exact h.record hkeeps rfl rfl
      · cases hrun

theorem Logged.runActions {done : List (ℕ × RuleAction ActionConfig)} (h : Logged ctx evaluationId done db)
    (hrun : engine.runActions ctx evaluationId db before = some db') :
    Logged ctx evaluationId (done ++ before) db' := by
  unfold Engine.runActions at hrun
  induction before generalizing done db with
  | nil =>
    cases hrun
    simpa using h
  | cons a before ih =>
    simp only [List.foldlM_cons,Option.bind_eq_bind,Option.bind_eq_some_iff,Option.map_eq_some_iff] at hrun
    obtain ⟨_,⟨⟨db₁,outcome⟩,hact,rfl⟩,hrest⟩ := hrun
    have hlogged := ih (h.runAction hact) hrest
    rwa [List.append_assoc,List.singleton_append] at hlogged

/-! ## Why an action is suppressed -/

theorem runAction_cases (hrun : engine.runAction ctx evaluationId db a.1 a.2 = some (db',outcome)) :
    (∃ status, outcome = .executed status) ∨ db.alreadySucceeded evaluationId a.2.actionType ∨
      engine = .worker ∧ db.recentExecution ctx.now ctx.studentId a.1 a.2.actionType := by
  unfold Engine.runAction at hrun
  split at hrun
  · rename_i hcooling
    simp only [Bool.and_eq_true,decide_eq_true_eq] at hcooling
    exact .inr (.inr hcooling)
  · unfold Engine.executeAction at hrun
    split at hrun
    · rename_i hsucceeded
      exact .inr (.inl hsucceeded)
    · split at hrun
      · cases hrun
        exact .inl ⟨_,rfl⟩
      · cases hrun
        exact .inl ⟨_,rfl⟩
      · cases hrun

theorem Logged.succeeded {actionType : ActionType} (h : Logged ctx evaluationId before db)
    (hsucceeded : db.alreadySucceeded evaluationId actionType) : ∃ b ∈ before, b.2.actionType = actionType ∧
      db.Succeeded ctx.incidentId ctx.studentId actionType (effectOf actionType b.2.actionConfig) := by
  obtain ⟨e,he,hincident,hstudent,hlog⟩ := h
  simp only [PolicyDb.alreadySucceeded,he,Option.any_some,Evaluation.hasSucceeded,List.any_eq_true,Bool.and_eq_true,
    decide_eq_true_eq] at hsucceeded
  obtain ⟨x,hx,htype,hstatus⟩ := hsucceeded
  obtain ⟨b,hb,hbtype,hbconfig⟩ := hlog x hx hstatus
  refine ⟨b,hb,hbtype.trans htype,(evaluationId,e),Table.mem_of_get? he,hincident,hstudent,x,hx,htype,?_,hstatus⟩
  rw [htype,hbconfig]

/-- In the API nothing is lost of a stage whose actions of one type all have one effect. -/
theorem runAction_takesEffect_of_uniform (stageRecord : StageRecord PolicyCondition) (evaluatedInput : EvaluatedInput)
    (huniform : ∀ b ∈ before, b.2.actionType = a.2.actionType →
      effectOf a.2.actionType b.2.actionConfig = effectOf a.2.actionType a.2.actionConfig)
    (hbefore : Engine.api.runActions ctx created.evaluations.next (created.createEvaluation (newEvaluation ctx
      stageRecord evaluatedInput)) before = some db)
    (hrun : Engine.api.runAction ctx created.evaluations.next db a.1 a.2 = some (db',outcome)) :
    (∃ status, outcome = .executed status) ∨
      db.Succeeded ctx.incidentId ctx.studentId a.2.actionType (effectOf a.2.actionType a.2.actionConfig) := by
  have hlogged := (logged_createEvaluation stageRecord evaluatedInput).runActions hbefore
  rw [List.nil_append] at hlogged
  rcases runAction_cases hrun with hexecuted | hsucceeded | ⟨hworker,-⟩
  · exact .inl hexecuted
  · obtain ⟨b,hb,htype,hsame⟩ := hlogged.succeeded hsucceeded
    rw [huniform b hb htype] at hsame
    exact .inr hsame
  · cases hworker

/-! ## Two tasks, and a task a day before -/

def taskOf (taskType : TaskType) : RuleAction ActionConfig := ⟨.createTask,{ taskType := .value taskType },0⟩

def taskRule (taskType : TaskType) : Rule where
  name := "Task"
  description := none
  isActive := true
  stage := .support
  priority := 1
  matchStrategy := .allMatching
  stopProcessingStage := false
  conditions := {}
  currentVersion := 1
  actions := [taskOf taskType]

def supportRecord : StageRecord PolicyCondition := ⟨.support,some (0,1),true,some {},2⟩

def lateInput : EvaluatedInput := buildEvaluatedInput Table.empty Table.empty firstOffence student 7 {}

def lateContext : EvaluationContext := ⟨1000,0,firstOffence,student,7⟩

/-- The incident alone, with what earlier evaluations left. -/
def lateDb (evaluations : Table Evaluation) : PolicyDb where
  ruleBook := RuleBook.empty
  categories := Table.empty
  users := [0]
  incidents := Table.empty.insert firstOffence
  sanctions := Table.empty
  tasks := Table.empty
  interventions := Table.empty
  evaluations := evaluations
  history := []

/-- Another incident of the student, an hour or less ago, for which the rule created a task. -/
def anotherIncident : Evaluation :=
  ⟨1,7,supportRecord,lateInput,[⟨.createTask,{ taskType := .value .followUp },.success,some (.task 0),0⟩]⟩

def afterFirstTask : PolicyDb :=
  (Engine.api.runActions lateContext 0 ((lateDb Table.empty).createEvaluation
    (newEvaluation lateContext supportRecord lateInput)) [(0,taskOf .followUp)]).getD (lateDb Table.empty)

end EduPod.Policy
