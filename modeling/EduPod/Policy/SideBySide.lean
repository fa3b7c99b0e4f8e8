import Mathlib
import EduPod.Policy.TwoEngines

/-! # The engines side by side

As long as the engines agree they are at the same step with the same records, and whether they still
agree after an action is decided by the action and these records.
-/
namespace EduPod.Policy
open Runs

variable {engine : Engine} {ctx : EvaluationContext} {db d a w : PolicyDb} {actionType : ActionType}
  {config : ActionConfig} {evaluationId id ruleId : ℕ} {x : ActionExecution} {action : RuleAction ActionConfig}

/-! ## What a handler leaves as it was -/

structure Frame (db d : PolicyDb) : Prop where
  ruleBook : d.ruleBook = db.ruleBook
  evaluations : d.evaluations = db.evaluations
  inactive : ∀ incidentId, Inactive incidentId db → Inactive incidentId d

theorem Frame.refl (db : PolicyDb) : Frame db db := ⟨rfl,rfl,fun _ h => h⟩

theorem frame_updateIncident {f : Incident → Incident}
    (hf : ∀ i : Incident, i.status ≠ .active → (f i).status ≠ .active) : Frame db (db.updateIncident id f) :=
  ⟨rfl,rfl,fun _ h => h.updateIncident hf⟩

theorem frame_createTask {task : Task} (h : (createTask db task).result = some d) : Frame db d := by
  unfold createTask at h
  split at h
  · cases h
    exact ⟨rfl,rfl,fun _ h => h⟩
  · cases h

theorem frame_createConfiguredTask {title : String} (h : (createConfiguredTask ctx db config title).result = some d) :
    Frame db d := by
  unfold createConfiguredTask at h
  split at h
  · exact frame_createTask h
  · cases h
    exact Frame.refl db

theorem frame_createParentMeeting {notes : Option (Option String)}
    (h : (createParentMeeting ctx db config notes).result = some d) : Frame db d := by
  unfold createParentMeeting at h
  split at h
  · exact frame_createTask h
  · cases h
    exact Frame.refl db

theorem frame_requireApproval : Frame db (requireApproval ctx db) := by
  apply frame_updateIncident
  intro i hi
  split <;> exact hi

theorem frame_workerCreateTask (h : (workerDispatch ctx .createTask config db).result = some d) : Frame db d := by
  simp only [workerDispatch] at h
  split at h
  · cases h
    exact Frame.refl db
  · split at h
    · exact frame_createConfiguredTask h
    · cases h
      exact Frame.refl db

theorem frame_workerDispatch (h : (workerDispatch ctx actionType config db).result = some d) : Frame db d := by
  cases actionType with
  | createTask => exact frame_workerCreateTask h
  | requireParentMeeting =>
    simp only [workerDispatch] at h
    split at h
    · exact frame_createParentMeeting h
    · cases h
      exact Frame.refl db
  | requireApproval | blockWithoutApproval =>
    cases h
    exact frame_requireApproval
  | requireParentNotification =>
    cases h
    apply frame_updateIncident
    intro i hi
    split <;> exact hi
  | flagForReview =>
    cases h
    apply frame_updateIncident
    intro i hi
    rwa [if_neg hi]
  | autoEscalate | createSanction | createIntervention | notifyRoles | notifyUsers =>
    cases h
    exact Frame.refl db

theorem evaluations_dispatch (h : (engine.dispatch ctx actionType config db).result = some d) :
    d.evaluations = db.evaluations := by
  have hkeeps : (engine.dispatch ctx actionType config db).KeepsEvaluations db :=
    keepsEvaluations_dispatch actionType config
  cases hdispatch : engine.dispatch ctx actionType config db with
  | done d' entity =>
    rw [hdispatch] at h hkeeps
    cases h
    exact hkeeps
  | refused d' =>
    rw [hdispatch] at h hkeeps
    cases h
    exact hkeeps
  | aborted =>
    rw [hdispatch] at h
    cases h

/-! ## One action, in terms of what its handler returns -/

def Dispatched.entity : Dispatched → Option CreatedEntity
  | .done _ entity => entity
  | .refused _ => none
  | .aborted => none

/-- How a handler that was called is recorded. -/
def Dispatched.execution (ctx : EvaluationContext) (action : RuleAction ActionConfig) (dispatched : Dispatched) :
    ActionExecution :=
  ⟨action.actionType,action.actionConfig,if dispatched.succeeds then .success else .failed,dispatched.entity,ctx.now⟩

def duplicate (ctx : EvaluationContext) (action : RuleAction ActionConfig) : ActionExecution :=
  ⟨action.actionType,action.actionConfig,.skippedDuplicate,none,ctx.now⟩

def Engine.cooling (engine : Engine) (ctx : EvaluationContext) (db : PolicyDb) (ruleId : ℕ) (actionType : ActionType) :
    Bool :=
  engine = .worker && db.recentExecution ctx.now ctx.studentId ruleId actionType

theorem runAction_fst : (engine.runAction ctx evaluationId db ruleId action).map Prod.fst =
    if engine.cooling ctx db ruleId action.actionType then some db
    else if db.alreadySucceeded evaluationId action.actionType then some (db.record evaluationId (duplicate ctx action))
    else (engine.dispatch ctx action.actionType action.actionConfig db).result.map
      (·.record evaluationId ((engine.dispatch ctx action.actionType action.actionConfig db).execution ctx action)) := by
  unfold Engine.runAction Engine.cooling
  split
  · rfl
  · unfold Engine.executeAction
    split
    · rfl
    · cases engine.dispatch ctx action.actionType action.actionConfig db with
      | done d entity => rfl
      | refused d => rfl
      | aborted => rfl

/-! ## The log of an evaluation -/

@[simp] theorem withoutExecutions_record (db : PolicyDb) (id : ℕ) (x : ActionExecution) :
    (db.record id x).withoutExecutions = db.withoutExecutions := by
  unfold PolicyDb.record PolicyDb.withoutExecutions
  rw [Table.modify_eq_mapRows,Table.mapRows_mapRows]
  congr 1
  apply Table.mapRows_congr
  intro r _
  split <;> rfl

theorem alreadySucceeded_record {e : Evaluation} (he : db.evaluations.get? id = some e) (x : ActionExecution) (j : ℕ)
    (t : ActionType) : (db.record id x).alreadySucceeded j t =
      (db.alreadySucceeded j t || (j = id && x.actionType = t && x.status = .success)) := by
  unfold PolicyDb.alreadySucceeded PolicyDb.record
  by_cases hj : j = id
  · subst hj
    have hmodified := Table.get?_modify_self he fun e => { e with actionExecutions := e.actionExecutions ++ [x] }
    rw [hmodified,he]
    simp [Evaluation.hasSucceeded]
  · rw [Table.get?_modify_ne _ hj]
    simp [hj]

theorem alreadySucceeded_createEvaluation (e : Evaluation) (he : e.actionExecutions = []) (j : ℕ) (t : ActionType) :
    (db.createEvaluation e).alreadySucceeded j t = db.alreadySucceeded j t := by
  unfold PolicyDb.alreadySucceeded PolicyDb.createEvaluation
  rw [Table.get?_insert]
  split
  · rename_i hj
    subst hj
    rw [Table.get?_next]
    simp [Evaluation.hasSucceeded,he]
  · rfl

theorem alreadySucceeded_congr (h : d.evaluations = db.evaluations) (j : ℕ) (t : ActionType) :
    d.alreadySucceeded j t = db.alreadySucceeded j t := by
  rw [PolicyDb.alreadySucceeded,h,PolicyDb.alreadySucceeded]

/-- No success of an action that is to create an entity. -/
def PolicyDb.NoCreation (db : PolicyDb) : Prop :=
  ∀ j t, db.alreadySucceeded j t = true → t.createsEntity = false

theorem PolicyDb.NoCreation.entitiesCreated (h : db.NoCreation) : db.EntitiesCreated := by
  intro r hr y hy hstatus hcreates
  have hsucceeded : db.alreadySucceeded r.1 y.actionType = true := by
    rw [PolicyDb.alreadySucceeded,Table.get?_of_row hr,Option.any_some,Evaluation.hasSucceeded,List.any_eq_true]
    exact ⟨y,hy,by simp [hstatus]⟩
  rw [h _ _ hsucceeded] at hcreates
  cases hcreates

/-! ## Where the worker cools down -/

def Evaluation.Executed (e : Evaluation) : Prop := e.actionExecutions ≠ []

/-- The version an evaluation is recorded under is one of a rule of its stage. -/
def PolicyDb.VersionOfStage (db : PolicyDb) (e : Evaluation) : Prop :=
  ∀ version, e.stageRecord.ruleVersionId = some version →
    ∃ rule, db.ruleBook.rules.get? version.1 = some rule ∧ rule.stage = e.stageRecord.stage

/-- The evaluation the pending actions belong to. -/
structure Current (j : EvaluationJob) (e : Evaluation) : Prop where
  found : j.db.evaluations.get? j.evaluationId = some e
  student : e.studentId = j.ctx.studentId
  incident : e.incidentId = j.ctx.incidentId
  notPending : e.stageRecord.stage ∉ j.stages
  version : j.db.VersionOfStage e
  rules : ∀ b ∈ j.actions, ∃ rule, j.db.ruleBook.rules.get? b.1 = some rule ∧ rule.stage = e.stageRecord.stage
  alone : ∀ r ∈ j.db.evaluations.rows, r.2.Executed → r.2.studentId = j.ctx.studentId →
    r.2.stageRecord.stage = e.stageRecord.stage → r.1 = j.evaluationId

/-- Executions are only found in evaluations of the job, one for each student and stage. -/
structure Separate (j : EvaluationJob) : Prop where
  nodup : j.stages.Nodup
  own : j.db.evaluations.All fun e => e.Executed → e.incidentId = j.ctx.incidentId ∧ j.db.VersionOfStage e ∧
    (e.studentId = j.ctx.studentId → e.stageRecord.stage ∉ j.stages)
  current : j.actions ≠ [] → ∃ e, Current j e

/-- A success of the rule for the student within a day is one in the same stage. -/
theorem Separate.alreadySucceeded_of_recentExecution {j : EvaluationJob} {b : ℕ × RuleAction ActionConfig}
    {actions : List (ℕ × RuleAction ActionConfig)} (h : Separate j) (hactions : j.actions = b :: actions) {now : ℤ}
    (hrecent : j.db.recentExecution now j.ctx.studentId b.1 actionType = true) :
    j.db.alreadySucceeded j.evaluationId actionType = true := by
  obtain ⟨e,he⟩ := h.current (by simp [hactions])
  unfold PolicyDb.recentExecution at hrecent
  rw [Bool.not_eq_true',List.isEmpty_eq_false_iff_exists_mem] at hrecent
  obtain ⟨r,hr⟩ := hrecent
  obtain ⟨hrow,hr⟩ := List.mem_filter.mp hr
  rw [Bool.and_eq_true,List.any_eq_true] at hr
  obtain ⟨hof,y,hy,hsucceeded⟩ := hr
  simp only [Evaluation.isOf,Bool.and_eq_true,decide_eq_true_eq] at hof hsucceeded
  obtain ⟨hstudent,hrule⟩ := hof
  obtain ⟨version,hversion,hfirst⟩ := Option.map_eq_some_iff.mp hrule
  have hexecuted : r.2.Executed := List.ne_nil_of_mem hy
  obtain ⟨rule,hget,hstage⟩ := (h.own r hrow hexecuted).2.1 version hversion
  obtain ⟨rule',hget',hstage'⟩ := he.rules b (by simp [hactions])
  rw [hfirst,hget'] at hget
  obtain rfl := Option.some.inj hget
  have hid := he.alone r hrow hexecuted hstudent (hstage.symm.trans hstage')
  rw [PolicyDb.alreadySucceeded,← hid,Table.get?_of_row hrow,Option.any_some,Evaluation.hasSucceeded,List.any_eq_true]
  exact ⟨y,hy,by simp [hsucceeded]⟩

/-- The evaluations of `d` are those of `db`, one of them with more executions. -/
structure Continues (evaluationId : ℕ) (db d : PolicyDb) : Prop where
  ruleBook : d.ruleBook = db.ruleBook
  rows : ∀ r ∈ d.evaluations.rows, ∃ q ∈ db.evaluations.rows, q.1 = r.1 ∧ r.2.unexecuted = q.2.unexecuted ∧
    (r.2.Executed → q.2.Executed ∨ r.1 = evaluationId)
  found : ∀ e, db.evaluations.get? evaluationId = some e →
    ∃ e', d.evaluations.get? evaluationId = some e' ∧ e'.unexecuted = e.unexecuted

theorem Continues.refl (evaluationId : ℕ) (db : PolicyDb) : Continues evaluationId db db :=
  ⟨rfl,fun r hr => ⟨r,hr,rfl,rfl,.inl⟩,fun e he => ⟨e,he,rfl⟩⟩

theorem continues_record (hrules : d.ruleBook = db.ruleBook) (hevaluations : d.evaluations = db.evaluations)
    (x : ActionExecution) : Continues evaluationId db (d.record evaluationId x) := by
  refine ⟨hrules,?_,?_⟩
  · intro r hr
    simp only [PolicyDb.record,hevaluations,Table.modify_eq_mapRows] at hr
    obtain ⟨q,hq,rfl⟩ := Table.mem_mapRows.mp hr
    refine ⟨q,hq,rfl,?_,?_⟩
    · dsimp only
      split <;> rfl
    · by_cases hid : q.1 = evaluationId
      · exact fun _ => .inr hid
      · simp only [if_neg hid]
        exact .inl
  · intro e he
    rw [← hevaluations] at he
    exact ⟨_,Table.get?_modify_self he _,rfl⟩

theorem unexecuted_fields {e e' : Evaluation} (h : e'.unexecuted = e.unexecuted) :
    e'.incidentId = e.incidentId ∧ e'.studentId = e.studentId ∧ e'.stageRecord = e.stageRecord := by
  simp only [Evaluation.unexecuted,Evaluation.mk.injEq] at h
  exact ⟨h.1,h.2.1,h.2.2.1⟩

theorem versionOfStage_congr {e e' : Evaluation} (hrules : d.ruleBook = db.ruleBook)
    (hrecord : e'.stageRecord = e.stageRecord) (h : db.VersionOfStage e) : d.VersionOfStage e' := by
  unfold PolicyDb.VersionOfStage
  rw [hrules,hrecord]
  exact h

theorem Separate.carryOut {j : EvaluationJob} {b : ℕ × RuleAction ActionConfig}
    {actions : List (ℕ × RuleAction ActionConfig)} (h : Separate j) (hactions : j.actions = b :: actions)
    (hc : Continues j.evaluationId j.db d) : Separate { j with db := d, actions := actions } := by
  obtain ⟨e,he⟩ := h.current (by simp [hactions])
  obtain ⟨e',hfound,hsame⟩ := hc.found e he.found
  obtain ⟨hincident,hstudent,hrecord⟩ := unexecuted_fields hsame
  refine ⟨h.nodup,?_,fun _ => ⟨e',hfound,?_,?_,?_,?_,?_,?_⟩⟩
  · intro r hr hexecuted
    obtain ⟨q,hq,hid,hsameq,hor⟩ := hc.rows r hr
    obtain ⟨hincidentq,hstudentq,hrecordq⟩ := unexecuted_fields hsameq
    rw [hincidentq,hstudentq,hrecordq]
    rcases hor hexecuted with hqexecuted | hcurrent
    · obtain ⟨hown,hversion,hpending⟩ := h.own q hq hqexecuted
      exact ⟨hown,versionOfStage_congr hc.ruleBook hrecordq hversion,hpending⟩
    · have hqe : q.2 = e := by
        have hget := Table.get?_of_row hq
        rw [hid,hcurrent,he.found] at hget
        exact (Option.some.inj hget).symm
      rw [hqe]
      exact ⟨he.incident,versionOfStage_congr hc.ruleBook (hrecordq.trans (congrArg _ hqe)) he.version,
        fun _ => he.notPending⟩
  · exact hstudent.trans he.student
  · exact hincident.trans he.incident
  · rw [hrecord]
    exact he.notPending
  · exact versionOfStage_congr hc.ruleBook hrecord he.version
  · intro b' hb'
    have hmem : b' ∈ j.actions := hactions ▸ List.mem_cons_of_mem b hb'
    dsimp only
    rw [hrecord,hc.ruleBook]
    exact he.rules b' hmem
  · intro r hr hexecuted hrstudent hstage
    obtain ⟨q,hq,hid,hsameq,hor⟩ := hc.rows r hr
    obtain ⟨-,hstudentq,hrecordq⟩ := unexecuted_fields hsameq
    rcases hor hexecuted with hqexecuted | hcurrent
    · rw [hrecord,hrecordq] at hstage
      rw [← hid]
      exact he.alone q hq hqexecuted (hstudentq.symm.trans hrstudent) hstage
    · exact hcurrent

theorem rule_of_stageRules {stage : PolicyStage} {rule : ℕ × Rule} (h : rule ∈ db.ruleBook.stageRules stage) :
    db.ruleBook.rules.get? rule.1 = some rule.2 ∧ rule.2.stage = stage := by
  have hs := (List.perm_insertionSort _ _).subset h
  obtain ⟨hrow,hselected⟩ := List.mem_filter.mp hs
  rw [Bool.and_eq_true] at hselected
  exact ⟨Table.get?_of_row hrow,by simpa using hselected.1⟩

theorem versionOfStage_newEvaluation {stage : PolicyStage} (hits : PolicyCondition → Bool) (input : EvaluatedInput) :
    db.VersionOfStage (newEvaluation ctx (db.ruleBook.stageRecord stage hits) input) := by
  intro version hversion
  obtain ⟨rule,hfirst,hversionId⟩ := Option.bind_eq_some_iff.mp hversion
  have hmem := (matchedRules_sublist hits _).subset (List.mem_of_mem_head? hfirst)
  obtain ⟨hget,hstage⟩ := rule_of_stageRules hmem
  obtain ⟨record,-,rfl⟩ := Option.map_eq_some_iff.mp hversionId
  exact ⟨rule.2,hget,hstage⟩

theorem Separate.evaluateStage {j : EvaluationJob} {stage : PolicyStage} {stages : List PolicyStage} (h : Separate j)
    (hstages : j.stages = stage :: stages) : Separate (j.evaluateStage stage stages) := by
  have hnodup := hstages ▸ h.nodup
  obtain ⟨hnew,hrest⟩ := List.nodup_cons.mp hnodup
  refine ⟨hrest,?_,fun _ => ⟨j.evaluationOf stage,?_,rfl,rfl,hnew,
    versionOfStage_newEvaluation (j.db.hits j.ctx) _,?_,?_⟩⟩
  · apply Table.All.insert
    · intro r hr hexecuted
      obtain ⟨hown,hversion,hpending⟩ := h.own r hr hexecuted
      refine ⟨hown,hversion,fun hstudent hmem => hpending hstudent ?_⟩
      rw [hstages]
      exact List.mem_cons_of_mem stage hmem
    · exact fun hexecuted => absurd rfl hexecuted
  · simp [EvaluationJob.evaluateStage,PolicyDb.createEvaluation,Table.get?_insert]
  · intro b hb
    obtain ⟨rule,hrule,hb⟩ := List.mem_flatMap.mp hb
    obtain ⟨action,-,rfl⟩ := List.mem_map.mp hb
    have hmem := (matchedRules_sublist _ _).subset hrule
    exact ⟨rule.2,rule_of_stageRules hmem⟩
  · intro r hr hexecuted hstudent hstage
    rcases List.mem_append.mp hr with hold | hlast
    · refine absurd ?_ ((h.own r hold hexecuted).2.2 hstudent)
      rw [hstages,hstage]
      exact List.mem_cons_self
    · rw [List.mem_singleton.mp hlast]
      rfl

theorem pendingStages_nodup (incidentId studentId : ℕ) : (db.pendingStages incidentId studentId).Nodup :=
  List.Nodup.filter _ (by decide)

theorem not_mem_pendingStages {r : ℕ × Evaluation} (hr : r ∈ db.evaluations.rows) :
    r.2.stageRecord.stage ∉ db.pendingStages r.2.incidentId r.2.studentId := by
  intro hmem
  obtain ⟨-,hnot⟩ := List.mem_filter.mp hmem
  rw [Bool.not_eq_true',← Bool.not_eq_true,List.contains_iff_mem] at hnot
  exact hnot (List.mem_map_of_mem (List.mem_filter.mpr ⟨hr,by simp⟩))

theorem linkEvaluation_frame (incidentId : ℕ) (evaluationId : Option ℕ) :
    Frame db (db.linkEvaluation incidentId evaluationId) := by
  unfold PolicyDb.linkEvaluation
  split
  · exact frame_updateIncident fun _ hi => hi
  · exact Frame.refl db

theorem Separate.turn {j : EvaluationJob} (h : Separate j) (hactions : j.actions = []) : Separate j.turn := by
  have hframe : Frame j.db (j.db.linkEvaluation j.ctx.incidentId j.firstConsequenceEvaluationId) :=
    linkEvaluation_frame _ _
  unfold EvaluationJob.turn
  dsimp only
  split
  · refine ⟨h.nodup,?_,fun hne => absurd hactions hne⟩
    dsimp only
    rw [hframe.evaluations]
    intro r hr hexecuted
    obtain ⟨hown,hversion,hpending⟩ := h.own r hr hexecuted
    exact ⟨hown,versionOfStage_congr hframe.ruleBook rfl hversion,hpending⟩
  · rename_i student students hstudents
    refine ⟨pendingStages_nodup _ _,?_,fun hne => absurd hactions hne⟩
    intro r hr hexecuted
    have hrow : r ∈ j.db.evaluations.rows := hframe.evaluations ▸ hr
    obtain ⟨hown,hversion,-⟩ := h.own r hrow hexecuted
    refine ⟨hown,versionOfStage_congr hframe.ruleBook rfl hversion,fun hstudent hmem => not_mem_pendingStages hr ?_⟩
    rw [hown,hstudent]
    exact hmem

/-! ## One action in both engines -/

/-- The records of the two engines as long as they agree. An action has succeeded in the worker only if it has in
the API, but for flags of an incident that is not active any more. -/
structure InStep (incidentId : ℕ) (a w : PolicyDb) : Prop where
  records : a.withoutExecutions = w.withoutExecutions
  noCreation : w.NoCreation
  succeeded : ∀ j t, a.alreadySucceeded j t = true → w.alreadySucceeded j t = true
  flags : ∀ j t, w.alreadySucceeded j t = true →
    a.alreadySucceeded j t = true ∨ t = .flagForReview ∧ Inactive incidentId a

theorem InStep.api_noCreation {incidentId : ℕ} (h : InStep incidentId a w) : a.NoCreation :=
  fun j t hsucceeded => h.noCreation j t (h.succeeded j t hsucceeded)

def AgreeDb (a w : Option PolicyDb) : Prop :=
  (a = none ∧ w = none) ∨ ∃ d d', a = some d ∧ w = some d' ∧ d.withoutExecutions = d'.withoutExecutions ∧
    d.EntitiesCreated ∧ d'.EntitiesCreated

theorem agreeDb_some_iff {d d' : PolicyDb} : AgreeDb (some d) (some d') ↔
    d.withoutExecutions = d'.withoutExecutions ∧ d.EntitiesCreated ∧ d'.EntitiesCreated := by
  constructor
  · rintro (⟨h,-⟩ | ⟨_,_,h,h',hsame⟩)
    · cases h
    · cases h
      cases h'
      exact hsame
  · exact fun hsame => .inr ⟨d,d',rfl,rfl,hsame⟩

theorem noCreation_record {e : Evaluation} (he : db.evaluations.get? id = some e) (h : db.NoCreation)
    (hx : x.status = .success → x.actionType.createsEntity = false) : (db.record id x).NoCreation := by
  intro j t hsucceeded
  rw [alreadySucceeded_record he,Bool.or_eq_true] at hsucceeded
  rcases hsucceeded with hold | hnew
  · exact h j t hold
  · simp only [Bool.and_eq_true,decide_eq_true_eq] at hnew
    rw [← hnew.1.2]
    exact hx hnew.2

theorem exists_of_records {e : Evaluation} (h : a.withoutExecutions = w.withoutExecutions)
    (he : w.evaluations.get? id = some e) : ∃ e', a.evaluations.get? id = some e' := by
  have hget := congrArg (fun d : PolicyDb => d.evaluations.get? id) h
  simp only [PolicyDb.withoutExecutions,Table.get?_mapRows,he,Option.map_some] at hget
  obtain ⟨e',he',-⟩ := Option.map_eq_some_iff.mp hget
  exact ⟨e',he'⟩

/-- Both handlers leave the same records exactly if the action is alike. -/
theorem result_records_iff (hrecords : a.withoutExecutions = w.withoutExecutions) (h : actionType.createsEntity = false) :
    (dispatchAction ctx actionType config a).result.map PolicyDb.withoutExecutions =
      (workerDispatch ctx actionType config w).result.map PolicyDb.withoutExecutions ↔
        Alike ctx a actionType config := by
  rw [← result_eq_iff h]
  have hworker : (workerDispatch ctx actionType config w).result.map PolicyDb.withoutExecutions =
      (workerDispatch ctx actionType config a).result.map PolicyDb.withoutExecutions := by
    have hstripped : w.evaluations.mapRows (fun _ e => e.unexecuted) = a.evaluations.mapRows fun _ e => e.unexecuted :=
      (congrArg PolicyDb.evaluations hrecords).symm
    rw [eq_withEvaluations hrecords,workerDispatch_withEvaluations]
    have hsame : ∀ d, (workerDispatch ctx actionType config a).result = some d →
        (d.withEvaluations w.evaluations).withoutExecutions = d.withoutExecutions := by
      intro d hd
      have hd := (frame_workerDispatch hd).evaluations
      simp only [PolicyDb.withoutExecutions,PolicyDb.withEvaluations,hstripped,hd]
    cases hdispatch : workerDispatch ctx actionType config a with
    | done d entity => exact congrArg some (hsame d (hdispatch ▸ rfl))
    | refused d => exact congrArg some (hsame d (hdispatch ▸ rfl))
    | aborted => rfl
  rw [hworker]
  constructor
  · intro heq
    cases hd : (dispatchAction ctx actionType config a).result with
    | none =>
      rw [hd,Option.map_none,eq_comm,Option.map_eq_none_iff] at heq
      exact heq.symm
    | some d =>
      rw [hd,Option.map_some,eq_comm] at heq
      obtain ⟨d',hd',hrec⟩ := Option.map_eq_some_iff.mp heq
      have hapi : (Engine.api.dispatch ctx actionType config a).result = some d := hd
      have hevaluations := (frame_workerDispatch hd').evaluations
      have heq : d' = d := by
        rw [eq_withEvaluations hrec.symm,hevaluations,← evaluations_dispatch hapi]
        rfl
      rw [hd',heq]
  · exact fun heq => congrArg _ heq

section CarryOut
variable {e : Evaluation} {a' w' : PolicyDb}

/-- The worker's success of an action that is to create an entity names none. -/
theorem not_agreeDb_of_creates (hrow : w.evaluations.get? id = some e) (hcreates : action.actionType.createsEntity = true)
    {d : Option PolicyDb} : ¬AgreeDb d ((workerDispatch ctx action.actionType action.actionConfig w).result.map
      (·.record id ((workerDispatch ctx action.actionType action.actionConfig w).execution ctx action))) := by
  have hdone : workerDispatch ctx action.actionType action.actionConfig w = .done w none := by
    cases htype : action.actionType with
    | autoEscalate | createSanction | createIntervention => rfl
    | _ =>
      rw [htype] at hcreates
      cases hcreates
  rw [hdone]
  rintro (⟨-,h⟩ | ⟨d,d',-,h,-,-,hcreated⟩)
  · cases h
  · obtain rfl := Option.some.inj h
    have hget := Table.get?_modify_self hrow fun e =>
      { e with actionExecutions := e.actionExecutions ++ [(Dispatched.done w none).execution ctx action] }
    have hnamed := hcreated.get? hget ((Dispatched.done w none).execution ctx action) (by simp) rfl hcreates
    cases hnamed

theorem api_runAction : (Engine.api.runAction ctx id a ruleId action).map Prod.fst =
    if a.alreadySucceeded id action.actionType then some (a.record id (duplicate ctx action))
    else (dispatchAction ctx action.actionType action.actionConfig a).result.map
      (·.record id ((dispatchAction ctx action.actionType action.actionConfig a).execution ctx action)) := by
  have hnever : Engine.api.cooling ctx a ruleId action.actionType = false := rfl
  rw [runAction_fst,hnever]
  rfl

/-- The worker where an action of the type has succeeded. -/
theorem worker_runAction_of_succeeded (h : w.alreadySucceeded id action.actionType = true) :
    ∃ d, (Engine.worker.runAction ctx id w ruleId action).map Prod.fst = some d ∧
      (d = w ∨ d = w.record id (duplicate ctx action)) := by
  rw [runAction_fst]
  split
  · exact ⟨w,rfl,.inl rfl⟩
  · exact ⟨_,rfl,.inr rfl⟩

theorem worker_runAction_of_not (hcool : Engine.worker.cooling ctx w ruleId action.actionType = true →
    w.alreadySucceeded id action.actionType = true) (h : ¬w.alreadySucceeded id action.actionType = true) :
    (Engine.worker.runAction ctx id w ruleId action).map Prod.fst =
      (workerDispatch ctx action.actionType action.actionConfig w).result.map
        (·.record id ((workerDispatch ctx action.actionType action.actionConfig w).execution ctx action)) := by
  rw [runAction_fst,if_neg fun hcooling => h (hcool hcooling),if_neg h]
  rfl

theorem alreadySucceeded_duplicate (hrow : db.evaluations.get? id = some e) (j : ℕ) (t : ActionType) :
    (db.record id (duplicate ctx action)).alreadySucceeded j t = db.alreadySucceeded j t := by
  rw [alreadySucceeded_record hrow]
  simp [duplicate]

/-- A flag of an incident that is not active does nothing. -/
theorem dispatch_flag_of_inactive (h : Inactive ctx.incidentId a) :
    dispatchAction ctx .flagForReview config a = .done a none := by
  simp only [dispatchAction,executeFlagForReview]
  rw [if_neg]
  intro hactive
  obtain ⟨incident,hget,hstatus⟩ := (Option.any_eq_true _ _).mp hactive
  exact h incident hget (by simpa using hstatus)

/-- A worker that does not call the handler changes nothing but the log. -/
theorem idle_of_or (hrow : w.evaluations.get? id = some e) (h : d = w ∨ d = w.record id (duplicate ctx action)) :
    d.withoutExecutions = w.withoutExecutions ∧ ∀ j t, d.alreadySucceeded j t = w.alreadySucceeded j t := by
  rcases h with rfl | rfl
  · exact ⟨rfl,fun _ _ => rfl⟩
  · exact ⟨withoutExecutions_record _ _ _,alreadySucceeded_duplicate hrow⟩

theorem not_alike_of_creates (h : actionType.createsEntity = true) : ¬Alike ctx db actionType config := by
  cases actionType with
  | autoEscalate | createSanction | createIntervention => exact fun halike => halike
  | _ => cases h

/-- Two logged results agree exactly if they do without the log, as long as nothing is to be created. -/
theorem agreeDb_record_iff {ra rw : Option PolicyDb} {x y : ActionExecution}
    (ha : ∀ d, ra = some d → d.NoCreation ∧ ∃ e, d.evaluations.get? id = some e)
    (hw : ∀ d, rw = some d → d.NoCreation ∧ ∃ e, d.evaluations.get? id = some e)
    (hx : x.actionType.createsEntity = false) (hy : y.actionType.createsEntity = false) :
    AgreeDb (ra.map (·.record id x)) (rw.map (·.record id y)) ↔
      ra.map PolicyDb.withoutExecutions = rw.map PolicyDb.withoutExecutions := by
  cases ra with
  | none =>
    cases rw with
    | none => exact iff_of_true (.inl ⟨rfl,rfl⟩) rfl
    | some d => exact iff_of_false (by simp [AgreeDb]) (by simp)
  | some d =>
    cases rw with
    | none => exact iff_of_false (by simp [AgreeDb]) (by simp)
    | some d' =>
      obtain ⟨hd,e,he⟩ := ha d rfl
      obtain ⟨hd',e',he'⟩ := hw d' rfl
      rw [Option.map_some,Option.map_some,agreeDb_some_iff,withoutExecutions_record,withoutExecutions_record,Option.map_some,
        Option.map_some,Option.some.injEq]
      exact and_iff_left ⟨(noCreation_record he hd fun _ => hx).entitiesCreated,
        (noCreation_record he' hd' fun _ => hy).entitiesCreated⟩

theorem noCreation_congr (h : d.evaluations = db.evaluations) (hdb : db.NoCreation) : d.NoCreation :=
  fun j t hsucceeded => hdb j t (alreadySucceeded_congr h j t ▸ hsucceeded)

theorem carryOut_iff (h : InStep ctx.incidentId a w) (hrow : w.evaluations.get? id = some e)
    (hcool : Engine.worker.cooling ctx w ruleId action.actionType = true →
      w.alreadySucceeded id action.actionType = true) :
    AgreeDb ((Engine.api.runAction ctx id a ruleId action).map Prod.fst)
        ((Engine.worker.runAction ctx id w ruleId action).map Prod.fst) ↔
      (a.alreadySucceeded id action.actionType = false → Alike ctx a action.actionType action.actionConfig) := by
  obtain ⟨e',hrow'⟩ := exists_of_records h.records hrow
  rw [api_runAction]
  by_cases hw : w.alreadySucceeded id action.actionType = true
  · have hworker : ∃ d, (Engine.worker.runAction ctx id w ruleId action).map Prod.fst = some d ∧
        (d = w ∨ d = w.record id (duplicate ctx action)) := worker_runAction_of_succeeded hw
    obtain ⟨d,hd,hor⟩ := hworker
    obtain ⟨hrecords,hsame⟩ := idle_of_or hrow hor
    have hcreated : d.EntitiesCreated :=
      PolicyDb.NoCreation.entitiesCreated fun j t ht => h.noCreation j t (hsame j t ▸ ht)
    rw [hd]
    by_cases ha : a.alreadySucceeded id action.actionType = true
    · rw [if_pos ha,agreeDb_some_iff,withoutExecutions_record,hrecords]
      refine iff_of_true ⟨h.records,PolicyDb.NoCreation.entitiesCreated fun j t ht => ?_,hcreated⟩ fun hno => ?_
      · rw [alreadySucceeded_duplicate hrow'] at ht
        exact h.api_noCreation j t ht
      · rw [ha] at hno
        cases hno
    · obtain ⟨hflag,hinactive⟩ := (h.flags _ _ hw).resolve_left ha
      rw [if_neg ha,hflag,dispatch_flag_of_inactive hinactive]
      simp only [Dispatched.result,Option.map_some]
      rw [agreeDb_some_iff,withoutExecutions_record,hrecords]
      refine iff_of_true ⟨h.records,(noCreation_record hrow' h.api_noCreation fun _ => ?_).entitiesCreated,hcreated⟩ ?_
      · simp [Dispatched.execution,hflag,ActionType.createsEntity]
      · exact fun _ incident hget hstatus => absurd hstatus (hinactive incident hget)
  · have ha : ¬a.alreadySucceeded id action.actionType = true := fun ha => hw (h.succeeded _ _ ha)
    have hif : (a.alreadySucceeded id action.actionType = false → Alike ctx a action.actionType action.actionConfig) ↔
        Alike ctx a action.actionType action.actionConfig := ⟨fun hno => hno (by simpa using ha),fun h _ => h⟩
    rw [if_neg ha,worker_runAction_of_not hcool hw,hif]
    cases hcreates : action.actionType.createsEntity with
    | true => exact iff_of_false (not_agreeDb_of_creates hrow hcreates) (not_alike_of_creates hcreates)
    | false =>
      rw [← result_records_iff h.records hcreates]
      apply agreeDb_record_iff _ _ hcreates hcreates
      · intro d hd
        have hapi : (Engine.api.dispatch ctx action.actionType action.actionConfig a).result = some d := hd
        have hkept := evaluations_dispatch hapi
        exact ⟨noCreation_congr hkept h.api_noCreation,e',hkept ▸ hrow'⟩
      · intro d hd
        have hkept := (frame_workerDispatch hd).evaluations
        exact ⟨noCreation_congr hkept h.noCreation,e,hkept ▸ hrow⟩

/-- A flag leaves no active incident behind, whether or not it succeeds. -/
theorem inactive_of_flag (h : (workerDispatch ctx .flagForReview config db).result = some d) :
    Inactive ctx.incidentId d := by
  have hd : db.updateIncident ctx.incidentId flagActive = d := Option.some.inj h
  intro incident hget
  rw [← hd,PolicyDb.updateIncident,Table.get?_modify,if_pos rfl] at hget
  obtain ⟨i,-,rfl⟩ := Option.map_eq_some_iff.mp hget
  unfold flagActive
  split
  · simp
  · assumption

/-- What the two engines add to the logs with one action. -/
theorem InStep.extend {incidentId : ℕ} {t : ActionType} {sa sw : Bool} (h : InStep incidentId a w)
    (hrecords : a'.withoutExecutions = w'.withoutExecutions)
    (hinactive : Inactive incidentId a → Inactive incidentId a')
    (ha : ∀ j u, a'.alreadySucceeded j u = (a.alreadySucceeded j u || (j = id && t = u && sa)))
    (hw : ∀ j u, w'.alreadySucceeded j u = (w.alreadySucceeded j u || (j = id && t = u && sw)))
    (hsa : sa = true → sw = true ∨ w.alreadySucceeded id t = true)
    (hsw : sw = true → t.createsEntity = false ∧ (sa = true ∨ a.alreadySucceeded id t = true ∨
      t = .flagForReview ∧ Inactive incidentId a')) : InStep incidentId a' w' := by
  refine ⟨hrecords,?_,?_,?_⟩
  · intro j u hsucceeded
    rw [hw,Bool.or_eq_true] at hsucceeded
    rcases hsucceeded with hold | hnew
    · exact h.noCreation j u hold
    · simp only [Bool.and_eq_true,decide_eq_true_eq] at hnew
      obtain ⟨⟨rfl,rfl⟩,hnew⟩ := hnew
      exact (hsw hnew).1
  · intro j u hsucceeded
    rw [ha,Bool.or_eq_true] at hsucceeded
    rw [hw,Bool.or_eq_true]
    rcases hsucceeded with hold | hnew
    · exact .inl (h.succeeded j u hold)
    · simp only [Bool.and_eq_true,decide_eq_true_eq] at hnew ⊢
      obtain ⟨⟨rfl,rfl⟩,hnew⟩ := hnew
      rcases hsa hnew with hworker | hbefore
      · exact .inr ⟨⟨rfl,rfl⟩,hworker⟩
      · exact .inl hbefore
  · intro j u hsucceeded
    rw [hw,Bool.or_eq_true] at hsucceeded
    rw [ha,Bool.or_eq_true]
    rcases hsucceeded with hold | hnew
    · rcases h.flags j u hold with hapi | ⟨hflag,hnot⟩
      · exact .inl (.inl hapi)
      · exact .inr ⟨hflag,hinactive hnot⟩
    · simp only [Bool.and_eq_true,decide_eq_true_eq] at hnew ⊢
      obtain ⟨⟨rfl,rfl⟩,hnew⟩ := hnew
      rcases (hsw hnew).2 with hapi | hbefore | hflag
      · exact .inl (.inr ⟨⟨rfl,rfl⟩,hapi⟩)
      · exact .inl (.inl hbefore)
      · exact .inr hflag

theorem alreadySucceeded_execution {dispatched : Dispatched} (hkept : d.evaluations = db.evaluations)
    (hrow : db.evaluations.get? id = some e) (j : ℕ) (u : ActionType) :
    (d.record id (dispatched.execution ctx action)).alreadySucceeded j u =
      (db.alreadySucceeded j u || (j = id && action.actionType = u && dispatched.succeeds)) := by
  rw [← hkept] at hrow
  rw [alreadySucceeded_record hrow,alreadySucceeded_congr hkept]
  cases h : dispatched.succeeds <;> simp [Dispatched.execution,h]

theorem succeeds_workerDispatch (h : a.withoutExecutions = w.withoutExecutions) (t : ActionType) :
    (workerDispatch ctx t config w).succeeds = (workerDispatch ctx t config a).succeeds := by
  rw [eq_withEvaluations h,workerDispatch_withEvaluations]
  cases workerDispatch ctx t config a <;> rfl

theorem carryOut_inStep (h : InStep ctx.incidentId a w) (hrow : w.evaluations.get? id = some e)
    (hcool : Engine.worker.cooling ctx w ruleId action.actionType = true →
      w.alreadySucceeded id action.actionType = true)
    (hagree : AgreeDb (some a') (some w'))
    (ha : (Engine.api.runAction ctx id a ruleId action).map Prod.fst = some a')
    (hw : (Engine.worker.runAction ctx id w ruleId action).map Prod.fst = some w') : InStep ctx.incidentId a' w' := by
  obtain ⟨e',hrow'⟩ := exists_of_records h.records hrow
  have hrecords := (agreeDb_some_iff.mp hagree).1
  have halike := (carryOut_iff h hrow hcool).mp (ha ▸ hw ▸ hagree)
  rw [api_runAction] at ha
  by_cases hsw : w.alreadySucceeded id action.actionType = true
  · have hworker : ∃ d, (Engine.worker.runAction ctx id w ruleId action).map Prod.fst = some d ∧
        (d = w ∨ d = w.record id (duplicate ctx action)) := worker_runAction_of_succeeded hsw
    obtain ⟨d,hd,hor⟩ := hworker
    obtain rfl := Option.some.inj (hw.symm.trans hd)
    have hsame : ∀ j u, w'.alreadySucceeded j u =
        (w.alreadySucceeded j u || (j = id && action.actionType = u && false)) := by
      intro j u
      rw [(idle_of_or hrow hor).2,Bool.and_false,Bool.or_false]
    by_cases hsa : a.alreadySucceeded id action.actionType = true
    · rw [if_pos hsa] at ha
      obtain rfl := Option.some.inj ha
      have hsameApi : ∀ j u, (a.record id (duplicate ctx action)).alreadySucceeded j u =
          (a.alreadySucceeded j u || (j = id && action.actionType = u && false)) := by
        intro j u
        rw [alreadySucceeded_duplicate hrow',Bool.and_false,Bool.or_false]
      refine h.extend hrecords (fun hnot => hnot) hsameApi hsame ?_ ?_
      · exact fun hno => by cases hno
      · exact fun hno => by cases hno
    · obtain ⟨hflag,hinactive⟩ := (h.flags _ _ hsw).resolve_left hsa
      rw [if_neg hsa] at ha
      have hdispatch : dispatchAction ctx action.actionType action.actionConfig a = .done a none := by
        rw [hflag]
        exact dispatch_flag_of_inactive hinactive
      rw [hdispatch] at ha
      obtain rfl := Option.some.inj ha
      refine h.extend hrecords (fun hnot => hnot) (alreadySucceeded_execution rfl hrow') hsame ?_ ?_
      · exact fun _ => .inr hsw
      · exact fun hno => by cases hno
  · have hsa : ¬a.alreadySucceeded id action.actionType = true := fun hsa => hsw (h.succeeded _ _ hsa)
    have halike := halike (by simpa using hsa)
    rw [if_neg hsa] at ha
    rw [worker_runAction_of_not hcool hsw] at hw
    obtain ⟨d,hd,rfl⟩ := Option.map_eq_some_iff.mp ha
    obtain ⟨d',hd',rfl⟩ := Option.map_eq_some_iff.mp hw
    have hcreates : action.actionType.createsEntity = false := by
      cases hcreates : action.actionType.createsEntity with
      | true => exact absurd halike (not_alike_of_creates hcreates)
      | false => rfl
    have hsame := (result_eq_iff hcreates).mpr halike
    rw [hd] at hsame
    have hframe := frame_workerDispatch hsame.symm
    have hsucceeds : (workerDispatch ctx action.actionType action.actionConfig w).succeeds =
        (workerDispatch ctx action.actionType action.actionConfig a).succeeds := succeeds_workerDispatch h.records _
    have hapi : (Engine.api.dispatch ctx action.actionType action.actionConfig a).result = some d := hd
    refine h.extend hrecords (hframe.inactive _) (alreadySucceeded_execution (evaluations_dispatch hapi) hrow')
      (alreadySucceeded_execution (frame_workerDispatch hd').evaluations hrow) ?_ ?_
    · intro hsuccess
      by_cases hflag : action.actionType = .flagForReview
      · rw [hflag]
        exact .inl rfl
      · rw [hsucceeds,← succeeds_eq hcreates halike hflag]
        exact .inl hsuccess
    · intro hsuccess
      refine ⟨hcreates,?_⟩
      by_cases hflag : action.actionType = .flagForReview
      · rw [hflag] at hsame
        have hnot : Inactive ctx.incidentId d := inactive_of_flag hsame.symm
        exact .inr (.inr ⟨hflag,hnot⟩)
      · rw [hsucceeds,← succeeds_eq hcreates halike hflag] at hsuccess
        exact .inl hsuccess

end CarryOut

/-! ## Steps -/

/-- The engines are at the same step. -/
structure Locked (api worker : EvaluationJob) : Prop where
  same : worker = { api with db := worker.db }
  inStep : InStep api.ctx.incidentId api.db worker.db
  separate : Separate worker

theorem agree_some_iff {api worker : EvaluationJob} :
    Agree (some api,some worker) ↔ AgreeDb (some api.db) (some worker.db) := by
  rw [agreeDb_some_iff]
  constructor
  · rintro (⟨h,-⟩ | ⟨_,_,h,h',hsame⟩)
    · cases h
    · cases h
      cases h'
      exact hsame
  · exact fun hsame => .inr ⟨api,worker,rfl,rfl,hsame⟩

theorem agree_iff_agreeDb {p : Engines} : Agree p ↔ AgreeDb (p.1.map EvaluationJob.db) (p.2.map EvaluationJob.db) := by
  obtain ⟨api,worker⟩ := p
  cases api with
  | none => cases worker <;> simp [Agree,AgreeDb]
  | some api =>
    cases worker with
    | none => simp [Agree,AgreeDb]
    | some worker => exact agree_some_iff

theorem Locked.exists_evaluations {api worker : EvaluationJob} (h : Locked api worker) :
    ∃ evaluations, worker = { api with db := api.db.withEvaluations evaluations } :=
  ⟨worker.db.evaluations,by rw [← eq_withEvaluations h.inStep.records,← h.same]⟩

theorem withoutExecutions_createEvaluation (db : PolicyDb) (e : Evaluation) : (db.createEvaluation e).withoutExecutions =
    { db.withoutExecutions with evaluations := db.withoutExecutions.evaluations.insert e.unexecuted } := by
  have hinsert : (db.evaluations.insert e).mapRows (fun _ e => e.unexecuted) =
      (db.evaluations.mapRows fun _ e => e.unexecuted).insert e.unexecuted := by
    apply Table.ext_rows
    · simp [Table.mapRows,Table.insert]
    · rfl
  simp only [PolicyDb.withoutExecutions,PolicyDb.createEvaluation,hinsert]

/-- The engines write the same evaluation of a stage, and the same actions are to come. -/
theorem Locked.evaluateStage {api worker : EvaluationJob} {stage : PolicyStage} {stages : List PolicyStage}
    (h : Locked api worker) (hstages : api.stages = stage :: stages) :
    Locked (api.evaluateStage stage stages) (worker.evaluateStage stage stages) := by
  obtain ⟨evaluations,rfl⟩ := h.exists_evaluations
  obtain ⟨-,hin,hseparate⟩ := h
  have hnext : evaluations.next = api.db.evaluations.next :=
    (congrArg (fun d : PolicyDb => d.evaluations.next) hin.records).symm
  have hnew : ∀ j t, ((api.evaluateStage stage stages).db).alreadySucceeded j t = api.db.alreadySucceeded j t :=
    alreadySucceeded_createEvaluation _ rfl
  have hnew' : ∀ j t, ((api.db.withEvaluations evaluations).createEvaluation (api.evaluationOf stage)).alreadySucceeded j t =
      (api.db.withEvaluations evaluations).alreadySucceeded j t := alreadySucceeded_createEvaluation _ rfl
  refine ⟨?_,⟨?_,?_,?_,?_⟩,hseparate.evaluateStage hstages⟩
  · simp only [EvaluationJob.evaluateStage,PolicyDb.withEvaluations,hnext]
    rfl
  · have hwritten := withoutExecutions_createEvaluation api.db (api.evaluationOf stage)
    rw [hin.records,← withoutExecutions_createEvaluation] at hwritten
    exact hwritten
  · exact fun j t ht => hin.noCreation j t (hnew' j t ▸ ht)
  · intro j t ht
    rw [hnew] at ht
    exact (hnew' j t).trans (hin.succeeded j t ht)
  · intro j t ht
    rw [hnew]
    exact hin.flags j t ((hnew' j t).symm.trans ht)

/-- Turning to the next student reads what both engines have recorded. -/
theorem pendingStages_congr (h : a.withoutExecutions = w.withoutExecutions) (incidentId studentId : ℕ) :
    w.pendingStages incidentId studentId = a.pendingStages incidentId studentId := by
  have hselect : ∀ d : PolicyDb, ((d.evaluations.select fun e => e.incidentId = incidentId && e.studentId = studentId).map
      fun row => row.2.stageRecord.stage) = ((d.withoutExecutions.evaluations.select fun e =>
        e.incidentId = incidentId && e.studentId = studentId).map fun row => row.2.stageRecord.stage) := by
    intro d
    simp only [PolicyDb.withoutExecutions]
    rw [Table.select_mapRows fun _ _ => rfl,List.map_map]
    rfl
  unfold PolicyDb.pendingStages
  rw [hselect w,hselect a,h]

theorem withoutExecutions_link (h : a.withoutExecutions = w.withoutExecutions) (incidentId : ℕ) (evaluationId : Option ℕ) :
    (a.linkEvaluation incidentId evaluationId).withoutExecutions =
      (w.linkEvaluation incidentId evaluationId).withoutExecutions := by
  have hlink : ∀ d : PolicyDb, (d.linkEvaluation incidentId evaluationId).withoutExecutions =
      d.withoutExecutions.linkEvaluation incidentId evaluationId := by
    intro d
    cases evaluationId <;> rfl
  rw [hlink,hlink,h]

theorem InStep.link {incidentId : ℕ} (h : InStep incidentId a w) (evaluationId : Option ℕ) :
    InStep incidentId (a.linkEvaluation incidentId evaluationId) (w.linkEvaluation incidentId evaluationId) := by
  have hframe : ∀ d : PolicyDb, Frame d (d.linkEvaluation incidentId evaluationId) := fun d => linkEvaluation_frame _ _
  have ha := alreadySucceeded_congr (hframe a).evaluations
  have hw := alreadySucceeded_congr (hframe w).evaluations
  refine ⟨withoutExecutions_link h.records _ _,noCreation_congr (hframe w).evaluations h.noCreation,?_,?_⟩
  · intro j t ht
    rw [ha] at ht
    rw [hw]
    exact h.succeeded j t ht
  · intro j t ht
    rw [hw] at ht
    rw [ha]
    rcases h.flags j t ht with hapi | ⟨hflag,hnot⟩
    · exact .inl hapi
    · exact .inr ⟨hflag,(hframe a).inactive _ hnot⟩

theorem Locked.turn {api worker : EvaluationJob} (h : Locked api worker) (hactions : api.actions = []) :
    Locked api.turn worker.turn := by
  have hworker : worker.actions = [] := by
    rw [h.same]
    exact hactions
  have hseparate := h.separate.turn hworker
  have hlinked := h.inStep.link api.firstConsequenceEvaluationId
  have hpending := pendingStages_congr hlinked.records
  obtain ⟨evaluations,rfl⟩ := h.exists_evaluations
  obtain ⟨db,ctx,evaluationId,actions,stages,consequence,students⟩ := api
  cases students with
  | nil => exact ⟨rfl,hlinked,hseparate⟩
  | cons student students =>
    refine ⟨?_,hlinked,hseparate⟩
    have hstages := hpending ctx.incidentId student.2
    simp only [EvaluationJob.turn] at hstages ⊢
    rw [hstages]

theorem continues_worker (h : (Engine.worker.runAction ctx id w ruleId action).map Prod.fst = some d) :
    Continues id w d := by
  rw [runAction_fst] at h
  split at h
  · obtain rfl := Option.some.inj h
    exact Continues.refl id w
  · split at h
    · obtain rfl := Option.some.inj h
      exact continues_record rfl rfl _
    · obtain ⟨d',hd',rfl⟩ := Option.map_eq_some_iff.mp h
      have hworker : (workerDispatch ctx action.actionType action.actionConfig w).result = some d' := hd'
      have hframe := frame_workerDispatch hworker
      exact continues_record hframe.ruleBook hframe.evaluations _

theorem step_action {j : EvaluationJob} {b : ℕ × RuleAction ActionConfig} {actions : List (ℕ × RuleAction ActionConfig)}
    (h : j.actions = b :: actions) : engine.step j =
      ((engine.runAction j.ctx j.evaluationId j.db b.1 b.2).map Prod.fst).map fun db =>
        { j with db := db, actions := actions } := by
  unfold Engine.step
  rw [h,Option.map_map]
  rfl

theorem step_stage {j : EvaluationJob} {stage : PolicyStage} {stages : List PolicyStage} (h : j.actions = [])
    (hstages : j.stages = stage :: stages) : engine.step j = some (j.evaluateStage stage stages) := by
  unfold Engine.step
  rw [h,hstages]

theorem step_turn {j : EvaluationJob} (h : j.actions = []) (hstages : j.stages = []) : engine.step j = some j.turn := by
  unfold Engine.step
  rw [h,hstages]

theorem Locked.agree {api worker : EvaluationJob} (h : Locked api worker) : Agree (some api,some worker) :=
  agree_some_iff.mpr (agreeDb_some_iff.mpr
    ⟨h.inStep.records,h.inStep.api_noCreation.entitiesCreated,h.inStep.noCreation.entitiesCreated⟩)

/-- One step: the engines still agree exactly if the next action is alike, and then are at the same step. -/
theorem Locked.step {api worker : EvaluationJob} (h : Locked api worker) :
    (Agree (Engine.api.step api,Engine.worker.step worker) ↔ api.NextAlike) ∧
      ∀ api' worker', Engine.api.step api = some api' → Engine.worker.step worker = some worker' →
        Agree (some api',some worker') → Locked api' worker' := by
  have hctx : worker.ctx = api.ctx := by rw [h.same]
  have hid : worker.evaluationId = api.evaluationId := by rw [h.same]
  have hactions : worker.actions = api.actions := by rw [h.same]
  have hstages : worker.stages = api.stages := by rw [h.same]
  cases hnext : api.actions with
  | nil =>
    have hnone : api.NextAlike := by simp [EvaluationJob.NextAlike,hnext]
    cases hstage : api.stages with
    | nil =>
      rw [step_turn hnext hstage,step_turn (hactions.trans hnext) (hstages.trans hstage)]
      have hturn := h.turn hnext
      refine ⟨iff_of_true hturn.agree hnone,fun api' worker' hapi hworker _ => ?_⟩
      cases hapi
      cases hworker
      exact hturn
    | cons stage stages =>
      rw [step_stage hnext hstage,step_stage (hactions.trans hnext) (hstages.trans hstage)]
      have hevaluated := h.evaluateStage hstage
      refine ⟨iff_of_true hevaluated.agree hnone,fun api' worker' hapi hworker _ => ?_⟩
      cases hapi
      cases hworker
      exact hevaluated
  | cons b actions =>
    obtain ⟨e,he⟩ := h.separate.current (by simp [hactions,hnext])
    have hrow := he.found
    rw [hid] at hrow
    have hcool : Engine.worker.cooling api.ctx worker.db b.1 b.2.actionType = true →
        worker.db.alreadySucceeded api.evaluationId b.2.actionType = true := by
      intro hcooling
      rw [← hid]
      apply h.separate.alreadySucceeded_of_recentExecution (hactions.trans hnext)
      rw [hctx]
      exact (Bool.and_eq_true_iff.mp hcooling).2
    have hiff := carryOut_iff h.inStep hrow hcool
    have halike : api.NextAlike ↔ (api.db.alreadySucceeded api.evaluationId b.2.actionType = false →
        Alike api.ctx api.db b.2.actionType b.2.actionConfig) := by
      simp [EvaluationJob.NextAlike,hnext]
    rw [step_action hnext,step_action (hactions.trans hnext),hctx,hid,halike,← hiff,agree_iff_agreeDb]
    have hdb : ∀ (j : EvaluationJob) (o : Option PolicyDb),
        (o.map fun db => { j with db := db, actions := actions }).map EvaluationJob.db = o := by
      intro j o
      cases o <;> rfl
    constructor
    · dsimp only
      rw [hdb api,← hctx,← hid,hdb worker,hctx,hid]
    · intro api' worker' hapi hworker hagree
      obtain ⟨a',ha,rfl⟩ := Option.map_eq_some_iff.mp hapi
      obtain ⟨w',hw,rfl⟩ := Option.map_eq_some_iff.mp hworker
      have hstepped := carryOut_inStep h.inStep hrow hcool (agree_some_iff.mp hagree) ha hw
      have hcontinues : Continues worker.evaluationId worker.db w' := by
        rw [hid]
        exact continues_worker hw
      have hseparate := h.separate.carryOut (hactions.trans hnext) hcontinues
      rw [hctx,hid] at hseparate
      exact ⟨by rw [h.same],hstepped,hseparate⟩

theorem locked_startJob {now : ℤ} {incidentId : ℕ} {job : EvaluationJob}
    (hfresh : db.evaluations.All fun e => e.actionExecutions = []) (h : db.startJob now incidentId = some job) :
    Locked job job := by
  obtain ⟨incident,-,hjob⟩ := Option.bind_eq_some_iff.mp h
  have hnone : ∀ j t, db.alreadySucceeded j t = false := by
    intro j t
    unfold PolicyDb.alreadySucceeded
    cases hget : db.evaluations.get? j with
    | none => rfl
    | some e => simp [Evaluation.hasSucceeded,hfresh.get? hget]
  split at hjob
  · cases hjob
  · cases hjob
    refine ⟨rfl,⟨rfl,?_,fun _ _ ht => ht,fun _ _ ht => .inl ht⟩,pendingStages_nodup _ _,?_,fun hno => absurd rfl hno⟩
    · intro j t ht
      rw [hnone] at ht
      cases ht
    · intro r hr hexecuted
      exact absurd (hfresh r hr) hexecuted

/-- Both engines evaluate an incident alike as far as they go exactly if every action they come to, unless one of its
type has succeeded in the stage, is one that both carry out with the same effect. -/
theorem agree_iff (db : PolicyDb) (now : ℤ) (incidentId : ℕ) {job : EvaluationJob}
    (hfresh : db.evaluations.All fun e => e.actionExecutions = []) (hstart : db.startJob now incidentId = some job)
    (steps : ℕ) : (∀ p ∈ trace sideBySide (some job,some job) (List.replicate steps ()), Agree p) ↔
      Guarded sideBySide (fun p _ => ∀ j, p.1 = some j → j.NextAlike) (some job,some job) (List.replicate steps ()) := by
  have hlocked := locked_startJob hfresh hstart
  -- the engines are only at the same step as long as they agree
  have hinvariant : ∀ (p : Engines) (o : Unit), Agree p → (Agree p → ∀ api worker, p.1 = some api → p.2 = some worker →
      Locked api worker) → (Agree (sideBySide p o) ↔ ∀ j, p.1 = some j → j.NextAlike) ∧
        (Agree (sideBySide p o) → ∀ api worker, (sideBySide p o).1 = some api → (sideBySide p o).2 = some worker →
          Locked api worker) := by
    rintro ⟨p,p'⟩ o hagree hsame
    have hsame := hsame hagree
    rcases hagree with ⟨rfl,rfl⟩ | ⟨api,worker,rfl,rfl,-⟩
    · refine ⟨iff_of_true (.inl ⟨rfl,rfl⟩) ?_,?_⟩
      · intro j hj
        cases hj
      · intro _ api worker hapi
        cases hapi
    · obtain ⟨hiff,hnext⟩ := (hsame api worker rfl rfl).step
      constructor
      · refine hiff.trans ⟨fun halike j hj => ?_,fun halike => halike api rfl⟩
        cases hj
        exact halike
      · intro hagree api' worker' hapi hworker
        refine hnext api' worker' hapi hworker ?_
        rw [← hapi,← hworker]
        exact hagree
  refine trace_invariant_iff_along (fun p o hagree hsame => (hinvariant p o hagree hsame).2)
    (fun p o hagree hsame => (hinvariant p o hagree hsame).1) hlocked.agree fun _ api worker hapi hworker => ?_
  cases hapi
  cases hworker
  exact hlocked

/-! ## A job comes to its end -/

/-- Nothing is left to do, or the transaction is gone. -/
def Finished (job : Option EvaluationJob) : Prop := ∀ j, job = some j → j.actions = [] ∧ j.stages = [] ∧ j.students = []

theorem exists_finished (engine : Engine) (j : EvaluationJob) :
    ∃ steps, Finished ((fun job => job.bind engine.step)^[steps] (some j)) := by
  by_cases hdone : j.actions = [] ∧ j.stages = [] ∧ j.students = []
  · refine ⟨0,fun j' hj' => ?_⟩
    cases hj'
    exact hdone
  · cases hstep : engine.step j with
    | none =>
      refine ⟨1,fun j' hj' => ?_⟩
      rw [Function.iterate_one,Option.bind_some,hstep] at hj'
      cases hj'
    | some next =>
      obtain ⟨steps,hsteps⟩ := exists_finished engine next
      refine ⟨steps + 1,?_⟩
      rwa [Function.iterate_succ_apply,Option.bind_some,hstep]
termination_by (j.students.length,j.stages.length,j.actions.length)
decreasing_by
  unfold Engine.step at hstep
  split at hstep
  · rename_i hactions
    obtain ⟨_,-,rfl⟩ := Option.map_eq_some_iff.mp hstep
    simp [hactions,Prod.lex_def]
  · split at hstep
    · rename_i hstages
      cases hstep
      simp [EvaluationJob.evaluateStage,hstages,Prod.lex_def]
    · rename_i hactions _ hstages
      cases hstep
      cases hstudents : j.students with
      | nil => exact absurd ⟨hactions,hstages,hstudents⟩ hdone
      | cons student students => simp [EvaluationJob.turn,hstudents,Prod.lex_def]

/-! ## A detention that is not given -/

def lateDetention : RuleAction ActionConfig := ⟨.createSanction,{ sanctionType := .value .detention },0⟩

def lateDetentionRule : Rule where
  name := "Detention"
  description := none
  isActive := true
  stage := .consequence
  priority := 1
  matchStrategy := .firstMatch
  stopProcessingStage := false
  conditions := {}
  currentVersion := 1
  actions := [lateDetention]

def lateDetentionDb : PolicyDb := { lateDb Table.empty with ruleBook := ⟨Table.empty.insert lateDetentionRule,UniqueIndex.empty⟩ }

def lateDetentionJob : EvaluationJob where
  db := lateDetentionDb
  ctx := ⟨1000,0,firstOffence,student,7⟩
  evaluationId := 0
  actions := []
  stages := stageOrder
  firstConsequenceEvaluationId := none
  students := []

/-- The worker records a success without a sanction. -/
theorem not_agree : ¬∀ (db : PolicyDb) (now : ℤ) (incidentId : ℕ) (job : EvaluationJob),
    db.evaluations.All (fun e => e.actionExecutions = []) → db.startJob now incidentId = some job →
      ∀ steps, ∀ p ∈ trace sideBySide (some job,some job) (List.replicate steps ()), Agree p := by
  intro h
  have hagree := h lateDetentionDb 1000 0 lateDetentionJob (by simp [lateDetentionDb,lateDb]) rfl 2 _ (foldl_mem_trace _ _)
  rcases hagree with ⟨hnone,-⟩ | ⟨api,worker,-,hworker,-,-,hcreated⟩
  · cases hnone
  · have hrecorded : (worker.db.evaluations.get? 0).any fun e => e.actionExecutions.any fun x =>
        x.status = .success && x.actionType.createsEntity && x.createdEntity.isNone := by
      cases hworker
      decide +kernel
    obtain ⟨e,he,hx⟩ := (Option.any_eq_true _ _).mp hrecorded
    obtain ⟨x,hx,hsuccess⟩ := List.any_eq_true.mp hx
    simp only [Bool.and_eq_true,decide_eq_true_eq,Option.isNone_iff_eq_none] at hsuccess
    have hnamed := hcreated.get? he x hx hsuccess.1.1 hsuccess.1.2
    rw [hsuccess.2] at hnamed
    cases hnamed

theorem agree_iff_lateDetention : (∀ p ∈ trace sideBySide (some lateDetentionJob,some lateDetentionJob) (List.replicate 2 ()),
    Agree p) ↔ Guarded sideBySide (fun p _ => ∀ j, p.1 = some j → j.NextAlike) (some lateDetentionJob,some lateDetentionJob)
      (List.replicate 2 ()) :=
  agree_iff lateDetentionDb 1000 0 (by simp [lateDetentionDb,lateDb]) rfl 2

end EduPod.Policy
