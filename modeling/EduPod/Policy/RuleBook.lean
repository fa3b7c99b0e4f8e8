import Mathlib
import EduPod.Foundation.Table
import EduPod.Foundation.UniqueIndex

/-! # Conditions of behaviour policies

What a rule's conditions say about an incident and a participant. Both evaluators carry a copy of
the matching, word for word the same.
-/
namespace EduPod.Policy

inductive Polarity
  | positive | negative | neutral
  deriving DecidableEq, Repr

inductive ParticipantRole
  | subject | witness | bystander | reporter | victim | instigator | mediator
  deriving DecidableEq, Repr

/-- The stored conditions. Context types are the strings of the schema. -/
structure PolicyCondition where
  categoryIds : Option (List ℕ) := none
  polarity : Option Polarity := none
  severityMin : Option ℤ := none
  severityMax : Option ℤ := none
  yearGroupIds : Option (List ℕ) := none
  studentHasSend : Option Bool := none
  studentHasActiveIntervention : Option Bool := none
  contextTypes : Option (List String) := none
  participantRole : Option ParticipantRole := none
  repeatCountMin : Option ℕ := none
  repeatWindowDays : Option ℕ := none
  repeatCategoryIds : Option (List ℕ) := none
  weekdays : Option (List ℤ) := none
  periodOrders : Option (List ℤ) := none
  deriving DecidableEq, Repr

def contextTypeNames : List String :=
  ["class","break","before_school","after_school","lunch","transport","extra_curricular","off_site","online","other"]

/-- The bounds of `PolicyConditionSchema`. -/
def PolicyCondition.wellFormed (c : PolicyCondition) : Bool :=
  c.severityMin.all (fun n => 1 ≤ n && n ≤ 10) && c.severityMax.all (fun n => 1 ≤ n && n ≤ 10) &&
  c.contextTypes.all (fun types => types.all contextTypeNames.contains) &&
  c.repeatCountMin.all (1 ≤ ·) && c.repeatWindowDays.all (fun n => 1 ≤ n && n ≤ 365) &&
  c.weekdays.all (fun days => days.all fun d => 0 ≤ d && d ≤ 6)

def PolicyCondition.safeParse (c : PolicyCondition) : Option PolicyCondition :=
  if c.wellFormed then some c else none

structure EvaluatedInput where
  categoryId : ℕ
  categoryName : String
  polarity : Polarity
  severity : ℤ
  contextType : String
  occurredAt : ℤ
  weekday : Option ℤ
  periodOrder : Option ℤ
  studentId : ℕ
  participantRole : ParticipantRole
  yearGroupId : Option ℕ
  yearGroupName : Option String
  hasSend : Bool
  hadActiveIntervention : Bool
  repeatCount : ℕ
  repeatWindowDaysUsed : Option ℕ
  repeatCategoryIdsUsed : List ℕ
  deriving DecidableEq, Repr

/-- A list condition is a wildcard when it is missing or empty; a missing value fails any other. -/
def listed {α : Type*} [DecidableEq α] (allowed : Option (List α)) (value : Option α) : Bool :=
  match allowed with
  | none => true
  | some [] => true
  | some (a :: as) => value.any (a :: as).contains

/-- A condition on one value is a wildcard when it is missing. -/
def meets {α : Type*} (wanted : Option α) (test : α → Bool) : Bool := wanted.all test

def evaluateConditions (conditions : PolicyCondition) (input : EvaluatedInput) : Bool :=
  listed conditions.categoryIds (some input.categoryId) &&
  meets conditions.polarity (input.polarity = ·) &&
  meets conditions.severityMin (· ≤ input.severity) &&
  meets conditions.severityMax (input.severity ≤ ·) &&
  listed conditions.yearGroupIds input.yearGroupId &&
  meets conditions.studentHasSend (input.hasSend = ·) &&
  meets conditions.studentHasActiveIntervention (input.hadActiveIntervention = ·) &&
  listed conditions.contextTypes (some input.contextType) &&
  meets conditions.participantRole (input.participantRole = ·) &&
  meets conditions.repeatCountMin (· ≤ input.repeatCount) &&
  listed conditions.weekdays input.weekday &&
  listed conditions.periodOrders input.periodOrder

/-! ## Policy rules and their versions

The rules service of one tenant. It copies conditions and action configurations without looking
into them. Version records stand under the unique index on rule and version number.
-/

inductive PolicyStage
  | consequence | approvalStage | notificationStage | support | alerting
  deriving DecidableEq, Repr

inductive MatchStrategy
  | firstMatch | allMatching
  deriving DecidableEq, Repr

inductive ActionType
  | autoEscalate | createSanction | requireApproval | requireParentMeeting | requireParentNotification | createTask
  | createIntervention | notifyRoles | notifyUsers | flagForReview | blockWithoutApproval
  deriving DecidableEq, Repr

structure RuleAction (Config : Type*) where
  actionType : ActionType
  actionConfig : Config
  executionOrder : ℕ

/-- Actions as every reader orders them. -/
def inExecutionOrder {Config : Type*} (actions : List (RuleAction Config)) : List (RuleAction Config) :=
  actions.insertionSort fun a b => a.executionOrder ≤ b.executionOrder

structure PolicyRule (Conditions Config : Type*) where
  name : String
  description : Option String
  isActive : Bool
  stage : PolicyStage
  priority : ℤ
  matchStrategy : MatchStrategy
  stopProcessingStage : Bool
  conditions : Conditions
  currentVersion : ℕ
  actions : List (RuleAction Config)

structure RuleVersion (Conditions Config : Type*) where
  name : String
  conditions : Conditions
  actions : List (RuleAction Config)
  stage : PolicyStage
  matchStrategy : MatchStrategy
  priority : ℤ
  changedById : ℕ
  changeReason : Option String

structure CreatePolicyRuleDto (Conditions Config : Type*) where
  name : String
  description : Option String
  isActive : Bool
  stage : PolicyStage
  priority : ℤ
  matchStrategy : MatchStrategy
  stopProcessingStage : Bool
  conditions : Conditions
  actions : List (RuleAction Config)

structure UpdatePolicyRuleDto (Conditions Config : Type*) where
  name : Option String
  description : Option (Option String)
  stage : Option PolicyStage
  priority : Option ℤ
  matchStrategy : Option MatchStrategy
  stopProcessingStage : Option Bool
  isActive : Option Bool
  conditions : Option Conditions
  actions : Option (List (RuleAction Config))
  changeReason : Option String

/-- The rules, and the version records by rule and version number. -/
structure RuleBook (Conditions Config : Type*) where
  rules : Table (PolicyRule Conditions Config)
  versions : UniqueIndex (ℕ × ℕ) (RuleVersion Conditions Config)

section
variable {Conditions Config : Type*}

def RuleBook.empty : RuleBook Conditions Config := ⟨Table.empty,UniqueIndex.empty⟩

/-- `behaviourPolicyRuleVersion.create`: a second record of one number is refused. -/
def RuleBook.createVersion (b : RuleBook Conditions Config) (ruleId version : ℕ)
    (record : RuleVersion Conditions Config) : Option (RuleBook Conditions Config) :=
  if (b.versions.get? (ruleId,version)).isSome then none
  else some { b with versions := b.versions.insert (ruleId,version) record }

/-- A rule, its actions and its first version, as `createRule` and `importRules` write them. -/
def RuleBook.addRule (b : RuleBook Conditions Config) (userId : ℕ) (reason : String)
    (dto : CreatePolicyRuleDto Conditions Config) : Option (RuleBook Conditions Config) :=
  let rule : PolicyRule Conditions Config := {
    name := dto.name
    description := dto.description
    isActive := dto.isActive
    stage := dto.stage
    priority := dto.priority
    matchStrategy := dto.matchStrategy
    stopProcessingStage := dto.stopProcessingStage
    conditions := dto.conditions
    currentVersion := 1
    actions := dto.actions }
  let stored : RuleBook Conditions Config := { b with rules := b.rules.insert rule }
  stored.createVersion b.rules.next 1 {
    name := dto.name
    conditions := dto.conditions
    actions := dto.actions
    stage := dto.stage
    matchStrategy := dto.matchStrategy
    priority := dto.priority
    changedById := userId
    changeReason := some reason }

def RuleBook.createRule (b : RuleBook Conditions Config) (userId : ℕ) (dto : CreatePolicyRuleDto Conditions Config) :
    Option (RuleBook Conditions Config) := b.addRule userId "Initial creation" dto

/-- One transaction: a rule that does not resolve or parse undoes the whole import. -/
def RuleBook.importRules {Exported : Type*} (resolve : Exported → Option (CreatePolicyRuleDto Conditions Config))
    (b : RuleBook Conditions Config) (userId : ℕ) (rules : List Exported) : Option (RuleBook Conditions Config) :=
  rules.foldlM (fun b exported => (resolve exported).bind (b.addRule userId "Imported")) b

def UpdatePolicyRuleDto.apply (dto : UpdatePolicyRuleDto Conditions Config) (rule : PolicyRule Conditions Config) :
    PolicyRule Conditions Config where
  name := dto.name.getD rule.name
  description := dto.description.getD rule.description
  isActive := dto.isActive.getD rule.isActive
  stage := dto.stage.getD rule.stage
  priority := dto.priority.getD rule.priority
  matchStrategy := dto.matchStrategy.getD rule.matchStrategy
  stopProcessingStage := dto.stopProcessingStage.getD rule.stopProcessingStage
  conditions := dto.conditions.getD rule.conditions
  currentVersion := rule.currentVersion + 1
  actions := dto.actions.getD rule.actions

/-- The rule as it was is recorded under its own number before it changes. -/
def RuleBook.updateRule (b : RuleBook Conditions Config) (ruleId userId : ℕ) (dto : UpdatePolicyRuleDto Conditions Config) :
    Option (RuleBook Conditions Config) :=
  (b.rules.get? ruleId).bind fun current =>
    (b.createVersion ruleId current.currentVersion {
      name := current.name
      conditions := current.conditions
      actions := inExecutionOrder current.actions
      stage := current.stage
      matchStrategy := current.matchStrategy
      priority := current.priority
      changedById := userId
      changeReason := dto.changeReason }).map fun b =>
    { b with rules := b.rules.modify ruleId dto.apply }

def RuleBook.updatePriority (b : RuleBook Conditions Config) (ruleId : ℕ) (priority : ℤ) :
    Option (RuleBook Conditions Config) :=
  (b.rules.get? ruleId).map fun _ =>
    { b with rules := b.rules.modify ruleId fun rule => { rule with priority := priority } }

/-! ## One stage -/

/-- The active rules of a stage by priority, with their identifiers. -/
def RuleBook.stageRules (b : RuleBook Conditions Config) (stage : PolicyStage) : List (ℕ × PolicyRule Conditions Config) :=
  (b.rules.select fun rule => rule.stage = stage && rule.isActive).insertionSort fun a b => a.2.priority ≤ b.2.priority

/-- The rules that fire, up to the first one that ends the stage. -/
@[grind] def matchedRules (hits : Conditions → Bool) :
    List (ℕ × PolicyRule Conditions Config) → List (ℕ × PolicyRule Conditions Config)
  | [] => []
  | rule :: rest =>
    if hits rule.2.conditions then
      rule :: if rule.2.stopProcessingStage || rule.2.matchStrategy = .firstMatch then [] else matchedRules hits rest
    else matchedRules hits rest

/-- `getVersionId`: version records go by rule and number here. -/
def RuleBook.getVersionId (b : RuleBook Conditions Config) (ruleId version : ℕ) : Option (ℕ × ℕ) :=
  (b.versions.get? (ruleId,version)).map fun _ => (ruleId,version)

/-- What a stage records of its rules: the version of the first match, its conditions, and how many
rules there were. -/
structure StageRecord (Conditions : Type*) where
  stage : PolicyStage
  ruleVersionId : Option (ℕ × ℕ)
  matched : Bool
  matchedConditions : Option Conditions
  rulesEvaluatedCount : ℕ
  deriving DecidableEq, Repr

def RuleBook.stageRecord (b : RuleBook Conditions Config) (stage : PolicyStage) (hits : Conditions → Bool) :
    StageRecord Conditions :=
  let rules := b.stageRules stage
  let firstMatch := (matchedRules hits rules).head?
  { stage
    ruleVersionId := firstMatch.bind fun rule => b.getVersionId rule.1 rule.2.currentVersion
    matched := firstMatch.isSome
    matchedConditions := firstMatch.map fun rule => rule.2.conditions
    rulesEvaluatedCount := rules.length }

theorem matchedRules_sublist (hits : Conditions → Bool) (rules : List (ℕ × PolicyRule Conditions Config)) :
    (matchedRules hits rules).Sublist rules := by
  induction rules with
  | nil => exact List.Sublist.refl _
  | cons rule rest ih =>
    unfold matchedRules
    split
    · split
      · exact (List.nil_sublist rest).cons_cons rule
      · exact ih.cons_cons rule
    · exact ih.cons rule

/-- Only rules of the book, active and of the stage, are matched. -/
theorem get?_of_mem_matchedRules {b : RuleBook Conditions Config} {stage : PolicyStage} {hits : Conditions → Bool}
    {rule : ℕ × PolicyRule Conditions Config} (h : rule ∈ matchedRules hits (b.stageRules stage)) :
    b.rules.get? rule.1 = some rule.2 := by
  have hm := (matchedRules_sublist hits _).subset h
  have hs : rule ∈ b.rules.select _ := (List.perm_insertionSort _ _).subset hm
  exact Table.get?_of_mem (List.mem_filter.mp hs).1

end

end EduPod.Policy
