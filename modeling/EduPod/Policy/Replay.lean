import Mathlib
import EduPod.Policy.Incidents

/-! # Replaying a rule over past incidents

A replay matches one rule against the incidents of a period without writing anything. It builds the
input from the snapshot alone, where the live engine also counts the student's incidents.
-/
namespace EduPod.Policy
open Behaviour (IncidentStatus)
open Fallible

structure ReplayPolicyRuleDto where
  ruleId : ℕ
  fromDay : ℤ
  toDay : ℤ

inductive ReplayError
  | invalidReplayPeriod | policyRuleNotFound | invalidConditions | replayTooLarge
  deriving DecidableEq, Repr

/-- `matched` lists the pairs of incident and participant that the totals count. -/
structure ReplayResult where
  ruleId : ℕ
  ruleName : String
  stage : PolicyStage
  incidentsEvaluated : ℕ
  matched : List (ℕ × Participant)
  incidentsMatched : ℕ
  studentsAffected : ℕ
  affectedYearGroups : List String
  actionsThatWouldFire : ActionType → ℕ
  estimatedSanctionsCreated : Option SanctionType → ℕ
  estimatedApprovalsCreated : ℕ
  sampleMatches : List (ℕ × Participant)

structure ReplaySchool where
  rules : Table Rule
  incidents : Table Incident
  categories : Table BehaviourCategory

def buildEvaluatedInputFromSnapshot (categories : Table BehaviourCategory) (incident : Incident) (participant : Participant)
    (studentId : ℕ) (conditions : PolicyCondition) : EvaluatedInput where
  categoryId := incident.categoryId
  categoryName := categoryNameOf categories incident
  polarity := incident.polarity
  severity := incident.severity
  contextType := incident.contextType
  occurredAt := incident.occurredAt
  weekday := incident.weekday
  periodOrder := incident.periodOrder
  studentId := studentId
  participantRole := participant.role
  yearGroupId := (snapshotOf participant).yearGroupId
  yearGroupName := (snapshotOf participant).yearGroupName
  hasSend := (snapshotOf participant).hasSend.getD false
  hadActiveIntervention := (snapshotOf participant).hadActiveIntervention.getD false
  repeatCount := 0
  repeatWindowDaysUsed := conditions.repeatWindowDays
  repeatCategoryIdsUsed := conditions.repeatCategoryIds.getD []

/-- The last second of a day, as `T23:59:59Z` names it. -/
def endOfDay (day : ℤ) : ℤ := day * msPerDay + (msPerDay - 1000)

def ReplaySchool.findIncidentsForReplay (school : ReplaySchool) (fromDate toDate : ℤ) : List (ℕ × Incident) :=
  school.incidents.select fun i => fromDate ≤ i.occurredAt && i.occurredAt ≤ toDate && i.counts

def studentParticipants (incident : Incident) : List Participant :=
  incident.participants.filter fun p => p.participantType = .student

/-- Both engines match a participant by the same conditions; the input is what they differ in. -/
def matchesWith (input : Incident → Participant → ℕ → EvaluatedInput) (conditions : PolicyCondition)
    (incident : Incident) (participant : Participant) : Bool :=
  participant.studentId.any fun studentId => evaluateConditions conditions (input incident participant studentId)

/-- `buildEvaluatedInput` followed by `evaluateConditions`. -/
def ReplaySchool.liveMatches (school : ReplaySchool) (conditions : PolicyCondition) : Incident → Participant → Bool :=
  matchesWith (buildEvaluatedInput school.categories school.incidents · · · conditions) conditions

def ReplaySchool.replayMatches (school : ReplaySchool) (conditions : PolicyCondition) :
    Incident → Participant → Bool :=
  matchesWith (buildEvaluatedInputFromSnapshot school.categories · · · conditions) conditions

/-- The pairs of a period that a replay counts. -/
def ReplaySchool.replayed (school : ReplaySchool) (conditions : PolicyCondition) (incidents : List (ℕ × Incident)) :
    List (ℕ × Participant) :=
  incidents.flatMap fun row => ((studentParticipants row.2).filter (school.replayMatches conditions row.2)).map
    fun p => (row.1,p)

/-- A missing type is estimated as another sanction; values that are no sanction type are not told apart from it. -/
def sanctionTypeOf (config : ActionConfig) : Option SanctionType :=
  match config.sanctionType with
  | .value t => some t
  | _ => none

/-- The totals over the matched pairs; every matched pair would fire every action of the rule. -/
def ReplayResult.of (ruleId : ℕ) (rule : Rule) (incidentsEvaluated : ℕ) (matched : List (ℕ × Participant)) :
    ReplayResult :=
  let fired (p : RuleAction ActionConfig → Bool) := matched.length * rule.actions.countP p
  { ruleId
    ruleName := rule.name
    stage := rule.stage
    incidentsEvaluated
    matched
    incidentsMatched := (matched.map Prod.fst).eraseDups.length
    studentsAffected := (matched.filterMap fun m => m.2.studentId).eraseDups.length
    affectedYearGroups := (matched.filterMap fun m =>
      (snapshotOf m.2).yearGroupName.filter (· ≠ "")).eraseDups.mergeSort (· ≤ ·)
    actionsThatWouldFire := fun t => fired fun a => a.actionType = t
    estimatedSanctionsCreated := fun t => fired fun a => a.actionType = .createSanction && sanctionTypeOf a.actionConfig = t
    estimatedApprovalsCreated := fired fun a =>
      a.actionType = .requireApproval || a.actionType = .blockWithoutApproval
    sampleMatches := matched.take 10 }

def ReplaySchool.replayRule (school : ReplaySchool) (dto : ReplayPolicyRuleDto) : Except ReplayError ReplayResult := do
  let fromDate := dto.fromDay * msPerDay
  let toDate := endOfDay dto.toDay
  ensure (fromDate < toDate) .invalidReplayPeriod
  let rule ← require (school.rules.get? dto.ruleId) .policyRuleNotFound
  let conditions ← require rule.conditions.safeParse .invalidConditions
  let incidents := school.findIncidentsForReplay fromDate toDate
  ensure (incidents.length ≤ 10000) .replayTooLarge
  pure (.of dto.ruleId rule incidents.length (school.replayed conditions incidents))

variable {school : ReplaySchool} {dto : ReplayPolicyRuleDto} {result : ReplayResult} {rule : Rule}
  {conditions : PolicyCondition} {incidents : List (ℕ × Incident)}

/-! ## The two inputs -/

theorem buildEvaluatedInputFromSnapshot_eq (categories : Table BehaviourCategory) (incidents : Table Incident)
    (incident : Incident) (participant : Participant) (studentId : ℕ) (conditions : PolicyCondition) :
    buildEvaluatedInputFromSnapshot categories incident participant studentId conditions =
      { buildEvaluatedInput categories incidents incident participant studentId conditions with repeatCount := 0 } :=
  rfl

/-- Only one condition looks at the repeat count. -/
theorem evaluateConditions_withRepeatCount (conditions : PolicyCondition) (input : EvaluatedInput) (count : ℕ)
    (h : conditions.repeatCountMin = none) :
    evaluateConditions conditions { input with repeatCount := count } = evaluateConditions conditions input := by
  simp [evaluateConditions,meets,h]

theorem not_evaluateConditions_of_repeat (conditions : PolicyCondition) (input : EvaluatedInput) {n : ℕ}
    (h : conditions.repeatCountMin = some n) (hn : input.repeatCount < n) :
    evaluateConditions conditions input = false := by
  simp [evaluateConditions,meets,h,hn]

theorem safeParse_eq_some {stored : PolicyCondition} (h : stored.safeParse = some conditions) :
    conditions = stored ∧ ∀ n ∈ conditions.repeatCountMin, 1 ≤ n := by
  unfold PolicyCondition.safeParse at h
  split at h
  · rename_i hvalid
    obtain rfl : stored = conditions := Option.some.inj h
    refine ⟨rfl,fun n hn => ?_⟩
    simp only [PolicyCondition.wellFormed,Bool.and_eq_true] at hvalid
    have hbound := hvalid.1.1.2
    rw [Option.mem_def.mp hn] at hbound
    simpa using hbound
  · cases h

theorem replayMatches_iff (hmin : ∀ n ∈ conditions.repeatCountMin, 1 ≤ n) (incident : Incident)
    (participant : Participant) : school.replayMatches conditions incident participant ↔
      conditions.repeatCountMin = none ∧ school.liveMatches conditions incident participant := by
  unfold ReplaySchool.replayMatches ReplaySchool.liveMatches matchesWith
  cases participant.studentId with
  | none => simp
  | some studentId =>
    simp only [Option.any_some]
    cases hrepeat : conditions.repeatCountMin with
    | none =>
      rw [buildEvaluatedInputFromSnapshot_eq _ school.incidents,evaluateConditions_withRepeatCount _ _ _ hrepeat]
      simp
    | some n =>
      have hpos : 0 < n := hmin n hrepeat
      rw [not_evaluateConditions_of_repeat _ _ hrepeat hpos]
      simp

/-! ## The pairs a replay counts -/

theorem mem_replayed {id : ℕ} {p : Participant} (h : (incidents.map Prod.fst).Nodup) {incident : Incident}
    (hincident : (id,incident) ∈ incidents) : (id,p) ∈ school.replayed conditions incidents ↔
      p ∈ studentParticipants incident ∧ school.replayMatches conditions incident p := by
  simp only [ReplaySchool.replayed,List.mem_flatMap,List.mem_map,List.mem_filter,Prod.mk.injEq]
  constructor
  · rintro ⟨⟨id',incident'⟩,hrow,p',hp',rfl,rfl⟩
    obtain rfl : incident' = incident := by
      have hpair := List.inj_on_of_nodup_map h hrow hincident rfl
      exact congrArg Prod.snd hpair
    exact hp'
  · intro hp
    exact ⟨(id,incident),hincident,p,hp,rfl,rfl⟩

theorem replayRule_eq_ok (h : school.replayRule dto = .ok result) :
    ∃ rule conditions, school.rules.get? dto.ruleId = some rule ∧ rule.conditions.safeParse = some conditions ∧
      result.matched = school.replayed conditions
        (school.findIncidentsForReplay (dto.fromDay * msPerDay) (endOfDay dto.toDay)) := by
  unfold ReplaySchool.replayRule at h
  simp only [ensure_bind_eq_ok,require_bind_eq_ok,pure_eq_ok] at h
  obtain ⟨-,rule,hrule,conditions,hconditions,-,rfl⟩ := h
  exact ⟨rule,conditions,hrule,hconditions,rfl⟩

/-- A replay counts a pair when the live engine would match it and the rule has no repeat count. -/
theorem matched_iff (h : school.replayRule dto = .ok result) (hrule : school.rules.get? dto.ruleId = some rule)
    {id : ℕ} {incident : Incident} (hincident : (id,incident) ∈
      school.findIncidentsForReplay (dto.fromDay * msPerDay) (endOfDay dto.toDay))
    {p : Participant} (hp : p ∈ studentParticipants incident) :
    (id,p) ∈ result.matched ↔
      rule.conditions.repeatCountMin = none ∧ school.liveMatches rule.conditions incident p := by
  obtain ⟨rule',conditions,hrule',hconditions,hmatched⟩ := replayRule_eq_ok h
  obtain rfl : rule' = rule := Option.some.inj (hrule'.symm.trans hrule)
  obtain ⟨rfl,hmin⟩ := safeParse_eq_some hconditions
  have hnodup : ((school.findIncidentsForReplay (dto.fromDay * msPerDay) (endOfDay dto.toDay)).map Prod.fst).Nodup :=
    Table.nodup_select _ _
  rw [hmatched,mem_replayed hnodup hincident,replayMatches_iff hmin]
  simp [hp]

/-! ## A first offence -/

def ruleOn (conditions : PolicyCondition) : Rule where
  name := "Lateness"
  description := none
  isActive := true
  stage := .consequence
  priority := 1
  matchStrategy := .firstMatch
  stopProcessingStage := false
  conditions := conditions
  currentVersion := 1
  actions := [⟨.createSanction,{ sanctionType := .value .detention },0⟩]

def latenessSchool (conditions : PolicyCondition) : ReplaySchool where
  rules := Table.empty.insert (ruleOn conditions)
  incidents := Table.empty.insert firstOffence
  categories := Table.empty.insert ⟨"Late to class",.negative,3⟩

theorem replayRule_lateness (conditions : PolicyCondition) (h : conditions.safeParse = some conditions) :
    (latenessSchool conditions).replayRule ⟨0,0,0⟩ = .ok (.of 0 (ruleOn conditions) 1
      ((latenessSchool conditions).replayed conditions [(0,firstOffence)])) := by
  have hfew : ((latenessSchool conditions).findIncidentsForReplay (0 * msPerDay) (endOfDay 0)).length ≤ 10000 :=
    (List.length_filter_le _ _).trans (by simp [latenessSchool,Table.insert,Table.empty])
  simp only [ReplaySchool.replayRule,ensure_bind_eq_ok,require_bind_eq_ok,pure_eq_ok]
  exact ⟨by decide,ruleOn conditions,rfl,conditions,h,hfew,rfl⟩

theorem matched_iff_lateness :
    (0,student) ∈ (ReplayResult.of 0 (ruleOn { severityMin := some 2 }) 1
        ((latenessSchool { severityMin := some 2 }).replayed { severityMin := some 2 } [(0,firstOffence)])).matched ↔
      (ruleOn { severityMin := some 2 }).conditions.repeatCountMin = none ∧
        (latenessSchool { severityMin := some 2 }).liveMatches (ruleOn { severityMin := some 2 }).conditions
          firstOffence student :=
  matched_iff (replayRule_lateness { severityMin := some 2 } (by decide)) rfl (List.mem_singleton.mpr rfl)
    (List.mem_singleton.mpr rfl)

/-- A rule for one incident in thirty days: the incident itself is one, but a replay counts none. -/
theorem not_matched_iff_live : ¬ ∀ (school : ReplaySchool) (dto : ReplayPolicyRuleDto) (result : ReplayResult)
    (rule : Rule), school.replayRule dto = .ok result → school.rules.get? dto.ruleId = some rule →
    ∀ row ∈ school.findIncidentsForReplay (dto.fromDay * msPerDay) (endOfDay dto.toDay),
    ∀ p ∈ studentParticipants row.2,
      ((row.1,p) ∈ result.matched ↔ school.liveMatches rule.conditions row.2 p) := by
  intro h
  have hreplay := replayRule_lateness { repeatCountMin := some 1,repeatWindowDays := some 30 } (by decide)
  have hpair := (h _ _ _ _ hreplay rfl (0,firstOffence) (List.mem_singleton.mpr rfl) student
    (List.mem_singleton.mpr rfl)).mpr (by decide)
  exact absurd hpair (by decide)

end EduPod.Policy
