import EduPod.Foundation.Runs
import EduPod.Policy.RuleBook

/-! # Version numbers along a run

A rule's first version is recorded when it is created, and an update records the rule under that
same number before it changes it. The unique index refuses the second record, so no update of
such a rule ever goes through, and a change of priority is not recorded at all.
-/
namespace EduPod.Policy
open Runs

section
variable {Conditions Config Exported : Type*}

/-- A version record says what the rule says, in every column the two share. -/
structure RuleVersion.Describes (v : RuleVersion Conditions Config) (rule : PolicyRule Conditions Config) : Prop where
  name : v.name = rule.name
  conditions : v.conditions = rule.conditions
  actions : inExecutionOrder v.actions = inExecutionOrder rule.actions
  stage : v.stage = rule.stage
  matchStrategy : v.matchStrategy = rule.matchStrategy
  priority : v.priority = rule.priority

/-- Every number up to the current one has its record, the current record describes the rule, and a
stage that matches a rule first finds the record of what it evaluated. -/
structure Versioned (b : RuleBook Conditions Config) : Prop where
  numbered : ∀ id rule, b.rules.get? id = some rule → ∀ n, 1 ≤ n → n ≤ rule.currentVersion →
    ∃! v, ((id,n),v) ∈ b.versions.rows
  current : ∀ id rule, b.rules.get? id = some rule →
    ∃ v, b.versions.get? (id,rule.currentVersion) = some v ∧ v.Describes rule
  evaluated : ∀ stage hits id rule, (matchedRules hits (b.stageRules stage)).head? = some (id,rule) →
    ∃ key v, (b.stageRecord stage hits).ruleVersionId = some key ∧ b.versions.get? key = some v ∧
      v.conditions = rule.conditions ∧ inExecutionOrder v.actions = inExecutionOrder rule.actions

inductive Request (Conditions Config Exported : Type*)
  | createRule (userId : ℕ) (dto : CreatePolicyRuleDto Conditions Config)
  | importRules (userId : ℕ) (rules : List Exported)
  | updateRule (ruleId userId : ℕ) (dto : UpdatePolicyRuleDto Conditions Config)
  | updatePriority (ruleId : ℕ) (priority : ℤ)

def Request.run (resolve : Exported → Option (CreatePolicyRuleDto Conditions Config)) (b : RuleBook Conditions Config) :
    Request Conditions Config Exported → Option (RuleBook Conditions Config)
  | .createRule userId dto => b.createRule userId dto
  | .importRules userId rules => b.importRules resolve userId rules
  | .updateRule ruleId userId dto => b.updateRule ruleId userId dto
  | .updatePriority ruleId priority => b.updatePriority ruleId priority

/-- A request that throws leaves the book as it was. -/
def step (resolve : Exported → Option (CreatePolicyRuleDto Conditions Config)) (b : RuleBook Conditions Config)
    (request : Request Conditions Config Exported) : RuleBook Conditions Config := (request.run resolve b).getD b

/-- A change of priority that names the priority the rule has. -/
def KeepsPriority (b : RuleBook Conditions Config) : Request Conditions Config Exported → Prop
  | .updatePriority ruleId priority => ∀ rule, b.rules.get? ruleId = some rule → rule.priority = priority
  | _ => True

/-! ## What every run keeps -/

/-- A record of version one, which differs from its rule in the priority at most. -/
def FirstVersion (b : RuleBook Conditions Config) (id : ℕ) (rule : PolicyRule Conditions Config) : Prop :=
  rule.currentVersion = 1 ∧
    ∃ v, b.versions.get? (id,1) = some v ∧ v.Describes { rule with priority := v.priority }

structure Kept (b : RuleBook Conditions Config) : Prop where
  first : ∀ id rule, b.rules.get? id = some rule → FirstVersion b id rule
  known : ∀ key v, b.versions.get? key = some v → key.1 < b.rules.next

/-- Every record has the priority of its rule. -/
def Prioritised (b : RuleBook Conditions Config) : Prop :=
  ∀ id rule v, b.rules.get? id = some rule → b.versions.get? (id,1) = some v → v.priority = rule.priority

variable {b b' : RuleBook Conditions Config} {userId id : ℕ} {reason : String}
  {resolve : Exported → Option (CreatePolicyRuleDto Conditions Config)}

theorem kept_empty : Kept (RuleBook.empty : RuleBook Conditions Config) :=
  ⟨fun _ _ h => (by cases h),fun _ _ h => (by cases h)⟩

theorem prioritised_empty : Prioritised (RuleBook.empty : RuleBook Conditions Config) := fun _ _ _ h => (by cases h)

/-- Under `Kept` the claim about versions comes down to the priorities. -/
theorem versioned_iff (h : Kept b) : Versioned b ↔ Prioritised b := by
  constructor
  · intro hv id rule v hrule hget
    obtain ⟨hone,-⟩ := h.first id rule hrule
    obtain ⟨w,hw,hdescribes⟩ := hv.current id rule hrule
    rw [hone,hget] at hw
    obtain rfl : v = w := Option.some.inj hw
    exact hdescribes.priority
  · intro hp
    have hcurrent : ∀ id rule, b.rules.get? id = some rule →
        ∃ v, b.versions.get? (id,rule.currentVersion) = some v ∧ v.Describes rule := by
      intro id rule hrule
      obtain ⟨hone,v,hv,hd⟩ := h.first id rule hrule
      exact ⟨v,by rw [hone,hv],⟨hd.name,hd.conditions,hd.actions,hd.stage,hd.matchStrategy,hp id rule v hrule hv⟩⟩
    refine ⟨?_,hcurrent,?_⟩
    · intro id rule hrule n hpos hle
      obtain ⟨hone,v,hv,-⟩ := h.first id rule hrule
      obtain rfl : n = 1 := by omega
      refine ⟨v,UniqueIndex.get?_eq_some_iff.mp hv,fun w hw => ?_⟩
      have hget := UniqueIndex.get?_eq_some_iff.mpr hw
      rw [hv] at hget
      exact (Option.some.inj hget).symm
    · intro stage hits id rule hfirst
      have hrule := get?_of_mem_matchedRules (List.mem_of_head? hfirst)
      obtain ⟨v,hv,hd⟩ := hcurrent id rule hrule
      refine ⟨(id,rule.currentVersion),v,?_,hv,hd.conditions,hd.actions⟩
      simp only [RuleBook.stageRecord,hfirst,Option.bind_some,RuleBook.getVersionId,hv,Option.map_some]

/-! ## One request -/

theorem addRule_kept (h : Kept b) (dto : CreatePolicyRuleDto Conditions Config)
    (hb : b.addRule userId reason dto = some b') : Kept b' ∧ (Prioritised b → Prioritised b') := by
  have hfresh : b.versions.get? (b.rules.next,1) = none := by
    cases hv : b.versions.get? (b.rules.next,1) with
    | none => rfl
    | some v => exact absurd (h.known _ _ hv) (lt_irrefl _)
  simp only [RuleBook.addRule,RuleBook.createVersion,hfresh,Option.isSome_none,Bool.false_eq_true,if_false,
    Option.some.injEq] at hb
  subst hb
  have hother : ∀ id < b.rules.next, ∀ record,
      (b.versions.insert (b.rules.next,1) record).get? (id,1) = b.versions.get? (id,1) := by
    intro id hid record
    rw [UniqueIndex.get?_insert,if_neg]
    rintro ⟨he,-⟩
    have := congrArg Prod.fst he
    simp only at this
    omega
  refine ⟨⟨?_,?_⟩,?_⟩
  · intro id rule hrule
    simp only [Table.get?_insert] at hrule
    split at hrule
    · rename_i hid
      obtain rfl := Option.some.inj hrule
      subst hid
      exact ⟨rfl,_,(UniqueIndex.get?_insert).trans (if_pos ⟨rfl,hfresh⟩),⟨rfl,rfl,rfl,rfl,rfl,rfl⟩⟩
    · obtain ⟨hone,v,hv,hd⟩ := h.first id rule hrule
      exact ⟨hone,v,by rw [hother id (Table.lt_next_of_get? hrule),hv],hd⟩
  · intro key v hv
    simp only [UniqueIndex.get?_insert] at hv
    simp only [Table.next_insert]
    split at hv
    · rename_i hk
      rw [hk.1]
      exact Nat.lt_succ_self _
    · exact Nat.lt_succ_of_lt (h.known _ _ hv)
  · intro hp id rule v hrule hv
    simp only [Table.get?_insert] at hrule
    split at hrule
    · rename_i hid
      obtain rfl := Option.some.inj hrule
      simp only [UniqueIndex.get?_insert,hid,hfresh,and_self,if_true,Option.some.injEq] at hv
      rw [← hv]
    · rw [hother id (Table.lt_next_of_get? hrule)] at hv
      exact hp id rule v hrule hv

theorem importRules_kept (h : Kept b) (rules : List Exported) (hb : b.importRules resolve userId rules = some b') :
    Kept b' ∧ (Prioritised b → Prioritised b') := by
  induction rules generalizing b with
  | nil =>
    obtain rfl : b = b' := by simpa [RuleBook.importRules] using hb
    exact ⟨h,id⟩
  | cons exported rest ih =>
    obtain ⟨mid,hmid,hrest⟩ := Option.bind_eq_some_iff.mp (by simpa [RuleBook.importRules,List.foldlM_cons] using hb)
    obtain ⟨dto,-,hadd⟩ := Option.bind_eq_some_iff.mp hmid
    obtain ⟨hkept,hpri⟩ := addRule_kept h dto hadd
    obtain ⟨hkept',hpri'⟩ := ih hkept hrest
    exact ⟨hkept',fun hp => hpri' (hpri hp)⟩

/-- The record an update wants to write is there already. -/
theorem updateRule_eq_none (h : Kept b) (id : ℕ) (dto : UpdatePolicyRuleDto Conditions Config) :
    b.updateRule id userId dto = none := by
  cases hrule : b.rules.get? id with
  | none => simp [RuleBook.updateRule,hrule]
  | some rule =>
    obtain ⟨hone,v,hv,-⟩ := h.first id rule hrule
    simp [RuleBook.updateRule,RuleBook.createVersion,hrule,hone,hv]

theorem updatePriority_kept (h : Kept b) (priority : ℤ) (hb : b.updatePriority id priority = some b') :
    Kept b' ∧ (Prioritised b → (Prioritised b' ↔ ∀ rule, b.rules.get? id = some rule → rule.priority = priority)) := by
  obtain ⟨rule,hrule,rfl⟩ := Option.map_eq_some_iff.mp hb
  obtain ⟨hone,v,hv,hd⟩ := h.first id rule hrule
  refine ⟨⟨?_,h.known⟩,fun hp => ⟨?_,?_⟩⟩
  · intro id' rule' hrule'
    simp only [Table.get?_modify] at hrule'
    split at hrule'
    · rename_i hid
      subst id'
      rw [hrule] at hrule'
      obtain rfl := Option.some.inj hrule'
      exact ⟨hone,v,hv,hd⟩
    · exact h.first id' rule' hrule'
  · intro hp' rule₀ hrule₀
    have hnew := hp' id _ v (Table.get?_modify_self hrule₀ fun rule => { rule with priority := priority }) hv
    exact (hp id rule₀ v hrule₀ hv).symm.trans hnew
  · intro hkeeps id' rule' v' hrule' hv'
    simp only [Table.get?_modify] at hrule'
    split at hrule'
    · rename_i hid
      subst id'
      rw [hrule] at hrule'
      obtain rfl := Option.some.inj hrule'
      exact (hp id rule v' hrule hv').trans (hkeeps rule hrule)
    · exact hp id' rule' v' hrule' hv'

variable {request : Request Conditions Config Exported}

theorem kept_step (h : Kept b) : Kept (step resolve b request) := by
  unfold step
  cases hrun : request.run resolve b with
  | none => exact h
  | some b' =>
    cases request with
    | createRule userId dto => exact (addRule_kept h dto hrun).1
    | importRules userId rules => exact (importRules_kept h rules hrun).1
    | updateRule ruleId userId dto => exact absurd hrun (by simp [Request.run,updateRule_eq_none h])
    | updatePriority ruleId priority => exact (updatePriority_kept h priority hrun).1

theorem prioritised_step_iff (h : Kept b) (hp : Prioritised b) :
    Prioritised (step resolve b request) ↔ KeepsPriority b request := by
  unfold step
  cases hrun : request.run resolve b with
  | none =>
    refine iff_of_true hp ?_
    cases request with
    | updatePriority ruleId priority =>
      intro rule hrule
      simp [Request.run,RuleBook.updatePriority,hrule] at hrun
    | _ => trivial
  | some b' =>
    cases request with
    | createRule userId dto => exact iff_of_true ((addRule_kept h dto hrun).2 hp) trivial
    | importRules userId rules => exact iff_of_true ((importRules_kept h rules hrun).2 hp) trivial
    | updateRule ruleId userId dto => exact absurd hrun (by simp [Request.run,updateRule_eq_none h])
    | updatePriority ruleId priority => exact (updatePriority_kept h priority hrun).2 hp

/-- The versions stay right along a run precisely when no request changes a priority. -/
theorem trace_versioned_iff (requests : List (Request Conditions Config Exported)) :
    (∀ b ∈ trace (step resolve) RuleBook.empty requests, Versioned b) ↔
      Guarded (step resolve) KeepsPriority RuleBook.empty requests := by
  have hkept : ∀ b ∈ trace (step resolve) RuleBook.empty requests, Kept b :=
    trace_invariant (G := fun _ _ => True) (fun _ _ h _ => kept_step h) kept_empty
      (guarded_of_invariant (J := Kept) (fun _ _ h => kept_step h) (fun _ _ _ => trivial) kept_empty)
  have hsame : (∀ b ∈ trace (step resolve) RuleBook.empty requests, Versioned b) ↔
      ∀ b ∈ trace (step resolve) RuleBook.empty requests, Prioritised b :=
    forall₂_congr fun b hb => versioned_iff (hkept b hb)
  rw [hsame]
  exact trace_invariant_iff (J := Kept) (fun _ _ h => kept_step h)
    (fun _ _ h hp => prioritised_step_iff h hp) kept_empty prioritised_empty

end

/-! A rule is created and its priority then lowered from 100 to 50. -/

def detentionRule : CreatePolicyRuleDto PolicyCondition Unit where
  name := "Third incident"
  description := none
  isActive := true
  stage := .consequence
  priority := 100
  matchStrategy := .firstMatch
  stopProcessingStage := false
  conditions := {}
  actions := [⟨.notifyRoles,(),0⟩]

/-- After a change of priority the current version record no longer describes the rule. -/
theorem not_versioned :
    ¬ ∀ (resolve : Unit → Option (CreatePolicyRuleDto PolicyCondition Unit))
      (requests : List (Request PolicyCondition Unit Unit)),
      ∀ b ∈ trace (step resolve) RuleBook.empty requests, Versioned b := by
  intro h
  have hv := h (fun _ => none) [.createRule 1 detentionRule,.updatePriority 0 50] _ (foldl_mem_trace _ _)
  obtain ⟨v,hget,hd⟩ := hv.current 0 _ rfl
  obtain rfl := Option.some.inj hget
  exact absurd hd.priority (by decide)

end EduPod.Policy
