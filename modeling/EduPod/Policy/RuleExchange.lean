import EduPod.Policy.RuleVersions
import EduPod.Policy.CategoryTokens

/-! # Rules out of one tenant and into another

The export writes the active rules with tokens for their categories, the import reads the tokens
back, parses the conditions and creates each rule anew. What comes back is what went out precisely
when every string does.
-/
namespace EduPod.Policy

inductive ApiStage
  | consequence | approval | notification | support | alerting
  deriving DecidableEq, Repr

def toApiStage : PolicyStage → ApiStage
  | .consequence => .consequence
  | .approvalStage => .approval
  | .notificationStage => .notification
  | .support => .support
  | .alerting => .alerting

def toPrismaStage : ApiStage → PolicyStage
  | .consequence => .consequence
  | .approval => .approvalStage
  | .notification => .notificationStage
  | .support => .support
  | .alerting => .alerting

/-! ## The conditions as JSON -/

def isUuidArray : Json → Bool
  | .arr values => values.all fun v =>
      match v with
      | .str s => isUuid s
      | _ => false
  | _ => false

def isOneOf (names : List String) : Json → Bool
  | .str s => names.any fun name => name.toList = s
  | _ => false

def isArrayOfEach (test : Json → Bool) : Json → Bool
  | .arr values => values.all test
  | _ => false

def isInt (inRange : ℤ → Bool) : Json → Bool
  | .num q => q.den = 1 && inRange q.num
  | _ => false

def isBool : Json → Bool
  | .bool _ => true
  | _ => false

/-- The fields of `PolicyConditionSchema`, each with its check. All are optional. -/
def policyConditionFields : List (String × (Json → Bool)) := [
  ("category_ids",isUuidArray),
  ("polarity",isOneOf ["positive","negative","neutral"]),
  ("severity_min",isInt fun n => 1 ≤ n && n ≤ 10),
  ("severity_max",isInt fun n => 1 ≤ n && n ≤ 10),
  ("year_group_ids",isUuidArray),
  ("student_has_send",isBool),
  ("student_has_active_intervention",isBool),
  ("context_types",isArrayOfEach (isOneOf contextTypeNames)),
  ("participant_role",isOneOf ["subject","witness","bystander","reporter","victim","instigator","mediator"]),
  ("repeat_count_min",isInt fun n => 1 ≤ n),
  ("repeat_window_days",isInt fun n => 1 ≤ n && n ≤ 365),
  ("repeat_category_ids",isUuidArray),
  ("weekdays",isArrayOfEach (isInt fun n => 0 ≤ n && n ≤ 6)),
  ("period_orders",isArrayOfEach (isInt fun _ => true))]

def isPolicyConditionField (key : String) : Bool := (policyConditionFields.lookup key).isSome

/-- Unknown keys are dropped. -/
def parsePolicyCondition (o : JsonObject) : Option JsonObject :=
  if o.all (fun e => (policyConditionFields.lookup e.1).all fun check => check e.2) then
    some (o.filter fun e => isPolicyConditionField e.1)
  else none

/-! ## Export and import -/

/-- Version records belong to rules of the book. -/
def VersionsKnown (b : RuleBook JsonObject JsonObject) : Prop :=
  ∀ key v, b.versions.get? key = some v → key.1 < b.rules.next

/-- A tenant's categories and rules. Version records belong to rules, and the conditions of every
rule went through the schema when they were written. -/
structure Tenant where
  categories : Categories
  book : RuleBook JsonObject JsonObject
  versions_known : VersionsKnown book
  parsed : ∀ id rule, book.rules.get? id = some rule → parsePolicyCondition rule.conditions = some rule.conditions

structure ExportedRule where
  name : String
  description : Option String
  stage : ApiStage
  priority : ℤ
  matchStrategy : MatchStrategy
  stopProcessingStage : Bool
  conditions : JsonObject
  actions : List (RuleAction JsonObject)

/-- The order of the values in the enumeration of the database. -/
def PolicyStage.rank : PolicyStage → ℕ
  | .consequence => 0
  | .approvalStage => 1
  | .notificationStage => 2
  | .support => 3
  | .alerting => 4

/-- Active rules by stage, then priority. -/
def findPolicyRules (b : RuleBook JsonObject JsonObject) : List (PolicyRule JsonObject JsonObject) :=
  ((b.rules.select PolicyRule.isActive).map Prod.snd).insertionSort fun r₁ r₂ =>
    r₁.stage.rank < r₂.stage.rank ∨ r₁.stage.rank = r₂.stage.rank ∧ r₁.priority ≤ r₂.priority

variable (m : CaseMapping)

def exportRule (cats : Categories) (rule : PolicyRule JsonObject JsonObject) : ExportedRule where
  name := rule.name
  description := rule.description
  stage := toApiStage rule.stage
  priority := rule.priority
  matchStrategy := rule.matchStrategy
  stopProcessingStage := rule.stopProcessingStage
  conditions := tokenizeCategoryIds m cats rule.conditions
  actions := rule.actions.map fun a => { a with actionConfig := tokenizeCategoryIds m cats a.actionConfig }

def exportRules (source : Tenant) : List ExportedRule :=
  (findPolicyRules source.book).map (exportRule m source.categories)

/-- What `importRules` makes of one rule before it writes it. -/
def resolveRule (cats : Categories) (rule : ExportedRule) : Option (CreatePolicyRuleDto JsonObject JsonObject) :=
  (parsePolicyCondition (resolveCategoryTokens m cats rule.conditions)).map fun parsedConditions => {
    name := rule.name
    description := rule.description
    isActive := true
    stage := toPrismaStage rule.stage
    priority := rule.priority
    matchStrategy := rule.matchStrategy
    stopProcessingStage := rule.stopProcessingStage
    conditions := parsedConditions
    actions := rule.actions.map fun a => { a with actionConfig := resolveCategoryTokens m cats a.actionConfig } }

def importRules (target : Tenant) (userId : ℕ) (rules : List ExportedRule) : Option (RuleBook JsonObject JsonObject) :=
  target.book.importRules (resolveRule m target.categories) userId rules

/-- The columns that decide what a rule does. -/
structure Recreates (rule rule' : PolicyRule JsonObject JsonObject) : Prop where
  stage : rule'.stage = rule.stage
  priority : rule'.priority = rule.priority
  matchStrategy : rule'.matchStrategy = rule.matchStrategy
  stopProcessingStage : rule'.stopProcessingStage = rule.stopProcessingStage
  conditions : rule'.conditions = rule.conditions
  actions : rule'.actions = rule.actions

/-- The import goes through, and the rules it creates are the exported ones, in their order. -/
def RoundTrips (source target : Tenant) (userId : ℕ) : Prop :=
  ∃ imported, importRules m target userId (exportRules m source) = some imported ∧
    ∀ i rule, (findPolicyRules source.book)[i]? = some rule →
      ∃ rule', imported.rules.get? (target.book.rules.next + i) = some rule' ∧ Recreates rule rule'

/-- The strings of a rule that are rewritten. -/
def PolicyRule.strings (rule : PolicyRule JsonObject JsonObject) : List Text :=
  rule.conditions.strings ++ rule.actions.flatMap fun a => a.actionConfig.strings

variable {m}

@[simp] theorem toPrismaStage_toApiStage (stage : PolicyStage) : toPrismaStage (toApiStage stage) = stage := by
  cases stage <;> rfl

/-! ## Conditions through the schema -/

theorem parsePolicyCondition_mapStrings {o o' : JsonObject} (h : parsePolicyCondition o = some o) (f : Text → Text)
    (h' : parsePolicyCondition (o.mapStrings f) = some o') : o' = o.mapStrings f := by
  unfold parsePolicyCondition at h h'
  split at h
  · split at h'
    · have hknown : ∀ e ∈ o, isPolicyConditionField e.1 = true := List.filter_eq_self.mp (Option.some.inj h)
      rw [← Option.some.inj h']
      refine List.filter_eq_self.mpr fun e he => ?_
      obtain ⟨e₀,he₀,rfl⟩ := List.mem_map.mp he
      exact hknown e₀ he₀
    · cases h'
  · cases h

/-! ## One rule -/

/-- The rule that `addRule` writes. -/
def CreatePolicyRuleDto.rule (dto : CreatePolicyRuleDto JsonObject JsonObject) : PolicyRule JsonObject JsonObject where
  name := dto.name
  description := dto.description
  isActive := dto.isActive
  stage := dto.stage
  priority := dto.priority
  matchStrategy := dto.matchStrategy
  stopProcessingStage := dto.stopProcessingStage
  conditions := dto.conditions
  currentVersion := 1
  actions := dto.actions

theorem actions_map_eq_self_iff {f : Text → Text} {actions : List (RuleAction JsonObject)} :
    (actions.map fun a => { a with actionConfig := a.actionConfig.mapStrings f }) = actions ↔
      ∀ s ∈ actions.flatMap fun a => a.actionConfig.strings, f s = s := by
  induction actions with
  | nil => simp
  | cons a rest ih =>
    rw [List.map_cons,List.cons.injEq,ih,List.flatMap_cons,List.forall_mem_append]
    refine and_congr_left fun _ => ?_
    rw [← JsonObject.mapStrings_eq_self_iff]
    obtain ⟨_,_,_⟩ := a
    simp

/-- A rule is recreated when all its strings come back. -/
theorem exists_resolveRule_iff {cats cats' : Categories} (hsame : cats'.rows.Perm cats.rows)
    {rule : PolicyRule JsonObject JsonObject} (hparsed : parsePolicyCondition rule.conditions = some rule.conditions) :
    (∃ dto, resolveRule m cats' (exportRule m cats rule) = some dto ∧ Recreates rule dto.rule) ↔
      ∀ s ∈ rule.strings, Survives m cats cats' s := by
  have hconditions : resolveCategoryTokens m cats' (exportRule m cats rule).conditions =
      rule.conditions.mapStrings fun s => cats'.resolve m (cats.tokenize m s) :=
    JsonObject.mapStrings_mapStrings _ _ _
  have hactions : (exportRule m cats rule).actions.map (fun a =>
        { a with actionConfig := resolveCategoryTokens m cats' a.actionConfig }) =
      rule.actions.map fun a =>
        { a with actionConfig := a.actionConfig.mapStrings fun s => cats'.resolve m (cats.tokenize m s) } := by
    simp only [exportRule,List.map_map]
    refine List.map_congr_left fun a _ => ?_
    simp only [Function.comp,tokenizeCategoryIds,resolveCategoryTokens,JsonObject.mapStrings_mapStrings]
  have hstrings : (∀ s ∈ rule.strings, Survives m cats cats' s) ↔
      (rule.conditions.mapStrings fun s => cats'.resolve m (cats.tokenize m s)) = rule.conditions ∧
      (rule.actions.map fun a =>
        { a with actionConfig := a.actionConfig.mapStrings fun s => cats'.resolve m (cats.tokenize m s) }) = rule.actions := by
    rw [JsonObject.mapStrings_eq_self_iff,actions_map_eq_self_iff,PolicyRule.strings,List.forall_mem_append]
    simp only [resolve_tokenize_iff hsame]
  rw [hstrings]
  unfold resolveRule
  rw [hconditions,hactions]
  constructor
  · rintro ⟨dto,hdto,hrec⟩
    obtain ⟨parsed,hp,rfl⟩ := Option.map_eq_some_iff.mp hdto
    have he := parsePolicyCondition_mapStrings hparsed _ hp
    exact ⟨he.symm.trans hrec.conditions,hrec.actions⟩
  · rintro ⟨hc,ha⟩
    rw [hc,ha,hparsed]
    exact ⟨_,rfl,⟨toPrismaStage_toApiStage _,rfl,rfl,rfl,rfl,rfl⟩⟩

/-! ## The whole import -/

section
variable {b b' : RuleBook JsonObject JsonObject} {userId : ℕ}
  {resolve : ExportedRule → Option (CreatePolicyRuleDto JsonObject JsonObject)}

variable (userId) in
theorem exists_addRule (h : VersionsKnown b) (reason : String) (dto : CreatePolicyRuleDto JsonObject JsonObject) :
    ∃ b', b.addRule userId reason dto = some b' ∧ b'.rules = b.rules.insert dto.rule ∧ VersionsKnown b' := by
  have hfresh : b.versions.get? (b.rules.next,1) = none := by
    cases hv : b.versions.get? (b.rules.next,1) with
    | none => rfl
    | some v => exact absurd (h _ _ hv) (lt_irrefl _)
  simp only [RuleBook.addRule,RuleBook.createVersion,hfresh,Option.isSome_none,Bool.false_eq_true,if_false]
  refine ⟨_,rfl,rfl,fun key v hv => ?_⟩
  simp only [UniqueIndex.get?_insert] at hv
  simp only [Table.next_insert]
  split at hv
  · rename_i hk
    rw [hk.1]
    exact Nat.lt_succ_self _
  · exact Nat.lt_succ_of_lt (h _ _ hv)

variable (userId) in
theorem exists_importRules (h : VersionsKnown b) {rules : List ExportedRule}
    (hall : ∀ rule ∈ rules, ∃ dto, resolve rule = some dto) : ∃ b', b.importRules resolve userId rules = some b' := by
  induction rules generalizing b with
  | nil => exact ⟨b,rfl⟩
  | cons rule rest ih =>
    obtain ⟨dto,hdto⟩ := hall rule List.mem_cons_self
    obtain ⟨mid,hmid,-,hknown⟩ := exists_addRule userId h "Imported" dto
    obtain ⟨b',hb'⟩ := ih hknown fun rule hr => hall rule (List.mem_cons_of_mem _ hr)
    refine ⟨b',?_⟩
    rw [RuleBook.importRules,List.foldlM_cons,hdto]
    change (b.addRule userId "Imported" dto).bind _ = _
    rw [hmid]
    exact hb'

/-- The rules of an import take the next identifiers in turn. -/
theorem get?_importRules (h : VersionsKnown b) {rules : List ExportedRule}
    (hb : b.importRules resolve userId rules = some b') :
    (∀ id < b.rules.next, b'.rules.get? id = b.rules.get? id) ∧
      ∀ i rule, rules[i]? = some rule →
        ∃ dto, resolve rule = some dto ∧ b'.rules.get? (b.rules.next + i) = some dto.rule := by
  induction rules generalizing b with
  | nil =>
    obtain rfl : b = b' := by simpa [RuleBook.importRules] using hb
    exact ⟨fun _ _ => rfl,fun i rule hi => by simp at hi⟩
  | cons first rest ih =>
    obtain ⟨mid,hmid,hrest⟩ := Option.bind_eq_some_iff.mp (by simpa [RuleBook.importRules,List.foldlM_cons] using hb)
    obtain ⟨dto,hdto,hadd⟩ := Option.bind_eq_some_iff.mp hmid
    obtain ⟨mid',hadd',hrules,hknown⟩ := exists_addRule userId h "Imported" dto
    obtain rfl : mid' = mid := Option.some.inj (hadd'.symm.trans hadd)
    obtain ⟨hold,hnew⟩ := ih hknown hrest
    have hnext : mid'.rules.next = b.rules.next + 1 := by rw [hrules,Table.next_insert]
    refine ⟨fun id hid => ?_,fun i rule hi => ?_⟩
    · rw [hold id (by omega),hrules,Table.get?_insert,if_neg (by omega)]
    · cases i with
      | zero =>
        obtain rfl : first = rule := by simpa using hi
        refine ⟨dto,hdto,?_⟩
        rw [Nat.add_zero,hold _ (by omega),hrules,Table.get?_insert,if_pos rfl]
      | succ i =>
        obtain ⟨dto',hdto',hget⟩ := hnew i rule (by simpa using hi)
        refine ⟨dto',hdto',?_⟩
        rwa [hnext,show b.rules.next + 1 + i = b.rules.next + (i + 1) by omega] at hget

end

theorem parsed_of_mem_findPolicyRules (source : Tenant) {rule : PolicyRule JsonObject JsonObject}
    (h : rule ∈ findPolicyRules source.book) : parsePolicyCondition rule.conditions = some rule.conditions := by
  obtain ⟨⟨id,rule⟩,hr,rfl⟩ := List.mem_map.mp ((List.perm_insertionSort _ _).subset h)
  exact source.parsed id rule (Table.get?_of_mem (List.mem_filter.mp hr).1)

/-- Between tenants of the same categories the rules come back precisely when every string of an
active rule does. -/
theorem roundTrips_iff {source target : Tenant} (hsame : target.categories.rows.Perm source.categories.rows)
    (userId : ℕ) : RoundTrips m source target userId ↔
      ∀ rule ∈ findPolicyRules source.book, ∀ s ∈ rule.strings,
        Survives m source.categories target.categories s := by
  have hrule : ∀ rule ∈ findPolicyRules source.book,
      ((∃ dto, resolveRule m target.categories (exportRule m source.categories rule) = some dto ∧ Recreates rule dto.rule) ↔
        ∀ s ∈ rule.strings, Survives m source.categories target.categories s) :=
    fun rule hr => exists_resolveRule_iff hsame (parsed_of_mem_findPolicyRules source hr)
  constructor
  · rintro ⟨imported,himport,hback⟩ rule hr
    obtain ⟨i,hi⟩ := List.mem_iff_getElem?.mp hr
    obtain ⟨rule',hget,hrec⟩ := hback i rule hi
    obtain ⟨dto,hdto,hget'⟩ := (get?_importRules target.versions_known himport).2 i
      (exportRule m source.categories rule) (by simp [exportRules,hi])
    obtain rfl : rule' = dto.rule := Option.some.inj (hget.symm.trans hget')
    exact (hrule rule hr).mp ⟨dto,hdto,hrec⟩
  · intro hall
    have hresolve : ∀ exported ∈ exportRules m source, ∃ dto, resolveRule m target.categories exported = some dto := by
      intro exported he
      obtain ⟨rule,hr,rfl⟩ := List.mem_map.mp he
      obtain ⟨dto,hdto,-⟩ := (hrule rule hr).mpr (hall rule hr)
      exact ⟨dto,hdto⟩
    obtain ⟨imported,himport⟩ := exists_importRules userId target.versions_known hresolve
    refine ⟨imported,himport,fun i rule hi => ?_⟩
    have hr := List.mem_of_getElem? hi
    obtain ⟨dto,hdto,hget⟩ := (get?_importRules target.versions_known himport).2 i
      (exportRule m source.categories rule) (by simp [exportRules,hi])
    obtain ⟨dto',hdto',hrec⟩ := (hrule rule hr).mpr (hall rule hr)
    obtain rfl : dto = dto' := Option.some.inj (hdto.symm.trans hdto')
    exact ⟨dto.rule,hget,hrec⟩

/-! A category has an underscore in its name, and one rule is about it. -/

def asciiCase : CaseMapping := ⟨List.map Char.toUpper,List.map Char.toLower⟩

def lateArrivalId : Text := "7f1d2c3a-0b4e-4c5d-8a6f-1e2d3c4b5a69".toList

theorem isUuid_lateArrivalId : isUuid lateArrivalId = true := by decide +kernel

def lateArrivals : Categories where
  rows := [⟨lateArrivalId,"Late_Arrival".toList⟩]
  ids_nodup := List.nodup_singleton _
  names_nodup := List.nodup_singleton _
  uuids := List.forall_mem_singleton.mpr isUuid_lateArrivalId

def lateArrivalConditions : JsonObject := [("category_ids",.arr [.str lateArrivalId])]

theorem parse_lateArrivalConditions : parsePolicyCondition lateArrivalConditions = some lateArrivalConditions := by
  have hid := isUuid_lateArrivalId
  simp [parsePolicyCondition,lateArrivalConditions,policyConditionFields,isPolicyConditionField,isUuidArray,hid,
    List.lookup]

def lateArrivalRule : PolicyRule JsonObject JsonObject where
  name := "Late three times"
  description := none
  isActive := true
  stage := .consequence
  priority := 100
  matchStrategy := .firstMatch
  stopProcessingStage := false
  conditions := lateArrivalConditions
  currentVersion := 1
  actions := [⟨.notifyRoles,[],0⟩]

def lateArrivalBook : RuleBook JsonObject JsonObject := ⟨Table.empty.insert lateArrivalRule,UniqueIndex.empty⟩

theorem parsed_lateArrivalBook (id : ℕ) (rule : PolicyRule JsonObject JsonObject)
    (h : lateArrivalBook.rules.get? id = some rule) : parsePolicyCondition rule.conditions = some rule.conditions := by
  simp only [lateArrivalBook,Table.get?_insert,Table.get?_empty] at h
  split at h
  · rw [← Option.some.inj h]
    exact parse_lateArrivalConditions
  · cases h

theorem versionsKnown_lateArrivalBook : VersionsKnown lateArrivalBook := fun _ _ h => by
  simp [lateArrivalBook] at h

def lateArrivalTenant : Tenant where
  categories := lateArrivals
  book := lateArrivalBook
  versions_known := versionsKnown_lateArrivalBook
  parsed := parsed_lateArrivalBook

theorem roundTrips_lateArrivalTenant : RoundTrips asciiCase lateArrivalTenant lateArrivalTenant 1 ↔
    ∀ rule ∈ findPolicyRules lateArrivalTenant.book, ∀ s ∈ rule.strings,
      Survives asciiCase lateArrivalTenant.categories lateArrivalTenant.categories s :=
  roundTrips_iff (List.Perm.refl _) 1

/-- The name of a category may have an underscore of its own: its token then names nothing. -/
theorem not_roundTrips : ¬ ∀ (m : CaseMapping) (source target : Tenant) (userId : ℕ),
    target.categories.rows.Perm source.categories.rows → RoundTrips m source target userId := by
  intro h
  obtain ⟨imported,himport,-⟩ := h asciiCase lateArrivalTenant lateArrivalTenant 1 (List.Perm.refl _)
  have hnone : (importRules asciiCase lateArrivalTenant 1 (exportRules asciiCase lateArrivalTenant)).isNone = true := by
    decide +kernel
  rw [himport] at hnone
  cases hnone

end EduPod.Policy
