import Mathlib
import EduPod.Foundation.CivilDate
import EduPod.Foundation.Overwriting
import EduPod.Foundation.Table

/-! # Retention enforcement

One pass over the categories of a tenant. A hold is looked up under the category and the identifier of a record, whereas
it was placed on a subject; and the cut-off takes months off a date the way a run-time library does, so that a day the
month does not have counts on into the next one.
-/
namespace EduPod.Gdpr.RetentionEnforcement
open Grouping

inductive DeletableModel
  | notification | auditLog | contactFormSubmission | nlQueryHistory | gdprTokenUsageLog | aiProcessingLog
  | parentInquiryMessage
  deriving DecidableEq

inductive ExpiryAction
  | anonymise | delete | archive
  deriving DecidableEq

def deletableCategories : List (String × DeletableModel) :=
  [("communications_notifications",.notification),("audit_logs",.auditLog),
    ("contact_form_submissions",.contactFormSubmission),("nl_query_history",.nlQueryHistory),
    ("ai_processing_logs",.aiProcessingLog),("tokenisation_usage_logs",.gdprTokenUsageLog),
    ("parent_inquiry_messages",.parentInquiryMessage)]

def anonymiseOnlyCategories : List String :=
  ["student_records","financial_records","payroll_records","staff_records","attendance_records"]

/-- A day and the milliseconds since its beginning. -/
structure Moment where
  date : CivilDate
  time : ℕ
  deriving DecidableEq

instance : LT Moment where
  lt a b := a.date.monthNumber < b.date.monthNumber ∨ a.date.monthNumber = b.date.monthNumber ∧
    (a.date.day < b.date.day ∨ a.date.day = b.date.day ∧ a.time < b.time)

theorem Moment.lt_iff {a b : Moment} : a < b ↔ a.date.monthNumber < b.date.monthNumber ∨
    a.date.monthNumber = b.date.monthNumber ∧ (a.date.day < b.date.day ∨ a.date.day = b.date.day ∧ a.time < b.time) :=
  Iff.rfl

instance (a b : Moment) : Decidable (a < b) :=
  inferInstanceAs (Decidable (a.date.monthNumber < b.date.monthNumber ∨ a.date.monthNumber = b.date.monthNumber ∧
    (a.date.day < b.date.day ∨ a.date.day = b.date.day ∧ a.time < b.time)))

structure RetentionPolicy where
  tenantId : Option ℕ
  dataCategory : String
  retentionMonths : ℕ
  actionOnExpiry : ExpiryAction

/-- The policies of all tenants: one default and one override of each tenant for a category. -/
structure RetentionPolicies where
  rows : List RetentionPolicy
  unique : rows.Pairwise fun p q => ¬(p.tenantId = q.tenantId ∧ p.dataCategory = q.dataCategory)

structure RetentionHold where
  tenantId : ℕ
  subjectType : String
  subjectId : ℕ
  released : Bool

/-- `subjects` are the persons and records a hold may name to keep the row; no query reads it. -/
structure Record where
  tenantId : ℕ
  createdAt : Moment
  subjects : List (String × ℕ)

structure Application where
  tenantId : ℕ
  rejected : Bool
  updatedAt : Moment
  subjects : List (String × ℕ)

structure ComplianceRequest where
  tenantId : ℕ
  createdAt : Moment
  exportFileKey : Option ℕ

structure Db where
  policies : RetentionPolicies
  holds : List RetentionHold
  records : DeletableModel → Table Record
  applications : Table Application
  complianceRequests : Table ComplianceRequest

structure MergedPolicy where
  dataCategory : String
  retentionMonths : ℕ
  actionOnExpiry : ExpiryAction
  deriving DecidableEq

inductive SkippedReason
  | indefiniteRetention | anonymisationDeferred | complexAnonymisationDeferred | archiveDeferred | unknownCategory
  deriving DecidableEq

structure EnforcementSummary where
  dataCategory : String
  actionOnExpiry : ExpiryAction
  recordsAffected : ℕ
  retentionMonths : ℕ
  dryRun : Bool
  skippedReason : Option SkippedReason
  deriving DecidableEq

section
variable {α : Type*}

/-- `deleteMany` with a list of identifiers, and how many rows it found. -/
def deleteMany (t : Table α) (ids : List ℕ) : Table α × ℕ :=
  (ids.foldl Table.erase t,(t.rows.filter fun row => ids.contains row.1).length)

def batchSize : ℕ := 100

/-- The loop over chunks; every chunk takes an identifier, so that their number is fuel enough. -/
@[grind] def deleteBatches : ℕ → Table α → List ℕ → Table α × ℕ
  | 0, t, _ => (t,0)
  | fuel + 1, t, ids =>
    if ids = [] then (t,0)
    else
      let deleted := deleteMany t (ids.take batchSize)
      let rest := deleteBatches fuel deleted.1 (ids.drop batchSize)
      (rest.1,deleted.2 + rest.2)

/-- Clearing a column in chunks. -/
def clearAll (t : Table α) (ids : List ℕ) (clear : α → α) : Table α := ids.foldl (fun t id => t.modify id clear) t

end

def MergedPolicy.of (p : RetentionPolicy) : MergedPolicy := ⟨p.dataCategory,p.retentionMonths,p.actionOnExpiry⟩

/-- The defaults in a map, and the overrides of the tenant written over them. -/
def getEffectivePolicies (policies : RetentionPolicies) (tenantId : ℕ) : List MergedPolicy :=
  let entry := fun p : RetentionPolicy => (p.dataCategory,MergedPolicy.of p)
  (ofPairs (((policies.rows.filter fun p => p.tenantId = none).map entry) ++
    (policies.rows.filter fun p => p.tenantId = some tenantId).map entry)).map Prod.snd

def holdSet (holds : List RetentionHold) (tenantId : ℕ) : List (String × ℕ) :=
  (holds.filter fun h => h.tenantId = tenantId && !h.released).map fun h => (h.subjectType,h.subjectId)

/-- `setMonth(getMonth() - months)`; there is none before the first year, where no record is. -/
def cutoffDate (now : Moment) (months : ℕ) : Option Moment :=
  if months ≤ now.date.monthNumber then
    some ⟨CivilDate.makeDay (now.date.monthNumber - months) now.date.day now.date.pos,now.time⟩
  else none

def expired (cutoff : Option Moment) (date : Moment) : Bool := cutoff.any fun c => date < c

/-- The handler a category is routed to. -/
inductive Route
  | records (model : DeletableModel) | exports | rejected | skip (reason : SkippedReason)

def routeOf (policy : MergedPolicy) : Route :=
  if policy.retentionMonths = 0 then .skip .indefiniteRetention
  else
    match (if policy.actionOnExpiry = .delete then deletableCategories.lookup policy.dataCategory else none) with
    | some model => .records model
    | none =>
      if policy.actionOnExpiry = .anonymise || anonymiseOnlyCategories.contains policy.dataCategory then
        .skip .anonymisationDeferred
      else if policy.dataCategory = "s3_compliance_exports" && policy.actionOnExpiry = .delete then .exports
      else if policy.dataCategory = "rejected_admissions" && policy.actionOnExpiry = .delete then .rejected
      else if policy.dataCategory = "behaviour_records" then .skip .complexAnonymisationDeferred
      else if policy.actionOnExpiry = .archive then .skip .archiveDeferred
      else .skip .unknownCategory

section
variable (tenantId : ℕ) (now : Moment) (held : List (String × ℕ)) (dryRun : Bool)

def summary (policy : MergedPolicy) (affected : ℕ) (reason : Option SkippedReason) : EnforcementSummary :=
  ⟨policy.dataCategory,policy.actionOnExpiry,affected,policy.retentionMonths,dryRun,reason⟩

def findExpiredRecordIds (t : Table Record) (policy : MergedPolicy) : List ℕ :=
  ((t.select fun r => r.tenantId = tenantId && expired (cutoffDate now policy.retentionMonths) r.createdAt).map
    Prod.fst).filter fun id => !held.contains (policy.dataCategory,id)

def findRejectedIds (t : Table Application) (policy : MergedPolicy) : List ℕ :=
  ((t.select fun a => a.tenantId = tenantId && a.rejected &&
    expired (cutoffDate now policy.retentionMonths) a.updatedAt).map Prod.fst).filter fun id =>
      !held.contains (policy.dataCategory,id)

def findExportIds (t : Table ComplianceRequest) (policy : MergedPolicy) : List ℕ :=
  (t.select fun r => r.tenantId = tenantId && expired (cutoffDate now policy.retentionMonths) r.createdAt &&
    r.exportFileKey.isSome).map Prod.fst

def deleteCategoryRecords (db : Db) (policy : MergedPolicy) (model : DeletableModel) : Db × EnforcementSummary :=
  let expiredIds := findExpiredRecordIds tenantId now held (db.records model) policy
  if expiredIds = [] then (db,summary dryRun policy 0 none)
  else if dryRun then (db,summary true policy expiredIds.length none)
  else
    let deleted := deleteBatches expiredIds.length (db.records model) expiredIds
    ({ db with records := Function.update db.records model deleted.1 },summary false policy deleted.2 none)

def deleteRejectedAdmissions (db : Db) (policy : MergedPolicy) : Db × EnforcementSummary :=
  let eligibleIds := findRejectedIds tenantId now held db.applications policy
  if eligibleIds = [] then (db,summary dryRun policy 0 none)
  else if dryRun then (db,summary true policy eligibleIds.length none)
  else
    let deleted := deleteBatches eligibleIds.length db.applications eligibleIds
    ({ db with applications := deleted.1 },summary false policy deleted.2 none)

def deleteComplianceExports (db : Db) (policy : MergedPolicy) : Db × EnforcementSummary :=
  let ids := findExportIds tenantId now db.complianceRequests policy
  if ids = [] then (db,summary dryRun policy 0 none)
  else if dryRun then (db,summary true policy ids.length none)
  else
    ({ db with complianceRequests := clearAll db.complianceRequests ids fun r => { r with exportFileKey := none } },
      summary false policy ids.length none)

def enforceCategory (db : Db) (policy : MergedPolicy) : Db × EnforcementSummary :=
  match routeOf policy with
  | .records model => deleteCategoryRecords tenantId now held dryRun db policy model
  | .exports => deleteComplianceExports tenantId now dryRun db policy
  | .rejected => deleteRejectedAdmissions tenantId now held dryRun db policy
  | .skip reason => (db,summary dryRun policy 0 (some reason))

/-- The audit entry of a category is a row of a table the pass deletes from. -/
def createAuditEntry (db : Db) : Db :=
  { db with records := Function.update db.records .auditLog ((db.records .auditLog).insert ⟨tenantId,now,[]⟩) }

def enforceNext (s : Db × List EnforcementSummary) (policy : MergedPolicy) : Db × List EnforcementSummary :=
  let done := enforceCategory tenantId now held dryRun s.1 policy
  (createAuditEntry tenantId now done.1,s.2 ++ [done.2])

end

def enforceForTenant (db : Db) (tenantId : ℕ) (now : Moment) (dryRun : Bool) : Db × List EnforcementSummary :=
  let held := holdSet db.holds tenantId
  (getEffectivePolicies db.policies tenantId).foldl (enforceNext tenantId now held dryRun) (db,[])


/-! ## What a pass ought to do -/

def categoryOf : DeletableModel → String
  | .notification => "communications_notifications"
  | .auditLog => "audit_logs"
  | .contactFormSubmission => "contact_form_submissions"
  | .nlQueryHistory => "nl_query_history"
  | .aiProcessingLog => "ai_processing_logs"
  | .gdprTokenUsageLog => "tokenisation_usage_logs"
  | .parentInquiryMessage => "parent_inquiry_messages"

/-- The override of the tenant, or the default where it has none. -/
structure Effective (policies : RetentionPolicies) (tenantId : ℕ) (policy : RetentionPolicy) : Prop where
  mem : policy ∈ policies.rows
  first : policy.tenantId = some tenantId ∨ policy.tenantId = none ∧
    ∀ q ∈ policies.rows,q.tenantId = some tenantId → q.dataCategory ≠ policy.dataCategory

def Deletes (policies : RetentionPolicies) (tenantId : ℕ) (category : String) (months : ℕ) : Prop :=
  months ≠ 0 ∧ ∃ policy,Effective policies tenantId policy ∧ policy.dataCategory = category ∧
    policy.actionOnExpiry = .delete ∧ policy.retentionMonths = months

/-- The same day so many months earlier, or the last day of the month where it has no such day. -/
def monthsBefore (now : Moment) (months : ℕ) : Option Moment :=
  if months ≤ now.date.monthNumber then
    some ⟨⟨now.date.monthNumber - months,min now.date.day (daysInMonth (now.date.monthNumber - months)),
      le_min now.date.pos (le_trans (by decide) (daysInMonth_bounds _).1),min_le_right _ _⟩,now.time⟩
  else none

def KeyHeld (db : Db) (tenantId : ℕ) (category : String) (id : ℕ) : Prop :=
  (category,id) ∈ holdSet db.holds tenantId

def SubjectHeld (db : Db) (tenantId : ℕ) (subjects : List (String × ℕ)) : Prop :=
  ∃ subject ∈ subjects,subject ∈ holdSet db.holds tenantId

def Due (db : Db) (tenantId : ℕ) (now : Moment) (category : String) (date : Moment) (subjects : List (String × ℕ)) :
    Prop :=
  ∃ months,Deletes db.policies tenantId category months ∧ expired (monthsBefore now months) date = true ∧
    ¬SubjectHeld db tenantId subjects

/-- A real pass deletes the rows that are due and no others; a dry one reports the same counts, and adds its audit
entries only. -/
structure DeletesExactly (db : Db) (tenantId : ℕ) (now : Moment) : Prop where
  records : ∀ model id r,(db.records model).get? id = some r →
    (((enforceForTenant db tenantId now false).1.records model).get? id = none ↔
      r.tenantId = tenantId ∧ Due db tenantId now (categoryOf model) r.createdAt r.subjects)
  applications : ∀ id a,db.applications.get? id = some a →
    ((enforceForTenant db tenantId now false).1.applications.get? id = none ↔
      a.tenantId = tenantId ∧ a.rejected = true ∧ Due db tenantId now "rejected_admissions" a.updatedAt a.subjects)
  counts : ((enforceForTenant db tenantId now true).2.map fun s => (s.dataCategory,s.recordsAffected)) =
    (enforceForTenant db tenantId now false).2.map fun s => (s.dataCategory,s.recordsAffected)
  dryRecords : ∀ model id r,(db.records model).get? id = some r →
    ((enforceForTenant db tenantId now true).1.records model).get? id = some r
  dryTables : ∀ model,model ≠ .auditLog → (enforceForTenant db tenantId now true).1.records model = db.records model
  dryApplications : (enforceForTenant db tenantId now true).1.applications = db.applications
  dryRequests : (enforceForTenant db tenantId now true).1.complianceRequests = db.complianceRequests

/-- A row is kept when it should be: where it is old enough, its own key is held just when a subject of it is; where the
day has counted on past the month and only the run takes it for old, its key is held. -/
structure KeptRight (db : Db) (tenantId : ℕ) (now : Moment) (category : String) (months id : ℕ) (date : Moment)
    (subjects : List (String × ℕ)) : Prop where
  old : expired (monthsBefore now months) date = true →
    (KeyHeld db tenantId category id ↔ SubjectHeld db tenantId subjects)
  rolled : expired (cutoffDate now months) date = true → expired (monthsBefore now months) date = false →
    KeyHeld db tenantId category id

structure AllKeptRight (db : Db) (tenantId : ℕ) (now : Moment) : Prop where
  records : ∀ model months,Deletes db.policies tenantId (categoryOf model) months → ∀ id r,
    (db.records model).get? id = some r → r.tenantId = tenantId →
      KeptRight db tenantId now (categoryOf model) months id r.createdAt r.subjects
  applications : ∀ months,Deletes db.policies tenantId "rejected_admissions" months → ∀ id a,
    db.applications.get? id = some a → a.tenantId = tenantId → a.rejected = true →
      KeptRight db tenantId now "rejected_admissions" months id a.updatedAt a.subjects

/-! ## Deleting in batches -/

section
variable {α : Type*} {t : Table α} {ids : List ℕ}

theorem get?_foldl_erase (t : Table α) (ids : List ℕ) (j : ℕ) :
    (ids.foldl Table.erase t).get? j = if j ∈ ids then none else t.get? j := by
  induction ids generalizing t with
  | nil => rfl
  | cons id ids ih =>
    rw [List.foldl_cons,ih,Table.get?_erase]
    by_cases hmem : j ∈ ids
    · simp [hmem]
    · by_cases hid : j = id <;> simp [hmem,hid]

theorem next_foldl_erase (t : Table α) (ids : List ℕ) : (ids.foldl Table.erase t).next = t.next := by
  induction ids generalizing t with
  | nil => rfl
  | cons id ids ih => exact ih _

/-- Distinct identifiers of rows that are there are all found. -/
theorem deleteMany_count (hn : ids.Nodup) (hmem : ∀ id ∈ ids,(t.get? id).isSome) :
    (deleteMany t ids).2 = ids.length := by
  have hperm : ((t.rows.filter fun row => ids.contains row.1).map Prod.fst).Perm ids := by
    rw [List.perm_ext_iff_of_nodup ((List.filter_sublist.map _).nodup t.nodup) hn]
    intro id
    constructor
    · intro h
      obtain ⟨row,hrow,rfl⟩ := List.mem_map.mp h
      simpa using (List.mem_filter.mp hrow).2
    · intro h
      obtain ⟨a,ha⟩ := Option.isSome_iff_exists.mp (hmem id h)
      exact List.mem_map.mpr ⟨(id,a),List.mem_filter.mpr ⟨Table.mem_of_get? ha,by simpa using h⟩,rfl⟩
  simpa [deleteMany] using hperm.length_eq

theorem deleteBatches_spec {fuel : ℕ} (hfuel : ids.length ≤ fuel) (hn : ids.Nodup)
    (hmem : ∀ id ∈ ids,(t.get? id).isSome) :
    (∀ j,(deleteBatches fuel t ids).1.get? j = if j ∈ ids then none else t.get? j) ∧
      (deleteBatches fuel t ids).1.next = t.next ∧ (deleteBatches fuel t ids).2 = ids.length := by
  induction fuel generalizing t ids with
  | zero =>
    obtain rfl : ids = [] := List.eq_nil_of_length_eq_zero (Nat.le_zero.mp hfuel)
    exact ⟨fun j => rfl,rfl,rfl⟩
  | succ fuel ih =>
    unfold deleteBatches
    by_cases hids : ids = []
    · subst hids
      exact ⟨fun j => rfl,rfl,rfl⟩
    rw [if_neg hids]
    have hpos := List.length_pos_iff.mpr hids
    have hsplit := List.take_append_drop batchSize ids
    have hnodup := hsplit.symm ▸ hn
    obtain ⟨hntake,hndrop,hdisjoint⟩ := List.nodup_append.mp hnodup
    have hdrop : ∀ id ∈ ids.drop batchSize,((ids.take batchSize).foldl Table.erase t).get? id = t.get? id := by
      intro id hid
      rw [get?_foldl_erase,if_neg fun htake => hdisjoint id htake id hid rfl]
    obtain ⟨hget,hnext,hcount⟩ := @ih (deleteMany t (ids.take batchSize)).1 (ids.drop batchSize)
      (by rw [List.length_drop,batchSize]; omega) hndrop fun id hid => by
        rw [deleteMany,hdrop id hid]
        exact hmem id (List.mem_of_mem_drop hid)
    refine ⟨fun j => ?_,hnext.trans (next_foldl_erase t _),?_⟩
    · have hj : j ∈ ids ↔ j ∈ ids.take batchSize ∨ j ∈ ids.drop batchSize := by
        rw [← List.mem_append,hsplit]
      rw [hget,deleteMany,get?_foldl_erase]
      by_cases htake : j ∈ ids.take batchSize <;> by_cases hdrop : j ∈ ids.drop batchSize <;> simp [hj,htake,hdrop]
    · change (deleteMany t (ids.take batchSize)).2 +
        (deleteBatches fuel (deleteMany t (ids.take batchSize)).1 (ids.drop batchSize)).2 = ids.length
      rw [hcount,deleteMany_count hntake fun id hid => hmem id (List.mem_of_mem_take hid),← List.length_append,hsplit]

/-- Deleting the rows that a query found, less those that were taken out. -/
theorem deleteBatches_found (t : Table α) (p : α → Bool) (q : ℕ → Bool) (ids : List ℕ)
    (hids : ids = ((t.select p).map Prod.fst).filter q) :
    (∀ j a,(deleteBatches ids.length t ids).1.get? j = some a ↔ t.get? j = some a ∧ ¬(p a = true ∧ q j = true)) ∧
      (deleteBatches ids.length t ids).1.next = t.next ∧ (deleteBatches ids.length t ids).2 = ids.length := by
  have hmem : ∀ id,id ∈ ids ↔ ∃ a,t.get? id = some a ∧ p a = true ∧ q id = true := by
    intro id
    simp only [hids,List.mem_filter,List.mem_map,Table.select,Table.get?_eq_some_iff]
    constructor
    · rintro ⟨⟨row,⟨hrow,hp⟩,rfl⟩,hq⟩
      exact ⟨row.2,hrow,hp,hq⟩
    · rintro ⟨a,ha,hp,hq⟩
      exact ⟨⟨(id,a),⟨ha,hp⟩,rfl⟩,hq⟩
  have hn : ids.Nodup := by
    rw [hids]
    exact ((List.filter_sublist.map _).nodup t.nodup).filter _
  obtain ⟨hget,hnext,hcount⟩ := deleteBatches_spec ids.length.le_refl hn fun id hid => by
    obtain ⟨a,ha,_⟩ := (hmem id).mp hid
    exact Option.isSome_iff_exists.mpr ⟨a,ha⟩
  refine ⟨fun j a => ?_,hnext,hcount⟩
  rw [hget]
  by_cases hj : j ∈ ids
  · obtain ⟨b,hb,hpq⟩ := (hmem j).mp hj
    rw [if_pos hj]
    refine iff_of_false (by simp) ?_
    rintro ⟨ha,hnot⟩
    obtain rfl := Option.some.inj (hb.symm.trans ha)
    exact hnot hpq
  · rw [if_neg hj]
    exact ⟨fun ha => ⟨ha,fun hpq => hj ((hmem j).mpr ⟨a,ha,hpq⟩)⟩,fun h => h.1⟩

end

/-! ## The policies and the cut-offs -/

section
variable {policies : RetentionPolicies} {tenantId : ℕ} {now date : Moment} {months : ℕ}

/-- The rows of one owner have a category once. -/
theorem entry_unique {owner : Option ℕ} {p q : RetentionPolicy} (hp : p ∈ policies.rows) (hq : q ∈ policies.rows)
    (hpo : p.tenantId = owner) (hqo : q.tenantId = owner) (h : p.dataCategory = q.dataCategory) : p = q := by
  have hsymm : Std.Symm fun p q : RetentionPolicy => ¬(p.tenantId = q.tenantId ∧ p.dataCategory = q.dataCategory) :=
    ⟨fun _ _ hxy hyx => hxy ⟨hyx.1.symm,hyx.2.symm⟩⟩
  by_contra hne
  exact policies.unique.forall hp hq hne ⟨hpo.trans hqo.symm,h⟩

theorem effective_unique {p q : RetentionPolicy} (hp : Effective policies tenantId p)
    (hq : Effective policies tenantId q) (h : p.dataCategory = q.dataCategory) : p = q := by
  rcases hp.first with hpo | ⟨hpo,hnone⟩
  · rcases hq.first with hqo | ⟨_,hnone⟩
    · exact entry_unique hp.mem hq.mem hpo hqo h
    · exact absurd h (hnone p hp.mem hpo)
  · rcases hq.first with hqo | ⟨hqo,_⟩
    · exact absurd h.symm (hnone q hq.mem hqo)
    · exact entry_unique hp.mem hq.mem hpo hqo h

theorem lookup_ownRows (owner : Option ℕ) (category : String) (merged : MergedPolicy) :
    (ofPairs ((policies.rows.filter fun p => p.tenantId = owner).map fun p =>
        (p.dataCategory,MergedPolicy.of p))).lookup category = some merged ↔
      ∃ p ∈ policies.rows,p.tenantId = owner ∧ p.dataCategory = category ∧ MergedPolicy.of p = merged := by
  have hfind : ∀ {m : MergedPolicy},(ofPairs ((policies.rows.filter fun p => p.tenantId = owner).map fun p =>
      (p.dataCategory,MergedPolicy.of p))).lookup category = some m →
        ∃ p ∈ policies.rows,p.tenantId = owner ∧ p.dataCategory = category ∧ MergedPolicy.of p = m := by
    intro m h
    obtain ⟨p,hp,he⟩ := List.mem_map.mp (mem_ofPairs ((mem_iff_lookup (nodup_ofPairs _)).mpr h))
    obtain ⟨hp,ho⟩ := List.mem_filter.mp hp
    obtain ⟨hc,hm⟩ := Prod.mk.inj he
    exact ⟨p,hp,of_decide_eq_true ho,hc,hm⟩
  refine ⟨hfind,?_⟩
  rintro ⟨p,hp,ho,rfl,rfl⟩
  have hkey : p.dataCategory ∈ (ofPairs ((policies.rows.filter fun p => p.tenantId = owner).map fun p =>
      (p.dataCategory,MergedPolicy.of p))).map Prod.fst := by
    rw [mem_keys_ofPairs,List.map_map]
    exact List.mem_map.mpr ⟨p,List.mem_filter.mpr ⟨hp,decide_eq_true ho⟩,rfl⟩
  obtain ⟨m,hm⟩ := Option.isSome_iff_exists.mp (isSome_lookup_of_mem hkey)
  obtain ⟨q,hq,hqo,hcategory,rfl⟩ := hfind hm
  rw [hm,entry_unique hq hp hqo ho hcategory]

theorem fst_mem_entries {rows : List RetentionPolicy} {e : String × MergedPolicy}
    (h : e ∈ rows.map fun p => (p.dataCategory,MergedPolicy.of p)) : e.2.dataCategory = e.1 := by
  obtain ⟨p,-,rfl⟩ := List.mem_map.mp h
  rfl

/-- The merged policies are those in force for the tenant. -/
theorem mem_getEffectivePolicies {merged : MergedPolicy} : merged ∈ getEffectivePolicies policies tenantId ↔
    ∃ p,Effective policies tenantId p ∧ MergedPolicy.of p = merged := by
  have hentry : merged ∈ getEffectivePolicies policies tenantId ↔
      (ofPairs (((policies.rows.filter fun p => p.tenantId = none).map fun p => (p.dataCategory,MergedPolicy.of p)) ++
        (policies.rows.filter fun p => p.tenantId = some tenantId).map fun p =>
          (p.dataCategory,MergedPolicy.of p))).lookup merged.dataCategory = some merged := by
    rw [← mem_iff_lookup (nodup_ofPairs _),getEffectivePolicies,List.mem_map]
    constructor
    · rintro ⟨e,he,rfl⟩
      have hkey : e.2.dataCategory = e.1 := by
        rcases List.mem_append.mp (mem_ofPairs he) with h | h <;> exact fst_mem_entries h
      rwa [hkey]
    · intro h
      exact ⟨_,h,rfl⟩
  rw [hentry,lookup_ofPairs_append,Option.or_eq_some_iff,lookup_ownRows,lookup_ownRows]
  constructor
  · rintro (⟨p,hp,ho,-,rfl⟩ | ⟨hnone,p,hp,ho,-,rfl⟩)
    · exact ⟨p,⟨hp,.inl ho⟩,rfl⟩
    · refine ⟨p,⟨hp,.inr ⟨ho,?_⟩⟩,rfl⟩
      intro q hq hqo hcategory
      have hsome := (lookup_ownRows (some tenantId) _ _).mpr ⟨q,hq,hqo,hcategory,rfl⟩
      exact absurd (hnone.symm.trans hsome) (by simp)
  · rintro ⟨p,hp,rfl⟩
    rcases hp.first with ho | ⟨ho,hnone⟩
    · exact .inl ⟨p,hp.mem,ho,rfl,rfl⟩
    · refine .inr ⟨?_,p,hp.mem,ho,rfl,rfl⟩
      rw [Option.eq_none_iff_forall_ne_some]
      intro m hm
      obtain ⟨q,hq,hqo,hcategory,-⟩ := (lookup_ownRows (some tenantId) _ _).mp hm
      exact hnone q hq hqo hcategory

theorem nodup_categories : ((getEffectivePolicies policies tenantId).map MergedPolicy.dataCategory).Nodup := by
  have hfst : (getEffectivePolicies policies tenantId).map MergedPolicy.dataCategory =
      (ofPairs (((policies.rows.filter fun p => p.tenantId = none).map fun p => (p.dataCategory,MergedPolicy.of p)) ++
        (policies.rows.filter fun p => p.tenantId = some tenantId).map fun p =>
          (p.dataCategory,MergedPolicy.of p))).map Prod.fst := by
    rw [getEffectivePolicies,List.map_map]
    refine List.map_congr_left fun e he => ?_
    rcases List.mem_append.mp (mem_ofPairs he) with h | h <;> exact fst_mem_entries h
  rw [hfst]
  exact nodup_ofPairs _

theorem deletes_unique {category : String} {m n : ℕ} (hm : Deletes policies tenantId category m)
    (hn : Deletes policies tenantId category n) : m = n := by
  obtain ⟨_,p,hp,hpc,_,rfl⟩ := hm
  obtain ⟨_,q,hq,hqc,_,rfl⟩ := hn
  rw [effective_unique hp hq (hpc.trans hqc.symm)]

/-- A day of one month counts on into the next month at most. -/
theorem carry_cases (month : ℕ) {day : ℕ} (hpos : 1 ≤ day) (hle : day ≤ 31) :
    day ≤ daysInMonth month ∧ CivilDate.carry day month day = (month,day) ∨
      daysInMonth month < day ∧ CivilDate.carry day month day = (month + 1,day - daysInMonth month) := by
  have hbounds := daysInMonth_bounds month
  have hnext := daysInMonth_bounds (month + 1)
  by_cases hfits : day ≤ daysInMonth month
  · refine .inl ⟨hfits,?_⟩
    obtain ⟨d,rfl⟩ := Nat.exists_eq_add_of_le' hpos
    rw [CivilDate.carry,if_pos hfits]
  · refine .inr ⟨by omega,?_⟩
    obtain ⟨d,rfl⟩ := Nat.exists_eq_add_of_le' (show 2 ≤ day by omega)
    rw [CivilDate.carry,if_neg hfits,CivilDate.carry,if_pos (by omega)]

/-- Where the month has the day, the two cut-offs are one; otherwise the run's lies in the next month. -/
theorem expired_of_monthsBefore (h : expired (monthsBefore now months) date = true) :
    expired (cutoffDate now months) date = true := by
  unfold expired monthsBefore at h
  unfold expired cutoffDate
  by_cases hm : months ≤ now.date.monthNumber
  · rw [if_pos hm] at h ⊢
    have hday : now.date.day ≤ 31 := now.date.le.trans (daysInMonth_bounds _).2
    simp only [Option.any_some,decide_eq_true_eq,Moment.lt_iff,CivilDate.makeDay] at h ⊢
    rcases carry_cases (now.date.monthNumber - months) now.date.pos hday with ⟨hfits,hc⟩ | ⟨_,hc⟩
    · rw [min_eq_left hfits] at h
      rw [hc]
      exact h
    · rw [hc]
      refine .inl ?_
      change date.date.monthNumber < now.date.monthNumber - months + 1
      omega
  · rw [if_neg hm] at h
    cases h

/-- The present is not before a cut-off of one month or more. -/
theorem not_expired_now (hmonths : months ≠ 0) : expired (cutoffDate now months) now = false := by
  unfold expired cutoffDate
  by_cases hm : months ≤ now.date.monthNumber
  · have hday : now.date.day ≤ 31 := now.date.le.trans (daysInMonth_bounds _).2
    have hdim := daysInMonth_bounds (now.date.monthNumber - months)
    rw [if_pos hm,Option.any_some,decide_eq_false_iff_not,Moment.lt_iff]
    simp only [CivilDate.makeDay]
    rcases carry_cases (now.date.monthNumber - months) now.date.pos hday with ⟨_,hc⟩ | ⟨_,hc⟩
    · rw [hc]
      omega
    · rw [hc]
      change ¬(now.date.monthNumber < now.date.monthNumber - months + 1 ∨ _ ∧ (now.date.day < now.date.day -
        daysInMonth (now.date.monthNumber - months) ∨ now.date.day = now.date.day -
          daysInMonth (now.date.monthNumber - months) ∧ now.time < now.time))
      omega
  · rw [if_neg hm]
    rfl

end

/-! ## The routes -/

section
variable {policy : MergedPolicy} {model : DeletableModel}

theorem lookup_deletableCategories {category : String} :
    deletableCategories.lookup category = some model ↔ category = categoryOf model := by
  constructor
  · intro h
    have hmem := (mem_iff_lookup (by decide)).mpr h
    simp only [deletableCategories,List.mem_cons,Prod.mk.injEq,List.not_mem_nil,or_false] at hmem
    obtain ⟨rfl,rfl⟩ | ⟨rfl,rfl⟩ | ⟨rfl,rfl⟩ | ⟨rfl,rfl⟩ | ⟨rfl,rfl⟩ | ⟨rfl,rfl⟩ | ⟨rfl,rfl⟩ := hmem <;> rfl
  · rintro rfl
    cases model <;> decide

theorem routeOf_records_iff : routeOf policy = .records model ↔
    policy.retentionMonths ≠ 0 ∧ policy.actionOnExpiry = .delete ∧ policy.dataCategory = categoryOf model := by
  rw [← lookup_deletableCategories]
  unfold routeOf
  by_cases hmonths : policy.retentionMonths = 0
  · simp [hmonths]
  by_cases hdelete : policy.actionOnExpiry = .delete
  · cases hlookup : deletableCategories.lookup policy.dataCategory with
    | some m => simp [hmonths,hdelete]
    | none =>
      simp only [hmonths,hdelete,if_true,if_false]
      refine iff_of_false ?_ (by simp)
      repeat' split
      all_goals simp
  · simp only [hmonths,hdelete,if_false]
    refine iff_of_false ?_ (by simp)
    repeat' split
    all_goals simp

theorem routeOf_rejected_iff : routeOf policy = .rejected ↔
    policy.retentionMonths ≠ 0 ∧ policy.actionOnExpiry = .delete ∧ policy.dataCategory = "rejected_admissions" := by
  unfold routeOf
  by_cases hmonths : policy.retentionMonths = 0
  · simp [hmonths]
  by_cases hcategory : policy.dataCategory = "rejected_admissions"
  · have hlookup : deletableCategories.lookup "rejected_admissions" = none := by decide
    have honly : "rejected_admissions" ∉ anonymiseOnlyCategories := by decide
    by_cases hdelete : policy.actionOnExpiry = .delete
    · simp [hmonths,hcategory,hdelete,hlookup,honly]
    · simp only [hmonths,hcategory,hdelete,if_false]
      refine iff_of_false ?_ (by simp)
      repeat' split
      all_goals simp_all
  · refine iff_of_false ?_ (fun h => hcategory h.2.2)
    simp only [hmonths,hcategory,if_false]
    repeat' split
    all_goals simp_all

theorem category_of_exports (h : routeOf policy = .exports) : policy.dataCategory = "s3_compliance_exports" := by
  by_contra hne
  revert h
  unfold routeOf
  simp only [hne]
  repeat' split
  all_goals simp_all

/-- Two policies that reach one table have one category. -/
theorem category_of_route {other : MergedPolicy} (hroute : routeOf policy = routeOf other)
    (hskip : ∀ reason,routeOf policy ≠ .skip reason) : policy.dataCategory = other.dataCategory := by
  cases h : routeOf policy with
  | records model =>
    exact (routeOf_records_iff.mp h).2.2.trans (routeOf_records_iff.mp (hroute.symm.trans h)).2.2.symm
  | exports => exact (category_of_exports h).trans (category_of_exports (hroute.symm.trans h)).symm
  | rejected => exact (routeOf_rejected_iff.mp h).2.2.trans (routeOf_rejected_iff.mp (hroute.symm.trans h)).2.2.symm
  | skip reason => exact absurd h (hskip reason)

theorem months_of_route (hskip : ∀ reason,routeOf policy ≠ .skip reason) : policy.retentionMonths ≠ 0 := by
  intro hmonths
  exact hskip .indefiniteRetention (by rw [routeOf,if_pos hmonths])

end

/-! ## One category -/

section
variable (tenantId : ℕ) (now : Moment) (held : List (String × ℕ)) (db : Db) (policy : MergedPolicy)

structure Removes (model : DeletableModel) (id : ℕ) (r : Record) : Prop where
  route : routeOf policy = .records model
  tenant : r.tenantId = tenantId
  old : expired (cutoffDate now policy.retentionMonths) r.createdAt = true
  free : (policy.dataCategory,id) ∉ held

structure RemovesApplication (id : ℕ) (a : Application) : Prop where
  route : routeOf policy = .rejected
  tenant : a.tenantId = tenantId
  rejected : a.rejected = true
  old : expired (cutoffDate now policy.retentionMonths) a.updatedAt = true
  free : (policy.dataCategory,id) ∉ held

theorem records_deleteCategoryRecords (model other : DeletableModel) (hother : other ≠ model) :
    (deleteCategoryRecords tenantId now held false db policy model).1.records other = db.records other := by
  unfold deleteCategoryRecords
  dsimp only
  split
  · rfl
  · exact Function.update_of_ne hother _ _

theorem deleteCategoryRecords_spec (model : DeletableModel) (hroute : routeOf policy = .records model) :
    (∀ id r,((deleteCategoryRecords tenantId now held false db policy model).1.records model).get? id = some r ↔
      (db.records model).get? id = some r ∧ ¬Removes tenantId now held policy model id r) ∧
    ((deleteCategoryRecords tenantId now held false db policy model).1.records model).next = (db.records model).next ∧
    (deleteCategoryRecords tenantId now held false db policy model).2.recordsAffected =
      (findExpiredRecordIds tenantId now held (db.records model) policy).length := by
  obtain ⟨hget,hnext,hcount⟩ := deleteBatches_found (db.records model)
    (fun r => r.tenantId = tenantId && expired (cutoffDate now policy.retentionMonths) r.createdAt)
    (fun id => !held.contains (policy.dataCategory,id))
    (findExpiredRecordIds tenantId now held (db.records model) policy) rfl
  have hremoves : ∀ id r,Removes tenantId now held policy model id r ↔ (decide (r.tenantId = tenantId) &&
      expired (cutoffDate now policy.retentionMonths) r.createdAt) = true ∧
        (!held.contains (policy.dataCategory,id)) = true := by
    intro id r
    simp only [Bool.and_eq_true,decide_eq_true_eq,Bool.not_eq_true',List.contains_eq_mem,decide_eq_false_iff_not]
    exact ⟨fun h => ⟨⟨h.tenant,h.old⟩,h.free⟩,fun h => ⟨hroute,h.1.1,h.1.2,h.2⟩⟩
  simp only [hremoves]
  unfold deleteCategoryRecords
  dsimp only
  by_cases hids : findExpiredRecordIds tenantId now held (db.records model) policy = []
  · rw [hids] at hget
    rw [if_pos hids,hids]
    exact ⟨hget,rfl,rfl⟩
  · rw [if_neg hids,if_neg (by decide)]
    simp only [Function.update_self]
    exact ⟨hget,hnext,hcount⟩

theorem deleteRejectedAdmissions_spec (hroute : routeOf policy = .rejected) :
    (∀ id a,(deleteRejectedAdmissions tenantId now held false db policy).1.applications.get? id = some a ↔
      db.applications.get? id = some a ∧ ¬RemovesApplication tenantId now held policy id a) ∧
    (deleteRejectedAdmissions tenantId now held false db policy).2.recordsAffected =
      (findRejectedIds tenantId now held db.applications policy).length := by
  obtain ⟨hget,-,hcount⟩ := deleteBatches_found db.applications
    (fun a => a.tenantId = tenantId && a.rejected && expired (cutoffDate now policy.retentionMonths) a.updatedAt)
    (fun id => !held.contains (policy.dataCategory,id)) (findRejectedIds tenantId now held db.applications policy) rfl
  have hremoves : ∀ id a,RemovesApplication tenantId now held policy id a ↔ (decide (a.tenantId = tenantId) &&
      a.rejected && expired (cutoffDate now policy.retentionMonths) a.updatedAt) = true ∧
        (!held.contains (policy.dataCategory,id)) = true := by
    intro id a
    simp only [Bool.and_eq_true,decide_eq_true_eq,Bool.not_eq_true',List.contains_eq_mem,decide_eq_false_iff_not]
    exact ⟨fun h => ⟨⟨⟨h.tenant,h.rejected⟩,h.old⟩,h.free⟩,fun h => ⟨hroute,h.1.1.1,h.1.1.2,h.1.2,h.2⟩⟩
  simp only [hremoves]
  unfold deleteRejectedAdmissions
  dsimp only
  by_cases hids : findRejectedIds tenantId now held db.applications policy = []
  · rw [hids] at hget
    rw [if_pos hids,hids]
    exact ⟨hget,rfl⟩
  · rw [if_neg hids,if_neg (by decide)]
    exact ⟨hget,hcount⟩

/-- A dry run of a category leaves the tables as they are. -/
theorem enforceCategory_dry : (enforceCategory tenantId now held true db policy).1 = db := by
  unfold enforceCategory deleteCategoryRecords deleteComplianceExports deleteRejectedAdmissions
  dsimp only
  split <;> first | rfl | (split <;> rfl)

theorem applications_deleteCategoryRecords (model : DeletableModel) :
    (deleteCategoryRecords tenantId now held false db policy model).1.applications = db.applications ∧
      (deleteCategoryRecords tenantId now held false db policy model).1.complianceRequests = db.complianceRequests := by
  unfold deleteCategoryRecords
  dsimp only
  split <;> exact ⟨rfl,rfl⟩

theorem tables_deleteComplianceExports :
    (deleteComplianceExports tenantId now false db policy).1.records = db.records ∧
      (deleteComplianceExports tenantId now false db policy).1.applications = db.applications := by
  unfold deleteComplianceExports
  dsimp only
  split <;> exact ⟨rfl,rfl⟩

theorem tables_deleteRejectedAdmissions :
    (deleteRejectedAdmissions tenantId now held false db policy).1.records = db.records ∧
      (deleteRejectedAdmissions tenantId now held false db policy).1.complianceRequests = db.complianceRequests := by
  unfold deleteRejectedAdmissions
  dsimp only
  split <;> exact ⟨rfl,rfl⟩

theorem records_enforceCategory (model : DeletableModel) :
    (∀ id r,((enforceCategory tenantId now held false db policy).1.records model).get? id = some r ↔
      (db.records model).get? id = some r ∧ ¬Removes tenantId now held policy model id r) ∧
    ((enforceCategory tenantId now held false db policy).1.records model).next = (db.records model).next := by
  have hsame : ∀ {after : Db},after.records model = db.records model → routeOf policy ≠ .records model →
      (∀ id r,(after.records model).get? id = some r ↔
        (db.records model).get? id = some r ∧ ¬Removes tenantId now held policy model id r) ∧
      (after.records model).next = (db.records model).next := by
    intro after hrecords hroute
    rw [hrecords]
    exact ⟨fun id r => ⟨fun h => ⟨h,fun hr => hroute hr.route⟩,fun h => h.1⟩,rfl⟩
  unfold enforceCategory
  cases hroute : routeOf policy with
  | records m =>
    by_cases hm : model = m
    · subst hm
      obtain ⟨hget,hnext,_⟩ := deleteCategoryRecords_spec tenantId now held db policy model hroute
      exact ⟨hget,hnext⟩
    · refine hsame (records_deleteCategoryRecords tenantId now held db policy m model hm) ?_
      rw [hroute]
      exact fun h => hm (Route.records.inj h).symm
  | exports => exact hsame (congrFun (tables_deleteComplianceExports tenantId now db policy).1 model) (by simp [hroute])
  | rejected =>
    exact hsame (congrFun (tables_deleteRejectedAdmissions tenantId now held db policy).1 model) (by simp [hroute])
  | skip reason => exact hsame rfl (by simp [hroute])

theorem applications_enforceCategory :
    ∀ id a,(enforceCategory tenantId now held false db policy).1.applications.get? id = some a ↔
      db.applications.get? id = some a ∧ ¬RemovesApplication tenantId now held policy id a := by
  have hsame : ∀ {after : Db},after.applications = db.applications → routeOf policy ≠ .rejected →
      ∀ id a,after.applications.get? id = some a ↔
        db.applications.get? id = some a ∧ ¬RemovesApplication tenantId now held policy id a := by
    intro after happlications hroute id a
    rw [happlications]
    exact ⟨fun h => ⟨h,fun hr => hroute hr.route⟩,fun h => h.1⟩
  unfold enforceCategory
  cases hroute : routeOf policy with
  | records m => exact hsame (applications_deleteCategoryRecords tenantId now held db policy m).1 (by simp [hroute])
  | exports => exact hsame (tables_deleteComplianceExports tenantId now db policy).2 (by simp [hroute])
  | rejected => exact (deleteRejectedAdmissions_spec tenantId now held db policy hroute).1
  | skip reason => exact hsame rfl (by simp [hroute])

/-- How many rows a category affects, counted on the tables before it. -/
def found : ℕ :=
  match routeOf policy with
  | .records model => (findExpiredRecordIds tenantId now held (db.records model) policy).length
  | .exports => (findExportIds tenantId now db.complianceRequests policy).length
  | .rejected => (findRejectedIds tenantId now held db.applications policy).length
  | .skip _ => 0

theorem recordsAffected_enforceCategory (dryRun : Bool) :
    ((enforceCategory tenantId now held dryRun db policy).2.dataCategory,
      (enforceCategory tenantId now held dryRun db policy).2.recordsAffected) =
        (policy.dataCategory,found tenantId now held db policy) := by
  unfold enforceCategory found
  cases hroute : routeOf policy with
  | records m =>
    cases dryRun with
    | false =>
      have hcount := (deleteCategoryRecords_spec tenantId now held db policy m hroute).2.2
      refine Prod.ext ?_ hcount
      change (deleteCategoryRecords tenantId now held false db policy m).2.dataCategory = _
      unfold deleteCategoryRecords
      dsimp only
      split <;> rfl
    | true =>
      change ((deleteCategoryRecords tenantId now held true db policy m).2.dataCategory,
        (deleteCategoryRecords tenantId now held true db policy m).2.recordsAffected) = _
      unfold deleteCategoryRecords
      dsimp only
      split
      · rename_i hids
        rw [hids]
        rfl
      · rfl
  | exports =>
    change ((deleteComplianceExports tenantId now dryRun db policy).2.dataCategory,
      (deleteComplianceExports tenantId now dryRun db policy).2.recordsAffected) = _
    unfold deleteComplianceExports
    dsimp only
    split
    · rename_i hids
      rw [hids]
      rfl
    · split <;> rfl
  | rejected =>
    cases dryRun with
    | false =>
      have hcount := (deleteRejectedAdmissions_spec tenantId now held db policy hroute).2
      refine Prod.ext ?_ hcount
      change (deleteRejectedAdmissions tenantId now held false db policy).2.dataCategory = _
      unfold deleteRejectedAdmissions
      dsimp only
      split <;> rfl
    | true =>
      change ((deleteRejectedAdmissions tenantId now held true db policy).2.dataCategory,
        (deleteRejectedAdmissions tenantId now held true db policy).2.recordsAffected) = _
      unfold deleteRejectedAdmissions
      dsimp only
      split
      · rename_i hids
        rw [hids]
        rfl
      · rfl
  | skip reason => rfl

end

/-! ## The whole pass -/

section
variable {tenantId : ℕ} {now : Moment} {held : List (String × ℕ)} {db : Db} {policy other : MergedPolicy}

theorem found_congr {after : Db}
    (hrecords : ∀ model,routeOf policy = .records model → after.records model = db.records model)
    (hexports : routeOf policy = .exports → after.complianceRequests = db.complianceRequests)
    (hrejected : routeOf policy = .rejected → after.applications = db.applications) :
    found tenantId now held after policy = found tenantId now held db policy := by
  unfold found
  cases h : routeOf policy with
  | records model => simp only [hrecords model h]
  | exports => simp only [hexports h]
  | rejected => simp only [hrejected h]
  | skip reason => rfl

/-- A category of its own finds what it would have found before another one. -/
theorem found_enforceCategory (hne : policy.dataCategory ≠ other.dataCategory) (dryRun : Bool) :
    found tenantId now held (enforceCategory tenantId now held dryRun db other).1 policy =
      found tenantId now held db policy := by
  cases dryRun with
  | true => rw [enforceCategory_dry]
  | false =>
    have hroute : (∀ reason,routeOf policy ≠ .skip reason) → routeOf policy ≠ routeOf other :=
      fun hskip h => hne (category_of_route h hskip)
    unfold enforceCategory
    cases hother : routeOf other with
    | records model =>
      obtain ⟨happlications,hrequests⟩ := applications_deleteCategoryRecords tenantId now held db other model
      refine found_congr (fun m hm => ?_) (fun _ => hrequests) fun _ => happlications
      refine records_deleteCategoryRecords tenantId now held db other model m fun hsame => ?_
      exact hroute (by simp [hm]) (by rw [hm,hother,hsame])
    | exports =>
      obtain ⟨hrecords,happlications⟩ := tables_deleteComplianceExports tenantId now db other
      refine found_congr (fun m _ => congrFun hrecords m) (fun h => ?_) fun _ => happlications
      exact absurd (h.trans hother.symm) (hroute (by simp [h]))
    | rejected =>
      obtain ⟨hrecords,hrequests⟩ := tables_deleteRejectedAdmissions tenantId now held db other
      refine found_congr (fun m _ => congrFun hrecords m) (fun _ => hrequests) fun h => ?_
      exact absurd (h.trans hother.symm) (hroute (by simp [h]))
    | skip reason => rfl

/-- An audit entry of now is no row that a category finds. -/
theorem found_createAuditEntry : found tenantId now held (createAuditEntry tenantId now db) policy =
    found tenantId now held db policy := by
  unfold found
  cases h : routeOf policy with
  | records model =>
    have hmonths : policy.retentionMonths ≠ 0 := months_of_route (by simp [h])
    have hids : findExpiredRecordIds tenantId now held ((createAuditEntry tenantId now db).records model) policy =
        findExpiredRecordIds tenantId now held (db.records model) policy := by
      by_cases hm : model = .auditLog
      · subst hm
        simp [findExpiredRecordIds,createAuditEntry,Table.select,Table.insert,not_expired_now hmonths]
      · simp only [createAuditEntry,Function.update_of_ne hm]
    simp only [hids]
  | exports => rfl
  | rejected => rfl
  | skip reason => rfl

theorem counts_run (policies : List MergedPolicy) (hn : (policies.map MergedPolicy.dataCategory).Nodup) (dryRun : Bool)
    (s : Db × List EnforcementSummary) :
    (policies.foldl (enforceNext tenantId now held dryRun) s).2.map (fun r => (r.dataCategory,r.recordsAffected)) =
      s.2.map (fun r => (r.dataCategory,r.recordsAffected)) ++
        policies.map fun p => (p.dataCategory,found tenantId now held s.1 p) := by
  induction policies generalizing s with
  | nil => simp
  | cons p policies ih =>
    obtain ⟨hp,hn⟩ := List.nodup_cons.mp hn
    have hrest : policies.map (fun q => (q.dataCategory,found tenantId now held (createAuditEntry tenantId now
        (enforceCategory tenantId now held dryRun s.1 p).1) q)) =
          policies.map fun q => (q.dataCategory,found tenantId now held s.1 q) := by
      refine List.map_congr_left fun q hq => ?_
      have hne : q.dataCategory ≠ p.dataCategory := fun h => hp (h ▸ List.mem_map_of_mem hq)
      rw [found_createAuditEntry,found_enforceCategory hne]
    rw [List.foldl_cons,ih hn]
    simp only [enforceNext,List.map_append,List.map_cons,List.map_nil,List.append_assoc,List.singleton_append,hrest]
    rw [recordsAffected_enforceCategory]

variable (tenantId now held)

theorem records_createAuditEntry (model : DeletableModel) {id : ℕ} (hid : id < (db.records model).next) :
    ((createAuditEntry tenantId now db).records model).get? id = (db.records model).get? id ∧
      id < ((createAuditEntry tenantId now db).records model).next := by
  by_cases hm : model = .auditLog
  · subst hm
    have hinsert : (createAuditEntry tenantId now db).records .auditLog =
        (db.records .auditLog).insert ⟨tenantId,now,[]⟩ := by simp [createAuditEntry]
    rw [hinsert,Table.get?_insert,if_neg hid.ne,Table.next_insert]
    exact ⟨rfl,hid.trans (Nat.lt_succ_self _)⟩
  · have hsame : (createAuditEntry tenantId now db).records model = db.records model := Function.update_of_ne hm _ _
    rw [hsame]
    exact ⟨rfl,hid⟩

/-- A row that was there stays until a policy removes it. -/
theorem records_run (policies : List MergedPolicy) (model : DeletableModel) {id : ℕ} (r : Record)
    (s : Db × List EnforcementSummary) (hid : id < (s.1.records model).next) :
    ((policies.foldl (enforceNext tenantId now held false) s).1.records model).get? id = some r ↔
      (s.1.records model).get? id = some r ∧ ∀ p ∈ policies,¬Removes tenantId now held p model id r := by
  induction policies generalizing s with
  | nil => simp
  | cons p policies ih =>
    obtain ⟨hget,hnext⟩ := records_enforceCategory tenantId now held s.1 p model
    obtain ⟨haudit,hlt⟩ := records_createAuditEntry tenantId now model (hnext.symm ▸ hid)
    rw [List.foldl_cons,ih _ hlt]
    change ((createAuditEntry tenantId now (enforceCategory tenantId now held false s.1 p).1).records model).get? id =
      some r ∧ _ ↔ _
    rw [haudit,hget,List.forall_mem_cons,and_assoc]

theorem applications_run (policies : List MergedPolicy) (id : ℕ) (a : Application) (s : Db × List EnforcementSummary) :
    (policies.foldl (enforceNext tenantId now held false) s).1.applications.get? id = some a ↔
      s.1.applications.get? id = some a ∧ ∀ p ∈ policies,¬RemovesApplication tenantId now held p id a := by
  induction policies generalizing s with
  | nil => simp
  | cons p policies ih =>
    rw [List.foldl_cons,ih]
    change (enforceCategory tenantId now held false s.1 p).1.applications.get? id = some a ∧ _ ↔ _
    rw [applications_enforceCategory,List.forall_mem_cons,and_assoc]

/-- All that a dry pass writes are audit entries. -/
theorem dry_run (policies : List MergedPolicy) (s : Db × List EnforcementSummary) :
    (∀ model id,id < (s.1.records model).next →
      ((policies.foldl (enforceNext tenantId now held true) s).1.records model).get? id = (s.1.records model).get? id) ∧
    (∀ model,model ≠ .auditLog →
      (policies.foldl (enforceNext tenantId now held true) s).1.records model = s.1.records model) ∧
    (policies.foldl (enforceNext tenantId now held true) s).1.applications = s.1.applications ∧
    (policies.foldl (enforceNext tenantId now held true) s).1.complianceRequests = s.1.complianceRequests := by
  induction policies generalizing s with
  | nil => exact ⟨fun _ _ _ => rfl,fun _ _ => rfl,rfl,rfl⟩
  | cons p policies ih =>
    have hnext : (enforceNext tenantId now held true s p).1 = createAuditEntry tenantId now s.1 := by
      rw [enforceNext,enforceCategory_dry]
    obtain ⟨hrecords,htables,happlications,hrequests⟩ := ih (enforceNext tenantId now held true s p)
    rw [List.foldl_cons]
    refine ⟨fun model id hid => ?_,fun model hm => ?_,?_,?_⟩
    · obtain ⟨haudit,hlt⟩ := records_createAuditEntry tenantId now model hid
      rw [hrecords model id (hnext.symm ▸ hlt),hnext,haudit]
    · rw [htables model hm,hnext]
      exact Function.update_of_ne hm _ _
    · rw [happlications,hnext,createAuditEntry]
    · rw [hrequests,hnext,createAuditEntry]

end

/-! ## What a pass deletes -/

section
variable {db : Db} {tenantId : ℕ} {now : Moment}

/-- The categories a pass deletes from are those whose policy in force says so. -/
theorem exists_policy_iff {category : String} {P : ℕ → Prop} :
    (∃ p ∈ getEffectivePolicies db.policies tenantId,(p.retentionMonths ≠ 0 ∧ p.actionOnExpiry = .delete ∧
      p.dataCategory = category) ∧ P p.retentionMonths) ↔
        ∃ months,Deletes db.policies tenantId category months ∧ P months := by
  constructor
  · rintro ⟨merged,hmem,⟨hmonths,hdelete,hcategory⟩,hP⟩
    obtain ⟨p,hp,rfl⟩ := mem_getEffectivePolicies.mp hmem
    exact ⟨_,⟨hmonths,p,hp,hcategory,hdelete,rfl⟩,hP⟩
  · rintro ⟨_,⟨hmonths,p,hp,hcategory,hdelete,rfl⟩,hP⟩
    exact ⟨_,mem_getEffectivePolicies.mpr ⟨p,hp,rfl⟩,⟨hmonths,hdelete,hcategory⟩,hP⟩

/-- A row is gone after a real pass when its category is deleted from, the run takes it for old and its key is free. -/
theorem record_deleted_iff {model : DeletableModel} {id : ℕ} {r : Record} (h : (db.records model).get? id = some r) :
    ((enforceForTenant db tenantId now false).1.records model).get? id = none ↔ r.tenantId = tenantId ∧
      ∃ months,Deletes db.policies tenantId (categoryOf model) months ∧
        expired (cutoffDate now months) r.createdAt = true ∧ ¬KeyHeld db tenantId (categoryOf model) id := by
  have hrun := fun r' => records_run tenantId now (holdSet db.holds tenantId)
    (getEffectivePolicies db.policies tenantId) model r' (db,[]) (Table.lt_next_of_get? h)
  have hgone : ((enforceForTenant db tenantId now false).1.records model).get? id = none ↔
      ∃ p ∈ getEffectivePolicies db.policies tenantId,
        Removes tenantId now (holdSet db.holds tenantId) p model id r := by
    rw [Option.eq_none_iff_forall_ne_some]
    constructor
    · intro hnone
      by_contra hno
      exact hnone r ((hrun r).mpr ⟨h,fun p hp hr => hno ⟨p,hp,hr⟩⟩)
    · rintro ⟨p,hp,hr⟩ r' hr'
      obtain ⟨hget,hnot⟩ := (hrun r').mp hr'
      obtain rfl := Option.some.inj (h.symm.trans hget)
      exact hnot p hp hr
  rw [hgone,← exists_policy_iff]
  constructor
  · rintro ⟨p,hp,hr⟩
    obtain ⟨hmonths,hdelete,hcategory⟩ := routeOf_records_iff.mp hr.route
    exact ⟨hr.tenant,p,hp,⟨hmonths,hdelete,hcategory⟩,hr.old,hcategory ▸ hr.free⟩
  · rintro ⟨htenant,p,hp,hroute,hold,hfree⟩
    exact ⟨p,hp,⟨routeOf_records_iff.mpr hroute,htenant,hold,by rw [hroute.2.2]; exact hfree⟩⟩

theorem application_deleted_iff {id : ℕ} {a : Application} (h : db.applications.get? id = some a) :
    (enforceForTenant db tenantId now false).1.applications.get? id = none ↔ a.tenantId = tenantId ∧ a.rejected = true ∧
      ∃ months,Deletes db.policies tenantId "rejected_admissions" months ∧
        expired (cutoffDate now months) a.updatedAt = true ∧ ¬KeyHeld db tenantId "rejected_admissions" id := by
  have hrun := fun a' => applications_run tenantId now (holdSet db.holds tenantId)
    (getEffectivePolicies db.policies tenantId) id a' (db,[])
  have hgone : (enforceForTenant db tenantId now false).1.applications.get? id = none ↔
      ∃ p ∈ getEffectivePolicies db.policies tenantId,
        RemovesApplication tenantId now (holdSet db.holds tenantId) p id a := by
    rw [Option.eq_none_iff_forall_ne_some]
    constructor
    · intro hnone
      by_contra hno
      exact hnone a ((hrun a).mpr ⟨h,fun p hp hr => hno ⟨p,hp,hr⟩⟩)
    · rintro ⟨p,hp,hr⟩ a' ha'
      obtain ⟨hget,hnot⟩ := (hrun a').mp ha'
      obtain rfl := Option.some.inj (h.symm.trans hget)
      exact hnot p hp hr
  rw [hgone,← exists_policy_iff]
  constructor
  · rintro ⟨p,hp,hr⟩
    obtain ⟨hmonths,hdelete,hcategory⟩ := routeOf_rejected_iff.mp hr.route
    exact ⟨hr.tenant,hr.rejected,p,hp,⟨hmonths,hdelete,hcategory⟩,hr.old,hcategory ▸ hr.free⟩
  · rintro ⟨htenant,hrejected,p,hp,hroute,hold,hfree⟩
    exact ⟨p,hp,⟨routeOf_rejected_iff.mpr hroute,htenant,hrejected,hold,by rw [hroute.2.2]; exact hfree⟩⟩

/-- For one row: what the run goes by agrees with what is due just when the row is kept right. -/
theorem agrees_iff_keptRight {category : String} {id : ℕ} {date : Moment} {subjects : List (String × ℕ)} :
    ((∃ months,Deletes db.policies tenantId category months ∧ expired (cutoffDate now months) date = true ∧
      ¬KeyHeld db tenantId category id) ↔ Due db tenantId now category date subjects) ↔
        ∀ months,Deletes db.policies tenantId category months →
          KeptRight db tenantId now category months id date subjects := by
  constructor
  · intro h months hmonths
    refine ⟨fun hold => ⟨fun hkey => ?_,fun hsubject => ?_⟩,fun hcut hyoung => ?_⟩
    · by_contra hfree
      exact (h.mpr ⟨months,hmonths,hold,hfree⟩).choose_spec.2.2 hkey
    · by_contra hfree
      obtain ⟨_,_,_,hnot⟩ := h.mp ⟨months,hmonths,expired_of_monthsBefore hold,hfree⟩
      exact hnot hsubject
    · by_contra hfree
      obtain ⟨n,hn,hold,_⟩ := h.mp ⟨months,hmonths,hcut,hfree⟩
      rw [deletes_unique hn hmonths,hyoung] at hold
      cases hold
  · intro h
    constructor
    · rintro ⟨months,hmonths,hcut,hfree⟩
      cases hold : expired (monthsBefore now months) date with
      | true => exact ⟨months,hmonths,hold,fun hs => hfree (((h months hmonths).old hold).mpr hs)⟩
      | false => exact absurd ((h months hmonths).rolled hcut hold) hfree
    · rintro ⟨months,hmonths,hold,hfree⟩
      exact ⟨months,hmonths,expired_of_monthsBefore hold,fun hk => hfree (((h months hmonths).old hold).mp hk)⟩

/-- A pass deletes exactly what is due just when every row it may delete is kept right. -/
theorem deletesExactly_iff (db : Db) (tenantId : ℕ) (now : Moment) :
    DeletesExactly db tenantId now ↔ AllKeptRight db tenantId now := by
  constructor
  · intro h
    constructor
    · intro model months hmonths id r hr htenant
      refine agrees_iff_keptRight.mp ?_ months hmonths
      have hdue := (record_deleted_iff hr).symm.trans (h.records model id r hr)
      simpa only [htenant,true_and] using hdue
    · intro months hmonths id a ha htenant hrejected
      refine agrees_iff_keptRight.mp ?_ months hmonths
      have hdue := (application_deleted_iff ha).symm.trans (h.applications id a ha)
      simpa only [htenant,hrejected,true_and] using hdue
  · intro h
    obtain ⟨hrecords,htables,happlications,hrequests⟩ := dry_run tenantId now (holdSet db.holds tenantId)
      (getEffectivePolicies db.policies tenantId) (db,[])
    refine ⟨fun model id r hr => ?_,fun id a ha => ?_,?_,fun model id r hr => ?_,htables,happlications,hrequests⟩
    · rw [record_deleted_iff hr]
      refine and_congr_right fun htenant => ?_
      exact agrees_iff_keptRight.mpr fun months hmonths => h.records model months hmonths id r hr htenant
    · rw [application_deleted_iff ha]
      refine and_congr_right fun htenant => and_congr_right fun hrejected => ?_
      exact agrees_iff_keptRight.mpr fun months hmonths => h.applications months hmonths id a ha htenant hrejected
    · rw [enforceForTenant,enforceForTenant,counts_run _ nodup_categories,counts_run _ nodup_categories]
    · exact (hrecords model id (Table.lt_next_of_get? hr)).trans hr

end

/-- A notification of the first of January 2020, to a pupil who is under a hold, on the first of January 2022. -/
def heldPupil : Db where
  policies := ⟨[⟨none,"communications_notifications",12,.delete⟩],List.pairwise_singleton _ _⟩
  holds := [⟨1,"student",7,false⟩]
  records model := if model = .notification then
    Table.empty.insert ⟨1,⟨CivilDate.firstOfMonth (12 * 2020),0⟩,[("student",7)]⟩ else Table.empty
  applications := Table.empty
  complianceRequests := Table.empty

theorem not_deletesExactly : ¬∀ (db : Db) (tenantId : ℕ) (now : Moment),DeletesExactly db tenantId now := by
  intro h
  have hrow : (heldPupil.records .notification).get? 0 =
      some ⟨1,⟨CivilDate.firstOfMonth (12 * 2020),0⟩,[("student",7)]⟩ := rfl
  have hdeletes : Deletes heldPupil.policies 1 "communications_notifications" 12 :=
    ⟨by decide,_,⟨List.mem_singleton_self _,.inr ⟨rfl,by simp [heldPupil]⟩⟩,rfl,rfl,rfl⟩
  have hgone : ((enforceForTenant heldPupil 1 ⟨CivilDate.firstOfMonth (12 * 2022),0⟩ false).1.records
      .notification).get? 0 = none :=
    (record_deleted_iff hrow).mpr ⟨rfl,12,hdeletes,by decide,by unfold KeyHeld; decide⟩
  obtain ⟨_,_,_,_,hfree⟩ := ((h heldPupil 1 _).records .notification 0 _ hrow).mp hgone
  exact hfree ⟨("student",7),List.mem_singleton_self _,by decide⟩

/-! ## Passes one after another -/

/-- A pass over one tenant. -/
structure Pass where
  tenantId : ℕ
  now : Moment
  dryRun : Bool

def runPass (db : Db) (p : Pass) : Db := (enforceForTenant db p.tenantId p.now p.dryRun).1

section
variable {tenantId : ℕ} {now : Moment} {held : List (String × ℕ)} {dryRun : Bool} {db : Db}

theorem settings_enforceCategory (tenantId : ℕ) (now : Moment) (held : List (String × ℕ)) (dryRun : Bool) (db : Db)
    (policy : MergedPolicy) :
    (enforceCategory tenantId now held dryRun db policy).1.policies = db.policies ∧
      (enforceCategory tenantId now held dryRun db policy).1.holds = db.holds := by
  unfold enforceCategory deleteCategoryRecords deleteComplianceExports deleteRejectedAdmissions
  dsimp only
  split
  · split
    · exact ⟨rfl,rfl⟩
    · cases dryRun <;> exact ⟨rfl,rfl⟩
  · split
    · exact ⟨rfl,rfl⟩
    · cases dryRun <;> exact ⟨rfl,rfl⟩
  · split
    · exact ⟨rfl,rfl⟩
    · cases dryRun <;> exact ⟨rfl,rfl⟩
  · exact ⟨rfl,rfl⟩

theorem settings_run (policies : List MergedPolicy) (s : Db × List EnforcementSummary) :
    (policies.foldl (enforceNext tenantId now held dryRun) s).1.policies = s.1.policies ∧
      (policies.foldl (enforceNext tenantId now held dryRun) s).1.holds = s.1.holds := by
  induction policies generalizing s with
  | nil => exact ⟨rfl,rfl⟩
  | cons policy policies ih =>
    obtain ⟨hpolicies,hholds⟩ := ih (enforceNext tenantId now held dryRun s policy)
    obtain ⟨hp,hh⟩ := settings_enforceCategory tenantId now held dryRun s.1 policy
    exact ⟨hpolicies.trans hp,hholds.trans hh⟩

theorem settings_runPass (db : Db) (p : Pass) :
    (runPass db p).policies = db.policies ∧ (runPass db p).holds = db.holds := settings_run _ _

/-- Identifiers that are taken stay taken. -/
theorem next_run (policies : List MergedPolicy) (model : DeletableModel) {id : ℕ} (s : Db × List EnforcementSummary)
    (hid : id < (s.1.records model).next) :
    id < ((policies.foldl (enforceNext tenantId now held dryRun) s).1.records model).next := by
  induction policies generalizing s with
  | nil => exact hid
  | cons policy policies ih =>
    refine ih _ (records_createAuditEntry tenantId now model ?_).2
    cases dryRun with
    | true => rwa [enforceCategory_dry]
    | false => rwa [(records_enforceCategory tenantId now held s.1 policy model).2]

end

section
variable (db : Db)

/-- The pass leaves the row of an identifier alone. -/
def Spares (p : Pass) (category : String) (tenantId id : ℕ) (date : Moment) : Prop :=
  p.dryRun = false → p.tenantId = tenantId → ∀ months,Deletes db.policies p.tenantId category months →
    expired (cutoffDate p.now months) date = true → KeyHeld db p.tenantId category id

variable {db}

theorem spares_runPass_iff (p q : Pass) {category : String} {tenantId id : ℕ} {date : Moment} :
    Spares (runPass db p) q category tenantId id date ↔ Spares db q category tenantId id date := by
  obtain ⟨hpolicies,hholds⟩ := settings_runPass db p
  unfold Spares KeyHeld
  rw [hpolicies,hholds]

theorem not_spares_iff (p : Pass) {category : String} {tenantId id : ℕ} {date : Moment} :
    ¬Spares db p category tenantId id date ↔ p.dryRun = false ∧ p.tenantId = tenantId ∧
      ∃ months,Deletes db.policies p.tenantId category months ∧ expired (cutoffDate p.now months) date = true ∧
        ¬KeyHeld db p.tenantId category id := by
  unfold Spares
  push Not
  rfl

/-- After a pass the row of an identifier that is taken is what it was, or none. -/
theorem get?_runPass (p : Pass) (model : DeletableModel) {id : ℕ} (hid : id < (db.records model).next) :
    id < ((runPass db p).records model).next ∧
      ∀ r,((runPass db p).records model).get? id = some r → (db.records model).get? id = some r := by
  obtain ⟨tenantId,now,dryRun⟩ := p
  refine ⟨next_run _ model (db,[]) hid,fun r hr => ?_⟩
  cases dryRun with
  | true => exact ((dry_run tenantId now (holdSet db.holds tenantId) _ (db,[])).1 model id hid).symm.trans hr
  | false => exact ((records_run tenantId now (holdSet db.holds tenantId) _ model r (db,[]) hid).mp hr).1

theorem record_runPass_iff {model : DeletableModel} {id : ℕ} {r : Record} (p : Pass)
    (h : (db.records model).get? id = some r) :
    ((runPass db p).records model).get? id = none ↔ ¬Spares db p (categoryOf model) r.tenantId id r.createdAt := by
  rw [not_spares_iff]
  obtain ⟨tenantId,now,dryRun⟩ := p
  cases dryRun with
  | true =>
    have hsame := (dry_run tenantId now (holdSet db.holds tenantId) (getEffectivePolicies db.policies tenantId)
      (db,[])).1 model id (Table.lt_next_of_get? h)
    have hthere : ((runPass db ⟨tenantId,now,true⟩).records model).get? id = some r := hsame.trans h
    simp [hthere]
  | false =>
    refine (record_deleted_iff h).trans ?_
    simp only [true_and]
    exact and_congr_left fun _ => eq_comm

theorem application_runPass_iff {id : ℕ} {a : Application} (p : Pass) (h : db.applications.get? id = some a) :
    (runPass db p).applications.get? id = none ↔
      a.rejected = true ∧ ¬Spares db p "rejected_admissions" a.tenantId id a.updatedAt := by
  rw [not_spares_iff]
  obtain ⟨tenantId,now,dryRun⟩ := p
  cases dryRun with
  | true =>
    have hsame := (dry_run tenantId now (holdSet db.holds tenantId) (getEffectivePolicies db.policies tenantId)
      (db,[])).2.2.1
    have hthere : (runPass db ⟨tenantId,now,true⟩).applications.get? id = some a := by
      rw [← h]
      exact congrArg (fun t => t.get? id) hsame
    simp [hthere]
  | false =>
    refine (application_deleted_iff h).trans ?_
    simp only [true_and]
    tauto

theorem application_of_runPass (p : Pass) {id : ℕ} {a : Application}
    (h : (runPass db p).applications.get? id = some a) : db.applications.get? id = some a := by
  obtain ⟨tenantId,now,dryRun⟩ := p
  cases dryRun with
  | true =>
    have hsame := (dry_run tenantId now (holdSet db.holds tenantId) (getEffectivePolicies db.policies tenantId)
      (db,[])).2.2.1
    rw [← h]
    exact congrArg (fun t => t.get? id) hsame.symm
  | false => exact ((applications_run tenantId now (holdSet db.holds tenantId) _ id a (db,[])).mp h).1

theorem record_of_passes (passes : List Pass) (model : DeletableModel) {id : ℕ} {r : Record}
    (hid : id < (db.records model).next) (h : ((passes.foldl runPass db).records model).get? id = some r) :
    (db.records model).get? id = some r := by
  induction passes generalizing db with
  | nil => exact h
  | cons p passes ih =>
    obtain ⟨hnext,hsame⟩ := get?_runPass p model hid
    exact hsame r (ih hnext h)

theorem application_of_passes (passes : List Pass) {id : ℕ} {a : Application}
    (h : (passes.foldl runPass db).applications.get? id = some a) : db.applications.get? id = some a := by
  induction passes generalizing db with
  | nil => exact h
  | cons p passes ih => exact application_of_runPass p (ih h)

end

/-- Over any passes, real and dry, for any tenants and at any times, a row is left in the end just when each pass spares
it: neither their order nor their repetition matters. -/
theorem passes_spare_iff (db : Db) (passes : List Pass) :
    (∀ model id r,(db.records model).get? id = some r →
      (((passes.foldl runPass db).records model).get? id = some r ↔
        ∀ p ∈ passes,Spares db p (categoryOf model) r.tenantId id r.createdAt)) ∧
    ∀ id a,db.applications.get? id = some a →
      ((passes.foldl runPass db).applications.get? id = some a ↔
        ∀ p ∈ passes,a.rejected = true → Spares db p "rejected_admissions" a.tenantId id a.updatedAt) := by
  constructor
  · intro model id r h
    induction passes generalizing db with
    | nil => simpa using h
    | cons p passes ih =>
      rw [List.foldl_cons,List.forall_mem_cons]
      cases hafter : ((runPass db p).records model).get? id with
      | none =>
        refine iff_of_false (fun hlast => ?_) fun hall => (record_runPass_iff p h).mp hafter hall.1
        have hnext := (get?_runPass p model (Table.lt_next_of_get? h)).1
        rw [record_of_passes passes model hnext hlast] at hafter
        cases hafter
      | some r' =>
        obtain rfl := Option.some.inj (h.symm.trans ((get?_runPass p model (Table.lt_next_of_get? h)).2 r' hafter))
        have hspares : Spares db p (categoryOf model) r.tenantId id r.createdAt := by
          by_contra hnot
          rw [(record_runPass_iff p h).mpr hnot] at hafter
          cases hafter
        rw [ih (runPass db p) hafter,and_iff_right hspares]
        simp only [spares_runPass_iff]
  · intro id a h
    induction passes generalizing db with
    | nil => simpa using h
    | cons p passes ih =>
      rw [List.foldl_cons,List.forall_mem_cons]
      cases hafter : (runPass db p).applications.get? id with
      | none =>
        obtain ⟨hrejected,hnot⟩ := (application_runPass_iff p h).mp hafter
        refine iff_of_false (fun hlast => ?_) fun hall => hnot (hall.1 hrejected)
        rw [application_of_passes passes hlast] at hafter
        cases hafter
      | some a' =>
        obtain rfl := Option.some.inj (h.symm.trans (application_of_runPass p hafter))
        have hspares : a.rejected = true → Spares db p "rejected_admissions" a.tenantId id a.updatedAt := by
          intro hrejected
          by_contra hnot
          rw [(application_runPass_iff p h).mpr ⟨hrejected,hnot⟩] at hafter
          cases hafter
        rw [ih (runPass db p) hafter,and_iff_right hspares]
        simp only [spares_runPass_iff]

end EduPod.Gdpr.RetentionEnforcement
