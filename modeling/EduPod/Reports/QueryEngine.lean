import Mathlib
import EduPod.Foundation.Grouping
import EduPod.Reports.WhereClauses

/-! # Custom report queries

A query is checked against the fields of its caller, compiled, probed for its size and fetched page by page. A grouped
query is checked as one; the rows that are fetched and counted are those of the query without its groups.
-/
namespace EduPod.Reports
open Fallible Grouping

inductive Aggregation
  | count | sum | avg | min | max | percent
  deriving DecidableEq, Repr

def Aggregation.name : Aggregation → String
  | .count => "count"
  | .sum => "sum"
  | .avg => "avg"
  | .min => "min"
  | .max => "max"
  | .percent => "percent"

def defaultAggregationsByType : FieldType → List Aggregation
  | .string | .enum => [.count]
  | .number | .currency => [.count,.sum,.avg,.min,.max]
  | .date => [.count,.min,.max]
  | .boolean => [.count,.percent]

structure ReportField extends FieldDescriptor where
  id : String
  labelKey : String
  aggregations : Option (List Aggregation)
  groupable : Bool
  permission : Option String
  resolver : String

structure ColumnSpec where
  fieldId : String
  aggregation : Option Aggregation
  deriving DecidableEq

structure SortSpec where
  fieldId : String
  descending : Bool
  deriving DecidableEq

structure SavedReportQuery where
  columns : List ColumnSpec
  filters : Option FilterNode
  groupBy : Option (List String)
  sort : Option (List SortSpec)

/-- An absent list and an empty one group by nothing. -/
def SavedReportQuery.groupIds (q : SavedReportQuery) : List String := q.groupBy.getD []

inductive EngineErrorCode
  | unknownField | fieldNotFilterable | fieldNotGroupable | invalidOperatorForType | invalidAggregationForType
  | aggregationRequired | rowCapExceeded
  deriving DecidableEq, Repr

def QueryErrorCode.engineCode : QueryErrorCode → EngineErrorCode
  | .unknownField => .unknownField
  | .fieldNotFilterable => .fieldNotFilterable
  | .invalidOperatorForType => .invalidOperatorForType

inductive ExecuteError
  | badRequest (code : EngineErrorCode) (message : String) (rowCount : Option ℕ)
  | clientRejected
  deriving DecidableEq

def queryEngineRowCap : ℕ := 50000

/-! ## The subject of a query -/

structure OrderTerm where
  path : List String
  descending : Bool
  deriving DecidableEq

variable {ρ : Type}

structure SubjectAdapter (ρ : Type) where
  fields : List ReportField
  filterColumnMap : String → Option String
  defaultOrderBy : List OrderTerm
  resolvers : String → Option (ρ → Value)

/-- The client on the rows of a tenant: what it finds, unless it throws, and in which order it gives it out. -/
structure Delegate (ρ : Type) where
  findMany : Clause → Option (List ρ)
  ordered : List OrderTerm → List ρ → List ρ
  perm : ∀ orderBy rows, (ordered orderBy rows).Perm rows

def ownerSentinelPermission : String := "__owner__"

def scopeSubject (fields : List ReportField) (permissions : List String) : List ReportField :=
  fields.filter fun field => field.permission.all fun permission =>
    permission = "" || permissions.contains ownerSentinelPermission || permissions.contains permission

def SubjectAdapter.scopedFieldMap (adapter : SubjectAdapter ρ) (permissions : List String) (id : String) :
    Option ReportField :=
  lastWith (fun field => field.id = id) (scopeSubject adapter.fields permissions)

/-- A field without a path is not sorted by. -/
def SubjectAdapter.buildOrderBy (adapter : SubjectAdapter ρ) (sort : Option (List SortSpec)) : List OrderTerm :=
  let compiled := (sort.getD []).filterMap fun s =>
    (adapter.filterColumnMap s.fieldId).bind fun path =>
      if path = "" then none else some ⟨segments path,s.descending⟩
  if compiled = [] then adapter.defaultOrderBy else compiled

def SubjectAdapter.resolve (adapter : SubjectAdapter ρ) (row : ρ) (field : ReportField) : Value :=
  (adapter.resolvers field.resolver).elim .null fun resolver => resolver row

/-- A column named twice shows one value twice. -/
def SubjectAdapter.resolveRow (adapter : SubjectAdapter ρ) (scopedFields : String → Option ReportField)
    (columns : List ColumnSpec) (row : ρ) : List (String × Value) :=
  columns.filterMap fun col => (scopedFields col.fieldId).map fun field => (col.fieldId,adapter.resolve row field)

/-! ## Validation and execution -/

def validateColumn (scopedFields : String → Option ReportField) (col : ColumnSpec) : Except ExecuteError Unit := do
  let descriptor ← require (scopedFields col.fieldId)
    (.badRequest .unknownField s!"Unknown column \"{col.fieldId}\"" none)
  match col.aggregation with
  | none => return
  | some aggregation =>
    ensure ((descriptor.aggregations.getD (defaultAggregationsByType descriptor.type)).contains aggregation = true)
      (.badRequest .invalidAggregationForType
        s!"Aggregation \"{aggregation.name}\" is not valid for {descriptor.type.name} field \"{col.fieldId}\"" none)

def validateGroupBy (scopedFields : String → Option ReportField) (fieldId : String) : Except ExecuteError Unit := do
  let descriptor ← require (scopedFields fieldId)
    (.badRequest .unknownField s!"Unknown group-by field \"{fieldId}\"" none)
  ensure (descriptor.groupable = true) (.badRequest .fieldNotGroupable s!"Field \"{fieldId}\" is not groupable" none)

def validateMeasure (groupIds : List String) (col : ColumnSpec) : Except ExecuteError Unit :=
  ensure (groupIds.contains col.fieldId = true ∨ col.aggregation.isSome = true) (.badRequest .aggregationRequired
    s!"Column \"{col.fieldId}\" must have an aggregation when the report is grouped" none)

def validateSort (scopedFields : String → Option ReportField) (s : SortSpec) : Except ExecuteError Unit :=
  ensure ((scopedFields s.fieldId).isSome = true)
    (.badRequest .unknownField s!"Unknown sort field \"{s.fieldId}\"" none)

def validateQuery (scopedFields : String → Option ReportField) (q : SavedReportQuery) : Except ExecuteError Unit := do
  ensure (q.columns ≠ []) (.badRequest .unknownField "A report must select at least one column" none)
  q.columns.forM (validateColumn scopedFields)
  if q.groupIds ≠ [] then
    q.groupIds.forM (validateGroupBy scopedFields)
    q.columns.forM (validateMeasure q.groupIds)
  (q.sort.getD []).forM (validateSort scopedFields)

structure QueryResultColumn where
  id : String
  labelKey : String
  type : FieldType
  deriving DecidableEq

def buildResultColumns (scopedFields : String → Option ReportField) (columns : List ColumnSpec) :
    List QueryResultColumn :=
  columns.map fun col => (scopedFields col.fieldId).elim ⟨col.fieldId,col.fieldId,.string⟩ fun f => ⟨f.id,f.labelKey,f.type⟩

structure QueryExecutionResult where
  rows : List (List (String × Value))
  columns : List QueryResultColumn
  rowCount : ℕ
  truncated : Bool

/-- A request for a page: who asks, and for which part. Pages count from one. -/
structure ExecuteRequest where
  permissions : List String
  page : ℕ
  pageSize : ℕ

variable (js : Conversions) (db : Delegate ρ) (adapter : SubjectAdapter ρ)

def compileFilters (scopedFields : String → Option ReportField) (filters : Option FilterNode) :
    Except ExecuteError Clause :=
  match filters with
  | none => .ok .empty
  | some tree =>
    match compileFilterGroup js ⟨fun id => (scopedFields id).map ReportField.toFieldDescriptor,adapter.filterColumnMap⟩
      tree with
    | .ok clause => .ok clause
    | .error e => .error (.badRequest e.code.engineCode e.message none)

def rowCapMessage (rowCount : ℕ) : String :=
  s!"Query would return {rowCount} rows (cap is {queryEngineRowCap}). Narrow your filters."

/-- The cap is not for grouped queries: "grouped results are bounded by distinct keys". -/
def probeRowCap (q : SavedReportQuery) (rowCount : ℕ) : Except ExecuteError Unit :=
  if q.groupIds = [] then
    ensure (rowCount ≤ queryEngineRowCap) (.badRequest .rowCapExceeded (rowCapMessage rowCount) (some rowCount))
  else .ok ()

def answer (scopedFields : String → Option ReportField) (q : SavedReportQuery) (request : ExecuteRequest)
    (matching : List ρ) : QueryExecutionResult where
  rows := (((db.ordered (adapter.buildOrderBy q.sort) matching).drop ((request.page - 1) * request.pageSize)).take
    request.pageSize).map (adapter.resolveRow scopedFields q.columns)
  columns := buildResultColumns scopedFields q.columns
  rowCount := matching.length
  truncated := matching.length > request.page * request.pageSize

def execute (q : SavedReportQuery) (request : ExecuteRequest) : Except ExecuteError QueryExecutionResult := do
  let scopedFields := adapter.scopedFieldMap request.permissions
  validateQuery scopedFields q
  let clause ← compileFilters js adapter scopedFields q.filters
  let matching ← require (db.findMany clause) .clientRejected
  probeRowCap q matching.length
  return answer db adapter scopedFields q request matching

/-! ## Groups -/

/-- The rows behind a query. -/
def matchingRows (q : SavedReportQuery) (permissions : List String) : Option (List ρ) :=
  (compileFilters js adapter (adapter.scopedFieldMap permissions) q.filters).toOption.bind db.findMany

/-- The group-by values of a row. -/
def groupTuple (q : SavedReportQuery) (permissions : List String) (row : ρ) : List (String × Value) :=
  q.groupIds.map fun id => (id,(adapter.scopedFieldMap permissions id).elim .null (adapter.resolve row))

def groups (q : SavedReportQuery) (permissions : List String) (matching : List ρ) : Set (List (String × Value)) :=
  {tuple | ∃ row ∈ matching, groupTuple adapter q permissions row = tuple}

/-- What a column shows of a group, once it is said what the aggregations mean. -/
def groupValue (meaning : Aggregation → List Value → Value) (q : SavedReportQuery) (permissions : List String)
    (matching : List ρ) (tuple : List (String × Value)) (col : ColumnSpec) (value : Value) : Prop :=
  match col.aggregation with
  | none => tuple.lookup col.fieldId = some value
  | some aggregation => ∃ inGroup : ρ → Bool,
      (∀ row, inGroup row = true ↔ groupTuple adapter q permissions row = tuple) ∧
      value = meaning aggregation ((matching.filter inGroup).map fun row =>
        (adapter.scopedFieldMap permissions col.fieldId).elim .null (adapter.resolve row))

/-- A page shows groups, each at most once, and all groups are counted. -/
def ShowsGroups (meaning : Aggregation → List Value → Value) (q : SavedReportQuery) (permissions : List String)
    (matching : List ρ) (result : QueryExecutionResult) : Prop :=
  result.rowCount = (groups adapter q permissions matching).ncard ∧
  ∃ tuples : List (List (String × Value)), tuples.Nodup ∧ List.Forall₂ (fun row tuple =>
    tuple ∈ groups adapter q permissions matching ∧ ∀ col ∈ q.columns, ∃ value, row.lookup col.fieldId = some value ∧
      groupValue adapter meaning q permissions matching tuple col value) result.rows tuples

/-- The same query for detail rows. -/
def SavedReportQuery.detail (q : SavedReportQuery) : SavedReportQuery :=
  { q with
    columns := q.columns.map fun col => { col with aggregation := none }
    groupBy := none }

/-- The cap that only detail rows are under. -/
def capped (result : QueryExecutionResult) : Except ExecuteError QueryExecutionResult :=
  if result.rowCount ≤ queryEngineRowCap then .ok result
  else .error (.badRequest .rowCapExceeded (rowCapMessage result.rowCount) (some result.rowCount))

/-- Grouping falls back to detail rows, which are counted one by one. -/
structure FallsBack (q : SavedReportQuery) (request : ExecuteRequest) : Prop where
  detail : execute js db adapter q.detail request = execute js db adapter q request >>= capped
  counted : ∀ result, execute js db adapter q request = .ok result → ∃ matching,
    matchingRows js db adapter q request.permissions = some matching ∧ result.rowCount = matching.length ∧
    (groups adapter q request.permissions matching).ncard ≤ result.rowCount ∧
    ((groups adapter q request.permissions matching).ncard = result.rowCount ↔
      (matching.map (groupTuple adapter q request.permissions)).Nodup)

/-! ## Falling back -/

section
variable {js db adapter} {q : SavedReportQuery} {scopedFields : String → Option ReportField}

@[simp] theorem groupIds_detail (q : SavedReportQuery) : q.detail.groupIds = [] := rfl

theorem validateColumn_detail {col : ColumnSpec} (h : validateColumn scopedFields col = .ok ()) :
    validateColumn scopedFields { col with aggregation := none } = .ok () := by
  rw [validateColumn,require_bind_eq_ok] at h ⊢
  obtain ⟨descriptor,hdescriptor,-⟩ := h
  exact ⟨descriptor,hdescriptor,rfl⟩

/-- An accepted query is accepted for detail rows. -/
theorem validateQuery_detail (h : validateQuery scopedFields q = .ok ()) : validateQuery scopedFields q.detail = .ok () := by
  simp only [validateQuery,ensure_bind_eq_ok] at h ⊢
  obtain ⟨hne,h⟩ := h
  obtain ⟨⟨⟩,hcolumns,h⟩ := bind_eq_ok.mp h
  have hsort : (q.sort.getD []).forM (validateSort scopedFields) = .ok () := by
    split at h
    · obtain ⟨⟨⟩,-,h⟩ := bind_eq_ok.mp h
      obtain ⟨⟨⟩,-,h⟩ := bind_eq_ok.mp h
      exact h
    · exact h
  refine ⟨by simpa [SavedReportQuery.detail] using hne,bind_eq_ok.mpr ⟨⟨⟩,?_,?_⟩⟩
  · refine forM_eq_ok.mpr fun col hcol => ?_
    obtain ⟨plain,hplain,rfl⟩ := List.mem_map.mp hcol
    exact validateColumn_detail (forM_eq_ok.mp hcolumns plain hplain)
  · rw [groupIds_detail,if_neg (not_not.mpr rfl)]
    exact hsort

theorem resolveRow_detail (columns : List ColumnSpec) (row : ρ) :
    adapter.resolveRow scopedFields (columns.map fun col => { col with aggregation := none }) row =
      adapter.resolveRow scopedFields columns row := by
  rw [SubjectAdapter.resolveRow,SubjectAdapter.resolveRow,List.filterMap_map]
  rfl

theorem answer_detail (request : ExecuteRequest) (matching : List ρ) :
    answer db adapter scopedFields q.detail request matching = answer db adapter scopedFields q request matching := by
  have hrow : adapter.resolveRow scopedFields q.detail.columns = adapter.resolveRow scopedFields q.columns :=
    funext fun row => resolveRow_detail q.columns row
  have hcolumns : buildResultColumns scopedFields q.detail.columns = buildResultColumns scopedFields q.columns := by
    rw [buildResultColumns,buildResultColumns,SavedReportQuery.detail,List.map_map]
    rfl
  rw [answer,answer,hrow,hcolumns]
  rfl

/-- A grouped query is not probed. -/
theorem probeRowCap_grouped (hgrouped : q.groupIds ≠ []) (rowCount : ℕ) : probeRowCap q rowCount = .ok () :=
  if_neg hgrouped

theorem execute_detail {request : ExecuteRequest}
    (hvalid : validateQuery (adapter.scopedFieldMap request.permissions) q = .ok ()) (hgrouped : q.groupIds ≠ []) :
    execute js db adapter q.detail request = execute js db adapter q request >>= capped := by
  simp only [execute,hvalid,validateQuery_detail hvalid,ok_bind]
  change compileFilters js adapter (adapter.scopedFieldMap request.permissions) q.filters >>= _ = _
  cases compileFilters js adapter (adapter.scopedFieldMap request.permissions) q.filters with
  | error e => rfl
  | ok clause =>
    rw [ok_bind,ok_bind]
    cases db.findMany clause with
    | none => rfl
    | some matching =>
      simp only [require,ok_bind,answer_detail,probeRowCap_grouped hgrouped]
      change probeRowCap q.detail matching.length >>= _ = capped _
      rw [probeRowCap,if_pos (groupIds_detail q),capped]
      by_cases hcap : matching.length ≤ queryEngineRowCap
      · rw [ensure,if_pos hcap,ok_bind]
        exact (if_pos hcap).symm
      · rw [ensure,if_neg hcap]
        exact (if_neg hcap).symm

theorem execute_matching {request : ExecuteRequest} {result : QueryExecutionResult}
    (h : execute js db adapter q request = .ok result) : ∃ matching,
      matchingRows js db adapter q request.permissions = some matching ∧ result.rowCount = matching.length := by
  simp only [execute] at h
  obtain ⟨⟨⟩,-,h⟩ := bind_eq_ok.mp h
  obtain ⟨clause,hclause,h⟩ := bind_eq_ok.mp h
  obtain ⟨matching,hmatching,h⟩ := require_bind_eq_ok.mp h
  obtain ⟨⟨⟩,-,h⟩ := bind_eq_ok.mp h
  refine ⟨matching,?_,?_⟩
  · rw [matchingRows,hclause]
    exact hmatching
  · rw [← pure_eq_ok.mp h]
    rfl

/-- There are as many groups as rows exactly when no two rows agree on the group-by values. -/
theorem ncard_groups (permissions : List String) (matching : List ρ) :
    (groups adapter q permissions matching).ncard ≤ matching.length ∧
      ((groups adapter q permissions matching).ncard = matching.length ↔
        (matching.map (groupTuple adapter q permissions)).Nodup) := by
  classical
  have hgroups : groups adapter q permissions matching =
      ((matching.map (groupTuple adapter q permissions)).toFinset : Set (List (String × Value))) := by
    ext tuple
    simp [groups]
  have hlength : matching.length = Multiset.card (matching.map (groupTuple adapter q permissions) :
      Multiset (List (String × Value))) := by simp
  rw [hgroups,Set.ncard_coe_finset]
  constructor
  · exact (List.toFinset_card_le _).trans (List.length_map _).le
  · rw [hlength,← Multiset.coe_nodup]
    exact Multiset.toFinset_card_eq_card_iff_nodup

end

/-- An accepted query that groups is answered by detail rows. -/
theorem fallsBack (q : SavedReportQuery) (request : ExecuteRequest) (hgrouped : q.groupIds ≠ [])
    (hvalid : validateQuery (adapter.scopedFieldMap request.permissions) q = .ok ()) :
    FallsBack js db adapter q request where
  detail := execute_detail hvalid hgrouped
  counted result h := by
    obtain ⟨matching,hmatching,hcount⟩ := execute_matching h
    refine ⟨matching,hmatching,hcount,?_,?_⟩
    · rw [hcount]
      exact (ncard_groups request.permissions matching).1
    · rw [hcount]
      exact (ncard_groups request.permissions matching).2

/-! ## Two students of one nationality -/

def nationalityAdapter : SubjectAdapter Row where
  fields := [⟨⟨.string,true⟩,"student.nationality","nationality",none,true,none,"nationality"⟩,
    ⟨⟨.string,true⟩,"student.number","number",none,false,none,"number"⟩]
  filterColumnMap id := if id = "student.nationality" then some "nationality" else none
  defaultOrderBy := []
  resolvers id := some fun row => (row.column id).elim .null .scalar

def frenchStudents : List Row :=
  [.mk [("nationality",some (.str "French")),("number",some (.str "S1"))] [],
    .mk [("nationality",some (.str "French")),("number",some (.str "S2"))] []]

def frenchDelegate : Delegate Row where
  findMany clause := plainClient.findMany clause frenchStudents
  ordered _ rows := rows
  perm _ _ := .rfl

def countByNationality : SavedReportQuery where
  columns := [⟨"student.nationality",none⟩,⟨"student.number",some .count⟩]
  filters := none
  groupBy := some ["student.nationality"]
  sort := none

theorem validate_countByNationality :
    validateQuery (nationalityAdapter.scopedFieldMap []) countByNationality = .ok () := by rfl

theorem fallsBack_countByNationality :
    FallsBack plainConversions frenchDelegate nationalityAdapter countByNationality ⟨[],1,10⟩ :=
  fallsBack plainConversions frenchDelegate nationalityAdapter countByNationality ⟨[],1,10⟩ (by decide)
    validate_countByNationality

theorem matchingRows_countByNationality :
    matchingRows plainConversions frenchDelegate nationalityAdapter countByNationality [] = some frenchStudents := by rfl

/-- Whatever the aggregations mean, two students of one nationality are two rows. -/
theorem not_showsGroups : ¬ ∃ meaning : Aggregation → List Value → Value,
    ∀ (js : Conversions) (db : Delegate Row) (adapter : SubjectAdapter Row) (q : SavedReportQuery)
      (request : ExecuteRequest) (result : QueryExecutionResult), q.groupIds ≠ [] →
      validateQuery (adapter.scopedFieldMap request.permissions) q = .ok () →
      execute js db adapter q request = .ok result → ∀ matching,
      matchingRows js db adapter q request.permissions = some matching →
      ShowsGroups adapter meaning q request.permissions matching result := by
  rintro ⟨meaning,h⟩
  have hcount := (h plainConversions frenchDelegate nationalityAdapter countByNationality ⟨[],1,10⟩ _ (by decide)
    validate_countByNationality rfl frenchStudents matchingRows_countByNationality).1
  have hnodup := (ncard_groups [] frenchStudents).2.mp hcount.symm
  exact (List.nodup_cons.mp hnodup).1 (List.mem_singleton.mpr rfl)

end EduPod.Reports
