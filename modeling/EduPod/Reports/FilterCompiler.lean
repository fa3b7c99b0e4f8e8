import EduPod.Foundation.Fallible
import EduPod.Foundation.ThreeValued

/-! # Filters of reports

A filter tree is compiled into a `where` clause. Every leaf names a field, an operator and a value.
A leaf that compares always has its value here: one without it compiles to no condition at all.
-/
namespace EduPod.Reports
open Fallible

inductive FieldType
  | string | number | date | boolean | enum | currency
  deriving DecidableEq, Repr

inductive FilterOperator
  | equals | notEquals | contains | startsWith | endsWith | greaterThan | lessThan | greaterOrEqual | lessOrEqual
  | before | after | on | between | inList | notInList | isNull | isNotNull
  deriving DecidableEq, Repr

def FieldType.name : FieldType → String
  | .string => "string"
  | .number => "number"
  | .date => "date"
  | .boolean => "boolean"
  | .enum => "enum"
  | .currency => "currency"

def FilterOperator.name : FilterOperator → String
  | .equals => "equals"
  | .notEquals => "not_equals"
  | .contains => "contains"
  | .startsWith => "starts_with"
  | .endsWith => "ends_with"
  | .greaterThan => "greater_than"
  | .lessThan => "less_than"
  | .greaterOrEqual => "greater_or_equal"
  | .lessOrEqual => "less_or_equal"
  | .before => "before"
  | .after => "after"
  | .on => "on"
  | .between => "between"
  | .inList => "in_list"
  | .notInList => "not_in_list"
  | .isNull => "is_null"
  | .isNotNull => "is_not_null"

def operatorTypeMatrix : FieldType → List FilterOperator
  | .string => [.equals,.notEquals,.contains,.startsWith,.endsWith,.inList,.notInList,.isNull,.isNotNull]
  | .number => [.equals,.notEquals,.greaterThan,.lessThan,.greaterOrEqual,.lessOrEqual,.between,.inList,.notInList,
      .isNull,.isNotNull]
  | .date => [.equals,.notEquals,.before,.after,.on,.between,.isNull,.isNotNull]
  | .boolean => [.equals,.notEquals,.isNull,.isNotNull]
  | .enum => [.equals,.notEquals,.inList,.notInList,.isNull,.isNotNull]
  | .currency => [.equals,.notEquals,.greaterThan,.lessThan,.greaterOrEqual,.lessOrEqual,.between,.isNull,.isNotNull]

/-- What a column may hold. A date is its time in milliseconds. -/
inductive Scalar
  | bool (b : Bool)
  | num (q : ℚ)
  | str (s : String)
  | date (ms : ℤ)
  deriving DecidableEq

/-- A value at run time. -/
inductive Value
  | null
  | scalar (s : Scalar)
  | arr (values : List Value)
  | obj (entries : List (String × Value))

/-- Conversions of the language: `String(v)`, `Number(v)` unless it is no number, and the time of
`new Date(s)` unless it is none. -/
structure Conversions where
  toString : Value → String
  toNumber : Value → Option ℚ
  parseDate : String → Option ℤ

structure FieldDescriptor where
  type : FieldType
  filterable : Bool

structure FilterLeaf where
  fieldId : String
  operator : FilterOperator
  value : Value

inductive Combinator
  | and | or
  deriving DecidableEq, Repr

inductive FilterNode
  | leaf (l : FilterLeaf)
  | group (combinator : Combinator) (filters : List FilterNode)

inductive QueryErrorCode
  | unknownField | fieldNotFilterable | invalidOperatorForType
  deriving DecidableEq, Repr

structure QueryError where
  code : QueryErrorCode
  message : String
  deriving DecidableEq

inductive TextMatch
  | contains | startsWith | endsWith
  deriving DecidableEq, Repr

/-- A condition on a column, in the client's words: a bare value, `{ not }`, and so on. -/
inductive Predicate
  | is (value : Value)
  | not (value : Value)
  | text (kind : TextMatch) (pattern : String)
  | gt (value : Value)
  | lt (value : Value)
  | gte (value : Value)
  | lte (value : Value)
  | range (gte lte : Value)
  | isIn (values : List Value)
  | notIn (values : List Value)

/-- A `where` clause. -/
inductive Clause
  | empty
  | column (name : String) (predicate : Predicate)
  | relation (name : String) (clause : Clause)
  | and (clauses : List Clause)
  | or (clauses : List Clause)

def Clause.isEmpty : Clause → Bool
  | .empty => true
  | _ => false

/-! ## The compiler -/

variable (js : Conversions)

def coerceOne (type : FieldType) (value : Value) : Except QueryError Value :=
  match type with
  | .date =>
    match value with
    | .scalar (.date ms) => .ok (.scalar (.date ms))
    | value =>
      match js.parseDate (js.toString value) with
      | some ms => .ok (.scalar (.date ms))
      | none => .error ⟨.invalidOperatorForType,"Invalid date value: " ++ js.toString value⟩
  | .number | .currency =>
    match value with
    | .scalar (.num q) => .ok (.scalar (.num q))
    | value =>
      match js.toNumber value with
      | some q => .ok (.scalar (.num q))
      | none => .error ⟨.invalidOperatorForType,"Invalid numeric value: " ++ js.toString value⟩
  | .boolean =>
    match value with
    | .scalar (.bool b) => .ok (.scalar (.bool b))
    | .scalar (.str "true") => .ok (.scalar (.bool true))
    | .scalar (.str "false") => .ok (.scalar (.bool false))
    | value => .error ⟨.invalidOperatorForType,"Invalid boolean value: " ++ js.toString value⟩
  | .string | .enum => .ok value

mutual
def coerceValue (type : FieldType) : Value → Except QueryError Value
  | .null => .ok .null
  | .arr values => (coerceValues type values).map .arr
  | .scalar s => coerceOne js type (.scalar s)
  | .obj entries => coerceOne js type (.obj entries)
@[grind] def coerceValues (type : FieldType) : List Value → Except QueryError (List Value)
  | [] => .ok []
  | v :: vs => do
    let v ← coerceValue type v
    let vs ← coerceValues type vs
    return v :: vs
end

/-- The predicate of an operator that compares. -/
def comparison (operator : FilterOperator) (coerced : Value) : Except QueryError Predicate :=
  match operator with
  | .equals | .on => .ok (.is coerced)
  | .notEquals => .ok (.not coerced)
  | .contains => .ok (.text .contains (js.toString coerced))
  | .startsWith => .ok (.text .startsWith (js.toString coerced))
  | .endsWith => .ok (.text .endsWith (js.toString coerced))
  | .greaterThan | .after => .ok (.gt coerced)
  | .lessThan | .before => .ok (.lt coerced)
  | .greaterOrEqual => .ok (.gte coerced)
  | .lessOrEqual => .ok (.lte coerced)
  | .between =>
    match coerced with
    | .arr [lo,hi] => .ok (.range lo hi)
    | _ => .error ⟨.invalidOperatorForType,"\"between\" requires a two-element array"⟩
  | .inList =>
    match coerced with
    | .arr values => .ok (.isIn values)
    | _ => .error ⟨.invalidOperatorForType,"\"in_list\" requires an array value"⟩
  | .notInList =>
    match coerced with
    | .arr values => .ok (.notIn values)
    | _ => .error ⟨.invalidOperatorForType,"\"not_in_list\" requires an array value"⟩
  -- these two ignore the value and never get here
  | .isNull => .ok (.is .null)
  | .isNotNull => .ok (.not .null)

def buildPrismaPredicate (operator : FilterOperator) (value : Value) (type : FieldType) : Except QueryError Predicate :=
  match operator with
  | .isNull => .ok (.is .null)
  | .isNotNull => .ok (.not .null)
  | operator => coerceValue js type value >>= comparison js operator

/-- `path.split('.')`. -/
def segments (path : String) : List String := (path.toList.splitOn '.').map String.ofList

/-- Segments before the last one name relations. -/
@[grind] def pathToWhere : List String → Predicate → Clause
  | [], _ => .empty
  | [column], predicate => .column column predicate
  | relation :: rest, predicate => .relation relation (pathToWhere rest predicate)

/-- The fields a user may filter by, and where each is stored, if it is. -/
structure Scope where
  scopedFields : String → Option FieldDescriptor
  columnMap : String → Option String

variable (scope : Scope)

def compileLeaf (leaf : FilterLeaf) : Except QueryError Clause := do
  let descriptor ← require (scope.scopedFields leaf.fieldId) ⟨.unknownField,
    s!"Unknown field id \"{leaf.fieldId}\" (either nonexistent or scoped out by permissions)"⟩
  ensure (descriptor.filterable = true) ⟨.fieldNotFilterable,s!"Field \"{leaf.fieldId}\" is not filterable"⟩
  ensure (leaf.operator ∈ operatorTypeMatrix descriptor.type) ⟨.invalidOperatorForType,
    s!"Operator \"{leaf.operator.name}\" is not valid for {descriptor.type.name} field \"{leaf.fieldId}\""⟩
  let columnPath ← require (scope.columnMap leaf.fieldId) ⟨.fieldNotFilterable,
    s!"Field \"{leaf.fieldId}\" has no database-level filter binding"⟩
  let predicate ← buildPrismaPredicate js leaf.operator leaf.value descriptor.type
  return pathToWhere (segments columnPath) predicate

/-- A single condition stands for itself. -/
def combine (combinator : Combinator) : List Clause → Clause
  | [] => .empty
  | [clause] => clause
  | clauses =>
    match combinator with
    | .or => .or clauses
    | .and => .and clauses

mutual
def compileFilterGroup : FilterNode → Except QueryError Clause
  | .leaf leaf => compileLeaf js scope leaf
  | .group combinator filters => do
    let compiled ← compileChildren filters
    return combine combinator (compiled.filter fun clause => !clause.isEmpty)
@[grind] def compileChildren : List FilterNode → Except QueryError (List Clause)
  | [] => .ok []
  | child :: rest => do
    let clause ← compileFilterGroup child
    let clauses ← compileChildren rest
    return clause :: clauses
end

end EduPod.Reports
