import EduPod.Reports.FilterCompiler

/-! # What a compiled filter selects

The client turns a clause into a condition with three truth values: a comparison with a missing
value is unknown, and so is its negation, and a condition behind a relation asks for the related row
first. Read as a boolean condition the tree says something else of some rows.
-/
namespace EduPod.Reports
open Fallible

/-- A row: nullable columns, and related rows that may be missing. -/
inductive Row
  | mk (columns : List (String × Option Scalar)) (relations : List (String × Option Row))

def Row.column : Row → String → Option Scalar
  | .mk columns _, name => (columns.lookup name).join

def Row.relation : Row → String → Option Row
  | .mk _ relations, name => (relations.lookup name).join

/-- The value at the end of a path, if there is one. -/
def Row.valueAt : Row → List String → Option Scalar
  | _, [] => none
  | row, [column] => row.column column
  | row, relation :: rest => (row.relation relation).bind (·.valueAt rest)

/-- Every relation on the path leads somewhere. -/
def Row.reaches : Row → List String → Bool
  | _, [] => false
  | _, [_] => true
  | row, relation :: rest => (row.relation relation).any (·.reaches rest)

def Scalar.lt : Scalar → Scalar → Bool
  | .num a, .num b => a < b
  | .date a, .date b => a < b
  | _, _ => false

/-- The client and the database behind it: how it matches text, what it makes of an object that
stands where a value should, and which clauses it takes at all. -/
structure Client where
  textMatches : TextMatch → String → Scalar → Bool
  objectFilter : List (String × Value) → Option Scalar → Truth
  accepts : Clause → Bool

variable (client : Client)

/-- A comparison with a scalar, unknown without one. -/
def compared (test : Scalar → Scalar → Bool) : Value → Option Scalar → Truth
  | .scalar a, v => v.map fun s => test s a
  | _, _ => none

def Value.isScalar : Value → Bool
  | .scalar _ => true
  | _ => false

def Value.isEqual (s : Scalar) : Value → Bool
  | .scalar a => s = a
  | _ => false

def Predicate.eval (v : Option Scalar) : Predicate → Truth
  | .is .null => some v.isNone
  | .is (.scalar a) => v.map fun s => s = a
  | .is (.obj entries) => client.objectFilter entries v
  | .is (.arr _) => none
  | .not .null => some v.isSome
  | .not (.scalar a) => v.map fun s => s ≠ a
  | .not (.obj entries) => (client.objectFilter entries v).map (!·)
  | .not (.arr _) => none
  | .text kind pattern => v.map (client.textMatches kind pattern)
  | .gt a => compared (fun s a => a.lt s) a v
  | .lt a => compared Scalar.lt a v
  | .gte a => compared (fun s a => !s.lt a) a v
  | .lte a => compared (fun s a => !a.lt s) a v
  | .range lo hi => (compared (fun s a => !s.lt a) lo v).and (compared (fun s a => !a.lt s) hi v)
  | .isIn [] => some false
  | .isIn (a :: as) => v.map fun s => (a :: as).any (Value.isEqual s)
  | .notIn [] => some true
  | .notIn (a :: as) => v.map fun s => !(a :: as).any (Value.isEqual s)

mutual
def Clause.eval (row : Row) : Clause → Truth
  | .empty => some true
  | .column name predicate => predicate.eval client (row.column name)
  | .relation name clause =>
    match row.relation name with
    | none => some false
    | some related => clause.eval related
  | .and clauses => evalAll row clauses
  | .or clauses => evalAny row clauses
@[grind] def evalAll (row : Row) : List Clause → Truth
  | [] => some true
  | clause :: rest => (clause.eval row).and (evalAll row rest)
@[grind] def evalAny (row : Row) : List Clause → Truth
  | [] => some false
  | clause :: rest => (clause.eval row).or (evalAny row rest)
end

/-- Lists stand in list predicates only, and only scalars are compared or listed. -/
def Predicate.wellTyped : Predicate → Bool
  | .is (.arr _) => false
  | .not (.arr _) => false
  | .is _ | .not _ | .text _ _ => true
  | .gt a | .lt a | .gte a | .lte a => a.isScalar
  | .range lo hi => lo.isScalar && hi.isScalar
  | .isIn values | .notIn values => values.all Value.isScalar

mutual
def Clause.wellTyped : Clause → Bool
  | .empty => true
  | .column _ predicate => predicate.wellTyped
  | .relation _ clause => clause.wellTyped
  | .and clauses | .or clauses => allWellTyped clauses
@[grind] def allWellTyped : List Clause → Bool
  | [] => true
  | clause :: rest => clause.wellTyped && allWellTyped rest
end

/-- The client throws on a clause that is not well typed, and on what else it does not take. -/
def Client.findMany (clause : Clause) (rows : List Row) : Option (List Row) :=
  if clause.wellTyped && client.accepts clause then some (rows.filter fun row => (clause.eval client row).isTrue)
  else none

/-! ## The tree as a condition -/

variable (js : Conversions) (scope : Scope)

/-- What a leaf compares with. -/
def argument (type : FieldType) (value : Value) : Value :=
  match coerceValue js type value with
  | .ok coerced => coerced
  | .error _ => .null

def equalsValue : Value → Option Scalar → Bool
  | .null, v => v.isNone
  | .scalar a, v => v = some a
  | _, _ => false

def listed : Value → Option Scalar → Bool
  | .arr values, v => values.any (equalsValue · v)
  | _, _ => false

/-- A present value that compares with the argument as asked. -/
def comparesWith (test : Scalar → Scalar → Bool) : Value → Option Scalar → Bool
  | .scalar a, some s => test s a
  | _, _ => false

/-- An operator read as a condition: the negated ones are the negations of the others, and a field
without a value is null. -/
def FilterOperator.holds (operator : FilterOperator) (a : Value) (v : Option Scalar) : Bool :=
  match operator with
  | .equals | .on => equalsValue a v
  | .notEquals => !equalsValue a v
  | .contains => v.any (client.textMatches .contains (js.toString a))
  | .startsWith => v.any (client.textMatches .startsWith (js.toString a))
  | .endsWith => v.any (client.textMatches .endsWith (js.toString a))
  | .greaterThan | .after => comparesWith (fun s a => a.lt s) a v
  | .lessThan | .before => comparesWith Scalar.lt a v
  | .greaterOrEqual => comparesWith (fun s a => !s.lt a) a v
  | .lessOrEqual => comparesWith (fun s a => !a.lt s) a v
  | .between =>
    match a with
    | .arr [lo,hi] => comparesWith (fun s a => !s.lt a) lo v && comparesWith (fun s a => !a.lt s) hi v
    | _ => false
  | .inList => listed a v
  | .notInList => !listed a v
  | .isNull => v.isNone
  | .isNotNull => v.isSome

/-- The conditions that the database does not read this way: a negated one on a field without a
value, one that asks for no value behind a missing relation, and a comparison with an object, which
the client takes for a filter of its own. -/
def FilterOperator.misread (operator : FilterOperator) (a : Value) (row : Row) (path : List String) : Bool :=
  match operator with
  | .isNull => !row.reaches path
  | .equals | .on =>
    match a with
    | .null => !row.reaches path
    | .obj entries => row.reaches path && (client.objectFilter entries (row.valueAt path)).isTrue
    | _ => false
  | .notEquals =>
    match a with
    | .scalar _ => (row.valueAt path).isNone
    | .obj entries => !(row.reaches path && client.objectFilter entries (row.valueAt path) = some false)
    | _ => false
  | .notInList =>
    match a with
    | .arr [] => !row.reaches path
    | _ => (row.valueAt path).isNone
  | _ => false

/-- A property of the leaf's operator, argument and path. -/
def FilterLeaf.with {α : Type} (leaf : FilterLeaf) (default : α) (f : FilterOperator → Value → List String → α) : α :=
  match scope.scopedFields leaf.fieldId, scope.columnMap leaf.fieldId with
  | some descriptor, some path => f leaf.operator (argument js descriptor.type leaf.value) (segments path)
  | _, _ => default

def FilterLeaf.holds (row : Row) (leaf : FilterLeaf) : Bool :=
  leaf.with js scope false fun operator a path => operator.holds client js a (row.valueAt path)

def FilterLeaf.misread (row : Row) (leaf : FilterLeaf) : Bool :=
  leaf.with js scope false fun operator a path => operator.misread client a row path

mutual
/-- The tree under a reading of its leaves. -/
def FilterNode.eval (truth : FilterLeaf → Bool) : FilterNode → Bool
  | .leaf leaf => truth leaf
  | .group .and filters => evalEvery truth filters
  | .group .or filters => evalSome truth filters
@[grind] def evalEvery (truth : FilterLeaf → Bool) : List FilterNode → Bool
  | [] => true
  | child :: rest => child.eval truth && evalEvery truth rest
@[grind] def evalSome (truth : FilterLeaf → Bool) : List FilterNode → Bool
  | [] => false
  | child :: rest => child.eval truth || evalSome truth rest
end

mutual
def FilterNode.nonEmpty : FilterNode → Bool
  | .leaf _ => true
  | .group _ filters => !filters.isEmpty && allNonEmpty filters
@[grind] def allNonEmpty : List FilterNode → Bool
  | [] => true
  | child :: rest => child.nonEmpty && allNonEmpty rest
end

/-- The rows the tree is true on. -/
def FilterNode.selects (tree : FilterNode) (row : Row) : Bool := tree.eval (FilterLeaf.holds client js scope row)

/-- The misread leaves do not matter to the tree: it says the same of the row with all of them turned
around. -/
def FilterNode.Undisturbed (tree : FilterNode) (row : Row) : Prop :=
  tree.eval (fun leaf => leaf.holds client js scope row ^^ leaf.misread client js scope row) = tree.selects client js scope row

variable {client js scope}

/-! ## Leaves -/

theorem eval_pathToWhere {path : List String} {predicate : Predicate} {row : Row} (hpath : path ≠ []) :
    ((pathToWhere path predicate).eval client row).isTrue =
      (row.reaches path && (predicate.eval client (row.valueAt path)).isTrue) := by
  induction path generalizing row with
  | nil => exact absurd rfl hpath
  | cons name rest ih =>
    cases rest with
    | nil => simp [pathToWhere,Clause.eval,Row.reaches,Row.valueAt]
    | cons name' rest =>
      simp only [pathToWhere,Clause.eval,Row.reaches,Row.valueAt]
      cases hr : row.relation name with
      | none => rfl
      | some related => exact ih (by simp)

theorem wellTyped_pathToWhere {path : List String} {predicate : Predicate} (hpath : path ≠ []) :
    (pathToWhere path predicate).wellTyped = predicate.wellTyped := by
  induction path with
  | nil => exact absurd rfl hpath
  | cons name rest ih =>
    cases rest with
    | nil => simp [pathToWhere,Clause.wellTyped]
    | cons name' rest => simpa [pathToWhere,Clause.wellTyped] using ih (by simp)

theorem isEmpty_pathToWhere {path : List String} {predicate : Predicate} (hpath : path ≠ []) :
    (pathToWhere path predicate).isEmpty = false := by
  match path, hpath with
  | [_], _ => rfl
  | _ :: _ :: _, _ => rfl

theorem segments_ne_nil (path : String) : segments path ≠ [] := by
  simp [segments,List.splitOn_ne_nil]

theorem valueAt_eq_none {row : Row} {path : List String} (h : row.reaches path = false) : row.valueAt path = none := by
  induction path generalizing row with
  | nil => rfl
  | cons name rest ih =>
    cases rest with
    | nil => cases h
    | cons name' rest =>
      simp only [Row.reaches] at h
      simp only [Row.valueAt]
      cases hr : row.relation name with
      | none => rfl
      | some related =>
        rw [hr] at h
        exact ih h

/-- Scalars in a list compare with a present value the same way on both sides. -/
theorem any_equalsValue {values : List Value} (h : values.all Value.isScalar = true) (v : Option Scalar) :
    values.any (equalsValue · v) = v.any fun s => values.any (Value.isEqual s) := by
  cases v with
  | none =>
    rw [Option.any_none,List.any_eq_false]
    intro a ha
    have hs := List.all_eq_true.mp h a ha
    cases a <;> simp_all [Value.isScalar,equalsValue]
  | some s =>
    rw [Option.any_some]
    congr 1
    funext a
    cases a <;> simp [equalsValue,Value.isEqual]

theorem isTrue_compared {a : Value} (test : Scalar → Scalar → Bool) (v : Option Scalar) :
    (compared test a v).isTrue = comparesWith test a v := by
  cases a <;> cases v <;> simp [compared,comparesWith]

theorem isTrue_map (test : Scalar → Bool) (v : Option Scalar) : Truth.isTrue (v.map test) = v.any test := by
  cases v <;> simp

theorem isTrue_eval_is {a : Value} (htyped : (Predicate.is a).wellTyped = true) (row : Row) (path : List String) :
    (row.reaches path && ((Predicate.is a).eval client (row.valueAt path)).isTrue) =
      (equalsValue a (row.valueAt path) ^^ FilterOperator.equals.misread client a row path) := by
  cases hr : row.reaches path with
  | false => cases a <;> simp_all [valueAt_eq_none hr,equalsValue,FilterOperator.misread]
  | true =>
    cases a with
    | arr values => cases htyped
    | null => simp [Predicate.eval,equalsValue,FilterOperator.misread,hr]
    | obj entries => simp [Predicate.eval,equalsValue,FilterOperator.misread,hr]
    | scalar s => cases row.valueAt path <;> simp [Predicate.eval,equalsValue,FilterOperator.misread]

theorem isTrue_eval_not {a : Value} (htyped : (Predicate.not a).wellTyped = true) (row : Row) (path : List String) :
    (row.reaches path && ((Predicate.not a).eval client (row.valueAt path)).isTrue) =
      (!equalsValue a (row.valueAt path) ^^ FilterOperator.notEquals.misread client a row path) := by
  cases hr : row.reaches path with
  | false => cases a <;> simp_all [valueAt_eq_none hr,equalsValue,FilterOperator.misread,Predicate.wellTyped]
  | true =>
    cases a with
    | arr values => cases htyped
    | null => cases row.valueAt path <;> simp [Predicate.eval,equalsValue,FilterOperator.misread]
    | obj entries =>
      simp only [Predicate.eval,equalsValue,FilterOperator.misread,hr]
      rcases client.objectFilter entries (row.valueAt path) with _ | _ | _ <;> rfl
    | scalar s => cases hv : row.valueAt path <;> simp [Predicate.eval,equalsValue,FilterOperator.misread,hv]

theorem isTrue_eval_isIn {values : List Value} (htyped : values.all Value.isScalar = true) (v : Option Scalar) :
    ((Predicate.isIn values).eval client v).isTrue = values.any (equalsValue · v) := by
  rw [any_equalsValue htyped]
  cases values with
  | nil => cases v <;> simp [Predicate.eval]
  | cons a as => exact isTrue_map _ v

theorem isTrue_eval_notIn {values : List Value} (htyped : values.all Value.isScalar = true) (row : Row) (path : List String) :
    (row.reaches path && ((Predicate.notIn values).eval client (row.valueAt path)).isTrue) =
      (!values.any (equalsValue · (row.valueAt path)) ^^ FilterOperator.notInList.misread client (.arr values) row path) := by
  rw [any_equalsValue htyped]
  cases values with
  | nil => cases hr : row.reaches path <;> cases row.valueAt path <;> simp [Predicate.eval,FilterOperator.misread,hr]
  | cons a as =>
    cases hr : row.reaches path with
    | false => simp [valueAt_eq_none hr,FilterOperator.misread]
    | true => cases hv : row.valueAt path <;> simp [Predicate.eval,FilterOperator.misread,hv]

/-- A comparison means the condition it reads as, turned around where it is misread. -/
theorem isTrue_eval_comparison {operator : FilterOperator} {a : Value} {p : Predicate}
    (h : comparison js operator a = .ok p) (htyped : p.wellTyped = true) (row : Row) (path : List String) :
    (row.reaches path && (p.eval client (row.valueAt path)).isTrue) =
      (operator.holds client js a (row.valueAt path) ^^ operator.misread client a row path) := by
  -- behind a missing relation a comparison with a value is false on both sides
  have hpresent : ∀ b : Bool, (row.valueAt path = none → b = false) → (row.reaches path && b) = b := by
    intro b hb
    cases hr : row.reaches path with
    | true => rfl
    | false => rw [hb (valueAt_eq_none hr)]; rfl
  have hcompared : ∀ test : Scalar → Scalar → Bool, (row.reaches path && (compared test a (row.valueAt path)).isTrue) =
      comparesWith test a (row.valueAt path) := by
    intro test
    rw [hpresent _ fun hv => by rw [hv]; cases a <;> rfl,isTrue_compared]
  have htext : ∀ kind pattern, (row.reaches path && ((Predicate.text kind pattern).eval client (row.valueAt path)).isTrue) =
      (row.valueAt path).any (client.textMatches kind pattern) := by
    intro kind pattern
    rw [hpresent _ fun hv => by rw [hv]; rfl]
    exact isTrue_map _ _
  cases operator with
  | equals => cases h; exact isTrue_eval_is htyped row path
  | on => cases h; exact isTrue_eval_is htyped row path
  | notEquals => cases h; exact isTrue_eval_not htyped row path
  | contains => cases h; exact (htext _ _).trans (Bool.xor_false _).symm
  | startsWith => cases h; exact (htext _ _).trans (Bool.xor_false _).symm
  | endsWith => cases h; exact (htext _ _).trans (Bool.xor_false _).symm
  | greaterThan => cases h; exact (hcompared _).trans (Bool.xor_false _).symm
  | after => cases h; exact (hcompared _).trans (Bool.xor_false _).symm
  | lessThan => cases h; exact (hcompared _).trans (Bool.xor_false _).symm
  | before => cases h; exact (hcompared _).trans (Bool.xor_false _).symm
  | greaterOrEqual => cases h; exact (hcompared _).trans (Bool.xor_false _).symm
  | lessOrEqual => cases h; exact (hcompared _).trans (Bool.xor_false _).symm
  | between =>
    unfold comparison at h
    dsimp only at h
    split at h
    · rename_i lo hi
      cases h
      have hrange : ((Predicate.range lo hi).eval client (row.valueAt path)).isTrue =
          FilterOperator.between.holds client js (.arr [lo,hi]) (row.valueAt path) := by
        simp only [Predicate.eval,FilterOperator.holds,Truth.isTrue_and,isTrue_compared]
      rw [hrange]
      exact (hpresent _ fun hv => by rw [hv]; cases lo <;> rfl).trans (Bool.xor_false _).symm
    · cases h
  | inList =>
    unfold comparison at h
    dsimp only at h
    split at h
    · cases h
      rw [isTrue_eval_isIn htyped]
      refine (hpresent _ fun hv => ?_).trans (Bool.xor_false _).symm
      rw [any_equalsValue htyped,hv]
      rfl
    · cases h
  | notInList =>
    unfold comparison at h
    dsimp only at h
    split at h
    · cases h
      exact isTrue_eval_notIn htyped row path
    · cases h
  | isNull =>
    cases h
    cases hr : row.reaches path with
    | false => simp [FilterOperator.holds,FilterOperator.misread,hr,valueAt_eq_none hr]
    | true => simp [FilterOperator.holds,FilterOperator.misread,hr,Predicate.eval]
  | isNotNull =>
    cases h
    have hsome : ((Predicate.not .null).eval client (row.valueAt path)).isTrue = (row.valueAt path).isSome := Truth.isTrue_some _
    rw [hsome]
    exact (hpresent _ fun hv => by rw [hv]; rfl).trans (Bool.xor_false _).symm

/-- What a leaf's predicate means is the condition the leaf reads as, turned around where it is misread. -/
theorem isTrue_eval_predicate {operator : FilterOperator} {value : Value} {type : FieldType} {p : Predicate}
    (h : buildPrismaPredicate js operator value type = .ok p) (htyped : p.wellTyped = true) (row : Row) (path : List String) :
    (row.reaches path && (p.eval client (row.valueAt path)).isTrue) =
      (operator.holds client js (argument js type value) (row.valueAt path) ^^
        operator.misread client (argument js type value) row path) := by
  cases operator with
  | isNull =>
    have hp : comparison js .isNull (argument js type value) = .ok p := h
    exact isTrue_eval_comparison hp htyped row path
  | isNotNull =>
    have hp : comparison js .isNotNull (argument js type value) = .ok p := h
    exact isTrue_eval_comparison hp htyped row path
  | _ =>
    obtain ⟨a,ha,hp⟩ := bind_eq_ok.mp h
    have harg : argument js type value = a := by rw [argument,ha]
    rw [harg]
    exact isTrue_eval_comparison hp htyped row path

theorem compileLeaf_spec {leaf : FilterLeaf} {clause : Clause} (h : compileLeaf js scope leaf = .ok clause) :
    clause.isEmpty = false ∧ (clause.wellTyped = true → ∀ row, (clause.eval client row).isTrue =
      (leaf.holds client js scope row ^^ leaf.misread client js scope row)) := by
  obtain ⟨descriptor,hdescriptor,h⟩ := require_bind_eq_ok.mp h
  obtain ⟨-,h⟩ := ensure_bind_eq_ok.mp h
  obtain ⟨-,h⟩ := ensure_bind_eq_ok.mp h
  obtain ⟨columnPath,hpath,h⟩ := require_bind_eq_ok.mp h
  obtain ⟨predicate,hpredicate,h⟩ := bind_eq_ok.mp h
  obtain rfl := pure_eq_ok.mp h
  have hne := segments_ne_nil columnPath
  refine ⟨isEmpty_pathToWhere hne,fun htyped row => ?_⟩
  rw [wellTyped_pathToWhere hne] at htyped
  rw [eval_pathToWhere hne,isTrue_eval_predicate hpredicate htyped]
  simp only [FilterLeaf.holds,FilterLeaf.misread,FilterLeaf.with,hdescriptor,hpath]

/-! ## The tree -/

/-- The truth of each leaf as the database has it. -/
def FilterLeaf.selected (client : Client) (js : Conversions) (scope : Scope) (row : Row) (leaf : FilterLeaf) : Bool :=
  leaf.holds client js scope row ^^ leaf.misread client js scope row

theorem isTrue_evalAll (clauses : List Clause) (row : Row) :
    (evalAll client row clauses).isTrue = clauses.all fun clause => (clause.eval client row).isTrue := by
  induction clauses with
  | nil => rfl
  | cons clause rest ih => simp [evalAll,ih]

theorem isTrue_evalAny (clauses : List Clause) (row : Row) :
    (evalAny client row clauses).isTrue = clauses.any fun clause => (clause.eval client row).isTrue := by
  induction clauses with
  | nil => rfl
  | cons clause rest ih => simp [evalAny,ih]

theorem allWellTyped_eq (clauses : List Clause) : allWellTyped clauses = clauses.all Clause.wellTyped := by
  induction clauses with
  | nil => rfl
  | cons clause rest ih => simp [allWellTyped,ih]

theorem evalEvery_eq (truth : FilterLeaf → Bool) (filters : List FilterNode) :
    evalEvery truth filters = filters.all (·.eval truth) := by
  induction filters with
  | nil => rfl
  | cons child rest ih => simp [evalEvery,ih]

theorem evalSome_eq (truth : FilterLeaf → Bool) (filters : List FilterNode) :
    evalSome truth filters = filters.any (·.eval truth) := by
  induction filters with
  | nil => rfl
  | cons child rest ih => simp [evalSome,ih]

/-- All or some of a list, as the connective says. -/
def Combinator.holds {α : Type} (combinator : Combinator) (test : α → Bool) (as : List α) : Bool :=
  match combinator with
  | .and => as.all test
  | .or => as.any test

theorem Combinator.holds_congr {α β : Type} (combinator : Combinator) {f : α → Bool} {g : β → Bool} {as : List α} {bs : List β}
    (h : as.map f = bs.map g) : combinator.holds f as = combinator.holds g bs := by
  cases combinator with
  | and =>
    have hall := congrArg (List.all · id) h
    rw [List.all_map,List.all_map] at hall
    exact hall
  | or =>
    have hany := congrArg (List.any · id) h
    rw [List.any_map,List.any_map] at hany
    exact hany

theorem FilterNode.eval_group (truth : FilterLeaf → Bool) (combinator : Combinator) (filters : List FilterNode) :
    (FilterNode.group combinator filters).eval truth = combinator.holds (·.eval truth) filters := by
  cases combinator with
  | and => exact evalEvery_eq truth filters
  | or => exact evalSome_eq truth filters

variable (client) in
/-- A list of conditions, none of them empty, under one connective. -/
theorem combine_spec (combinator : Combinator) {clauses : List Clause} (hne : clauses ≠ [])
    (hall : ∀ clause ∈ clauses, clause.isEmpty = false) :
    (combine combinator clauses).isEmpty = false ∧
      (combine combinator clauses).wellTyped = clauses.all Clause.wellTyped ∧
      ∀ row, ((combine combinator clauses).eval client row).isTrue =
        combinator.holds (fun clause => (clause.eval client row).isTrue) clauses := by
  match clauses, hne with
  | [clause], _ =>
    refine ⟨hall clause List.mem_cons_self,by simp [combine],fun row => ?_⟩
    cases combinator <;> simp [combine,Combinator.holds]
  | first :: second :: rest, _ =>
    cases combinator with
    | and => exact ⟨rfl,allWellTyped_eq _,fun row => isTrue_evalAll _ row⟩
    | or => exact ⟨rfl,allWellTyped_eq _,fun row => isTrue_evalAny _ row⟩

mutual
/-- The clause of a tree is true where the tree is, its leaves taken as the database takes them. -/
theorem compileFilterGroup_spec : ∀ {tree : FilterNode} {clause : Clause}, tree.nonEmpty = true →
    compileFilterGroup js scope tree = .ok clause → clause.isEmpty = false ∧
      (clause.wellTyped = true → ∀ row, (clause.eval client row).isTrue = tree.eval (FilterLeaf.selected client js scope row))
  | .leaf _, _, _, h => compileLeaf_spec h
  | .group combinator filters, clause, hne, h => by
    rw [FilterNode.nonEmpty,Bool.and_eq_true] at hne
    obtain ⟨compiled,hcompiled,h⟩ := bind_eq_ok.mp h
    obtain rfl := pure_eq_ok.mp h
    obtain ⟨hlength,hempty,htruth⟩ := compileChildren_spec hne.2 hcompiled
    have hself : (compiled.filter fun clause => !clause.isEmpty) = compiled :=
      List.filter_eq_self.mpr fun clause hc => by rw [hempty clause hc]; rfl
    have hfilters : compiled ≠ [] := by
      rintro rfl
      rw [List.length_nil,eq_comm,List.length_eq_zero_iff] at hlength
      rw [hlength] at hne
      exact absurd hne.1 (by simp)
    obtain ⟨hnot,htyped,heval⟩ := combine_spec client combinator hfilters hempty
    rw [hself]
    refine ⟨hnot,fun ht row => ?_⟩
    rw [heval,FilterNode.eval_group]
    exact combinator.holds_congr (htruth (htyped ▸ ht) row)
theorem compileChildren_spec : ∀ {filters : List FilterNode} {clauses : List Clause}, allNonEmpty filters = true →
    compileChildren js scope filters = .ok clauses → clauses.length = filters.length ∧
      (∀ clause ∈ clauses, clause.isEmpty = false) ∧
      (clauses.all Clause.wellTyped = true → ∀ row, clauses.map (fun clause => (clause.eval client row).isTrue) =
        filters.map fun child => child.eval (FilterLeaf.selected client js scope row))
  | [], _, _, h => by
    obtain rfl := Except.ok.inj h
    exact ⟨rfl,by simp,fun _ _ => rfl⟩
  | child :: rest, clauses, hne, h => by
    rw [allNonEmpty,Bool.and_eq_true] at hne
    obtain ⟨clause,hclause,h⟩ := bind_eq_ok.mp h
    obtain ⟨others,hothers,h⟩ := bind_eq_ok.mp h
    obtain rfl := pure_eq_ok.mp h
    obtain ⟨hempty,heval⟩ := compileFilterGroup_spec hne.1 hclause
    obtain ⟨hlength,hempties,hevals⟩ := compileChildren_spec hne.2 hothers
    refine ⟨by simp [hlength],List.forall_mem_cons.mpr ⟨hempty,hempties⟩,fun htyped row => ?_⟩
    rw [List.all_cons,Bool.and_eq_true] at htyped
    rw [List.map_cons,List.map_cons,heval htyped.1,hevals htyped.2]
end

theorem filter_eq_filter_iff {α : Type*} {p q : α → Bool} {as : List α} :
    as.filter p = as.filter q ↔ ∀ a ∈ as, p a = q a := by
  constructor
  · intro h a ha
    have hmem : a ∈ as.filter p ↔ a ∈ as.filter q := by rw [h]
    rw [List.mem_filter,List.mem_filter,and_iff_right ha,and_iff_right ha] at hmem
    exact Bool.eq_iff_iff.mpr hmem
  · exact List.filter_congr

/-- A filter selects the rows it reads as precisely when no row is decided by a misread leaf. -/
theorem findMany_eq_iff {tree : FilterNode} {clause : Clause} {rows selected : List Row} (hne : tree.nonEmpty = true)
    (hcompiled : compileFilterGroup js scope tree = .ok clause) (hfound : client.findMany clause rows = some selected) :
    selected = rows.filter (tree.selects client js scope) ↔ ∀ row ∈ rows, tree.Undisturbed client js scope row := by
  unfold Client.findMany at hfound
  split at hfound
  · rename_i haccepted
    rw [Bool.and_eq_true] at haccepted
    have heval : clause.wellTyped = true → ∀ row, (clause.eval client row).isTrue =
        tree.eval (FilterLeaf.selected client js scope row) := (compileFilterGroup_spec hne hcompiled).2
    rw [← Option.some.inj hfound,filter_eq_filter_iff]
    refine forall₂_congr fun row _ => ?_
    rw [heval haccepted.1]
    rfl
  · cases hfound

/-! Students of a school, one of them without a nationality. -/

def plainConversions : Conversions := ⟨fun _ => "",fun _ => none,fun _ => none⟩

def plainClient : Client := ⟨fun _ _ _ => false,fun _ _ => none,fun _ => true⟩

def studentScope : Scope where
  scopedFields := fun id => if id = "student.identity.nationality" then some ⟨.string,true⟩ else none
  columnMap := fun id => if id = "student.identity.nationality" then some "nationality" else none

def notIrish : FilterNode :=
  .group .and [.leaf ⟨"student.identity.nationality",.notEquals,.scalar (.str "Irish")⟩]

def frenchStudent : Row := .mk [("nationality",some (.str "French"))] []

def unknownStudent : Row := .mk [("nationality",none)] []

def notIrishClause : Clause := .column "nationality" (.not (.scalar (.str "Irish")))

theorem compile_notIrish : compileFilterGroup plainConversions studentScope notIrish = .ok notIrishClause := by
  rfl

theorem findMany_frenchStudent : [frenchStudent] = [frenchStudent].filter (notIrish.selects plainClient plainConversions studentScope) ↔
    ∀ row ∈ [frenchStudent], notIrish.Undisturbed plainClient plainConversions studentScope row :=
  findMany_eq_iff rfl compile_notIrish rfl

/-- A student without a nationality is not Irish, and is not found. -/
theorem not_findMany_eq : ¬ ∀ (client : Client) (js : Conversions) (scope : Scope) (tree : FilterNode) (clause : Clause)
    (rows selected : List Row), tree.nonEmpty = true → compileFilterGroup js scope tree = .ok clause →
    client.findMany clause rows = some selected → selected = rows.filter (tree.selects client js scope) := by
  intro h
  have hwrong := h plainClient plainConversions studentScope notIrish notIrishClause [unknownStudent] [] rfl
    compile_notIrish rfl
  have hselected : notIrish.selects plainClient plainConversions studentScope unknownStudent = true := by decide +kernel
  simp [hselected] at hwrong

end EduPod.Reports
