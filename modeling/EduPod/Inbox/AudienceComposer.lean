import Mathlib

/-! # Composing an audience

`compose` walks a definition: the operands of a node are walked at the same time, each up to its
next query, and all of them share the set of saved audiences that are being looked up.
-/
namespace EduPod.Inbox

inductive Operator
  | and | or
  deriving DecidableEq, Repr

/-- A definition tree. A `saved_group` leaf carries its `saved_audience_id` if the parameter is a
string that is not empty. -/
inductive AudienceDefinition (κ π : Type)
  | leaf (provider : κ) (params : π)
  | savedGroup (savedAudienceId : Option ℕ)
  | operands (operator : Operator) (operands : List (AudienceDefinition κ π))
  | not (operand : AudienceDefinition κ π)

inductive ComposeError (ε : Type)
  | maxDepthExceeded | definitionInvalid | providerUnknown | providerParamsInvalid | savedAudienceNotFound
  | savedAudienceDefinitionInvalid | savedAudienceCycleDetected
  | resolveFailed (e : ε)
  deriving DecidableEq, Repr

structure AudienceProvider (π ε : Type) where
  paramsSchema : π → Option π
  resolve : π → Except ε (List ℕ)

inductive SavedAudienceKind
  | static | dynamic
  deriving DecidableEq, Repr

/-- A stored audience. Its JSON has a list of users or is a definition, or neither. -/
structure SavedAudienceRow (κ π : Type) where
  kind : SavedAudienceKind
  userIds : Option (List ℕ) := none
  definition : Option (AudienceDefinition κ π) := none

/-- What the tenant has stored and what its providers answer. -/
structure Directory (κ π ε : Type) where
  registry : κ → Option (AudienceProvider π ε)
  findById : ℕ → Option (SavedAudienceRow κ π)
  members : Finset ℕ
  tenantUniverse : Finset ℕ

variable {κ π ε : Type}

/-! ## Parsing -/

mutual
def AudienceDefinition.measureDepth : AudienceDefinition κ π → ℕ
  | .leaf _ _ | .savedGroup _ => 1
  | .operands _ ops => 1 + measureDepths ops
  | .not op => 1 + op.measureDepth
/-- The depth of the deepest operand. -/
@[grind] def measureDepths : List (AudienceDefinition κ π) → ℕ
  | [] => 0
  | op :: ops => max op.measureDepth (measureDepths ops)
end

mutual
/-- The shape the schema asks for: `and` and `or` have two operands at least. -/
def AudienceDefinition.wellFormed : AudienceDefinition κ π → Bool
  | .leaf _ _ | .savedGroup _ => true
  | .operands _ ops => 2 ≤ ops.length && allWellFormed ops
  | .not op => op.wellFormed
@[grind] def allWellFormed : List (AudienceDefinition κ π) → Bool
  | [] => true
  | op :: ops => op.wellFormed && allWellFormed ops
end

def AUDIENCE_DEFINITION_MAX_DEPTH : ℕ := 5

def AUDIENCE_MAX_DEPTH : ℕ := 8

/-- `audienceDefinitionSchema.parse`. -/
def AudienceDefinition.parse (definition : AudienceDefinition κ π) : Option (AudienceDefinition κ π) :=
  if definition.wellFormed && definition.measureDepth ≤ AUDIENCE_DEFINITION_MAX_DEPTH then some definition else none

/-! ## Sets of users -/

def intersect : List (Finset ℕ) → Finset ℕ
  | [] => ∅
  | first :: rest => first.filter fun v => rest.all fun s => v ∈ s

def union (sets : List (Finset ℕ)) : Finset ℕ := sets.foldl (fun result s => result ∪ s) ∅

def complement (tenantUniverse exclude : Finset ℕ) : Finset ℕ := tenantUniverse.filter fun v => v ∉ exclude

/-- What a node makes of the sets its promises deliver; `not` waits for its operand and the universe. -/
inductive Combine
  | and | or | not
  deriving DecidableEq, Repr

def Operator.combine : Operator → Combine
  | .and => .and
  | .or => .or

def Combine.apply : Combine → List (Finset ℕ) → Finset ℕ
  | .and, sets => intersect sets
  | .or, sets => union sets
  | .not, [operand,tenantUniverse] => complement tenantUniverse operand
  | .not, _ => ∅

/-! ## Promises -/

abbrev Outcome (ε : Type) := Except (ComposeError ε) (Finset ℕ)

/-- A walk under way. -/
inductive Task (ε : Type)
  | settled (outcome : Outcome ε)
  /-- A query is under way that settles the promise. -/
  | awaiting (outcome : Outcome ε)
  /-- `findByIdOrThrow` is under way; its definition is walked with `levels` to go. -/
  | finding (id levels : ℕ)
  /-- The stored definition of `id` is being resolved, `finally` removes `id`. -/
  | saved (id : ℕ) (stored : Task ε)
  /-- `Promise.all`. -/
  | all (combine : Combine) (operands : List (Task ε))
  /-- A `Promise.all` that has rejected; its operands go on. -/
  | rejected (reason : ComposeError ε) (operands : List (Task ε))

@[grind] def Task.outcome : Task ε → Option (Outcome ε)
  | .settled outcome => some outcome
  | .rejected reason _ => some (.error reason)
  | _ => none

/-- What a promise that was fulfilled delivers. -/
def Task.value : Task ε → Option (Finset ℕ)
  | .settled (.ok users) => some users
  | _ => none

/-- What the operands run up to their first queries come to, one after the other. -/
@[grind] def startAll {α : Type} (start : α → List ℕ → Task ε × List ℕ) : List α → List ℕ → List (Task ε) × List ℕ
  | [], visited => ([],visited)
  | a :: as, visited =>
    let (t,visited) := start a visited
    let (ts,visited) := startAll start as visited
    (t :: ts,visited)

/-- The part of `resolveLeaf` that runs at once. -/
def resolveLeaf (db : Directory κ π ε) (provider : κ) (params : π) : Task ε :=
  match db.registry provider with
  | none => .settled (.error .providerUnknown)
  | some p =>
    match p.paramsSchema params with
    | none => .settled (.error .providerParamsInvalid)
    | some data =>
      match p.resolve data with
      | .ok userIds => .awaiting (.ok userIds.toFinset)
      | .error e => .awaiting (.error (.resolveFailed e))

/-- The part of `resolveSavedGroup` that runs at once. -/
def resolveSavedGroup (savedAudienceId : Option ℕ) (levels : ℕ) (visited : List ℕ) : Task ε × List ℕ :=
  match savedAudienceId with
  | none => (.settled (.error .providerParamsInvalid),visited)
  | some id =>
    if id ∈ visited then (.settled (.error .savedAudienceCycleDetected),visited)
    else (.finding id levels,id :: visited)

/-- `walk` up to the first queries. It may go `levels` deep: one more than the limit less the depth. -/
@[grind] def walk (db : Directory κ π ε) : ℕ → AudienceDefinition κ π → List ℕ → Task ε × List ℕ
  | 0, _, visited => (.settled (.error .maxDepthExceeded),visited)
  | _ + 1, .leaf provider params, visited => (resolveLeaf db provider params,visited)
  | levels + 1, .savedGroup savedAudienceId, visited => resolveSavedGroup savedAudienceId levels visited
  | levels + 1, .operands operator ops, visited =>
    let (ts,visited) := startAll (walk db levels) ops visited
    (.all operator.combine ts,visited)
  | levels + 1, .not op, visited =>
    let (t,visited) := walk db levels op visited
    (.all .not [t,.awaiting (.ok db.tenantUniverse)],visited)

/-- `resolveStoredDefinition` up to the first queries. -/
def resolveStoredDefinition (db : Directory κ π ε) (row : SavedAudienceRow κ π) (levels : ℕ) (visited : List ℕ) :
    Task ε × List ℕ :=
  match row.kind with
  | .static =>
    match row.userIds with
    | none => (.settled (.error .savedAudienceDefinitionInvalid),visited)
    | some userIds => (.awaiting (.ok (userIds.toFinset.filter (· ∈ db.members))),visited)
  | .dynamic =>
    match row.definition.bind AudienceDefinition.parse with
    | none => (.settled (.error .definitionInvalid),visited)
    | some definition => walk db levels definition visited

def compose (db : Directory κ π ε) (definition : AudienceDefinition κ π) : Task ε × List ℕ :=
  match definition.parse with
  | none => (.settled (.error .definitionInvalid),[])
  | some definition => walk db (AUDIENCE_MAX_DEPTH + 1) definition []

/-- One continuation runs. Whichever promise has what it waits for may be next, and a node hears of
any of the rejections among its operands first. -/
inductive Step (db : Directory κ π ε) : Task ε × List ℕ → Task ε × List ℕ → Prop
  | settle {outcome visited} : Step db (.awaiting outcome,visited) (.settled outcome,visited)
  | missing {id levels visited} : db.findById id = none →
    Step db (.finding id levels,visited) (.settled (.error .savedAudienceNotFound),visited.erase id)
  | found {id levels row t visited visited'} : db.findById id = some row →
    resolveStoredDefinition db row levels visited = (t,visited') →
    Step db (.finding id levels,visited) (.saved id t,visited')
  | finish {id t outcome visited} : t.outcome = some outcome → Step db (.saved id t,visited) (t,visited.erase id)
  | fulfil {combine ts sets visited} : ts.mapM Task.value = some sets →
    Step db (.all combine ts,visited) (.settled (.ok (combine.apply sets)),visited)
  | reject {combine ts t reason visited} : t ∈ ts → t.outcome = some (.error reason) →
    Step db (.all combine ts,visited) (.rejected reason ts,visited)
  | stored {id t t' visited visited'} : Step db (t,visited) (t',visited') →
    Step db (.saved id t,visited) (.saved id t',visited')
  | operand {combine ts ts' t t' visited visited'} : Step db (t,visited) (t',visited') →
    Step db (.all combine (ts ++ t :: ts'),visited) (.all combine (ts ++ t' :: ts'),visited')
  | background {reason ts ts' t t' visited visited'} : Step db (t,visited) (t',visited') →
    Step db (.rejected reason (ts ++ t :: ts'),visited) (.rejected reason (ts ++ t' :: ts'),visited')

/-- Any number of continuations run, in any order. -/
abbrev Reaches (db : Directory κ π ε) : Task ε × List ℕ → Task ε × List ℕ → Prop := Relation.ReflTransGen (Step db)

/-! ## What a definition means -/

/-- The definition a dynamic audience stands for. -/
def storedDefinition (db : Directory κ π ε) (id : ℕ) : Option (AudienceDefinition κ π) :=
  (db.findById id).bind fun row =>
    match row.kind with
    | .static => none
    | .dynamic => row.definition.bind AudienceDefinition.parse

/-- `id` is a leaf of the tree. -/
inductive Uses (id : ℕ) : AudienceDefinition κ π → Prop
  | here : Uses id (.savedGroup (some id))
  | operand {operator ops op} : op ∈ ops → Uses id op → Uses id (.operands operator ops)
  | not {op} : Uses id op → Uses id (.not op)

/-- The definition stored for `a` uses `b`. -/
def RefersTo (db : Directory κ π ε) (a b : ℕ) : Prop := ∃ d, storedDefinition db a = some d ∧ Uses b d

/-- A saved audience the tree comes to refers to itself, directly or transitively. -/
def Cyclic (db : Directory κ π ε) (definition : AudienceDefinition κ π) : Prop :=
  ∃ a b, Uses a definition ∧ Relation.ReflTransGen (RefersTo db) a b ∧ Relation.TransGen (RefersTo db) b b

/-- The users a definition stands for. -/
inductive Denotes (db : Directory κ π ε) : AudienceDefinition κ π → Set ℕ → Prop
  | leaf {provider params p data userIds} : db.registry provider = some p → p.paramsSchema params = some data →
    p.resolve data = .ok userIds → Denotes db (.leaf provider params) {u | u ∈ userIds}
  | static {id row userIds} : db.findById id = some row → row.kind = .static → row.userIds = some userIds →
    Denotes db (.savedGroup (some id)) {u | u ∈ userIds ∧ u ∈ db.members}
  | dynamic {id definition users} : storedDefinition db id = some definition → Denotes db definition users →
    Denotes db (.savedGroup (some id)) users
  | and {ops} (sets : AudienceDefinition κ π → Set ℕ) : (∀ op ∈ ops, Denotes db op (sets op)) →
    Denotes db (.operands .and ops) {u | ∀ op ∈ ops, u ∈ sets op}
  | or {ops} (sets : AudienceDefinition κ π → Set ℕ) : (∀ op ∈ ops, Denotes db op (sets op)) →
    Denotes db (.operands .or ops) {u | ∃ op ∈ ops, u ∈ sets op}
  | not {op users} : Denotes db op users → Denotes db (.not op) {u | u ∈ db.tenantUniverse ∧ u ∉ users}

/-! ## Where a walk can fail, and what it looks up -/

/-- The errors a walk meets if it follows every branch until an audience is used within itself. -/
@[grind] def failures (db : Directory κ π ε) : ℕ → List ℕ → AudienceDefinition κ π → List (ComposeError ε)
  | 0, _, _ => [.maxDepthExceeded]
  | _ + 1, _, .leaf provider params =>
    match resolveLeaf db provider params with
    | .settled (.error e) | .awaiting (.error e) => [e]
    | _ => []
  | _ + 1, _, .savedGroup none => [.providerParamsInvalid]
  | levels + 1, stack, .savedGroup (some id) =>
    if id ∈ stack then [.savedAudienceCycleDetected]
    else
      match db.findById id with
      | none => [.savedAudienceNotFound]
      | some row =>
        match row.kind with
        | .static => if row.userIds.isNone then [.savedAudienceDefinitionInvalid] else []
        | .dynamic =>
          match row.definition.bind AudienceDefinition.parse with
          | none => [.definitionInvalid]
          | some definition => failures db levels (id :: stack) definition
  | levels + 1, stack, .operands _ ops => ops.flatMap (failures db levels stack)
  | levels + 1, stack, .not op => failures db levels stack op

/-- The saved audiences a walk looks up if it follows every branch, each as often as it comes. -/
@[grind] def lookups (db : Directory κ π ε) : ℕ → AudienceDefinition κ π → List ℕ
  | 0, _ => []
  | _ + 1, .leaf _ _ | _ + 1, .savedGroup none => []
  | levels + 1, .savedGroup (some id) => id :: ((storedDefinition db id).elim [] (lookups db levels))
  | levels + 1, .operands _ ops => ops.flatMap (lookups db levels)
  | levels + 1, .not op => lookups db levels op

def composeFailures (db : Directory κ π ε) (definition : AudienceDefinition κ π) : List (ComposeError ε) :=
  definition.parse.elim [.definitionInvalid] (failures db (AUDIENCE_MAX_DEPTH + 1) [])

def composeLookups (db : Directory κ π ε) (definition : AudienceDefinition κ π) : List ℕ :=
  definition.parse.elim [] (lookups db (AUDIENCE_MAX_DEPTH + 1))

end EduPod.Inbox
