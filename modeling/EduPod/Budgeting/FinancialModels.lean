import EduPod.Foundation.CivilDate
import EduPod.Foundation.Fallible
import EduPod.Foundation.Runs
import EduPod.Foundation.TableBulk
import EduPod.Budgeting.LiveTotals

/-! # One financial model with its lines, scenarios and snapshots

The requests on one model of a tenant. A request that fails leaves everything as it was. The rows
of the model's parent are left out of the tables: they all refer to the one model.
-/
namespace EduPod.Budgeting
open Fallible

inductive FinancialModelStatus
  | draft | published | archived
  deriving DecidableEq, Repr

structure FinancialModel where
  name : String
  description : Option String
  fiscalYearStart : CivilDate
  fiscalYearEnd : CivilDate
  horizonYears : ℕ
  drivers : Drivers
  sourceSnapshot : SourceDataSnapshot
  status : FinancialModelStatus
  currentSnapshotId : Option ℕ
  deriving DecidableEq

structure Scenario where
  name : String
  position : ℕ
  driverOverrides : PartialDrivers
  notes : Option String
  deriving DecidableEq

structure ScenarioPayload where
  id : ℕ
  scenario : Scenario
  mergedDrivers : Drivers
  computed : EngineOutputs
  deriving DecidableEq

/-- What a snapshot freezes. -/
structure SnapshotPayload where
  name : String
  description : Option String
  fiscalYearStart : CivilDate
  fiscalYearEnd : CivilDate
  horizonYears : ℕ
  drivers : Drivers
  scenarios : List ScenarioPayload
  baseLineItems : List (ℕ × LineItemRow)
  totalsByYear : List YearTotals
  perPupilUnitEconomics : List PerPupilEconomics
  sourceSnapshot : SourceDataSnapshot
  deriving DecidableEq

structure FinancialModelSnapshot where
  versionNumber : ℕ
  payload : SnapshotPayload
  executiveSummary : String
  deriving DecidableEq

structure Workspace where
  model : FinancialModel
  lineItems : Table LineItemRow
  scenarios : Table Scenario
  snapshots : Table FinancialModelSnapshot
  eventBudgetIds : List ℕ

inductive BudgetingError
  | fiscalYearOutOfRange | scenarioNotFound | eventBudgetNotFound | lineItemNotFound | cannotDeleteDerivedLine
  | notAnOverride | noDerivedValueAvailable | scenarioCapReached | scenarioPositionTaken
  | cannotPublishArchivedModel | snapshotNotFound
  deriving DecidableEq, Repr

def addYears (date : CivilDate) (years : ℕ) : CivilDate :=
  CivilDate.makeDay (date.monthNumber + 12 * years) date.day date.pos

/-! ## Financial models -/

structure CreateFinancialModelDto where
  name : String
  description : Option String
  fiscalYearStart : CivilDate
  horizonYears : ℕ
  drivers : Option Drivers

def defaultDrivers (source : SourceDataSnapshot) : Drivers :=
  buildDefaultDrivers {
    yearGroupIds := source.studentsByYearGroup.map (·.yearGroupId)
    departmentIds := source.staffByDepartment.map (·.departmentId)
    priorYearDonationsActual := source.priorYearActuals.map (·.donations)
    priorYearGrantsActual := source.priorYearActuals.map (·.grants)
    priorYearDiscountCapturePct := none
    priorYearScholarshipCapturePct := none }

def CreateFinancialModelDto.inputs (dto : CreateFinancialModelDto) (source : SourceDataSnapshot) : EngineInputs where
  drivers := dto.drivers.getD (defaultDrivers source)
  source := source
  horizonYears := dto.horizonYears

/-- `source` is what was captured of the tenant. -/
def create (dto : CreateFinancialModelDto) (source : SourceDataSnapshot) (eventBudgetIds : List ℕ) : Workspace where
  model := {
    name := dto.name
    description := dto.description
    fiscalYearStart := dto.fiscalYearStart
    fiscalYearEnd := addYears dto.fiscalYearStart dto.horizonYears
    horizonYears := dto.horizonYears
    drivers := (dto.inputs source).drivers
    sourceSnapshot := source
    status := .draft
    currentSnapshotId := none }
  lineItems := Table.empty.insertAll ((runEngine (dto.inputs source)).lineItems.map buildLineItemRow)
  scenarios := Table.empty
  snapshots := Table.empty
  eventBudgetIds := eventBudgetIds

structure UpdateFinancialModelDto where
  name : Option String
  description : Option (Option String)
  horizonYears : Option ℕ
  drivers : Option Drivers

/-- The rows the engine owns: derived, unlocked, base-case. -/
def isEngineOwned (li : LineItemRow) : Bool :=
  li.scenarioId = none ∧ li.source = .driverDerived ∧ li.isLocked = false

def horizonChanged (s : Workspace) (dto : UpdateFinancialModelDto) : Bool :=
  dto.horizonYears.any fun horizon => horizon ≠ s.model.horizonYears

def shouldRecompute (s : Workspace) (dto : UpdateFinancialModelDto) : Bool :=
  dto.drivers.isSome || horizonChanged s dto

/-- What the engine runs on when an update recomputes. -/
def nextInputs (s : Workspace) (dto : UpdateFinancialModelDto) : EngineInputs where
  drivers := dto.drivers.getD s.model.drivers
  source := s.model.sourceSnapshot
  horizonYears := dto.horizonYears.getD s.model.horizonYears

/-- Replace the rows the engine owns by those it derives now. -/
def recomputed (lineItems : Table LineItemRow) (inputs : EngineInputs) : Table LineItemRow :=
  (lineItems.deleteWhere isEngineOwned).insertAll ((runEngine inputs).lineItems.map buildLineItemRow)

def updatedModel (s : Workspace) (dto : UpdateFinancialModelDto) : FinancialModel :=
  { s.model with
    name := dto.name.getD s.model.name
    description := dto.description.getD s.model.description
    horizonYears := dto.horizonYears.getD s.model.horizonYears
    fiscalYearEnd := if horizonChanged s dto then addYears s.model.fiscalYearStart (nextInputs s dto).horizonYears
      else s.model.fiscalYearEnd
    drivers := dto.drivers.getD s.model.drivers
    status := if s.model.status = .published then .draft else s.model.status }

def update (s : Workspace) (dto : UpdateFinancialModelDto) : Workspace :=
  { s with
    model := updatedModel s dto
    lineItems := if shouldRecompute s dto then recomputed s.lineItems (nextInputs s dto) else s.lineItems }

def archive (s : Workspace) : Workspace := { s with model := { s.model with status := .archived } }

def unarchive (s : Workspace) : Workspace := { s with model := { s.model with status := .draft } }

/-! ## Line items -/

structure CreateLineItemDto where
  category : LineItemCategory
  subcategory : String
  name : String
  fiscalYear : ℕ
  amount : ℚ
  scenarioId : Option ℕ
  notes : Option String
  referencesEventBudgetId : Option ℕ

def customRow (dto : CreateLineItemDto) : LineItemRow where
  scenarioId := dto.scenarioId
  category := dto.category
  subcategory := dto.subcategory
  name := dto.name
  fiscalYear := dto.fiscalYear
  source := .custom
  amount := storedAmount dto.amount
  isLocked := false
  notes := dto.notes
  referencesEventBudgetId := dto.referencesEventBudgetId

def createCustom (s : Workspace) (dto : CreateLineItemDto) : Except BudgetingError Workspace := do
  ensure (dto.fiscalYear ≤ s.model.horizonYears) .fiscalYearOutOfRange
  ensure (dto.scenarioId.all fun id => (s.scenarios.get? id).isSome) .scenarioNotFound
  ensure (dto.referencesEventBudgetId.all fun id => id ∈ s.eventBudgetIds) .eventBudgetNotFound
  return { s with lineItems := s.lineItems.insert (customRow dto) }

structure UpdateLineItemDto where
  name : Option String
  amount : Option ℚ
  isLocked : Option Bool
  notes : Option (Option String)

/-- Setting the amount of a derived line turns it into an override. -/
def updatedRow (dto : UpdateLineItemDto) (li : LineItemRow) : LineItemRow :=
  { li with
    name := dto.name.getD li.name
    notes := dto.notes.getD li.notes
    isLocked := dto.isLocked.getD li.isLocked
    amount := (dto.amount.map storedAmount).getD li.amount
    source := if dto.amount.isSome ∧ li.source = .driverDerived then .override else li.source }

def updateLineItem (s : Workspace) (lineId : ℕ) (dto : UpdateLineItemDto) : Except BudgetingError Workspace := do
  let _ ← require (s.lineItems.get? lineId) .lineItemNotFound
  return { s with lineItems := s.lineItems.modify lineId (updatedRow dto) }

def deleteLineItem (s : Workspace) (lineId : ℕ) : Except BudgetingError Workspace := do
  let line ← require (s.lineItems.get? lineId) .lineItemNotFound
  ensure (line.source ≠ .driverDerived) .cannotDeleteDerivedLine
  return { s with lineItems := s.lineItems.erase lineId }

/-- The drivers a line belongs to: the model's, or those of its scenario. -/
def resolveMergedDrivers (model : FinancialModel) (scenario : Option Scenario) : Drivers :=
  scenario.elim model.drivers fun scenario => mergeDriverOverrides model.drivers scenario.driverOverrides

def runEngineForScenario (model : FinancialModel) (scenario : Option Scenario) : EngineOutputs :=
  runEngine {
    drivers := resolveMergedDrivers model scenario
    source := model.sourceSnapshot
    horizonYears := model.horizonYears }

def findMatchingComputedLine (computed : List ComputedLineItem) (target : LineItemRow) : Option ComputedLineItem :=
  computed.find? fun li =>
    li.category = target.category ∧ li.subcategory = target.subcategory ∧ li.fiscalYear = target.fiscalYear

def resetRow (derived : ComputedLineItem) (li : LineItemRow) : LineItemRow :=
  { li with source := .driverDerived, amount := storedAmount derived.amount }

def resetToDerived (s : Workspace) (lineId : ℕ) : Except BudgetingError Workspace := do
  let line ← require (s.lineItems.get? lineId) .lineItemNotFound
  ensure (line.source = .override) .notAnOverride
  -- an override of a scenario that is gone has no derived value
  ensure (line.scenarioId.all fun id => (s.scenarios.get? id).isSome) .noDerivedValueAvailable
  let engineOutputs := runEngineForScenario s.model (line.scenarioId.bind s.scenarios.get?)
  let derived ← require (findMatchingComputedLine engineOutputs.lineItems line) .noDerivedValueAvailable
  return { s with lineItems := s.lineItems.modify lineId (resetRow derived) }

/-! ## Scenarios -/

def scenarioMaxPosition : ℕ := 2

def scenarioMaxCount : ℕ := 3

structure CreateScenarioDto where
  name : String
  position : Option ℕ
  driverOverrides : PartialDrivers
  notes : Option String

def takenPositions (s : Workspace) : List ℕ := s.scenarios.rows.map (·.2.position)

def findNextFreePosition (taken : List ℕ) : Option ℕ :=
  (List.range (scenarioMaxPosition + 1)).find? fun i => i ∉ taken

def createScenario (s : Workspace) (dto : CreateScenarioDto) : Except BudgetingError Workspace := do
  ensure (s.scenarios.rows.length < scenarioMaxCount) .scenarioCapReached
  let requestedPosition ← require (dto.position <|> findNextFreePosition (takenPositions s)) .scenarioCapReached
  ensure (requestedPosition ∉ takenPositions s) .scenarioPositionTaken
  return { s with scenarios := s.scenarios.insert ⟨dto.name,requestedPosition,dto.driverOverrides,dto.notes⟩ }

structure UpdateScenarioDto where
  name : Option String
  position : Option ℕ
  driverOverrides : Option PartialDrivers
  notes : Option (Option String)

/-- A scenario that stands at the requested position takes the old one. -/
def swappedScenarios (scenarios : Table Scenario) (scenarioId oldPosition newPosition : ℕ) : Table Scenario :=
  scenarios.mapRows fun id scenario =>
    if id = scenarioId then { scenario with position := newPosition }
    else if scenario.position = newPosition then { scenario with position := oldPosition }
    else scenario

def updatedScenario (dto : UpdateScenarioDto) (scenario : Scenario) : Scenario :=
  { scenario with
    name := dto.name.getD scenario.name
    driverOverrides := dto.driverOverrides.getD scenario.driverOverrides
    notes := dto.notes.getD scenario.notes }

def updateScenario (s : Workspace) (scenarioId : ℕ) (dto : UpdateScenarioDto) : Except BudgetingError Workspace := do
  let existing ← require (s.scenarios.get? scenarioId) .scenarioNotFound
  let scenarios := dto.position.elim s.scenarios fun position =>
    if position ≠ existing.position then swappedScenarios s.scenarios scenarioId existing.position position
    else s.scenarios
  return { s with scenarios := scenarios.modify scenarioId (updatedScenario dto) }

/-- The lines of a deleted scenario go with it. -/
def withoutScenario (s : Workspace) (scenarioId : ℕ) : Workspace :=
  { s with
    scenarios := s.scenarios.erase scenarioId
    lineItems := s.lineItems.deleteWhere fun li => li.scenarioId = some scenarioId }

def deleteScenario (s : Workspace) (scenarioId : ℕ) : Except BudgetingError Workspace := do
  let _ ← require (s.scenarios.get? scenarioId) .scenarioNotFound
  return withoutScenario s scenarioId

/-! ## Snapshots -/

def categoryOrder : LineItemCategory → ℕ
  | .income => 0
  | .staffCosts => 1
  | .operations => 2
  | .capital => 3
  | .reservesAndAdjustments => 4

/-- By fiscal year, then category, then subcategory. -/
def lineLe (a b : ℕ × LineItemRow) : Bool :=
  a.2.fiscalYear < b.2.fiscalYear || (a.2.fiscalYear = b.2.fiscalYear &&
    (categoryOrder a.2.category < categoryOrder b.2.category || (a.2.category = b.2.category &&
      a.2.subcategory ≤ b.2.subcategory)))

def baseLineItems (s : Workspace) : List (ℕ × LineItemRow) :=
  (s.lineItems.select fun li => li.scenarioId = none).insertionSort fun a b => lineLe a b = true

def orderedScenarios (s : Workspace) : List (ℕ × Scenario) :=
  s.scenarios.rows.insertionSort fun a b => a.2.position ≤ b.2.position

def scenarioPayload (model : FinancialModel) (row : ℕ × Scenario) : ScenarioPayload where
  id := row.1
  scenario := row.2
  mergedDrivers := resolveMergedDrivers model (some row.2)
  computed := runEngineForScenario model (some row.2)

def buildSnapshotPayload (s : Workspace) : SnapshotPayload :=
  let aggregated := aggregateLiveLineItems ((baseLineItems s).map Prod.snd) s.model.sourceSnapshot s.model.horizonYears
  { name := s.model.name
    description := s.model.description
    fiscalYearStart := s.model.fiscalYearStart
    fiscalYearEnd := s.model.fiscalYearEnd
    horizonYears := s.model.horizonYears
    drivers := s.model.drivers
    scenarios := (orderedScenarios s).map (scenarioPayload s.model)
    baseLineItems := baseLineItems s
    totalsByYear := aggregated.1
    perPupilUnitEconomics := aggregated.2
    sourceSnapshot := s.model.sourceSnapshot }

def latestVersion (s : Workspace) : ℕ := (s.snapshots.rows.map (·.2.versionNumber)).foldl max 0

def published (s : Workspace) (executiveSummary : String) : Workspace :=
  { s with
    snapshots := s.snapshots.insert ⟨latestVersion s + 1,buildSnapshotPayload s,executiveSummary⟩
    model := { s.model with
      currentSnapshotId := some s.snapshots.next
      status := if s.model.status = .draft then .published else s.model.status } }

def publish (s : Workspace) (executiveSummary : String) : Except BudgetingError Workspace := do
  ensure (s.model.status ≠ .archived) .cannotPublishArchivedModel
  return published s executiveSummary

/-- Base-case lines and scenarios are deleted and written anew; the lines of the scenarios go with
them and are not recorded. -/
def restored (s : Workspace) (payload : SnapshotPayload) : Workspace :=
  { s with
    model := { s.model with
      drivers := payload.drivers
      horizonYears := payload.horizonYears
      sourceSnapshot := payload.sourceSnapshot
      status := .draft }
    lineItems := ((s.lineItems.deleteWhere fun li => li.scenarioId = none).insertAll
      (payload.baseLineItems.map fun row => { row.2 with scenarioId := none })).deleteWhere
        fun li => li.scenarioId.any fun id => (s.scenarios.get? id).isSome
    scenarios := (s.scenarios.deleteWhere fun _ => true).insertAll (payload.scenarios.map (·.scenario)) }

def restore (s : Workspace) (snapshotId : ℕ) : Except BudgetingError Workspace := do
  let snapshot ← require (s.snapshots.get? snapshotId) .snapshotNotFound
  return restored s snapshot.payload

/-! ## Requests -/

inductive Command
  | update (dto : UpdateFinancialModelDto)
  | archive
  | unarchive
  | createCustom (dto : CreateLineItemDto)
  | updateLineItem (lineId : ℕ) (dto : UpdateLineItemDto)
  | deleteLineItem (lineId : ℕ)
  | resetToDerived (lineId : ℕ)
  | createScenario (dto : CreateScenarioDto)
  | updateScenario (scenarioId : ℕ) (dto : UpdateScenarioDto)
  | deleteScenario (scenarioId : ℕ)
  | publish (executiveSummary : String)
  | restore (snapshotId : ℕ)

@[grind] def serve (s : Workspace) : Command → Except BudgetingError Workspace
  | .update dto => .ok (update s dto)
  | .archive => .ok (archive s)
  | .unarchive => .ok (unarchive s)
  | .createCustom dto => createCustom s dto
  | .updateLineItem lineId dto => updateLineItem s lineId dto
  | .deleteLineItem lineId => deleteLineItem s lineId
  | .resetToDerived lineId => resetToDerived s lineId
  | .createScenario dto => createScenario s dto
  | .updateScenario scenarioId dto => updateScenario s scenarioId dto
  | .deleteScenario scenarioId => deleteScenario s scenarioId
  | .publish executiveSummary => publish s executiveSummary
  | .restore snapshotId => restore s snapshotId

def step (s : Workspace) (command : Command) : Workspace := (serve s command).toOption.getD s

/-! ## What a request can do -/

variable {s s' : Workspace} {command : Command}

def Workspace.setStatus (s : Workspace) (status : FinancialModelStatus) : Workspace :=
  { s with model := { s.model with status := status } }

def Workspace.setLineItems (s : Workspace) (t : Table LineItemRow) : Workspace := { s with lineItems := t }

def Workspace.setScenarios (s : Workspace) (t : Table Scenario) : Workspace := { s with scenarios := t }

/-- The requests on single lines. -/
inductive LineEdit (s : Workspace) (command : Command) : Table LineItemRow → Prop
  | create (dto : CreateLineItemDto) : command = .createCustom dto → dto.fiscalYear ≤ s.model.horizonYears →
      (∀ id, dto.scenarioId = some id → (s.scenarios.get? id).isSome) →
      LineEdit s command (s.lineItems.insert (customRow dto))
  | update (lineId : ℕ) (dto : UpdateLineItemDto) : LineEdit s command (s.lineItems.modify lineId (updatedRow dto))
  | delete (lineId : ℕ) : LineEdit s command (s.lineItems.erase lineId)
  | reset (lineId : ℕ) (line : LineItemRow) (derived : ComputedLineItem) : s.lineItems.get? lineId = some line →
      line.source = .override → LineEdit s command (s.lineItems.modify lineId (resetRow derived))

def IsNoUpdate (command : Command) : Prop := ∀ dto, command ≠ .update dto

inductive Stepped (s : Workspace) (command : Command) : Workspace → Prop
  | rejected : IsNoUpdate command → Stepped s command s
  | updated (dto : UpdateFinancialModelDto) : command = .update dto → Stepped s command (update s dto)
  | statusSet (status : FinancialModelStatus) : IsNoUpdate command → Stepped s command (s.setStatus status)
  | lines (t : Table LineItemRow) : IsNoUpdate command → LineEdit s command t → Stepped s command (s.setLineItems t)
  | scenarios (t : Table Scenario) : IsNoUpdate command → (∀ id, (s.scenarios.get? id).isSome → (t.get? id).isSome) →
      Stepped s command (s.setScenarios t)
  | scenarioDeleted (scenarioId : ℕ) : IsNoUpdate command → Stepped s command (withoutScenario s scenarioId)
  | published (executiveSummary : String) : IsNoUpdate command → Stepped s command (published s executiveSummary)
  | restored (snapshotId : ℕ) (snapshot : FinancialModelSnapshot) : IsNoUpdate command →
      s.snapshots.get? snapshotId = some snapshot → Stepped s command (restored s snapshot.payload)

theorem isSome_get?_mapRows {t : Table Scenario} {f : ℕ → Scenario → Scenario} {id : ℕ} (h : (t.get? id).isSome) :
    ((t.mapRows f).get? id).isSome := by
  rw [Table.get?_mapRows]
  simpa using h

theorem isSome_get?_modify {t : Table Scenario} {g : Scenario → Scenario} {id k : ℕ} (h : (t.get? k).isSome) :
    ((t.modify id g).get? k).isSome := by
  rw [Table.modify_eq_mapRows]
  exact isSome_get?_mapRows h

theorem serve_stepped (h : serve s command = .ok s') : Stepped s command s' := by
  cases command with
  | update dto =>
    cases h
    exact .updated dto rfl
  | archive =>
    cases h
    exact .statusSet .archived (fun _ => Command.noConfusion)
  | unarchive =>
    cases h
    exact .statusSet .draft (fun _ => Command.noConfusion)
  | createCustom dto =>
    simp only [serve,createCustom,bind_eq_ok,ensure_eq_ok,pure_eq_ok] at h
    obtain ⟨-,hyear,-,hscenario,-,-,rfl⟩ := h
    refine .lines _ (fun _ => Command.noConfusion) (.create dto rfl hyear fun id hid => ?_)
    simpa [hid] using hscenario
  | updateLineItem lineId dto =>
    simp only [serve,updateLineItem,bind_eq_ok,require_eq_ok,pure_eq_ok] at h
    obtain ⟨-,-,rfl⟩ := h
    exact .lines _ (fun _ => Command.noConfusion) (.update lineId dto)
  | deleteLineItem lineId =>
    simp only [serve,deleteLineItem,bind_eq_ok,require_eq_ok,ensure_eq_ok,pure_eq_ok] at h
    obtain ⟨-,-,-,-,rfl⟩ := h
    exact .lines _ (fun _ => Command.noConfusion) (.delete lineId)
  | resetToDerived lineId =>
    simp only [serve,resetToDerived,bind_eq_ok,require_eq_ok,ensure_eq_ok,pure_eq_ok] at h
    obtain ⟨line,hline,-,hsource,-,-,derived,-,rfl⟩ := h
    exact .lines _ (fun _ => Command.noConfusion) (.reset lineId line derived hline hsource)
  | createScenario dto =>
    simp only [serve,createScenario,bind_eq_ok,require_eq_ok,ensure_eq_ok,pure_eq_ok] at h
    obtain ⟨-,-,position,-,-,-,rfl⟩ := h
    exact .scenarios _ (fun _ => Command.noConfusion) fun id hid => Table.isSome_get?_insert hid _
  | updateScenario scenarioId dto =>
    simp only [serve,updateScenario,bind_eq_ok,require_eq_ok,pure_eq_ok] at h
    obtain ⟨existing,-,rfl⟩ := h
    refine .scenarios _ (fun _ => Command.noConfusion) fun id hid => isSome_get?_modify ?_
    cases dto.position with
    | none => exact hid
    | some position =>
      rw [Option.elim_some]
      split
      · exact isSome_get?_mapRows hid
      · exact hid
  | deleteScenario scenarioId =>
    simp only [serve,deleteScenario,bind_eq_ok,require_eq_ok,pure_eq_ok] at h
    obtain ⟨-,-,rfl⟩ := h
    exact .scenarioDeleted scenarioId (fun _ => Command.noConfusion)
  | publish executiveSummary =>
    simp only [serve,publish,bind_eq_ok,ensure_eq_ok,pure_eq_ok] at h
    obtain ⟨-,-,rfl⟩ := h
    exact .published executiveSummary (fun _ => Command.noConfusion)
  | restore snapshotId =>
    simp only [serve,restore,bind_eq_ok,require_eq_ok,pure_eq_ok] at h
    obtain ⟨snapshot,hsnapshot,rfl⟩ := h
    exact .restored snapshotId snapshot (fun _ => Command.noConfusion) hsnapshot

/-- The case lemma the invariants of a model are proved by. -/
theorem step_stepped (s : Workspace) (command : Command) : Stepped s command (step s command) := by
  unfold step
  cases h : serve s command with
  | ok s' => exact serve_stepped h
  | error e =>
    refine .rejected fun dto he => ?_
    rw [he] at h
    cases h

end EduPod.Budgeting
