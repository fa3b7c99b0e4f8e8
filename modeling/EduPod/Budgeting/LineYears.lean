import EduPod.Budgeting.FinancialModels

/-! # The fiscal years of the base-case lines

A line is created within the horizon of its model. When the horizon shrinks, the engine's own lines
beyond it go; custom, overridden and locked ones survive the recompute and stay where they are.
-/
namespace EduPod.Budgeting
open Runs

/-- What the schema of the request accepts as a fiscal year. -/
def CreateLineItemDto.Accepted (dto : CreateLineItemDto) : Prop := 1 ≤ dto.fiscalYear ∧ dto.fiscalYear ≤ 5

def AcceptedYear (command : Command) : Prop := ∀ dto, command = .createCustom dto → dto.Accepted

/-- Every base-case line has its year in the bounds. -/
def YearsWithin (s : Workspace) (bound : ℕ) : Prop :=
  s.lineItems.All fun li => li.scenarioId = none → 1 ≤ li.fiscalYear ∧ li.fiscalYear ≤ bound

def WithinHorizon (s : Workspace) : Prop := YearsWithin s s.model.horizonYears

instance (s : Workspace) : Decidable (WithinHorizon s) :=
  inferInstanceAs (Decidable (∀ r ∈ s.lineItems.rows,
    r.2.scenarioId = none → 1 ≤ r.2.fiscalYear ∧ r.2.fiscalYear ≤ s.model.horizonYears))

/-- The snapshots record base-case lines with years in bounds of their own. -/
def SnapshotsWithin (s : Workspace) (bound : SnapshotPayload → ℕ) : Prop :=
  s.snapshots.All fun snapshot =>
    ∀ row ∈ snapshot.payload.baseLineItems, 1 ≤ row.2.fiscalYear ∧ row.2.fiscalYear ≤ bound snapshot.payload

/-- An update leaves the horizon at or above the years of the base-case lines that survive it. -/
def KeepsInReach (s : Workspace) (command : Command) : Prop :=
  ∀ dto, command = .update dto → s.lineItems.All fun li => li.scenarioId = none → isEngineOwned li = false →
    li.fiscalYear ≤ (nextInputs s dto).horizonYears

/-- Where the year of a base-case line comes from after a request. -/
inductive YearFrom (s : Workspace) (command : Command) (s' : Workspace) : ℕ → Prop
  | kept (q : ℕ × LineItemRow) : q ∈ s.lineItems.rows → q.2.scenarioId = none →
      s'.model.horizonYears = s.model.horizonYears → YearFrom s command s' q.2.fiscalYear
  | survived (dto : UpdateFinancialModelDto) (q : ℕ × LineItemRow) : command = .update dto → q ∈ s.lineItems.rows →
      q.2.scenarioId = none → isEngineOwned q.2 = false → YearFrom s command s' q.2.fiscalYear
  | created (dto : CreateLineItemDto) : command = .createCustom dto → dto.fiscalYear ≤ s'.model.horizonYears →
      YearFrom s command s' dto.fiscalYear
  | derived (year : ℕ) : year ∈ yearsOf s'.model.horizonYears → YearFrom s command s' year
  | recorded (snapshotId : ℕ) (snapshot : FinancialModelSnapshot) (row : ℕ × LineItemRow) :
      s.snapshots.get? snapshotId = some snapshot → row ∈ snapshot.payload.baseLineItems →
      s'.model.horizonYears = snapshot.payload.horizonYears → YearFrom s command s' row.2.fiscalYear

variable {s s' : Workspace} {command : Command} {bound : ℕ}

/-! ## One request -/

theorem mem_built {li : LineItemRow} {inputs : EngineInputs} (h : li ∈ (runEngine inputs).lineItems.map buildLineItemRow) :
    li.fiscalYear ∈ yearsOf inputs.horizonYears := by
  obtain ⟨computed,hcomputed,rfl⟩ := List.mem_map.mp h
  obtain ⟨year,hyear,hline⟩ := mem_lineItems_runEngine.mp hcomputed
  have he : computed.fiscalYear = year := (yearLines_cases hline).1
  change computed.fiscalYear ∈ _
  rwa [he]

theorem yearFrom_modify {lineId : ℕ} {g : LineItemRow → LineItemRow} {r : ℕ × LineItemRow}
    (hscenario : ∀ li, (g li).scenarioId = li.scenarioId) (hyear : ∀ li, (g li).fiscalYear = li.fiscalYear)
    (hr : r ∈ (s.lineItems.modify lineId g).rows) (hbase : r.2.scenarioId = none) :
    YearFrom s command (s.setLineItems (s.lineItems.modify lineId g)) r.2.fiscalYear := by
  obtain ⟨q,hq,rfl⟩ := List.mem_map.mp hr
  by_cases hid : q.1 = lineId
  · rw [if_pos hid] at hbase ⊢
    rw [hyear q.2]
    exact .kept q hq ((hscenario q.2).symm.trans hbase) rfl
  · rw [if_neg hid] at hbase ⊢
    exact .kept q hq hbase rfl

theorem LineEdit.yearFrom {t : Table LineItemRow} (ht : LineEdit s command t) {r : ℕ × LineItemRow} (hr : r ∈ t.rows)
    (hbase : r.2.scenarioId = none) : YearFrom s command (s.setLineItems t) r.2.fiscalYear := by
  cases ht with
  | create dto he hyear hscenario =>
    rcases List.mem_append.mp hr with hr | hr
    · exact .kept r hr hbase rfl
    · rw [List.mem_singleton.mp hr]
      exact .created dto he hyear
  | update lineId dto => exact yearFrom_modify (fun _ => rfl) (fun _ => rfl) hr hbase
  | delete lineId => exact .kept r (List.mem_filter.mp hr).1 hbase rfl
  | reset lineId line derived => exact yearFrom_modify (fun _ => rfl) (fun _ => rfl) hr hbase

theorem yearFrom_update (dto : UpdateFinancialModelDto) {r : ℕ × LineItemRow} (hr : r ∈ (update s dto).lineItems.rows)
    (hbase : r.2.scenarioId = none) : YearFrom s (.update dto) (update s dto) r.2.fiscalYear := by
  simp only [update] at hr
  split at hr
  · rcases Table.mem_insertAll.mp ⟨r,hr,rfl⟩ with ⟨q,hq,he⟩ | hnew
    · obtain ⟨hq,howned⟩ := List.mem_filter.mp hq
      rw [← he] at hbase ⊢
      exact .survived dto q rfl hq hbase (by simpa using howned)
    · exact .derived _ (mem_built hnew)
  · rename_i hrecompute
    refine .kept r hr hbase ?_
    -- an update that does not recompute names no other horizon
    simp only [shouldRecompute,horizonChanged,Bool.or_eq_true,not_or,Bool.not_eq_true] at hrecompute
    change dto.horizonYears.getD s.model.horizonYears = s.model.horizonYears
    cases hhorizon : dto.horizonYears with
    | none => rfl
    | some horizon => simpa [hhorizon] using hrecompute.2

theorem yearFrom_restored {snapshotId : ℕ} {snapshot : FinancialModelSnapshot}
    (hsnapshot : s.snapshots.get? snapshotId = some snapshot) {r : ℕ × LineItemRow}
    (hr : r ∈ (restored s snapshot.payload).lineItems.rows) (hbase : r.2.scenarioId = none) :
    YearFrom s command (restored s snapshot.payload) r.2.fiscalYear := by
  rcases Table.mem_insertAll.mp ⟨r,(List.mem_filter.mp hr).1,rfl⟩ with ⟨q,hq,he⟩ | hnew
  · rw [← he] at hbase
    have hgone := (List.mem_filter.mp hq).2
    simp [hbase] at hgone
  · obtain ⟨row,hrow,he⟩ := List.mem_map.mp hnew
    rw [← he]
    exact .recorded snapshotId snapshot row hsnapshot hrow rfl

theorem step_yearFrom {r : ℕ × LineItemRow} (hr : r ∈ (step s command).lineItems.rows) (hbase : r.2.scenarioId = none) :
    YearFrom s command (step s command) r.2.fiscalYear := by
  have hstep := step_stepped s command
  generalize step s command = s' at hstep hr ⊢
  cases hstep with
  | rejected => exact .kept r hr hbase rfl
  | updated dto he =>
    subst he
    exact yearFrom_update dto hr hbase
  | statusSet => exact .kept r hr hbase rfl
  | lines t _ ht => exact ht.yearFrom hr hbase
  | scenarios => exact .kept r hr hbase rfl
  | scenarioDeleted => exact .kept r (List.mem_filter.mp hr).1 hbase rfl
  | published => exact .kept r hr hbase rfl
  | restored snapshotId snapshot _ hsnapshot => exact yearFrom_restored hsnapshot hr hbase

/-! ## Snapshots -/

theorem mem_baseLineItems {r : ℕ × LineItemRow} (h : r ∈ baseLineItems s) :
    r ∈ s.lineItems.rows ∧ r.2.scenarioId = none := by
  obtain ⟨hmem,hbase⟩ := List.mem_filter.mp ((List.perm_insertionSort _ _).mem_iff.mp h)
  exact ⟨hmem,of_decide_eq_true hbase⟩

theorem step_snapshotsWithin {bound : SnapshotPayload → ℕ} (hs : SnapshotsWithin s bound)
    (h : YearsWithin s (bound (buildSnapshotPayload s))) : SnapshotsWithin (step s command) bound := by
  have hstep := step_stepped s command
  generalize step s command = s' at hstep ⊢
  cases hstep with
  | published executiveSummary =>
    apply Table.All.insert hs
    intro row hrow
    obtain ⟨hmem,hbase⟩ := mem_baseLineItems hrow
    exact h row hmem hbase
  | _ => exact hs

/-! ## Runs -/

theorem create_yearsWithin (dto : CreateFinancialModelDto) (source : SourceDataSnapshot) (eventBudgetIds : List ℕ) :
    WithinHorizon (create dto source eventBudgetIds) := by
  intro r hr _
  rcases Table.mem_insertAll.mp ⟨r,hr,rfl⟩ with ⟨q,hq,-⟩ | hnew
  · cases hq
  · exact mem_yearsOf.mp (mem_built hnew)

theorem create_snapshotsWithin (dto : CreateFinancialModelDto) (source : SourceDataSnapshot) (eventBudgetIds : List ℕ)
    (bound : SnapshotPayload → ℕ) : SnapshotsWithin (create dto source eventBudgetIds) bound :=
  fun _ h => absurd h List.not_mem_nil

/-- A request that takes no horizon away from a line that survives it keeps all years in the horizon,
and no other does. -/
theorem step_withinHorizon_iff (haccepted : AcceptedYear command) (h : WithinHorizon s)
    (hs : SnapshotsWithin s (·.horizonYears)) : WithinHorizon (step s command) ↔ KeepsInReach s command := by
  constructor
  · rintro hnext dto rfl r hr hbase howned
    have hkept : r ∈ (update s dto).lineItems.rows := by
      simp only [update]
      split
      · rw [recomputed,Table.rows_insertAll]
        exact List.mem_append_left _ (List.mem_filter.mpr ⟨hr,by simp [howned]⟩)
      · exact hr
    exact (hnext r hkept hbase).2
  · intro hreach r hr hbase
    have hfrom := step_yearFrom hr hbase
    generalize hyear : r.2.fiscalYear = year at hfrom ⊢
    cases hfrom with
    | kept q hq hqbase hhorizon =>
      rw [hhorizon]
      exact h q hq hqbase
    | survived dto q he hq hqbase howned =>
      subst he
      exact ⟨(h q hq hqbase).1,hreach dto rfl q hq hqbase howned⟩
    | created dto he hle => exact ⟨(haccepted dto he).1,hle⟩
    | derived _ hmem => exact mem_yearsOf.mp hmem
    | recorded snapshotId snapshot row hsnapshot hrow hhorizon =>
      rw [hhorizon]
      exact hs.get? hsnapshot row hrow

theorem step_yearsWithin (haccepted : AcceptedYear command) (h : YearsWithin s bound)
    (hs : SnapshotsWithin s fun _ => bound) (hbound : (step s command).model.horizonYears ≤ bound) :
    YearsWithin (step s command) bound := by
  intro r hr hbase
  have hfrom := step_yearFrom hr hbase
  generalize hyear : r.2.fiscalYear = year at hfrom ⊢
  cases hfrom with
  | kept q hq hqbase => exact h q hq hqbase
  | survived dto q he hq hqbase => exact h q hq hqbase
  | created dto he hle => exact ⟨(haccepted dto he).1,hle.trans hbound⟩
  | derived _ hmem =>
    obtain ⟨hpos,hle⟩ := mem_yearsOf.mp hmem
    exact ⟨hpos,hle.trans hbound⟩
  | recorded snapshotId snapshot row hsnapshot hrow => exact hs.get? hsnapshot row hrow

/-- No base-case line lies beyond the largest horizon its model has had so far. -/
theorem yearsWithin_of_horizons {commands : List Command} (haccepted : ∀ command ∈ commands, AcceptedYear command)
    (h : YearsWithin s bound) (hs : SnapshotsWithin s fun _ => bound)
    (hbound : ∀ t ∈ trace step s commands, t.model.horizonYears ≤ bound) :
    YearsWithin (commands.foldl step s) bound := by
  have hguarded := guarded_and_iff.mpr ⟨guarded_of_forall haccepted,guarded_of_trace hbound⟩
  have hall := trace_invariant (I := fun s => YearsWithin s bound ∧ SnapshotsWithin s fun _ => bound)
    (fun s command hs hg => ⟨step_yearsWithin hg.1 hs.1 hs.2 hg.2,step_snapshotsWithin hs.2 hs.1⟩) ⟨h,hs⟩ hguarded
  exact (hall _ (foldl_mem_trace _ _)).1

/-- In every run of a model: no base-case line ever has a year below 1 or above the largest horizon
of the model so far, and all years stay within the current horizon precisely as long as no update
takes the horizon below a custom, overridden or locked base-case line. -/
theorem trace_withinHorizon_iff (dto : CreateFinancialModelDto) (source : SourceDataSnapshot)
    (eventBudgetIds : List ℕ) (commands : List Command) (haccepted : ∀ command ∈ commands, AcceptedYear command) :
    (∀ bound, (∀ t ∈ trace step (create dto source eventBudgetIds) commands, t.model.horizonYears ≤ bound) →
      YearsWithin (commands.foldl step (create dto source eventBudgetIds)) bound) ∧
    ((∀ t ∈ trace step (create dto source eventBudgetIds) commands, WithinHorizon t) ↔
      Guarded step KeepsInReach (create dto source eventBudgetIds) commands) := by
  constructor
  · intro bound hbound
    have hinit : YearsWithin (create dto source eventBudgetIds) bound := by
      intro r hr hbase
      obtain ⟨hpos,hle⟩ := create_yearsWithin dto source eventBudgetIds r hr hbase
      exact ⟨hpos,hle.trans (hbound _ (head_mem_trace _ _))⟩
    exact yearsWithin_of_horizons haccepted hinit (create_snapshotsWithin dto source eventBudgetIds _) hbound
  · exact trace_invariant_iff_along_of (D := AcceptedYear) (I := WithinHorizon)
      (J := fun s => SnapshotsWithin s (·.horizonYears))
      (fun s command _ h hs => step_snapshotsWithin hs h)
      (fun s command hd h hs => step_withinHorizon_iff hd h hs) haccepted
      (create_yearsWithin dto source eventBudgetIds) (create_snapshotsWithin dto source eventBudgetIds _)

/-! A line is added for the third year of a model, whose horizon is then cut to one year. -/

def threeYearBudget : CreateFinancialModelDto where
  name := "Budget"
  description := none
  fiscalYearStart := CivilDate.firstOfMonth (12 * 2026 + 8)
  horizonYears := 3
  drivers := some smallSchool.drivers

def roofRepair : CreateLineItemDto where
  category := .capital
  subcategory := "building"
  name := "Roof repair"
  fiscalYear := 3
  amount := 40000
  scenarioId := none
  notes := none
  referencesEventBudgetId := none

def addThenShorten : List Command := [.createCustom roofRepair,.update ⟨none,none,some 1,none⟩]

theorem acceptedYear_addThenShorten : ∀ command ∈ addThenShorten, AcceptedYear command := by
  rintro command hcommand dto rfl
  rcases List.mem_cons.mp hcommand with he | hcommand
  · obtain rfl : dto = roofRepair := Command.createCustom.inj he
    exact ⟨by decide,by decide⟩
  · exact absurd (List.mem_singleton.mp hcommand) Command.noConfusion

theorem withinHorizon_addThenShorten :
    (∀ bound, (∀ t ∈ trace step (create threeYearBudget smallSchool.source []) addThenShorten,
      t.model.horizonYears ≤ bound) →
        YearsWithin (addThenShorten.foldl step (create threeYearBudget smallSchool.source [])) bound) ∧
    ((∀ t ∈ trace step (create threeYearBudget smallSchool.source []) addThenShorten, WithinHorizon t) ↔
      Guarded step KeepsInReach (create threeYearBudget smallSchool.source []) addThenShorten) :=
  trace_withinHorizon_iff threeYearBudget smallSchool.source [] addThenShorten acceptedYear_addThenShorten

theorem not_trace_withinHorizon : ¬∀ dto source eventBudgetIds commands, (∀ command ∈ commands, AcceptedYear command) →
    ∀ t ∈ trace step (create dto source eventBudgetIds) commands, WithinHorizon t := by
  intro h
  have hlast := h threeYearBudget smallSchool.source [] addThenShorten acceptedYear_addThenShorten _ (foldl_mem_trace _ _)
  revert hlast
  decide +kernel

end EduPod.Budgeting
