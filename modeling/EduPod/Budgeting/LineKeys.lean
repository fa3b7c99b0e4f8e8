import EduPod.Budgeting.FinancialModels

/-! # One line for each key

In the base case a category, subcategory and fiscal year should name one line besides the custom
ones. A recompute deletes the rows the engine owns and writes all that it derives, also those whose
overridden or locked row it has kept.
-/
namespace EduPod.Budgeting
open Runs

abbrev LineKey := LineItemCategory × String × ℕ

def lineKey (li : LineItemRow) : LineKey := (li.category,li.subcategory,li.fiscalYear)

def computedKey (li : ComputedLineItem) : LineKey := (li.category,li.subcategory,li.fiscalYear)

/-- A base-case line that is not custom. -/
def isDerivedBase (li : LineItemRow) : Bool := li.scenarioId = none ∧ li.source ≠ .custom

def keysOf (rows : List LineItemRow) : List LineKey := (rows.filter isDerivedBase).map lineKey

def Workspace.lineKeys (s : Workspace) : List LineKey := keysOf (s.lineItems.rows.map Prod.snd)

/-- At most one line for each key. -/
def Unique (s : Workspace) : Prop := s.lineKeys.Nodup

instance (s : Workspace) : Decidable (Unique s) := inferInstanceAs (Decidable s.lineKeys.Nodup)

def engineKeys (inputs : EngineInputs) : List LineKey := (runEngine inputs).lineItems.map computedKey

/-- A row that a recompute keeps: an override, or a derived line that is locked. -/
def isPreserved (li : LineItemRow) : Bool := isDerivedBase li && !isEngineOwned li

/-- The engine derives one line for each key, and none for the key of a row that stays. -/
def Fresh (s : Workspace) (inputs : EngineInputs) : Prop :=
  (engineKeys inputs).Nodup ∧ ∀ r ∈ s.lineItems.rows, isPreserved r.2 = true → lineKey r.2 ∉ engineKeys inputs

/-- Whatever the request recomputes is fresh. -/
def RecomputesFresh (s : Workspace) (command : Command) : Prop :=
  ∀ dto, command = .update dto → shouldRecompute s dto = true → Fresh s (nextInputs s dto)

/-- Restoring any snapshot writes one line for each key. -/
def SnapshotsUnique (s : Workspace) : Prop :=
  s.snapshots.All fun snapshot =>
    (keysOf (snapshot.payload.baseLineItems.map fun row => { row.2 with scenarioId := none })).Nodup

variable {s s' : Workspace} {rows rows' : List LineItemRow} {inputs : EngineInputs} {command : Command}

/-! ## Keys of lists of rows -/

theorem keysOf_append (rows rows' : List LineItemRow) : keysOf (rows ++ rows') = keysOf rows ++ keysOf rows' := by
  rw [keysOf,List.filter_append,List.map_append]
  rfl

theorem keysOf_sublist (h : rows.Sublist rows') : (keysOf rows).Sublist (keysOf rows') := (h.filter _).map _

theorem keysOf_perm (h : rows.Perm rows') : (keysOf rows).Perm (keysOf rows') := (h.filter _).map _

/-- Rewriting rows in a way that keeps what tells them apart. -/
theorem keysOf_map {rows : List (ℕ × LineItemRow)} {f : ℕ × LineItemRow → LineItemRow}
    (h : ∀ r ∈ rows, isDerivedBase (f r) = isDerivedBase r.2 ∧ lineKey (f r) = lineKey r.2) :
    keysOf (rows.map f) = keysOf (rows.map Prod.snd) := by
  have hfilter : rows.filter (isDerivedBase ∘ f) = rows.filter (isDerivedBase ∘ Prod.snd) :=
    List.filter_congr fun r hr => (h r hr).1
  rw [keysOf,keysOf,List.filter_map,List.filter_map,List.map_map,List.map_map,hfilter]
  exact List.map_congr_left fun r hr => (h r (List.mem_filter.mp hr).1).2

theorem keysOf_eq_nil (h : ∀ li ∈ rows, isDerivedBase li = false) : keysOf rows = [] := by
  rw [keysOf,List.filter_eq_nil_iff.mpr fun li hli => by rw [h li hli]; exact Bool.false_ne_true]
  rfl

theorem keysOf_built (lineItems : List ComputedLineItem) :
    keysOf (lineItems.map buildLineItemRow) = lineItems.map computedKey := by
  rw [keysOf,List.filter_eq_self.mpr,List.map_map]
  · rfl
  · intro li hli
    obtain ⟨computed,-,rfl⟩ := List.mem_map.mp hli
    rfl

/-! ## Requests on single lines -/

theorem lineKeys_modify {lineId : ℕ} {g : LineItemRow → LineItemRow}
    (h : ∀ r ∈ s.lineItems.rows, r.1 = lineId → isDerivedBase (g r.2) = isDerivedBase r.2)
    (hkey : ∀ li, lineKey (g li) = lineKey li) :
    (s.setLineItems (s.lineItems.modify lineId g)).lineKeys = s.lineKeys := by
  have hvalues : (s.lineItems.modify lineId g).rows.map Prod.snd =
      s.lineItems.rows.map fun r => if r.1 = lineId then g r.2 else r.2 := by
    rw [Table.modify,List.map_map]
    apply List.map_congr_left
    intro r _
    by_cases hid : r.1 = lineId <;> simp [hid]
  change keysOf ((s.lineItems.modify lineId g).rows.map Prod.snd) = _
  rw [hvalues]
  apply keysOf_map
  intro r hr
  by_cases hid : r.1 = lineId
  · rw [if_pos hid]
    exact ⟨h r hr hid,hkey r.2⟩
  · rw [if_neg hid]
    exact ⟨rfl,rfl⟩

theorem isDerivedBase_updatedRow (dto : UpdateLineItemDto) (li : LineItemRow) :
    isDerivedBase (updatedRow dto li) = isDerivedBase li := by
  unfold isDerivedBase updatedRow
  by_cases h : dto.amount.isSome ∧ li.source = .driverDerived
  · simp [h]
  · simp [h]

/-- No request on a single line makes two lines of one key out of one. -/
theorem LineEdit.unique {t : Table LineItemRow} (ht : LineEdit s command t) (h : Unique s) :
    Unique (s.setLineItems t) := by
  cases ht with
  | create dto =>
    have hnone : keysOf [customRow dto] = [] := by
      apply keysOf_eq_nil
      intro li hli
      rw [List.mem_singleton.mp hli]
      simp [isDerivedBase,customRow]
    have hkeys : (s.setLineItems (s.lineItems.insert (customRow dto))).lineKeys = s.lineKeys := by
      change keysOf ((s.lineItems.rows ++ [(s.lineItems.next,customRow dto)]).map Prod.snd) = _
      rw [List.map_append,keysOf_append]
      exact (congrArg _ hnone).trans (List.append_nil _)
    rw [Unique,hkeys]
    exact h
  | update lineId dto =>
    rw [Unique,lineKeys_modify (fun r _ _ => isDerivedBase_updatedRow dto r.2) fun _ => rfl]
    exact h
  | delete lineId => exact (keysOf_sublist (List.filter_sublist.map Prod.snd)).nodup h
  | reset lineId line derived hline hsource =>
    have hkeys : (s.setLineItems (s.lineItems.modify lineId (resetRow derived))).lineKeys = s.lineKeys := by
      apply lineKeys_modify
      · intro r hr hid
        have hget := Table.get?_of_row hr
        rw [hid,hline] at hget
        obtain rfl := Option.some.inj hget
        simp [isDerivedBase,resetRow,hsource]
      · exact fun _ => rfl
    rw [Unique,hkeys]
    exact h

/-! ## Recomputing -/

theorem lineKeys_recomputed (s : Workspace) (inputs : EngineInputs) :
    (s.setLineItems (recomputed s.lineItems inputs)).lineKeys =
      keysOf ((s.lineItems.rows.map Prod.snd).filter fun li => !isEngineOwned li) ++ engineKeys inputs := by
  change keysOf ((recomputed s.lineItems inputs).rows.map Prod.snd) = _
  rw [recomputed,Table.values_insertAll,Table.values_deleteWhere,keysOf_append,keysOf_built]
  rfl

theorem mem_keysOf_preserved {key : LineKey} :
    key ∈ keysOf ((s.lineItems.rows.map Prod.snd).filter fun li => !isEngineOwned li) ↔
      ∃ r ∈ s.lineItems.rows, isPreserved r.2 = true ∧ lineKey r.2 = key := by
  simp only [keysOf,List.filter_filter,List.mem_map,List.mem_filter,isPreserved]
  constructor
  · rintro ⟨_,⟨⟨r,hr,rfl⟩,hp⟩,hk⟩
    exact ⟨r,hr,hp,hk⟩
  · rintro ⟨r,hr,hp,hk⟩
    exact ⟨r.2,⟨⟨r,hr,rfl⟩,hp⟩,hk⟩

/-- A recompute leaves one line for each key precisely when it is fresh. -/
theorem unique_recomputed_iff (h : Unique s) (inputs : EngineInputs) :
    Unique (s.setLineItems (recomputed s.lineItems inputs)) ↔ Fresh s inputs := by
  have hkept : (keysOf ((s.lineItems.rows.map Prod.snd).filter fun li => !isEngineOwned li)).Nodup :=
    (keysOf_sublist List.filter_sublist).nodup h
  rw [Unique,lineKeys_recomputed,List.nodup_append,Fresh]
  constructor
  · rintro ⟨-,hengine,hdisjoint⟩
    refine ⟨hengine,fun r hr hp hmem => ?_⟩
    exact hdisjoint _ (mem_keysOf_preserved.mpr ⟨r,hr,hp,rfl⟩) _ hmem rfl
  · rintro ⟨hengine,hfresh⟩
    refine ⟨hkept,hengine,fun key hkey key' hkey' he => ?_⟩
    obtain ⟨r,hr,hp,rfl⟩ := mem_keysOf_preserved.mp hkey
    exact hfresh r hr hp (he ▸ hkey')

/-! ## Snapshots -/

theorem keysOf_baseLineItems (s : Workspace) :
    (keysOf ((baseLineItems s).map fun row => { row.2 with scenarioId := none })).Perm s.lineKeys := by
  have hself : keysOf ((baseLineItems s).map fun row => { row.2 with scenarioId := none }) =
      keysOf ((baseLineItems s).map Prod.snd) := by
    apply keysOf_map
    intro r hr
    have hmem := (List.mem_filter.mp ((List.perm_insertionSort _ _).mem_iff.mp hr)).2
    rw [decide_eq_true_eq] at hmem
    exact ⟨by simp [isDerivedBase,hmem],rfl⟩
  have hbase : keysOf ((s.lineItems.select fun li => li.scenarioId = none).map Prod.snd) = s.lineKeys := by
    change keysOf ((s.lineItems.rows.filter _).map Prod.snd) = keysOf (s.lineItems.rows.map Prod.snd)
    rw [keysOf,keysOf,List.filter_map,List.filter_map,List.filter_filter]
    congr 2
    apply List.filter_congr
    intro r _
    simp [isDerivedBase]
    exact fun h _ => h
  rw [hself,← hbase]
  exact keysOf_perm ((List.perm_insertionSort _ _).map _)

theorem lineKeys_restored (s : Workspace) (payload : SnapshotPayload) : (restored s payload).lineKeys =
    keysOf (payload.baseLineItems.map fun row => { row.2 with scenarioId := none }) := by
  change keysOf ((restored s payload).lineItems.rows.map Prod.snd) = _
  rw [restored,Table.values_deleteWhere,Table.values_insertAll,Table.values_deleteWhere,List.filter_append,keysOf_append,
    keysOf_eq_nil,List.nil_append]
  · congr 1
    rw [List.filter_eq_self]
    intro li hli
    obtain ⟨row,-,rfl⟩ := List.mem_map.mp hli
    rfl
  · intro li hli
    obtain ⟨hmem,-⟩ := List.mem_filter.mp hli
    have hnot := (List.mem_filter.mp hmem).2
    simp only [Bool.not_eq_true',decide_eq_false_iff_not] at hnot
    simp [isDerivedBase,hnot]

/-! ## Runs -/

theorem step_snapshotsUnique (s : Workspace) (command : Command) (h : Unique s) (hs : SnapshotsUnique s) :
    SnapshotsUnique (step s command) := by
  have hstep := step_stepped s command
  generalize step s command = s' at hstep ⊢
  cases hstep with
  | published executiveSummary =>
    apply Table.All.insert hs
    exact (keysOf_baseLineItems s).nodup_iff.mpr h
  | _ => exact hs

theorem step_unique_iff (s : Workspace) (command : Command) (h : Unique s) (hs : SnapshotsUnique s) :
    Unique (step s command) ↔ RecomputesFresh s command := by
  have hstep := step_stepped s command
  generalize step s command = s' at hstep ⊢
  have hidle : ∀ {command}, IsNoUpdate command → RecomputesFresh s command := fun hno dto he => absurd he (hno dto)
  cases hstep with
  | rejected hno => exact iff_of_true h (hidle hno)
  | updated dto he =>
    have hguard : RecomputesFresh s command ↔ (shouldRecompute s dto = true → Fresh s (nextInputs s dto)) := by
      constructor
      · exact fun h => h dto he
      · intro h dto' he'
        cases he.symm.trans he'
        exact h
    rw [hguard]
    cases hre : shouldRecompute s dto with
    | false =>
      have hkeys : (update s dto).lineKeys = s.lineKeys := by
        simp only [update,Workspace.lineKeys,hre,Bool.false_eq_true,if_false]
      rw [Unique,hkeys]
      exact iff_of_true h fun hf => absurd hf Bool.false_ne_true
    | true =>
      have hkeys : (update s dto).lineKeys = (s.setLineItems (recomputed s.lineItems (nextInputs s dto))).lineKeys := by
        simp only [update,Workspace.lineKeys,Workspace.setLineItems,hre,if_true]
      rw [Unique,hkeys]
      exact (unique_recomputed_iff h _).trans ⟨fun hf _ => hf,fun hf => hf rfl⟩
  | statusSet status hno => exact iff_of_true h (hidle hno)
  | lines t hno ht => exact iff_of_true (ht.unique h) (hidle hno)
  | scenarios t hno => exact iff_of_true h (hidle hno)
  | scenarioDeleted scenarioId hno =>
    refine iff_of_true ?_ (hidle hno)
    exact (keysOf_sublist (List.filter_sublist.map Prod.snd)).nodup h
  | published executiveSummary hno => exact iff_of_true h (hidle hno)
  | restored snapshotId snapshot hno hsnapshot =>
    refine iff_of_true ?_ (hidle hno)
    rw [Unique,lineKeys_restored]
    exact hs.get? hsnapshot

theorem lineKeys_create (dto : CreateFinancialModelDto) (source : SourceDataSnapshot) (eventBudgetIds : List ℕ) :
    (create dto source eventBudgetIds).lineKeys = engineKeys (dto.inputs source) := by
  change keysOf ((Table.empty.insertAll _).rows.map Prod.snd) = _
  rw [Table.values_insertAll,keysOf_append,keysOf_built]
  rfl

/-- Along every run of a model each key names one line precisely when the engine derives each key
once and no recompute derives the key of a row that it keeps. -/
theorem trace_unique_iff (dto : CreateFinancialModelDto) (source : SourceDataSnapshot) (eventBudgetIds : List ℕ)
    (commands : List Command) :
    (∀ t ∈ trace step (create dto source eventBudgetIds) commands, Unique t) ↔
      (engineKeys (dto.inputs source)).Nodup ∧
        Guarded step RecomputesFresh (create dto source eventBudgetIds) commands := by
  have hcreate : Unique (create dto source eventBudgetIds) ↔ (engineKeys (dto.inputs source)).Nodup := by
    rw [Unique,lineKeys_create]
  have hsnapshots : SnapshotsUnique (create dto source eventBudgetIds) := fun _ h => absurd h List.not_mem_nil
  constructor
  · intro h
    have hinit := h _ (head_mem_trace _ _)
    exact ⟨hcreate.mp hinit,(trace_invariant_iff_along step_snapshotsUnique step_unique_iff hinit hsnapshots).mp h⟩
  · rintro ⟨hengine,hguarded⟩
    exact (trace_invariant_iff_along step_snapshotsUnique step_unique_iff (hcreate.mpr hengine) hsnapshots).mpr hguarded

/-! The salaries of a small school are set to 7000.00 by hand, then the drivers are saved again. -/

def smallBudget : CreateFinancialModelDto where
  name := "Budget"
  description := none
  fiscalYearStart := CivilDate.firstOfMonth (12 * 2026 + 8)
  horizonYears := 1
  drivers := some smallSchool.drivers

def overrideThenRecompute : List Command :=
  [.updateLineItem 4 ⟨none,some 7000,none,none⟩,.update ⟨none,none,none,some smallSchool.drivers⟩]

theorem not_trace_unique : ¬∀ dto source eventBudgetIds commands,
    ∀ t ∈ trace step (create dto source eventBudgetIds) commands, Unique t := by
  intro h
  have hlast := h smallBudget smallSchool.source [] overrideThenRecompute _ (foldl_mem_trace _ _)
  revert hlast
  decide +kernel

end EduPod.Budgeting
