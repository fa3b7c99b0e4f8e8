import EduPod.Budgeting.FinancialModels

/-! # Restoring a published snapshot

What a user can edit is compared as it is at publication and once the snapshot is restored. The
rows are written anew, so their identifiers do not count and neither does their order.
-/
namespace EduPod.Budgeting
open Fallible Runs

/-- What a line says, wherever it is tagged. -/
def lineContent (li : LineItemRow) : LineItemRow := { li with scenarioId := none }

def linesOf (s : Workspace) (scenarioId : Option ℕ) : Multiset LineItemRow :=
  ((s.lineItems.select fun li => li.scenarioId = scenarioId).map fun r => lineContent r.2)

/-- Everything of a model that the user can edit, a scenario with the lines tagged with it. -/
structure Editable where
  drivers : Drivers
  horizonYears : ℕ
  fiscalYearEnd : CivilDate
  baseLines : Multiset LineItemRow
  scenarios : Multiset (Scenario × Multiset LineItemRow)

def editable (s : Workspace) : Editable where
  drivers := s.model.drivers
  horizonYears := s.model.horizonYears
  fiscalYearEnd := s.model.fiscalYearEnd
  baseLines := linesOf s none
  scenarios := s.scenarios.rows.map fun r => (r.2,linesOf s (some r.1))

/-- A line is tagged with a scenario that exists. -/
def Tagged (s : Workspace) : Prop :=
  s.lineItems.All fun li => ∀ id, li.scenarioId = some id → (s.scenarios.get? id).isSome

variable {s s' : Workspace} {payload : SnapshotPayload}

/-! ## Tags -/

theorem scenarioId_restored {r : ℕ × LineItemRow} (h : Tagged s) (hr : r ∈ (restored s payload).lineItems.rows) :
    r.2.scenarioId = none := by
  cases htag : r.2.scenarioId with
  | none => rfl
  | some id =>
    obtain ⟨hmem,hkeep⟩ := List.mem_filter.mp hr
    rcases Table.mem_insertAll.mp ⟨r,hmem,rfl⟩ with ⟨q,hq,he⟩ | hnew
    · have hsome := h q (List.mem_filter.mp hq).1 id (he ▸ htag)
      simp [htag,hsome] at hkeep
    · obtain ⟨row,-,he⟩ := List.mem_map.mp hnew
      rw [← he] at htag
      cases htag

theorem Tagged.modify {lineId : ℕ} {g : LineItemRow → LineItemRow} (h : Tagged s)
    (hg : ∀ li, (g li).scenarioId = li.scenarioId) : Tagged (s.setLineItems (s.lineItems.modify lineId g)) := by
  rintro r hr id hid
  obtain ⟨q,hq,rfl⟩ := List.mem_map.mp hr
  apply h q hq id
  by_cases he : q.1 = lineId
  · rw [if_pos he] at hid
    exact (hg q.2).symm.trans hid
  · rwa [if_neg he] at hid

theorem LineEdit.tagged {command : Command} {t : Table LineItemRow} (ht : LineEdit s command t) (h : Tagged s) :
    Tagged (s.setLineItems t) := by
  cases ht with
  | create dto _ _ hscenario => exact Table.All.insert h hscenario
  | update lineId dto => exact h.modify fun _ => rfl
  | delete lineId => exact Table.All.erase h lineId
  | reset lineId line derived => exact h.modify fun _ => rfl

theorem step_tagged (s : Workspace) (command : Command) (h : Tagged s) : Tagged (step s command) := by
  have hstep := step_stepped s command
  generalize step s command = s' at hstep ⊢
  cases hstep with
  | rejected => exact h
  | updated dto =>
    intro r hr id hid
    simp only [update] at hr ⊢
    split at hr
    · rcases Table.mem_insertAll.mp ⟨r,hr,rfl⟩ with ⟨q,hq,he⟩ | hnew
      · exact h q (List.mem_filter.mp hq).1 id (he ▸ hid)
      · obtain ⟨li,-,he⟩ := List.mem_map.mp hnew
        rw [← he] at hid
        cases hid
    · exact h r hr id hid
  | statusSet => exact h
  | lines t _ ht => exact ht.tagged h
  | scenarios t _ ht => exact fun r hr id hid => ht id (h r hr id hid)
  | scenarioDeleted scenarioId =>
    intro r hr id hid
    obtain ⟨hmem,hkeep⟩ := List.mem_filter.mp hr
    have hne : id ≠ scenarioId := by
      rintro rfl
      simp [hid] at hkeep
    change ((s.scenarios.erase scenarioId).get? id).isSome
    rw [Table.get?_erase,if_neg hne]
    exact h r hmem id hid
  | published => exact h
  | restored snapshotId snapshot =>
    intro r hr id hid
    rw [scenarioId_restored h hr] at hid
    cases hid

theorem foldl_tagged {commands : List Command} (h : Tagged s) : Tagged (commands.foldl step s) :=
  List.foldlRecOn commands step h fun s h command _ => step_tagged s command h

theorem create_tagged (dto : CreateFinancialModelDto) (source : SourceDataSnapshot) (eventBudgetIds : List ℕ) :
    Tagged (create dto source eventBudgetIds) := by
  intro r hr id hid
  rcases Table.mem_insertAll.mp ⟨r,hr,rfl⟩ with ⟨q,hq,-⟩ | hnew
  · cases hq
  · obtain ⟨li,-,he⟩ := List.mem_map.mp hnew
    rw [← he] at hid
    cases hid

/-! ## Snapshots stay -/

theorem step_snapshot {id : ℕ} {snapshot : FinancialModelSnapshot} (h : s.snapshots.get? id = some snapshot)
    (command : Command) : (step s command).snapshots.get? id = some snapshot := by
  have hstep := step_stepped s command
  generalize step s command = s' at hstep ⊢
  cases hstep with
  | published executiveSummary =>
    change (s.snapshots.insert _).get? id = _
    rw [Table.get?_insert,if_neg (Table.lt_next_of_get? h).ne]
    exact h
  | _ => exact h

theorem foldl_snapshot {id : ℕ} {snapshot : FinancialModelSnapshot} {commands : List Command}
    (h : s.snapshots.get? id = some snapshot) : (commands.foldl step s).snapshots.get? id = some snapshot := by
  induction commands generalizing s with
  | nil => exact h
  | cons command commands ih => exact ih (step_snapshot h command)

/-! ## What comes back -/

/-- Of the lines only those of the snapshot are left: each other one is base-case or tagged. -/
theorem values_restored (h : Tagged s) : (restored s payload).lineItems.rows.map Prod.snd =
    payload.baseLineItems.map fun row => lineContent row.2 := by
  rw [restored,Table.values_deleteWhere,Table.values_insertAll,Table.values_deleteWhere,List.filter_append,
    List.filter_filter]
  have hgone : (s.lineItems.rows.map Prod.snd).filter (fun li =>
      !(li.scenarioId.any fun id => (s.scenarios.get? id).isSome) && !decide (li.scenarioId = none)) = [] := by
    rw [List.filter_eq_nil_iff]
    intro li hli
    obtain ⟨r,hr,rfl⟩ := List.mem_map.mp hli
    cases htag : r.2.scenarioId with
    | none => simp
    | some id => simp [h r hr id htag]
  have hkept : (payload.baseLineItems.map fun row => lineContent row.2).filter (fun li =>
      !(li.scenarioId.any fun id => (s.scenarios.get? id).isSome)) = payload.baseLineItems.map fun row => lineContent row.2 := by
    rw [List.filter_eq_self]
    intro li hli
    obtain ⟨row,-,rfl⟩ := List.mem_map.mp hli
    rfl
  exact (congrArg₂ _ hgone hkept).trans (List.nil_append _)

theorem linesOf_none_restored (h : Tagged s) : linesOf (restored s payload) none =
    (payload.baseLineItems.map fun row => lineContent row.2 : List LineItemRow) := by
  have hall : (restored s payload).lineItems.select (fun li => li.scenarioId = none) =
      (restored s payload).lineItems.rows := by
    rw [Table.select,List.filter_eq_self]
    exact fun r hr => decide_eq_true (scenarioId_restored h hr)
  have hcontent : ∀ rows : List (ℕ × LineItemRow), (rows.map fun r => lineContent r.2) = (rows.map Prod.snd).map lineContent :=
    fun rows => by rw [List.map_map]; rfl
  rw [linesOf,hall,hcontent,values_restored h,List.map_map]
  rfl

theorem linesOf_some_restored (h : Tagged s) (id : ℕ) : linesOf (restored s payload) (some id) = 0 := by
  have hnone : (restored s payload).lineItems.select (fun li => li.scenarioId = some id) = [] := by
    rw [Table.select,List.filter_eq_nil_iff]
    intro r hr
    simp [scenarioId_restored h hr]
  rw [linesOf,hnone]
  rfl

/-- Scenarios without any lines of their own. -/
def bare (scenarios : List Scenario) : Multiset (Scenario × Multiset LineItemRow) :=
  scenarios.map fun scenario => (scenario,(0 : Multiset LineItemRow))

theorem scenarios_restored (h : Tagged s) :
    (editable (restored s payload)).scenarios = bare (payload.scenarios.map (·.scenario)) := by
  have hvalues : (restored s payload).scenarios.rows.map Prod.snd = payload.scenarios.map (·.scenario) := by
    rw [restored,Table.values_insertAll]
    simp [Table.deleteWhere]
  have hpairs : (restored s payload).scenarios.rows.map (fun r => (r.2,linesOf (restored s payload) (some r.1))) =
      ((restored s payload).scenarios.rows.map Prod.snd).map fun scenario => (scenario,(0 : Multiset LineItemRow)) := by
    rw [List.map_map]
    exact List.map_congr_left fun r _ => congrArg (r.2,·) (linesOf_some_restored h r.1)
  rw [editable,hpairs,hvalues]
  rfl

theorem baseLineItems_content (s : Workspace) :
    ((baseLineItems s).map fun row => lineContent row.2 : List LineItemRow) = linesOf s none :=
  Multiset.coe_eq_coe.mpr ((List.perm_insertionSort _ _).map _)

theorem scenarios_payload (s : Workspace) :
    bare ((buildSnapshotPayload s).scenarios.map (·.scenario)) = bare (s.scenarios.rows.map Prod.snd) := by
  have hmap : (buildSnapshotPayload s).scenarios.map (·.scenario) = (orderedScenarios s).map Prod.snd := by
    rw [buildSnapshotPayload,List.map_map]
    rfl
  rw [hmap]
  exact Multiset.coe_eq_coe.mpr (((List.perm_insertionSort _ _).map _).map _)

/-- No line is tagged with a scenario. -/
def NoScenarioLines (s : Workspace) : Prop := ∀ r ∈ s.scenarios.rows, linesOf s (some r.1) = 0

theorem scenarios_kept_iff (s : Workspace) :
    bare (s.scenarios.rows.map Prod.snd) = (editable s).scenarios ↔ NoScenarioLines s := by
  constructor
  · intro h r hr
    have hmem : (r.2,linesOf s (some r.1)) ∈ (editable s).scenarios := Multiset.mem_coe.mpr (List.mem_map_of_mem hr)
    rw [← h,bare,Multiset.mem_coe] at hmem
    obtain ⟨scenario,-,he⟩ := List.mem_map.mp hmem
    exact (Prod.mk.inj he).2.symm
  · intro h
    rw [editable,bare,List.map_map]
    exact congrArg _ (List.map_congr_left fun r hr => congrArg (r.2,·) (h r hr).symm)

/-- What restoring brings back of the state that was published. -/
theorem editable_restored_iff {t : Workspace} (ht : Tagged t) (s : Workspace) :
    editable (restored t (buildSnapshotPayload s)) = editable s ↔
      t.model.fiscalYearEnd = s.model.fiscalYearEnd ∧ NoScenarioLines s := by
  have hlines : (editable (restored t (buildSnapshotPayload s))).baseLines = (editable s).baseLines :=
    (linesOf_none_restored ht).trans (baseLineItems_content s)
  have hscenarios : (editable (restored t (buildSnapshotPayload s))).scenarios = bare (s.scenarios.rows.map Prod.snd) :=
    (scenarios_restored ht).trans (scenarios_payload s)
  constructor
  · intro h
    have hs := congrArg Editable.scenarios h
    rw [hscenarios] at hs
    exact ⟨congrArg Editable.fiscalYearEnd h,(scenarios_kept_iff s).mp hs⟩
  · rintro ⟨hend,hnone⟩
    have hs := hscenarios.trans ((scenarios_kept_iff s).mpr hnone)
    have hall : ∀ e e' : Editable, e.drivers = e'.drivers → e.horizonYears = e'.horizonYears →
        e.fiscalYearEnd = e'.fiscalYearEnd → e.baseLines = e'.baseLines → e.scenarios = e'.scenarios → e = e' := by
      rintro ⟨⟩ ⟨⟩ rfl rfl rfl rfl rfl
      rfl
    exact hall _ _ rfl rfl hend hlines hs

/-! ## Publishing, editing, restoring -/

/-- The model once it was published in state `s`, edited and set back to what was published. -/
def republished (s : Workspace) (executiveSummary : String) (edits : List Command) : Workspace :=
  step (edits.foldl step (published s executiveSummary)) (.restore s.snapshots.next)

theorem republished_eq (s : Workspace) (executiveSummary : String) (edits : List Command) :
    republished s executiveSummary edits =
      restored (edits.foldl step (published s executiveSummary)) (buildSnapshotPayload s) := by
  have hnew : (published s executiveSummary).snapshots.get? s.snapshots.next =
      some ⟨latestVersion s + 1,buildSnapshotPayload s,executiveSummary⟩ := by
    simp [published,Table.get?_insert]
  have hkept : (edits.foldl step (published s executiveSummary)).snapshots.get? s.snapshots.next = _ := foldl_snapshot hnew
  have hrestore : serve (edits.foldl step (published s executiveSummary)) (.restore s.snapshots.next) =
      .ok (restored (edits.foldl step (published s executiveSummary)) (buildSnapshotPayload s)) := by
    simp only [serve,restore,bind_eq_ok,require_eq_ok,pure_eq_ok]
    exact ⟨_,hkept,rfl⟩
  rw [republished,step,hrestore]
  rfl

/-- Restoring what was published gives back all that the user can edit. -/
def GivesBack (s : Workspace) (executiveSummary : String) (edits : List Command) : Prop :=
  ∀ s', publish s executiveSummary = .ok s' →
    editable (step (edits.foldl step s') (.restore s.snapshots.next)) = editable s

/-- In every state of a model and for every sequence of edits: restoring gives back the published
state precisely when no line was tagged with a scenario and the fiscal year still ends on the
same day. -/
theorem givesBack_iff (dto : CreateFinancialModelDto) (source : SourceDataSnapshot) (eventBudgetIds : List ℕ)
    (commands edits : List Command) (executiveSummary : String) :
    let s := commands.foldl step (create dto source eventBudgetIds)
    GivesBack s executiveSummary edits ↔ (s.model.status ≠ .archived →
      (edits.foldl step (published s executiveSummary)).model.fiscalYearEnd = s.model.fiscalYearEnd ∧
        NoScenarioLines s) := by
  intro s
  have htagged : Tagged (edits.foldl step (published s executiveSummary)) := by
    have hs : Tagged s := foldl_tagged (create_tagged dto source eventBudgetIds)
    exact foldl_tagged hs
  have hpublish : ∀ s', publish s executiveSummary = .ok s' ↔
      s.model.status ≠ .archived ∧ published s executiveSummary = s' := by
    intro s'
    simp only [publish,bind_eq_ok,ensure_eq_ok,pure_eq_ok,exists_and_left,exists_const]
  have hiff := editable_restored_iff htagged s
  rw [← republished_eq] at hiff
  constructor
  · intro h hstatus
    exact hiff.mp (h _ ((hpublish _).mpr ⟨hstatus,rfl⟩))
  · rintro h s' hs'
    obtain ⟨hstatus,rfl⟩ := (hpublish s').mp hs'
    exact hiff.mpr (h hstatus)

/-! A budget for one year is published, extended to three years and restored. -/

def yearBudget : CreateFinancialModelDto where
  name := "Budget"
  description := none
  fiscalYearStart := CivilDate.firstOfMonth (12 * 2026 + 8)
  horizonYears := 1
  drivers := none

def emptySchool : SourceDataSnapshot where
  totalActiveStudents := 0
  totalActiveHouseholds := 0
  studentsByYearGroup := []
  feesByYearGroup := []
  staffByDepartment := []
  priorYearActuals := none

def extendHorizon : List Command := [.update ⟨none,none,some 3,none⟩]

theorem not_givesBack : ¬∀ dto source eventBudgetIds commands edits executiveSummary,
    GivesBack (List.foldl step (create dto source eventBudgetIds) commands) executiveSummary edits := by
  intro h
  have hback := h yearBudget emptySchool [] [] extendHorizon "Summary" _ rfl
  have hend := congrArg Editable.fiscalYearEnd hback
  revert hend
  decide +kernel

end EduPod.Budgeting
