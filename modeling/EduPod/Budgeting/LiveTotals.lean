import EduPod.Budgeting.Engine
import EduPod.Finance.InvoiceStatus

/-! # The totals of a snapshot

A snapshot does not run the engine for the base case: it adds up the lines as they are stored, so
that overrides and custom lines count.
-/
namespace EduPod.Budgeting

inductive LineItemSource
  | driverDerived | custom | override
  deriving DecidableEq, Repr

/-- A stored line; the amount column holds whole cents. -/
structure LineItemRow where
  scenarioId : Option ℕ
  category : LineItemCategory
  subcategory : String
  name : String
  fiscalYear : ℕ
  source : LineItemSource
  amount : ℤ
  isLocked : Bool
  notes : Option String
  referencesEventBudgetId : Option ℕ
  deriving DecidableEq

/-- What is left of an amount in the amount column. -/
def storedAmount (amount : ℚ) : ℤ := Finance.toColumn (amount * 100)

/-- `Number(li.amount)`. -/
def LineItemRow.value (row : LineItemRow) : ℚ := row.amount / 100

def buildLineItemRow (li : ComputedLineItem) : LineItemRow where
  scenarioId := none
  category := li.category
  subcategory := li.subcategory
  name := li.name
  fiscalYear := li.fiscalYear
  source := .driverDerived
  amount := storedAmount li.amount
  isLocked := false
  notes := none
  referencesEventBudgetId := none

structure Slot where
  revenue : ℚ
  expenditure : ℚ

def addToSlot (slot : Slot) (li : LineItemRow) : Slot :=
  if li.category = .income then
    if li.subcategory = "tuition_gross" then slot else { slot with revenue := slot.revenue + li.value }
  else { slot with expenditure := slot.expenditure + li.value }

/-- A line of a year that has no slot is passed over. -/
def addLine (totals : List (ℕ × Slot)) (li : LineItemRow) : List (ℕ × Slot) :=
  totals.map fun e => if e.1 = li.fiscalYear then (e.1,addToSlot e.2 li) else e

def liveTotals (y : ℕ) (slot : Slot) : YearTotals :=
  ⟨y,round2 slot.revenue,round2 slot.expenditure,round2 (slot.revenue - slot.expenditure)⟩

def livePerPupil (source : SourceDataSnapshot) (y : ℕ) (slot : Slot) : PerPupilEconomics :=
  let students := source.totalActiveStudents
  let households := source.totalActiveHouseholds
  { fiscalYear := y
    revenuePerStudent := if 0 < students then round2 (slot.revenue / students) else 0
    expenditurePerStudent := if 0 < students then round2 (slot.expenditure / students) else 0
    netPerStudent := if 0 < students then round2 ((slot.revenue - slot.expenditure) / students) else 0
    revenuePerHousehold := if 0 < households then round2 (slot.revenue / households) else 0
    breakevenStudents := none }

def aggregateLiveLineItems (lineItems : List LineItemRow) (source : SourceDataSnapshot) (horizonYears : ℕ) :
    List YearTotals × List PerPupilEconomics :=
  let totals := lineItems.foldl addLine ((yearsOf horizonYears).map fun y => (y,⟨0,0⟩))
  let slotOf y := (totals.lookup y).getD ⟨0,0⟩
  ((yearsOf horizonYears).map fun y => liveTotals y (slotOf y),
    (yearsOf horizonYears).map fun y => livePerPupil source y (slotOf y))

/-! ## The slots as sums -/

/-- A stored line as the engine would have computed it. -/
def LineItemRow.computed (row : LineItemRow) : ComputedLineItem :=
  ⟨row.category,row.subcategory,row.name,row.fiscalYear,row.value⟩

def countsAsRevenue (li : ComputedLineItem) : Bool := li.category = .income ∧ li.subcategory ≠ "tuition_gross"

def countsAsExpenditure (li : ComputedLineItem) : Bool := li.category ≠ .income

def amountOf (p : ComputedLineItem → Bool) (year : ℕ) (lineItems : List ComputedLineItem) : ℚ :=
  (((lineItems.filter fun li => li.fiscalYear = year).filter p).map (·.amount)).sum

def slotOfYear (lineItems : List LineItemRow) (year : ℕ) : Slot :=
  ⟨amountOf countsAsRevenue year (lineItems.map (·.computed)),amountOf countsAsExpenditure year (lineItems.map (·.computed))⟩

variable {inputs : EngineInputs} {lineItems : List LineItemRow} {year : ℕ}

theorem addLine_foldl (years : List ℕ) (slot : ℕ → Slot) :
    lineItems.foldl addLine (years.map fun y => (y,slot y)) = years.map fun y =>
      (y,(⟨(slot y).revenue + (slotOfYear lineItems y).revenue,
        (slot y).expenditure + (slotOfYear lineItems y).expenditure⟩ : Slot)) := by
  induction lineItems generalizing slot with
  | nil => simp [slotOfYear,amountOf]
  | cons li lineItems ih =>
    have hstep : addLine (years.map fun y => (y,slot y)) li =
        years.map fun y => (y,if y = li.fiscalYear then addToSlot (slot y) li else slot y) := by
      rw [addLine,List.map_map]
      apply List.map_congr_left
      intro y _
      by_cases hy : y = li.fiscalYear <;> simp [hy]
    rw [List.foldl_cons,hstep,ih]
    apply List.map_congr_left
    intro y _
    by_cases hy : y = li.fiscalYear
    · by_cases hincome : li.category = .income
      · by_cases hgross : li.subcategory = "tuition_gross"
        · simp [slotOfYear,amountOf,LineItemRow.computed,countsAsRevenue,countsAsExpenditure,addToSlot,hy,hincome,hgross]
        · simp [slotOfYear,amountOf,LineItemRow.computed,countsAsRevenue,countsAsExpenditure,addToSlot,hy,hincome,hgross,
            add_assoc]
      · simp [slotOfYear,amountOf,LineItemRow.computed,countsAsRevenue,countsAsExpenditure,addToSlot,hy,hincome,add_assoc]
    · simp [slotOfYear,amountOf,LineItemRow.computed,hy,Ne.symm hy]

theorem lookup_map_self {years : List ℕ} {slot : ℕ → Slot} (h : year ∈ years) :
    (years.map fun y => (y,slot y)).lookup year = some (slot year) := by
  induction years with
  | nil => cases h
  | cons y years ih =>
    rw [List.map_cons,List.lookup_cons]
    by_cases hy : year = y
    · simp [hy]
    · have hmem : year ∈ years := (List.mem_cons.mp h).resolve_left hy
      rw [beq_false_of_ne hy]
      exact ih hmem

/-- What is reported of each year, from the sums over the lines of that year. -/
theorem aggregateLiveLineItems_eq (lineItems : List LineItemRow) (source : SourceDataSnapshot) (horizonYears : ℕ) :
    aggregateLiveLineItems lineItems source horizonYears =
      ((yearsOf horizonYears).map fun y => liveTotals y (slotOfYear lineItems y),
        (yearsOf horizonYears).map fun y => livePerPupil source y (slotOfYear lineItems y)) := by
  have hslot : ∀ y ∈ yearsOf horizonYears,
      ((lineItems.foldl addLine ((yearsOf horizonYears).map fun y => (y,(⟨0,0⟩ : Slot)))).lookup y).getD ⟨0,0⟩ =
        slotOfYear lineItems y := by
    intro y hy
    rw [addLine_foldl,lookup_map_self hy]
    simp
  unfold aggregateLiveLineItems
  apply Prod.ext
  · exact List.map_congr_left fun y hy => congrArg (liveTotals y) (hslot y hy)
  · exact List.map_congr_left fun y hy => congrArg (livePerPupil source y) (hslot y hy)

/-! ## Whole cents -/

/-- An amount of whole cents. -/
def IsCents (x : ℚ) : Prop := ∃ z : ℤ, x = z / 100

theorem isCents_round2 (x : ℚ) : IsCents (round2 x) := ⟨_,rfl⟩

theorem IsCents.round2_eq {x : ℚ} (h : IsCents x) : round2 x = x := by
  obtain ⟨z,rfl⟩ := h
  exact round2_cents z

theorem IsCents.sub {x y : ℚ} (hx : IsCents x) (hy : IsCents y) : IsCents (x - y) := by
  obtain ⟨z,rfl⟩ := hx
  obtain ⟨w,rfl⟩ := hy
  exact ⟨z - w,by push_cast; ring⟩

theorem isCents_sum {xs : List ℚ} (h : ∀ x ∈ xs, IsCents x) : IsCents xs.sum := by
  induction xs with
  | nil => exact ⟨0,by simp⟩
  | cons x xs ih =>
    obtain ⟨z,hz⟩ := h x List.mem_cons_self
    obtain ⟨w,hw⟩ := ih fun y hy => h y (List.mem_cons_of_mem _ hy)
    refine ⟨z + w,?_⟩
    rw [List.sum_cons,hz,hw]
    push_cast
    ring

theorem computed_buildLineItemRow {li : ComputedLineItem} (h : IsCents li.amount) :
    (buildLineItemRow li).computed = li := by
  obtain ⟨z,hz⟩ := h
  have hstored : storedAmount li.amount = z := by
    rw [storedAmount,hz,div_mul_cancel₀ _ (by norm_num)]
    exact Finance.toColumn_intCast z
  have hvalue : (buildLineItemRow li).value = li.amount := by
    rw [LineItemRow.value,buildLineItemRow,hstored,hz]
  rw [LineItemRow.computed,hvalue]
  rfl

theorem isCents_runEngine {li : ComputedLineItem} (h : li ∈ (runEngine inputs).lineItems) : IsCents li.amount := by
  obtain ⟨_,-,hli⟩ := mem_lineItems_runEngine.mp h
  obtain ⟨-,⟨x,hx⟩,-⟩ := yearLines_cases hli
  exact hx ▸ isCents_round2 x

/-! ## The engine's own totals -/

/-- What the households and donors bring in during a year, net of discounts and scholarships. -/
def yearRevenue (drivers : Drivers) (source : SourceDataSnapshot) (year : ℕ) : ℚ :=
  let effectiveDrivers := resolveDriversForYear drivers year
  round2 (tuitionNetOf effectiveDrivers (tuition effectiveDrivers source year).1) +
    round2 effectiveDrivers.donationsForecast + round2 effectiveDrivers.grantsForecast

theorem sumAmounts_eq (lineItems : List ComputedLineItem) : sumAmounts lineItems = (lineItems.map (·.amount)).sum := by
  rw [sumAmounts,List.sum_eq_foldl,List.foldl_map]

theorem isCents_amountOf (p : ComputedLineItem → Bool) (year : ℕ) :
    IsCents (amountOf p year (runEngine inputs).lineItems) := by
  apply isCents_sum
  intro x hx
  obtain ⟨li,hli,rfl⟩ := List.mem_map.mp hx
  exact isCents_runEngine (List.mem_filter.mp (List.mem_filter.mp hli).1).1

/-- On the engine's lines both ways of telling revenue from expenditure agree. -/
theorem classify_runEngine {li : ComputedLineItem} (h : li ∈ (runEngine inputs).lineItems) :
    isRevenue li = countsAsRevenue li ∧ isExpenditure li = countsAsExpenditure li := by
  obtain ⟨_,-,hli⟩ := mem_lineItems_runEngine.mp h
  obtain ⟨-,-,⟨hincome,hsub⟩ | hexp⟩ := yearLines_cases hli
  · have hone : isExpenditure li = countsAsExpenditure li := by simp [isExpenditure,countsAsExpenditure,hincome]
    refine ⟨?_,hone⟩
    rcases List.mem_cons.mp hsub with hgross | hnet
    · simp [isRevenue,countsAsRevenue,revenueNetSubcategories,hgross]
    · have hne : li.subcategory ≠ "tuition_gross" := by
        intro he
        rw [he] at hnet
        exact absurd hnet (by decide)
      simp [isRevenue,countsAsRevenue,hincome,hnet,hne]
  · have hnot : li.category ≠ .income := by
      intro he
      simp [isExpenditure,he] at hexp
    simp [isRevenue,countsAsRevenue,countsAsExpenditure,hexp,hnot]

theorem yearTotals_runEngine (year : ℕ) : yearTotals (runEngine inputs).lineItems year =
    ⟨year,amountOf countsAsRevenue year (runEngine inputs).lineItems,
      amountOf countsAsExpenditure year (runEngine inputs).lineItems,
      amountOf countsAsRevenue year (runEngine inputs).lineItems -
        amountOf countsAsExpenditure year (runEngine inputs).lineItems⟩ := by
  have hrevenue : sumAmounts (((runEngine inputs).lineItems.filter fun li => li.fiscalYear = year).filter isRevenue) =
      amountOf countsAsRevenue year (runEngine inputs).lineItems := by
    rw [sumAmounts_eq,amountOf]
    congr 2
    exact List.filter_congr fun li hli => (classify_runEngine (List.mem_filter.mp hli).1).1
  have hexpenditure :
      sumAmounts (((runEngine inputs).lineItems.filter fun li => li.fiscalYear = year).filter isExpenditure) =
        amountOf countsAsExpenditure year (runEngine inputs).lineItems := by
    rw [sumAmounts_eq,amountOf]
    congr 2
    exact List.filter_congr fun li hli => (classify_runEngine (List.mem_filter.mp hli).1).2
  have hr : IsCents (amountOf countsAsRevenue year (runEngine inputs).lineItems) := isCents_amountOf _ _
  have he : IsCents (amountOf countsAsExpenditure year (runEngine inputs).lineItems) := isCents_amountOf _ _
  rw [yearTotals,hrevenue,hexpenditure,hr.round2_eq,he.round2_eq,(hr.sub he).round2_eq]

theorem revenue_runEngine (h : year ∈ yearsOf inputs.horizonYears) :
    amountOf countsAsRevenue year (runEngine inputs).lineItems = yearRevenue inputs.drivers inputs.source year := by
  have hnone : ∀ lines : List ComputedLineItem, (∀ li ∈ lines, li.category ≠ .income) →
      lines.filter countsAsRevenue = [] := by
    intro lines hlines
    rw [List.filter_eq_nil_iff]
    intro li hli
    simp [countsAsRevenue,hlines li hli]
  have hstaff : ∀ li ∈ (computeStaffCostLines (resolveDriversForYear inputs.drivers year) inputs.source year).1,
      li.category ≠ .income := fun li hli => by simp [category_staffCost hli]
  have hoperations : ∀ li ∈ computeOperationsLines (resolveDriversForYear inputs.drivers year) inputs.source year,
      li.category ≠ .income := fun li hli => by simp [category_operations hli]
  have hcapital : ∀ li ∈ computeCapitalLines (resolveDriversForYear inputs.drivers year) year,
      li.category ≠ .income := fun li hli => by simp [category_capital hli]
  rw [amountOf,filter_year_runEngine h,yearLines]
  simp only [List.filter_append,hnone _ hstaff,hnone _ hoperations,hnone _ hcapital,List.append_nil]
  simp [computeIncomeLines,countsAsRevenue,yearRevenue,add_assoc]

/-! ## Agreement -/

/-- The live lines are exactly those that the engine derives, in any order. -/
def AreDerived (lineItems : List LineItemRow) (inputs : EngineInputs) : Prop :=
  (lineItems.map (·.computed)).Perm (runEngine inputs).lineItems

/-- On derived lines the snapshot reports what the engine does. -/
def Agrees (inputs : EngineInputs) : Prop :=
  ∀ lineItems, AreDerived lineItems inputs →
    aggregateLiveLineItems lineItems inputs.source inputs.horizonYears =
      ((runEngine inputs).totalsByYear,(runEngine inputs).perPupilUnitEconomics)

/-- The engine has no break-even for the year. -/
def NoBreakeven (inputs : EngineInputs) (year : ℕ) : Prop :=
  inputs.source.totalActiveStudents = 0 ∨ yearRevenue inputs.drivers inputs.source year ≤ 0

theorem slotOfYear_of_areDerived (h : AreDerived lineItems inputs) (year : ℕ) : slotOfYear lineItems year =
    ⟨amountOf countsAsRevenue year (runEngine inputs).lineItems,
      amountOf countsAsExpenditure year (runEngine inputs).lineItems⟩ := by
  have hsum : ∀ p, amountOf p year (lineItems.map (·.computed)) = amountOf p year (runEngine inputs).lineItems :=
    fun p => (((h.filter _).filter p).map _).sum_eq
  rw [slotOfYear,hsum,hsum]

/-- All totals agree, whatever the mix of lines. -/
theorem liveTotals_eq (h : AreDerived lineItems inputs) (year : ℕ) :
    liveTotals year (slotOfYear lineItems year) = yearTotals (runEngine inputs).lineItems year := by
  have hr : IsCents (amountOf countsAsRevenue year (runEngine inputs).lineItems) := isCents_amountOf _ _
  have he : IsCents (amountOf countsAsExpenditure year (runEngine inputs).lineItems) := isCents_amountOf _ _
  rw [slotOfYear_of_areDerived h,liveTotals,yearTotals_runEngine,hr.round2_eq,he.round2_eq,(hr.sub he).round2_eq]

/-- The per-pupil figures agree up to the break-even. -/
theorem livePerPupil_eq (h : AreDerived lineItems inputs) (year : ℕ) :
    livePerPupil inputs.source year (slotOfYear lineItems year) =
      { perPupilOf inputs.source (yearTotals (runEngine inputs).lineItems year) with breakevenStudents := none } := by
  rw [slotOfYear_of_areDerived h,yearTotals_runEngine]
  rfl

theorem breakeven_eq_none_iff (h : year ∈ yearsOf inputs.horizonYears) :
    (perPupilOf inputs.source (yearTotals (runEngine inputs).lineItems year)).breakevenStudents = none ↔
      NoBreakeven inputs year := by
  rw [yearTotals_runEngine,NoBreakeven,← revenue_runEngine h]
  simp only [perPupilOf]
  by_cases hstudents : 0 < inputs.source.totalActiveStudents
  · have hpos : (0 : ℚ) < inputs.source.totalActiveStudents := by exact_mod_cast hstudents
    simp [hstudents,hstudents.ne',div_pos_iff_of_pos_right hpos]
  · simp [Nat.eq_zero_of_not_pos hstudents]

theorem perPupil_agrees_iff (h : AreDerived lineItems inputs) (hyear : year ∈ yearsOf inputs.horizonYears) :
    livePerPupil inputs.source year (slotOfYear lineItems year) =
      perPupilOf inputs.source (yearTotals (runEngine inputs).lineItems year) ↔ NoBreakeven inputs year := by
  rw [livePerPupil_eq h,← breakeven_eq_none_iff hyear]
  constructor
  · intro he
    exact (congrArg PerPupilEconomics.breakevenStudents he).symm
  · intro hnone
    rw [← hnone]

theorem areDerived_built (inputs : EngineInputs) :
    AreDerived ((runEngine inputs).lineItems.map buildLineItemRow) inputs := by
  have hself : ((runEngine inputs).lineItems.map buildLineItemRow).map (·.computed) = (runEngine inputs).lineItems := by
    rw [List.map_map]
    exact (List.map_congr_left fun li hli => computed_buildLineItemRow (isCents_runEngine hli)).trans (List.map_id' _)
  rw [AreDerived,hself]

def smallSchool : EngineInputs where
  drivers := {
    enrollmentGrowthPctByYearGroup := [], feeUpliftPctByYearGroup := [], staffHeadcountDeltaByDepartment := []
    salaryUpliftPct := 0, discountCapturePct := 0, scholarshipCapturePct := 0, utilitiesInflationPct := 0
    materialsInflationPct := 0, capexItems := [], donationsForecast := 0, grantsForecast := 0
    custom := [], perYear := [] }
  source := {
    totalActiveStudents := 10, totalActiveHouseholds := 7
    studentsByYearGroup := [⟨"year-7","Year 7",10⟩]
    feesByYearGroup := [⟨"year-7",1000,.oneOff⟩]
    staffByDepartment := [⟨"teaching","Teaching",1,8000⟩]
    priorYearActuals := none }
  horizonYears := 1

end EduPod.Budgeting
