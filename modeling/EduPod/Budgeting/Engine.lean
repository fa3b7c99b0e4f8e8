import EduPod.Budgeting.Drivers

/-! # The calculation engine for annual financial models -/
namespace EduPod.Budgeting

inductive LineItemCategory
  | income | staffCosts | operations | capital | reservesAndAdjustments
  deriving DecidableEq, Repr

structure ComputedLineItem where
  category : LineItemCategory
  subcategory : String
  name : String
  fiscalYear : ℕ
  amount : ℚ
  deriving DecidableEq

structure YearTotals where
  fiscalYear : ℕ
  revenue : ℚ
  expenditure : ℚ
  netResult : ℚ
  deriving DecidableEq

structure PerPupilEconomics where
  fiscalYear : ℕ
  revenuePerStudent : ℚ
  expenditurePerStudent : ℚ
  netPerStudent : ℚ
  revenuePerHousehold : ℚ
  /-- `none` when the year's average fee per student is not positive. -/
  breakevenStudents : Option ℤ
  deriving DecidableEq

inductive EngineWarningCode
  | noFeeStructure | noPriorActuals | negativeHeadcount | capexOutOfHorizon
  deriving DecidableEq, Repr

inductive EngineWarningLevel
  | info | warning
  deriving DecidableEq, Repr

structure EngineWarning where
  level : EngineWarningLevel
  code : EngineWarningCode
  message : String
  deriving DecidableEq

structure EngineInputs where
  drivers : Drivers
  source : SourceDataSnapshot
  horizonYears : ℕ

structure EngineOutputs where
  lineItems : List ComputedLineItem
  totalsByYear : List YearTotals
  perPupilUnitEconomics : List PerPupilEconomics
  warnings : List EngineWarning
  deriving DecidableEq

/-- The loop from year 1 up to the horizon. -/
def yearsOf (horizonYears : ℕ) : List ℕ := (List.range horizonYears).map (· + 1)

/-! ## Income -/

def annualApplications : SourceBillingFrequency → ℚ
  | .monthly => 12
  | .term => 3
  | .oneOff => 1

def feesOf (source : SourceDataSnapshot) (yg : SourceStudentByYearGroup) : List SourceFeeStructureForYearGroup :=
  source.feesByYearGroup.filter fun f => f.yearGroupId = yg.yearGroupId

/-- The tuition of a year group that has fees. -/
def yearGroupTuition (drivers : Drivers) (source : SourceDataSnapshot) (year : ℕ) (yg : SourceStudentByYearGroup) : ℚ :=
  let growth := (drivers.enrollmentGrowthPctByYearGroup.lookup yg.yearGroupId).getD 0
  let projectedCount := yg.activeCount * (1 + growth / 100) ^ year
  let uplift := (drivers.feeUpliftPctByYearGroup.lookup yg.yearGroupId).getD 0
  let annualisedPerStudent :=
    (feesOf source yg).foldl (fun acc f => acc + f.amount * annualApplications f.billingFrequency) (0 : ℚ) *
      (1 + uplift / 100) ^ year
  projectedCount * annualisedPerStudent

def noFeeStructureWarning (yg : SourceStudentByYearGroup) : EngineWarning where
  level := .warning
  code := .noFeeStructure
  message := "No fee structure defined for year group " ++ yg.yearGroupName ++ "; assumed 0 revenue."

def addYearGroup (drivers : Drivers) (source : SourceDataSnapshot) (year : ℕ) (acc : ℚ × List EngineWarning)
    (yg : SourceStudentByYearGroup) : ℚ × List EngineWarning :=
  if feesOf source yg = [] then (acc.1,acc.2 ++ [noFeeStructureWarning yg])
  else (acc.1 + yearGroupTuition drivers source year yg,acc.2)

def tuition (drivers : Drivers) (source : SourceDataSnapshot) (year : ℕ) : ℚ × List EngineWarning :=
  source.studentsByYearGroup.foldl (addYearGroup drivers source year) (0,[])

def tuitionNetOf (drivers : Drivers) (tuitionGross : ℚ) : ℚ :=
  tuitionGross - tuitionGross * (drivers.discountCapturePct / 100) - tuitionGross * (drivers.scholarshipCapturePct / 100)

def computeIncomeLines (drivers : Drivers) (source : SourceDataSnapshot) (year : ℕ) :
    List ComputedLineItem × List EngineWarning :=
  let tuitionGross := (tuition drivers source year).1
  ([⟨.income,"tuition_gross","Tuition (gross)",year,round2 tuitionGross⟩,
    ⟨.income,"tuition_net","Tuition (net of discounts/scholarships)",year,round2 (tuitionNetOf drivers tuitionGross)⟩,
    ⟨.income,"donations","Donations",year,round2 drivers.donationsForecast⟩,
    ⟨.income,"grants","Grants",year,round2 drivers.grantsForecast⟩],
   (tuition drivers source year).2)

/-! ## Staff costs -/

def projectedHeadcount (drivers : Drivers) (dept : SourceStaffByDepartment) : ℤ :=
  dept.headcount + (drivers.staffHeadcountDeltaByDepartment.lookup dept.departmentId).getD 0

def staffCostLine (drivers : Drivers) (year : ℕ) (dept : SourceStaffByDepartment) : ComputedLineItem :=
  let upliftMultiplier := (1 + drivers.salaryUpliftPct / 100) ^ year
  let avgPerHead : ℚ := if 0 < dept.headcount then dept.totalAnnualPayroll / dept.headcount else 0
  let projectedCost := (max 0 (projectedHeadcount drivers dept) : ℤ) * avgPerHead * upliftMultiplier
  ⟨.staffCosts,dept.departmentId,"Staff costs — " ++ dept.departmentName,year,round2 projectedCost⟩

def negativeHeadcountWarning (dept : SourceStaffByDepartment) : EngineWarning where
  level := .warning
  code := .negativeHeadcount
  message := "Department " ++ dept.departmentName ++ " would have negative headcount; clamped to 0."

def computeStaffCostLines (drivers : Drivers) (source : SourceDataSnapshot) (year : ℕ) :
    List ComputedLineItem × List EngineWarning :=
  (source.staffByDepartment.map (staffCostLine drivers year),
    (source.staffByDepartment.filter fun dept => projectedHeadcount drivers dept < 0).map negativeHeadcountWarning)

/-! ## Operations and capital -/

def noPriorActualsWarning : EngineWarning where
  level := .info
  code := .noPriorActuals
  message := "No prior-year actuals supplied; operations lines defaulted to zero. Add custom lines to override."

def computeOperationsLines (drivers : Drivers) (source : SourceDataSnapshot) (year : ℕ) : List ComputedLineItem :=
  match source.priorYearActuals with
  | none => []
  | some actuals =>
    [⟨.operations,"utilities","Utilities",year,
        round2 (actuals.utilities * (1 + drivers.utilitiesInflationPct / 100) ^ year)⟩,
     ⟨.operations,"materials","Materials",year,
        round2 (actuals.materials * (1 + drivers.materialsInflationPct / 100) ^ year)⟩]

def computeCapitalLines (drivers : Drivers) (year : ℕ) : List ComputedLineItem :=
  (drivers.capexItems.filter fun item => item.fiscalYear = year).map fun item =>
    ⟨.capital,item.id,item.name,year,round2 item.amount⟩

/-! ## Aggregation -/

def revenueNetSubcategories : List String := ["tuition_net","donations","grants"]

def isRevenue (li : ComputedLineItem) : Bool := li.category = .income ∧ li.subcategory ∈ revenueNetSubcategories

def isExpenditure (li : ComputedLineItem) : Bool :=
  li.category ∈ [LineItemCategory.staffCosts,.operations,.capital]

def sumAmounts (lineItems : List ComputedLineItem) : ℚ := lineItems.foldl (fun acc li => acc + li.amount) 0

def yearTotals (lineItems : List ComputedLineItem) (year : ℕ) : YearTotals :=
  let yearItems := lineItems.filter fun li => li.fiscalYear = year
  let revenue := sumAmounts (yearItems.filter isRevenue)
  let expenditure := sumAmounts (yearItems.filter isExpenditure)
  ⟨year,round2 revenue,round2 expenditure,round2 (revenue - expenditure)⟩

def aggregateTotals (lineItems : List ComputedLineItem) (horizonYears : ℕ) : List YearTotals :=
  (yearsOf horizonYears).map (yearTotals lineItems)

def perPupilOf (source : SourceDataSnapshot) (t : YearTotals) : PerPupilEconomics :=
  let students := source.totalActiveStudents
  let households := source.totalActiveHouseholds
  let avgFeePerStudent := if 0 < students then t.revenue / students else 0
  { fiscalYear := t.fiscalYear
    revenuePerStudent := if 0 < students then round2 (t.revenue / students) else 0
    expenditurePerStudent := if 0 < students then round2 (t.expenditure / students) else 0
    netPerStudent := if 0 < students then round2 (t.netResult / students) else 0
    revenuePerHousehold := if 0 < households then round2 (t.revenue / households) else 0
    breakevenStudents := if 0 < avgFeePerStudent then some ⌈t.expenditure / avgFeePerStudent⌉ else none }

def computePerPupilEconomics (totals : List YearTotals) (source : SourceDataSnapshot) : List PerPupilEconomics :=
  totals.map (perPupilOf source)

/-! ## The engine -/

/-- What the loop carries: the lines, the warnings, and whether missing actuals were reported. -/
structure EngineState where
  lineItems : List ComputedLineItem
  warnings : List EngineWarning
  seenNoActuals : Bool

def computeYear (drivers : Drivers) (source : SourceDataSnapshot) (s : EngineState) (year : ℕ) : EngineState :=
  let effectiveDrivers := resolveDriversForYear drivers year
  let income := computeIncomeLines effectiveDrivers source year
  let staff := computeStaffCostLines effectiveDrivers source year
  let missing := source.priorYearActuals.isNone && !s.seenNoActuals
  { lineItems := s.lineItems ++ income.1 ++ staff.1 ++ computeOperationsLines effectiveDrivers source year ++
      computeCapitalLines effectiveDrivers year
    warnings := s.warnings ++ income.2 ++ staff.2 ++ (if missing then [noPriorActualsWarning] else [])
    seenNoActuals := s.seenNoActuals || missing }

def capexOutOfHorizonWarning (horizonYears : ℕ) (capex : CapexItem) : EngineWarning where
  level := .info
  code := .capexOutOfHorizon
  message := "Capex item \"" ++ capex.name ++ "\" declared for year " ++ toString capex.fiscalYear ++
    " but model horizon is " ++ toString horizonYears ++ " years; item will not appear until horizon is extended."

def runEngine (inputs : EngineInputs) : EngineOutputs :=
  let final := (yearsOf inputs.horizonYears).foldl (computeYear inputs.drivers inputs.source) ⟨[],[],false⟩
  let outOfHorizon := inputs.drivers.capexItems.filter fun capex => inputs.horizonYears < capex.fiscalYear
  let totals := aggregateTotals final.lineItems inputs.horizonYears
  { lineItems := final.lineItems
    totalsByYear := totals
    perPupilUnitEconomics := computePerPupilEconomics totals inputs.source
    warnings := final.warnings ++ outOfHorizon.map (capexOutOfHorizonWarning inputs.horizonYears) }

/-! ## The lines of a year -/

/-- All lines the engine derives for a year. -/
def yearLines (drivers : Drivers) (source : SourceDataSnapshot) (year : ℕ) : List ComputedLineItem :=
  let effectiveDrivers := resolveDriversForYear drivers year
  (computeIncomeLines effectiveDrivers source year).1 ++ (computeStaffCostLines effectiveDrivers source year).1 ++
    computeOperationsLines effectiveDrivers source year ++ computeCapitalLines effectiveDrivers year

variable {drivers : Drivers} {source : SourceDataSnapshot} {year horizonYears : ℕ} {li : ComputedLineItem}
  {inputs : EngineInputs}

theorem computeYear_foldl (years : List ℕ) (s : EngineState) :
    (years.foldl (computeYear drivers source) s).lineItems = s.lineItems ++ years.flatMap (yearLines drivers source) := by
  induction years generalizing s with
  | nil => simp
  | cons year years ih =>
    rw [List.foldl_cons,ih,List.flatMap_cons]
    simp only [computeYear,yearLines,List.append_assoc]

theorem lineItems_runEngine : (runEngine inputs).lineItems =
    (yearsOf inputs.horizonYears).flatMap (yearLines inputs.drivers inputs.source) := by
  simp [runEngine,computeYear_foldl]

theorem mem_yearsOf : year ∈ yearsOf horizonYears ↔ 1 ≤ year ∧ year ≤ horizonYears := by
  simp only [yearsOf,List.mem_map,List.mem_range]
  constructor
  · rintro ⟨k,hk,rfl⟩
    omega
  · rintro ⟨hpos,hle⟩
    exact ⟨year - 1,by omega,by omega⟩

theorem nodup_yearsOf (horizonYears : ℕ) : (yearsOf horizonYears).Nodup :=
  (List.nodup_range).map fun _ _ h => Nat.succ.inj h

theorem category_income (h : li ∈ (computeIncomeLines drivers source year).1) : li.category = .income := by
  simp only [computeIncomeLines,List.mem_cons,List.not_mem_nil,or_false] at h
  rcases h with rfl | rfl | rfl | rfl <;> rfl

theorem category_staffCost (h : li ∈ (computeStaffCostLines drivers source year).1) : li.category = .staffCosts := by
  obtain ⟨dept,-,rfl⟩ := List.mem_map.mp h
  rfl

theorem category_operations (h : li ∈ computeOperationsLines drivers source year) : li.category = .operations := by
  unfold computeOperationsLines at h
  split at h
  · cases h
  · simp only [List.mem_cons,List.not_mem_nil,or_false] at h
    rcases h with rfl | rfl <;> rfl

theorem category_capital (h : li ∈ computeCapitalLines drivers year) : li.category = .capital := by
  obtain ⟨item,-,rfl⟩ := List.mem_map.mp h
  rfl

/-- What the section a line comes from says of it. -/
theorem yearLines_cases (h : li ∈ yearLines drivers source year) :
    li.fiscalYear = year ∧ (∃ x, li.amount = round2 x) ∧
      ((li.category = .income ∧ li.subcategory ∈ "tuition_gross" :: revenueNetSubcategories) ∨ isExpenditure li = true) := by
  simp only [yearLines,List.mem_append] at h
  rcases h with ((h | h) | h) | h
  · simp only [computeIncomeLines,List.mem_cons,List.not_mem_nil,or_false] at h
    rcases h with rfl | rfl | rfl | rfl
    all_goals exact ⟨rfl,⟨_,rfl⟩,.inl ⟨rfl,by simp [revenueNetSubcategories]⟩⟩
  · obtain ⟨dept,-,rfl⟩ := List.mem_map.mp h
    exact ⟨rfl,⟨_,rfl⟩,.inr rfl⟩
  · unfold computeOperationsLines at h
    split at h
    · cases h
    · simp only [List.mem_cons,List.not_mem_nil,or_false] at h
      rcases h with rfl | rfl
      all_goals exact ⟨rfl,⟨_,rfl⟩,.inr rfl⟩
  · obtain ⟨item,-,rfl⟩ := List.mem_map.mp h
    exact ⟨rfl,⟨_,rfl⟩,.inr rfl⟩

theorem mem_lineItems_runEngine : li ∈ (runEngine inputs).lineItems ↔
    ∃ year ∈ yearsOf inputs.horizonYears, li ∈ yearLines inputs.drivers inputs.source year := by
  rw [lineItems_runEngine,List.mem_flatMap]

/-- Of the engine's lines those of a year are the ones derived for it. -/
theorem filter_year_runEngine (h : year ∈ yearsOf inputs.horizonYears) :
    (runEngine inputs).lineItems.filter (fun li => li.fiscalYear = year) = yearLines inputs.drivers inputs.source year := by
  have hyears : ∀ years : List ℕ, years.Nodup → year ∈ years →
      (years.flatMap (yearLines inputs.drivers inputs.source)).filter (fun li => li.fiscalYear = year) =
        yearLines inputs.drivers inputs.source year := by
    intro years hn hmem
    have hself : ∀ y, (yearLines inputs.drivers inputs.source y).filter (fun li => li.fiscalYear = year) =
        if y = year then yearLines inputs.drivers inputs.source y else [] := by
      intro y
      split
      · rename_i he
        rw [List.filter_eq_self]
        intro li hli
        exact decide_eq_true ((yearLines_cases hli).1.trans he)
      · rename_i he
        rw [List.filter_eq_nil_iff]
        intro li hli hy
        exact he ((yearLines_cases hli).1.symm.trans (of_decide_eq_true hy))
    rw [List.filter_flatMap]
    simp only [hself]
    induction years with
    | nil => cases hmem
    | cons y years ih =>
      obtain ⟨hnot,hn⟩ := List.nodup_cons.mp hn
      rw [List.flatMap_cons]
      rcases List.mem_cons.mp hmem with rfl | hmem
      · have hrest : (years.flatMap fun y => if y = year then yearLines inputs.drivers inputs.source y else []) = [] := by
          rw [List.flatMap_eq_nil_iff]
          intro y hy
          exact if_neg fun he : y = year => hnot (he ▸ hy)
        rw [if_pos rfl,hrest,List.append_nil]
      · rw [if_neg fun he : y = year => hnot (he ▸ hmem),List.nil_append]
        exact ih hn hmem
  rw [lineItems_runEngine]
  exact hyears _ (nodup_yearsOf _) h

end EduPod.Budgeting
