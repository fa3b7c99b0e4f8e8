import Mathlib
import EduPod.Foundation.Fallible
import EduPod.Foundation.Overwriting
import EduPod.Foundation.Rounding
import EduPod.Gradebook.GradeCurves

/-! # Period grades and the cap on formative weight

The grade of a student in a period is the average of the category scores, weighted by the configured
weights of the categories. The weights are capped before it is known which categories the student
has grades in. Numbers are exact.
-/
namespace EduPod.Gradebook.PeriodGrades
open Fallible Grouping Rounding

inductive AssessmentType
  | formative | summative
  deriving DecidableEq, Repr

inductive MissingGradePolicy
  | exclude | zero
  deriving DecidableEq, Repr

structure CategoryWeight where
  categoryId : ℕ
  weight : ℚ
  deriving DecidableEq, Repr

def CategoryWeight.scale (factor : ℚ) (w : CategoryWeight) : CategoryWeight := { w with weight := w.weight * factor }

def totalWeight (weights : List CategoryWeight) : ℚ := (weights.map CategoryWeight.weight).sum

/-- `new Map`: of several entries of a category the last counts. -/
def categoryWeightMap (weights : List CategoryWeight) : List (ℕ × ℚ) :=
  ofPairs (weights.map fun w => (w.categoryId,w.weight))

/-- A stored configuration. A negative weight is refused when it is saved. -/
structure WeightConfig where
  weights : List CategoryWeight
  weight_nonneg : ∀ w ∈ weights, 0 ≤ w.weight

/-! ## Grading scales -/

inductive ScaleType
  | numeric | letter | custom
  deriving DecidableEq, Repr

structure GradingScaleRange where
  min : ℚ
  label : String

structure GradingScaleGrade where
  label : String
  numericValue : Option ℚ

structure GradingScaleConfig where
  type : ScaleType
  ranges : Option (List GradingScaleRange)
  grades : Option (List GradingScaleGrade)

inductive DisplayValue
  | label (text : String)
  | percent (value : ℚ)
  deriving DecidableEq, Repr

def displayPercent (percentage : ℚ) : DisplayValue := .percent (nearest (percentage * 100) / 100)

/-- The label of the highest threshold that is reached. -/
def highestReached (percentage : ℚ) (thresholds : List (ℚ × String)) : Option String :=
  ((thresholds.mergeSort fun a b => b.1 ≤ a.1).find? fun t => t.1 ≤ percentage).map Prod.snd

def GradingScaleConfig.thresholds (grades : List GradingScaleGrade) : List (ℚ × String) :=
  grades.filterMap fun g => g.numericValue.map (·,g.label)

def applyGradingScale (percentage : ℚ) (config : GradingScaleConfig) : DisplayValue :=
  match config.type,config.ranges,config.grades with
  | .numeric,some ranges,_ =>
    ((highestReached percentage (ranges.map fun r => (r.min,r.label))).map .label).getD (displayPercent percentage)
  | .numeric,none,_ => displayPercent percentage
  | _,_,none => displayPercent percentage
  | _,_,some grades =>
    let thresholds := GradingScaleConfig.thresholds grades
    let lowest := (thresholds.mergeSort fun a b => b.1 ≤ a.1).getLast?.map Prod.snd
    (((highestReached percentage thresholds).or lowest).map .label).getD (displayPercent percentage)

/-! ## What one computation reads -/

structure StudentGrade where
  studentId : ℕ
  rawScore : Option ℚ

structure PeriodAssessment where
  status : AssessmentStatus
  categoryId : ℕ
  maxScore : ℚ
  grades : List StudentGrade
  maxScore_nonneg : 0 ≤ maxScore

def PeriodAssessment.scoreOf (a : PeriodAssessment) (studentId : ℕ) : Option ℚ :=
  (a.grades.find? fun g => g.studentId = studentId).bind StudentGrade.rawScore

structure ClassSubjectGradeConfig where
  scale : Option GradingScaleConfig
  weightConfig : Option WeightConfig

structure GradebookSettings where
  defaultMissingGradePolicy : Option MissingGradePolicy
  formativeWeightCap : Option ℚ
  formativeIncludedInPeriodGrade : Option Bool

/-- One class, subject and period. `categoryType` is the type of an assessment's category. -/
structure PeriodBook where
  yearGroupId : Option ℕ
  yearGroupWeights : ℕ → Option WeightConfig
  config : Option ClassSubjectGradeConfig
  settings : GradebookSettings
  categoryType : ℕ → AssessmentType
  assessments : List PeriodAssessment
  enrolled : List ℕ

inductive ComputationError
  | gradeConfigNotFound | noAssessments | noStudents | noSummativeAssessments | zeroWeightSum
  deriving DecidableEq, Repr

inductive ComputationWarning
  | weightsNormalized (weightSum : ℚ)
  | formativeCapApplied (formativeTotal cap : ℚ)
  deriving DecidableEq, Repr

variable (book : PeriodBook)

/-- The weights of the year group and, where these are missing, those of the class and subject. -/
def PeriodBook.weightConfig : Option WeightConfig :=
  ((book.yearGroupId.bind book.yearGroupWeights).filter fun c => !c.weights.isEmpty).or
    (book.config.bind ClassSubjectGradeConfig.weightConfig)

def PeriodBook.rawWeights : List CategoryWeight := (book.weightConfig.map WeightConfig.weights).getD []

def PeriodBook.missingGradePolicy : MissingGradePolicy := book.settings.defaultMissingGradePolicy.getD .exclude

def PeriodBook.publishedAssessments : List PeriodAssessment := book.assessments.filter fun a => a.status ≠ .draft

def PeriodBook.includedAssessments : List PeriodAssessment :=
  if book.settings.formativeIncludedInPeriodGrade = some false then
    book.publishedAssessments.filter fun a => book.categoryType a.categoryId ≠ .formative
  else book.publishedAssessments

/-! ## The weights -/

def normalizeWeights (rawWeights : List CategoryWeight) : List CategoryWeight × List ComputationWarning :=
  let weightSum := totalWeight rawWeights
  if 1 / 100 < |weightSum - 100| then
    (rawWeights.map fun w => { w with weight := w.weight / weightSum * 100 },[.weightsNormalized weightSum])
  else (rawWeights,[])

/-- A category without an assessment counts as summative. -/
def isFormative (categoryTypes : List (ℕ × AssessmentType)) (categoryId : ℕ) : Bool :=
  (ofPairs categoryTypes).lookup categoryId = some .formative

def applyFormativeCap (isFormative : ℕ → Bool) (cap : ℚ) (weights : List CategoryWeight) :
    List CategoryWeight × List ComputationWarning :=
  let formativeWeights := weights.filter fun w => isFormative w.categoryId
  let summativeWeights := weights.filter fun w => !isFormative w.categoryId
  let formativeTotal := totalWeight formativeWeights
  let summativeTotal := totalWeight summativeWeights
  if cap < formativeTotal then
    let summativeScaleFactor := if 0 < summativeTotal then (100 - cap) / summativeTotal else 1
    (formativeWeights.map (.scale (cap / formativeTotal)) ++ summativeWeights.map (.scale summativeScaleFactor),
      [.formativeCapApplied formativeTotal cap])
  else (weights,[])

/-- A negative cap is none. -/
def resolveWeightsWithFormativeCap (rawWeights : List CategoryWeight) (categoryTypes : List (ℕ × AssessmentType))
    (formativeWeightCap : Option ℚ) : Except ComputationError (List CategoryWeight × List ComputationWarning) := do
  ensure (totalWeight rawWeights ≠ 0) .zeroWeightSum
  let normalized := normalizeWeights rawWeights
  match formativeWeightCap.filter fun cap => 0 ≤ cap with
  | none => pure normalized
  | some cap =>
    let capped := applyFormativeCap (isFormative categoryTypes) cap normalized.1
    pure (capped.1,normalized.2 ++ capped.2)

/-! ## The grade of a student -/

structure CategoryTally where
  numerator : ℚ
  denominator : ℚ
  hasData : Bool

def CategoryTally.add (policy : MissingGradePolicy) (studentId : ℕ) (t : CategoryTally) (a : PeriodAssessment) :
    CategoryTally :=
  match policy,a.scoreOf studentId with
  | .exclude,none => t
  | .exclude,some score => ⟨t.numerator + score,t.denominator + a.maxScore,true⟩
  | .zero,score => ⟨t.numerator + score.getD 0,t.denominator + a.maxScore,true⟩

def tallyCategory (policy : MissingGradePolicy) (studentId : ℕ) (assessments : List PeriodAssessment) : CategoryTally :=
  assessments.foldl (.add policy studentId) ⟨0,0,false⟩

/-- The tally of a category is part of the average. -/
def CategoryTally.Counts (t : CategoryTally) : Prop := t.hasData = true ∧ 0 < t.denominator

instance (t : CategoryTally) : Decidable t.Counts := inferInstanceAs (Decidable (_ ∧ _))

/-- What one category adds to the average of a student. -/
structure UsedCategory where
  categoryId : ℕ
  weight : ℚ
  categoryScore : ℚ
  deriving DecidableEq, Repr

def usedCategory (policy : MissingGradePolicy) (weightMap : List (ℕ × ℚ)) (studentId : ℕ)
    (group : ℕ × List PeriodAssessment) : Option UsedCategory :=
  (weightMap.lookup group.1).bind fun weight =>
    let t := tallyCategory policy studentId group.2
    if t.Counts then some ⟨group.1,weight,t.numerator / t.denominator * 100⟩ else none

def PeriodBook.assessmentsByCategory : List (ℕ × List PeriodAssessment) :=
  groupBy PeriodAssessment.categoryId book.includedAssessments

def PeriodBook.usedCategories (weights : List CategoryWeight) (studentId : ℕ) : List UsedCategory :=
  book.assessmentsByCategory.filterMap
    (usedCategory book.missingGradePolicy (categoryWeightMap weights) studentId)

def usedWeight (used : List UsedCategory) : ℚ := (used.map UsedCategory.weight).sum

def weightedAverage (used : List UsedCategory) : ℚ :=
  if 0 < usedWeight used then (used.map fun u => u.categoryScore * u.weight).sum / usedWeight used else 0

/-- `used` is what the average was taken over; it is not stored. -/
structure PeriodGradeSnapshot where
  studentId : ℕ
  computedValue : ℚ
  displayValue : DisplayValue
  used : List UsedCategory
  deriving DecidableEq, Repr

def PeriodBook.snapshot (weights : List CategoryWeight) (studentId : ℕ) : PeriodGradeSnapshot :=
  let used := book.usedCategories weights studentId
  let computedValue := weightedAverage used
  { studentId := studentId
    computedValue := nearest (computedValue * 10000) / 10000
    displayValue := ((book.config.bind ClassSubjectGradeConfig.scale).map (applyGradingScale computedValue)).getD
      (displayPercent computedValue)
    used := used }

structure PeriodGradeResult where
  data : List PeriodGradeSnapshot
  warnings : List ComputationWarning
  assessmentsIncluded : ℕ
  missingGradePolicy : MissingGradePolicy
  formativeCapApplied : Bool
  deriving DecidableEq, Repr

def PeriodBook.categoryTypes : List (ℕ × AssessmentType) :=
  book.includedAssessments.map fun a => (a.categoryId,book.categoryType a.categoryId)

def PeriodBook.compute : Except ComputationError PeriodGradeResult := do
  ensure (!book.rawWeights.isEmpty) .gradeConfigNotFound
  ensure (!book.publishedAssessments.isEmpty) .noAssessments
  ensure (!book.enrolled.isEmpty) .noStudents
  ensure (!book.includedAssessments.isEmpty) .noSummativeAssessments
  let resolved ← resolveWeightsWithFormativeCap book.rawWeights book.categoryTypes book.settings.formativeWeightCap
  pure {
    data := book.enrolled.map (book.snapshot resolved.1)
    warnings := resolved.2
    assessmentsIncluded := book.includedAssessments.length
    missingGradePolicy := book.missingGradePolicy
    formativeCapApplied := book.settings.formativeWeightCap.isSome }

/-! ## The share of the formative categories -/

def PeriodBook.formativeUsed (used : List UsedCategory) : List UsedCategory :=
  used.filter fun u => book.categoryType u.categoryId = .formative

/-- The part of the weight used that is of formative categories. -/
def PeriodBook.formativeShare (used : List UsedCategory) : ℚ := usedWeight (book.formativeUsed used) / usedWeight used

/-- A graded summative assessment in a category of positive weight. -/
def PeriodBook.GradedSummative (studentId : ℕ) : Prop :=
  ∃ a ∈ book.publishedAssessments, book.categoryType a.categoryId = .summative ∧ (a.scoreOf studentId).isSome ∧
    ∃ w, (categoryWeightMap book.rawWeights).lookup a.categoryId = some w ∧ 0 < w

/-- The configured weight of the categories that count for the student. -/
def PeriodBook.countedWeight (studentId : ℕ) (type : AssessmentType) : ℚ :=
  ((book.assessmentsByCategory.filter fun g => book.categoryType g.1 = type).map fun g =>
    if (tallyCategory book.missingGradePolicy studentId g.2).Counts then
      ((categoryWeightMap book.rawWeights).lookup g.1).getD 0
    else 0).sum

/-- The configured weight of the categories that the cap takes for formative, and of the others. -/
def PeriodBook.configuredWeight (formative : Bool) : ℚ :=
  totalWeight (book.rawWeights.filter fun w => isFormative book.categoryTypes w.categoryId = formative)

/-- What a configured weight is multiplied by to make the weights sum up to 100. -/
def normalizingFactor (weightSum : ℚ) : ℚ := if 1 / 100 < |weightSum - 100| then 100 / weightSum else 1

/-- When a cap holds: in terms of the configured weights `f` and `s` of the formative and the summative
categories, and `fg` and `sg` of those among them that count for the student. -/
def WithinCap (cap f s fg sg : ℚ) : Prop :=
  0 ≤ cap ∧
    if normalizingFactor (f + s) * f ≤ cap then 100 * fg ≤ cap * (fg + sg)
    else cap = 0 ∨
      (cap < 100 → fg * s ≤ sg * f) ∧ (100 < cap → sg * f ≤ fg * s ∨ cap * (fg * s) ≤ (cap - 100) * (sg * f))

def PeriodBook.WithinCap (cap : ℚ) (studentId : ℕ) : Prop :=
  PeriodGrades.WithinCap cap (book.configuredWeight true) (book.configuredWeight false)
    (book.countedWeight studentId .formative) (book.countedWeight studentId .summative)

/-! ### Arithmetic -/

section Arithmetic
variable {cap f s fg sg n : ℚ}

theorem share_le_iff_of_uncapped (hn : 0 < n) (hfg : 0 ≤ fg) (hsg : 0 ≤ sg) :
    n * fg / (n * fg + n * sg) ≤ cap / 100 ↔ 0 ≤ cap ∧ 100 * fg ≤ cap * (fg + sg) := by
  rw [← mul_add,mul_div_mul_left _ _ hn.ne']
  rcases (add_nonneg hfg hsg).eq_or_lt with htotal | htotal
  · have hf : fg = 0 := by linarith
    have hs : sg = 0 := by linarith
    rw [hf,hs]
    constructor
    · intro h
      refine ⟨?_,by linarith⟩
      norm_num at h
      linarith
    · rintro ⟨h,-⟩
      norm_num
      linarith
  · rw [div_le_div_iff₀ htotal (by norm_num)]
    constructor
    · intro h
      have hcap : 0 ≤ cap * (fg + sg) := by linarith
      exact ⟨nonneg_of_mul_nonneg_left hcap htotal,by linarith⟩
    · rintro ⟨-,h⟩
      linarith

/-- The share of two amounts that the cap fixes the proportion of. -/
theorem share_le_iff_of_capped (hcap : 0 ≤ cap) {u v : ℚ} (hu : 0 ≤ u) (hv : 0 ≤ v) :
    cap * u / (cap * u + (100 - cap) * v) ≤ cap / 100 ↔
      cap = 0 ∨ (cap < 100 → u ≤ v) ∧ (100 < cap → v ≤ u ∨ cap * u ≤ (cap - 100) * v) := by
  rcases hcap.eq_or_lt with rfl | hcap
  · simp
  rw [or_iff_right hcap.ne']
  have hcu : 0 ≤ cap * u := mul_nonneg hcap.le hu
  rcases lt_or_ge 0 (cap * u + (100 - cap) * v) with htotal | htotal
  · rw [div_le_div_iff₀ htotal (by norm_num),← sub_nonneg]
    have heq : cap * (cap * u + (100 - cap) * v) - cap * u * 100 = cap * ((100 - cap) * (v - u)) := by ring
    rw [heq,mul_nonneg_iff_of_pos_left hcap]
    have hno : ¬cap * u ≤ (cap - 100) * v := by linarith
    rcases lt_trichotomy cap 100 with h | rfl | h
    · rw [mul_nonneg_iff_of_pos_left (by linarith)]
      exact ⟨fun huv => ⟨fun _ => by linarith,fun h' => by linarith⟩,fun huv => by linarith [huv.1 h]⟩
    · simp
    · have hneg : (100 - cap) * (v - u) = (cap - 100) * (u - v) := by ring
      rw [hneg,mul_nonneg_iff_of_pos_left (by linarith)]
      exact ⟨fun huv => ⟨fun h' => by linarith,fun _ => .inl (by linarith)⟩,
        fun huv => by linarith [(huv.2 h).resolve_right hno]⟩
  · have hle : cap * u / (cap * u + (100 - cap) * v) ≤ cap / 100 :=
      (div_nonpos_of_nonneg_of_nonpos hcu htotal).trans (by positivity)
    refine iff_of_true hle ⟨fun h => ?_,fun _ => .inr (by linarith)⟩
    -- below 100 nothing is used at all
    have hcv : 0 ≤ (100 - cap) * v := mul_nonneg (by linarith) hv
    have hu0 : cap * u = 0 := by linarith
    rw [(mul_eq_zero.mp hu0).resolve_left hcap.ne']
    exact hv

theorem withinCap_iff (hn : 0 < n) (hnf : n = normalizingFactor (f + s)) (hs : 0 < s) (hfg : 0 ≤ fg)
    (hsg : 0 ≤ sg) :
    WithinCap cap f s fg sg ↔
      if 0 ≤ cap ∧ cap < n * f then
        cap / f * fg / (cap / f * fg + (100 - cap) / s * sg) ≤ cap / 100
      else n * fg / (n * fg + n * sg) ≤ cap / 100 := by
  unfold WithinCap
  rw [← hnf]
  by_cases h : 0 ≤ cap ∧ cap < n * f
  · rw [if_pos h]
    obtain ⟨hcap,hlt⟩ := h
    have hpos : 0 < f := pos_of_mul_pos_right (hcap.trans_lt hlt) hn.le
    have hu : cap / f * fg = cap * (fg / f) := by ring
    have hv : (100 - cap) / s * sg = (100 - cap) * (sg / s) := by ring
    have hfs : 0 < f * s := mul_pos hpos hs
    rw [if_neg (not_le.mpr hlt),and_iff_right hcap,hu,hv,
      share_le_iff_of_capped hcap (div_nonneg hfg hpos.le) (div_nonneg hsg hs.le),div_le_div_iff₀ hpos hs,
      div_le_div_iff₀ hs hpos]
    have hmul : cap * (fg / f) ≤ (cap - 100) * (sg / s) ↔ cap * (fg * s) ≤ (cap - 100) * (sg * f) := by
      rw [← mul_le_mul_iff_of_pos_right hfs]
      have hl : cap * (fg / f) * (f * s) = cap * (fg * s) := by field_simp
      have hr : (cap - 100) * (sg / s) * (f * s) = (cap - 100) * (sg * f) := by field_simp
      rw [hl,hr]
    rw [hmul]
  · rw [if_neg h,share_le_iff_of_uncapped hn hfg hsg]
    apply and_congr_right
    intro hcap
    rw [if_pos (not_lt.mp fun hlt => h ⟨hcap,hlt⟩)]

theorem normalizingFactor_pos (h : 0 < f) : 0 < normalizingFactor f := by
  unfold normalizingFactor
  split
  · positivity
  · norm_num

end Arithmetic

/-! ### The weights that are resolved -/

section Weights
variable {raw ws : List CategoryWeight} {types : List (ℕ × AssessmentType)} {cap c : ℚ}

@[simp] theorem totalWeight_scale (ws : List CategoryWeight) (c : ℚ) :
    totalWeight (ws.map (.scale c)) = totalWeight ws * c := by
  induction ws with
  | nil => simp [totalWeight]
  | cons w ws ih =>
    simp only [totalWeight,List.map_cons,List.sum_cons] at ih ⊢
    rw [ih]
    simp only [CategoryWeight.scale]
    ring

theorem filter_scale (p : ℕ → Bool) (ws : List CategoryWeight) (c : ℚ) :
    (ws.map (CategoryWeight.scale c)).filter (fun w => p w.categoryId) =
      (ws.filter fun w => p w.categoryId).map (CategoryWeight.scale c) :=
  List.filter_map

theorem totalWeight_split (p : ℕ → Bool) (ws : List CategoryWeight) :
    totalWeight ws = totalWeight (ws.filter fun w => p w.categoryId) +
      totalWeight (ws.filter fun w => !p w.categoryId) := by
  induction ws with
  | nil => simp [totalWeight]
  | cons w ws ih =>
    simp only [totalWeight] at ih ⊢
    cases h : p w.categoryId <;> simp [h,ih] <;> ring

theorem lookup_scale (ws : List CategoryWeight) (c : ℚ) (k : ℕ) :
    (categoryWeightMap (ws.map (.scale c))).lookup k = ((categoryWeightMap ws).lookup k).map (· * c) := by
  rw [categoryWeightMap,List.map_map]
  have h := lookup_ofPairs_map (fun _ x => x * c) (ws.map fun w => (w.categoryId,w.weight)) k
  rw [List.map_map] at h
  exact h

theorem lookup_filter (p : ℕ → Bool) (ws : List CategoryWeight) (k : ℕ) :
    (categoryWeightMap (ws.filter fun w => p w.categoryId)).lookup k =
      if p k then (categoryWeightMap ws).lookup k else none := by
  have h := lookup_ofPairs_filter p (ws.map fun w => (w.categoryId,w.weight)) k
  rw [List.filter_map] at h
  exact h

theorem normalizeWeights_fst (raw : List CategoryWeight) :
    (normalizeWeights raw).1 = raw.map (.scale (normalizingFactor (totalWeight raw))) := by
  unfold normalizeWeights normalizingFactor
  by_cases h : 1 / 100 < |totalWeight raw - 100|
  · simp only [if_pos h]
    apply List.map_congr_left
    intro w _
    rw [CategoryWeight.scale,div_mul_eq_mul_div,mul_div_assoc]
  · have hid : CategoryWeight.scale 1 = id := by
      funext w
      rw [CategoryWeight.scale,mul_one]
      rfl
    rw [if_neg h,if_neg h,hid,List.map_id]

theorem lookup_applyFormativeCap {p : ℕ → Bool} (hs : 0 < totalWeight (ws.filter fun w => !p w.categoryId)) (k : ℕ) :
    (categoryWeightMap (applyFormativeCap p cap ws).1).lookup k = ((categoryWeightMap ws).lookup k).map fun w =>
      if cap < totalWeight (ws.filter fun w => p w.categoryId) then
        if p k then w * (cap / totalWeight (ws.filter fun w => p w.categoryId))
        else w * ((100 - cap) / totalWeight (ws.filter fun w => !p w.categoryId))
      else w := by
  unfold applyFormativeCap
  simp only [if_pos hs]
  by_cases h : cap < totalWeight (ws.filter fun w => p w.categoryId)
  · simp only [if_pos h]
    rw [categoryWeightMap,List.map_append,lookup_ofPairs_append]
    have hf := lookup_scale (ws.filter fun w => p w.categoryId) (cap / totalWeight (ws.filter fun w => p w.categoryId)) k
    have hg := lookup_scale (ws.filter fun w => !p w.categoryId)
      ((100 - cap) / totalWeight (ws.filter fun w => !p w.categoryId)) k
    rw [lookup_filter] at hf
    rw [lookup_filter fun i => !p i] at hg
    rw [categoryWeightMap] at hf hg
    rw [hf,hg]
    cases p k <;> simp
  · simp only [if_neg h]
    exact Option.map_id'.symm

theorem exists_mem_of_lookup {k : ℕ} {x : ℚ} (h : (categoryWeightMap ws).lookup k = some x) :
    ∃ w ∈ ws, w.categoryId = k ∧ w.weight = x := by
  obtain ⟨before,after,heq,-⟩ := List.lookup_eq_some_iff.mp h
  have hmem : (k,x) ∈ categoryWeightMap ws := heq ▸ List.mem_append_right before List.mem_cons_self
  obtain ⟨w,hw,he⟩ := List.mem_map.mp (mem_ofPairs hmem)
  exact ⟨w,hw,congrArg Prod.fst he,congrArg Prod.snd he⟩

/-- What a configured weight is multiplied by, given those of the formative categories and of the others. -/
def weightFactor (cap f s : ℚ) (formative : Bool) : ℚ :=
  if 0 ≤ cap ∧ cap < normalizingFactor (f + s) * f then if formative then cap / f else (100 - cap) / s
  else normalizingFactor (f + s)

theorem lookup_resolveWeights {f s : ℚ} {resolved : List CategoryWeight × List ComputationWarning}
    (h : resolveWeightsWithFormativeCap raw types (some cap) = .ok resolved)
    (hf : f = totalWeight (raw.filter fun w => isFormative types w.categoryId))
    (hs : s = totalWeight (raw.filter fun w => !isFormative types w.categoryId)) (hf0 : 0 ≤ f) (hs0 : 0 < s) (k : ℕ) :
    (categoryWeightMap resolved.1).lookup k =
      ((categoryWeightMap raw).lookup k).map (· * weightFactor cap f s (isFormative types k)) := by
  have htotal : totalWeight raw = f + s := by rw [totalWeight_split (isFormative types),← hf,← hs]
  have hn : 0 < normalizingFactor (f + s) := normalizingFactor_pos (by linarith)
  have hnorm : (normalizeWeights raw).1 = raw.map (.scale (normalizingFactor (f + s))) := by
    rw [normalizeWeights_fst,htotal]
  rw [resolveWeightsWithFormativeCap,ensure_bind_eq_ok] at h
  obtain ⟨-,h⟩ := h
  by_cases hcap : 0 ≤ cap
  · rw [Option.filter_some_pos (by simpa using hcap)] at h
    obtain rfl := pure_eq_ok.mp h
    have hfn := filter_scale (isFormative types) raw (normalizingFactor (f + s))
    have hsn := filter_scale (fun i => !isFormative types i) raw (normalizingFactor (f + s))
    rw [hnorm,lookup_applyFormativeCap,lookup_scale,hfn,hsn,totalWeight_scale,totalWeight_scale,← hf,← hs,Option.map_map]
    · congr 1
      funext w
      simp only [weightFactor,Function.comp_apply,and_iff_right hcap,mul_comm f]
      by_cases hlt : cap < normalizingFactor (f + s) * f
      · have hfpos : 0 < f := pos_of_mul_pos_right (hcap.trans_lt hlt) hn.le
        rw [if_pos hlt,if_pos hlt]
        cases isFormative types k
        · simp only [Bool.false_eq_true,if_false]
          field_simp
        · simp only [if_true]
          field_simp
      · rw [if_neg hlt,if_neg hlt]
    · rw [hsn,totalWeight_scale,← hs]
      exact mul_pos hs0 hn
  · rw [Option.filter_some_neg (by simpa using hcap)] at h
    obtain rfl := pure_eq_ok.mp h
    rw [hnorm,lookup_scale]
    simp [weightFactor,hcap]

end Weights

/-! ### What counts for a student -/

theorem PeriodBook.isFormative_categoryTypes {k : ℕ} (hk : k ∈ book.includedAssessments.map PeriodAssessment.categoryId) :
    isFormative book.categoryTypes k = decide (book.categoryType k = .formative) := by
  have htypes : book.categoryTypes =
      (book.includedAssessments.map fun a => (a.categoryId,())).map fun e => (e.1,book.categoryType e.1) := by
    rw [List.map_map]
    rfl
  have hkeys : k ∈ (ofPairs (book.includedAssessments.map fun a => (a.categoryId,()))).map Prod.fst := by
    rw [mem_keys_ofPairs,List.map_map]
    exact hk
  obtain ⟨u,hu⟩ := Option.isSome_iff_exists.mp (isSome_lookup_of_mem hkeys)
  rw [isFormative,htypes,lookup_ofPairs_map fun k _ => book.categoryType k,hu]
  simp

/-- A category of summative assessments never counts as formative. -/
theorem PeriodBook.isFormative_of_summative {k : ℕ} (hk : book.categoryType k = .summative) :
    isFormative book.categoryTypes k = false := by
  by_cases hmem : k ∈ book.includedAssessments.map PeriodAssessment.categoryId
  · rw [book.isFormative_categoryTypes hmem,hk]
    rfl
  · have hkeys : k ∉ (ofPairs book.categoryTypes).map Prod.fst := by
      rw [mem_keys_ofPairs,PeriodBook.categoryTypes,List.map_map]
      exact hmem
    rw [isFormative,lookup_eq_none_of_not_mem hkeys]
    rfl

theorem PeriodBook.mem_rawWeights_nonneg {w : CategoryWeight} (hw : w ∈ book.rawWeights) : 0 ≤ w.weight := by
  unfold PeriodBook.rawWeights at hw
  cases hc : book.weightConfig with
  | none =>
    rw [hc] at hw
    cases hw
  | some c =>
    rw [hc] at hw
    exact c.weight_nonneg w hw

theorem PeriodBook.lookup_rawWeights_nonneg (k : ℕ) : 0 ≤ ((categoryWeightMap book.rawWeights).lookup k).getD 0 := by
  cases h : (categoryWeightMap book.rawWeights).lookup k with
  | none => exact le_rfl
  | some x =>
    obtain ⟨w,hw,-,rfl⟩ := exists_mem_of_lookup h
    exact book.mem_rawWeights_nonneg hw

theorem PeriodBook.configuredWeight_nonneg (formative : Bool) : 0 ≤ book.configuredWeight formative := by
  apply List.sum_nonneg
  intro x hx
  obtain ⟨w,hw,rfl⟩ := List.mem_map.mp hx
  exact book.mem_rawWeights_nonneg (List.mem_filter.mp hw).1

theorem PeriodBook.countedWeight_nonneg (studentId : ℕ) (type : AssessmentType) :
    0 ≤ book.countedWeight studentId type := by
  apply List.sum_nonneg
  intro x hx
  obtain ⟨g,-,rfl⟩ := List.mem_map.mp hx
  split
  · exact book.lookup_rawWeights_nonneg g.1
  · exact le_rfl

theorem PeriodBook.configuredWeight_pos {studentId : ℕ} (h : book.GradedSummative studentId) :
    0 < book.configuredWeight false := by
  obtain ⟨a,-,htype,-,x,hx,hpos⟩ := h
  obtain ⟨w,hw,hid,rfl⟩ := exists_mem_of_lookup hx
  rw [← hid] at htype
  have hmem : w ∈ book.rawWeights.filter fun w => isFormative book.categoryTypes w.categoryId = false :=
    List.mem_filter.mpr ⟨hw,by simpa using book.isFormative_of_summative htype⟩
  refine hpos.trans_le (List.single_le_sum ?_ _ (List.mem_map_of_mem hmem))
  intro y hy
  obtain ⟨v,hv,rfl⟩ := List.mem_map.mp hy
  exact book.mem_rawWeights_nonneg (List.mem_filter.mp hv).1

theorem usedCategory_categoryId {policy : MissingGradePolicy} {weightMap : List (ℕ × ℚ)} {studentId : ℕ}
    {group : ℕ × List PeriodAssessment} {u : UsedCategory} (h : usedCategory policy weightMap studentId group = some u) :
    u.categoryId = group.1 := by
  obtain ⟨weight,-,hu⟩ := Option.bind_eq_some_iff.mp h
  dsimp only at hu
  split at hu
  · cases hu
    rfl
  · cases hu

/-- The weight used of the categories of one type, if all of these are scaled alike. -/
theorem PeriodBook.usedWeight_filter {ws : List CategoryWeight} {studentId : ℕ} {type : AssessmentType} {c : ℚ}
    (h : ∀ g ∈ book.assessmentsByCategory, book.categoryType g.1 = type →
      (categoryWeightMap ws).lookup g.1 = ((categoryWeightMap book.rawWeights).lookup g.1).map (· * c)) :
    usedWeight ((book.usedCategories ws studentId).filter fun u => book.categoryType u.categoryId = type) =
      c * book.countedWeight studentId type := by
  unfold PeriodBook.usedCategories PeriodBook.countedWeight
  generalize book.assessmentsByCategory = gs at h ⊢
  induction gs with
  | nil => simp [usedWeight]
  | cons g gs ih =>
    have ih := ih fun g' hg' => h g' (List.mem_cons_of_mem g hg')
    rw [List.filterMap_cons,List.filter_cons]
    by_cases htype : book.categoryType g.1 = type
    · have hg := h g List.mem_cons_self htype
      rw [if_pos (by simpa using htype),List.map_cons,List.sum_cons,mul_add,← ih]
      unfold usedCategory
      rw [hg]
      cases (categoryWeightMap book.rawWeights).lookup g.1 with
      | none => simp
      | some x =>
        by_cases ht : (tallyCategory book.missingGradePolicy studentId g.2).Counts
        · simp [ht,htype,usedWeight,mul_comm]
        · simp [ht]
    · rw [if_neg (by simpa using htype),← ih]
      cases hu : usedCategory book.missingGradePolicy (categoryWeightMap ws) studentId g with
      | none => rfl
      | some u =>
        have hid : u.categoryId = g.1 := usedCategory_categoryId hu
        simp [hid,htype]

theorem PeriodBook.usedWeight_split (used : List UsedCategory) :
    usedWeight used = usedWeight (used.filter fun u => book.categoryType u.categoryId = .formative) +
      usedWeight (used.filter fun u => book.categoryType u.categoryId = .summative) := by
  induction used with
  | nil => simp [usedWeight]
  | cons u used ih =>
    simp only [usedWeight] at ih ⊢
    rw [List.map_cons,List.sum_cons,ih]
    cases h : book.categoryType u.categoryId
    · simp [h,add_assoc]
    · simp [h]
      ring

theorem PeriodBook.categoryId_mem {g : ℕ × List PeriodAssessment} (hg : g ∈ book.assessmentsByCategory) :
    g.1 ∈ book.includedAssessments.map PeriodAssessment.categoryId := by
  obtain ⟨⟨a,ha,hid⟩,-⟩ := mem_groupBy.mp hg
  exact hid ▸ List.mem_map_of_mem ha

theorem PeriodBook.exists_of_mem_data {result : PeriodGradeResult} (h : book.compute = .ok result)
    {snapshot : PeriodGradeSnapshot} (hs : snapshot ∈ result.data) :
    ∃ resolved, resolveWeightsWithFormativeCap book.rawWeights book.categoryTypes book.settings.formativeWeightCap =
      .ok resolved ∧ snapshot = book.snapshot resolved.1 snapshot.studentId := by
  unfold PeriodBook.compute at h
  rw [ensure_bind_eq_ok,ensure_bind_eq_ok,ensure_bind_eq_ok,ensure_bind_eq_ok,bind_eq_ok] at h
  obtain ⟨-,-,-,-,resolved,hresolved,h⟩ := h
  obtain rfl := pure_eq_ok.mp h
  obtain ⟨studentId,-,rfl⟩ := List.mem_map.mp hs
  exact ⟨resolved,hresolved,rfl⟩

/-- The weight used of each type is the counted one, multiplied by the factor of the type. -/
theorem PeriodBook.usedWeight_snapshot {cap : ℚ} {resolved : List CategoryWeight × List ComputationWarning}
    (h : resolveWeightsWithFormativeCap book.rawWeights book.categoryTypes (some cap) = .ok resolved)
    (hs : 0 < book.configuredWeight false) (studentId : ℕ) (type : AssessmentType) :
    usedWeight ((book.usedCategories resolved.1 studentId).filter fun u => book.categoryType u.categoryId = type) =
      weightFactor cap (book.configuredWeight true) (book.configuredWeight false) (decide (type = .formative)) *
        book.countedWeight studentId type := by
  apply book.usedWeight_filter
  intro g hg htype
  have hf : book.configuredWeight true = totalWeight (book.rawWeights.filter fun w =>
      isFormative book.categoryTypes w.categoryId) := by simp [PeriodBook.configuredWeight]
  have hg' : book.configuredWeight false = totalWeight (book.rawWeights.filter fun w =>
      !isFormative book.categoryTypes w.categoryId) := by simp [PeriodBook.configuredWeight]
  rw [lookup_resolveWeights h hf hg' (book.configuredWeight_nonneg true) hs,
    book.isFormative_categoryTypes (book.categoryId_mem hg),htype]

/-- Homework (category 1) is formative, tests (2) and exams (3) are not; student 1 has no exam grade. -/
def halfFormative (cap : ℚ) : PeriodBook where
  yearGroupId := some 1
  yearGroupWeights _ := some ⟨[⟨1,50⟩,⟨2,25⟩,⟨3,25⟩],by decide⟩
  config := none
  settings := ⟨none,some cap,none⟩
  categoryType k := if k = 1 then .formative else .summative
  assessments := [⟨.closed,1,100,[⟨1,some 90⟩],by decide⟩,⟨.closed,2,100,[⟨1,some 60⟩],by decide⟩,
    ⟨.closed,3,100,[],by decide⟩]
  enrolled := [1]

def halfFormativeResult : PeriodGradeResult where
  data := [⟨1,771429 / 10000,.percent (3857 / 50),[⟨1,40,90⟩,⟨2,30,60⟩]⟩]
  warnings := [.formativeCapApplied 50 40]
  assessmentsIncluded := 3
  missingGradePolicy := .exclude
  formativeCapApplied := true

theorem compute_halfFormative : (halfFormative 40).compute = .ok halfFormativeResult := by
  decide +kernel

theorem gradedSummative_halfFormative (cap : ℚ) : (halfFormative cap).GradedSummative 1 := by
  refine ⟨⟨.closed,2,100,[⟨1,some 60⟩],by decide⟩,?_,rfl,rfl,25,?_,by norm_num⟩
  · simp [PeriodBook.publishedAssessments,halfFormative]
  · rfl

end EduPod.Gradebook.PeriodGrades
